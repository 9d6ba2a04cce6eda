import ReSymbol.Analysis.Session

/-! Sessions are modular over plugin runs.

    What a session checks of a claim reads the base analysis, the run that the claim names, and the
    data references of all claims. The first does not depend on other plugins; the second is found
    among the runs of the same result, since no two results share a run identifier; the third only
    grows when claims are added. The ledger of a run counts the claims that name it, and those are
    claims of the same result. -/

namespace ReSymbol.Analysis
open Schemes ReSymbol.Core Debugger

/-! ### What a valid session is -/

/-- The run accounts for the claim. -/
structure PluginRunRecord.Owns (run : PluginRunRecord) (claim : SymbolClaim) : Prop where
  producer : claim.provenance.producer = .plugin run.pluginId run.pluginVersion
  runId : claim.provenance.runId = some run.runId
  successful : run.status.isSuccessful = true

/-- The number of claims that name a run. -/
def claimsNaming (runId : String) (claims : List SymbolClaim) : ℕ :=
  claims.countP (·.provenance.runId = some runId)

/-- Everything that the validation of a session asks for. -/
structure AnalysisSession.Valid [FormatValidator] [VersionSyntax] (session : AnalysisSession) :
    Prop where
  base : session.baseAnalysis.validate = .ok ()
  runs : ∀ run ∈ session.pluginRuns, run.validate = .ok ()
  distinct : (session.pluginRuns.map (·.runId)).Nodup
  claims : ∀ claim ∈ session.pluginClaims,
    validateAgainstBase session.baseAnalysis claim = .ok ()
  owned : ∀ claim ∈ session.pluginClaims, ∃ run ∈ session.pluginRuns, run.Owns claim
  companions : ∀ claim ∈ session.pluginClaims,
    validatePointerCallCompanion claim session.companionKeys = .ok ()
  ledger : ∀ run ∈ session.pluginRuns,
    run.acceptedClaimCount.toNat = claimsNaming run.runId session.pluginClaims

/-! ### The loops of the validation -/

theorem foldlM_addRun_eq_ok [VersionSyntax] {runs seen table : List PluginRunRecord} :
    runs.foldlM addRun seen = .ok table ↔ table = seen ++ runs ∧
      (∀ run ∈ runs, run.validate = .ok ()) ∧
        (∀ run ∈ runs, run.runId ∉ seen.map (·.runId)) ∧ (runs.map (·.runId)).Nodup := by
  induction runs generalizing seen with
  | nil => simp [pure, Except.pure, eq_comm]
  | cons run runs ih =>
    have hids : ∀ id, id ∈ (seen ++ [run]).map (·.runId) ↔
        id ∈ seen.map (·.runId) ∨ id = run.runId := by
      intro id
      rw [List.map_append, List.mem_append, List.map_singleton, List.mem_singleton]
    simp only [List.foldlM_cons, addRun, except_bind_eq_ok, refuseIf_eq_ok, pure, Except.pure,
      Except.ok.injEq, ih, List.forall_mem_cons, List.map_cons, List.nodup_cons]
    constructor
    · rintro ⟨_, ⟨_, hrun, _, hfresh, rfl⟩, rfl, hruns, hlater, hnodup⟩
      refine ⟨by simp, ⟨hrun, hruns⟩, ⟨hfresh, fun r hr hin => ?_⟩, fun hin => ?_, hnodup⟩
      · exact hlater r hr ((hids _).mpr (.inl hin))
      · obtain ⟨r, hr, hid⟩ := List.mem_map.mp hin
        exact hlater r hr ((hids _).mpr (.inr hid))
    · rintro ⟨rfl, ⟨hrun, hruns⟩, ⟨hfresh, hlater⟩, hnew, hnodup⟩
      refine ⟨seen ++ [run], ⟨(), hrun, (), hfresh, rfl⟩, by simp, hruns,
        fun r hr hin => ?_, hnodup⟩
      rcases (hids _).mp hin with hold | hid
      · exact hlater r hr hold
      · exact hnew (hid ▸ List.mem_map_of_mem hr)

/-- Among runs with distinct identifiers the owner of a claim is the run that accounts for it. -/
theorem ownerOf_eq_ok {runs : List PluginRunRecord} (hnodup : (runs.map (·.runId)).Nodup)
    {claim : SymbolClaim} {run : PluginRunRecord} :
    ownerOf runs claim = .ok run ↔ run ∈ runs ∧ run.Owns claim := by
  constructor
  · intro h
    rw [ownerOf] at h
    split at h
    · rename_i producerId producerVersion hproducer
      split at h
      · cases h
      · rename_i runId hrunId
        split at h
        · cases h
        · rename_i found hfound
          simp only [except_bind_eq_ok, refuseIf_eq_ok, pure, Except.pure, Except.ok.injEq] at h
          obtain ⟨_, hstatus, _, hsame, rfl⟩ := h
          push Not at hsame
          have hid : found.runId = runId := by simpa using List.find?_some hfound
          exact ⟨List.mem_of_find?_eq_some hfound, by rw [hproducer, hsame.1, hsame.2],
            by rw [hrunId, hid], by simpa using hstatus⟩
    · cases h
    · cases h
  · rintro ⟨hmem, hproducer, hrunId, hstatus⟩
    have hfind : runs.find? (·.runId = run.runId) = some run := by
      cases hfound : runs.find? (·.runId = run.runId) with
      | none => exact absurd (by simp) (List.find?_eq_none.mp hfound run hmem)
      | some found =>
        have hid : found.runId = run.runId := by simpa using List.find?_some hfound
        rw [List.inj_on_of_nodup_map hnodup (List.mem_of_find?_eq_some hfound) hmem hid]
    simp [ownerOf, hproducer, hrunId, hfind, hstatus, refuseIf, except_ok_bind]

theorem claimsNaming_singleton {run : PluginRunRecord} {claim : SymbolClaim} (h : run.Owns claim)
    (id : String) : claimsNaming id [claim] = if id = run.runId then 1 else 0 := by
  simp [claimsNaming, List.countP_singleton, h.runId, eq_comm]

/-- One claim is accepted and counted. -/
theorem acceptClaim_eq_ok {base : BinaryAnalysis} {runs : List PluginRunRecord}
    (hnodup : (runs.map (·.runId)).Nodup) {counts counts' : String → ℕ} {claim : SymbolClaim}
    {index : ℕ} : acceptClaim base runs counts (claim, index) = .ok counts' ↔
      validateAgainstBase base claim = .ok () ∧ (∃ run ∈ runs, run.Owns claim ∧
        counts run.runId + 1 < 2 ^ 64) ∧ counts' = fun id => counts id + claimsNaming id
          [claim] := by
  simp only [acceptClaim, except_bind_eq_ok, mapError_eq_ok, ownerOf_eq_ok hnodup, refuseIf_eq_ok,
    pure, Except.pure, Except.ok.injEq, not_le]
  have hcounts : ∀ run : PluginRunRecord, run.Owns claim →
      Function.update counts run.runId (counts run.runId + 1) =
        fun id => counts id + claimsNaming id [claim] := by
    intro run howns
    funext id
    rw [claimsNaming_singleton howns, Function.update_apply]
    split_ifs with hid
    · rw [hid]
    · rfl
  constructor
  · rintro ⟨_, hbase, run, ⟨hrun, howns⟩, _, hfits, rfl⟩
    exact ⟨hbase, ⟨run, hrun, howns, hfits⟩, hcounts run howns⟩
  · rintro ⟨hbase, ⟨run, hrun, howns, hfits⟩, rfl⟩
    exact ⟨(), hbase, run, ⟨hrun, howns⟩, (), hfits, hcounts run howns⟩

theorem claimsNaming_cons (id : String) (claim : SymbolClaim) (claims : List SymbolClaim) :
    claimsNaming id (claim :: claims) = claimsNaming id [claim] + claimsNaming id claims := by
  rw [← List.singleton_append, claimsNaming, List.countP_append]
  rfl

theorem foldlM_acceptClaim_eq_ok {base : BinaryAnalysis} {runs : List PluginRunRecord}
    (hnodup : (runs.map (·.runId)).Nodup) {claims : List SymbolClaim} {start : ℕ}
    {counts counts' : String → ℕ} (hcounts : ∀ id, counts id < 2 ^ 64) :
    (claims.zipIdx start).foldlM (acceptClaim base runs) counts = .ok counts' ↔
      (∀ claim ∈ claims, validateAgainstBase base claim = .ok ()) ∧
        (∀ claim ∈ claims, ∃ run ∈ runs, run.Owns claim) ∧
          (∀ id, counts id + claimsNaming id claims < 2 ^ 64) ∧
            counts' = fun id => counts id + claimsNaming id claims := by
  induction claims generalizing start counts with
  | nil => simpa [pure, Except.pure, claimsNaming, eq_comm] using fun _ => hcounts
  | cons claim claims ih =>
    rw [List.zipIdx_cons, List.foldlM_cons, except_bind_eq_ok]
    simp only [acceptClaim_eq_ok hnodup, List.forall_mem_cons, claimsNaming_cons _ claim claims]
    constructor
    · rintro ⟨_, ⟨hbase, ⟨run, hrun, howns, hfits⟩, rfl⟩, hrest⟩
      have hnext : ∀ id, counts id + claimsNaming id [claim] < 2 ^ 64 := by
        intro id
        rw [claimsNaming_singleton howns]
        split_ifs with hid
        · rwa [hid]
        · exact hcounts id
      obtain ⟨hclaims, howners, hsmall, rfl⟩ := (ih hnext).mp hrest
      refine ⟨⟨hbase, hclaims⟩, ⟨⟨run, hrun, howns⟩, howners⟩, fun id => ?_, ?_⟩
      · rw [← Nat.add_assoc]
        exact hsmall id
      · funext id
        rw [Nat.add_assoc]
    · rintro ⟨⟨hbase, hclaims⟩, ⟨⟨run, hrun, howns⟩, howners⟩, hsmall, rfl⟩
      have hnext : ∀ id, counts id + claimsNaming id [claim] < 2 ^ 64 := by
        intro id
        have := hsmall id
        omega
      have hfits : counts run.runId + 1 < 2 ^ 64 := by
        simpa [claimsNaming_singleton howns] using hnext run.runId
      refine ⟨_, ⟨hbase, ⟨run, hrun, howns, hfits⟩, rfl⟩,
        (ih hnext).mpr ⟨hclaims, howners, fun id => ?_, ?_⟩⟩
      · rw [Nat.add_assoc]
        exact hsmall id
      · funext id
        rw [Nat.add_assoc]

namespace AnalysisSession

variable [FormatValidator] [VersionSyntax]

theorem validate_eq_ok {session : AnalysisSession} {u : Unit} :
    session.validate = .ok u ↔ session.Valid := by
  have hzero : ∀ id : String, (fun _ => 0 : String → ℕ) id < 2 ^ 64 := fun _ => Nat.two_pow_pos 64
  simp only [validate, except_bind_eq_ok, mapError_eq_ok, foldlM_addRun_eq_ok, List.nil_append,
    forM_eq_ok, refuseIf_eq_ok, not_not]
  constructor
  · rintro ⟨_, hbase, table, ⟨rfl, hruns, -, hdistinct⟩, counts, haccept, _, hcompanions, hledger⟩
    obtain ⟨hclaims, howned, -, rfl⟩ := (foldlM_acceptClaim_eq_ok hdistinct hzero).mp haccept
    refine ⟨hbase, hruns, hdistinct, hclaims, howned, fun claim hclaim => ?_, fun run hrun => ?_⟩
    · obtain ⟨entry, hentry, rfl⟩ : ∃ entry ∈ session.pluginClaims.zipIdx, entry.1 = claim := by
        rwa [← List.zipIdx_map_fst 0 session.pluginClaims, List.mem_map] at hclaim
      exact hcompanions entry hentry
    · exact (hledger run hrun).trans (Nat.zero_add _)
  · intro h
    have hsmall : ∀ id, 0 + claimsNaming id session.pluginClaims < 2 ^ 64 := by
      intro id
      by_cases hnone : claimsNaming id session.pluginClaims = 0
      · rw [hnone]
        decide
      · obtain ⟨claim, hclaim, hid⟩ := List.countP_pos_iff.mp (Nat.pos_of_ne_zero hnone)
        obtain ⟨run, hrun, howns⟩ := h.owned claim hclaim
        obtain rfl : run.runId = id := by simpa [howns.runId] using hid
        rw [Nat.zero_add, ← h.ledger run hrun]
        exact run.acceptedClaimCount.toNat_lt
    refine ⟨(), h.base, _, ⟨rfl, h.runs, by simp, h.distinct⟩, _,
      (foldlM_acceptClaim_eq_ok h.distinct hzero).mpr ⟨h.claims, h.owned, hsmall, rfl⟩, (),
      fun entry hentry => ?_, fun run hrun => ?_⟩
    · exact h.companions entry.1 (List.fst_mem_of_mem_zipIdx hentry)
    · exact (h.ledger run hrun).trans (Nat.zero_add _).symm

end AnalysisSession

/-! ### Results of plugins -/

/-- What one plugin adds to a session. -/
structure PluginResult where
  runs : List PluginRunRecord
  claims : List SymbolClaim

namespace PluginResult

/-- The result alone with the base. -/
def onBase (base : BinaryAnalysis) (result : PluginResult) : AnalysisSession :=
  ⟨base, result.runs, result.claims⟩

def runIds (result : PluginResult) : List String := result.runs.map (·.runId)

/-- The results have no run identifier in common. -/
def Apart (a b : PluginResult) : Prop := a.runIds.Disjoint b.runIds

theorem Apart.symm {a b : PluginResult} (h : a.Apart b) : b.Apart a := List.Disjoint.symm h

end PluginResult

/-- The session without the runs of a result and the claims that name them. -/
def AnalysisSession.without (session : AnalysisSession)
    (result : PluginResult) : AnalysisSession where
  baseAnalysis := session.baseAnalysis
  pluginRuns := session.pluginRuns.filter (·.runId ∉ result.runIds)
  pluginClaims := session.pluginClaims.filter fun claim =>
    claim.provenance.runId.all (· ∉ result.runIds)

/-- A call through a slot keeps its companion when claims are added. -/
theorem validatePointerCallCompanion_mono {claim : SymbolClaim}
    {keys keys' : List (UInt64 × UInt64 × UInt64)} (hsub : keys ⊆ keys')
    (h : validatePointerCallCompanion claim keys = .ok ()) :
    validatePointerCallCompanion claim keys' = .ok () := by
  rw [validatePointerCallCompanion] at h ⊢
  split at h
  · rw [refuseIf_eq_ok, not_not] at h ⊢
    exact hsub h
  · rfl

/-- Filtering away one part of a concatenation. -/
theorem filter_flatMap_without {α β : Type} {before after : List α} {x : α} {f : α → List β}
    {p : β → Bool} (hx : ∀ y ∈ f x, ¬ p y) (hkeep : ∀ z ∈ before ++ after, ∀ y ∈ f z, p y) :
    ((before ++ x :: after).flatMap f).filter p = (before ++ after).flatMap f := by
  have hself : ∀ zs, zs ⊆ before ++ after → (zs.flatMap f).filter p = zs.flatMap f := by
    intro zs hsub
    rw [List.filter_eq_self]
    intro y hy
    obtain ⟨z, hz, hy⟩ := List.mem_flatMap.mp hy
    exact hkeep z (hsub hz) y hy
  rw [List.flatMap_append, List.flatMap_cons, List.filter_append, List.filter_append,
    List.filter_eq_nil_iff.mpr hx, List.nil_append, hself before (List.subset_append_left _ _),
    hself after (List.subset_append_right _ _), ← List.flatMap_append]

section Family

variable [FormatValidator] [VersionSyntax] {base : BinaryAnalysis} {family : List PluginResult}
  (hbase : base.validate = .ok ()) (heach : ∀ result ∈ family, (result.onBase base).Valid)
  (hapart : family.Pairwise PluginResult.Apart)

include heach in
/-- The claims of a result name its own runs only. -/
theorem runId_mem_of_claim {result : PluginResult} (hresult : result ∈ family) {claim : SymbolClaim}
    (hclaim : claim ∈ result.claims) :
    ∃ id ∈ result.runIds, claim.provenance.runId = some id := by
  obtain ⟨run, hrun, howns⟩ := (heach result hresult).owned claim hclaim
  exact ⟨run.runId, List.mem_map_of_mem hrun, howns.runId⟩

include heach hapart in
/-- Other results add nothing to the ledger of a run. -/
theorem claimsNaming_flatMap {result : PluginResult} (hresult : result ∈ family) {id : String}
    (hid : id ∈ result.runIds) :
    claimsNaming id (family.flatMap (·.claims)) = claimsNaming id result.claims := by
  obtain ⟨before, after, rfl⟩ := List.append_of_mem hresult
  have hother : ∀ others : List PluginResult, others ⊆ before ++ result :: after →
      (∀ other ∈ others, other.Apart result) →
        claimsNaming id (others.flatMap (·.claims)) = 0 := by
    intro others hsub hothers
    rw [claimsNaming, List.countP_eq_zero]
    intro claim hclaim
    obtain ⟨other, hmem, hclaim⟩ := List.mem_flatMap.mp hclaim
    obtain ⟨id', hid', hrunId⟩ := runId_mem_of_claim heach (hsub hmem) hclaim
    rw [hrunId]
    simp only [Option.some.injEq, decide_eq_true_eq]
    rintro rfl
    exact hothers other hmem hid' hid
  obtain ⟨-, hafter, hcross⟩ := List.pairwise_append.mp hapart
  have hbefore := hother before (List.subset_append_left _ _) fun other hmem =>
    hcross other hmem result List.mem_cons_self
  have hlater := hother after
    (fun other hmem => List.mem_append_right _ (List.mem_cons_of_mem _ hmem))
    fun other hmem => ((List.pairwise_cons.mp hafter).1 other hmem).symm
  rw [claimsNaming] at hbefore hlater ⊢
  rw [List.flatMap_append, List.flatMap_cons, List.countP_append, List.countP_append, hbefore,
    hlater, claimsNaming]
  omega

include hbase heach hapart in
/-- Results that share no run identifier form a valid session together, in whatever order. -/
theorem valid_of_family {runs : List PluginRunRecord} {claims : List SymbolClaim}
    (hruns : runs.Perm (family.flatMap (·.runs)))
    (hclaims : claims.Perm (family.flatMap (·.claims))) :
    (AnalysisSession.mk base runs claims).Valid := by
  have hrun : ∀ {run}, run ∈ runs ↔ ∃ result ∈ family, run ∈ result.runs := fun {run} =>
    hruns.mem_iff.trans List.mem_flatMap
  have hclaim : ∀ {claim}, claim ∈ claims ↔ ∃ result ∈ family, claim ∈ result.claims :=
    fun {claim} => hclaims.mem_iff.trans List.mem_flatMap
  refine ⟨hbase, ?_, ?_, ?_, ?_, ?_, ?_⟩
  · intro run hin
    obtain ⟨result, hresult, hin⟩ := hrun.mp hin
    exact (heach result hresult).runs run hin
  · rw [(hruns.map _).nodup_iff, List.map_flatMap, List.nodup_flatMap]
    exact ⟨fun result hresult => (heach result hresult).distinct, hapart⟩
  · intro claim hin
    obtain ⟨result, hresult, hin⟩ := hclaim.mp hin
    exact (heach result hresult).claims claim hin
  · intro claim hin
    obtain ⟨result, hresult, hin⟩ := hclaim.mp hin
    obtain ⟨run, hmem, howns⟩ := (heach result hresult).owned claim hin
    exact ⟨run, hrun.mpr ⟨result, hresult, hmem⟩, howns⟩
  · intro claim hin
    obtain ⟨result, hresult, hin⟩ := hclaim.mp hin
    refine validatePointerCallCompanion_mono ?_ ((heach result hresult).companions claim hin)
    apply List.filterMap_subset
    exact List.append_subset.mpr ⟨List.subset_append_left _ _, fun c hc =>
      List.mem_append_right _ (hclaim.mpr ⟨result, hresult, hc⟩)⟩
  · intro run hin
    obtain ⟨result, hresult, hin⟩ := hrun.mp hin
    rw [(heach result hresult).ledger run hin, claimsNaming, claimsNaming, hclaims.countP_eq]
    exact (claimsNaming_flatMap heach hapart hresult (List.mem_map_of_mem hin)).symm

include hbase heach hapart in
/-- Taking one result away leaves a valid session of the others. -/
theorem valid_without {runs : List PluginRunRecord} {claims : List SymbolClaim}
    (hruns : runs.Perm (family.flatMap (·.runs)))
    (hclaims : claims.Perm (family.flatMap (·.claims)))
    {result : PluginResult} (hresult : result ∈ family) :
    ((AnalysisSession.mk base runs claims).without result).Valid := by
  obtain ⟨before, after, rfl⟩ := List.append_of_mem hresult
  have hsub : ∀ other ∈ before ++ after, other ∈ before ++ result :: after := by
    intro other hmem
    rcases List.mem_append.mp hmem with hin | hin
    · exact List.mem_append_left _ hin
    · exact List.mem_append_right _ (List.mem_cons_of_mem _ hin)
  obtain ⟨hbefore, hafter, hcross⟩ := List.pairwise_append.mp hapart
  have hothers : ∀ other ∈ before ++ after, other.Apart result := by
    intro other hmem
    rcases List.mem_append.mp hmem with hin | hin
    · exact hcross other hin result List.mem_cons_self
    · exact ((List.pairwise_cons.mp hafter).1 other hin).symm
  have hapart' : (before ++ after).Pairwise PluginResult.Apart :=
    List.pairwise_append.mpr ⟨hbefore, (List.pairwise_cons.mp hafter).2, fun a ha b hb =>
      hcross a ha b (List.mem_cons_of_mem _ hb)⟩
  refine valid_of_family hbase (fun other hmem => heach other (hsub other hmem)) hapart' ?_ ?_
  · refine (hruns.filter _).trans (List.Perm.of_eq (filter_flatMap_without ?_ ?_))
    · intro run hrun
      have hid : run.runId ∈ result.runIds := List.mem_map_of_mem hrun
      simpa using hid
    · intro other hmem run hrun
      simpa using fun hin => hothers other hmem (List.mem_map_of_mem hrun) hin
  · refine (hclaims.filter _).trans (List.Perm.of_eq (filter_flatMap_without ?_ ?_))
    · intro claim hclaim
      obtain ⟨id, hid, hrunId⟩ := runId_mem_of_claim heach hresult hclaim
      simp [hrunId, hid]
    · intro other hmem claim hclaim
      obtain ⟨id, hid, hrunId⟩ := runId_mem_of_claim heach (hsub other hmem) hclaim
      simpa [hrunId] using fun hin => hothers other hmem hid hin

end Family

/-! ### The combined graph -/

/-- Claims on a known binary are appended one after the other. -/
theorem foldlM_submitClaim {graph : SymbolGraph} {claims : List SymbolClaim}
    (h : ∀ claim ∈ claims, claim.validate = .ok () ∧
      graph.binaries.contains claim.subject.binary = true) :
    claims.foldlM (fun graph claim => (graph.submitClaim claim).mapError
      SessionValidationError.combinedGraph) graph =
        .ok { graph with claims := graph.claims ++ claims } := by
  induction claims generalizing graph with
  | nil => simp [pure, Except.pure]
  | cons claim claims ih =>
    obtain ⟨⟨hvalid, hknown⟩, hrest⟩ := List.forall_mem_cons.mp h
    have hsubmit : graph.submitClaim claim = .ok
      { graph with claims := graph.claims ++ [claim] } := by
      simp [SymbolGraph.submitClaim, hvalid, hknown, Except.mapError, bind, Except.bind, pure,
        Except.pure]
    rw [List.foldlM_cons, hsubmit]
    have hgraph := @ih { graph with claims := graph.claims ++ [claim] } hrest
    rw [List.append_assoc, List.singleton_append] at hgraph
    exact hgraph

section Combined

variable [FormatValidator] [VersionSyntax]

omit [VersionSyntax] in
theorem contains_of_validate {base : BinaryAnalysis} (h : base.validate = .ok ()) :
    base.symbolGraph.binaries.contains base.identity.id = true := by
  simp only [BinaryAnalysis.validate, except_bind_eq_ok, refuseIf_eq_ok, not_not] at h
  obtain ⟨-, -, hlist⟩ := h
  have hmem : (base.identity.id, base.identity) ∈ base.symbolGraph.binaries.toList := by
    rw [hlist]
    exact List.mem_singleton_self _
  have hget := Std.ExtTreeMap.mem_toList_iff_getElem?_eq_some.mp hmem
  rw [Std.ExtTreeMap.contains_eq_isSome_getElem?, hget, Option.isSome_some]

theorem combinedSymbolGraph_of_valid {session : AnalysisSession} (h : session.Valid) :
    session.combinedSymbolGraph = .ok { session.baseAnalysis.symbolGraph with
      claims := session.baseAnalysis.symbolGraph.claims ++ session.pluginClaims } := by
  rw [AnalysisSession.combinedSymbolGraph, @AnalysisSession.validate_eq_ok _ _ _ () |>.mpr h,
    except_ok_bind]
  refine foldlM_submitClaim fun claim hclaim => ?_
  have hchecked := h.claims claim hclaim
  simp only [validateAgainstBase, except_bind_eq_ok, mapError_eq_ok, refuseIf_eq_ok, not_not]
    at hchecked
  obtain ⟨_, hvalid, _, hbinary, -⟩ := hchecked
  exact ⟨hvalid, by rw [hbinary]; exact contains_of_validate h.base⟩

/-- CORRECT (modular sessions): results that are valid with the base alone and share no run
    identifier are valid together, in any order of their runs and of their claims; the combined
    graph holds the claims of the base and then theirs; and any one of them can be taken away
    again. -/
theorem sessions_modular {base : BinaryAnalysis} {family : List PluginResult}
    (hbase : base.validate = .ok ())
    (heach : ∀ result ∈ family, (result.onBase base).validate = .ok ())
    (hapart : family.Pairwise PluginResult.Apart) {runs : List PluginRunRecord}
    {claims : List SymbolClaim} (hruns : runs.Perm (family.flatMap (·.runs)))
    (hclaims : claims.Perm (family.flatMap (·.claims))) :
    (AnalysisSession.mk base runs claims).validate = .ok () ∧
      (AnalysisSession.mk base runs claims).combinedSymbolGraph =
        .ok { base.symbolGraph with claims := base.symbolGraph.claims ++ claims } ∧
      ∀ result ∈ family,
        ((AnalysisSession.mk base runs claims).without result).validate = .ok () := by
  have heach : ∀ result ∈ family, (result.onBase base).Valid := fun result hresult =>
    AnalysisSession.validate_eq_ok.mp (heach result hresult)
  have hvalid := valid_of_family hbase heach hapart hruns hclaims
  refine ⟨AnalysisSession.validate_eq_ok.mpr hvalid, combinedSymbolGraph_of_valid hvalid,
    fun result hresult => ?_⟩
  exact AnalysisSession.validate_eq_ok.mpr (valid_without hbase heach hapart hruns hclaims hresult)

end Combined

/-! ### Two plugins on a small image -/

namespace SampleSession

def binary : BinaryIdentity where
  id := ⟨String.ofList (List.replicate 64 'a'), by decide +kernel⟩
  size := 0x1000
  format := .pe
  architecture := "x86_64"
  imageBase := 0x140000000

def base : BinaryAnalysis where
  identity := binary
  symbolGraph := ⟨(∅ : Std.ExtTreeMap BinaryId BinaryIdentity).insert binary.id binary, []⟩
  model := .pe 0x1000 [] [] []

def run (id : PluginId) (runId : String) : PluginRunRecord :=
  ⟨id, "1.0.0", runId, String.ofList (List.replicate 64 '0'), .succeeded, 1⟩

def claim (id : PluginId) (runId : String) : SymbolClaim where
  subject := .function binary.id 0x10 none
  assertion := .functionEntry
  confidence := .none
  evidence := [⟨⟨"analysis", by decide +kernel⟩, "prologue", none, ∅⟩]
  provenance := ⟨.plugin id "1.0.0", "scan", some runId⟩

def first : PluginId := ⟨"first.plugin", by decide +kernel⟩

def second : PluginId := ⟨"second.plugin", by decide +kernel⟩

def resultOf (id : PluginId) (runId : String) : PluginResult := ⟨[run id runId], [claim id runId]⟩

local instance acceptsModels : FormatValidator := ⟨fun _ => .ok ()⟩

local instance anyVersion : VersionSyntax := ⟨some⟩

theorem base_valid : base.validate = .ok () := by decide +kernel

theorem first_valid : ((resultOf first "run-1").onBase base).validate = .ok () := by decide +kernel

theorem second_valid : ((resultOf second "run-2").onBase base).validate = .ok () := by
  decide +kernel

/-- Both results at once, the second plugin first. -/
theorem sessions_modular_two :
    (AnalysisSession.mk base [run second "run-2", run first "run-1"]
      [claim second "run-2", claim first "run-1"]).validate = .ok () ∧
      (AnalysisSession.mk base [run second "run-2"] [claim second "run-2"]).validate = .ok () := by
  have heach : ∀ result ∈ [resultOf first "run-1", resultOf second "run-2"],
      (result.onBase base).validate = .ok () := by
    simpa using ⟨first_valid, second_valid⟩
  have hapart : [resultOf first "run-1", resultOf second "run-2"].Pairwise PluginResult.Apart := by
    simp [PluginResult.Apart, PluginResult.runIds, resultOf, run]
  obtain ⟨hvalid, -, hwithout⟩ := sessions_modular base_valid heach hapart
    (List.Perm.swap (run first "run-1") (run second "run-2") [])
    (List.Perm.swap (claim first "run-1") (claim second "run-2") [])
  refine ⟨hvalid, ?_⟩
  have hleft := hwithout (resultOf first "run-1") List.mem_cons_self
  simpa [AnalysisSession.without, PluginResult.runIds, resultOf, run, claim] using hleft

end SampleSession

end ReSymbol.Analysis
