import ReSymbol.PluginState.Fingerprint

/-! The fingerprint binds the directory.

    A walk that comes through leaves one entry for everything below the root beside the sentinel.
    The entries are told apart by their joined paths, so that sorting puts them in one order, and
    each is hashed in a form that marks its own end. Therefore the hashed bytes of two directories
    agree exactly when the directories hold the same things at the same paths, and the order in
    which a directory is listed is forgotten by the sorting.

        tree ──walk──▶ entries ──sort──▶ records ──▶ bytes        each step one-to-one -/

namespace ReSymbol.PluginState
open Schemes

/-! ### Trees -/

namespace PluginTree

/-- A path of names, each listed in the directory in front of it. -/
def Holds (tree : PluginTree) : List String → List String → Prop
  | _, [] => True
  | directory, name :: rest =>
    some name ∈ tree.readDir directory ∧
      (rest = [] ∨ tree.kind (directory ++ [name]) = .directory) ∧
        tree.Holds (directory ++ [name]) rest

/-- Something stands at the path below the root. -/
def Exists (tree : PluginTree) (path : List String) : Prop := path ≠ [] ∧ tree.Holds [] path

/-- The entry is the file that switches the plugin off. -/
def isSentinel (tree : PluginTree) (name : Option String) : Bool :=
  match name with
  | some name => name = disabledSentinel && match tree.kind [name] with
    | .file _ => true
    | _ => false
  | none => false

/-- The tree without a regular file `plugin.disabled` at the root. -/
def withoutSentinel (tree : PluginTree) : PluginTree where
  readDir path :=
    if path = [] then (tree.readDir []).filter fun name => !tree.isSentinel name
    else tree.readDir path
  kind := tree.kind
  distinct path := by
    split_ifs with hroot
    · exact (List.filter_sublist.filterMap id).nodup (tree.distinct [])
    · exact tree.distinct path
  named path name := by
    split_ifs with hroot
    · exact fun h => tree.named [] name (List.mem_filter.mp h).1
    · exact tree.named path name

/-- The same things stand at the same paths. -/
def Same (a b : PluginTree) : Prop :=
  ∀ path kind, a.Exists path ∧ a.kind path = kind ↔ b.Exists path ∧ b.kind path = kind

/-- Another listing of the same directories. -/
structure Relisted (a b : PluginTree) : Prop where
  readDir : ∀ path, (a.readDir path).Perm (b.readDir path)
  kind : a.kind = b.kind

theorem Holds.named {tree : PluginTree} {directory path : List String}
    (h : tree.Holds directory path) : ∀ name ∈ path, IsName name := by
  induction path generalizing directory with
  | nil => simp
  | cons name rest ih =>
    obtain ⟨hlisted, -, hrest⟩ := h
    intro other hother
    rcases List.mem_cons.mp hother with rfl | hother
    · exact tree.named directory other hlisted
    · exact ih hrest other hother

end PluginTree

/-! ### Counters and listings -/

theorem enforceLimit_eq_ok {limit : String} {observed maximum : ℕ} {path : List String}
    {u : Unit} : enforceLimit limit observed maximum path = .ok u ↔ observed ≤ maximum := by
  rw [enforceLimit]
  split_ifs with h
  · simp [h]
  · simp only [true_iff]
    omega

theorem countUp_eq_ok {limit : String} {maximum counter amount n : ℕ} {path : List String}
    (hmaximum : maximum ≤ u64Max) :
    countUp limit maximum counter amount path = .ok n ↔
      n = counter + amount ∧ counter + amount ≤ maximum := by
  rw [countUp]
  split_ifs with hoverflow
  · constructor
    · intro h
      cases h
    · rintro ⟨-, hle⟩
      omega
  · simp only [except_ok_bind, except_bind_eq_ok, enforceLimit_eq_ok, pure, Except.pure,
      Except.ok.injEq]
    constructor
    · rintro ⟨_, hle, rfl⟩
      exact ⟨rfl, hle⟩
    · rintro ⟨rfl, hle⟩
      exact ⟨(), hle, rfl⟩

theorem toNat_le_u64Max (n : UInt64) : n.toNat ≤ u64Max := by
  have := n.toNat_lt
  rw [u64Max]
  omega

/-- A listing is read when all its names are texts and they are not too many. -/
theorem foldlM_readChild_eq_ok {limits : FingerprintLimits} {directory : List String}
    {listing : List (Option String)} {state state' : TraversalCounters × List String} :
    listing.foldlM (readChild limits directory) state = .ok state' ↔
      (∀ name ∈ listing, name.isSome) ∧
        (listing ≠ [] → state.1.visitedEntries + listing.length ≤
          min (limits.maxEntries.toNat + 1) u64Max) ∧
        state' = ({ state.1 with visitedEntries := state.1.visitedEntries + listing.length },
          state.2 ++ listing.reduceOption) := by
  induction listing generalizing state with
  | nil =>
    simp only [List.foldlM_nil, pure, Except.pure, Except.ok.injEq]
    constructor
    · rintro rfl
      simp
    · rintro ⟨-, -, rfl⟩
      simp
  | cons name listing ih =>
    simp only [List.foldlM_cons, except_bind_eq_ok, ih, List.forall_mem_cons]
    cases name with
    | none =>
      constructor
      · rintro ⟨next, hread, -⟩
        rw [readChild] at hread
        obtain ⟨_, -, hread⟩ := except_bind_eq_ok.mp hread
        cases hread
      · rintro ⟨⟨hsome, -⟩, -⟩
        cases hsome
    | some name =>
      have hread : ∀ next, readChild limits directory state (some name) = .ok next ↔
          state.1.visitedEntries + 1 ≤ min (limits.maxEntries.toNat + 1) u64Max ∧
            next = ({ state.1 with visitedEntries := state.1.visitedEntries + 1 },
              state.2 ++ [name]) := by
        intro next
        rw [readChild]
        simp only [except_bind_eq_ok, countUp_eq_ok (min_le_right _ _), Except.ok.injEq]
        constructor
        · rintro ⟨_, ⟨rfl, hle⟩, rfl⟩
          exact ⟨hle, rfl⟩
        · rintro ⟨hle, rfl⟩
          exact ⟨_, ⟨rfl, hle⟩, rfl⟩
      constructor
      · rintro ⟨next, hnext, hall, hlimit, rfl⟩
        obtain ⟨hle, rfl⟩ := (hread next).mp hnext
        refine ⟨⟨rfl, hall⟩, fun _ => ?_, ?_⟩
        · by_cases hempty : listing = []
          · simpa [hempty] using hle
          · have := hlimit hempty
            simp only [List.length_cons] at this ⊢
            omega
        · simp only [List.length_cons, List.reduceOption_cons_of_some, List.append_assoc,
            List.singleton_append, Prod.mk.injEq, TraversalCounters.mk.injEq, and_true]
          omega
      · rintro ⟨⟨-, hall⟩, hlimit, rfl⟩
        have hle := hlimit (List.cons_ne_nil _ _)
        rw [List.length_cons] at hle
        refine ⟨_, (hread _).mpr ⟨by omega, rfl⟩, hall, fun _ => by simp only; omega, ?_⟩
        simp only [List.length_cons, List.reduceOption_cons_of_some, List.append_assoc,
          List.singleton_append, Prod.mk.injEq, TraversalCounters.mk.injEq, and_true]
        omega

/-- The names of a directory in the order of the visit. -/
def childNames (tree : PluginTree) (directory : List String) : List String :=
  sortBy byteOrder (tree.readDir directory).reduceOption

theorem mem_childNames {tree : PluginTree} {directory : List String} {name : String} :
    name ∈ childNames tree directory ↔ some name ∈ tree.readDir directory := by
  rw [childNames, mem_sortBy, List.reduceOption_mem_iff]

theorem nodup_childNames (tree : PluginTree) (directory : List String) :
    (childNames tree directory).Nodup :=
  nodup_sortBy (tree.distinct directory)

/-- A directory that is walked was listed, and its names are visited in their order. -/
theorem collectEntries_succ {tree : PluginTree} {limits : FingerprintLimits} {room : ℕ}
    {directory : List String} {relativeParent : String} {parentDepth : ℕ} {t t' : Traversal} :
    collectEntries tree limits (room + 1) directory relativeParent parentDepth t = .ok t' ↔
      ∃ counters, ((∀ name ∈ tree.readDir directory, name.isSome) ∧
        (tree.readDir directory ≠ [] → t.counters.visitedEntries +
          (tree.readDir directory).length ≤ min (limits.maxEntries.toNat + 1) u64Max) ∧
        counters = { t.counters with visitedEntries :=
          t.counters.visitedEntries + (tree.readDir directory).length }) ∧
        (childNames tree directory).foldlM (collectChild tree limits
          (collectEntries tree limits room) directory relativeParent parentDepth)
          { t with counters } = .ok t' := by
  rw [collectEntries]
  simp only [except_bind_eq_ok, foldlM_readChild_eq_ok, Prod.exists]
  constructor
  · rintro ⟨counters, names, ⟨hall, hlimit, heq⟩, hfold⟩
    obtain ⟨rfl, rfl⟩ := Prod.mk.inj heq
    exact ⟨_, ⟨hall, hlimit, rfl⟩, hfold⟩
  · rintro ⟨counters, ⟨hall, hlimit, rfl⟩, hfold⟩
    exact ⟨_, _, ⟨hall, hlimit, rfl⟩, hfold⟩

/-! ### One entry -/

/-- Everything that the visit of one entry can come to. -/
inductive Visited (tree : PluginTree) (limits : FingerprintLimits)
    (descend : List String → String → ℕ → Traversal → Except FingerprintError Traversal)
    (directory : List String) (relativeParent : String) (parentDepth : ℕ) (t : Traversal)
    (name : String) : Traversal → Prop
  | directory {t' : Traversal} (hkind : tree.kind (directory ++ [name]) = .directory)
      (hentries : t.counters.entries + 1 ≤ limits.maxEntries.toNat)
      (hdescend : descend (directory ++ [name]) (joinName relativeParent name) (parentDepth + 1)
        ⟨{ t.counters with entries := t.counters.entries + 1 },
          t.entries ++ [⟨directory ++ [name], joinName relativeParent name, .directory⟩]⟩ =
            .ok t') : Visited tree limits descend directory relativeParent parentDepth t name t'
  | sentinel (contents : List UInt8) (hkind : tree.kind (directory ++ [name]) = .file contents)
      (hroot : parentDepth = 0) (hname : name = disabledSentinel) :
      Visited tree limits descend directory relativeParent parentDepth t name t
  | file (contents : List UInt8) (hkind : tree.kind (directory ++ [name]) = .file contents)
      (hkept : ¬ (parentDepth = 0 ∧ name = disabledSentinel))
      (hentries : t.counters.entries + 1 ≤ limits.maxEntries.toNat)
      (hsize : contents.length ≤ limits.maxFileBytes.toNat)
      (hfiles : t.counters.files + 1 ≤ limits.maxFiles.toNat)
      (htotal : t.counters.totalBytes + contents.length ≤ limits.maxTotalBytes.toNat) :
      Visited tree limits descend directory relativeParent parentDepth t name
        ⟨{ t.counters with
            entries := t.counters.entries + 1, files := t.counters.files + 1,
            totalBytes := t.counters.totalBytes + contents.length },
          t.entries ++ [⟨directory ++ [name], joinName relativeParent name,
            .file contents.length⟩]⟩

theorem relativePath_eq_ok {relativeParent name : String} {path : List String} {relative : String} :
    relativePath relativeParent name path = .ok relative ↔
      relative = joinName relativeParent name ∧
        (joinName relativeParent name).utf8ByteSize ≤ maxAllocation := by
  rw [relativePath]
  split_ifs with hlong
  · simp only [false_iff, not_and]
    omega
  · simp only [Except.ok.injEq]
    constructor
    · rintro rfl
      exact ⟨rfl, by omega⟩
    · rintro ⟨rfl, -⟩
      rfl

variable {tree : PluginTree} {limits : FingerprintLimits} {directory : List String}
  {relativeParent : String} {parentDepth : ℕ} {t t' : Traversal} {name : String}

theorem collectChild_eq_ok
    {descend : List String → String → ℕ → Traversal → Except FingerprintError Traversal} :
    collectChild tree limits descend directory relativeParent parentDepth t name = .ok t' ↔
      parentDepth + 1 ≤ limits.maxDepth.toNat ∧
        (joinName relativeParent name).utf8ByteSize ≤ maxAllocation ∧
        Visited tree limits descend directory relativeParent parentDepth t name t' := by
  rw [collectChild]
  dsimp only
  by_cases hdepth : parentDepth + 1 > limits.maxDepth.toNat
  · rw [if_pos hdepth]
    simp only [reduceCtorEq, false_iff, not_and]
    omega
  rw [if_neg hdepth]
  simp only [show parentDepth + 1 ≤ limits.maxDepth.toNat by omega, true_and]
  have hlimit := fun n : UInt64 => toNat_le_u64Max n
  cases hkind : tree.kind (directory ++ [name]) with
  | symlink =>
    simp only [reduceCtorEq, false_iff, not_and]
    intro _ hvisited
    cases hvisited with
    | directory hkind' => rw [hkind] at hkind'; cases hkind'
    | sentinel _ hkind' => rw [hkind] at hkind'; cases hkind'
    | file _ hkind' => rw [hkind] at hkind'; cases hkind'
  | other =>
    constructor
    · intro h
      simp only [except_bind_eq_ok, reduceCtorEq, and_false, exists_false] at h
    · rintro ⟨-, hvisited⟩
      cases hvisited with
      | directory hkind' => rw [hkind] at hkind'; cases hkind'
      | sentinel _ hkind' => rw [hkind] at hkind'; cases hkind'
      | file _ hkind' => rw [hkind] at hkind'; cases hkind'
  | directory =>
    simp only [except_bind_eq_ok, relativePath_eq_ok, countUp_eq_ok (hlimit _)]
    constructor
    · rintro ⟨_, ⟨rfl, hsize⟩, _, ⟨rfl, hentries⟩, hdescend⟩
      exact ⟨hsize, .directory hkind hentries hdescend⟩
    · rintro ⟨hsize, hvisited⟩
      cases hvisited with
      | directory _ hentries hdescend =>
        exact ⟨_, ⟨rfl, hsize⟩, _, ⟨rfl, hentries⟩, hdescend⟩
      | sentinel _ hkind' => rw [hkind] at hkind'; cases hkind'
      | file _ hkind' => rw [hkind] at hkind'; cases hkind'
  | file contents =>
    simp only [except_bind_eq_ok, relativePath_eq_ok]
    by_cases hsentinel : parentDepth = 0 ∧ name = disabledSentinel
    · simp only [if_pos hsentinel, Except.ok.injEq]
      constructor
      · rintro ⟨_, ⟨rfl, hsize⟩, rfl⟩
        exact ⟨hsize, .sentinel contents hkind hsentinel.1 hsentinel.2⟩
      · rintro ⟨hsize, hvisited⟩
        cases hvisited with
        | directory hkind' => rw [hkind] at hkind'; cases hkind'
        | sentinel => exact ⟨_, ⟨rfl, hsize⟩, rfl⟩
        | file _ _ hkept => exact absurd hsentinel hkept
    · simp only [if_neg hsentinel, except_bind_eq_ok, countUp_eq_ok (hlimit _),
        enforceLimit_eq_ok, pure, Except.pure, Except.ok.injEq]
      constructor
      · rintro ⟨_, ⟨rfl, hlong⟩, _, ⟨rfl, hentries⟩, _, hsize, _, ⟨rfl, hfiles⟩, _, ⟨rfl, htotal⟩,
          rfl⟩
        exact ⟨hlong, .file contents hkind hsentinel hentries hsize hfiles htotal⟩
      · rintro ⟨hlong, hvisited⟩
        cases hvisited with
        | directory hkind' => rw [hkind] at hkind'; cases hkind'
        | sentinel _ _ hroot hname => exact absurd ⟨hroot, hname⟩ hsentinel
        | file _ hkind' _ hentries hsize hfiles htotal =>
          rw [hkind] at hkind'
          cases hkind'
          exact ⟨_, ⟨rfl, hlong⟩, _, ⟨rfl, hentries⟩, (), hsize, _, ⟨rfl, hfiles⟩, _,
            ⟨rfl, htotal⟩, rfl⟩

/-! ### Other listings -/

theorem childNames_relisted {a b : PluginTree} (h : a.Relisted b) (directory : List String) :
    childNames a directory = childNames b directory :=
  sortBy_eq_of_perm (fun _ _ _ _ heq => Std.LawfulEqCmp.eq_of_compare heq)
    ((h.readDir directory).filterMap id)

/-- A walk does not see in which order directories are listed. -/
theorem collectEntries_relisted {a b : PluginTree} (h : a.Relisted b) {room : ℕ}
    (hwalk : collectEntries a limits room directory relativeParent parentDepth t = .ok t') :
    collectEntries b limits room directory relativeParent parentDepth t = .ok t' := by
  induction room generalizing directory relativeParent parentDepth t t' with
  | zero =>
    rw [collectEntries] at hwalk
    cases hwalk
  | succ room ih =>
    obtain ⟨counters, ⟨hall, hlimit, hcounters⟩, hfold⟩ := collectEntries_succ.mp hwalk
    have hperm := h.readDir directory
    refine collectEntries_succ.mpr ⟨counters, ⟨?_, ?_, ?_⟩, ?_⟩
    · exact fun name hname => hall name (hperm.mem_iff.mpr hname)
    · intro hne
      rw [← hperm.length_eq]
      exact hlimit fun hempty => hne (List.perm_nil.mp (hempty ▸ hperm.symm))
    · rw [hcounters, hperm.length_eq]
    · rw [← childNames_relisted h]
      refine foldlM_ok_imp ?_ hfold
      intro s name _ s' hchild
      obtain ⟨hdepth, hsize, hvisited⟩ := collectChild_eq_ok.mp hchild
      refine collectChild_eq_ok.mpr ⟨hdepth, hsize, ?_⟩
      cases hvisited with
      | directory hkind hentries hdescend =>
        exact .directory (h.kind ▸ hkind) hentries (ih hdescend)
      | sentinel contents hkind hroot hname => exact .sentinel contents (h.kind ▸ hkind) hroot hname
      | file contents hkind hkept hentries hbytes hfiles htotal =>
        exact .file contents (h.kind ▸ hkind) hkept hentries hbytes hfiles htotal

theorem hashEntry_relisted {a b : PluginTree} (h : a.Relisted b) (entry : ArtifactEntry) :
    hashEntry a entry = hashEntry b entry := by
  rw [hashEntry, hashEntry, h.kind]

theorem fingerprint_relisted {δ : Type} {sha256 : List UInt8 → δ} {a b : PluginTree}
    (h : a.Relisted b) {report : FingerprintReport δ}
    (hreport : fingerprintPluginDirectory sha256 a limits = .ok report) :
    fingerprintPluginDirectory sha256 b limits = .ok report := by
  rw [fingerprintPluginDirectory] at hreport ⊢
  rw [← h.kind]
  cases hroot : a.kind [] with
  | directory =>
    simp only [hroot] at hreport ⊢
    obtain ⟨t, hwalk, hrest⟩ := except_bind_eq_ok.mp hreport
    rw [collectEntries_relisted h hwalk]
    simp only [hashEntry_relisted h] at hrest
    exact hrest
  | file contents => simp [hroot] at hreport
  | symlink => simp [hroot] at hreport
  | other => simp [hroot] at hreport

/-! ### What a walk collects -/

/-- The entry of a path. -/
def entryAt (tree : PluginTree) (path : List String) : ArtifactEntry where
  path
  relative := joined path
  kind := match tree.kind path with
    | .file contents => .file contents.length
    | _ => .directory

/-- What may be hashed: a directory, or a file whose size was checked, under a path that fits. -/
structure Hashable (tree : PluginTree) (path : List String) : Prop where
  kind : tree.kind path = .directory ∨
    ∃ contents, tree.kind path = .file contents ∧ contents.length ≤ u64Max
  relative : (joined path).utf8ByteSize ≤ maxAllocation

/-- The entries are those of the paths `below`, once each. -/
structure Collected (tree : PluginTree) (below : List String → Prop)
    (entries : List ArtifactEntry) : Prop where
  mem : ∀ entry, entry ∈ entries ↔ ∃ path, below path ∧ entry = entryAt tree path
  nodup : entries.Nodup
  hashable : ∀ path, below path → Hashable tree path

namespace Collected

theorem congr {below below' : List String → Prop} {entries : List ArtifactEntry}
    (h : Collected tree below entries) (heq : ∀ path, below path ↔ below' path) :
    Collected tree below' entries := by
  obtain rfl : below = below' := funext fun path => propext (heq path)
  exact h

theorem append {below below' : List String → Prop} {entries entries' : List ArtifactEntry}
    (h : Collected tree below entries) (h' : Collected tree below' entries')
    (hdisjoint : ∀ path, below path → ¬ below' path) :
    Collected tree (fun path => below path ∨ below' path) (entries ++ entries') where
  mem entry := by
    rw [List.mem_append, h.mem, h'.mem]
    constructor
    · rintro (⟨path, hpath, rfl⟩ | ⟨path, hpath, rfl⟩)
      · exact ⟨path, .inl hpath, rfl⟩
      · exact ⟨path, .inr hpath, rfl⟩
    · rintro ⟨path, hpath | hpath, rfl⟩
      · exact .inl ⟨path, hpath, rfl⟩
      · exact .inr ⟨path, hpath, rfl⟩
  nodup := by
    refine List.nodup_append.mpr ⟨h.nodup, h'.nodup, ?_⟩
    intro entry hentry entry' hentry' heq
    obtain ⟨path, hpath, rfl⟩ := (h.mem entry).mp hentry
    obtain ⟨path', hpath', rfl⟩ := (h'.mem entry').mp hentry'
    have hsame : path = path' := congrArg ArtifactEntry.path heq
    exact hdisjoint path hpath (hsame ▸ hpath')
  hashable path := by
    rintro (hpath | hpath)
    · exact h.hashable path hpath
    · exact h'.hashable path hpath

theorem nil : Collected tree (fun _ => False) [] where
  mem entry := by simp
  nodup := List.nodup_nil
  hashable path := False.elim

theorem singleton {path : List String} (h : Hashable tree path) :
    Collected tree (fun other => other = path) [entryAt tree path] where
  mem entry := by simp
  nodup := List.nodup_singleton _
  hashable := by
    rintro _ rfl
    exact h

end Collected

/-- Below a directory: a path that goes on through it. -/
def PluginTree.Below (tree : PluginTree) (directory path : List String) : Prop :=
  ∃ rest, rest ≠ [] ∧ path = directory ++ rest ∧ tree.Holds directory rest

/-- At an entry of a directory, or below it. -/
def PluginTree.Under (tree : PluginTree) (directory : List String) (name : String)
    (path : List String) : Prop :=
  some name ∈ tree.readDir directory ∧ (path = directory ++ [name] ∨
    tree.kind (directory ++ [name]) = .directory ∧ tree.Below (directory ++ [name]) path)

theorem PluginTree.below_iff (tree : PluginTree) (directory path : List String) :
    tree.Below directory path ↔ ∃ name, tree.Under directory name path := by
  constructor
  · rintro ⟨rest, hne, rfl, hholds⟩
    cases rest with
    | nil => exact absurd rfl hne
    | cons name rest =>
      obtain ⟨hlisted, hlast, hrest⟩ := hholds
      refine ⟨name, hlisted, ?_⟩
      rcases hlast with rfl | hkind
      · exact .inl rfl
      · cases rest with
        | nil => exact .inl rfl
        | cons next rest =>
          exact .inr ⟨hkind, next :: rest, List.cons_ne_nil _ _, by simp, hrest⟩
  · rintro ⟨name, hlisted, rfl | ⟨hkind, rest, hne, rfl, hrest⟩⟩
    · exact ⟨[name], List.cons_ne_nil _ _, rfl, hlisted, .inl rfl, trivial⟩
    · exact ⟨name :: rest, List.cons_ne_nil _ _, by simp, hlisted, .inr hkind, hrest⟩

theorem PluginTree.Under.prefix_eq {tree : PluginTree} {directory path : List String}
    {name : String} (h : tree.Under directory name path) :
    ∃ rest, path = directory ++ name :: rest := by
  obtain ⟨-, rfl | ⟨-, rest, -, rfl, -⟩⟩ := h
  · exact ⟨[], rfl⟩
  · exact ⟨rest, by simp⟩

/-- What is listed beside the sentinel. -/
theorem mem_withoutSentinel {tree : PluginTree} {directory : List String} {name : String} :
    some name ∈ tree.withoutSentinel.readDir directory ↔ some name ∈ tree.readDir directory ∧
      ¬ (directory = [] ∧ name = disabledSentinel ∧
        ∃ contents, tree.kind [name] = .file contents) := by
  have hsentinel : tree.isSentinel (some name) = true ↔
      name = disabledSentinel ∧ ∃ contents, tree.kind [name] = .file contents := by
    rw [PluginTree.isSentinel, Bool.and_eq_true, decide_eq_true_eq]
    cases tree.kind [name] <;> simp
  by_cases hroot : directory = []
  · subst hroot
    simp only [PluginTree.withoutSentinel, if_true, List.mem_filter, Bool.not_eq_true',
      ← Bool.not_eq_true, hsentinel, true_and]
  · simp [PluginTree.withoutSentinel, hroot]

/-- The visit of one entry collects the entry and everything below it. -/
theorem collectChild_collects {room : ℕ} (hlisted : some name ∈ tree.readDir directory)
    (ih : ∀ path t t', collectEntries tree limits room path (joined path) path.length t = .ok t' →
      ∃ new, t'.entries = t.entries ++ new ∧
        Collected tree.withoutSentinel (tree.withoutSentinel.Below path) new)
    (h : collectChild tree limits (collectEntries tree limits room) directory (joined directory)
      directory.length t name = .ok t') :
    ∃ new, t'.entries = t.entries ++ new ∧
      Collected tree.withoutSentinel (tree.withoutSentinel.Under directory name) new := by
  obtain ⟨-, hsize, hvisited⟩ := collectChild_eq_ok.mp h
  rw [← joined_concat] at hsize
  cases hvisited with
  | directory hkind _ hdescend =>
    have hkept : some name ∈ tree.withoutSentinel.readDir directory := by
      refine mem_withoutSentinel.mpr ⟨hlisted, ?_⟩
      rintro ⟨rfl, -, contents, hfile⟩
      rw [List.nil_append, hfile] at hkind
      cases hkind
    have hhead : (⟨directory ++ [name], joined (directory ++ [name]), .directory⟩ : ArtifactEntry) =
        entryAt tree.withoutSentinel (directory ++ [name]) := by
      simp [entryAt, PluginTree.withoutSentinel, hkind]
    rw [← joined_concat, show directory.length + 1 = (directory ++ [name]).length by simp]
      at hdescend
    obtain ⟨new, hentries, hnew⟩ := ih _ _ _ hdescend
    refine ⟨entryAt tree.withoutSentinel (directory ++ [name]) :: new, ?_, ?_⟩
    · rw [hentries, hhead, List.append_assoc, List.singleton_append]
    · have hhashable : Hashable tree.withoutSentinel (directory ++ [name]) := ⟨.inl hkind, hsize⟩
      refine ((Collected.singleton hhashable).append hnew ?_).congr ?_
      · rintro _ rfl ⟨rest, hne, heq, -⟩
        exact hne (List.append_cancel_left (heq.symm.trans (List.append_nil _).symm))
      · intro path
        rw [PluginTree.Under]
        simp only [hkept, true_and, show tree.withoutSentinel.kind (directory ++ [name]) =
          .directory from hkind]
  | sentinel contents hkind hroot hname =>
    refine ⟨[], (List.append_nil _).symm, Collected.nil.congr ?_⟩
    intro path
    rw [false_iff]
    rintro ⟨hkept, -⟩
    rw [List.length_eq_zero_iff] at hroot
    subst hroot
    exact (mem_withoutSentinel.mp hkept).2 ⟨rfl, hname, _, hkind⟩
  | file contents hkind hkeep _ hbytes =>
    have hkept : some name ∈ tree.withoutSentinel.readDir directory := by
      refine mem_withoutSentinel.mpr ⟨hlisted, ?_⟩
      rintro ⟨rfl, hname, -⟩
      exact hkeep ⟨rfl, hname⟩
    refine ⟨[entryAt tree.withoutSentinel (directory ++ [name])], ?_, ?_⟩
    · simp [entryAt, PluginTree.withoutSentinel, hkind, joined_concat]
    · have hhashable : Hashable tree.withoutSentinel (directory ++ [name]) :=
        ⟨.inr ⟨contents, hkind, hbytes.trans (toNat_le_u64Max _)⟩, hsize⟩
      refine (Collected.singleton hhashable).congr ?_
      intro path
      rw [PluginTree.Under]
      simp only [hkept, true_and, show tree.withoutSentinel.kind (directory ++ [name]) =
          .file contents from hkind, reduceCtorEq, false_and, or_false]

theorem foldlM_collectChild_collects {room : ℕ} {names : List String}
    (hlisted : ∀ name ∈ names, some name ∈ tree.readDir directory) (hnodup : names.Nodup)
    (ih : ∀ path t t', collectEntries tree limits room path (joined path) path.length t = .ok t' →
      ∃ new, t'.entries = t.entries ++ new ∧
        Collected tree.withoutSentinel (tree.withoutSentinel.Below path) new)
    (h : names.foldlM (collectChild tree limits (collectEntries tree limits room) directory
      (joined directory) directory.length) t = .ok t') :
    ∃ new, t'.entries = t.entries ++ new ∧ Collected tree.withoutSentinel
      (fun path => ∃ name ∈ names, tree.withoutSentinel.Under directory name path) new := by
  induction names generalizing t with
  | nil =>
    obtain rfl : t = t' := Except.ok.inj h
    exact ⟨[], (List.append_nil _).symm, Collected.nil.congr (by simp)⟩
  | cons name names ihnames =>
    rw [List.foldlM_cons] at h
    obtain ⟨t₁, hchild, hrest⟩ := except_bind_eq_ok.mp h
    obtain ⟨hname, hnodup⟩ := List.nodup_cons.mp hnodup
    obtain ⟨new, hnew, hcollected⟩ :=
      collectChild_collects (hlisted name List.mem_cons_self) ih hchild
    obtain ⟨more, hmore, hcollected'⟩ :=
      ihnames (fun n hn => hlisted n (List.mem_cons_of_mem _ hn)) hnodup hrest
    refine ⟨new ++ more, by rw [hmore, hnew, List.append_assoc], ?_⟩
    refine (hcollected.append hcollected' ?_).congr (fun path => by simp)
    rintro path hunder ⟨other, hother, hunder'⟩
    obtain ⟨rest, rfl⟩ := hunder.prefix_eq
    obtain ⟨rest', heq⟩ := hunder'.prefix_eq
    have hsame := List.append_cancel_left heq
    exact hname ((List.cons.inj hsame).1 ▸ hother)

/-- A walk collects everything below its directory. -/
theorem collectEntries_collects {room : ℕ}
    (h : collectEntries tree limits room directory (joined directory) directory.length t = .ok t') :
    ∃ new, t'.entries = t.entries ++ new ∧
      Collected tree.withoutSentinel (tree.withoutSentinel.Below directory) new := by
  induction room generalizing directory t t' with
  | zero =>
    rw [collectEntries] at h
    cases h
  | succ room ih =>
    obtain ⟨counters, -, hfold⟩ := collectEntries_succ.mp h
    obtain ⟨new, hnew, hcollected⟩ := foldlM_collectChild_collects
      (fun name hname => mem_childNames.mp hname) (nodup_childNames tree directory)
      (fun _ _ _ => ih) hfold
    refine ⟨new, hnew, hcollected.congr ?_⟩
    intro path
    rw [PluginTree.below_iff]
    constructor
    · rintro ⟨name, -, hunder⟩
      exact ⟨name, hunder⟩
    · rintro ⟨name, hunder⟩
      exact ⟨name, mem_childNames.mpr (mem_withoutSentinel.mp hunder.1).1, hunder⟩

/-! ### Records -/

/-- The hashed form of what stands at a path. -/
def recordForm (record : String × FileKind) : List UInt8 :=
  match record.2 with
  | .file contents => 'f'.toUInt8 :: (hashLengthPrefixed (utf8 record.1) ++
      (leBytes 8 contents.length ++ contents))
  | _ => 'd'.toUInt8 :: hashLengthPrefixed (utf8 record.1)

/-- A directory, or a file whose size fits its field, under a path that does. -/
structure Recordable (record : String × FileKind) : Prop where
  relative : (utf8 record.1).length < 256 ^ 8
  kind : record.2 = .directory ∨ ∃ contents, record.2 = .file contents ∧ contents.length < 256 ^ 8

/-- A record marks its own end: the tag says whether a size and contents follow. -/
theorem record_delimits : Delimits Recordable recordForm Eq := by
  rintro ⟨relative, kind⟩ ⟨relative', kind'⟩ ⟨hrelative, hkind⟩ ⟨hrelative', hkind'⟩ r r'
  have htag : 'd'.toUInt8 ≠ 'f'.toUInt8 := by decide
  have hname := (Delimits.lengthPrefixed 8).comap utf8 (a := relative)
    (b := relative') hrelative hrelative'
  rcases hkind with rfl | ⟨contents, rfl, hsize⟩ <;> rcases hkind' with rfl |
    ⟨contents', rfl, hsize'⟩
  · simp only [recordForm, hashLengthPrefixed, List.cons_append, List.cons.injEq, true_and, hname,
      utf8_inj, Prod.mk.injEq, and_true]
  · simp [recordForm, htag]
  · simp [recordForm, htag.symm]
  · have hcontents := Delimits.lengthPrefixed 8 (a := contents) (b := contents') hsize hsize' r r'
    rw [lengthPrefixed, lengthPrefixed] at hcontents
    simp only [recordForm, hashLengthPrefixed, List.cons_append, List.cons.injEq, true_and,
      List.append_assoc, hname,
      utf8_inj, Prod.mk.injEq, FileKind.file.injEq, and_assoc]
    rw [← List.append_assoc, ← List.append_assoc, hcontents]

theorem recordForm_ne_nil (record : String × FileKind) : recordForm record ≠ [] := by
  obtain ⟨relative, kind⟩ := record
  cases kind <;> simp [recordForm]

/-- The records of a tree: one for every path, in the order of the paths. -/
structure Records (tree : PluginTree) (records : List (String × FileKind)) : Prop where
  mem : ∀ record, record ∈ records ↔
    ∃ path, tree.Exists path ∧ record = (joined path, tree.kind path)
  nodup : records.Nodup
  sorted : records.Pairwise fun a b => (byteOrder a.1 b.1).isLE = true
  recordable : ∀ record ∈ records, Recordable record

namespace Records

/-- A path is told by its record. -/
theorem unique {record record' : String × FileKind} {records : List (String × FileKind)}
    (h : Records tree records) (hmem : record ∈ records) (hmem' : record' ∈ records)
    (heq : record.1 = record'.1) : record = record' := by
  obtain ⟨path, hpath, rfl⟩ := (h.mem record).mp hmem
  obtain ⟨path', hpath', rfl⟩ := (h.mem record').mp hmem'
  rw [(joined_inj hpath.2.named hpath'.2.named).mp heq]

/-- Two trees have the same records exactly when they are the same. -/
theorem eq_iff_same {a b : PluginTree} {records records' : List (String × FileKind)}
    (ha : Records a records) (hb : Records b records') : records = records' ↔ a.Same b := by
  constructor
  · rintro rfl
    have hside : ∀ {c d : PluginTree}, Records c records → Records d records → ∀ path kind,
        c.Exists path ∧ c.kind path = kind → d.Exists path ∧ d.kind path = kind := by
      rintro c d hc hd path kind ⟨hpath, rfl⟩
      have hmem := (hc.mem _).mpr ⟨path, hpath, rfl⟩
      obtain ⟨path', hpath', heq⟩ := (hd.mem _).mp hmem
      obtain ⟨hjoined, hkind⟩ := Prod.mk.inj heq
      obtain rfl := (joined_inj hpath.2.named hpath'.2.named).mp hjoined
      exact ⟨hpath', hkind.symm⟩
    exact fun path kind => ⟨hside ha hb path kind, hside hb ha path kind⟩
  · intro hsame
    have hperm : records.Perm records' := by
      rw [List.perm_ext_iff_of_nodup ha.nodup hb.nodup]
      intro record
      rw [ha.mem, hb.mem]
      constructor
      · rintro ⟨path, hpath, rfl⟩
        obtain ⟨hpath', hkind⟩ := (hsame path (a.kind path)).mp ⟨hpath, rfl⟩
        exact ⟨path, hpath', by rw [hkind]⟩
      · rintro ⟨path, hpath, rfl⟩
        obtain ⟨hpath', hkind⟩ := (hsame path (b.kind path)).mpr ⟨hpath, rfl⟩
        exact ⟨path, hpath', by rw [hkind]⟩
    refine List.Perm.eq_of_pairwise (fun record record' hmem hmem' hle hle' => ?_) ha.sorted
      hb.sorted hperm
    exact ha.unique hmem (hperm.mem_iff.mpr hmem')
      (Std.LawfulEqCmp.eq_of_compare (Std.OrientedCmp.isLE_antisymm hle hle'))

end Records

/-! ### The hashed bytes -/

/-- The record of an entry. -/
def recordOf (tree : PluginTree) (entry : ArtifactEntry) : String × FileKind :=
  (entry.relative, tree.kind entry.path)

theorem hashEntry_entryAt {path : List String} (h : Hashable tree.withoutSentinel path) :
    hashEntry tree (entryAt tree.withoutSentinel path) =
      .ok (recordForm (recordOf tree.withoutSentinel (entryAt tree.withoutSentinel path))) := by
  have hplain : tree.withoutSentinel.kind path = tree.kind path := rfl
  rcases h.kind with hkind | ⟨contents, hkind, -⟩
  · rw [hplain] at hkind
    simp [hashEntry, entryAt, recordForm, recordOf, hplain, hkind, EntryKind.tag]
  · rw [hplain] at hkind
    simp [hashEntry, entryAt, recordForm, recordOf, hplain, hkind, EntryKind.tag]

theorem foldlM_hashEntry {entries : List ArtifactEntry} {form : ArtifactEntry → List UInt8}
    (h : ∀ entry ∈ entries, hashEntry tree entry = .ok (form entry)) (hashed : List UInt8) :
    (entries.foldlM (fun hashed entry => do
      let bytes ← hashEntry tree entry
      return hashed ++ bytes) hashed) = .ok (hashed ++ entries.flatMap form) := by
  induction entries generalizing hashed with
  | nil => simp [pure, Except.pure]
  | cons entry entries ih =>
    rw [List.foldlM_cons, h entry List.mem_cons_self]
    simp only [except_ok_bind, pure, Except.pure]
    rw [List.flatMap_cons, ← List.append_assoc]
    exact ih (fun e he => h e (List.mem_cons_of_mem _ he)) _

/-- What was collected, sorted, are the records of the tree. -/
theorem Collected.records {entries : List ArtifactEntry}
    (h : Collected tree (tree.Below []) entries) :
    Records tree ((sortBy (fun left right => byteOrder left.relative right.relative)
      entries).map (recordOf tree)) := by
  have hbelow : ∀ path, tree.Below [] path ↔ tree.Exists path := by
    intro path
    constructor
    · rintro ⟨rest, hne, rfl, hholds⟩
      exact ⟨hne, hholds⟩
    · rintro ⟨hne, hholds⟩
      exact ⟨path, hne, rfl, hholds⟩
  have hmem : ∀ record, record ∈ (sortBy (fun left right =>
      byteOrder left.relative right.relative) entries).map (recordOf tree) ↔
      ∃ path, tree.Exists path ∧ record = (joined path, tree.kind path) := by
    intro record
    simp only [List.mem_map, mem_sortBy, h.mem, hbelow]
    constructor
    · rintro ⟨_, ⟨path, hpath, rfl⟩, rfl⟩
      exact ⟨path, hpath, rfl⟩
    · rintro ⟨path, hpath, rfl⟩
      exact ⟨_, ⟨path, hpath, rfl⟩, rfl⟩
  refine ⟨hmem, ?_, ?_, ?_⟩
  · refine List.Nodup.map_on ?_ (nodup_sortBy h.nodup)
    intro entry hentry entry' hentry' heq
    obtain ⟨path, hpath, rfl⟩ := (h.mem entry).mp (mem_sortBy.mp hentry)
    obtain ⟨path', hpath', rfl⟩ := (h.mem entry').mp (mem_sortBy.mp hentry')
    rw [(joined_inj ((hbelow path).mp hpath).2.named ((hbelow path').mp hpath').2.named).mp
      (Prod.mk.inj heq).1]
  · rw [List.pairwise_map]
    exact pairwise_sortBy entries
  · intro record hrecord
    obtain ⟨path, hpath, rfl⟩ := (hmem record).mp hrecord
    obtain ⟨hkind, hsize⟩ := h.hashable path ((hbelow path).mpr hpath)
    rw [u64Max] at hkind
    rw [maxAllocation] at hsize
    refine ⟨?_, ?_⟩
    · rw [length_utf8]
      simp only
      omega
    · rcases hkind with hkind | ⟨contents, hkind, hle⟩
      · exact .inl hkind
      · exact .inr ⟨contents, hkind, by omega⟩

/-- A walk that comes through hashes the records of the tree beside the sentinel. -/
theorem fingerprint_eq_records {report : FingerprintReport (List UInt8)}
    (h : fingerprintPluginDirectory id tree limits = .ok report) :
    ∃ records, Records tree.withoutSentinel records ∧
      report.fingerprint = fingerprintDomain ++ records.flatMap recordForm := by
  rw [fingerprintPluginDirectory] at h
  cases hroot : tree.kind [] with
  | directory =>
    simp only [hroot] at h
    obtain ⟨t, hwalk, h⟩ := except_bind_eq_ok.mp h
    obtain ⟨entries, hentries, hcollected⟩ : ∃ new, t.entries = [] ++ new ∧
        Collected tree.withoutSentinel (tree.withoutSentinel.Below []) new :=
      collectEntries_collects hwalk
    rw [List.nil_append] at hentries
    rw [hentries] at h
    have hhash : ∀ entry ∈ sortBy (fun left right : ArtifactEntry =>
        byteOrder left.relative right.relative) entries,
        hashEntry tree entry = .ok (recordForm (recordOf tree.withoutSentinel entry)) := by
      intro entry hentry
      obtain ⟨path, hpath, rfl⟩ := (hcollected.mem entry).mp (mem_sortBy.mp hentry)
      exact hashEntry_entryAt (hcollected.hashable path hpath)
    rw [foldlM_hashEntry hhash] at h
    refine ⟨_, hcollected.records, ?_⟩
    rw [List.flatMap_map]
    exact (congrArg FingerprintReport.fingerprint (Except.ok.inj h)).symm
  | file contents => simp [hroot] at h
  | symlink => simp [hroot] at h
  | other => simp [hroot] at h

/-- CORRECT (binding): the hashed bytes of two directories agree exactly when the directories hold
    the same things beside the sentinel, and another order of their listings gives the same
    report. -/
theorem fingerprint_binds_tree {tree tree' : PluginTree} {limits limits' : FingerprintLimits}
    {report report' : FingerprintReport (List UInt8)}
    (h : fingerprintPluginDirectory id tree limits = .ok report)
    (h' : fingerprintPluginDirectory id tree' limits' = .ok report') :
    (report.fingerprint = report'.fingerprint ↔
      tree.withoutSentinel.Same tree'.withoutSentinel) ∧
      ∀ relisted, tree.Relisted relisted →
        fingerprintPluginDirectory id relisted limits = .ok report := by
  refine ⟨?_, fun relisted hrelisted => fingerprint_relisted hrelisted h⟩
  obtain ⟨records, hrecords, hbytes⟩ := fingerprint_eq_records h
  obtain ⟨records', hrecords', hbytes'⟩ := fingerprint_eq_records h'
  rw [hbytes, hbytes', List.append_right_inj, record_delimits.flatMap_inj recordForm_ne_nil
    hrecords.recordable hrecords'.recordable]
  exact hrecords.eq_iff_same hrecords'

/-- A directory with a file, beside another file, listed in one order or the other. -/
def nestedTree (swapped : Bool) (byte : UInt8) : PluginTree where
  readDir path :=
    if path = [] then if swapped then [some "d", some "a"] else [some "a", some "d"]
    else if path = ["d"] then [some "b"] else []
  kind path := if path = [] ∨ path = ["d"] then .directory else .file [byte]
  distinct path := by
    split_ifs <;> simp [List.reduceOption]
  named path name := by
    split_ifs
    · rw [List.mem_pair, Option.some.injEq, Option.some.injEq]
      rintro (rfl | rfl) <;> decide
    · rw [List.mem_pair, Option.some.injEq, Option.some.injEq]
      rintro (rfl | rfl) <;> decide
    · rw [List.mem_singleton, Option.some.injEq]
      rintro rfl
      decide
    · exact nofun

def smallLimits : FingerprintLimits := ⟨10, 20, 100, 200, 3⟩

theorem fingerprint_nestedTree (byte : UInt8) : ∃ report,
    fingerprintPluginDirectory id (nestedTree false byte) smallLimits = .ok report := by
  have hnames : sortBy byteOrder ["a", "d"] = ["a", "d"] := sortBy_of_pairwise (by decide)
  have hname : sortBy byteOrder ["b"] = ["b"] := sortBy_of_pairwise (by decide)
  have hbelow : ∀ t : Traversal, t.counters = ⟨2, 1, 2, 1⟩ →
      collectEntries (nestedTree false byte) smallLimits 3 ["d"] "d" 1 t =
        .ok ⟨⟨3, 2, 3, 2⟩, t.entries ++ [⟨["d", "b"], "d/b", .file 1⟩]⟩ := by
    rintro ⟨_, entries⟩ rfl
    show List.foldlM _ _ (sortBy byteOrder ["b"]) = _
    rw [hname]
    rfl
  have hwalk : collectEntries (nestedTree false byte) smallLimits 4 [] "" 0 ⟨⟨0, 0, 0, 0⟩, []⟩ =
      .ok ⟨⟨3, 2, 3, 2⟩, [⟨["a"], "a", .file 1⟩, ⟨["d"], "d", .directory⟩,
        ⟨["d", "b"], "d/b", .file 1⟩]⟩ := by
    show List.foldlM _ _ (sortBy byteOrder ["a", "d"]) = _
    rw [hnames]
    show (collectEntries (nestedTree false byte) smallLimits 3 ["d"] "d" 1
      ⟨⟨2, 1, 2, 1⟩, [⟨["a"], "a", .file 1⟩, ⟨["d"], "d", .directory⟩]⟩ >>= _) = _
    rw [hbelow _ rfl]
    rfl
  have hentries : sortBy (fun left right : ArtifactEntry => byteOrder left.relative right.relative)
      [⟨["a"], "a", .file 1⟩, ⟨["d"], "d", .directory⟩, ⟨["d", "b"], "d/b", .file 1⟩] =
      [⟨["a"], "a", .file 1⟩, ⟨["d"], "d", .directory⟩, ⟨["d", "b"], "d/b", .file 1⟩] :=
    sortBy_of_pairwise (by decide)
  show ∃ report, (collectEntries (nestedTree false byte) smallLimits 4 [] "" 0
    ⟨⟨0, 0, 0, 0⟩, []⟩ >>= _) = .ok report
  rw [hwalk, except_ok_bind, hentries]
  exact ⟨_, rfl⟩

/-- Another byte in a file of a nested directory gives another fingerprint, another listing of the
    directories the same one. -/
theorem fingerprint_binds_tree_contents :
    ∃ report report',
      fingerprintPluginDirectory id (nestedTree false 1) smallLimits = .ok report ∧
      fingerprintPluginDirectory id (nestedTree false 2) smallLimits = .ok report' ∧
      report.fingerprint ≠ report'.fingerprint ∧
      fingerprintPluginDirectory id (nestedTree true 1) smallLimits = .ok report := by
  obtain ⟨report, h⟩ := fingerprint_nestedTree 1
  obtain ⟨report', h'⟩ := fingerprint_nestedTree 2
  obtain ⟨hbinds, hrelisted⟩ := fingerprint_binds_tree h h'
  refine ⟨report, report', h, h', fun heq => ?_, hrelisted _ ⟨fun path => ?_, rfl⟩⟩
  · have hholds : (nestedTree false 1).withoutSentinel.Exists ["d", "b"] := by
      refine ⟨by decide, ?_⟩
      simp [PluginTree.Holds, PluginTree.withoutSentinel, nestedTree, PluginTree.isSentinel,
        disabledSentinel]
    have hsame := (hbinds.mp heq ["d", "b"] (.file [1])).mp ⟨hholds, rfl⟩
    exact absurd hsame.2 (by decide)
  · by_cases hroot : path = []
    · subst hroot
      exact List.Perm.swap (some "d") (some "a") []
    · simp [nestedTree, hroot]

end ReSymbol.PluginState
