import ReSymbol.LiveAccess.Mutation
import ReSymbol.Schemes.Patches

/-! A code span whose every operation may fail.

    Each call on the target consults an oracle first: it succeeds, it fails without an effect, or it
    fails after its effect was made, a write possibly only in part. Reads and queries that succeed
    report what is there. Only the transaction changes the span, so what a transaction reports can
    be compared with what happened to the span.

        oracle 0   oracle 1   oracle 2   …
           │          │          │
        read ok   protect ok   write fails, two of four bytes written   … -/

namespace ReSymbol.LiveAccess
open Schemes Schemes.Reducer Debugger

/-! ### The target -/

/-- How one call ends. -/
inductive Verdict where
  | succeeds
  | fails (text : String)
  | failsAfterEffect (text : String) (reached : ℕ → Bool)

/-- The span of code: its bytes, the protection of its page, whether the instruction cache was
    flushed since the last write, and whether it still is the bound process. -/
structure CodeSpan where
  memory : Memory UInt8
  protection : UInt32
  fresh : Bool
  identity : Bool

/-- The calls that can change the target. -/
inductive Mutator where
  | protect | write | flush | restore

structure FaultyTarget where
  code : CodeSpan
  issued : List Mutator
  clock : ℕ

/-- The bytes of an interrupted write: those it reached, and the old ones elsewhere. -/
def reachedBytes (m : Memory UInt8) (address : ℕ) (bytes : List UInt8) (reached : ℕ → Bool) :
    List UInt8 :=
  bytes.mapIdx fun i byte => if reached i then byte else m (address + i)

/-- A call that only observes. -/
def observe {α : Type} (oracle : ℕ → Verdict) (answer : CodeSpan → Except String α) :
    Reducer FaultyTarget String α := fun t =>
  let t' := { t with clock := t.clock + 1 }
  match oracle t.clock with
  | .succeeds => (answer t.code, t')
  | .fails text | .failsAfterEffect text _ => (.error text, t')

/-- A call that changes the span, with the change an interrupted call makes. -/
def mutate {α : Type} (oracle : ℕ → Verdict) (call : Mutator) (answer : CodeSpan → α)
    (attempted effect : CodeSpan → CodeSpan) (interrupted : (ℕ → Bool) → CodeSpan → CodeSpan) :
    Reducer FaultyTarget String α := fun t =>
  let t' := { t with clock := t.clock + 1, issued := call :: t.issued }
  match oracle t.clock with
  | .succeeds => (.ok (answer t.code), { t' with code := effect t.code })
  | .fails text => (.error text, { t' with code := attempted t.code })
  | .failsAfterEffect text reached => (.error text, { t' with code := interrupted reached t.code })

def setProtection (protection : UInt32) (code : CodeSpan) : CodeSpan :=
  { code with protection }

/-- Every write, even one that reports no effect, makes the cache stale. -/
def setBytes (address : ℕ) (bytes : List UInt8) (code : CodeSpan) : CodeSpan :=
  { code with memory := writeSpan code.memory address bytes, fresh := false }

def faulty (oracle : ℕ → Verdict) : MutationOperations FaultyTarget where
  ensureExactBinding _ := observe oracle fun code =>
    if code.identity then .ok () else .error "selected process creation identity changed"
  readExact address size := observe oracle fun code => .ok (readSpan code.memory address size)
  writableCodeRegion _ _ _ := observe oracle fun code => .ok ⟨code.protection⟩
  protect _ _ protection :=
    mutate oracle .protect (·.protection) id (setProtection protection)
      fun _ => setProtection protection
  writeExact address bytes :=
    mutate oracle .write (fun _ => ()) (fun code => { code with fresh := false })
      (setBytes address bytes)
      fun reached code => setBytes address (reachedBytes code.memory address bytes reached) code
  flush _ _ :=
    mutate oracle .flush (fun _ => ()) id (fun code => { code with fresh := true })
      fun _ code => { code with fresh := true }
  restore _ _ protection :=
    mutate oracle .restore (fun _ => ()) id (setProtection protection)
      fun _ => setProtection protection

/-! ### What each call can do -/

section Calls

variable {oracle : ℕ → Verdict} {binding : LiveTargetBinding} {address size : ℕ}
  {code : CodeSpan} {issued : List Mutator} {clock : ℕ}

theorem wp_observe {α : Type} {answer : CodeSpan → Except String α}
    {Q : α → FaultyTarget → Prop} {E : String → FaultyTarget → Prop}
    (hQ : ∀ a clock, answer code = .ok a → Q a ⟨code, issued, clock⟩)
    (hE : ∀ text clock, E text ⟨code, issued, clock⟩) :
    wp (observe oracle answer) Q E ⟨code, issued, clock⟩ := by
  unfold wp observe
  cases oracle clock with
  | succeeds =>
    dsimp only
    cases ha : answer code with
    | ok a => exact hQ a _ ha
    | error text => exact hE text _
  | fails text => exact hE text _
  | failsAfterEffect text _ => exact hE text _

theorem wp_ensureExactBinding {Q : Unit → FaultyTarget → Prop}
    {E : String → FaultyTarget → Prop} (hQ : ∀ clock, Q () ⟨code, issued, clock⟩)
    (hE : ∀ text clock, E text ⟨code, issued, clock⟩) :
    wp ((faulty oracle).ensureExactBinding binding) Q E ⟨code, issued, clock⟩ := by
  simp only [faulty]
  exact wp_observe (fun _ clock _ => hQ clock) hE

theorem wp_readExact {Q : List UInt8 → FaultyTarget → Prop} {E : String → FaultyTarget → Prop}
    (hQ : ∀ clock, Q (readSpan code.memory address size) ⟨code, issued, clock⟩)
    (hE : ∀ text clock, E text ⟨code, issued, clock⟩) :
    wp ((faulty oracle).readExact address size) Q E ⟨code, issued, clock⟩ := by
  simp only [faulty]
  refine wp_observe (fun _ clock h => ?_) hE
  cases h
  exact hQ clock

theorem wp_writableCodeRegion {Q : WritableCodeRegion → FaultyTarget → Prop}
    {E : String → FaultyTarget → Prop} (hQ : ∀ clock, Q ⟨code.protection⟩ ⟨code, issued, clock⟩)
    (hE : ∀ text clock, E text ⟨code, issued, clock⟩) :
    wp ((faulty oracle).writableCodeRegion binding address size) Q E ⟨code, issued, clock⟩ := by
  simp only [faulty]
  refine wp_observe (fun _ clock h => ?_) hE
  cases h
  exact hQ clock

/-- Whether it succeeds or not, a change of protection changes nothing else. -/
theorem wp_protect {protection : UInt32} {Q : UInt32 → FaultyTarget → Prop}
    {E : String → FaultyTarget → Prop}
    (hQ : ∀ clock, Q code.protection ⟨setProtection protection code, .protect :: issued, clock⟩)
    (hE : ∀ text left clock, E text ⟨setProtection left code, .protect :: issued, clock⟩) :
    wp ((faulty oracle).protect address size protection) Q E ⟨code, issued, clock⟩ := by
  simp only [wp, faulty, mutate]
  cases oracle clock with
  | succeeds => exact hQ _
  | fails text => exact hE text code.protection _
  | failsAfterEffect text _ => exact hE text protection _

theorem wp_restore {protection : UInt32} {Q : Unit → FaultyTarget → Prop}
    {E : String → FaultyTarget → Prop}
    (hQ : ∀ clock, Q () ⟨setProtection protection code, .restore :: issued, clock⟩)
    (hE : ∀ text left clock, E text ⟨setProtection left code, .restore :: issued, clock⟩) :
    wp ((faulty oracle).restore address size protection) Q E ⟨code, issued, clock⟩ := by
  simp only [wp, faulty, mutate]
  cases oracle clock with
  | succeeds => exact hQ _
  | fails text => exact hE text code.protection _
  | failsAfterEffect text _ => exact hE text protection _

theorem wp_flush {Q : Unit → FaultyTarget → Prop} {E : String → FaultyTarget → Prop}
    (hQ : ∀ clock, Q () ⟨{ code with fresh := true }, .flush :: issued, clock⟩)
    (hE : ∀ text fresh clock, E text ⟨{ code with fresh }, .flush :: issued, clock⟩) :
    wp ((faulty oracle).flush address size) Q E ⟨code, issued, clock⟩ := by
  simp only [wp, faulty, mutate]
  cases oracle clock with
  | succeeds => exact hQ _
  | fails text => exact hE text code.fresh _
  | failsAfterEffect text _ => exact hE text true _

theorem reachedBytes_length (m : Memory UInt8) (bytes : List UInt8) (reached : ℕ → Bool) :
    (reachedBytes m address bytes reached).length = bytes.length := by
  simp [reachedBytes]

/-- A write that failed left some bytes of the span, of the length it was asked to write. -/
theorem wp_writeExact {bytes : List UInt8} {Q : Unit → FaultyTarget → Prop}
    {E : String → FaultyTarget → Prop}
    (hQ : ∀ clock, Q () ⟨setBytes address bytes code, .write :: issued, clock⟩)
    (hE : ∀ text left clock, left.length = bytes.length →
      E text ⟨setBytes address left code, .write :: issued, clock⟩) :
    wp ((faulty oracle).writeExact address bytes) Q E ⟨code, issued, clock⟩ := by
  simp only [wp, faulty, mutate]
  cases oracle clock with
  | succeeds => exact hQ _
  | fails text =>
    have hleft := hE text (readSpan code.memory address bytes.length) (clock + 1) (by simp)
    simpa only [setBytes, writeSpan_readSpan] using hleft
  | failsAfterEffect text reached => exact hE text _ _ (reachedBytes_length _ _ _)

/-- A check of the protection changes nothing, and is not wrong when it succeeds. -/
theorem wp_protectionIs {ε : Type} {protection : UInt32} {Q : Bool → FaultyTarget → Prop}
    {E : ε → FaultyTarget → Prop}
    (h : ∀ confirmed clock, (confirmed = true → code.protection = protection) →
      Q confirmed ⟨code, issued, clock⟩) :
    wp (protectionIs (faulty oracle) binding address size protection) Q E
      ⟨code, issued, clock⟩ := by
  simp only [protectionIs, wp_andThen, wp_isOk, wp_isOkAnd]
  refine wp_ensureExactBinding (fun clock => ?_) fun _ clock => h false clock (by simp)
  refine wp_writableCodeRegion (fun clock => ?_) fun _ clock => h false clock (by simp)
  exact h _ clock (by simp)

end Calls

/-! ### What a report means -/

/-- What a recovery says about the span before the transaction and the target after it. -/
def MutationRecovery.Truthful (before : CodeSpan) (after : FaultyTarget) :
    MutationRecovery → Prop
  | .noWriteAttempted protectionRestored =>
    .write ∉ after.issued ∧ after.code.memory = before.memory ∧
      (protectionRestored = true → after.code.protection = before.protection)
  | .restored =>
    after.code.memory = before.memory ∧ after.code.protection = before.protection ∧
      after.code.fresh = true
  | .indeterminate bytesRestored instructionCacheFlushed protectionRestored =>
    (bytesRestored = true → after.code.memory = before.memory) ∧
      (instructionCacheFlushed = true → after.code.fresh = true) ∧
      (protectionRestored = true → after.code.protection = before.protection)

/-- What the outcome of a transaction says about the target. -/
def TruthfulOutcome {α : Type} (before : CodeSpan) (address : ℕ) (replacement : List UInt8)
    (after : FaultyTarget) : Except LiveAccessError α → Prop
  | .ok _ =>
    after.code.memory = writeSpan before.memory address replacement ∧
      after.code.fresh = true ∧ after.code.protection = before.protection
  | .error (.mutationFailed stage _ recovery) =>
    recovery.Truthful before after ∧
      recovery.protocolRecovery.canonicalFor stage.protocolStage = true
  | .error _ => after.issued = [] ∧ after.code = before

/-! ### Recovery -/

section Recovery

variable {ε : Type} {oracle : ℕ → Verdict} {binding : LiveTargetBinding} {address : ℕ}
  {before code : CodeSpan} {issued : List Mutator} {clock : ℕ}

/-- Memory is the one before but for some bytes of the transaction's span. -/
def Spanned (before : CodeSpan) (address size : ℕ) (memory : Memory UInt8) : Prop :=
  ∃ cells : List UInt8, cells.length = size ∧ memory = writeSpan before.memory address cells

theorem Spanned.refl (before : CodeSpan) (address size : ℕ) :
    Spanned before address size before.memory :=
  ⟨readSpan before.memory address size, by simp, by rw [writeSpan_readSpan]⟩

/-- Another write of the same length is still a write of that length to the original bytes. -/
theorem Spanned.writeSpan {size : ℕ} {memory : Memory UInt8} {cells : List UInt8}
    (h : Spanned before address size memory) (hlen : cells.length = size) :
    Spanned before address size (Schemes.writeSpan memory address cells) := by
  obtain ⟨old, hold, rfl⟩ := h
  exact ⟨cells, hlen, writeSpan_writeSpan _ _ (by omega)⟩

/-- Once the span reads as before, all of memory is as before. -/
theorem Spanned.eq_of_readSpan {size : ℕ} {memory : Memory UInt8}
    (h : Spanned before address size memory)
    (hread : readSpan memory address size = readSpan before.memory address size) :
    memory = before.memory := by
  obtain ⟨cells, rfl, rfl⟩ := h
  rw [readSpan_writeSpan] at hread
  rw [hread, writeSpan_readSpan]

/-- The protection is put back only on a confirmed page, and claimed only when confirmed again. -/
theorem wp_restorePrewriteProtection {size : ℕ} {original : UInt32}
    {Q : Bool → FaultyTarget → Prop} {E : ε → FaultyTarget → Prop}
    (h : ∀ restored protection issued' clock, (.write ∈ issued' → .write ∈ issued) →
      (restored = true → protection = original) →
      Q restored ⟨setProtection protection code, issued', clock⟩) :
    wp (restorePrewriteProtection (faulty oracle) binding address size original) Q E
      ⟨code, issued, clock⟩ := by
  simp only [restorePrewriteProtection, wp_andThen, wp_isOk]
  refine wp_protectionIs fun changed clock _ => ?_
  cases changed with
  | false => exact h false code.protection issued clock id (by simp)
  | true =>
    refine wp_restore (fun clock => ?_) fun _ left clock => h false left _ clock (by simp) (by simp)
    exact wp_protectionIs fun restored clock hrestored => h restored original _ clock (by simp)
      fun _ => rfl

/-- A recovery is truthful, and never says that no write was attempted. -/
def Recovered (before : CodeSpan) (recovery : MutationRecovery) (after : FaultyTarget) : Prop :=
  recovery.Truthful before after ∧
    ∀ stage : MutationStage, stage.protocolStage.beforeWrite = false →
      recovery.protocolRecovery.canonicalFor stage.protocolStage = true

theorem recovered_indeterminateRecovery (before : CodeSpan) (after : FaultyTarget) :
    Recovered before indeterminateRecovery after := by
  refine ⟨by simp [MutationRecovery.Truthful, indeterminateRecovery], fun stage hstage => ?_⟩
  simp [indeterminateRecovery, MutationRecovery.protocolRecovery,
    MemoryWriteRecovery.canonicalFor, hstage]

/-- The three observations of a recovery decide what it reports. -/
theorem recovered_of_observations {after : FaultyTarget} {bytes flushed restored : Bool}
    (hbytes : bytes = true → after.code.memory = before.memory)
    (hflushed : flushed = true → after.code.fresh = true)
    (hrestored : restored = true → after.code.protection = before.protection) :
    Recovered before (if bytes && flushed && restored then .restored
      else .indeterminate bytes flushed restored) after := by
  by_cases hall : (bytes && flushed && restored) = true
  · rw [if_pos hall]
    simp only [Bool.and_eq_true] at hall
    obtain ⟨⟨hb, hf⟩, hr⟩ := hall
    exact ⟨⟨hbytes hb, hrestored hr, hflushed hf⟩, fun stage hstage => by
      simp [MutationRecovery.protocolRecovery, MemoryWriteRecovery.canonicalFor, hstage]⟩
  · rw [if_neg hall]
    refine ⟨⟨hbytes, hflushed, hrestored⟩, fun stage hstage => ?_⟩
    rw [Bool.not_eq_true] at hall
    simp only [MutationRecovery.protocolRecovery, MemoryWriteRecovery.canonicalFor, hstage, hall,
      Bool.or_false, Bool.not_false]

/-- The recovery write, and the flush that is only made after it on a confirmed page. -/
theorem wp_recoverFlush {expected : List UInt8} {wrote : Bool} {Q : Bool → FaultyTarget → Prop}
    {E : ε → FaultyTarget → Prop}
    (h : ∀ flushed fresh issued clock, (flushed = true → fresh = true) →
      Q flushed ⟨{ code with fresh }, issued, clock⟩) :
    wp (andThen (pure wrote)
      (andThen (protectionIs (faulty oracle) binding address expected.length pageExecuteReadwrite)
        (isOk ((faulty oracle).flush address expected.length)))) Q E ⟨code, issued, clock⟩ := by
  simp only [wp_andThen, wp_pure, wp_isOk]
  cases wrote with
  | false => exact h false code.fresh issued clock (by simp)
  | true =>
    refine wp_protectionIs fun confirmed clock _ => ?_
    cases confirmed with
    | false => exact h false code.fresh issued clock (by simp)
    | true =>
      exact wp_flush (fun clock => h true true _ clock fun _ => rfl)
        fun _ fresh clock => h false fresh _ clock (by simp)

/-- The bytes are claimed back only when they were read back. -/
theorem wp_readBack {expected : List UInt8} {wrote : Bool} {Q : Bool → FaultyTarget → Prop}
    {E : ε → FaultyTarget → Prop}
    (h : ∀ same clock, (same = true → readSpan code.memory address expected.length = expected) →
      Q same ⟨code, issued, clock⟩) :
    wp (andThen (pure wrote)
      (andThen (isOk ((faulty oracle).ensureExactBinding binding))
        (andThen (isOk ((faulty oracle).writableCodeRegion binding address expected.length))
          (isOkAnd ((faulty oracle).readExact address expected.length) (· = expected))))) Q E
      ⟨code, issued, clock⟩ := by
  have hfalse : ∀ clock, Q false ⟨code, issued, clock⟩ := fun clock => h false clock (by simp)
  simp only [wp_andThen, wp_pure, wp_isOk, wp_isOkAnd]
  cases wrote with
  | false => exact hfalse clock
  | true =>
    refine wp_ensureExactBinding (fun clock => ?_) fun _ clock => hfalse clock
    refine wp_writableCodeRegion (fun clock => ?_) fun _ clock => hfalse clock
    refine wp_readExact (fun clock => ?_) fun _ clock => hfalse clock
    exact h _ clock (by simp)

/-- However the recovery write ended, what follows it reports the truth. -/
theorem wp_settleRecovery {expected : List UInt8} {wrote : Bool} {E : ε → FaultyTarget → Prop}
    (hexpected : readSpan before.memory address expected.length = expected)
    (h : Spanned before address expected.length code.memory) :
    wp (settleRecovery (faulty oracle) binding address expected before.protection wrote)
      (Recovered before) E ⟨code, issued, clock⟩ := by
  simp only [settleRecovery, wp_bind, wp_pure]
  refine wp_recoverFlush fun flushed fresh _ _ hflushed => ?_
  refine wp_restorePrewriteProtection fun restored protection _ _ _ hrestored => ?_
  refine wp_readBack fun same _ hsame => ?_
  refine recovered_of_observations (fun hs => ?_) hflushed hrestored
  exact h.eq_of_readSpan ((hsame hs).trans hexpected.symm)

/-- Making the page writable can leave any protection, and touches nothing else. -/
theorem wp_makeWritable {size : ℕ} {original : UInt32} {changed : Bool}
    {Q : Bool → FaultyTarget → Prop} {E : ε → FaultyTarget → Prop}
    (h : ∀ writable protection issued clock, Q writable
      ⟨setProtection protection code, issued, clock⟩) :
    wp (makeWritable (faulty oracle) address size original changed) Q E ⟨code, issued, clock⟩ := by
  unfold makeWritable
  cases changed with
  | true => exact h true code.protection issued clock
  | false =>
    simp only [Bool.false_eq_true, if_false, wp_bind, wp_attempt]
    refine wp_protect (fun clock => ?_) fun _ left clock => h false left _ clock
    split
    · exact h true pageExecuteReadwrite _ clock
    · simp only [wp_bind, wp_isOk, wp_pure]
      exact wp_restore (fun clock => h false _ _ clock) fun _ left clock => h false left _ clock

theorem wp_recoverOriginalBytesChecked {expected : List UInt8} {changed : Bool}
    {E : ε → FaultyTarget → Prop}
    (hexpected : readSpan before.memory address expected.length = expected)
    (h : Spanned before address expected.length code.memory) :
    wp (recoverOriginalBytesChecked (faulty oracle) binding address expected before.protection
      changed) (Recovered before) E ⟨code, issued, clock⟩ := by
  simp only [recoverOriginalBytesChecked, wp_bind]
  refine wp_makeWritable fun writable protection issued clock => ?_
  simp only [wp_andThen, wp_pure]
  cases writable with
  | false => exact recovered_indeterminateRecovery _ _
  | true =>
    refine wp_protectionIs fun confirmed clock _ => ?_
    cases confirmed with
    | false => exact recovered_indeterminateRecovery _ _
    | true =>
      simp only [if_true, wp_bind, wp_isOk]
      refine wp_writeExact (fun clock => ?_) fun _ left clock hleft => ?_
      · exact wp_settleRecovery hexpected (h.writeSpan rfl)
      · exact wp_settleRecovery hexpected (h.writeSpan hleft)

theorem wp_recoverOriginalBytes {expected : List UInt8} {mayBeChanged : Bool}
    {E : ε → FaultyTarget → Prop}
    (hexpected : readSpan before.memory address expected.length = expected)
    (h : Spanned before address expected.length code.memory) :
    wp (recoverOriginalBytes (faulty oracle) binding address expected before.protection
      mayBeChanged) (Recovered before) E ⟨code, issued, clock⟩ := by
  simp only [recoverOriginalBytes, wp_bind, wp_attempt]
  refine wp_ensureExactBinding (fun clock => ?_)
    fun _ clock => recovered_indeterminateRecovery _ _
  refine wp_writableCodeRegion (fun clock => ?_)
    fun _ clock => recovered_indeterminateRecovery _ _
  dsimp only
  split
  · exact wp_recoverOriginalBytesChecked hexpected h
  · split
    · exact wp_recoverOriginalBytesChecked hexpected h
    · exact recovered_indeterminateRecovery _ _

end Recovery

/-! ### The transaction -/

section Transaction

variable {oracle : ℕ → Verdict} {binding : LiveTargetBinding} {address : ℕ}
  {before code : CodeSpan} {issued : List Mutator} {clock : ℕ} {expected replacement : List UInt8}

/-- Both ends of a run are truthful about the span before it. -/
def wpTruthful {α : Type} (before : CodeSpan) (address : ℕ) (replacement : List UInt8)
    (x : Reducer FaultyTarget LiveAccessError α) : FaultyTarget → Prop :=
  wp x (fun a t => TruthfulOutcome before address replacement t (.ok a))
    fun e t => TruthfulOutcome before address replacement t (.error e : Except _ α)

theorem wp_failRecovering {mayBeChanged : Bool} {stage : MutationStage} {failure : String}
    (hexpected : readSpan before.memory address expected.length = expected)
    (hstage : stage.protocolStage.beforeWrite = false)
    (h : Spanned before address expected.length code.memory) :
    wpTruthful before address replacement (failRecovering (α := Unit) (faulty oracle) binding
      address expected before.protection mayBeChanged stage failure) ⟨code, issued, clock⟩ := by
  simp only [wpTruthful, failRecovering, wp_bind, wp_raise]
  refine wp_mono (wp_recoverOriginalBytes hexpected h) (fun recovery t hrec => ?_) fun _ _ h => h
  exact ⟨hrec.1, hrec.2 stage hstage⟩

theorem wp_failPrewrite {stage : MutationStage} {failure : String}
    (hstage : stage.protocolStage.beforeWrite = true) (hcode : code.memory = before.memory)
    (hissued : .write ∉ issued) :
    wpTruthful before address replacement (failPrewrite (α := Unit) (faulty oracle) binding
      address expected.length before.protection stage failure) ⟨code, issued, clock⟩ := by
  simp only [wpTruthful, failPrewrite, wp_bind, wp_raise]
  refine wp_restorePrewriteProtection fun restored protection issued' clock hwrites hrestored => ?_
  exact ⟨⟨fun hw => hissued (hwrites hw), hcode, hrestored⟩, by
    simpa [MutationRecovery.protocolRecovery, MemoryWriteRecovery.canonicalFor] using hstage⟩

/-- From the first write on, every failure is followed by a truthful recovery. -/
theorem wp_replaceBytes (hexpected : readSpan before.memory address expected.length = expected)
    (hlength : expected.length = replacement.length) (hcode : code.memory = before.memory) :
    wpTruthful before address replacement (replaceBytes (faulty oracle) binding address expected
      replacement before.protection) ⟨code, issued, clock⟩ := by
  have hspanned : ∀ cells : List UInt8, cells.length = replacement.length →
      Spanned before address expected.length (writeSpan code.memory address cells) := by
    intro cells hcells
    rw [hcode]
    exact (Spanned.refl before address expected.length).writeSpan (by omega)
  simp only [wpTruthful, replaceBytes, wp_bind, wp_attempt]
  refine wp_writeExact (fun clock => ?_)
    fun _ left clock hleft => wp_failRecovering hexpected rfl (hspanned left hleft)
  refine wp_flush (fun clock => ?_)
    fun _ fresh clock => wp_failRecovering hexpected rfl (hspanned replacement rfl)
  refine wp_restore (fun clock => ?_)
    fun _ left clock => wp_failRecovering hexpected rfl (hspanned replacement rfl)
  refine wp_readExact (fun clock => ?_)
    fun _ clock => wp_failRecovering hexpected rfl (hspanned replacement rfl)
  split
  · exact wp_failRecovering hexpected rfl (hspanned replacement rfl)
  · simp only [wp_bind, wp_attempt]
    refine wp_ensureExactBinding (fun clock => ?_)
      fun _ clock => wp_failRecovering hexpected rfl (hspanned replacement rfl)
    exact ⟨congrArg (writeSpan · address replacement) hcode, rfl, rfl⟩

/-- A failure that is passed on left no trace but the clock. -/
theorem wp_propagate {α : Type} {x : Reducer FaultyTarget String α} {Q : α → FaultyTarget → Prop}
    {E : LiveAccessError → FaultyTarget → Prop} :
    wp (propagate x) Q E = wp x Q fun text => E (.operation text) :=
  wp_within

/-- The transaction, from a target on which it has issued nothing yet. -/
theorem wp_compareBeforeWriteTransaction (rva : ℕ)
    (hlength : expected.length = replacement.length) :
    wpTruthful before address replacement (compareBeforeWriteTransaction (faulty oracle) binding
      address rva expected replacement) ⟨before, [], clock⟩ := by
  have hquiet : ∀ text clock, TruthfulOutcome (α := Unit) before address replacement
      ⟨before, [], clock⟩ (.error (.operation text)) := fun _ _ => ⟨rfl, rfl⟩
  simp only [wpTruthful, compareBeforeWriteTransaction, wp_bind, wp_propagate, wp_refuse,
    wp_attempt]
  refine wp_readExact (fun clock => ?_) hquiet
  split
  · exact ⟨rfl, rfl⟩
  · rename_i hread
    rw [not_not] at hread
    refine wp_ensureExactBinding (fun clock => ?_) hquiet
    refine wp_writableCodeRegion (fun clock => ?_) hquiet
    refine wp_protect (fun clock => ?_) fun _ left clock => ?_
    · rw [if_neg (by simp)]
      simp only [wp_bind, wp_attempt]
      refine wp_readExact (fun clock => ?_) fun _ clock => wp_failPrewrite rfl rfl (by simp)
      split
      · exact wp_failPrewrite rfl rfl (by simp)
      · exact wp_replaceBytes hread hlength rfl
    · simp only [wp_raise]
      refine wp_protectionIs fun restored clock hrestored => ?_
      exact ⟨⟨by simp, rfl, hrestored⟩, rfl⟩

end Transaction

/-! ### What the caller and the debugger may conclude -/

/-- A truthful run, read off its outcome. -/
theorem wp_outcome {α : Type} {before : CodeSpan} {address : ℕ} {replacement : List UInt8}
    {x : Reducer FaultyTarget LiveAccessError α} {t after : FaultyTarget}
    {outcome : Except LiveAccessError α} (h : wpTruthful before address replacement x t)
    (hrun : x t = (outcome, after)) : TruthfulOutcome before address replacement after outcome := by
  unfold wpTruthful at h
  cases outcome with
  | ok a =>
    have hok := wp_ok h hrun
    exact hok
  | error e =>
    have herror := wp_error h hrun
    exact herror

theorem validateWriteRequest_length {expected replacement : List UInt8}
    (h : validateWriteRequest expected replacement = .ok ()) :
    expected.length = replacement.length := by
  unfold validateWriteRequest at h
  grind

/-- The whole call, with the checks that stand before the transaction. -/
theorem wp_compareBeforeWriteRva (oracle : ℕ → Verdict) (binding : LiveTargetBinding)
    (before : CodeSpan) (clock rva : ℕ) (expected replacement : List UInt8) :
    wpTruthful before (binding.actualImageBase.val + rva) replacement
      (compareBeforeWriteRva (faulty oracle) binding rva expected replacement)
      ⟨before, [], clock⟩ := by
  simp only [wpTruthful, compareBeforeWriteRva, wp_bind, wp_propagate, wp_lift]
  cases hvalid : validateWriteRequest expected replacement with
  | error e => exact ⟨rfl, rfl⟩
  | ok u =>
    refine wp_ensureExactBinding (fun clock => ?_) fun _ _ => ⟨rfl, rfl⟩
    cases haddress : binding.addressForRvaSpan rva expected.length with
    | error e => exact ⟨rfl, rfl⟩
    | ok address =>
      rw [← LiveTargetBinding.addressForRvaSpan_val haddress]
      exact wp_mono (wp_compareBeforeWriteTransaction rva (validateWriteRequest_length hvalid))
        (fun _ _ h => h) fun e _ h => by cases e <;> exact h

/-- Evidence that a rollback is safe is given only where nothing is left to roll back. -/
theorem TruthfulOutcome.rollbackSafe {α : Type} {before : CodeSpan} {base size : ℕ}
    {replacement : List UInt8} {after : FaultyTarget} {error : LiveAccessError} {stop : StopToken}
    {address : MemoryAddress} {evidence : MemoryWriteFailure}
    (h : TruthfulOutcome before base replacement after (.error error : Except _ α))
    (hevidence : error.toMemoryWriteFailure stop address size = .ok (some evidence))
    (hsafe : evidence.recovery.isRollbackSafe = true) :
    after.code.memory = before.memory ∧ after.code.protection = before.protection ∧
      (.write ∈ after.issued → after.code.fresh = true) := by
  obtain ⟨stage, failure, recovery, rfl, hrecovery⟩ := toMemoryWriteFailure_eq_some hevidence
  rw [hrecovery] at hsafe
  cases recovery with
  | noWriteAttempted protectionRestored =>
    obtain ⟨⟨hissued, hmemory, hprotection⟩, -⟩ := h
    exact ⟨hmemory, hprotection hsafe, fun hwrite => absurd hwrite hissued⟩
  | restored =>
    obtain ⟨⟨hmemory, hprotection, hfresh⟩, -⟩ := h
    exact ⟨hmemory, hprotection, fun _ => hfresh⟩
  | indeterminate bytesRestored instructionCacheFlushed protectionRestored => cases hsafe

/-- CORRECT (truthful transaction): whatever fails, and however much of a failed call was done, the
    outcome of a compare-before-write says what became of the span. This holds of the transaction on
    a request whose lengths agree, and of the public call, which makes sure of that, on every
    request; and a rollback that the evidence calls safe has nothing left to undo. -/
theorem compareBeforeWrite_truthful (oracle : ℕ → Verdict) (binding : LiveTargetBinding)
    (before : CodeSpan) (clock rva : ℕ) (expected replacement : List UInt8) :
    (∀ address outcome after, expected.length = replacement.length →
      compareBeforeWriteTransaction (faulty oracle) binding address rva expected replacement
        ⟨before, [], clock⟩ = (outcome, after) →
      TruthfulOutcome before address replacement after outcome) ∧
    ∀ outcome after,
      compareBeforeWriteRva (faulty oracle) binding rva expected replacement
        ⟨before, [], clock⟩ = (outcome, after) →
      TruthfulOutcome before (binding.actualImageBase.val + rva) replacement after outcome ∧
      ∀ error stop address size evidence, outcome = .error error →
        error.toMemoryWriteFailure stop address size = .ok (some evidence) →
        evidence.recovery.isRollbackSafe = true →
        after.code.memory = before.memory ∧ after.code.protection = before.protection ∧
          (.write ∈ after.issued → after.code.fresh = true) := by
  constructor
  · intro address outcome after hlength hrun
    exact wp_outcome (wp_compareBeforeWriteTransaction rva hlength) hrun
  · intro outcome after hrun
    have htruth := wp_outcome (wp_compareBeforeWriteRva oracle binding before clock rva expected
      replacement) hrun
    refine ⟨htruth, ?_⟩
    rintro error stop address size evidence rfl hevidence hsafe
    exact htruth.rollbackSafe hevidence hsafe

/-! ### A transaction that is interrupted and recovers -/

/-- The write is cut after its first byte; every later call succeeds. -/
def sampleOracle : ℕ → Verdict
  | 6 => .failsAfterEffect "live memory write was partial: requested 2, wrote 1" fun i => i = 0
  | _ => .succeeds

def sampleCode : CodeSpan where
  memory _ := 0x90
  protection := 0x20
  fresh := true
  identity := true

/-- A call whose write is cut after one of its two bytes restores them and says so. -/
theorem compareBeforeWrite_truthful_interrupted :
    ∃ text after, compareBeforeWriteRva (faulty sampleOracle) sampleBinding 0x10 [0x90, 0x90]
        [0xcc, 0xcc] ⟨sampleCode, [], 0⟩ =
          (.error (.mutationFailed .writeReplacement text .restored), after) ∧
      after.code.memory = sampleCode.memory ∧ after.code.fresh = true := by
  have hall := compareBeforeWrite_truthful sampleOracle sampleBinding sampleCode 0 0x10
    [0x90, 0x90] [0xcc, 0xcc]
  have hrun : compareBeforeWriteRva (faulty sampleOracle) sampleBinding 0x10 [0x90, 0x90]
      [0xcc, 0xcc] ⟨sampleCode, [], 0⟩ = (.error (.mutationFailed .writeReplacement
        "live memory write was partial: requested 2, wrote 1" .restored), _) := rfl
  obtain ⟨⟨⟨hmemory, -, hfresh⟩, -⟩, -⟩ := hall.2 _ _ hrun
  exact ⟨_, _, hrun, hmemory, hfresh⟩

end ReSymbol.LiveAccess
