import ReSymbol.LinuxDebugHost.Target
import ReSymbol.Schemes.Runs

/-! The tables of a session mirror its target.

    Beside the session runs what its caller intends: a logical memory, which the caller writes and
    the target stores into, and the length last requested for each debug-register slot. A target
    that leaves the bytes under the breakpoints alone is mirrored after every call:

        memory     INT3 where a breakpoint is armed, the logical byte everywhere else
        table      the logical byte that each armed breakpoint hides
        slot i     occupied  ⟷  DRi, the enable bit and the nibble of DR7 say so
        detach     every byte is the logical one again, and no slot is left enabled -/

namespace ReSymbol.LinuxDebugHost
open Schemes Schemes.Reducer LinuxDebugSession TargetSession

/-! ### What the caller intends -/

/-- The memory as the caller and the target wrote it, and the length requested for each slot. -/
structure Intended where
  logical : Memory UInt8
  requested : Fin hardwareSlots → Option UInt64

/-- The length a call requests for the slot that it occupies. -/
def Call.requestedLength : Call → Option UInt64
  | .setHwBreakpoint _ => some 1
  | .setWatchpoint _ len _ => some len
  | _ => none

/-- The logical memory after a call: only writes and the target's own stores change it. -/
def logicalAfter (logical : Memory UInt8) (input : Call × Move)
    (answer : Except HostError Answer) : Memory UInt8 :=
  match input.1, answer with
  | .writeMemory address bytes, .ok _ => writeSpan logical address.toNat bytes
  | .continueExecution, .ok _ => input.2.storesOn logical
  | .singleStep, .ok _ => input.2.storesOn logical
  | _, _ => logical

/-- The lengths requested after a call: a slot has one from the call that occupied it on. -/
def requestedAfter (requested : Fin hardwareSlots → Option UInt64) (input : Call × Move)
    (s s' : TargetSession) (slot : Fin hardwareSlots) : Option UInt64 :=
  match s'.hardware slot, s.hardware slot with
  | none, _ => none
  | some _, none => input.1.requestedLength
  | some _, some _ => requested slot

/-- A session with what its caller intends. -/
structure Watched where
  session : TargetSession
  intended : Intended

def Watched.start (t : Target) : Watched := ⟨.new t, ⟨t.memory, fun _ => none⟩⟩

/-- The running target does not store where a breakpoint is armed. -/
def KeepsCode (s : TargetSession) (m : Move) : Prop := ∀ store ∈ m.stores, store.1 ∉ s.breakpoints

/-- Make a call and follow what it intends. -/
def Watched.advance (x : Watched) (input : Call × Move) : Except HostError Answer × Watched :=
  let run := perform input x.session
  (run.1, ⟨run.2, ⟨logicalAfter x.intended.logical input run.1,
    requestedAfter x.intended.requested input x.session run.2⟩⟩)

/-- One call on the session of a target that keeps its code. -/
def Watched.Step (x : Watched) (input : Call × Move) (answer : Except HostError Answer)
    (x' : Watched) : Prop :=
  KeepsCode x.session input.2 ∧ x.advance input = (answer, x')

/-! ### Mirrored memory -/

/-- Breakpoints hide the logical bytes, and every other byte is the logical one. -/
structure MemoryMirrors (s : TargetSession) (logical : Memory UInt8) : Prop where
  hidden : ∀ (a : UInt64) (armed : ArmedBreakpoint), s.breakpoints[a]? = some armed →
    s.ops.memory a.toNat = breakpointByte ∧ armed.originalByte = logical a.toNat
  visible : ∀ n, (∀ a ∈ s.breakpoints, a.toNat ≠ n) → s.ops.memory n = logical n
  accessible : ∀ a ∈ s.breakpoints, Target.Accessible a 1

theorem writeSpan_singleton (memory : Memory UInt8) (address n : ℕ) (byte : UInt8) :
    writeSpan memory address [byte] n = if n = address then byte else memory n := by
  rcases eq_or_ne n address with rfl | hne
  · simp [writeSpan]
  · rw [if_neg hne, writeSpan_outside]
    intro hle
    simp only [List.length_singleton]
    omega

theorem memoryMirrors_planted {s : TargetSession} {logical : Memory UInt8}
    (h : MemoryMirrors s logical) {address : UInt64} (hnew : address ∉ s.breakpoints)
    (ha : Target.Accessible address 1) : MemoryMirrors (s.planted address) logical := by
  have hbyte : s.ops.memory address.toNat = logical address.toNat :=
    h.visible _ fun a hmem heq => hnew (UInt64.toNat_inj.mp heq ▸ hmem)
  refine ⟨fun a armed harmed => ?_, fun n hn => ?_, fun a hmem => ?_⟩
  · change writeSpan s.ops.memory address.toNat [breakpointByte] a.toNat = _ ∧ _
    change (s.breakpoints.insert address ⟨s.ops.memory address.toNat⟩)[a]? = some armed at harmed
    rw [writeSpan_singleton]
    rcases eq_or_ne address a with rfl | hne
    · rw [Std.ExtTreeMap.getElem?_insert_self, Option.some.injEq] at harmed
      exact ⟨if_pos rfl, by rw [← harmed, ← hbyte]⟩
    · have hne' : a.toNat ≠ address.toNat := fun heq => hne (UInt64.toNat_inj.mp heq).symm
      rw [Std.ExtTreeMap.getElem?_insert, if_neg (by simpa using hne)] at harmed
      rw [if_neg hne']
      exact h.hidden a armed harmed
  · change writeSpan s.ops.memory address.toNat [breakpointByte] n = _
    rw [writeSpan_singleton, if_neg fun heq => hn address (mem_planted.mpr (.inl rfl)) heq.symm]
    exact h.visible n fun a hmem => hn a (mem_planted.mpr (.inr hmem))
  · rcases mem_planted.mp hmem with rfl | hmem
    · exact ha
    · exact h.accessible a hmem

theorem memoryMirrors_unplanted {s : TargetSession} {logical : Memory UInt8}
    (h : MemoryMirrors s logical) {address : UInt64} {armed : ArmedBreakpoint}
    (harmed : s.breakpoints[address]? = some armed) :
    MemoryMirrors (s.unplanted address armed) logical := by
  have hmemory : ∀ n, (s.unplanted address armed).ops.memory n =
      if n = address.toNat then armed.originalByte else s.ops.memory n :=
    fun n => writeSpan_singleton s.ops.memory address.toNat n armed.originalByte
  refine ⟨fun a armed' harmed' => ?_, fun n hn => ?_, fun a hmem => ?_⟩
  · simp only [TargetSession.unplanted, Std.ExtTreeMap.getElem?_erase,
      Std.LawfulEqOrd.compare_eq_iff_eq] at harmed'
    split_ifs at harmed' with hne
    rw [hmemory, if_neg fun heq => hne (UInt64.toNat_inj.mp heq).symm]
    exact h.hidden a armed' harmed'
  · rw [hmemory]
    split_ifs with heq
    · rw [heq, (h.hidden address armed harmed).2]
    · refine h.visible n fun a hmem => ?_
      rcases eq_or_ne address a with rfl | hne
      · exact fun h => heq h.symm
      · exact hn a (mem_unplanted.mpr ⟨hne, hmem⟩)
  · exact h.accessible a (mem_unplanted.mp hmem).2

/-- What a write stores at the address of a breakpoint that it covers. -/
theorem writeSpan_covered (memory : Memory UInt8) {address a : UInt64} {bytes : List UInt8}
    (hc : covers address bytes.length a) : writeSpan memory address.toNat bytes a.toNat =
      (TargetSession.hiddenByte address bytes a).originalByte := by
  have hle : address.toNat ≤ a.toNat := UInt64.le_iff_toNat_le.mp hc.1
  have hlt : a.toNat - address.toNat < bytes.length := by
    have := hc.2
    omega
  rw [writeSpan_inside memory hle hlt, TargetSession.hiddenByte, List.getD_eq_getElem _ _ hlt]
  rfl

/-- A write that does not cover a breakpoint does not touch its address. -/
theorem writeSpan_uncovered (memory : Memory UInt8) {address a : UInt64} {bytes : List UInt8}
    (ha : Target.Accessible address bytes.length) (hc : ¬ covers address bytes.length a) :
    writeSpan memory address.toNat bytes a.toNat = memory a.toNat := by
  refine writeSpan_outside memory fun hle => ?_
  by_contra hlt
  refine hc ⟨UInt64.le_iff_toNat_le.mpr hle, ?_⟩
  rcases ha with ha | ha
  · simp [ha] at hlt
  · omega

theorem memoryMirrors_rewritten {s : TargetSession} {logical : Memory UInt8}
    (h : MemoryMirrors s logical) {address : UInt64} {bytes : List UInt8}
    (ha : Target.Accessible address bytes.length) :
    MemoryMirrors (s.rewritten address bytes) (writeSpan logical address.toNat bytes) := by
  refine ⟨fun a armed harmed => ?_, fun n hn => ?_, fun a hmem => h.accessible a
    (mem_rewritten.mp hmem)⟩
  · have hmem : a ∈ s.breakpoints := mem_rewritten.mp (mem_of_getElem? harmed)
    rw [TargetSession.rewritten_getElem?] at harmed
    rw [TargetSession.rewritten_memory]
    by_cases hc : covers address bytes.length a
    · rw [if_pos ⟨hmem, hc⟩, Option.some.injEq] at harmed
      refine ⟨if_pos ⟨a, hmem, hc, rfl⟩, ?_⟩
      rw [writeSpan_covered logical hc, ← harmed]
    · rw [if_neg fun hc' => hc hc'.2] at harmed
      rw [if_neg, writeSpan_uncovered _ ha hc, writeSpan_uncovered _ ha hc]
      · exact h.hidden a armed harmed
      · rintro ⟨a', _, hc', heq⟩
        exact hc (UInt64.toNat_inj.mp heq ▸ hc')
  · have hn' : ∀ a ∈ s.breakpoints, a.toNat ≠ n := fun a hmem => hn a (mem_rewritten.mpr hmem)
    rw [TargetSession.rewritten_memory, if_neg fun ⟨a, hmem, _, heq⟩ => hn' a hmem heq]
    unfold writeSpan
    rw [h.visible n hn']

theorem storesOn_of_ne (m : Move) (memory : Memory UInt8) {n : ℕ}
    (hn : ∀ store ∈ m.stores, store.1.toNat ≠ n) : m.storesOn memory n = memory n := by
  unfold Move.storesOn
  generalize m.stores = stores at hn
  induction stores generalizing memory with
  | nil => rfl
  | cons store stores ih =>
    rw [List.foldl_cons, ih _ fun store' hmem => hn store' (by simp [hmem]), writeSpan_singleton,
      if_neg (hn store (by simp)).symm]

theorem storesOn_congr (m : Move) {memory memory' : Memory UInt8} {n : ℕ}
    (h : memory n = memory' n) : m.storesOn memory n = m.storesOn memory' n := by
  unfold Move.storesOn
  generalize m.stores = stores
  induction stores generalizing memory memory' with
  | nil => exact h
  | cons store stores ih =>
    rw [List.foldl_cons, List.foldl_cons]
    refine ih ?_
    rw [writeSpan_singleton, writeSpan_singleton, h]

/-- The memory after a stop, when the target stored nothing below a breakpoint. -/
theorem memoryMirrors_stores {s s' : TargetSession} {logical : Memory UInt8}
    (h : MemoryMirrors s logical) {m : Move} (hcode : KeepsCode s m)
    (hbreakpoints : s'.breakpoints = s.breakpoints)
    (hmemory : s'.ops.memory = m.storesOn s.ops.memory) :
    MemoryMirrors s' (m.storesOn logical) := by
  refine ⟨fun a armed harmed => ?_, fun n hn => ?_, fun a hmem => ?_⟩
  · rw [hbreakpoints] at harmed
    have hne : ∀ store ∈ m.stores, store.1.toNat ≠ a.toNat := fun store hmem heq =>
      hcode store hmem (UInt64.toNat_inj.mp heq ▸ mem_of_getElem? harmed)
    rw [hmemory, storesOn_of_ne m _ hne, storesOn_of_ne m _ hne]
    exact h.hidden a armed harmed
  · rw [hbreakpoints] at hn
    rw [hmemory]
    exact storesOn_congr m (h.visible n hn)
  · exact h.accessible a (hbreakpoints ▸ hmem)

/-- The memory after a step off a breakpoint, whose `INT3` was lifted for the step only. -/
theorem memoryMirrors_steppedOff {s : TargetSession} {logical : Memory UInt8}
    (h : MemoryMirrors s logical) {m : Move} (hcode : KeepsCode s m) {address : UInt64}
    {armed : ArmedBreakpoint} (harmed : s.breakpoints[address]? = some armed) :
    MemoryMirrors (((s.poke address [armed.originalByte]).resumed m).poke address [breakpointByte])
      (m.storesOn logical) := by
  have hmemory : ∀ n, (((s.poke address [armed.originalByte]).resumed m).poke address
      [breakpointByte]).ops.memory n = if n = address.toNat then breakpointByte
        else m.storesOn (writeSpan s.ops.memory address.toNat [armed.originalByte]) n :=
    fun n => writeSpan_singleton _ _ _ _
  have hlifted : ∀ n, n ≠ address.toNat →
      writeSpan s.ops.memory address.toNat [armed.originalByte] n = s.ops.memory n := by
    intro n hn
    rw [writeSpan_singleton, if_neg hn]
  refine ⟨fun a armed' harmed' => ?_, fun n hn => ?_, h.accessible⟩
  · change s.breakpoints[a]? = some armed' at harmed'
    have hne : ∀ store ∈ m.stores, store.1.toNat ≠ a.toNat := fun store hmem heq =>
      hcode store hmem (UInt64.toNat_inj.mp heq ▸ mem_of_getElem? harmed')
    rw [hmemory, storesOn_of_ne m logical hne]
    refine ⟨?_, (h.hidden a armed' harmed').2⟩
    split_ifs with heq
    · rfl
    · rw [storesOn_of_ne m _ hne, hlifted _ heq]
      exact (h.hidden a armed' harmed').1
  · have hn' : n ≠ address.toNat := fun heq => hn address (mem_of_getElem? harmed) heq.symm
    rw [hmemory, if_neg hn']
    exact storesOn_congr m ((hlifted n hn').trans (h.visible n hn))

/-- The bytes of a read, once the original bytes are put back one after the other. -/
theorem substituteOriginals_eq {address : UInt64} {len : ℕ} (hlen : Target.Accessible address len)
    {logical : Memory UInt8} (armed : List (UInt64 × ArmedBreakpoint)) (bytes : List UInt8)
    (hbytes : bytes.length = len)
    (hsaved : ∀ bp ∈ armed, bp.2.originalByte = logical bp.1.toNat)
    (hleft : ∀ i < len, bytes[i]? = some (logical (address.toNat + i)) ∨
      ∃ bp ∈ armed, bp.1.toNat = address.toNat + i) :
    substituteOriginals address len armed bytes = readSpan logical address.toNat len := by
  induction armed generalizing bytes with
  | nil =>
    refine List.ext_getElem? fun i => ?_
    rcases Nat.lt_or_ge i len with hi | hi
    · rcases hleft i hi with h | ⟨_, h, _⟩
      · simp [substituteOriginals, h, readSpan, hi]
      · simp at h
    · rw [List.getElem?_eq_none (by simpa [substituteOriginals, hbytes] using hi),
        List.getElem?_eq_none (by simpa using hi)]
  | cons bp armed ih =>
    refine ih (if covers address len bp.1 then
      bytes.set (bp.1.toNat - address.toNat) bp.2.originalByte else bytes) ?_
      (fun bp' hmem => hsaved bp' (by simp [hmem])) fun i hi => ?_
    · split_ifs <;> simp [hbytes]
    · rcases eq_or_ne bp.1.toNat (address.toNat + i) with heq | hne
      · -- this breakpoint hides the byte
        have hc : covers address len bp.1 := by
          refine ⟨UInt64.le_iff_toNat_le.mpr (by omega), ?_⟩
          rcases hlen with hlen | hlen <;> omega
        have hoffset : bp.1.toNat - address.toNat = i := by omega
        refine .inl ?_
        rw [if_pos hc, hoffset, List.getElem?_set_self (by omega), hsaved bp (by simp), heq]
      · have hkeep : (if covers address len bp.1 then
            bytes.set (bp.1.toNat - address.toNat) bp.2.originalByte else bytes)[i]? =
              bytes[i]? := by
          split_ifs with hc
          · have := UInt64.le_iff_toNat_le.mp hc.1
            rw [List.getElem?_set_ne (by omega)]
          · rfl
        rw [hkeep]
        rcases hleft i hi with h | ⟨bp', hmem, heq⟩
        · exact .inl h
        · rcases List.mem_cons.mp hmem with rfl | hmem
          · exact absurd heq hne
          · exact .inr ⟨bp', hmem, heq⟩

/-- A read of mirrored memory shows the logical bytes. -/
theorem substituteOriginals_of_mirrors {s : TargetSession} {logical : Memory UInt8}
    (h : MemoryMirrors s logical) {address : UInt64} {len : ℕ}
    (hlen : Target.Accessible address len) :
    substituteOriginals address len s.breakpoints.toList
      (readSpan s.ops.memory address.toNat len) = readSpan logical address.toNat len := by
  refine substituteOriginals_eq hlen _ _ (by simp) (fun bp hmem => ?_) fun i hi => ?_
  · exact (h.hidden bp.1 bp.2 (Std.ExtTreeMap.mem_toList_iff_getElem?_eq_some.mp hmem)).2
  · by_cases hex : ∃ a ∈ s.breakpoints, a.toNat = address.toNat + i
    · obtain ⟨a, hmem, heq⟩ := hex
      obtain ⟨armed, harmed⟩ := getElem?_of_mem hmem
      exact .inr ⟨(a, armed), Std.ExtTreeMap.mem_toList_iff_getElem?_eq_some.mpr harmed, heq⟩
    · refine .inl ?_
      rw [← h.visible (address.toNat + i) fun a hmem heq => hex ⟨a, hmem, heq⟩]
      simp [readSpan, hi]

/-! ### Mirrored slots -/

/-- Occupied slots are programmed as requested, released ones own no set bit of `DR7` that was not
    set before the session, and no other bit of `DR7` changed. -/
structure SlotsMirror (dr7 : UInt64) (s : TargetSession)
    (requested : Fin hardwareSlots → Option UInt64) : Prop where
  occupied : ∀ i armed, s.hardware i = some armed →
    s.ops.user (drAddressOffset i) = armed.address ∧ Enabled (s.ops.user dr7Offset) i ∧
      ∃ len, requested i = some len ∧ Encodes (s.ops.user dr7Offset) i armed.kind len
  free : ∀ i, s.hardware i = none → requested i = none ∧
    ((∀ j, OwnsBit i j → bit (s.ops.user dr7Offset) j = bit dr7 j) ∨
      ∀ j, OwnsBit i j → bit (s.ops.user dr7Offset) j = false)
  others : ∀ j, (∀ i, ¬ OwnsBit i j) → bit (s.ops.user dr7Offset) j = bit dr7 j
  distinct : Distinct s.hardware

theorem drAddressOffset_inj {i i' : Fin hardwareSlots}
    (h : drAddressOffset i = drAddressOffset i') : i = i' := by
  refine Fin.ext ?_
  simp only [drAddressOffset] at h
  omega

theorem SlotsMirror.congr {dr7 : UInt64} {s s' : TargetSession}
    {requested : Fin hardwareSlots → Option UInt64} (h : SlotsMirror dr7 s requested)
    (hhardware : s'.hardware = s.hardware)
    (huser : ∀ offset, offset ≠ dr6Offset → s'.ops.user offset = s.ops.user offset) :
    SlotsMirror dr7 s' requested := by
  have haddress : ∀ i, s'.ops.user (drAddressOffset i) = s.ops.user (drAddressOffset i) := by
    intro i
    have := i.isLt
    refine huser _ ?_
    simp only [drAddressOffset, dr6Offset, hardwareSlots] at *
    omega
  have hdr7 : s'.ops.user dr7Offset = s.ops.user dr7Offset := huser _ (by decide)
  refine ⟨?_, ?_, ?_, ?_⟩
  · rw [hhardware, hdr7]
    intro i armed harmed
    rw [haddress]
    exact h.occupied i armed harmed
  · rw [hhardware, hdr7]
    exact h.free
  · rw [hdr7]
    exact h.others
  · rw [hhardware]
    exact h.distinct

theorem ownsBit_enable (i : Fin hardwareSlots) : OwnsBit i (2 * i.val) := .inl rfl

theorem ownsBit_nibble (i : Fin hardwareSlots) {k : ℕ} (hk : k < 4) :
    OwnsBit i (16 + 4 * i.val + k) := .inr ⟨by omega, by omega⟩

/-- What another slot owns says the same in two control words that agree on it. -/
theorem encodes_congr {dr7 dr7' : UInt64} {i : Fin hardwareSlots}
    (h : ∀ j, OwnsBit i j → bit dr7' j = bit dr7 j) {kind : HardwareKind} {len : UInt64}
    (hold : Enabled dr7 i ∧ Encodes dr7 i kind len) :
    Enabled dr7' i ∧ Encodes dr7' i kind len := by
  obtain ⟨henabled, hcondition, hlength⟩ := hold
  have hnibble : ∀ k < 4, bit dr7' (16 + 4 * i.val + k) = bit dr7 (16 + 4 * i.val + k) :=
    fun k hk => h _ (ownsBit_nibble i hk)
  refine ⟨?_, ?_, ?_⟩
  · unfold Enabled
    rw [h _ (ownsBit_enable i)]
    exact henabled
  · rw [hnibble 0 (by omega), hnibble 1 (by omega)]
    exact hcondition
  · rw [hnibble 2 (by omega), hnibble 3 (by omega)]
    exact hlength

theorem slotsMirror_occupied {dr7 : UInt64} {s : TargetSession}
    {requested : Fin hardwareSlots → Option UInt64} (h : SlotsMirror dr7 s requested)
    {address len lengthBits : UInt64} {kind : HardwareKind} {slot : Fin hardwareSlots}
    (hnew : s.slotAt address = none) (hfree : s.freeSlot = some slot)
    (hlen : encodeLength kind len = .ok lengthBits) :
    SlotsMirror dr7 (s.occupied slot ⟨address, kind⟩ lengthBits)
      (Function.update requested slot (some len)) := by
  set s' := s.occupied slot ⟨address, kind⟩ lengthBits with hs'
  have hhardware : s'.hardware = Function.update s.hardware slot (some ⟨address, kind⟩) := rfl
  have hbit : ∀ j, bit (s'.ops.user dr7Offset) j = if OwnsBit slot j then
      decide (j = 2 * slot.val) || bit (encodeNibble kind lengthBits) (j - (16 + 4 * slot.val))
      else bit (s.ops.user dr7Offset) j := by
    intro j
    rw [← bit_armed hlen (s.ops.user dr7Offset) slot j]
    simp [hs', TargetSession.occupied, TargetSession.pokeUser]
  have hother : ∀ i, i ≠ slot → ∀ j, OwnsBit i j →
      bit (s'.ops.user dr7Offset) j = bit (s.ops.user dr7Offset) j := by
    intro i hi j hj
    rw [hbit, if_neg fun hj' => hi (ownsBit_inj hj hj')]
  have haddress : ∀ i, s'.ops.user (drAddressOffset i) =
      if i = slot then address else s.ops.user (drAddressOffset i) := by
    intro i
    simp only [hs', TargetSession.occupied, TargetSession.pokeUser,
      Function.update_of_ne (TargetSession.drAddressOffset_ne_dr7Offset i)]
    split_ifs with hi
    · rw [hi, Function.update_self]
    · rw [Function.update_of_ne fun heq => hi (drAddressOffset_inj heq)]
  refine ⟨fun i armed harmed => ?_, fun i hnone => ?_, fun j hj => ?_,
    h.distinct.occupy slot fun i armed harmed => address_ne_of_slotAt hnew harmed⟩
  · rw [hhardware] at harmed
    rw [haddress]
    rcases eq_or_ne i slot with rfl | hi
    · rw [Function.update_self, Option.some.injEq] at harmed
      subst harmed
      refine ⟨if_pos rfl, ?_, len, by rw [Function.update_self],
        encodes_of_nibble hlen fun k hk => ?_⟩
      · simp [Enabled, hbit, ownsBit_enable]
      · have hi : i.val < 4 := i.isLt
        rw [hbit, if_pos (ownsBit_nibble i hk), decide_eq_false (by omega), Bool.false_or,
          Nat.add_sub_cancel_left]
    · rw [Function.update_of_ne hi] at harmed
      obtain ⟨haddr, henabled, len', hreq, hencodes⟩ := h.occupied i armed harmed
      obtain ⟨henabled', hencodes'⟩ := encodes_congr (hother i hi) ⟨henabled, hencodes⟩
      refine ⟨by rw [if_neg hi, haddr], henabled', len', ?_, hencodes'⟩
      rw [Function.update_of_ne hi, hreq]
  · rcases eq_or_ne i slot with rfl | hi
    · simp [hhardware] at hnone
    · rw [hhardware, Function.update_of_ne hi] at hnone
      obtain ⟨hreq, hbits⟩ := h.free i hnone
      refine ⟨by rw [Function.update_of_ne hi, hreq], ?_⟩
      rcases hbits with hbits | hbits
      · exact .inl fun j hj => (hother i hi j hj).trans (hbits j hj)
      · exact .inr fun j hj => (hother i hi j hj).trans (hbits j hj)
  · rw [hbit, if_neg (hj slot)]
    exact h.others j hj

theorem slotsMirror_released {dr7 : UInt64} {s : TargetSession}
    {requested : Fin hardwareSlots → Option UInt64} (h : SlotsMirror dr7 s requested)
    (slot : Fin hardwareSlots) :
    SlotsMirror dr7 (s.released slot) (Function.update requested slot none) := by
  set s' := s.released slot with hs'
  have hhardware : s'.hardware = Function.update s.hardware slot none := rfl
  have hdr7 : s'.ops.user dr7Offset = clearDr7Slot (s.ops.user dr7Offset) slot := by
    simp [hs', TargetSession.released, TargetSession.pokeUser,
      Function.update_of_ne (TargetSession.drAddressOffset_ne_dr7Offset slot).symm]
  have hother : ∀ i, i ≠ slot → ∀ j, OwnsBit i j →
      bit (s'.ops.user dr7Offset) j = bit (s.ops.user dr7Offset) j := by
    intro i hi j hj
    rw [hdr7, bit_clearDr7Slot, decide_eq_false fun hj' => hi (ownsBit_inj hj hj'), Bool.not_false,
      Bool.and_true]
  refine ⟨fun i armed harmed => ?_, fun i hnone => ?_, fun j hj => ?_,
    h.distinct.free slot⟩
  · rw [hhardware] at harmed
    rcases eq_or_ne i slot with rfl | hi
    · simp at harmed
    · rw [Function.update_of_ne hi] at harmed
      obtain ⟨haddr, henabled, len, hreq, hencodes⟩ := h.occupied i armed harmed
      obtain ⟨henabled', hencodes'⟩ := encodes_congr (hother i hi) ⟨henabled, hencodes⟩
      refine ⟨?_, henabled', len, by rw [Function.update_of_ne hi, hreq], hencodes'⟩
      rw [← haddr]
      simp only [hs', TargetSession.released, TargetSession.pokeUser]
      rw [Function.update_of_ne fun heq => hi (drAddressOffset_inj heq),
        Function.update_of_ne (TargetSession.drAddressOffset_ne_dr7Offset i)]
  · rcases eq_or_ne i slot with rfl | hi
    · refine ⟨Function.update_self .., .inr fun j hj => ?_⟩
      rw [hdr7, bit_clearDr7Slot, decide_eq_true hj, Bool.not_true, Bool.and_false]
    · rw [hhardware, Function.update_of_ne hi] at hnone
      obtain ⟨hreq, hbits⟩ := h.free i hnone
      refine ⟨by rw [Function.update_of_ne hi, hreq], ?_⟩
      rcases hbits with hbits | hbits
      · exact .inl fun j hj => (hother i hi j hj).trans (hbits j hj)
      · exact .inr fun j hj => (hother i hi j hj).trans (hbits j hj)
  · rw [hdr7, bit_clearDr7Slot, decide_eq_false (hj slot), Bool.not_false, Bool.and_true]
    exact h.others j hj

/-! ### One call -/

/-- The target lives and both tables mirror it. -/
structure Mirrored (dr7 : UInt64) (s : TargetSession) (intended : Intended) : Prop where
  live : s.Live
  memory : MemoryMirrors s intended.logical
  slots : SlotsMirror dr7 s intended.requested

/-- The tables mirror the target for as long as it lives. -/
def MirroredWhileAlive (dr7 : UInt64) (s : TargetSession) (intended : Intended) : Prop :=
  s.alive = s.ops.live ∧ (s.ops.live = true → Mirrored dr7 s intended)

theorem Mirrored.whileAlive {dr7 : UInt64} {s : TargetSession} {intended : Intended}
    (h : Mirrored dr7 s intended) : MirroredWhileAlive dr7 s intended :=
  ⟨h.live.alive.trans h.live.live.symm, fun _ => h⟩

/-- Slots that a call leaves alone keep their requested lengths. -/
theorem requestedAfter_of_same {dr7 : UInt64} {s s' : TargetSession}
    {requested : Fin hardwareSlots → Option UInt64} (h : SlotsMirror dr7 s requested)
    (hhardware : s'.hardware = s.hardware) (input : Call × Move) :
    requestedAfter requested input s s' = requested := by
  funext i
  rw [requestedAfter, hhardware]
  rcases hi : s.hardware i with _ | armed
  · exact (h.free i hi).1.symm
  · rfl

theorem Mirrored.of_memory {dr7 : UInt64} {s s' : TargetSession} {intended : Intended}
    (h : Mirrored dr7 s intended) (input : Call × Move) {logical : Memory UInt8}
    (hlive : s'.Live) (hhardware : s'.hardware = s.hardware)
    (huser : ∀ offset, offset ≠ dr6Offset → s'.ops.user offset = s.ops.user offset)
    (hmemory : MemoryMirrors s' logical) :
    Mirrored dr7 s' ⟨logical, requestedAfter intended.requested input s s'⟩ := by
  refine ⟨hlive, hmemory, ?_⟩
  rw [requestedAfter_of_same h.slots hhardware]
  exact h.slots.congr hhardware huser

theorem Mirrored.unchanged {dr7 : UInt64} {s : TargetSession} {intended : Intended}
    (h : Mirrored dr7 s intended) (input : Call × Move) :
    Mirrored dr7 s ⟨intended.logical, requestedAfter intended.requested input s s⟩ :=
  h.of_memory input h.live rfl (fun _ _ => rfl) h.memory

theorem Mirrored.of_slot {dr7 : UInt64} {s s' : TargetSession} {intended : Intended}
    (h : Mirrored dr7 s intended) {input : Call × Move} {slot : Fin hardwareSlots}
    {occupant : Option HardwareSlot} {length : Option UInt64} (hlive : s'.Live)
    (hhardware : s'.hardware = Function.update s.hardware slot occupant)
    (hlength : requestedAfter intended.requested input s s' slot = length)
    (hbreakpoints : s'.breakpoints = s.breakpoints) (hmemory : s'.ops.memory = s.ops.memory)
    (hslots : SlotsMirror dr7 s' (Function.update intended.requested slot length)) :
    Mirrored dr7 s' ⟨intended.logical, requestedAfter intended.requested input s s'⟩ := by
  have hrequested : requestedAfter intended.requested input s s' =
      Function.update intended.requested slot length := by
    funext i
    rcases eq_or_ne i slot with rfl | hi
    · rw [hlength, Function.update_self]
    · rw [Function.update_of_ne hi, requestedAfter, hhardware, Function.update_of_ne hi]
      rcases hi' : s.hardware i with _ | armed
      · exact (h.slots.free i hi').1.symm
      · rfl
  refine ⟨hlive, ⟨?_, ?_, ?_⟩, hrequested ▸ hslots⟩
  · rw [hbreakpoints, hmemory]
    exact h.memory.hidden
  · rw [hbreakpoints, hmemory]
    exact h.memory.visible
  · rw [hbreakpoints]
    exact h.memory.accessible

/-- What a stop leaves in place. -/
structure StoppedFrom (s s' : TargetSession) : Prop where
  breakpoints : s'.breakpoints = s.breakpoints
  hardware : s'.hardware = s.hardware
  user : ∀ offset, offset ≠ dr6Offset → s'.ops.user offset = s.ops.user offset
  alive : s'.alive = s.alive

theorem stoppedFrom_resumed (s : TargetSession) (m : Move) : StoppedFrom s (s.resumed m) := by
  refine ⟨rfl, rfl, fun offset h => ?_, rfl⟩
  simp [TargetSession.resumed, Target.advance, h]

theorem StoppedFrom.trapped {s s' : TargetSession} (h : StoppedFrom s s') (event : StopEvent) :
    StoppedFrom s (s'.trapped event).2 ∧ (s'.trapped event).2.ops.memory = s'.ops.memory ∧
      (s'.trapped event).2.ops.live = s'.ops.live := by
  unfold TargetSession.trapped
  split
  · refine ⟨⟨h.breakpoints, h.hardware, fun offset hne => ?_, h.alive⟩, rfl, rfl⟩
    rw [← h.user offset hne]
    simp [TargetSession.pokeUser, hne]
  · split_ifs
    · exact ⟨⟨h.breakpoints, h.hardware, h.user, h.alive⟩, rfl, rfl⟩
    · exact ⟨h, rfl, rfl⟩

/-- A classified stop of a target that is still alive. -/
theorem classified_alive {s : TargetSession} {m : Move} (hm : m.event.isTerminal = false) :
    StoppedFrom s (s.classified m).2 ∧
      (s.classified m).2.ops.memory = m.storesOn s.ops.memory ∧
      (s.classified m).2.ops.live = true := by
  have hstop := stoppedFrom_resumed s m
  have hlive : (s.resumed m).ops.live = true := by simp [hm]
  unfold TargetSession.classified
  rw [if_neg (by simp [hm])]
  split_ifs
  · obtain ⟨h, hmemory, hlive'⟩ := hstop.trapped m.event
    exact ⟨h, hmemory, hlive'.trans hlive⟩
  · exact ⟨hstop, rfl, hlive⟩

/-- A classified stop of a target that keeps its code. -/
theorem classified_mirrored {dr7 : UInt64} {s : TargetSession} {intended : Intended}
    (h : Mirrored dr7 s intended) (input : Call × Move) (hcode : KeepsCode s input.2) :
    MirroredWhileAlive dr7 (s.classified input.2).2 ⟨input.2.storesOn intended.logical,
      requestedAfter intended.requested input s (s.classified input.2).2⟩ := by
  rcases hterminal : input.2.event.isTerminal with _ | _
  · obtain ⟨hstop, hmemory, hlive⟩ := classified_alive (s := s) hterminal
    refine (h.of_memory input ⟨hstop.alive.trans h.live.alive, hlive⟩ hstop.hardware hstop.user
      ?_).whileAlive
    exact memoryMirrors_stores h.memory hcode hstop.breakpoints hmemory
  · unfold TargetSession.classified
    rw [if_pos hterminal]
    exact ⟨by simp [TargetSession.buried, hterminal],
      fun hlive => by simp [TargetSession.buried, hterminal] at hlive⟩

/-- A step off a breakpoint of a target that keeps its code. -/
theorem steppedOff_mirrored {dr7 : UInt64} {s : TargetSession} {intended : Intended}
    (h : Mirrored dr7 s intended) (input : Call × Move) (hcode : KeepsCode s input.2)
    {address : UInt64} {armed : ArmedBreakpoint} (harmed : s.breakpoints[address]? = some armed) :
    MirroredWhileAlive dr7 (s.steppedOff input.2 address armed).2
      ⟨input.2.storesOn intended.logical,
        requestedAfter intended.requested input s (s.steppedOff input.2 address armed).2⟩ := by
  unfold TargetSession.steppedOff
  rcases hterminal : input.2.event.isTerminal with _ | _
  · have hstop := stoppedFrom_resumed (s.poke address [armed.originalByte]) input.2
    refine (h.of_memory input ?_ ?_ ?_
      (memoryMirrors_steppedOff h.memory hcode harmed)).whileAlive
    · refine ⟨h.live.alive, ?_⟩
      change (!input.2.event.isTerminal) = true
      rw [hterminal]
      rfl
    · rfl
    · exact hstop.user
  · exact ⟨by simp [TargetSession.buried, hterminal],
      fun hlive => by simp [TargetSession.buried, hterminal] at hlive⟩

/-- Every call of a session that mirrors its target keeps it mirrored. -/
theorem mirrored_of_effect {dr7 : UInt64} {s s' : TargetSession} {intended : Intended}
    {input : Call × Move} {answer : Except HostError Answer} (h : Mirrored dr7 s intended)
    (hcode : KeepsCode s input.2) (heffect : Effect s input.2 input.1 answer s') :
    MirroredWhileAlive dr7 s' ⟨logicalAfter intended.logical input answer,
      requestedAfter intended.requested input s s'⟩ := by
  obtain ⟨c, m⟩ := input
  cases heffect with
  | failed hc =>
    have hlogical : ∀ e, logicalAfter intended.logical (c, m) (.error e) = intended.logical := by
      intro e
      cases c <;> rfl
    rw [hlogical]
    exact (h.unchanged _).whileAlive
  | readRegisters => exact (h.unchanged _).whileAlive
  | readMemory => exact (h.unchanged _).whileAlive
  | wroteRegisters =>
    exact Mirrored.whileAlive (h.of_memory _ ⟨h.live.alive, h.live.live⟩ rfl (fun _ _ => rfl)
      ⟨h.memory.hidden, h.memory.visible, h.memory.accessible⟩)
  | @wroteMemory address bytes ha =>
    have hframe := onlyMemory_rewritten s address bytes
    refine Mirrored.whileAlive (h.of_memory _ ⟨?_, ?_⟩ ?_ ?_ (memoryMirrors_rewritten h.memory ha))
    · rw [hframe]
      exact h.live.alive
    · rw [hframe]
      exact h.live.live
    · rw [hframe]
    · intro offset _
      rw [hframe]
  | planted hnew ha =>
    exact Mirrored.whileAlive (h.of_memory _ ⟨h.live.alive, h.live.live⟩ rfl (fun _ _ => rfl)
      (memoryMirrors_planted h.memory hnew ha))
  | unplanted harmed =>
    exact Mirrored.whileAlive (h.of_memory _ ⟨h.live.alive, h.live.live⟩ rfl (fun _ _ => rfl)
      (memoryMirrors_unplanted h.memory harmed))
  | @occupied _ address len kind slot lengthBits hc hnew hfree hlen =>
    have hlength : c.requestedLength = some len := by
      rcases hc with ⟨rfl, rfl, -⟩ | rfl <;> rfl
    have hlogical : logicalAfter intended.logical (c, m) (.ok .done) = intended.logical := by
      rcases hc with ⟨rfl, -⟩ | rfl <;> rfl
    rw [hlogical]
    refine Mirrored.whileAlive (h.of_slot ⟨h.live.alive, h.live.live⟩ rfl ?_ rfl rfl
      (slotsMirror_occupied h.slots hnew hfree hlen))
    simp [requestedAfter, TargetSession.occupied, hardware_of_freeSlot hfree, hlength]
  | @released address slot hat =>
    refine Mirrored.whileAlive (h.of_slot ⟨h.live.alive, h.live.live⟩ rfl ?_ rfl rfl
      (slotsMirror_released h.slots slot))
    simp [requestedAfter, TargetSession.released]
  | continued => exact classified_mirrored h (.continueExecution, m) hcode
  | stepped hfree => exact classified_mirrored h (.singleStep, m) hcode
  | steppedOff harmed => exact steppedOff_mirrored h (.singleStep, m) hcode harmed

theorem mirrored_start {t : Target} (hlive : t.live = true) :
    Mirrored (t.user dr7Offset) (Watched.start t).session (Watched.start t).intended := by
  refine ⟨⟨rfl, hlive⟩, ⟨fun a armed harmed => ?_, fun _ _ => rfl, fun a hmem => ?_⟩,
    ⟨fun i armed harmed => ?_, fun i _ => ⟨rfl, .inl fun _ _ => rfl⟩, fun _ _ => rfl,
      fun i i' armed armed' harmed => ?_⟩⟩
  · simp [Watched.start, LinuxDebugSession.new] at harmed
  · simp [Watched.start, LinuxDebugSession.new] at hmem
  · simp [Watched.start, LinuxDebugSession.new] at harmed
  · simp [Watched.start, LinuxDebugSession.new] at harmed

theorem step_mirrored {dr7 : UInt64} {x x' : Watched} {input : Call × Move}
    {answer : Except HostError Answer} (h : MirroredWhileAlive dr7 x.session x.intended)
    (hstep : x.Step input answer x') : MirroredWhileAlive dr7 x'.session x'.intended := by
  obtain ⟨hcode, hadvance⟩ := hstep
  obtain ⟨-, rfl⟩ := Prod.mk.inj hadvance
  let armed : TargetSession := { x.session with ops := { x.session.ops with moves := [input.2] } }
  change MirroredWhileAlive dr7 (applyCall Target.ops input.1 armed).2 _
  rcases hlive : x.session.ops.live with _ | _
  · have halive : armed.alive = false := h.1.trans hlive
    have hrun := TargetSession.applyCall_dead halive input.1
    rw [hrun]
    exact ⟨h.1, fun hlive' => by simp [armed, hlive] at hlive'⟩
  · have hm : Mirrored dr7 armed x.intended := by
      obtain ⟨⟨halive, hlive⟩, ⟨hidden, visible, accessible⟩, slots⟩ := h.2 hlive
      exact ⟨⟨halive, hlive⟩, ⟨hidden, visible, accessible⟩, slots.congr rfl fun _ _ => rfl⟩
    have heffect := effect_applyCall (s := armed) hm.live hm.memory.accessible rfl input.1
    have hmirrored := mirrored_of_effect (s := armed) hm hcode heffect
    exact hmirrored

/-! ### Letting the target go -/

theorem wp_clearAll {s : TargetSession} {logical : Memory UInt8} (hlive : s.Live)
    (hmemory : MemoryMirrors s logical) :
    wp (s.breakpoints.keys.forM fun address => ignoring (clearBreakpoint Target.ops address))
      (fun _ s' => TargetSession.OnlyMemory s s' ∧ ∀ n, s'.ops.memory n = logical n)
      (fun _ _ => False) s := by
  refine wp_forM (fun ks s' => TargetSession.OnlyMemory s s' ∧ MemoryMirrors s' logical ∧
    ∀ a ∈ s'.breakpoints, a ∈ ks) ?_ ?_ _ _ ⟨rfl, hmemory, fun a => Std.ExtTreeMap.mem_keys.mpr⟩
  · rintro k ks s' ⟨hframe, hmirrors, hleft⟩
    have hlive' : s'.Live := by
      rw [hframe]
      exact ⟨hlive.alive, hlive.live⟩
    rw [wp_ignoring]
    refine wp_mono (wp_clearBreakpoint hlive' k) ?_ ?_
    · rintro _ _ ⟨armed, harmed, rfl⟩
      refine ⟨hframe.trans rfl, memoryMirrors_unplanted hmirrors harmed, fun a hmem => ?_⟩
      obtain ⟨hne, hmem⟩ := mem_unplanted.mp hmem
      exact (List.mem_cons.mp (hleft a hmem)).resolve_left fun heq => hne heq.symm
    · rintro _ _ ⟨rfl, hmissing⟩
      refine ⟨hframe, hmirrors, fun a hmem => ?_⟩
      refine (List.mem_cons.mp (hleft a hmem)).resolve_left ?_
      -- a breakpoint of the table is in place, so it would have been removed
      rintro rfl
      obtain ⟨armed, harmed⟩ := getElem?_of_mem hmem
      exact hmissing hmem (hmirrors.accessible a hmem) (hmirrors.hidden a armed harmed).1
  · rintro s' ⟨hframe, hmirrors, hnone⟩
    exact ⟨hframe, fun n => hmirrors.visible n fun a hmem => by simpa using hnone a hmem⟩

theorem wp_releaseAll {dr7 : UInt64} {s : TargetSession}
    {requested : Fin hardwareSlots → Option UInt64} (hlive : s.Live)
    (hslots : SlotsMirror dr7 s requested) :
    wp (((List.finRange hardwareSlots).filterMap fun i =>
        (s.hardware i).map HardwareSlot.address).forM fun address =>
          ignoring (clearHw Target.ops address))
      (fun _ (s' : TargetSession) => s'.Live ∧ s'.ops.memory = s.ops.memory ∧
        ∀ i, Enabled (s'.ops.user dr7Offset) i → Enabled dr7 i)
      (fun _ _ => False) s := by
  refine wp_forM (fun addresses (s' : TargetSession) => s'.Live ∧ s'.ops.memory = s.ops.memory ∧
    (∃ requested, SlotsMirror dr7 s' requested) ∧
    ∀ i armed, s'.hardware i = some armed → armed.address ∈ addresses) ?_ ?_ _ _
    ⟨hlive, rfl, ⟨requested, hslots⟩, fun i armed harmed => ?_⟩
  · rintro address addresses s' ⟨hlive', hmemory, ⟨requested', hslots'⟩, hleft⟩
    rw [wp_ignoring]
    refine wp_mono (wp_clearHw hlive' address) ?_ ?_
    · rintro _ _ ⟨slot, hat, rfl⟩
      obtain ⟨found, hfound, haddress⟩ := address_of_slotAt hat
      refine ⟨⟨hlive'.alive, hlive'.live⟩, hmemory, ⟨_, slotsMirror_released hslots' slot⟩,
        fun i armed harmed => ?_⟩
      change Function.update s'.hardware slot none i = some armed at harmed
      rcases eq_or_ne i slot with rfl | hi
      · simp at harmed
      · rw [Function.update_of_ne hi] at harmed
        refine (List.mem_cons.mp (hleft i armed harmed)).resolve_left fun heq => ?_
        exact hi (hslots'.distinct i slot armed found harmed hfound (heq.trans haddress.symm))
    · rintro _ _ ⟨rfl, hnone⟩
      refine ⟨hlive', hmemory, ⟨_, hslots'⟩, fun i armed harmed => ?_⟩
      exact (List.mem_cons.mp (hleft i armed harmed)).resolve_left
        (address_ne_of_slotAt hnone harmed)
  · rintro s' ⟨hlive', hmemory, ⟨requested', hslots'⟩, hnone⟩
    refine ⟨hlive', hmemory, fun i henabled => ?_⟩
    rcases harmed : s'.hardware i with _ | armed
    · rcases (hslots'.free i harmed).2 with hbits | hbits
      · exact (hbits _ (ownsBit_enable i)).symm.trans henabled
      · exact absurd henabled (by simp [Enabled, hbits _ (ownsBit_enable i)])
    · simpa using hnone i armed harmed
  · exact List.mem_filterMap.mpr ⟨i, List.mem_finRange i, by rw [harmed]; rfl⟩

/-- Letting a mirrored target go restores its memory and leaves no new slot enabled. -/
theorem detach_restores {dr7 : UInt64} {s : TargetSession} {intended : Intended}
    (h : Mirrored dr7 s intended) :
    ∃ s', detach Target.ops s = (.ok (), s') ∧ s'.ops.detached = true ∧
      (∀ n, s'.ops.memory n = intended.logical n) ∧
      ∀ i, Enabled (s'.ops.user dr7Offset) i → Enabled dr7 i := by
  have hwp : wp (detach Target.ops) (fun _ s' => s'.ops.detached = true ∧
      (∀ n, s'.ops.memory n = intended.logical n) ∧
      ∀ i, Enabled (s'.ops.user dr7Offset) i → Enabled dr7 i) (fun _ _ => False) s := by
    rw [detach, wp_bind, wp_look]
    simp only [h.live.alive, if_true]
    rw [wp_bind]
    refine wp_mono (wp_clearAll h.live h.memory) ?_ fun _ _ => id
    rintro _ s₁ ⟨hframe, hmemory⟩
    have hlive₁ : TargetSession.Live s₁ := by
      rw [hframe]
      exact ⟨h.live.alive, h.live.live⟩
    have hslots₁ : SlotsMirror dr7 s₁ intended.requested := by
      rw [hframe]
      exact h.slots.congr rfl fun _ _ => rfl
    simp only [wp_bind, wp_look]
    refine wp_mono (wp_releaseAll hlive₁ hslots₁) ?_ fun _ _ => id
    rintro _ s₂ ⟨hlive₂, hmemory₂, henabled⟩
    rw [Target.ops, wp_of_ok (TargetSession.call_whileLive hlive₂.live _ _ _)]
    exact ⟨rfl, fun n => (congrFun hmemory₂ n).trans (hmemory n), henabled⟩
  rcases hrun : detach Target.ops s with ⟨e | _, s'⟩
  · exact (wp_error hwp hrun).elim
  · have hend := wp_ok hwp hrun
    exact ⟨s', rfl, hend⟩

/-! ### Every sequence of calls -/

/-- What holds of a session over the target `t` after a call with the target alive. -/
structure TablesMirror (t : Target) (x : Watched) : Prop where
  armed : ∀ a ∈ x.session.breakpoints, x.session.ops.memory a.toNat = breakpointByte
  unarmed : ∀ n, (∀ a ∈ x.session.breakpoints, a.toNat ≠ n) →
    x.session.ops.memory n = x.intended.logical n
  reads : ∀ address len, (readMemory Target.ops address len x.session).1 =
    if maxMemoryTransferBytes < len then .error (.transferTooLarge len maxMemoryTransferBytes)
    else if Target.Accessible address len then
      .ok (readSpan x.intended.logical address.toNat len)
    else .error (.syscall "PTRACE_PEEKTEXT" 5)
  slots : ∀ i address kind, x.session.hardware i = some ⟨address, kind⟩ ↔
    x.session.ops.user (drAddressOffset i) = address ∧
      Enabled (x.session.ops.user dr7Offset) i ∧
      ∃ len, x.intended.requested i = some len ∧
        Encodes (x.session.ops.user dr7Offset) i kind len
  enabled : ∀ i, Enabled (x.session.ops.user dr7Offset) i →
    (x.session.hardware i).isSome ∨ Enabled (t.user dr7Offset) i
  otherBits : ∀ j, (∀ i, ¬ OwnsBit i j) →
    bit (x.session.ops.user dr7Offset) j = bit (t.user dr7Offset) j
  distinct : ∀ i i' slot slot', x.session.hardware i = some slot →
    x.session.hardware i' = some slot' → slot.address = slot'.address → i = i'
  detached : ∃ s', detach Target.ops x.session = (.ok (), s') ∧ s'.ops.detached = true ∧
    (∀ n, s'.ops.memory n = x.intended.logical n) ∧
    ∀ i, Enabled (s'.ops.user dr7Offset) i → Enabled (t.user dr7Offset) i

theorem tablesMirror_of_mirrored {t : Target} {x : Watched}
    (h : Mirrored (t.user dr7Offset) x.session x.intended) : TablesMirror t x := by
  refine ⟨fun a hmem => ?_, h.memory.visible, fun address len => ?_, fun i address kind => ?_,
    fun i henabled => ?_, h.slots.others, h.slots.distinct, ?_⟩
  · obtain ⟨armed, harmed⟩ := getElem?_of_mem hmem
    exact (h.memory.hidden a armed harmed).1
  · rw [TargetSession.readMemory_run h.live]
    split_ifs with hsize haccess
    · rfl
    · rw [substituteOriginals_of_mirrors h.memory haccess]
    · rfl
  · constructor
    · intro harmed
      exact h.slots.occupied i ⟨address, kind⟩ harmed
    · rintro ⟨haddress, henabled, len, hrequested, hencodes⟩
      rcases hslot : x.session.hardware i with _ | slot
      · simp [(h.slots.free i hslot).1] at hrequested
      · obtain ⟨haddress', -, len', hrequested', hencodes'⟩ := h.slots.occupied i slot hslot
        obtain rfl : len = len' := by simpa [hrequested] using hrequested'
        obtain rfl : slot.kind = kind := kind_of_encodes hencodes' hencodes
        rw [← haddress, haddress']
  · rcases hslot : x.session.hardware i with _ | slot
    · rcases (h.slots.free i hslot).2 with hbits | hbits
      · exact .inr ((hbits _ (ownsBit_enable i)).symm.trans henabled)
      · exact absurd henabled (by simp [Enabled, hbits _ (ownsBit_enable i)])
    · exact .inl rfl
  · exact detach_restores h

/-- CORRECT (tables): after every sequence of calls on a session whose target leaves the bytes under
    the breakpoints alone, and while the target lives, memory, breakpoint table, debug registers and
    slots mirror each other, reads show the logical bytes, and letting the target go restores it. -/
theorem tables_mirror_target (t : Target) (hlive : t.live = true)
    {es : List (Event Watched (Call × Move) (Except HostError Answer))} {x : Watched}
    (run : Run Watched.Step (Watched.start t) es x) (halive : x.session.ops.live = true) :
    TablesMirror t x := by
  have hinv : MirroredWhileAlive (t.user dr7Offset) x.session x.intended :=
    run.invariant (fun x => MirroredWhileAlive (t.user dr7Offset) x.session x.intended)
      (mirrored_start hlive).whileAlive fun _ _ _ _ h hstep => step_mirrored h hstep
  exact tablesMirror_of_mirrored (hinv.2 halive)

/-- A target full of `NOP`s. -/
def sampleTarget : Target :=
  { registers := { rip := 0x1000 }
    memory := fun _ => 0x90
    user := fun offset => if offset = dr7Offset then 0x400 else 0
    live := true
    detached := false
    moves := [] }

/-- A step over one `NOP` that stores one byte of data. -/
def sampleStep : Move :=
  { registers := { rip := 0x1001 }
    stores := [(0x2000, 7)]
    status := 1
    int3 := none
    event := .stopped sigtrap }

/-- A breakpoint at the instruction pointer and a watchpoint, and one step off the breakpoint. -/
def sampleCalls : List (Call × Move) :=
  [(.setBreakpoint 0x1000, sampleStep), (.setWatchpoint 0x2000 4 .write, sampleStep),
    (.singleStep, sampleStep)]

/-- The session after these calls. -/
def sampleWatched : Watched :=
  sampleCalls.foldl (fun x input => (x.advance input).2) (Watched.start sampleTarget)

theorem tables_mirror_target_sampleCalls :
    sampleWatched.session.ops.live = true ∧ TablesMirror sampleTarget sampleWatched := by
  refine ⟨rfl, tables_mirror_target sampleTarget rfl (((Run.start.next ⟨?_, rfl⟩).next
    ⟨?_, rfl⟩).next ⟨?_, rfl⟩) rfl⟩
  all_goals
    intro store hmem
    obtain rfl : store = (0x2000, 7) := by simpa [sampleStep] using hmem
    decide

/-- A slot that was enabled before the session attached is enabled after it let the target go. -/
theorem detach_leaves_enabled_slot :
    let t : Target := { sampleTarget with
      user := fun offset => if offset = dr7Offset then 0x401 else 0 }
    ∃ i s', Enabled (t.user dr7Offset) i ∧
      detach Target.ops (Watched.start t).session = (.ok (), s') ∧
      s'.ops.detached = true ∧ Enabled (s'.ops.user dr7Offset) i :=
  ⟨⟨0, by decide⟩, _, by unfold Enabled; decide, rfl, rfl, by unfold Enabled; decide⟩

end ReSymbol.LinuxDebugHost
