import ReSymbol.LinuxDebugHost.Tables

/-! Which stops are reported truthfully.

    A move says what really happened between a resumption and the next stop: the slots that
    triggered and the `INT3` that was executed. The session sees only `DR6`, which keeps its bits
    until they are written, and the instruction pointer. Its report is the stop that happened
    exactly when neither of them misleads:

        DR6 names an occupied slot   the lowest such slot triggered during this call, and no armed
                                     INT3 was executed
        DR6 names none               a breakpoint one byte below RIP was executed

    A step off a breakpoint reports no hit, and leaves the bits it sets in `DR6` for a later
    call. -/

namespace ReSymbol.LinuxDebugHost
open Schemes Schemes.Reducer LinuxDebugSession TargetSession

/-! ### What happened and what is reported -/

/-- The target executed the `INT3` armed at `a`. A step lifts the one below the instruction
    pointer. -/
def ExecutesArmed (s : TargetSession) (c : Call) (m : Move) (a : UInt64) : Prop :=
  m.int3 = some a ∧ a ∈ s.breakpoints ∧ (c = .singleStep → a ≠ s.ops.registers.rip)

/-- What the hardware allows: only enabled slots trigger, an executed `INT3` traps one byte past its
    address, and a step executes the instruction it starts at. -/
structure Possible (s : TargetSession) (c : Call) (m : Move) : Prop where
  enabled : ∀ i, m.Triggers i → Enabled (s.ops.user dr7Offset) i
  trap : ∀ a, m.int3 = some a → m.event = .stopped sigtrap ∧ m.registers.rip = a + 1
  step : c = .singleStep → ∀ a, m.int3 = some a → a = s.ops.registers.rip

/-- The outcome reports what happened during the call. -/
structure Truthful (s : TargetSession) (c : Call) (m : Move) (outcome : WaitOutcome)
    (s' : TargetSession) : Prop where
  watchpoint : ∀ a, outcome = .watchpointHit a →
    ∃ i slot, s.hardware i = some slot ∧ slot.address = a ∧ slot.kind ≠ .execute ∧ m.Triggers i
  breakpoint : ∀ a, outcome = .breakpointHit a → ExecutesArmed s c m a ∨
    ∃ i slot, s.hardware i = some slot ∧ slot.address = a ∧ slot.kind = .execute ∧ m.Triggers i
  int3 : ∀ a, ExecutesArmed s c m a →
    (outcome = .breakpointHit a ∨
      ∃ i slot, s.hardware i = some slot ∧ m.Triggers i ∧ outcome = HardwareSlot.hit slot) ∧
      s'.ops.registers.rip = a
  registers : (∀ a, ¬ ExecutesArmed s c m a) → s'.ops.registers = m.registers

/-- The lowest occupied slot that a status word names. -/
def reportedSlot (s : TargetSession) (status : UInt64) : Option (Fin hardwareSlots) :=
  (List.finRange hardwareSlots).find? fun i => bit status i.val && (s.hardware i).isSome

/-- Neither the status register nor the instruction pointer misleads the session. -/
def Clean (s : TargetSession) (c : Call) (m : Move) : Prop :=
  (c = .singleStep → s.ops.registers.rip ∉ s.breakpoints) → m.event = .stopped sigtrap →
    (∀ i, reportedSlot s (s.ops.user dr6Offset ||| m.status) = some i →
      m.Triggers i ∧ ∀ a, ¬ ExecutesArmed s c m a) ∧
    (reportedSlot s (s.ops.user dr6Offset ||| m.status) = none →
      m.registers.rip - 1 ∈ s.breakpoints → m.int3 = some (m.registers.rip - 1))

/-! ### The status register -/

theorem findSome?_eq_bind_find? {α β : Type} (f : α → Option β) (p : α → Bool)
    (h : ∀ x, p x = (f x).isSome) (xs : List α) : xs.findSome? f = (xs.find? p).bind f := by
  induction xs with
  | nil => rfl
  | cons x xs ih =>
    rcases hx : f x with _ | y
    · rw [List.findSome?_cons, hx, List.find?_cons_of_neg (by simp [h, hx])]
      exact ih
    · rw [List.findSome?_cons, hx, List.find?_cons_of_pos (by simp [h, hx]), Option.bind_some, hx]

/-- The session reports the hit of the lowest occupied slot that the status names. -/
theorem hardwareHit_eq (s : TargetSession) (status : UInt64) :
    s.hardwareHit status =
      (reportedSlot s status).bind fun i => (s.hardware i).map HardwareSlot.hit := by
  have hf : ∀ i : Fin hardwareSlots,
      (if status &&& 1 <<< UInt64.ofNat i.val = 0 then none
        else (s.hardware i).map HardwareSlot.hit) =
      if bit status i.val then (s.hardware i).map HardwareSlot.hit else none := by
    intro i
    have hi : i.val < 64 := lt_trans i.isLt (by decide)
    rcases hbit : bit status i.val with _ | _
    · rw [if_pos ((and_shift_eq_zero status hi).mpr hbit)]
      rfl
    · rw [if_neg fun h => by simp [(and_shift_eq_zero status hi).mp h] at hbit]
      rfl
  unfold hardwareHit
  simp only [hf]
  rw [findSome?_eq_bind_find? _ (fun i => bit status i.val && (s.hardware i).isSome)]
  · unfold reportedSlot
    rcases hfind : (List.finRange hardwareSlots).find? _ with _ | i
    · rfl
    · have := List.find?_some hfind
      simp only [Bool.and_eq_true] at this
      simp [this.1]
  · intro i
    rcases bit status i.val with _ | _ <;> simp

theorem reportedSlot_eq_some {s : TargetSession} {status : UInt64} {i : Fin hardwareSlots}
    (h : reportedSlot s status = some i) :
    bit status i.val = true ∧ ∃ slot, s.hardware i = some slot := by
  have := List.find?_some h
  simpa [Option.isSome_iff_exists] using this

/-- A slot that triggered is named by the status register. -/
theorem reportedSlot_of_triggers {s : TargetSession} {m : Move} {i : Fin hardwareSlots}
    {slot : HardwareSlot} (hslot : s.hardware i = some slot) (htriggers : m.Triggers i) :
    reportedSlot s (s.ops.user dr6Offset ||| m.status) ≠ none := by
  intro hnone
  have := List.find?_eq_none.mp hnone i (List.mem_finRange i)
  rw [bit_or, hslot, show bit m.status i.val = true from htriggers] at this
  simp at this

/-! ### One resumption -/

/-- A step off a breakpoint reports no hit, and no armed `INT3` is executed by it. -/
theorem truthful_steppedOff {s : TargetSession} {m : Move} (hpossible : Possible s .singleStep m)
    (address : UInt64) (armed : ArmedBreakpoint) :
    Truthful s .singleStep m (s.steppedOff m address armed).1
      (s.steppedOff m address armed).2 := by
  have hnone : ∀ a, ¬ ExecutesArmed s .singleStep m a := fun a h =>
    h.2.2 rfl (hpossible.step rfl a h.1)
  unfold steppedOff
  split_ifs
  · exact ⟨by simp, by simp, fun a h => absurd h (hnone a), fun _ => rfl⟩
  · exact ⟨by simp, by simp, fun a h => absurd h (hnone a), fun _ => rfl⟩

/-- Without a trap no `INT3` was executed and no hit is reported. -/
theorem truthful_of_no_trap {s : TargetSession} {c : Call} {m : Move}
    (hpossible : Possible s c m) (htrap : m.event ≠ .stopped sigtrap) :
    Truthful s c m (s.classified m).1 (s.classified m).2 := by
  have hnone : ∀ a, ¬ ExecutesArmed s c m a := fun a h => htrap (hpossible.trap a h.1).1
  unfold classified
  split_ifs
  · exact ⟨by simp, by simp, fun a h => absurd h (hnone a), fun _ => rfl⟩
  · exact ⟨by simp, by simp, fun a h => absurd h (hnone a), fun _ => rfl⟩

/-- The slot that is reported triggered, and no other address is left to explain. -/
theorem truthful_slot_iff {s s' : TargetSession} {c : Call} {m : Move} {i : Fin hardwareSlots}
    {slot : HardwareSlot} (hpossible : Possible s c m) (hdistinct : Distinct s.hardware)
    (hslot : s.hardware i = some slot) (hregisters : s'.ops.registers = m.registers) :
    Truthful s c m (HardwareSlot.hit slot) s' ↔
      m.Triggers i ∧ ∀ a, ¬ ExecutesArmed s c m a := by
  have hne : ∀ a : UInt64, a + 1 ≠ a := fun a h => by simp at h
  constructor
  · intro h
    -- an executed `INT3` would have left the instruction pointer one byte past it
    have hnone : ∀ a, ¬ ExecutesArmed s c m a := by
      intro a ha
      have hrip := (h.int3 a ha).2
      rw [hregisters, (hpossible.trap a ha.1).2] at hrip
      exact hne a hrip
    refine ⟨?_, hnone⟩
    rcases hkind : slot.kind with _ | _ | _
    · have hhit : HardwareSlot.hit slot = .breakpointHit slot.address := by
        simp [HardwareSlot.hit, hkind]
      rcases h.breakpoint _ hhit with ha | ⟨i', slot', hslot', haddress, -, htriggers⟩
      · exact absurd ha (hnone _)
      · rwa [hdistinct i i' slot slot' hslot hslot' haddress.symm]
    all_goals
      have hhit : HardwareSlot.hit slot = .watchpointHit slot.address := by
        simp [HardwareSlot.hit, hkind]
      obtain ⟨i', slot', hslot', haddress, -, htriggers⟩ := h.watchpoint _ hhit
      rwa [hdistinct i i' slot slot' hslot hslot' haddress.symm]
  · rintro ⟨htriggers, hnone⟩
    refine ⟨fun a hhit => ⟨i, slot, hslot, ?_⟩, fun a hhit => .inr ⟨i, slot, hslot, ?_⟩,
      fun a ha => absurd ha (hnone a), fun _ => hregisters⟩
    · rcases hkind : slot.kind with _ | _ | _ <;> simp [HardwareSlot.hit, hkind] at hhit
      all_goals exact ⟨hhit, by simp, htriggers⟩
    · rcases hkind : slot.kind with _ | _ | _ <;> simp [HardwareSlot.hit, hkind] at hhit
      exact ⟨hhit, rfl, htriggers⟩

/-- A trap one byte past a breakpoint is its `INT3` only if that was executed. -/
theorem truthful_rewound_iff {s : TargetSession} {c : Call} {m : Move}
    (hstep : c = .singleStep → s.ops.registers.rip ∉ s.breakpoints)
    (hunnamed : reportedSlot s (s.ops.user dr6Offset ||| m.status) = none)
    (harmed : m.registers.rip - 1 ∈ s.breakpoints) :
    Truthful s c m (.breakpointHit (m.registers.rip - 1))
      ((s.resumed m).rewound (m.registers.rip - 1)) ↔
      m.int3 = some (m.registers.rip - 1) := by
  constructor
  · intro h
    rcases h.breakpoint _ rfl with ha | ⟨i, slot, hslot, -, -, htriggers⟩
    · exact ha.1
    · exact absurd hunnamed (reportedSlot_of_triggers hslot htriggers)
  · intro hint3
    have hexecuted : ExecutesArmed s c m (m.registers.rip - 1) := by
      refine ⟨hint3, harmed, fun hc heq => ?_⟩
      exact hstep hc (heq ▸ harmed)
    refine ⟨by simp, fun a ha => .inl ?_, fun a ha => ?_, fun hnone => absurd hexecuted (hnone _)⟩
    · obtain rfl : m.registers.rip - 1 = a := by simpa using ha
      exact hexecuted
    · obtain rfl : m.registers.rip - 1 = a := by simpa [hint3] using ha.1
      exact ⟨.inl rfl, rfl⟩

/-- Where no slot is named and no breakpoint is one byte below, nothing was hit. -/
theorem truthful_stopped {s : TargetSession} {c : Call} {m : Move}
    (hpossible : Possible s c m) (hfree : m.registers.rip - 1 ∉ s.breakpoints) :
    Truthful s c m (.stopped m.event) (s.resumed m) := by
  have hnone : ∀ a, ¬ ExecutesArmed s c m a := by
    intro a ha
    refine hfree ?_
    rw [(hpossible.trap a ha.1).2]
    simpa using ha.2.1
  exact ⟨by simp, by simp, fun a ha => absurd ha (hnone a), fun _ => rfl⟩

theorem truthful_classified_iff {s : TargetSession} {c : Call} {m : Move}
    (hpossible : Possible s c m) (hdistinct : Distinct s.hardware)
    (hstep : c = .singleStep → s.ops.registers.rip ∉ s.breakpoints) :
    Truthful s c m (s.classified m).1 (s.classified m).2 ↔ Clean s c m := by
  by_cases htrap : m.event = .stopped sigtrap
  · have hclassified : s.classified m = (s.resumed m).trapped m.event := by
      simp [classified, htrap, StopEvent.isTerminal]
    have hclean : Clean s c m ↔
        (∀ i, reportedSlot s (s.ops.user dr6Offset ||| m.status) = some i →
          m.Triggers i ∧ ∀ a, ¬ ExecutesArmed s c m a) ∧
        (reportedSlot s (s.ops.user dr6Offset ||| m.status) = none →
          m.registers.rip - 1 ∈ s.breakpoints → m.int3 = some (m.registers.rip - 1)) :=
      ⟨fun h => h hstep htrap, fun h _ _ => h⟩
    have hhit : (s.resumed m).hardwareHit ((s.resumed m).ops.user dr6Offset) =
        (reportedSlot s (s.ops.user dr6Offset ||| m.status)).bind fun i =>
          (s.hardware i).map HardwareSlot.hit := by
      rw [resumed_dr6]
      exact hardwareHit_eq (s.resumed m) _
    rw [hclassified, hclean]
    rcases hreported : reportedSlot s (s.ops.user dr6Offset ||| m.status) with _ | i
    · rw [hreported, Option.bind_none] at hhit
      by_cases harmed : m.registers.rip - 1 ∈ s.breakpoints
      · rw [trapped_of_armed hhit harmed]
        simpa [harmed] using truthful_rewound_iff hstep hreported harmed
      · rw [trapped_of_free hhit harmed]
        simpa [harmed] using truthful_stopped hpossible harmed
    · obtain ⟨-, slot, hslot⟩ := reportedSlot_eq_some hreported
      rw [hreported, Option.bind_some, hslot, Option.map_some] at hhit
      have hregisters : ((s.resumed m).pokeUser dr6Offset 0).ops.registers = m.registers := rfl
      rw [trapped_of_hit hhit]
      simpa using truthful_slot_iff hpossible hdistinct hslot hregisters
  · refine iff_of_true (truthful_of_no_trap hpossible htrap) fun _ h => absurd h htrap

/-! ### Every sequence of calls -/

/-- What every session keeps, whatever its target does. -/
structure WellFormed (s : TargetSession) : Prop where
  alive : s.alive = s.ops.live
  accessible : ∀ a ∈ s.breakpoints, Target.Accessible a 1
  distinct : Distinct s.hardware

theorem WellFormed.stopped {s s' : TargetSession} (h : WellFormed s)
    (halive : s'.alive = s'.ops.live) (hbreakpoints : s'.breakpoints = s.breakpoints)
    (hhardware : s'.hardware = s.hardware) : WellFormed s' := by
  refine ⟨halive, ?_, ?_⟩
  · rw [hbreakpoints]
    exact h.accessible
  · rw [hhardware]
    exact h.distinct

theorem wellFormed_classified {s : TargetSession} (h : WellFormed s) (hlive : s.Live) (m : Move) :
    WellFormed (s.classified m).2 := by
  rcases hterminal : m.event.isTerminal with _ | _
  · obtain ⟨hstop, -, hlive'⟩ := classified_alive (s := s) hterminal
    exact h.stopped (hstop.alive.trans (hlive.alive.trans hlive'.symm)) hstop.breakpoints
      hstop.hardware
  · unfold classified
    rw [if_pos hterminal]
    exact h.stopped (by simp [buried, hterminal]) rfl rfl

theorem wellFormed_steppedOff {s : TargetSession} (h : WellFormed s) (hlive : s.Live) (m : Move)
    (address : UInt64) (armed : ArmedBreakpoint) :
    WellFormed (s.steppedOff m address armed).2 := by
  unfold steppedOff
  rcases hterminal : m.event.isTerminal with _ | _
  · refine h.stopped ?_ rfl rfl
    change s.alive = !m.event.isTerminal
    rw [hlive.alive, hterminal]
    rfl
  · exact h.stopped (by simp [buried, hterminal]) rfl rfl

theorem wellFormed_of_effect {s s' : TargetSession} {c : Call} {m : Move}
    {answer : Except HostError Answer} (h : WellFormed s) (hlive : s.Live)
    (heffect : Effect s m c answer s') : WellFormed s' := by
  cases heffect with
  | failed | readRegisters | readMemory => exact h
  | wroteRegisters => exact ⟨h.alive, h.accessible, h.distinct⟩
  | @wroteMemory address bytes ha =>
    have hframe := onlyMemory_rewritten s address bytes
    refine ⟨?_, fun a hmem => h.accessible a (mem_rewritten.mp hmem), ?_⟩
    · rw [hframe]
      exact h.alive
    · rw [hframe]
      exact h.distinct
  | planted hnew ha =>
    refine ⟨h.alive, fun a hmem => ?_, h.distinct⟩
    rcases mem_planted.mp hmem with rfl | hmem
    · exact ha
    · exact h.accessible a hmem
  | unplanted harmed =>
    exact ⟨h.alive, fun a hmem => h.accessible a (mem_unplanted.mp hmem).2, h.distinct⟩
  | occupied hc hnew hfree hlen =>
    exact ⟨h.alive, h.accessible,
      h.distinct.occupy _ fun i armed harmed => address_ne_of_slotAt hnew harmed⟩
  | released hat => exact ⟨h.alive, h.accessible, h.distinct.free _⟩
  | continued | stepped => exact wellFormed_classified h hlive m
  | steppedOff => exact wellFormed_steppedOff h hlive m _ _

/-- The call resumes the target. -/
def Call.Resumes (c : Call) : Prop := c = .continueExecution ∨ c = .singleStep

/-- How a call reports the stop it led to: a resumption of a live target returns an outcome, which
    is truthful exactly if the call is clean, and no other call moves the instruction pointer
    except a write of the registers. -/
structure Reports (e : Event TargetSession (Call × Move) (Except HostError Answer)) : Prop where
  outcome : e.pre.ops.live = true → e.input.1.Resumes →
    ∃ outcome, e.output = .ok (.outcome outcome) ∧
      (Truthful e.pre e.input.1 e.input.2 outcome e.post ↔ Clean e.pre e.input.1 e.input.2)
  registers : ¬ e.input.1.Resumes → (∀ r, e.input.1 ≠ .writeRegisters r) →
    e.post.ops.registers = e.pre.ops.registers

theorem reports_of_effect {s s' : TargetSession} {c : Call} {m : Move}
    {answer : Except HostError Answer} (h : WellFormed s) (hpossible : Possible s c m)
    (heffect : Effect s m c answer s') : Reports ⟨s, (c, m), answer, s'⟩ := by
  cases heffect with
  | failed hc => exact ⟨fun _ hr => absurd hr (by simp [Call.Resumes, hc]), fun _ _ => rfl⟩
  | readRegisters | readMemory =>
    exact ⟨fun _ hr => absurd hr (by simp [Call.Resumes]), fun _ _ => rfl⟩
  | wroteRegisters =>
    exact ⟨fun _ hr => absurd hr (by simp [Call.Resumes]), fun _ hw => absurd rfl (hw _)⟩
  | @wroteMemory address bytes ha =>
    refine ⟨fun _ hr => absurd hr (by simp [Call.Resumes]), fun _ _ => ?_⟩
    have hframe := onlyMemory_rewritten s address bytes
    change (s.rewritten address bytes).ops.registers = s.ops.registers
    rw [hframe]
  | planted | unplanted | released =>
    exact ⟨fun _ hr => absurd hr (by simp [Call.Resumes]), fun _ _ => rfl⟩
  | occupied hc =>
    refine ⟨fun _ hr => ?_, fun _ _ => rfl⟩
    rcases hc with ⟨rfl, -⟩ | rfl <;> simp [Call.Resumes] at hr
  | continued =>
    exact ⟨fun _ _ => ⟨_, rfl, truthful_classified_iff hpossible h.distinct (by simp)⟩,
      fun hr => absurd (.inl rfl) hr⟩
  | stepped hfree =>
    exact ⟨fun _ _ => ⟨_, rfl, truthful_classified_iff hpossible h.distinct fun _ => hfree⟩,
      fun hr => absurd (.inr rfl) hr⟩
  | steppedOff harmed =>
    refine ⟨fun _ _ => ⟨_, rfl, iff_of_true (truthful_steppedOff hpossible _ _) ?_⟩,
      fun hr => absurd (.inr rfl) hr⟩
    exact fun hfree => absurd (mem_of_getElem? harmed) (hfree rfl)

/-- One call, during which the target does what the hardware allows. -/
def StopStep (s : TargetSession) (input : Call × Move) (answer : Except HostError Answer)
    (s' : TargetSession) : Prop :=
  Possible s input.1 input.2 ∧ perform input s = (answer, s')

theorem step_reports {s s' : TargetSession} {input : Call × Move}
    {answer : Except HostError Answer} (h : WellFormed s) (hstep : StopStep s input answer s') :
    WellFormed s' ∧ Reports ⟨s, input, answer, s'⟩ := by
  obtain ⟨hpossible, hperform⟩ := hstep
  let armed : TargetSession := { s with ops := { s.ops with moves := [input.2] } }
  change applyCall Target.ops input.1 armed = (answer, s') at hperform
  have harmed : WellFormed armed := ⟨h.alive, h.accessible, h.distinct⟩
  rcases hlive : s.ops.live with _ | _
  · have halive : armed.alive = false := h.alive.trans hlive
    rw [applyCall_dead halive] at hperform
    obtain ⟨rfl, rfl⟩ := Prod.mk.inj hperform
    exact ⟨harmed, fun hlive' => absurd hlive' (by simp [hlive]), fun _ _ => rfl⟩
  · have hLive : armed.Live := ⟨h.alive.trans hlive, hlive⟩
    have heffect := effect_applyCall (s := armed) hLive harmed.accessible rfl input.1
    rw [hperform] at heffect
    have hpossible' : Possible armed input.1 input.2 :=
      ⟨hpossible.enabled, hpossible.trap, hpossible.step⟩
    have hreports := reports_of_effect harmed hpossible' heffect
    refine ⟨wellFormed_of_effect harmed hLive heffect, fun _ hr => ?_, hreports.registers⟩
    obtain ⟨outcome, hanswer, hiff⟩ := hreports.outcome hlive hr
    refine ⟨outcome, hanswer, ⟨fun ht => hiff.mp ⟨?_, ?_, ?_, ?_⟩, fun hc => ?_⟩⟩
    · exact ht.watchpoint
    · exact ht.breakpoint
    · exact ht.int3
    · exact ht.registers
    · have ht := hiff.mpr hc
      exact ⟨ht.watchpoint, ht.breakpoint, ht.int3, ht.registers⟩

/-- CORRECT (stops): in every sequence of calls, whatever the target does, a resumption reports the
    stop that happened exactly if neither a stale status bit nor the byte below the instruction
    pointer misleads the session. -/
theorem stops_truthful_iff_clean (t : Target) (hlive : t.live = true)
    {es : List (Event TargetSession (Call × Move) (Except HostError Answer))} {s : TargetSession}
    (run : Run StopStep (.new t) es s) : ∀ e ∈ es, Reports e := by
  have hstart : WellFormed (.new t) := by
    refine ⟨hlive.symm, fun a hmem => ?_, fun i i' slot slot' hslot => ?_⟩
    · simp [LinuxDebugSession.new] at hmem
    · simp [LinuxDebugSession.new] at hslot
  exact (run.event_invariant WellFormed Reports hstart fun _ _ _ _ h hstep =>
    step_reports h hstep).2

/-- A move of a target that is not resumed. -/
def idle : Move := { sampleStep with stores := [], status := 0 }

/-- Running into the `INT3` at `0x1010`, without touching any watched byte. -/
def runsIntoInt3 : Move :=
  { registers := { rip := 0x1011 }
    stores := []
    status := 0
    int3 := some 0x1010
    event := .stopped sigtrap }

/-- Two breakpoints, the first one at the instruction pointer, and a watched word. -/
def armedCalls : List (Call × Move) :=
  [(.setBreakpoint 0x1000, idle), (.setBreakpoint 0x1010, idle),
    (.setWatchpoint 0x2000 4 .write, idle)]

/-- The session over the sample target after some calls. -/
def afterCalls (calls : List (Call × Move)) : TargetSession :=
  calls.foldl (fun s input => (perform input s).2) (.new sampleTarget)

theorem possible_of_quiet {s : TargetSession} {c : Call} {m : Move} (hstatus : m.status = 0)
    (hint3 : m.int3 = none) : Possible s c m := by
  refine ⟨fun i h => ?_, fun a h => ?_, fun _ a h => ?_⟩
  · rw [Move.Triggers, hstatus, bit_zero] at h
    exact absurd h (by simp)
  · simp [hint3] at h
  · simp [hint3] at h

/-- Calls without a resumption are a run. -/
theorem run_quiet (calls : List (Call × Move))
    (hquiet : ∀ input ∈ calls, input.2.status = 0 ∧ input.2.int3 = none) {s₀ s : TargetSession}
    {es : List (Event TargetSession (Call × Move) (Except HostError Answer))}
    (run : Run StopStep s₀ es s) :
    ∃ es, Run StopStep s₀ es (calls.foldl (fun s input => (perform input s).2) s) := by
  induction calls generalizing s es with
  | nil => exact ⟨es, run⟩
  | cons input calls ih =>
    obtain ⟨hstatus, hint3⟩ := hquiet input (by simp)
    exact ih (fun input' h => hquiet input' (by simp [h]))
      (run.next (i := input) ⟨possible_of_quiet hstatus hint3, rfl⟩)

theorem run_armedCalls : ∃ es, Run StopStep (.new sampleTarget) es (afterCalls armedCalls) :=
  run_quiet armedCalls (by decide) .start

/-- The step off the first breakpoint writes the watched word. -/
theorem possible_sampleStep : Possible (afterCalls armedCalls) .singleStep sampleStep := by
  refine ⟨fun i h => ?_, fun a h => ?_, fun _ a h => ?_⟩
  · have hi : i.val = 0 := by simpa [Move.Triggers, sampleStep, bit_one] using h
    unfold Enabled
    rw [hi]
    decide +kernel
  · simp [sampleStep] at h
  · simp [sampleStep] at h

theorem possible_runsIntoInt3 (s : TargetSession) :
    Possible s .continueExecution runsIntoInt3 := by
  refine ⟨fun i h => ?_, fun a h => ?_, fun hc => ?_⟩
  · rw [Move.Triggers, runsIntoInt3, bit_zero] at h
    exact absurd h (by simp)
  · obtain rfl : 0x1010 = a := by simpa [runsIntoInt3] using h
    exact ⟨rfl, rfl⟩
  · simp at hc

/-- A run whose last two calls step off a breakpoint onto a watched write and then run into
    an `INT3`. -/
theorem run_staleStatus : ∃ es, Run StopStep (.new sampleTarget)
    (es ++ [⟨afterCalls armedCalls, (.singleStep, sampleStep),
      .ok (.outcome (.stopped (.stopped sigtrap))),
      afterCalls (armedCalls ++ [(.singleStep, sampleStep)])⟩] ++
      [⟨afterCalls (armedCalls ++ [(.singleStep, sampleStep)]), (.continueExecution, runsIntoInt3),
        .ok (.outcome (.watchpointHit 0x2000)),
        afterCalls (armedCalls ++ [(.singleStep, sampleStep),
          (.continueExecution, runsIntoInt3)])⟩])
    (afterCalls (armedCalls ++ [(.singleStep, sampleStep),
    (.continueExecution, runsIntoInt3)])) := by
  obtain ⟨es, run⟩ := run_armedCalls
  exact ⟨es, (run.next ⟨possible_sampleStep, rfl⟩).next ⟨possible_runsIntoInt3 _, rfl⟩⟩

/-- The step leaves the watched word's bit in `DR6`, so the next call takes the `INT3` it runs into
    for a hit of the watchpoint, and leaves the instruction pointer past the breakpoint. -/
theorem stale_status_misreported : ∃ es s, Run StopStep (.new sampleTarget) es s ∧
    ∃ e ∈ es, e.input.1 = .continueExecution ∧ (∀ i, ¬ e.input.2.Triggers i) ∧
      ExecutesArmed e.pre e.input.1 e.input.2 0x1010 ∧
      e.output = .ok (.outcome (.watchpointHit 0x2000)) ∧ e.post.ops.registers.rip = 0x1011 ∧
      ¬ Truthful e.pre e.input.1 e.input.2 (.watchpointHit 0x2000) e.post := by
  obtain ⟨es, run⟩ := run_staleStatus
  have hquiet : ∀ i, ¬ runsIntoInt3.Triggers i := fun i h => by
    rw [Move.Triggers, runsIntoInt3, bit_zero] at h
    exact absurd h (by simp)
  refine ⟨_, _, run, _, List.mem_append_right _ (List.mem_singleton.mpr rfl), rfl, hquiet,
    ⟨rfl, by decide +kernel, fun hc => by simp at hc⟩, rfl, by decide +kernel, fun htruthful => ?_⟩
  obtain ⟨i, -, -, -, -, htriggers⟩ := htruthful.watchpoint _ rfl
  exact hquiet i htriggers

theorem stops_truthful_iff_clean_staleStatus :
    ∃ es s, Run StopStep (.new sampleTarget) es s ∧ es ≠ [] ∧ ∀ e ∈ es, Reports e := by
  obtain ⟨es, run⟩ := run_staleStatus
  exact ⟨_, _, run, by simp, stops_truthful_iff_clean sampleTarget rfl run⟩

end ReSymbol.LinuxDebugHost
