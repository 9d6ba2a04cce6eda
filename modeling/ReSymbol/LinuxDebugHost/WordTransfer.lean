import ReSymbol.LinuxDebugHost.Session
import ReSymbol.Schemes.Words

/-! Transfers of the ptrace backend.

    The kernel moves one aligned word of the target per request. `PEEKTEXT` answers the word itself,
    so a word of ones is told from a failure by `errno`. The backend reads and writes any range of
    bytes word by word; a word that the range covers in part is read, changed and written back.

        range      │···▓▓▓▓▓│▓▓▓▓▓▓▓▓│▓▓······│
                       start = 3          take = 2 -/

namespace ReSymbol.LinuxDebugHost
open Schemes Schemes.Reducer

/-! ### Requests -/

/-- A kernel with a target: which requests succeed is up to it, and one that succeeds reads or
    writes exactly the aligned word that it names. -/
structure WordKernel (σ : Type) where
  memory : σ → Memory UInt8
  peekText : UInt64 → Reducer σ ℕ+ UInt64
  pokeText : UInt64 → UInt64 → Reducer σ ℕ+ Unit
  peek_memory : ∀ address s, memory (peekText address s).2 = memory s
  peek_word : ∀ {address s word s'}, 8 ∣ address.toNat → peekText address s = (.ok word, s') →
    wordBytes word = readSpan (memory s) address.toNat 8
  poke_word : ∀ {address word s s'}, 8 ∣ address.toNat → pokeText address word s = (.ok (), s') →
    memory s' = writeSpan (memory s) address.toNat (wordBytes word)

namespace WordKernel

variable {σ : Type} (kernel : WordKernel σ)

/-- `libc::ptrace` with `PTRACE_PEEKTEXT`: the returned value and `errno`, which was cleared. -/
def ptracePeek (address : UInt64) (s : σ) : (UInt64 × ℕ) × σ :=
  match kernel.peekText address s with
  | (.ok word, s') => ((word, 0), s')
  | (.error errno, s') => ((-1, errno), s')

/-- `libc::ptrace` with `PTRACE_POKETEXT`: the returned value and `errno`. -/
def ptracePoke (address word : UInt64) (s : σ) : (ℤ × ℕ) × σ :=
  match kernel.pokeText address word s with
  | (.ok (), s') => ((0, 0), s')
  | (.error errno, s') => ((-1, errno), s')

/-- The value -1 is a failure only if `errno` says so. -/
def peekWord (address : UInt64) : Reducer σ HostError UInt64 := fun s =>
  let ((value, errno), s') := kernel.ptracePeek address s
  if value = -1 ∧ errno ≠ 0 then (.error (.syscall "PTRACE_PEEKTEXT" errno), s')
  else (.ok value, s')

/-- One word to the target. -/
def pokeWord (address word : UInt64) : Reducer σ HostError Unit := fun s =>
  let ((rc, errno), s') := kernel.ptracePoke address word s
  if rc < 0 then (.error (.syscall "PTRACE_POKETEXT" errno), s') else (.ok (), s')

/-! ### Transfers -/

/-- The word that holds the byte `done` bytes into the range. -/
def alignedAt (address : UInt64) (done : ℕ) : UInt64 := alignDown (address + UInt64.ofNat done)

/-- Where in its word that byte stands. -/
def startIn (address : UInt64) (done : ℕ) : ℕ :=
  (address + UInt64.ofNat done - alignedAt address done).toNat

/-- How many bytes of that word belong to the range. -/
def takeOf (address : UInt64) (len done : ℕ) : ℕ := min (8 - startIn address done) (len - done)

theorem startIn_eq (address : UInt64) (done : ℕ) :
    startIn address done = (address + UInt64.ofNat done).toNat % 8 := by
  have haligned := toNat_alignDown (address + UInt64.ofNat done)
  rw [startIn, alignedAt, UInt64.toNat_sub_of_le, haligned]
  · omega
  · rw [UInt64.le_iff_toNat_le, haligned]
    omega

theorem takeOf_pos (address : UInt64) {len done : ℕ} (h : done < len) :
    0 < takeOf address len done := by
  have hstart := startIn_eq address done
  rw [takeOf]
  omega

/-- The loop of `read_memory`. -/
def readFrom (address : UInt64) (len read : ℕ) (out : List UInt8) :
    Reducer σ HostError (List UInt8) :=
  if _h : read < len then do
    let word ← kernel.peekWord (alignedAt address read)
    let take := takeOf address len read
    readFrom address len (read + take)
      (out ++ window (wordBytes word) (startIn address read) take)
  else pure out
termination_by len - read
decreasing_by
  have := takeOf_pos address _h
  omega

def readMemory (address : UInt64) (len : ℕ) : Reducer σ HostError (List UInt8) :=
  kernel.readFrom address len 0 []

/-- The loop of `write_memory`. -/
def writeFrom (address : UInt64) (bytes : List UInt8) (written : ℕ) : Reducer σ HostError Unit :=
  if _h : written < bytes.length then do
    let word ← kernel.peekWord (alignedAt address written)
    let take := takeOf address bytes.length written
    kernel.pokeWord (alignedAt address written) (wordOfBytes
      (overwrite (wordBytes word) (startIn address written) (window bytes written take)))
    writeFrom address bytes (written + take)
  else pure ()
termination_by bytes.length - written
decreasing_by
  have := takeOf_pos address _h
  omega

def writeMemory (address : UInt64) (bytes : List UInt8) : Reducer σ HostError Unit :=
  kernel.writeFrom address bytes 0

/-! ### What a request does -/

variable {kernel}

theorem peekWord_eq_ok {address word : UInt64} {s s' : σ} (haligned : 8 ∣ address.toNat)
    (h : kernel.peekWord address s = (.ok word, s')) :
    wordBytes word = readSpan (kernel.memory s) address.toNat 8 ∧
      kernel.memory s' = kernel.memory s := by
  have hmemory := kernel.peek_memory address s
  rw [peekWord, ptracePeek] at h
  rcases hpeek : kernel.peekText address s with ⟨errno | found, s₁⟩ <;> rw [hpeek] at h hmemory
  · simp at h
  · simp only [ne_eq, not_true_eq_false, and_false, if_false, Prod.mk.injEq, Except.ok.injEq] at h
    obtain ⟨rfl, rfl⟩ := h
    exact ⟨kernel.peek_word haligned hpeek, hmemory⟩

theorem pokeWord_eq_ok {address word : UInt64} {s s' : σ} (haligned : 8 ∣ address.toNat)
    (h : kernel.pokeWord address word s = (.ok (), s')) :
    kernel.memory s' = writeSpan (kernel.memory s) address.toNat (wordBytes word) := by
  rw [pokeWord, ptracePoke] at h
  rcases hpoke : kernel.pokeText address word s with ⟨errno | found, s₁⟩ <;> rw [hpoke] at h
  · simp at h
  · simp only [lt_self_iff_false, if_false, Prod.mk.injEq, true_and] at h
    subst h
    exact kernel.poke_word haligned hpoke

/-! ### What a loop does -/

/-- The word of a byte of the range, and the bytes of the range in it. -/
structure Places (address : UInt64) (len done : ℕ) : Prop where
  aligned : 8 ∣ (alignedAt address done).toNat
  byte : (alignedAt address done).toNat + startIn address done = address.toNat + done
  inWord : startIn address done + takeOf address len done ≤ 8
  inRange : done + takeOf address len done ≤ len

theorem places {address : UInt64} {len done : ℕ} (hrange : address.toNat + len ≤ 2 ^ 64)
    (h : done < len) : Places address len done := by
  have hcurrent : (address + UInt64.ofNat done).toNat = address.toNat + done := by
    have hdone : done < UInt64.size := by
      rw [UInt64.size]
      omega
    rw [UInt64.toNat_add, UInt64.toNat_ofNat_of_lt' hdone, Nat.mod_eq_of_lt (by omega)]
  have haligned := toNat_alignDown (address + UInt64.ofNat done)
  have hstart := startIn_eq address done
  rw [hcurrent] at haligned hstart
  rw [← alignedAt] at haligned
  refine ⟨?_, ?_, ?_, ?_⟩
  · omega
  · omega
  · rw [takeOf]
    omega
  · rw [takeOf]
    omega

theorem readFrom_eq_ok {address : UInt64} {len read : ℕ} {out bytes : List UInt8} {s s' : σ}
    (hrange : address.toNat + len ≤ 2 ^ 64) (hread : read ≤ len)
    (h : kernel.readFrom address len read out s = (.ok bytes, s')) :
    bytes = out ++ readSpan (kernel.memory s) (address.toNat + read) (len - read) ∧
      kernel.memory s' = kernel.memory s := by
  fun_induction readFrom kernel address len read out generalizing s with
  | case1 read out hlt ih =>
    obtain ⟨word, s₁, hpeek, hrest⟩ := bind_eq_ok.mp h
    have hplaces := places hrange hlt
    obtain ⟨hword, hkept⟩ := peekWord_eq_ok hplaces.aligned hpeek
    obtain ⟨hbytes, hmemory⟩ := ih word hplaces.inRange hrest
    have hchunk : window (wordBytes word) (startIn address read) (takeOf address len read) =
        readSpan (kernel.memory s) (address.toNat + read) (takeOf address len read) := by
      rw [hword, window_readSpan _ hplaces.inWord, hplaces.byte]
    have hlen : len - read =
        takeOf address len read + (len - (read + takeOf address len read)) := by
      have := hplaces.inRange
      omega
    refine ⟨?_, hmemory.trans hkept⟩
    rw [hbytes, hkept, hchunk, hlen, readSpan_add, List.append_assoc, Nat.add_assoc]
  | case2 read out hge =>
    obtain ⟨rfl, rfl⟩ := pure_eq_ok.mp h
    rw [Nat.sub_eq_zero_of_le (by omega)]
    exact ⟨(List.append_nil _).symm, rfl⟩

/-- A chunk put into its word is written where it belongs, and nothing else is. -/
theorem pokeWord_chunk {address word : UInt64} {len done : ℕ} {chunk : List UInt8} {s s₁ s₂ : σ}
    (hplaces : Places address len done) (hchunk : chunk.length = takeOf address len done)
    (hpeek : kernel.peekWord (alignedAt address done) s = (.ok word, s₁))
    (hpoke : kernel.pokeWord (alignedAt address done)
      (wordOfBytes (overwrite (wordBytes word) (startIn address done) chunk)) s₁ = (.ok (), s₂)) :
    kernel.memory s₂ = writeSpan (kernel.memory s) (address.toNat + done) chunk := by
  have hinside : startIn address done + chunk.length ≤ 8 := hchunk ▸ hplaces.inWord
  obtain ⟨hword, hkept⟩ := peekWord_eq_ok hplaces.aligned hpeek
  rw [pokeWord_eq_ok hplaces.aligned hpoke, hkept, hword, wordBytes_wordOfBytes,
    writeSpan_overwrite _ hinside, hplaces.byte]
  rw [length_overwrite (by rwa [readSpan_length]), readSpan_length]

theorem writeFrom_eq_ok {address : UInt64} {bytes : List UInt8} {written : ℕ} {s s' : σ}
    (hrange : address.toNat + bytes.length ≤ 2 ^ 64) (hwritten : written ≤ bytes.length)
    (h : kernel.writeFrom address bytes written s = (.ok (), s')) :
    kernel.memory s' =
      writeSpan (kernel.memory s) (address.toNat + written) (bytes.drop written) := by
  fun_induction writeFrom kernel address bytes written generalizing s with
  | case1 written hlt ih =>
    obtain ⟨word, s₁, hpeek, hrest⟩ := bind_eq_ok.mp h
    obtain ⟨⟨⟩, s₂, hpoke, hrest⟩ := bind_eq_ok.mp hrest
    have hplaces := places hrange hlt
    have hchunk := length_window hplaces.inRange
    rw [ih hplaces.inRange hrest, pokeWord_chunk hplaces hchunk hpeek hpoke,
      ← window_append_drop bytes written (takeOf address bytes.length written),
      ← writeSpan_append, hchunk, Nat.add_assoc]
  | case2 written hge =>
    obtain ⟨-, rfl⟩ := pure_eq_ok.mp h
    rw [List.drop_eq_nil_of_le (by omega)]
    funext a
    rw [writeSpan_outside _ fun _ => Nat.zero_le _]

/-- CORRECT (word transfers): a read that succeeds answers the bytes of its range in order and keeps
    the memory; a write that succeeds leaves the given bytes in its range and every other byte as it
    was. -/
theorem transfers_exact {σ : Type} (kernel : WordKernel σ) (address : UInt64) (s s' : σ) :
    (∀ len bytes, address.toNat + len ≤ 2 ^ 64 →
      kernel.readMemory address len s = (.ok bytes, s') →
        bytes = readSpan (kernel.memory s) address.toNat len ∧
          kernel.memory s' = kernel.memory s) ∧
      ∀ bytes, address.toNat + bytes.length ≤ 2 ^ 64 →
        kernel.writeMemory address bytes s = (.ok (), s') →
          readSpan (kernel.memory s') address.toNat bytes.length = bytes ∧
            ∀ a, a < address.toNat ∨ address.toNat + bytes.length ≤ a →
              kernel.memory s' a = kernel.memory s a := by
  refine ⟨fun len bytes hrange h => ?_, fun bytes hrange h => ?_⟩
  · exact readFrom_eq_ok hrange (Nat.zero_le _) h
  · have hmemory := writeFrom_eq_ok hrange (Nat.zero_le _) h
    rw [Nat.add_zero, List.drop_zero] at hmemory
    rw [hmemory]
    refine ⟨readSpan_writeSpan _ _ _, fun a ha => writeSpan_outside _ fun hle => ?_⟩
    omega

/-! ### Kernels that serve every request -/

theorem peekWord_total (h : ∀ address, Total (kernel.peekText address)) (address : UInt64) :
    Total (kernel.peekWord address) := by
  intro s
  obtain ⟨word, s', hpeek⟩ := h address s
  exact ⟨word, s', by simp [peekWord, ptracePeek, hpeek]⟩

theorem pokeWord_total (h : ∀ address word, Total (kernel.pokeText address word))
    (address word : UInt64) : Total (kernel.pokeWord address word) := by
  intro s
  obtain ⟨⟨⟩, s', hpoke⟩ := h address word s
  exact ⟨(), s', by simp [pokeWord, ptracePoke, hpoke]⟩

theorem readMemory_total (h : ∀ address, Total (kernel.peekText address)) (address : UInt64)
    (len : ℕ) : Total (kernel.readMemory address len) := by
  suffices hloop : ∀ read out, Total (kernel.readFrom address len read out) from hloop 0 []
  intro read out
  fun_induction readFrom kernel address len read out with
  | case1 read out hlt ih => exact (peekWord_total h _).bind ih
  | case2 read out hge => exact total_pure out

theorem writeMemory_total (hpeek : ∀ address, Total (kernel.peekText address))
    (hpoke : ∀ address word, Total (kernel.pokeText address word)) (address : UInt64)
    (bytes : List UInt8) : Total (kernel.writeMemory address bytes) := by
  suffices hloop : ∀ written, Total (kernel.writeFrom address bytes written) from hloop 0
  intro written
  fun_induction writeFrom kernel address bytes written with
  | case1 written hlt ih =>
    exact (peekWord_total hpeek _).bind fun word => (pokeWord_total hpoke _ _).bind fun _ => ih
  | case2 written hge => exact total_pure ()

/-- A kernel that serves every request on a plain memory. -/
def flat : WordKernel (Memory UInt8) where
  memory := id
  peekText address := fun m => (.ok (wordOfBytes (readSpan m address.toNat 8)), m)
  pokeText address word := fun m => (.ok (), writeSpan m address.toNat (wordBytes word))
  peek_memory _ _ := rfl
  peek_word _ h := by
    obtain ⟨rfl, -⟩ := Prod.mk.inj h |>.imp_left Except.ok.inj
    exact wordBytes_wordOfBytes (readSpan_length _ _ _)
  poke_word _ h := (Prod.mk.inj h).2.symm

theorem transfers_exact_flat : ∃ m₁ m₂ : Memory UInt8,
    flat.readMemory 6 5 UInt8.ofNat = (.ok [6, 7, 8, 9, 10], m₁) ∧
      flat.writeMemory 6 [1, 2, 3, 4, 5] UInt8.ofNat = (.ok (), m₂) ∧
        readSpan m₂ 6 5 = [1, 2, 3, 4, 5] ∧ m₂ 5 = 5 ∧ m₂ 11 = 11 := by
  have hpeek : ∀ address, Total (flat.peekText address) := fun address m => ⟨_, _, rfl⟩
  have hpoke : ∀ address word, Total (flat.pokeText address word) := fun _ _ m => ⟨_, _, rfl⟩
  obtain ⟨bytes, m₁, hread⟩ := readMemory_total hpeek 6 5 UInt8.ofNat
  obtain ⟨⟨⟩, m₂, hwrite⟩ := writeMemory_total hpeek hpoke 6 [1, 2, 3, 4, 5] UInt8.ofNat
  have hbytes := ((transfers_exact flat 6 UInt8.ofNat m₁).1 5 bytes (by decide) hread).1
  obtain ⟨hinside, houtside⟩ :=
    (transfers_exact flat 6 UInt8.ofNat m₂).2 [1, 2, 3, 4, 5] (by decide) hwrite
  refine ⟨m₁, m₂, ?_, hwrite, hinside, houtside 5 (by decide), houtside 11 (by decide)⟩
  rw [hread, hbytes]
  rfl

end WordKernel

end ReSymbol.LinuxDebugHost
