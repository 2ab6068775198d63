import TwinStack.Proofs.Steps

/-! Programs without backward jumps end. Only a jump to a short on a stack goes back. A step that
stays in place jumps by an offset of zero; done unconditionally this goes on for ever, but a
conditional jump takes a byte from the working stack each time. -/
namespace TwinStack

/-- The bytes of the jump to a short, in all its modes. -/
def Image.shortJumps : List UInt8 :=
  [0x2c, 0x6c, 0xac, 0xec]

def Image.ZeroOffsetAt (image : Image) (position : Nat) : Prop :=
  image[position + 1]? = some 0 ∧ image[position + 2]? = some 0

instance (image : Image) (position : Nat) : Decidable (image.ZeroOffsetAt position) :=
  inferInstanceAs (Decidable (_ ∧ _))

theorem Image.zeroOffsetAt_of_valueAt? {image : Image} {position : Nat}
    (h : image.valueAt? (position + 1) .short = some (.short 0)) : image.ZeroOffsetAt position := by
  obtain ⟨hi, lo, hhi, hlo, hv⟩ := bytes_of_valueAt?_short h
  have hjoin : Short.join hi lo = 0 := (Value.short.inj hv).symm
  have hzero : hi = 0 ∧ lo = 0 := by
    constructor
    · rw [← Short.high_join hi lo, hjoin]
      rfl
    · rw [← Short.low_join hi lo, hjoin]
      rfl
  rw [hzero.1] at hhi
  rw [hzero.2] at hlo
  exact ⟨hhi, hlo⟩

namespace Instruction

theorem mem_shortJumps_of_decode (byte : UInt8) (ho : (decode byte).operation? = some .jmp)
    (hw : (decode byte).mode.width = .short) : byte ∈ Image.shortJumps := by
  revert byte
  exact forall_byte (by decide +kernel)

theorem eq_of_decode_offset (byte : UInt8) :
    ((decode byte).operation? = some .jci → byte = 0x20) ∧
      ((decode byte).operation? = some .jmi → byte = 0x40) ∧
      ((decode byte).operation? = some .jsi → byte = 0x60) := by
  revert byte
  exact forall_byte (by decide +kernel)

end Instruction

/-- An operation goes forward, jumps to a short, or jumps by a stored offset of zero. -/
theorem Operation.Performs.forward {image : Image} {mode : Mode} {m m' : Machine}
    {operation : Operation} {effect : Effect} {position : Nat}
    (h : operation.Performs image mode m effect m') (hf : effect.flow = .goto position) :
    m.pc < position ∨ (operation = .jmp ∧ mode.width = .short) ∨
      position = m.pc ∧ image.ZeroOffsetAt m.pc ∧
        (operation = .jmi ∨ operation = .jsi ∨ operation = .jci ∧
          ∃ s top, top ≠ 0 ∧ m.wst = s.pushByte top ∧ m' = { m with wst := s }) := by
  -- A stored offset that is not zero goes forward too.
  have hoffset (offset : UInt16)
      (hv : image.valueAt? (m.pc + 1) .short = some (.short offset)) :
      m.pc < m.pc + offset.toNat ∨ m.pc + offset.toNat = m.pc ∧ image.ZeroOffsetAt m.pc := by
    by_cases hz : offset = 0
    · subst hz
      exact .inr ⟨rfl, Image.zeroOffsetAt_of_valueAt? hv⟩
    · have : offset.toNat ≠ 0 := fun h0 => hz (UInt16.toNat_inj.mp h0)
      exact .inl (by omega)
  cases h with
  | brk => cases hf
  | lit | data | jmpByte | jsr | jciSkip | sth | deo | deoDropped =>
    cases hf
    exact .inl (by omega)
  | jmpShort s address hw hs => exact .inr (.inl ⟨rfl, hw⟩)
  | jmi offset hv =>
    cases hf
    exact (hoffset offset hv).imp_right fun hz => .inr ⟨hz.1, hz.2, .inl rfl⟩
  | jsi offset hv =>
    cases hf
    exact (hoffset offset hv).imp_right fun hz => .inr ⟨hz.1, hz.2, .inr (.inl rfl)⟩
  | jciTake s top offset hs ht hv =>
    cases hf
    exact (hoffset offset hv).imp_right fun hz =>
      .inr ⟨hz.1, hz.2, .inr (.inr ⟨rfl, s, top, ht, hs, rfl⟩)⟩

namespace Machine
variable {image : Image} {m : Machine}

def AtShortJump (m : Machine) (image : Image) : Prop :=
  ∃ byte ∈ Image.shortJumps, image[m.pc]? = some byte

/-- The step is a jump that comes back to itself, for good unless it is conditional: then it uses
up a byte of the working stack. -/
def Idles (m : Machine) (image : Image) : Prop :=
  image.ZeroOffsetAt m.pc ∧
    (image[m.pc]? = some 0x40 ∨ image[m.pc]? = some 0x60 ∨
      image[m.pc]? = some 0x20 ∧ ∃ top, top ≠ 0 ∧
        m.wst = (m.step image).machine.wst.pushByte top ∧
        (m.step image).machine.rst = m.rst ∧ (m.step image).machine.bus = m.bus)

theorem step_forward (image : Image) (m : Machine)
    (hok : ∀ fault, (m.step image).outcome ≠ .faulted fault) :
    m.pc < (m.step image).machine.pc ∨ m.AtShortJump image ∨
      (m.step image).machine.pc = m.pc ∧
        ((m.step image).outcome = .running → m.Idles image) := by
  obtain ⟨-, hs⟩ | ⟨fault, hf, -⟩ | ⟨byte, operation, effect, m', hb, ho, hp, hout, hm⟩ :=
    step_cases m image
  · rw [hs]
    exact .inr (.inr ⟨rfl, nofun⟩)
  · exact absurd hf (hok fault)
  · cases hflow : effect.flow with
    | halt =>
      rw [hflow, hp.eq_of_halt hflow] at hout hm
      exact .inr (.inr ⟨by rw [hm]; rfl, fun hr => by cases hout.symm.trans hr⟩)
    | goto position =>
      have hpc : (m.step image).machine.pc = position := by
        rw [hm, hflow]
        rfl
      obtain hlt | ⟨rfl, hw⟩ | ⟨rfl, hz, hrest⟩ := hp.forward hflow
      · exact .inl (by rw [hpc]; exact hlt)
      · exact .inr (.inl ⟨byte, Instruction.mem_shortJumps_of_decode byte ho hw, hb⟩)
      · refine .inr (.inr ⟨hpc, fun _ => ⟨hz, ?_⟩⟩)
        obtain ⟨hjci, hjmi, hjsi⟩ := Instruction.eq_of_decode_offset byte
        obtain rfl | rfl | ⟨rfl, s, top, htop, hs, rfl⟩ := hrest
        · rw [hb, hjmi ho]
          exact .inl rfl
        · rw [hb, hjsi ho]
          exact .inr (.inl rfl)
        · rw [hb, hjci ho, hm, hflow]
          exact .inr (.inr ⟨rfl, top, htop, hs, rfl, rfl⟩)

theorem after?_succ_of_running {n : Nat} {mₙ : Machine} (hr : (m.step image).outcome = .running)
    (h : (m.step image).machine.after? image n = some mₙ) : m.after? image (n + 1) = some mₙ := by
  induction n generalizing mₙ with
  | zero => exact after?_succ_eq_some_iff.mpr ⟨m, rfl, hr, Option.some.inj h⟩
  | succ n ih =>
    obtain ⟨m', ha, ho, hm⟩ := after?_succ_eq_some_iff.mp h
    exact after?_succ_eq_some_iff.mpr ⟨m', ih ha, ho, hm⟩

/-- Without jumps to shorts and unconditional jumps in place, each running step brings the program
counter nearer to the end of the image, or keeps it there and shortens the working stack. -/
theorem lex_of_running (hr : (m.step image).outcome = .running)
    (hjump : ¬ m.AtShortJump image)
    (hidle : ¬ ((image[m.pc]? = some 0x40 ∨ image[m.pc]? = some 0x60) ∧
      image.ZeroOffsetAt m.pc)) :
    image.size - (m.step image).machine.pc < image.size - m.pc ∨
      (m.step image).machine.pc = m.pc ∧ (m.step image).machine.wst.size < m.wst.size := by
  obtain ⟨hlt, -⟩ := pc_lt_size_of_running hr
  obtain hpc | hj | ⟨hpc, hi⟩ := step_forward image m (by simp [hr])
  · exact .inl (by omega)
  · exact absurd hj hjump
  · obtain ⟨hz, h40 | h60 | ⟨-, top, -, hs, -⟩⟩ := hi hr
    · exact absurd ⟨.inl h40, hz⟩ hidle
    · exact absurd ⟨.inr h60, hz⟩ hidle
    · refine .inr ⟨hpc, ?_⟩
      rw [hs]
      exact Nat.lt_succ_self _

theorem exists_last_step (hj : ∀ byte ∈ image, byte ∉ Image.shortJumps)
    (hz : ∀ i, image[i]? = some 0x40 ∨ image[i]? = some 0x60 → ¬ image.ZeroOffsetAt i)
    (m : Machine) :
    ∃ n mₙ, m.after? image n = some mₙ ∧ (mₙ.step image).outcome ≠ .running := by
  by_cases hr : (m.step image).outcome = .running
  · have hdec := lex_of_running hr
      (fun ⟨byte, hmem, hb⟩ => hj byte (Array.mem_of_getElem? hb) hmem)
      (fun ⟨hb, hzero⟩ => hz m.pc hb hzero)
    obtain ⟨n, mₙ, ha, ho⟩ := exists_last_step hj hz (m.step image).machine
    exact ⟨n + 1, mₙ, after?_succ_of_running hr ha, ho⟩
  · exact ⟨0, m, rfl, hr⟩
termination_by (image.size - m.pc, m.wst.size)
decreasing_by
  obtain hlt | ⟨hpc, hlt⟩ := hdec
  · exact Prod.Lex.left _ _ hlt
  · rw [hpc]
    exact Prod.Lex.right _ hlt

theorem exists_ending?_of_ne_running {outcome : Outcome} (h : outcome ≠ .running) (m : Machine) :
    ∃ e, outcome.ending? m = some e := by
  cases outcome with
  | running => exact absurd rfl h
  | stopped => exact ⟨_, rfl⟩
  | faulted fault => exact ⟨_, rfl⟩

/-- Going back takes a jump to a short, and staying in place takes that or an offset of zero. So a
program without the former, and without the latter in unconditional jumps, ends from every
machine. -/
theorem run_ends_without_backward_jumps (image : Image) :
    (∀ m : Machine, (∀ fault, (m.step image).outcome ≠ .faulted fault) →
      (m.step image).machine.pc < m.pc → m.AtShortJump image) ∧
    (∀ m : Machine, (m.step image).outcome = .running → (m.step image).machine.pc = m.pc →
      m.AtShortJump image ∨ m.Idles image) ∧
    ((∀ byte ∈ image, byte ∉ Image.shortJumps) →
      (∀ i, image[i]? = some 0x40 ∨ image[i]? = some 0x60 → ¬ image.ZeroOffsetAt i) →
      ∀ m : Machine,
        (∃ n mₙ, m.after? image n = some mₙ ∧ (mₙ.step image).outcome ≠ .running) ∧
        ∃ limit e, m.run? image limit = some e) := by
  refine ⟨?_, ?_, ?_⟩
  · intro m hok hback
    obtain hlt | hj | ⟨hpc, -⟩ := step_forward image m hok
    · omega
    · exact hj
    · omega
  · intro m hr hsame
    obtain hlt | hj | ⟨-, hi⟩ := step_forward image m (by simp [hr])
    · omega
    · exact .inl hj
    · exact .inr (hi hr)
  · intro hj hz m
    obtain ⟨n, mₙ, ha, ho⟩ := exists_last_step hj hz m
    obtain ⟨e, he⟩ := exists_ending?_of_ne_running ho (mₙ.step image).machine
    exact ⟨⟨n, mₙ, ha, ho⟩, n + 1, e, run?_eq_some_iff.mpr ⟨n, Nat.lt_succ_self n, mₙ, ha, he⟩⟩

/-- An image of one conditional jump in place ends when the working stack is used up. A jump to the
start of an image, by a short, goes back. -/
theorem run_ends_without_backward_jumps_jci :
    (∀ byte ∈ (#[0x20, 0x00, 0x00] : Image), byte ∉ Image.shortJumps) ∧
      (∃ limit e, run? { wst := .ofBytes [3, 2, 1] } #[0x20, 0x00, 0x00] limit = some e) ∧
      Idles { wst := .ofBytes [3, 2, 1] } #[0x20, 0x00, 0x00] ∧
      AtShortJump { wst := .ofBytes [0, 0], pc := 1 } #[0x01, 0x2c] := by
  have hbytes : ∀ byte ∈ (#[0x20, 0x00, 0x00] : Image), byte ∉ Image.shortJumps := by
    intro byte hmem
    obtain rfl | rfl : byte = 0x20 ∨ byte = 0x00 := by simpa using hmem
    · decide
    · decide
  have hback : (step { wst := .ofBytes [0, 0], pc := 1 } #[0x01, 0x2c]).outcome = .running := by
    decide
  obtain ⟨-, hsame, hend⟩ := run_ends_without_backward_jumps #[0x20, 0x00, 0x00]
  refine ⟨hbytes, (hend hbytes ?_ _).2, ?_, ?_⟩
  · rintro (_ | _ | _ | i) h <;> simp at h
  · refine (hsame _ (by decide) (by decide)).resolve_left ?_
    rintro ⟨byte, hmem, hb⟩
    obtain rfl : 0x20 = byte := Option.some.inj hb
    revert hmem
    decide
  · exact (run_ends_without_backward_jumps #[0x01, 0x2c]).1 _ (by simp [hback]) (by decide)

end Machine

end TwinStack
