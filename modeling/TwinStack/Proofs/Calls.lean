import TwinStack.Proofs.Frame

/-! Calls and returns. A call leaves the position behind it on the return stack; a subroutine that
gives back an empty return stack when it starts with one returns there, whatever lies below. -/
namespace TwinStack

theorem Instruction.operation?_decode_jsr (byte : UInt8) (h : byte &&& 0x1f = 0x0e) :
    (decode byte).operation? = some .jsr := by
  revert byte
  exact forall_byte (by decide +kernel)

namespace Machine
variable {image : Image} {m : Machine}

theorem step_jsr {byte : UInt8} (hb : image[m.pc]? = some byte) (hj : byte &&& 0x1f = 0x0e)
    (hok : ∀ fault, (m.step image).outcome ≠ .faulted fault) :
    ∃ s offset, m.wst = s.pushByte offset ∧ (m.step image).machine =
      ⟨s, m.rst.pushShort (UInt16.ofNat (m.pc + 1)), m.pc + offset.toNat + 1, m.bus⟩ := by
  obtain ⟨effect, m', hp, hm⟩ :=
    exists_performs_of_step hb (Instruction.operation?_decode_jsr byte hj) hok
  cases hp with
  | jsr s offset hs => exact ⟨s, offset, hs, hm⟩

theorem step_jsi (hb : image[m.pc]? = some 0x60)
    (hok : ∀ fault, (m.step image).outcome ≠ .faulted fault) :
    ∃ offset, image.valueAt? (m.pc + 1) .short = some (.short offset) ∧ (m.step image).machine =
      ⟨m.wst, m.rst.pushShort (UInt16.ofNat (m.pc + 3)), m.pc + offset.toNat, m.bus⟩ := by
  have ho : (Instruction.decode 0x60).operation? = some .jsi := by decide
  obtain ⟨effect, m', hp, hm⟩ := exists_performs_of_step hb ho hok
  cases hp with
  | jsi offset hv => exact ⟨offset, hv, hm⟩

theorem step_return {s : Stack} {address : UInt16}
    (hb : image[m.pc]? = some 0x6c ∨ image[m.pc]? = some 0xec)
    (hs : m.rst = s.pushShort address) :
    (m.step image).outcome = (if address.toNat < image.size then .running else .stopped) ∧
      (m.step image).machine = { m with rst := s, pc := address.toNat } := by
  obtain ⟨byte, hb, ho, hw, hside⟩ : ∃ byte, image[m.pc]? = some byte ∧
      (Instruction.decode byte).operation? = some .jmp ∧
      (Instruction.decode byte).mode.width = .short ∧
      (Instruction.decode byte).mode.side = .ret := by
    rcases hb with hb | hb
    · exact ⟨0x6c, hb, by decide⟩
    · exact ⟨0xec, hb, by decide⟩
  have hs' : m.stack (Instruction.decode byte).mode.side = s.pushShort address := by
    rw [hside]
    exact hs
  rw [step_of_performs hb ho (.jmpShort s address hw hs'), hside]
  exact ⟨rfl, rfl⟩

theorem onto_rst (m : Machine) : ({ m with rst := {} } : Machine).onto [] m.rst.bytes = m := by
  have hw : m.wst.onto [] = m.wst := m.wst.onto_nil
  have hr : ({} : Stack).onto m.rst.bytes = m.rst := m.rst.ofBytes_bytes
  rw [onto, hw, hr]

/-- A subroutine that leaves an empty return stack as it found it comes back to the address on top
of any return stack. -/
theorem advance_return {n : Nat} {mₙ : Machine} {s : Stack} {address : UInt16}
    (h : ({ m with rst := {} } : Machine).after? image n = some mₙ)
    (hs : ∀ j < n, ∀ mⱼ, ({ m with rst := {} } : Machine).after? image j = some mⱼ →
      ¬ mⱼ.ShallowOver image .ret)
    (hb : image[mₙ.pc]? = some 0x6c ∨ image[mₙ.pc]? = some 0xec) (he : mₙ.rst = {})
    (hr : m.rst = s.pushShort address) :
    m.advance image (n + 1) =
      ⟨n + 1, if address.toNat < image.size then .running else .stopped,
        { mₙ with rst := s, pc := address.toNat }⟩ := by
  have ha := after?_onto [] m.rst.bytes h (by
    intro j hj mⱼ haj side hside
    cases side with
    | working => exact absurd rfl hside
    | ret => exact hs j hj mⱼ haj)
  rw [onto_rst] at ha
  have htop : (mₙ.onto [] m.rst.bytes).rst = s.pushShort address := by
    rw [onto, he, ← hr]
    exact m.rst.ofBytes_bytes
  obtain ⟨ho, hm⟩ := step_return (m := mₙ.onto [] m.rst.bytes) hb htop
  have hw : (mₙ.onto [] m.rst.bytes).wst = mₙ.wst := mₙ.wst.onto_nil
  rw [advance_succ, advance_of_after? ha, if_pos rfl, Progress.next, ho, hm, hw]
  rfl

/-- A call leaves the position behind it on the return stack, and a subroutine that needs nothing
below comes back to it. Positions on the return stack count modulo 65536. -/
theorem call_and_return (image : Image) (m : Machine) (byte : UInt8) (k : Nat)
    (hb : image[m.pc]? = some byte)
    (hk : byte &&& 0x1f = 0x0e ∧ k = 1 ∨ byte = 0x60 ∧ k = 3)
    (hok : ∀ fault, (m.step image).outcome ≠ .faulted fault) :
    (m.step image).machine.rst.bytes = m.rst.bytes ++
        [UInt8.ofNat ((m.pc + k) % 65536 / 256), UInt8.ofNat ((m.pc + k) % 65536 % 256)] ∧
    (byte &&& 0x1f = 0x0e → ∃ offset : UInt8,
      m.wst.bytes = (m.step image).machine.wst.bytes ++ [offset] ∧
      (m.step image).machine.pc = m.pc + 1 + offset.toNat) ∧
    (byte = 0x60 → ∃ hi lo : UInt8, image[m.pc + 1]? = some hi ∧ image[m.pc + 2]? = some lo ∧
      (m.step image).machine.wst = m.wst ∧
      (m.step image).machine.pc = m.pc + (hi.toNat * 256 + lo.toNat)) ∧
    ∀ n mₙ, ({ (m.step image).machine with rst := {} } : Machine).after? image n = some mₙ →
      (∀ j < n, ∀ mⱼ,
        ({ (m.step image).machine with rst := {} } : Machine).after? image j = some mⱼ →
          ¬ mⱼ.ShallowOver image .ret) →
      (image[mₙ.pc]? = some 0x6c ∨ image[mₙ.pc]? = some 0xec) → mₙ.rst = {} →
      (m.step image).machine.advance image (n + 1) =
        ⟨n + 1, if (m.pc + k) % 65536 < image.size then .running else .stopped,
          { mₙ with rst := m.rst, pc := (m.pc + k) % 65536 }⟩ ∧
      (m.pc + k < 65536 → (m.pc + k) % 65536 = m.pc + k) := by
  have hcall : (m.step image).machine.rst = m.rst.pushShort (UInt16.ofNat (m.pc + k)) := by
    rcases hk with ⟨hj, rfl⟩ | ⟨rfl, rfl⟩
    · obtain ⟨s, offset, -, hm⟩ := step_jsr hb hj hok
      rw [hm]
    · obtain ⟨offset, -, hm⟩ := step_jsi hb hok
      rw [hm]
  have haddress : (UInt16.ofNat (m.pc + k)).toNat = (m.pc + k) % 65536 := UInt16.toNat_ofNat'
  refine ⟨?_, ?_, ?_, ?_⟩
  · rw [hcall, Stack.bytes_pushShort, Short.high, Short.low, haddress]
  · intro hj
    obtain ⟨s, offset, hs, hm⟩ := step_jsr hb hj hok
    refine ⟨offset, ?_, ?_⟩
    · rw [hm, hs, Stack.bytes_pushByte]
    · rw [hm]
      exact Nat.add_right_comm m.pc offset.toNat 1
  · rintro rfl
    obtain ⟨offset, hv, hm⟩ := step_jsi hb hok
    obtain ⟨hi, lo, hhi, hlo, hj⟩ := Image.bytes_of_valueAt?_short hv
    obtain rfl := Value.short.inj hj
    refine ⟨hi, lo, hhi, hlo, by rw [hm], ?_⟩
    rw [hm, ← Short.toNat_join]
  · intro n mₙ ha hs hret he
    have hadv := advance_return ha hs hret he hcall
    rw [haddress] at hadv
    exact ⟨hadv, Nat.mod_eq_of_lt⟩

/-- A subroutine of one literal, called with a byte on the return stack. -/
theorem call_and_return_lit :
    (step { rst := .ofBytes [7] } #[0x60, 0x00, 0x05, 0x00, 0x00, 0x80, 0x2a, 0x6c]).machine =
        { rst := .ofBytes [7, 0, 3], pc := 5 } ∧
      advance { rst := .ofBytes [7, 0, 3], pc := 5 }
          #[0x60, 0x00, 0x05, 0x00, 0x00, 0x80, 0x2a, 0x6c] 2 =
        ⟨2, .running, { wst := .ofBytes [0x2a], rst := .ofBytes [7], pc := 3 }⟩ := by
  have hstep : (step { rst := .ofBytes [7] }
      #[0x60, 0x00, 0x05, 0x00, 0x00, 0x80, 0x2a, 0x6c]).machine =
        { rst := .ofBytes [7, 0, 3], pc := 5 } := by decide
  obtain ⟨-, -, -, hcall⟩ := call_and_return #[0x60, 0x00, 0x05, 0x00, 0x00, 0x80, 0x2a, 0x6c]
    { rst := .ofBytes [7] } 0x60 3 (by decide) (by decide) (by
      have ho : (step { rst := .ofBytes [7] }
        #[0x60, 0x00, 0x05, 0x00, 0x00, 0x80, 0x2a, 0x6c]).outcome = .running := by decide
      simp [ho])
  rw [hstep] at hcall
  refine ⟨hstep, (hcall 1 { wst := .ofBytes [0x2a], pc := 7 } (by decide) ?_ (by decide) rfl).1⟩
  intro j hj mⱼ hmⱼ
  obtain rfl : j = 0 := by omega
  obtain rfl := Option.some.inj hmⱼ
  decide

end Machine

end TwinStack
