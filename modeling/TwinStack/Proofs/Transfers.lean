import TwinStack.Proofs.Stability

/-! Where execution goes on, and what the operations that transfer control or push literals leave
on the stacks. Offsets in the image count from the instruction, byte offsets on a stack from the
byte behind it, and shorts on a stack are positions. -/
namespace TwinStack

namespace Image
variable {image : Image} {position : Nat}

theorem toList_extract_of_valueAt? {w : Width} {v : Value}
    (h : image.valueAt? position w = some v) :
    (image.extract position (position + w.size)).toList = v.bytes := by
  have hdrop (k : Nat) (b : UInt8) (hb : image[k]? = some b) :
      image.toList.drop k = b :: image.toList.drop (k + 1) := by
    rw [List.drop_eq_getElem?_toList_append, Array.getElem?_toList, hb]
    rfl
  rw [Array.toList_extract, List.extract_eq_take_drop, Nat.add_sub_cancel_left]
  cases w with
  | byte =>
    obtain ⟨b, hb, rfl⟩ := Option.map_eq_some_iff.mp h
    rw [hdrop position b hb]
    rfl
  | short =>
    obtain ⟨high, low, hhigh, hlow, rfl⟩ := bytes_of_valueAt?_short h
    rw [hdrop position high hhigh, hdrop (position + 1) low hlow, Value.bytes, Short.high_join,
      Short.low_join]
    rfl

theorem exists_offset_eq {offset : UInt16}
    (h : image.valueAt? (position + 1) .short = some (.short offset)) :
    ∃ high low, image[position + 1]? = some high ∧ image[position + 2]? = some low ∧
      offset.toNat = high.toNat * 256 + low.toNat := by
  obtain ⟨high, low, hhigh, hlow, hv⟩ := bytes_of_valueAt?_short h
  obtain rfl := Value.short.inj hv
  exact ⟨high, low, hhigh, hlow, Short.toNat_join high low⟩

end Image

namespace Machine
variable {image : Image} {m : Machine} {mode : Mode}

namespace Executes

theorem machine_brk (h : m.Executes image .brk mode) : (m.step image).machine = m := by
  obtain ⟨effect, m', hp, -, hm⟩ := h.exists_performs
  cases hp with
  | brk => exact hm

theorem machine_lit (h : m.Executes image .lit mode) :
    m.pc + 1 + mode.width.size ≤ image.size ∧
      (m.step image).machine =
        { m.setStack mode.side (.ofBytes ((m.stack mode.side).bytes ++
            (image.extract (m.pc + 1) (m.pc + 1 + mode.width.size)).toList)) with
          pc := m.pc + 1 + mode.width.size } := by
  obtain ⟨effect, m', hp, -, hm⟩ := h.exists_performs
  cases hp with
  | lit v hv =>
    have hin : ¬ image.size < m.pc + 1 + mode.width.size := by
      rw [← Image.valueAt?_eq_none_iff, hv]
      exact nofun
    refine ⟨Nat.le_of_not_lt hin, ?_⟩
    rw [hm, Image.toList_extract_of_valueAt? hv, ← Stack.bytes_push, Stack.ofBytes_bytes,
      Nat.add_right_comm m.pc 1]
    rfl

/-- A byte offset counts from the byte behind the instruction. -/
theorem exists_jmp_byte (h : m.Executes image .jmp mode) (hw : mode.width = .byte) :
    ∃ rest offset, (m.stack mode.side).bytes = rest ++ [offset] ∧
      (m.step image).machine =
        { m.setStack mode.side (.ofBytes rest) with pc := m.pc + 1 + offset.toNat } := by
  obtain ⟨effect, m', hp, -, hm⟩ := h.exists_performs
  cases hp with
  | jmpShort s position hw' hs => cases hw.symm.trans hw'
  | jmpByte s offset hw' hs =>
    refine ⟨s.bytes, offset, by rw [hs, Stack.bytes_pushByte], ?_⟩
    rw [hm, Stack.ofBytes_bytes, Nat.add_right_comm m.pc 1]
    rfl

theorem exists_jmp_short (h : m.Executes image .jmp mode) (hw : mode.width = .short) :
    ∃ rest high low, (m.stack mode.side).bytes = rest ++ [high, low] ∧
      (m.step image).machine =
        { m.setStack mode.side (.ofBytes rest) with pc := high.toNat * 256 + low.toNat } := by
  obtain ⟨effect, m', hp, -, hm⟩ := h.exists_performs
  cases hp with
  | jmpByte s offset hw' hs => cases hw.symm.trans hw'
  | jmpShort s position hw' hs =>
    refine ⟨s.bytes, Short.high position, Short.low position,
      by rw [hs, Stack.bytes_pushShort], ?_⟩
    rw [hm, Stack.ofBytes_bytes, ← Short.toNat_join, Short.join_high_low]
    rfl

/-- An offset in the image counts from the instruction. -/
theorem exists_jmi (h : m.Executes image .jmi mode) :
    ∃ high low, image[m.pc + 1]? = some high ∧ image[m.pc + 2]? = some low ∧
      (m.step image).machine = { m with pc := m.pc + (high.toNat * 256 + low.toNat) } := by
  obtain ⟨effect, m', hp, -, hm⟩ := h.exists_performs
  cases hp with
  | jmi offset hv =>
    obtain ⟨high, low, hhigh, hlow, hoffset⟩ := Image.exists_offset_eq hv
    refine ⟨high, low, hhigh, hlow, ?_⟩
    rw [hm, ← hoffset]
    rfl

end Executes

theorem machine_step_jmi_at (hlt : m.pc < image.size) {offset : UInt16}
    (hv : image.valueAt? (m.pc + 1) .short = some (.short offset)) :
    (m.step (image.setIfInBounds m.pc 0x40)).machine = { m with pc := m.pc + offset.toNat } := by
  have hb : (image.setIfInBounds m.pc 0x40)[m.pc]? = some 0x40 :=
    Array.getElem?_setIfInBounds_self_of_lt hlt
  have ho : (Instruction.decode 0x40).operation? = some .jmi := by decide
  rw [step_of_performs hb ho (.jmi offset ((image.valueAt?_setIfInBounds _ _ _).trans hv))]
  rfl

namespace Executes

/-- A condition is removed in both cases. A jump that is taken leads where an unconditional one in
its place does. -/
theorem exists_jci (h : m.Executes image .jci mode) :
    ∃ rest top, m.wst.bytes = rest ++ [top] ∧
      (top = 0 → (m.step image).machine = { m with wst := .ofBytes rest, pc := m.pc + 3 }) ∧
      (top ≠ 0 → ∃ high low, image[m.pc + 1]? = some high ∧ image[m.pc + 2]? = some low ∧
        (m.step image).machine =
          { m with wst := .ofBytes rest, pc := m.pc + (high.toNat * 256 + low.toNat) } ∧
        (m.step (image.setIfInBounds m.pc 0x40)).machine =
          { m with pc := (m.step image).machine.pc }) := by
  obtain ⟨effect, m', hp, -, hm⟩ := h.exists_performs
  cases hp with
  | jciSkip s hs =>
    refine ⟨s.bytes, 0, by rw [hs, Stack.bytes_pushByte], fun _ => ?_, fun hne => absurd rfl hne⟩
    rw [hm, Stack.ofBytes_bytes]
    rfl
  | jciTake s top offset hs ht hv =>
    obtain ⟨high, low, hhigh, hlow, hoffset⟩ := Image.exists_offset_eq hv
    refine ⟨s.bytes, top, by rw [hs, Stack.bytes_pushByte], fun hz => absurd hz ht,
      fun _ => ⟨high, low, hhigh, hlow, ?_, ?_⟩⟩
    · rw [hm, Stack.ofBytes_bytes, ← hoffset]
      rfl
    · rw [machine_step_jmi_at h.pc_lt_size hv, hm]
      rfl

theorem exists_sth (h : m.Executes image .sth mode) :
    ∃ rest b, m.wst.bytes = rest ++ [b] ∧
      (m.step image).machine =
        { m with wst := .ofBytes rest, rst := .ofBytes (m.rst.bytes ++ [b]), pc := m.pc + 1 } := by
  obtain ⟨effect, m', hp, -, hm⟩ := h.exists_performs
  cases hp with
  | sth s b hs =>
    refine ⟨s.bytes, b, by rw [hs, Stack.bytes_pushByte], ?_⟩
    rw [hm, Stack.ofBytes_bytes, ← Stack.bytes_pushByte, Stack.ofBytes_bytes]
    rfl

end Executes

/-- What literals, jumps, stashes and breaks do if they do not fault. Each changes what is named
here and nothing else, and the machine runs on while the program counter is inside the image. -/
theorem transfer_effects (image : Image) (m : Machine) (byte : UInt8) (i : Instruction)
    (operation : Operation) (hb : image[m.pc]? = some byte) (hi : Instruction.decode byte = i)
    (ho : i.operation? = some operation)
    (hok : ∀ fault, (m.step image).outcome ≠ .faulted fault) :
    (operation = .lit →
      m.pc + 1 + i.mode.width.size ≤ image.size ∧
      (m.step image).machine =
        { m.setStack i.mode.side (.ofBytes ((m.stack i.mode.side).bytes ++
            (image.extract (m.pc + 1) (m.pc + 1 + i.mode.width.size)).toList)) with
          pc := m.pc + 1 + i.mode.width.size }) ∧
    (operation = .jmp → i.mode.width = .byte →
      ∃ rest offset, (m.stack i.mode.side).bytes = rest ++ [offset] ∧
        (m.step image).machine =
          { m.setStack i.mode.side (.ofBytes rest) with pc := m.pc + 1 + offset.toNat }) ∧
    (operation = .jmp → i.mode.width = .short →
      ∃ rest high low, (m.stack i.mode.side).bytes = rest ++ [high, low] ∧
        (m.step image).machine =
          { m.setStack i.mode.side (.ofBytes rest) with pc := high.toNat * 256 + low.toNat }) ∧
    (operation = .jmi →
      ∃ high low, image[m.pc + 1]? = some high ∧ image[m.pc + 2]? = some low ∧
        (m.step image).machine = { m with pc := m.pc + (high.toNat * 256 + low.toNat) }) ∧
    (operation = .jci →
      ∃ rest top, m.wst.bytes = rest ++ [top] ∧
        (top = 0 → (m.step image).machine = { m with wst := .ofBytes rest, pc := m.pc + 3 }) ∧
        (top ≠ 0 → ∃ high low, image[m.pc + 1]? = some high ∧ image[m.pc + 2]? = some low ∧
          (m.step image).machine =
            { m with wst := .ofBytes rest, pc := m.pc + (high.toNat * 256 + low.toNat) } ∧
          (m.step (image.setIfInBounds m.pc 0x40)).machine =
            { m with pc := (m.step image).machine.pc })) ∧
    (operation = .sth →
      ∃ rest b, m.wst.bytes = rest ++ [b] ∧
        (m.step image).machine =
          { m with wst := .ofBytes rest, rst := .ofBytes (m.rst.bytes ++ [b]), pc := m.pc + 1 }) ∧
    (operation = .brk → (m.step image).machine = m) ∧
    (m.step image).outcome =
      if byte = 0x00 ∨ image.size ≤ (m.step image).machine.pc then .stopped else .running := by
  subst hi
  have h := executes_of_ne_faulted hb ho hok
  have hbrk : operation = .brk ↔ byte = 0x00 := by
    rw [← Instruction.operation?_eq_brk_iff, ho, Option.some.injEq]
  refine ⟨?_, ?_, ?_, ?_, ?_, ?_, ?_, ?_⟩
  · rintro rfl
    exact h.machine_lit
  · rintro rfl hw
    exact h.exists_jmp_byte hw
  · rintro rfl hw
    exact h.exists_jmp_short hw
  · rintro rfl
    exact h.exists_jmi
  · rintro rfl
    exact h.exists_jci
  · rintro rfl
    exact h.exists_sth
  · rintro rfl
    exact h.machine_brk
  · have hout := h.outcome_eq
    simp only [hbrk] at hout
    exact hout

/-- A literal at the end of the image; and a condition that holds, with a byte below it. -/
theorem transfer_effects_jci :
    (step { rst := .ofBytes [7] } #[0xe0, 0x12, 0x34]).machine =
        { rst := .ofBytes [7, 0x12, 0x34], pc := 3 } ∧
      (step { rst := .ofBytes [7] } #[0xe0, 0x12, 0x34]).outcome = .stopped ∧
      (step { wst := .ofBytes [7, 1] } #[0x20, 0x00, 0x04, 0x00, 0x00]).machine.wst =
        .ofBytes [7] ∧
      (step { wst := .ofBytes [7, 1] } #[0x20, 0x00, 0x04, 0x00, 0x00]).machine.pc = 4 ∧
      (step { wst := .ofBytes [7, 1] } #[0x40, 0x00, 0x04, 0x00, 0x00]).machine =
        { wst := .ofBytes [7, 1], pc := 4 } := by
  obtain ⟨hlit, -, -, -, -, -, -, hout⟩ := transfer_effects #[0xe0, 0x12, 0x34]
    { rst := .ofBytes [7] } 0xe0 _ .lit rfl rfl rfl (by
      have ho : (step { rst := .ofBytes [7] } #[0xe0, 0x12, 0x34]).outcome = .stopped := by decide
      simp [ho])
  obtain ⟨-, -, -, -, hjci, -⟩ := transfer_effects #[0x20, 0x00, 0x04, 0x00, 0x00]
    { wst := .ofBytes [7, 1] } 0x20 _ .jci rfl rfl rfl (by
      have ho : (step { wst := .ofBytes [7, 1] } #[0x20, 0x00, 0x04, 0x00, 0x00]).outcome =
        .running := by decide
      simp [ho])
  obtain ⟨rest, top, hs, -, htaken⟩ := hjci rfl
  obtain ⟨rfl, htop⟩ : [7] = rest ∧ [1] = [top] := List.append_inj' hs rfl
  obtain rfl := List.head_eq_of_cons_eq htop
  obtain ⟨high, low, hhigh, hlow, hm, hjmi⟩ := htaken (by decide)
  obtain rfl : 0x00 = high := Option.some.inj hhigh
  obtain rfl : 0x04 = low := Option.some.inj hlow
  rw [hm] at hjmi
  rw [hm, hout, (hlit rfl).2]
  exact ⟨by decide, by decide, rfl, rfl, hjmi⟩

end Machine

end TwinStack
