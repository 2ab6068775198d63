import TwinStack.Proofs.Rules

/-! When a step faults, and with which fault. A faulting step leaves the machine as it was. -/
namespace TwinStack

theorem Image.valueAt?_eq_none_iff (image : Image) (position : Nat) (w : Width) :
    image.valueAt? position w = none ↔ image.size < position + w.size := by
  cases w with
  | byte =>
    rw [valueAt?, Option.map_eq_none_iff, Array.getElem?_eq_none_iff, Width.size]
    omega
  | short =>
    simp only [valueAt?, Option.bind_eq_bind, Width.size]
    by_cases hlo : position + 1 < image.size
    · have hhi : position < image.size := by omega
      simp [Array.getElem?_eq_getElem hhi, Array.getElem?_eq_getElem hlo]
      omega
    · have hnone : image[position + 1]? = none := Array.getElem?_eq_none (by omega)
      simp only [hnone, Option.bind_none]
      have : image.size < position + 2 := by omega
      cases image[position]? <;> simp [this]

theorem Image.exists_valueAt? {image : Image} {position : Nat} {w : Width}
    (h : position + w.size ≤ image.size) : ∃ v, image.valueAt? position w = some v := by
  apply Option.ne_none_iff_exists'.mp
  rw [Ne, valueAt?_eq_none_iff]
  omega

theorem Image.bytes_of_valueAt?_short {image : Image} {position : Nat} {v : Value}
    (h : image.valueAt? position .short = some v) :
    ∃ hi lo, image[position]? = some hi ∧ image[position + 1]? = some lo ∧
      v = .short (Short.join hi lo) := by
  simp only [valueAt?, Option.bind_eq_bind, Option.bind_eq_some_iff] at h
  obtain ⟨hi, hhi, lo, hlo, hv⟩ := h
  exact ⟨hi, lo, hhi, hlo, (Option.some.inj hv).symm⟩

theorem Image.exists_shortAt? {image : Image} {position : Nat}
    (h : position + Width.short.size ≤ image.size) :
    ∃ offset, image.valueAt? position .short = some (.short offset) := by
  obtain ⟨v, hv⟩ := exists_valueAt? h
  obtain ⟨hi, lo, -, -, rfl⟩ := bytes_of_valueAt?_short hv
  exact ⟨Short.join hi lo, hv⟩

/-- The operand behind a byte is the same whatever that byte is. -/
theorem Image.valueAt?_setIfInBounds (image : Image) (position : Nat) (byte : UInt8) (w : Width) :
    Image.valueAt? (image.setIfInBounds position byte) (position + 1) w =
      image.valueAt? (position + 1) w := by
  have hfirst : (image.setIfInBounds position byte)[position + 1]? = image[position + 1]? :=
    Array.getElem?_setIfInBounds_ne (by omega)
  have hsecond : (image.setIfInBounds position byte)[position + 1 + 1]? =
      image[position + 1 + 1]? :=
    Array.getElem?_setIfInBounds_ne (by omega)
  cases w with
  | byte => rw [valueAt?, valueAt?, hfirst]
  | short => rw [valueAt?, valueAt?, hfirst, hsecond]

namespace Operation

def opcodes : List UInt8 :=
  [0x00, 0x01, 0x02, 0x03, 0x04, 0x05, 0x06, 0x07, 0x08, 0x0c, 0x0e, 0x0f, 0x17, 0x18, 0x20, 0x40,
    0x60, 0x80]

/-- A stack holds fewer bytes than the operation needs. -/
def Underflows (mode : Mode) (m : Machine) : Operation → Prop
  | .data op => (m.stack mode.side).size < op.demand mode.keep mode.width
  | .jmp => (m.stack mode.side).size < mode.width.size
  | .jsr | .sth | .jci => m.wst.size < 1
  | .deo => m.wst.size < 2
  | .brk | .lit | .jmi | .jsi => False

/-- The operand behind the instruction is needed and lies past the end of the image. A conditional
jump needs it only if it is taken. -/
def Truncates (image : Image) (mode : Mode) (m : Machine) : Operation → Prop
  | .lit => image.size < m.pc + 1 + mode.width.size
  | .jmi | .jsi => image.size < m.pc + 3
  | .jci => (∃ top, m.wst.byteAt? 0 = some top ∧ top ≠ 0) ∧ image.size < m.pc + 3
  | .brk | .data _ | .jmp | .jsr | .sth | .deo => False

theorem ofOpcode?_eq_none_iff (opcode : UInt8) : ofOpcode? opcode = none ↔ opcode ∉ opcodes := by
  revert opcode
  exact forall_byte (by decide +kernel)

variable {image : Image} {mode : Mode} {m : Machine} {operation : Operation}

theorem run_execute_of_underflows (h : operation.Underflows mode m) :
    (operation.execute image mode).run m = .error .stackUnderflow m := by
  cases operation with
  | brk | lit | jmi | jsi => exact h.elim
  | data op =>
    obtain ⟨o, hr, hs⟩ := op.needs_apply mode.keep mode.width (.ofStack (m.stack mode.side)) h
    rw [run_execute_data, hr]
    simp [hs, Operands.ofStack]
  | jmp =>
    have hv : (m.stack mode.side).valueAt? 0 mode.width = none := by
      rw [Stack.valueAt?_eq_none_iff, Nat.zero_add]
      exact h
    rw [run_execute_jmp, hv]
  | jsr => rw [run_execute_jsr, m.wst.size_lt_one_iff.mp h]
  | jci => rw [run_execute_jci, m.wst.size_lt_one_iff.mp h]
  | sth => rw [run_execute_sth, m.wst.size_lt_one_iff.mp h]
  | deo =>
    rw [run_execute_deo]
    rcases hc : m.wst.cells with _ | ⟨a, _ | ⟨b, rest⟩⟩
    · rfl
    · rfl
    · simp only [Underflows, Stack.size, hc, List.length_cons] at h
      omega

theorem run_execute_of_truncates (h : operation.Truncates image mode m) :
    (operation.execute image mode).run m = .error .truncatedImmediate m := by
  cases operation with
  | brk | data | jmp | jsr | sth | deo => exact h.elim
  | lit => rw [run_execute_lit, (image.valueAt?_eq_none_iff _ _).mpr h]
  | jmi => rw [run_execute_jmi, (image.valueAt?_eq_none_iff _ _).mpr h]
  | jsi => rw [run_execute_jsi, (image.valueAt?_eq_none_iff _ _).mpr h]
  | jci =>
    obtain ⟨⟨top, ht, hz⟩, hsize⟩ := h
    obtain ⟨⟨cells⟩, rst, pc, bus⟩ := m
    cases cells with
    | nil => cases ht
    | cons t rest =>
      obtain rfl : t = top := by simpa [Stack.byteAt?] using ht
      rw [run_execute_jci]
      dsimp only
      rw [if_neg hz, (image.valueAt?_eq_none_iff _ _).mpr hsize]

theorem exists_performs (hu : ¬ operation.Underflows mode m)
    (ht : ¬ operation.Truncates image mode m) :
    ∃ effect m', operation.Performs image mode m effect m' := by
  cases operation with
  | brk => exact ⟨_, _, .brk⟩
  | lit =>
    obtain ⟨v, hv⟩ := Image.exists_valueAt? (Nat.le_of_not_lt ht)
    exact ⟨_, _, .lit v hv⟩
  | data op =>
    obtain ⟨s, hs⟩ := DataOp.exists_rewrites (Nat.le_of_not_lt hu)
    exact ⟨_, _, .data op s hs⟩
  | jmp =>
    obtain ⟨s, v, hw, hs⟩ := Stack.exists_push (Nat.le_of_not_lt hu)
    cases v with
    | byte offset => exact ⟨_, _, .jmpByte s offset hw.symm hs⟩
    | short position => exact ⟨_, _, .jmpShort s position hw.symm hs⟩
  | jsr =>
    obtain ⟨offset, rest, hc⟩ := Stack.exists_cells_of_one_le (Nat.le_of_not_lt hu)
    exact ⟨_, _, .jsr ⟨rest⟩ offset (congrArg Stack.mk hc)⟩
  | jmi =>
    obtain ⟨offset, hv⟩ := Image.exists_shortAt? (Nat.le_of_not_lt ht)
    exact ⟨_, _, .jmi offset hv⟩
  | jci =>
    obtain ⟨top, rest, hc⟩ := Stack.exists_cells_of_one_le (Nat.le_of_not_lt hu)
    have hs : m.wst = Stack.pushByte ⟨rest⟩ top := congrArg Stack.mk hc
    by_cases hz : top = 0
    · subst hz
      exact ⟨_, _, .jciSkip ⟨rest⟩ hs⟩
    · have htop : m.wst.byteAt? 0 = some top := by rw [hs]; rfl
      have hsize : m.pc + 1 + Width.short.size ≤ image.size :=
        Nat.le_of_not_lt fun hlt => ht ⟨⟨top, htop, hz⟩, hlt⟩
      obtain ⟨offset, hv⟩ := Image.exists_shortAt? hsize
      exact ⟨_, _, .jciTake ⟨rest⟩ top offset hs hz hv⟩
  | jsi =>
    obtain ⟨offset, hv⟩ := Image.exists_shortAt? (Nat.le_of_not_lt ht)
    exact ⟨_, _, .jsi offset hv⟩
  | sth =>
    obtain ⟨b, rest, hc⟩ := Stack.exists_cells_of_one_le (Nat.le_of_not_lt hu)
    exact ⟨_, _, .sth ⟨rest⟩ b (congrArg Stack.mk hc)⟩
  | deo =>
    obtain ⟨address, value, rest, hc⟩ := Stack.exists_cells_of_two_le (Nat.le_of_not_lt hu)
    have hs : m.wst = (Stack.pushByte ⟨rest⟩ value).pushByte address := congrArg Stack.mk hc
    cases hb : m.bus.deliver? ⟨address, value⟩ with
    | none => exact ⟨_, _, .deoDropped ⟨rest⟩ value address hs hb⟩
    | some bus => exact ⟨_, _, .deo ⟨rest⟩ value address bus hs hb⟩

theorem run_execute_eq_ok_iff {effect : Effect} {m' : Machine} :
    (operation.execute image mode).run m = .ok effect m' ↔
      operation.Performs image mode m effect m' := by
  constructor
  · intro h
    by_cases hu : operation.Underflows mode m
    · simp [run_execute_of_underflows hu] at h
    · by_cases ht : operation.Truncates image mode m
      · simp [run_execute_of_truncates ht] at h
      · obtain ⟨effect', m'', hp⟩ := exists_performs hu ht
        obtain ⟨rfl, rfl⟩ : effect' = effect ∧ m'' = m' := by
          simpa [hp.run_execute] using h
        exact hp
  · exact Performs.run_execute

/-- An operation faults under the two conditions only, and then it leaves the machine alone. -/
theorem run_execute_eq_error_iff {fault : Fault} {m' : Machine} :
    (operation.execute image mode).run m = .error fault m' ↔
      m' = m ∧ (fault = .stackUnderflow ∧ operation.Underflows mode m ∨
        fault = .truncatedImmediate ∧ operation.Truncates image mode m) := by
  constructor
  · intro h
    by_cases hu : operation.Underflows mode m
    · obtain ⟨rfl, rfl⟩ : .stackUnderflow = fault ∧ m = m' := by
        simpa [run_execute_of_underflows hu] using h
      exact ⟨rfl, .inl ⟨rfl, hu⟩⟩
    · by_cases ht : operation.Truncates image mode m
      · obtain ⟨rfl, rfl⟩ : .truncatedImmediate = fault ∧ m = m' := by
          simpa [run_execute_of_truncates ht] using h
        exact ⟨rfl, .inr ⟨rfl, ht⟩⟩
      · obtain ⟨effect, m'', hp⟩ := exists_performs hu ht
        simp [hp.run_execute] at h
  · rintro ⟨rfl, ⟨rfl, hu⟩ | ⟨rfl, ht⟩⟩
    · exact run_execute_of_underflows hu
    · exact run_execute_of_truncates ht

end Operation

namespace Machine
variable {image : Image} {m : Machine}

theorem step_of_performs {byte : UInt8} {operation : Operation} {effect : Effect} {m' : Machine}
    (h : image[m.pc]? = some byte)
    (ho : (Instruction.decode byte).operation? = some operation)
    (hp : operation.Performs image (Instruction.decode byte).mode m effect m') :
    m.step image =
      ⟨(m'.follow image effect.flow).1, (m'.follow image effect.flow).2,
        .executing m.pc byte (Instruction.decode byte) ::
          (effect.dropped.map Event.dropped).toList⟩ :=
  step_of_run_ok h ho hp.run_execute

theorem exists_performs_of_step {byte : UInt8} {operation : Operation}
    (h : image[m.pc]? = some byte)
    (ho : (Instruction.decode byte).operation? = some operation)
    (hok : ∀ fault, (m.step image).outcome ≠ .faulted fault) :
    ∃ effect m', operation.Performs image (Instruction.decode byte).mode m effect m' ∧
      (m.step image).machine = (m'.follow image effect.flow).2 := by
  cases hr : (operation.execute image (Instruction.decode byte).mode).run m with
  | ok effect m' =>
    refine ⟨effect, m', Operation.run_execute_eq_ok_iff.mp hr, ?_⟩
    rw [step_of_run_ok h ho hr]
  | error fault m' =>
    rw [step_of_run_error h ho hr] at hok
    exact absurd rfl (hok fault)

theorem machine_step_of_faulted {fault : Fault} (h : (m.step image).outcome = .faulted fault) :
    (m.step image).machine = m := by
  cases hb : image[m.pc]? with
  | none => rw [step_of_size_le m image (by simpa using hb)]
  | some byte =>
    cases ho : (Instruction.decode byte).operation? with
    | none => rw [step_of_operation?_eq_none hb ho]
    | some operation =>
      cases hr : (operation.execute image (Instruction.decode byte).mode).run m with
      | ok effect m' =>
        rw [step_of_run_ok hb ho hr] at h
        exact absurd h (follow_ne_faulted m' image effect.flow fault)
      | error fault' m' =>
        rw [step_of_run_error hb ho hr]
        exact (Operation.run_execute_eq_error_iff.mp hr).1

theorem outcome_step_eq_faulted_iff {byte : UInt8} {operation : Operation}
    (h : image[m.pc]? = some byte)
    (ho : (Instruction.decode byte).operation? = some operation) (fault : Fault) :
    (m.step image).outcome = .faulted fault ↔
      fault = .stackUnderflow ∧ operation.Underflows (Instruction.decode byte).mode m ∨
      fault = .truncatedImmediate ∧ operation.Truncates image (Instruction.decode byte).mode m := by
  cases hr : (operation.execute image (Instruction.decode byte).mode).run m with
  | ok effect m' =>
    have hn : (operation.execute image (Instruction.decode byte).mode).run m ≠ .error fault m := by
      simp [hr]
    rw [Ne, Operation.run_execute_eq_error_iff, and_iff_right rfl] at hn
    rw [step_of_run_ok h ho hr]
    exact iff_of_false (follow_ne_faulted m' image effect.flow fault) hn
  | error fault' m' =>
    obtain rfl := (Operation.run_execute_eq_error_iff.mp hr).1
    rw [step_of_run_error h ho hr, Outcome.faulted.injEq]
    have hf : (operation.execute image (Instruction.decode byte).mode).run m' = .error fault m' ↔
        fault' = fault := by simp [hr]
    rw [← hf, Operation.run_execute_eq_error_iff, and_iff_right rfl]

/-- Inside the image each fault has its exact condition, and a step that meets none of them
succeeds. Past the image a step does nothing. -/
theorem step_fault_conditions (image : Image) (m : Machine) :
    (∀ byte, image[m.pc]? = some byte →
      (∀ b, (m.step image).outcome = .faulted (.unknownOpcode b) ↔
        b = byte ∧ (Instruction.decode byte).opcode ∉ Operation.opcodes) ∧
      ((m.step image).outcome = .faulted .stackUnderflow ↔
        ∃ operation, (Instruction.decode byte).operation? = some operation ∧
          operation.Underflows (Instruction.decode byte).mode m) ∧
      ((m.step image).outcome = .faulted .truncatedImmediate ↔
        ∃ operation, (Instruction.decode byte).operation? = some operation ∧
          operation.Truncates image (Instruction.decode byte).mode m) ∧
      ((m.step image).outcome = .running ∨ (m.step image).outcome = .stopped ↔
        ∃ operation, (Instruction.decode byte).operation? = some operation ∧
          ¬ operation.Underflows (Instruction.decode byte).mode m ∧
          ¬ operation.Truncates image (Instruction.decode byte).mode m)) ∧
    (image.size ≤ m.pc → m.step image = ⟨.stopped, m, []⟩) := by
  refine ⟨fun byte hb => ?_, step_of_size_le m image⟩
  have hopcode := Operation.ofOpcode?_eq_none_iff (Instruction.decode byte).opcode
  cases ho : (Instruction.decode byte).operation? with
  | none =>
    have hnot : (Instruction.decode byte).opcode ∉ Operation.opcodes := hopcode.mp ho
    rw [step_of_operation?_eq_none hb ho]
    simp [hnot, eq_comm]
  | some operation =>
    have hin : (Instruction.decode byte).opcode ∈ Operation.opcodes := by
      apply Decidable.not_not.mp
      rw [← hopcode]
      exact fun hn => by cases hn.symm.trans ho
    have hfault := outcome_step_eq_faulted_iff hb ho
    have hok : (m.step image).outcome = .running ∨ (m.step image).outcome = .stopped ↔
        ∀ fault, (m.step image).outcome ≠ .faulted fault := by
      cases (m.step image).outcome <;> simp
    simp [hok, hfault, hin, forall_and]

/-- An empty stack is noticed before a missing offset. -/
theorem step_fault_conditions_jci :
    (#[0x20] : Image)[({} : Machine).pc]? = some 0x20 ∧
      (Machine.step {} #[0x20]).outcome = .faulted .stackUnderflow :=
  ⟨rfl, ((step_fault_conditions #[0x20] {}).1 0x20 rfl).2.1.mpr
    ⟨.jci, rfl, by simp [Operation.Underflows, Stack.size]⟩⟩

end Machine

end TwinStack
