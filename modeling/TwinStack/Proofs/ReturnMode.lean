import TwinStack.Proofs.Faults

/-! The return bit. It selects the stack of an instruction and does nothing else, so flipping it has
the effect of exchanging the stacks. Three operations have their stacks fixed and take no notice of
any mode. -/
namespace TwinStack

namespace Operation

/-- Operations that work on the stack that their mode selects. -/
def SelectsStack : Operation → Prop
  | .lit | .data _ | .jmp => True
  | .brk | .jsr | .jmi | .jci | .jsi | .sth | .deo => False

/-- Operations whose byte has modes but whose stacks are fixed. -/
def FixesStacks : Operation → Prop
  | .jsr | .sth | .deo => True
  | .brk | .lit | .data _ | .jmp | .jmi | .jci | .jsi => False

instance : DecidablePred SelectsStack
  | .lit | .data _ | .jmp => .isTrue trivial
  | .brk | .jsr | .jmi | .jci | .jsi | .sth | .deo => .isFalse id

instance : DecidablePred FixesStacks
  | .jsr | .sth | .deo => .isTrue trivial
  | .brk | .lit | .data _ | .jmp | .jmi | .jci | .jsi => .isFalse id

end Operation

def Mode.mirrored (mode : Mode) : Mode :=
  { mode with ret := !mode.ret }

namespace Instruction

def mirrored (i : Instruction) : Instruction :=
  { i with mode := i.mode.mirrored }

theorem decode_xor_ret (byte : UInt8) :
    ∀ operation ∈ (decode byte).operation?, operation.SelectsStack →
      decode (byte ^^^ 0x40) = (decode byte).mirrored := by
  revert byte
  exact forall_byte (by decide +kernel)

theorem low_ne_zero_of_fixesStacks (byte : UInt8) :
    ∀ operation ∈ (decode byte).operation?, operation.FixesStacks → byte &&& 0x1f ≠ 0 := by
  revert byte
  exact forall_byte (by decide +kernel)

theorem opcode_decode_of_low_ne_zero (byte : UInt8) :
    byte &&& 0x1f ≠ 0 → (decode byte).opcode = byte &&& 0x1f := by
  revert byte
  exact forall_byte (by decide +kernel)

theorem operation?_decode_of_low_eq {byte byte' : UInt8} (h : byte' &&& 0x1f = byte &&& 0x1f)
    (hlow : byte &&& 0x1f ≠ 0) : (decode byte').operation? = (decode byte).operation? := by
  have hopcode := opcode_decode_of_low_ne_zero byte hlow
  have hopcode' := opcode_decode_of_low_ne_zero byte' (h ▸ hlow)
  rw [operation?, operation?, hopcode, hopcode', h]

end Instruction

namespace Machine

/-- The machine with its stacks exchanged. -/
def mirrored (m : Machine) : Machine :=
  { m with wst := m.rst, rst := m.wst }

theorem stack_mirrored (m : Machine) (mode : Mode) :
    m.mirrored.stack mode.mirrored.side = m.stack mode.side := by
  obtain ⟨ret, short, keep⟩ := mode
  cases ret <;> rfl

theorem setStack_mirrored (m : Machine) (mode : Mode) (s : Stack) :
    m.mirrored.setStack mode.mirrored.side s = (m.setStack mode.side s).mirrored := by
  obtain ⟨ret, short, keep⟩ := mode
  cases ret <;> rfl

theorem follow_mirrored {image image' : Image} (hsize : image'.size = image.size) (m : Machine)
    (flow : Flow) :
    m.mirrored.follow image' flow =
      ((m.follow image flow).1, (m.follow image flow).2.mirrored) := by
  cases flow with
  | halt => rfl
  | goto position =>
    rw [follow, hsize]
    rfl

end Machine

namespace Operation
variable {image image' : Image} {operation : Operation} {m : Machine}

/-- On the other stack of the exchanged machine an operation does what it does on its own. -/
theorem SelectsStack.run_execute_mirrored (h : operation.SelectsStack) (mode : Mode)
    (hv : ∀ w, image'.valueAt? (m.pc + 1) w = image.valueAt? (m.pc + 1) w) :
    (operation.execute image' mode.mirrored).run m.mirrored =
      match (operation.execute image mode).run m with
      | .ok effect m' => .ok effect m'.mirrored
      | .error fault m' => .error fault m'.mirrored := by
  have hpc : m.mirrored.pc = m.pc := rfl
  have hwidth : mode.mirrored.width = mode.width := rfl
  have hkeep : mode.mirrored.keep = mode.keep := rfl
  have hset := m.setStack_mirrored mode
  cases operation with
  | brk | jsr | jmi | jci | jsi | sth | deo => exact h.elim
  | lit =>
    rw [run_execute_lit, run_execute_lit, hpc, hwidth, hv, m.stack_mirrored mode]
    cases image.valueAt? (m.pc + 1) mode.width with
    | none => rfl
    | some v => simp only [hset]
  | data op =>
    rw [run_execute_data, run_execute_data, hpc, hwidth, hkeep, m.stack_mirrored mode]
    cases (op.apply mode.keep mode.width).run (.ofStack (m.stack mode.side)) <;> simp only [hset]
  | jmp =>
    rw [run_execute_jmp, run_execute_jmp, hpc, hwidth, m.stack_mirrored mode]
    cases (m.stack mode.side).valueAt? 0 mode.width with
    | none => rfl
    | some v => cases v <;> simp only [hset]

theorem FixesStacks.execute_eq (h : operation.FixesStacks) (image image' : Image)
    (mode mode' : Mode) : operation.execute image' mode' = operation.execute image mode := by
  cases operation with
  | jsr | sth | deo => rfl
  | brk | lit | data | jmp | jmi | jci | jsi => exact h.elim

end Operation

namespace Machine
variable {image : Image} {m : Machine} {byte : UInt8} {operation : Operation}

theorem step_mirrored (hb : image[m.pc]? = some byte)
    (ho : (Instruction.decode byte).operation? = some operation) (h : operation.SelectsStack) :
    (m.mirrored.step (image.setIfInBounds m.pc (byte ^^^ 0x40))).outcome = (m.step image).outcome ∧
      (m.mirrored.step (image.setIfInBounds m.pc (byte ^^^ 0x40))).machine =
        (m.step image).machine.mirrored := by
  have hlt := (Array.getElem?_eq_some_iff.mp hb).1
  have hb' : (image.setIfInBounds m.pc (byte ^^^ 0x40))[m.mirrored.pc]? = some (byte ^^^ 0x40) :=
    Array.getElem?_setIfInBounds_self_of_lt hlt
  have hsize : (image.setIfInBounds m.pc (byte ^^^ 0x40)).size = image.size :=
    Array.size_setIfInBounds
  have hdecode := Instruction.decode_xor_ret byte operation ho h
  have ho' : (Instruction.decode (byte ^^^ 0x40)).operation? = some operation := by
    rw [hdecode]
    exact ho
  have hmode : (Instruction.decode (byte ^^^ 0x40)).mode =
      (Instruction.decode byte).mode.mirrored := by
    rw [hdecode]
    rfl
  have hrun := h.run_execute_mirrored (Instruction.decode byte).mode
    (image.valueAt?_setIfInBounds m.pc (byte ^^^ 0x40))
  rw [← hmode] at hrun
  cases hr : (operation.execute image (Instruction.decode byte).mode).run m with
  | ok effect m' =>
    rw [hr] at hrun
    rw [step_of_run_ok hb ho hr, step_of_run_ok hb' ho' hrun, follow_mirrored hsize]
    exact ⟨rfl, rfl⟩
  | error fault m' =>
    rw [hr] at hrun
    rw [step_of_run_error hb ho hr, step_of_run_error hb' ho' hrun]
    exact ⟨rfl, rfl⟩

theorem step_of_fixesStacks (hb : image[m.pc]? = some byte)
    (ho : (Instruction.decode byte).operation? = some operation) (h : operation.FixesStacks)
    {byte' : UInt8} (hlow : byte' &&& 0x1f = byte &&& 0x1f) :
    (m.step (image.setIfInBounds m.pc byte')).outcome = (m.step image).outcome ∧
      (m.step (image.setIfInBounds m.pc byte')).machine = (m.step image).machine := by
  have hlt := (Array.getElem?_eq_some_iff.mp hb).1
  have hne := Instruction.low_ne_zero_of_fixesStacks byte operation ho h
  have ho' := (Instruction.operation?_decode_of_low_eq hlow hne).trans ho
  exact step_of_execute_eq hb ho (Array.getElem?_setIfInBounds_self_of_lt hlt) ho'
    Array.size_setIfInBounds (h.execute_eq image _ _ _)

/-- The return bit exchanges the roles of the stacks. With the bit of the current byte flipped, the
machine with its stacks exchanged makes the same step up to that exchange, faults included. Where
the stacks are fixed, no mode bit makes a difference. -/
theorem return_bit_exchanges_stacks (image : Image) (m : Machine) (byte : UInt8)
    (operation : Operation) (hb : image[m.pc]? = some byte)
    (ho : (Instruction.decode byte).operation? = some operation) :
    (operation.SelectsStack →
      (m.mirrored.step (image.setIfInBounds m.pc (byte ^^^ 0x40))).outcome =
          (m.step image).outcome ∧
        (m.mirrored.step (image.setIfInBounds m.pc (byte ^^^ 0x40))).machine =
          (m.step image).machine.mirrored) ∧
    (operation.FixesStacks → ∀ byte', byte' &&& 0x1f = byte &&& 0x1f →
      (m.step (image.setIfInBounds m.pc byte')).outcome = (m.step image).outcome ∧
        (m.step (image.setIfInBounds m.pc byte')).machine = (m.step image).machine) := by
  refine ⟨step_mirrored hb ho, ?_⟩
  intro h byte' hlow
  exact step_of_fixesStacks hb ho h hlow

/-- A jump to a position on the return stack and one to a position on the working stack; and a byte
that is moved to the return stack although all mode bits are set. -/
theorem return_bit_exchanges_stacks_jmp :
    (step { wst := .ofBytes [0x07], rst := .ofBytes [0x01, 0x00, 0x02] }
        #[0x6c, 0x00, 0x00]).machine =
        { wst := .ofBytes [0x07], rst := .ofBytes [0x01], pc := 2 } ∧
      (step { wst := .ofBytes [0x01, 0x00, 0x02], rst := .ofBytes [0x07] }
        #[0x2c, 0x00, 0x00]).machine =
        { wst := .ofBytes [0x01], rst := .ofBytes [0x07], pc := 2 } ∧
      (step { wst := .ofBytes [0x01, 0x02] } #[0xef]).machine =
        { wst := .ofBytes [0x01], rst := .ofBytes [0x02], pc := 1 } := by
  have hjmp : (step { wst := .ofBytes [0x07], rst := .ofBytes [0x01, 0x00, 0x02] }
      #[0x6c, 0x00, 0x00]).machine =
        { wst := .ofBytes [0x07], rst := .ofBytes [0x01], pc := 2 } := by decide
  have hsth : (step { wst := .ofBytes [0x01, 0x02] } #[0x0f]).machine =
      { wst := .ofBytes [0x01], rst := .ofBytes [0x02], pc := 1 } := by decide
  obtain ⟨hflipped, -⟩ := return_bit_exchanges_stacks #[0x6c, 0x00, 0x00]
    { wst := .ofBytes [0x07], rst := .ofBytes [0x01, 0x00, 0x02] } 0x6c .jmp rfl rfl
  obtain ⟨-, hfixed⟩ := return_bit_exchanges_stacks #[0x0f] { wst := .ofBytes [0x01, 0x02] }
    0x0f .sth rfl rfl
  refine ⟨hjmp, (hflipped trivial).2.trans ?_, (hfixed trivial 0xef (by decide)).2.trans hsth⟩
  rw [hjmp]
  rfl

end Machine

end TwinStack
