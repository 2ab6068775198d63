import TwinStack.Machine.Step

/-! What each operation does to a machine, as one equation an operation, and what a step makes of
it. Everything said about steps rests on these equations and not on the programs behind them. -/
namespace TwinStack

/-- What holds of the 256 bytes one by one holds of all of them. -/
theorem forall_byte {P : UInt8 → Prop} (h : ∀ n < 256, P (UInt8.ofNat n)) (b : UInt8) : P b := by
  have hb := h b.toNat b.toNat_lt
  rwa [UInt8.ofNat_toNat] at hb

namespace Exec

theorem run_immediate (image : Image) (w : Width) (m : Machine) :
    (immediate image w).run m = match image.valueAt? (m.pc + 1) w with
      | some v => .ok v m
      | none => .error .truncatedImmediate m := by
  change EStateM.run (match image.valueAt? (m.pc + 1) w with
    | some v => _
    | none => _) m = _
  cases image.valueAt? (m.pc + 1) w <;> rfl

theorem run_immediateTarget (image : Image) (m : Machine) :
    (immediateTarget image).run m = match image.valueAt? (m.pc + 1) .short with
      | some v => .ok (m.pc + v.toUInt16.toNat) m
      | none => .error .truncatedImmediate m := by
  rw [immediateTarget, EStateM.run_bind, run_immediate]
  cases image.valueAt? (m.pc + 1) .short <;> rfl

theorem run_onStack {α : Type} (side : Side) (act : EStateM Fault Operands α) (m : Machine) :
    (onStack side act).run m = match act.run (.ofStack (m.stack side)) with
      | .ok a o => .ok a (m.setStack side o.rest)
      | .error fault o => .error fault (m.setStack side o.stack) := by
  unfold onStack EStateM.run
  rfl

theorem run_onStack_pop (side : Side) (w : Width) (m : Machine) :
    (onStack side (Operands.pop w)).run m = match (m.stack side).valueAt? 0 w with
      | some v => .ok v (m.setStack side ((m.stack side).drop w.size))
      | none => .error .stackUnderflow m := by
  rw [run_onStack, Operands.run_pop, Operands.ofStack]
  cases (m.stack side).valueAt? 0 w with
  | none => simp
  | some v => simp [Operands.rest]

theorem run_condition (m : Machine) :
    condition.run m = match m.wst.cells with
      | top :: _ => .ok top m
      | [] => .error .stackUnderflow m := by
  obtain ⟨⟨cells⟩, rst, pc, bus⟩ := m
  cases cells <;> rfl

theorem run_deliver (w : Write) (m : Machine) :
    (deliver w).run m = match m.bus.deliver? w with
      | some bus => .ok none { m with bus }
      | none => .ok (some w) m := by
  change EStateM.run (match m.bus.deliver? w with
    | some bus => _
    | none => _) m = _
  cases m.bus.deliver? w <;> rfl

end Exec

open Exec

namespace Operation
variable (image : Image) (mode : Mode) (m : Machine)

theorem run_execute_brk : (execute image mode .brk).run m = .ok { flow := .halt } m := rfl

theorem run_execute_lit :
    (execute image mode .lit).run m = match image.valueAt? (m.pc + 1) mode.width with
      | some v => .ok { flow := .goto (m.pc + mode.width.size + 1) }
          (m.setStack mode.side ((m.stack mode.side).push v))
      | none => .error .truncatedImmediate m := by
  rw [execute, EStateM.run_bind, run_immediate]
  cases image.valueAt? (m.pc + 1) mode.width with
  | none => rfl
  | some v => cases hs : mode.side <;> rfl

theorem run_execute_data (op : DataOp) :
    (execute image mode (.data op)).run m =
      match (op.apply mode.keep mode.width).run (.ofStack (m.stack mode.side)) with
      | .ok _ o => .ok { flow := .goto (m.pc + 1) } (m.setStack mode.side o.rest)
      | .error fault o => .error fault (m.setStack mode.side o.stack) := by
  rw [execute, EStateM.run_bind, run_onStack]
  cases (op.apply mode.keep mode.width).run (.ofStack (m.stack mode.side)) with
  | ok u o => cases hs : mode.side <;> rfl
  | error fault o => rfl

theorem run_execute_jmp :
    (execute image mode .jmp).run m = match (m.stack mode.side).valueAt? 0 mode.width with
      | some (.byte offset) => .ok { flow := .goto (m.pc + offset.toNat + 1) }
          (m.setStack mode.side ((m.stack mode.side).drop mode.width.size))
      | some (.short position) => .ok { flow := .goto position.toNat }
          (m.setStack mode.side ((m.stack mode.side).drop mode.width.size))
      | none => .error .stackUnderflow m := by
  rw [execute, EStateM.run_bind, run_onStack_pop]
  cases (m.stack mode.side).valueAt? 0 mode.width with
  | none => rfl
  | some v =>
    cases v with
    | byte offset => cases hs : mode.side <;> rfl
    | short position => rfl

theorem run_execute_jsr :
    (execute image mode .jsr).run m = match m.wst.cells with
      | offset :: rest => .ok { flow := .goto (m.pc + offset.toNat + 1) }
          { m with wst := ⟨rest⟩, rst := m.rst.pushShort (UInt16.ofNat (m.pc + 1)) }
      | [] => .error .stackUnderflow m := by
  obtain ⟨⟨cells⟩, rst, pc, bus⟩ := m
  cases cells <;> rfl

theorem run_execute_jmi :
    (execute image mode .jmi).run m = match image.valueAt? (m.pc + 1) .short with
      | some v => .ok { flow := .goto (m.pc + v.toUInt16.toNat) } m
      | none => .error .truncatedImmediate m := by
  rw [execute, EStateM.run_bind, run_immediateTarget]
  cases image.valueAt? (m.pc + 1) .short <;> rfl

theorem run_execute_jci :
    (execute image mode .jci).run m = match m.wst.cells with
      | [] => .error .stackUnderflow m
      | top :: rest =>
        if top = 0 then
          .ok { flow := .goto (m.pc + 3) } { m with wst := ⟨rest⟩ }
        else
          match image.valueAt? (m.pc + 1) .short with
          | some v => .ok { flow := .goto (m.pc + v.toUInt16.toNat) } { m with wst := ⟨rest⟩ }
          | none => .error .truncatedImmediate m := by
  obtain ⟨⟨cells⟩, rst, pc, bus⟩ := m
  cases cells with
  | nil => rfl
  | cons top rest =>
    rw [execute, EStateM.run_bind, run_condition]
    dsimp only
    by_cases h : top = 0
    · subst h
      rfl
    · rw [if_neg h, if_neg h, EStateM.run_bind, run_immediateTarget]
      cases image.valueAt? (pc + 1) .short <;> rfl

theorem run_execute_jsi :
    (execute image mode .jsi).run m = match image.valueAt? (m.pc + 1) .short with
      | some v => .ok { flow := .goto (m.pc + v.toUInt16.toNat) }
          { m with rst := m.rst.pushShort (UInt16.ofNat (m.pc + 3)) }
      | none => .error .truncatedImmediate m := by
  rw [execute, EStateM.run_bind, run_immediateTarget]
  cases image.valueAt? (m.pc + 1) .short <;> rfl

theorem run_execute_sth :
    (execute image mode .sth).run m = match m.wst.cells with
      | b :: rest => .ok { flow := .goto (m.pc + 1) }
          { m with wst := ⟨rest⟩, rst := m.rst.pushByte b }
      | [] => .error .stackUnderflow m := by
  obtain ⟨⟨cells⟩, rst, pc, bus⟩ := m
  cases cells <;> rfl

theorem run_execute_deo :
    (execute image mode .deo).run m = match m.wst.cells with
      | address :: value :: rest =>
        match m.bus.deliver? ⟨address, value⟩ with
        | some bus => .ok { flow := .goto (m.pc + 1) } { m with wst := ⟨rest⟩, bus }
        | none => .ok { flow := .goto (m.pc + 1), dropped := some ⟨address, value⟩ }
            { m with wst := ⟨rest⟩ }
      | _ => .error .stackUnderflow m := by
  obtain ⟨⟨cells⟩, rst, pc, bus⟩ := m
  match cells with
  | [] => rfl
  | [_] => rfl
  | address :: value :: rest =>
    change (EStateM.run (deliver ⟨address, value⟩ >>= fun dropped => do
      return { ← next 0 with dropped }) (Machine.mk ⟨rest⟩ rst pc bus)) = _
    rw [EStateM.run_bind, run_deliver]
    dsimp only
    cases bus.deliver? ⟨address, value⟩ <;> rfl

end Operation

namespace Machine
variable {image : Image} {m : Machine} {byte : UInt8} {operation : Operation}

theorem step_of_operation?_eq_none (h : image[m.pc]? = some byte)
    (ho : (Instruction.decode byte).operation? = none) :
    m.step image = ⟨.faulted (.unknownOpcode byte), m, []⟩ := by
  simp only [step, h, ho]

theorem step_of_run_error (h : image[m.pc]? = some byte)
    (ho : (Instruction.decode byte).operation? = some operation) {fault : Fault} {m' : Machine}
    (hr : (operation.execute image (Instruction.decode byte).mode).run m = .error fault m') :
    m.step image =
      ⟨.faulted fault, m', [.executing m.pc byte (Instruction.decode byte)]⟩ := by
  simp only [step, h, ho, hr]

theorem step_of_run_ok (h : image[m.pc]? = some byte)
    (ho : (Instruction.decode byte).operation? = some operation) {effect : Effect} {m' : Machine}
    (hr : (operation.execute image (Instruction.decode byte).mode).run m = .ok effect m') :
    m.step image =
      ⟨(m'.follow image effect.flow).1, (m'.follow image effect.flow).2,
        .executing m.pc byte (Instruction.decode byte) ::
          (effect.dropped.map Event.dropped).toList⟩ := by
  simp only [step, h, ho, hr]

theorem follow_ne_faulted (m : Machine) (image : Image) (flow : Flow) (fault : Fault) :
    (m.follow image flow).1 ≠ .faulted fault := by
  cases flow with
  | halt => simp [follow]
  | goto position =>
    simp only [follow]
    split <;> simp

theorem follow_of_size_eq {image' : Image} (h : image'.size = image.size) (m : Machine)
    (flow : Flow) : m.follow image' flow = m.follow image flow := by
  cases flow with
  | halt => rfl
  | goto position => rw [follow, follow, h]

/-- In an image of the same size, another byte that executes in the same way makes the same step. -/
theorem step_of_execute_eq {image' : Image} {byte' : UInt8} (hb : image[m.pc]? = some byte)
    (ho : (Instruction.decode byte).operation? = some operation)
    (hb' : image'[m.pc]? = some byte')
    (ho' : (Instruction.decode byte').operation? = some operation)
    (hsize : image'.size = image.size)
    (h : operation.execute image' (Instruction.decode byte').mode =
      operation.execute image (Instruction.decode byte).mode) :
    (m.step image').outcome = (m.step image).outcome ∧
      (m.step image').machine = (m.step image).machine := by
  cases hr : (operation.execute image (Instruction.decode byte).mode).run m with
  | ok effect m' =>
    rw [step_of_run_ok hb ho hr, step_of_run_ok hb' ho' (h ▸ hr), follow_of_size_eq hsize]
    exact ⟨rfl, rfl⟩
  | error fault m' =>
    rw [step_of_run_error hb ho hr, step_of_run_error hb' ho' (h ▸ hr)]
    exact ⟨rfl, rfl⟩

end Machine

end TwinStack
