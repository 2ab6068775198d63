import TwinStack.Image
import TwinStack.Machine

/-! The effect of one operation on the machine, and where it sends the program counter. -/
namespace TwinStack

/-- Programs over a machine that may fault. A fault leaves the machine as it is at that point. -/
abbrev Exec := EStateM Fault Machine

inductive Flow where
  | goto (position : Nat)
  | halt
  deriving DecidableEq

structure Effect where
  flow : Flow
  dropped : Option Write := none
  deriving DecidableEq

namespace Exec

/-- Takes operands from one stack and pushes results to it. The bytes taken are removed in the end,
or left in place by a fault. -/
def onStack {α : Type} (side : Side) (act : EStateM Fault Operands α) : Exec α := fun m =>
  match act.run (.ofStack (m.stack side)) with
  | .ok a o => .ok a (m.setStack side o.rest)
  | .error fault o => .error fault (m.setStack side o.stack)

def next (skipped : Nat) : Exec Effect := do
  return { flow := .goto ((← get).pc + skipped + 1) }

def jump (position : Nat) : Exec Effect :=
  return { flow := .goto position }

def immediate (image : Image) (w : Width) : Exec Value := do
  match image.valueAt? ((← get).pc + 1) w with
  | some v => return v
  | none => throw .truncatedImmediate

/-- The position that the offset stored behind the instruction leads to, measured from the
instruction itself. -/
def immediateTarget (image : Image) : Exec Nat := do
  let offset ← immediate image .short
  return (← get).pc + offset.toUInt16.toNat

/-- Leaves the position `distance` bytes further, modulo 65536, on the return stack. -/
def pushReturn (distance : Nat) : Exec Unit := do
  onStack .ret (Operands.pushShort (UInt16.ofNat ((← get).pc + distance)))

/-- The top byte of the working stack, left in place. -/
def condition : Exec UInt8 := do
  match (← get).wst.byteAt? 0 with
  | some b => return b
  | none => throw .stackUnderflow

def deliver (w : Write) : Exec (Option Write) := do
  match (← get).bus.deliver? w with
  | some bus =>
    modify fun m => { m with bus }
    return none
  | none => return some w

end Exec

open Exec

/-- The effect of an operation. `jsr`, `sth` and `deo` have no modes: they work on bytes, and take
them from the working stack. -/
def Operation.execute (image : Image) (mode : Mode) : Operation → Exec Effect
  | .brk => return { flow := .halt }
  | .lit => do
    let v ← immediate image mode.width
    onStack mode.side (Operands.push v)
    next mode.width.size
  | .data op => do
    onStack mode.side (op.apply mode.keep mode.width)
    next 0
  | .jmp => do
    match ← onStack mode.side (Operands.pop mode.width) with
    | .byte offset => next offset.toNat
    | .short position => jump position.toNat
  | .jsr => do
    let offset ← onStack .working Operands.popByte
    pushReturn 1
    next offset.toNat
  | .jmi => do
    jump (← immediateTarget image)
  | .jci => do
    let target ← if (← condition) = 0 then pure ((← get).pc + 3) else immediateTarget image
    let _ ← onStack .working Operands.popByte
    jump target
  | .jsi => do
    let target ← immediateTarget image
    pushReturn 3
    jump target
  | .sth => do
    let b ← onStack .working Operands.popByte
    onStack .ret (Operands.pushByte b)
    next 0
  | .deo => do
    let write ← onStack .working do
      let address ← Operands.popByte
      let value ← Operands.popByte
      return Write.mk address value
    let dropped ← deliver write
    return { ← next 0 with dropped }

end TwinStack
