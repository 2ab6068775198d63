import TwinStack.Checked.Operands
import TwinStack.Machine.Step

/-! One step of the machine in machine words. Beside operands, the program counter, the table of
operations, the image and the bus are looked up by words that have to fit. -/
namespace TwinStack

def Operation.table : Vector (Option Operation) 256 :=
  Vector.ofFn fun opcode => Operation.ofOpcode? (UInt8.ofNat opcode)

namespace Checked

def onStack {α : Type} (side : Side) (act : Checked Operands α) : Checked Machine α := fun m =>
  match act.run (.ofStack (m.stack side)) with
  | .ok a o => .ok a (m.setStack side o.stack)
  | .error failure o => .error failure (m.setStack side o.stack)

def next (skipped : Nat) : Checked Machine Effect := do
  return { flow := .goto (← add (← add (← get).pc skipped) 1) }

def jump (position : Nat) : Checked Machine Effect :=
  return { flow := .goto position }

def immediate (image : Image) (w : Width) : Checked Machine Value := do
  match image.valueAt? (← add (← get).pc 1) w with
  | some v => return v
  | none => throw (.fault .truncatedImmediate)

def immediateTarget (image : Image) : Checked Machine Nat := do
  let offset ← immediate image .short
  add (← get).pc offset.toUInt16.toNat

def pushReturn (position : Nat) : Checked Machine Unit :=
  onStack .ret (append (Value.short (UInt16.ofNat position)).bytes)

def popWrite : Checked Operands Write := do
  let address ← popByte
  let value ← popByte
  commit
  return ⟨address, value⟩

/-- Delivers a write, or reports it as dropped if its slot is empty. The slot has to exist, and so
has the port if there is a device; how long its log may get is left open. -/
def deliver (w : Write) : Checked Machine (Option Write) := do
  let slot := (w.address >>> 4).toNat
  if slot < 16 then
    match (← get).bus.send slot (w.address &&& 0x0f) w.value with
    | .ok (some bus) =>
      modify fun m => { m with bus }
      return none
    | .ok none => return some w
    | .error trap => throw (.trap trap)
  else
    throw (.trap (.indexOutOfBounds 16 slot))

def execute (image : Image) (mode : Mode) : Operation → Checked Machine Effect
  | .brk => return { flow := .halt }
  | .lit => do
    let v ← immediate image mode.width
    onStack mode.side (append v.bytes)
    next mode.width.size
  | .data op => do
    onStack mode.side (apply mode.keep mode.width op)
    next 0
  | .jmp => do
    let v ← onStack mode.side do
      let v ← pop mode.width
      commit
      return v
    match v with
    | .byte offset => next offset.toNat
    | .short position => jump position.toNat
  | .jsr => do
    let offset ← onStack .working takeByte
    pushReturn (← add (← get).pc 1)
    next offset.toNat
  | .jmi => do
    jump (← immediateTarget image)
  | .jci => do
    let effect ←
      if (← peekByte (← get).wst 0) = 0 then next 2 else jump (← immediateTarget image)
    let _ ← onStack .working takeByte
    return effect
  | .jsi => do
    let offset ← immediate image .short
    pushReturn (← add (← get).pc 3)
    jump (← add (← get).pc offset.toUInt16.toNat)
  | .sth => do
    let b ← onStack .working takeByte
    onStack .ret (append [b])
    next 0
  | .deo => do
    let dropped ← deliver (← onStack .working popWrite)
    return { ← next 0 with dropped }

end Checked

/-- Executes the instruction at the program counter in machine words. A fault is an outcome as in
`Machine.step`; a trap leaves no machine. -/
def Machine.checkedStep (m : Machine) (image : Image) : Except Trap (Outcome × Machine) :=
  match image[m.pc]? with
  | none => .ok (.stopped, m)
  | some byte =>
    let instruction := Instruction.decode byte
    match Operation.table[instruction.opcode.toNat]? with
    | none => .error (.indexOutOfBounds 256 instruction.opcode.toNat)
    | some none => .ok (.faulted (.unknownOpcode byte), m)
    | some (some operation) =>
      match (Checked.execute image instruction.mode operation).run m with
      | .ok effect m' => .ok (m'.follow image effect.flow)
      | .error (.fault fault) m' => .ok (.faulted fault, m')
      | .error (.trap trap) _ => .error trap

end TwinStack
