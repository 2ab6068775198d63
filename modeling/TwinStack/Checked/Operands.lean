import TwinStack.DataOp

/-! Operands in machine words. Here a stack is a row of bytes with indices from the bottom, and
numbers are 64-bit words: what would leave the words, the row or the memory traps. The operations
are those of `DataOp.apply`, worked out index by index. -/
namespace TwinStack

/-- Programs over a state that may fault or trap. -/
abbrev Checked (σ α : Type) := EStateM Failure σ α

namespace Checked
variable {σ : Type}

/-- The greatest length of a row of bytes is `2 ^ 63 - 1`. -/
def capacity : Nat :=
  0x7fffffffffffffff

def add (a b : Nat) : Checked σ Nat :=
  if a + b < UInt64.size then return a + b else throw (.trap .addOverflow)

def mul (a b : Nat) : Checked σ Nat :=
  if a * b < UInt64.size then return a * b else throw (.trap .mulOverflow)

def index (bytes : List UInt8) (position : Nat) : Checked σ UInt8 :=
  match bytes[position]? with
  | some b => return b
  | none => throw (.trap (.indexOutOfBounds bytes.length position))

/-- The byte `offset` places below the top, whose position is counted back from the length. -/
def peekByte (s : Stack) (offset : Nat) : Checked σ UInt8 := do
  let depth ← add offset 1
  if depth ≤ s.size then
    index s.bytes (s.size - depth)
  else
    throw (.fault .stackUnderflow)

/-- The low byte is looked for first. -/
def peekShort (s : Stack) (offset : Nat) : Checked σ UInt16 := do
  let lo ← peekByte s offset
  let hi ← peekByte s (← add offset 1)
  return Short.join hi lo

def peek (s : Stack) (offset : Nat) : Width → Checked σ Value
  | .byte => return .byte (← peekByte s offset)
  | .short => return .short (← peekShort s offset)

/-! Pops that only count, and the pushes that make them good. -/

def popByte : Checked Operands UInt8 := do
  let o ← get
  let b ← peekByte o.stack o.taken
  set { o with taken := ← add o.taken 1 }
  return b

def pop (w : Width) : Checked Operands Value := do
  let o ← get
  let v ← peek o.stack o.taken w
  set { o with taken := ← add o.taken v.width.size }
  return v

def commit : Checked Operands Unit :=
  modify Operands.commit

def append (bytes : List UInt8) : Checked Operands Unit := do
  let o ← get
  if o.stack.size + bytes.length ≤ capacity then
    set { o with stack := o.stack.pushBytes bytes }
  else
    throw (.trap .capacityOverflow)

def pushByte (b : UInt8) : Checked Operands Unit := do
  commit
  append [b]

def push (v : Value) : Checked Operands Unit := do
  commit
  append v.bytes

/-! Work on the row itself, for operations that copy bytes from where they lie. -/

/-- The positions, from the first up to the last exclusive, of the lowest `width` of the top
`width * depth` bytes. -/
def span? (width depth : Nat) : Checked Operands (Option (Nat × Nat)) := do
  let reach ← mul width depth
  let size := (← get).stack.size
  if reach ≤ size then
    return some (size - reach, ← add (size - reach) width)
  else
    return none

def span (width depth : Nat) : Checked Operands (Nat × Nat) := do
  match ← span? width depth with
  | some range => return range
  | none => throw (.fault .stackUnderflow)

/-- Appends a copy of the bytes at the positions of a range, which have to exist by now. -/
def copyWithin (range : Nat × Nat) : Checked Operands Unit := do
  let s := (← get).stack
  if range.1 ≤ range.2 ∧ range.2 ≤ s.size then
    append (s.bytes.extract range.1 range.2)
  else
    throw (.trap (.rangeOutOfBounds s.size range.1 range.2))

def incrementTop : Checked Operands Unit := do
  let o ← get
  match o.stack.cells with
  | top :: rest => set { o with stack := ⟨(top + 1) :: rest⟩ }
  | [] => throw (.fault .stackUnderflow)

def takeByte : Checked Operands UInt8 := do
  let o ← get
  match o.stack.cells with
  | top :: rest =>
    set { o with stack := ⟨rest⟩ }
    return top
  | [] => throw (.fault .stackUnderflow)

def restore (keep : Bool) (values : List Value) : Checked Operands Unit :=
  if keep then values.forM push else pure ()

/-- Copies the `2 * w` bytes that start `2 * w * w` bytes below the top, if the row has as many. -/
def copyLayer (w : Width) : Checked Operands Unit := do
  if let some layer ← span? (← mul 2 w.size) w.size then
    copyWithin layer

/-- The effect of a data operation. `inc`, `ovr` and a keeping `dup` copy bytes from where they lie;
the ranges of `ovr` and `dup` are used after the row has grown. -/
def apply (keep : Bool) (w : Width) : DataOp → Checked Operands Unit
  | .inc => do
    if keep then
      copyWithin (← span w.size 1)
    incrementTop
  | .pop => do
    let _ ← pop w
    commit
  | .nip => do
    let b ← pop w
    let a ← pop w
    restore keep [a, b]
    push b
  | .swp => do
    let b ← pop w
    let a ← pop w
    restore keep [a, b]
    push b
    push a
  | .rot => do
    let c ← pop w
    let b ← pop w
    let a ← pop w
    push b
    push c
    push a
  | .dup => do
    if keep then
      let top ← span w.size 1
      copyWithin top
      copyWithin top
    else
      let a ← pop w
      push a
      push a
  | .ovr => do
    let second ← span w.size 2
    if keep then
      copyLayer w
    copyWithin second
  | .equ => do
    let b ← pop w
    let a ← pop w
    pushByte (if a.toUInt16 = b.toUInt16 then 1 else 0)
  | .add => do
    let b ← pop w
    let a ← pop w
    restore keep [a, b]
    push (b + a)

end Checked

end TwinStack
