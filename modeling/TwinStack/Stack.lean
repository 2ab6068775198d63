import TwinStack.Fault
import TwinStack.Text.Record
import TwinStack.Value

/-! Unbounded byte stacks. `Stack.bytes` is the view in which the library speaks of them: bottom
first, so that pushing appends. -/
namespace TwinStack

/-- The bytes of a stack, top first. -/
structure Stack where
  cells : List UInt8 := []
  deriving DecidableEq

namespace Stack

/-- The bytes bottom first. -/
def bytes (s : Stack) : List UInt8 :=
  s.cells.reverse

def ofBytes (bytes : List UInt8) : Stack :=
  ⟨bytes.reverse⟩

def size (s : Stack) : Nat :=
  s.cells.length

def isEmpty (s : Stack) : Bool :=
  s.cells.isEmpty

def clear (_s : Stack) : Stack :=
  {}

def pushByte (s : Stack) (b : UInt8) : Stack :=
  ⟨b :: s.cells⟩

def pushBytes (s : Stack) (bytes : List UInt8) : Stack :=
  ⟨bytes.reverse ++ s.cells⟩

def pushShort (s : Stack) (v : UInt16) : Stack :=
  (s.pushByte (Short.high v)).pushByte (Short.low v)

/-- Pushes a value with its own width. -/
def push (s : Stack) : Value → Stack
  | .byte b => s.pushByte b
  | .short v => s.pushShort v

/-- The stack without its top `n` bytes. -/
def drop (s : Stack) (n : Nat) : Stack :=
  ⟨s.cells.drop n⟩

/-- The byte `offset` places below the top. -/
def byteAt? (s : Stack) (offset : Nat) : Option UInt8 :=
  s.cells[offset]?

/-- The short whose low byte lies `offset` places below the top. -/
def shortAt? (s : Stack) (offset : Nat) : Option UInt16 := do
  let lo ← s.byteAt? offset
  let hi ← s.byteAt? (offset + 1)
  return Short.join hi lo

def valueAt? (s : Stack) (offset : Nat) : Width → Option Value
  | .byte => (s.byteAt? offset).map .byte
  | .short => (s.shortAt? offset).map .short

/-- The lowest `width` of the top `width * depth` bytes, bottom first, if the stack has as many. -/
def span? (s : Stack) (width depth : Nat) : Option (List UInt8) :=
  if width * depth ≤ s.size then
    some ((s.cells.take (width * depth)).reverse.take width)
  else
    none

def popByte : EStateM Fault Stack UInt8 := do
  match (← get).cells with
  | b :: rest =>
    set (Stack.mk rest)
    return b
  | [] => throw .stackUnderflow

def popShort : EStateM Fault Stack UInt16 := do
  match (← get).cells with
  | lo :: hi :: rest =>
    set (Stack.mk rest)
    return Short.join hi lo
  | _ => throw .stackUnderflow

def pop : Width → EStateM Fault Stack Value
  | .byte => return .byte (← popByte)
  | .short => return .short (← popShort)

private def orUnderflow {α : Type} : Option α → Except Failure α
  | some a => .ok a
  | none => .error (.fault .stackUnderflow)

/-- The byte at a 64-bit offset. The depth counted from one has to fit into 64 bits too. -/
def peekByte (s : Stack) (offset : UInt64) : Except Failure UInt8 := do
  let depth ← (checkedAdd offset 1).mapError .trap
  orUnderflow (s.byteAt? (depth.toNat - 1))

/-- The short at a 64-bit offset; its low byte is looked for first. -/
def peekShort (s : Stack) (offset : UInt64) : Except Failure UInt16 := do
  let lo ← s.peekByte offset
  let next ← (checkedAdd offset 1).mapError .trap
  let hi ← s.peekByte next
  return Short.join hi lo

def describe (s : Stack) : String :=
  Text.record "Stack" [("data", Text.bracketed (s.bytes.map fun b => toString b.toNat))]

@[ext] theorem ext_bytes {s t : Stack} (h : s.bytes = t.bytes) : s = t := by
  cases s
  cases t
  simpa [bytes] using h

@[simp] theorem bytes_ofBytes (bs : List UInt8) : (ofBytes bs).bytes = bs := by
  simp [bytes, ofBytes]

@[simp] theorem ofBytes_bytes (s : Stack) : ofBytes s.bytes = s := by
  simp [bytes, ofBytes]

@[simp] theorem length_bytes (s : Stack) : s.bytes.length = s.size := by
  simp [bytes, size]

@[simp] theorem bytes_pushByte (s : Stack) (b : UInt8) : (s.pushByte b).bytes = s.bytes ++ [b] := by
  simp [bytes, pushByte]

@[simp] theorem bytes_pushBytes (s : Stack) (bs : List UInt8) :
    (s.pushBytes bs).bytes = s.bytes ++ bs := by
  simp [bytes, pushBytes]

@[simp] theorem bytes_pushShort (s : Stack) (v : UInt16) :
    (s.pushShort v).bytes = s.bytes ++ [Short.high v, Short.low v] := by
  simp [pushShort]

@[simp] theorem bytes_push (s : Stack) (v : Value) : (s.push v).bytes = s.bytes ++ v.bytes := by
  cases v <;> simp [push, Value.bytes]

@[simp] theorem run_popByte_pushByte (s : Stack) (b : UInt8) :
    popByte.run (s.pushByte b) = .ok b s := rfl

theorem run_pop_push (s : Stack) (v : Value) : (pop v.width).run (s.push v) = .ok v s := by
  cases v with
  | byte b => rfl
  | short v =>
    have h : (pop .short).run (s.pushShort v) =
        .ok (.short (Short.join (Short.high v) (Short.low v))) s := rfl
    simpa [Value.width, push] using h

end Stack

end TwinStack
