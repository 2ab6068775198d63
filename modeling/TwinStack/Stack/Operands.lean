import TwinStack.Stack

/-! Operands of one instruction. Pops only count bytes and a push removes what was counted first, so
an instruction that takes all its operands before it pushes leaves the stack alone when it fails. -/
namespace TwinStack

/-- A stack of which the top `taken` bytes are popped but not yet removed. -/
structure Operands where
  stack : Stack
  taken : Nat
  deriving DecidableEq

namespace Operands

/-- Nothing is taken yet. -/
def ofStack (s : Stack) : Operands :=
  ⟨s, 0⟩

/-- The stack as the instruction sees it. -/
def rest (o : Operands) : Stack :=
  o.stack.drop o.taken

/-- Removes the bytes taken so far. -/
def commit (o : Operands) : Operands :=
  ofStack o.rest

def popByte : EStateM Fault Operands UInt8 := do
  let o ← get
  match o.stack.byteAt? o.taken with
  | some b =>
    set { o with taken := o.taken + 1 }
    return b
  | none => throw .stackUnderflow

def pop (w : Width) : EStateM Fault Operands Value := do
  let o ← get
  match o.stack.valueAt? o.taken w with
  | some v =>
    set { o with taken := o.taken + w.size }
    return v
  | none => throw .stackUnderflow

/-- A copy of the lowest `width` of the top `width * depth` bytes. -/
def span (width depth : Nat) : EStateM Fault Operands (List UInt8) := do
  match (← get).rest.span? width depth with
  | some bytes => return bytes
  | none => throw .stackUnderflow

def pushByte (b : UInt8) : EStateM Fault Operands Unit :=
  modify fun o => ofStack (o.rest.pushByte b)

def pushBytes (bytes : List UInt8) : EStateM Fault Operands Unit :=
  modify fun o => ofStack (o.rest.pushBytes bytes)

def pushShort (v : UInt16) : EStateM Fault Operands Unit :=
  modify fun o => ofStack (o.rest.pushShort v)

def push (v : Value) : EStateM Fault Operands Unit :=
  modify fun o => ofStack (o.rest.push v)

theorem run_popByte (o : Operands) :
    popByte.run o = match o.stack.byteAt? o.taken with
      | some b => .ok b { o with taken := o.taken + 1 }
      | none => .error .stackUnderflow o := by
  change EStateM.run (match o.stack.byteAt? o.taken with
    | some b => _
    | none => _) o = _
  cases o.stack.byteAt? o.taken <;> rfl

theorem run_pop (w : Width) (o : Operands) :
    (pop w).run o = match o.stack.valueAt? o.taken w with
      | some v => .ok v { o with taken := o.taken + w.size }
      | none => .error .stackUnderflow o := by
  change EStateM.run (match o.stack.valueAt? o.taken w with
    | some v => _
    | none => _) o = _
  cases o.stack.valueAt? o.taken w <;> rfl

@[simp] theorem rest_ofStack (s : Stack) : (ofStack s).rest = s := rfl

end Operands

end TwinStack
