import TwinStack.Stack.Operands

/-! Operations that only rearrange or combine the bytes of one stack. -/
namespace TwinStack

inductive DataOp where
  | inc
  | pop
  | nip
  | swp
  | rot
  | dup
  | ovr
  | equ
  | add
  deriving DecidableEq

namespace DataOp

def restore (keep : Bool) (values : List Value) : EStateM Fault Operands Unit :=
  if keep then values.forM Operands.push else pure ()

/-- The effect of an operation on operands of width `w`.

- `inc` adds one to the top byte alone, whatever the width.
- `pop`, `rot` and `equ` have no keep form.
- `ovr` in keep mode first copies `2 * w` bytes from `2 * w * w` bytes below the top, if the stack
  has as many; the second operand is the one from before that copy. -/
def apply (keep : Bool) (w : Width) : DataOp → EStateM Fault Operands Unit
  | .inc => do
    if keep then
      Operands.pushBytes (← Operands.span w.size 1)
    let top ← Operands.popByte
    Operands.pushByte (top + 1)
  | .pop => do
    let _ ← Operands.pop w
  | .nip => do
    let b ← Operands.pop w
    let a ← Operands.pop w
    restore keep [a, b]
    Operands.push b
  | .swp => do
    let b ← Operands.pop w
    let a ← Operands.pop w
    restore keep [a, b]
    Operands.push b
    Operands.push a
  | .rot => do
    let c ← Operands.pop w
    let b ← Operands.pop w
    let a ← Operands.pop w
    Operands.push b
    Operands.push c
    Operands.push a
  | .dup => do
    let a ← Operands.pop w
    restore keep [a]
    Operands.push a
    Operands.push a
  | .ovr => do
    let second ← Operands.span w.size 2
    if keep then
      Operands.pushBytes (((← get).rest.span? (2 * w.size) w.size).getD [])
    Operands.pushBytes second
  | .equ => do
    let b ← Operands.pop w
    let a ← Operands.pop w
    Operands.pushByte (if a = b then 1 else 0)
  | .add => do
    let b ← Operands.pop w
    let a ← Operands.pop w
    restore keep [a, b]
    Operands.push (a + b)

end DataOp

end TwinStack
