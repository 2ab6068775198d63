import TwinStack.Text.Hex

/-! What can go wrong. A fault is the program's: the machine stops on the instruction at hand.
A trap is the caller's: an argument breaks a bound that no program can break. -/
namespace TwinStack

inductive Fault where
  /-- The byte, mode bits included, names no operation. -/
  | unknownOpcode (byte : UInt8)
  | stackUnderflow
  | truncatedImmediate
  deriving DecidableEq

def Fault.message : Fault → String
  | .unknownOpcode byte => "unknown opcode " ++ Hex.byte byte
  | .stackUnderflow => "stack underflow"
  | .truncatedImmediate => "immediate operand runs past the end of the program"

inductive Trap where
  | indexOutOfBounds (size index : Nat)
  | addOverflow
  | mulOverflow
  /-- Positions `start` up to `stop` were asked of a row of `size` places. -/
  | rangeOutOfBounds (size start stop : Nat)
  /-- A row would be longer than any can be. -/
  | capacityOverflow
  deriving DecidableEq

def Trap.message : Trap → String
  | .indexOutOfBounds size index =>
    "index out of bounds: the len is " ++ toString size ++ " but the index is " ++ toString index
  | .addOverflow => "attempt to add with overflow"
  | .mulOverflow => "attempt to multiply with overflow"
  | .rangeOutOfBounds size start stop =>
    if stop < start then
      "slice index starts at " ++ toString start ++ " but ends at " ++ toString stop
    else
      "range end index " ++ toString stop ++ " out of range for slice of length " ++ toString size
  | .capacityOverflow => "capacity overflow"

inductive Failure where
  | fault (fault : Fault)
  | trap (trap : Trap)
  deriving DecidableEq

/-- The sum of two 64-bit words, refused if it wraps. -/
def checkedAdd (a b : UInt64) : Except Trap UInt64 :=
  if a.toNat + b.toNat < UInt64.size then .ok (a + b) else .error .addOverflow

theorem checkedAdd_eq_error_iff (a b : UInt64) :
    checkedAdd a b = .error .addOverflow ↔ UInt64.size ≤ a.toNat + b.toNat := by
  unfold checkedAdd
  split
  · simpa
  · simpa using Nat.le_of_not_lt ‹_›

end TwinStack
