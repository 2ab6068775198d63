/-! Operands: bytes, and shorts stored as two bytes with the high one first. -/
namespace TwinStack

inductive Width where
  | byte
  | short
  deriving DecidableEq

/-- Number of bytes of an operand. -/
def Width.size : Width → Nat
  | .byte => 1
  | .short => 2

namespace Short

def high (s : UInt16) : UInt8 :=
  UInt8.ofNat (s.toNat / 256)

def low (s : UInt16) : UInt8 :=
  UInt8.ofNat (s.toNat % 256)

def join (high low : UInt8) : UInt16 :=
  UInt16.ofNat (high.toNat * 256 + low.toNat)

@[simp] theorem toNat_join (hi lo : UInt8) : (join hi lo).toNat = hi.toNat * 256 + lo.toNat := by
  have := hi.toNat_lt
  have := lo.toNat_lt
  simp [join]
  omega

@[simp] theorem high_join (hi lo : UInt8) : high (join hi lo) = hi := by
  have := hi.toNat_lt
  have := lo.toNat_lt
  apply UInt8.toNat_inj.1
  simp [high]
  omega

@[simp] theorem low_join (hi lo : UInt8) : low (join hi lo) = lo := by
  apply UInt8.toNat_inj.1
  simp [low]

@[simp] theorem join_high_low (s : UInt16) : join (high s) (low s) = s := by
  have := s.toNat_lt
  apply UInt16.toNat_inj.1
  simp [high, low]
  omega

end Short

inductive Value where
  | byte (b : UInt8)
  | short (s : UInt16)
  deriving DecidableEq

namespace Value

def width : Value → Width
  | .byte _ => .byte
  | .short _ => .short

/-- The bytes in the order in which they are pushed. -/
def bytes : Value → List UInt8
  | .byte b => [b]
  | .short s => [Short.high s, Short.low s]

def toUInt16 : Value → UInt16
  | .byte b => b.toUInt16
  | .short s => s

/-- Addition modulo the wider of the two widths. -/
def add : Value → Value → Value
  | .byte a, .byte b => .byte (a + b)
  | a, b => .short (a.toUInt16 + b.toUInt16)

instance : Add Value := ⟨add⟩

def describe : Value → String
  | .byte b => "Byte(" ++ toString b.toNat ++ ")"
  | .short s => "Short(" ++ toString s.toNat ++ ")"

@[simp] theorem length_bytes (v : Value) : v.bytes.length = v.width.size := by
  cases v <;> rfl

end Value

end TwinStack
