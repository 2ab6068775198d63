/-! Lowercase hexadecimal text of bytes and image positions. -/
namespace TwinStack.Hex

/-- The two digits of a byte, high half first. -/
def pair (b : UInt8) : List Char :=
  [Nat.digitChar (b.toNat / 16), Nat.digitChar (b.toNat % 16)]

def byte (b : UInt8) : String :=
  "0x" ++ String.ofList (pair b)

/-- The digits of `n`, filled up with zeros on the left to at least `width` of them. -/
def padded (width n : Nat) : List Char :=
  let digits := Nat.toDigits 16 n
  List.replicate (width - digits.length) '0' ++ digits

/-- An image position as `0x` and at least four digits. -/
def position (n : Nat) : String :=
  "0x" ++ String.ofList (padded 4 n)

end TwinStack.Hex
