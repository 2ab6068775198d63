/-! Sets of characters given by ranges of code points. -/
namespace TwinStack.Text

/-- Ranges of code points, first and last included, in ascending order. -/
abbrev Ranges := Array (Nat × Nat)

def Ranges.contains (ranges : Ranges) (c : Char) : Bool :=
  ranges.any fun range => range.1 ≤ c.toNat && c.toNat ≤ range.2

end TwinStack.Text
