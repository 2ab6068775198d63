import TwinStack.Value

/-! Program images: the bytes that a machine executes in place. -/
namespace TwinStack

abbrev Image := Array UInt8

/-- The operand stored at a position, if all its bytes are inside the image. -/
def Image.valueAt? (image : Image) (position : Nat) : Width → Option Value
  | .byte => image[position]?.map .byte
  | .short => do
    let hi ← image[position]?
    let lo ← image[position + 1]?
    return .short (Short.join hi lo)

end TwinStack
