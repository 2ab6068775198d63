import TwinStack.DataOp

/-! Instruction bytes. A byte names an operation and three modes: which stack it works on, the width
of its operands, and whether they stay on the stack. -/
namespace TwinStack

inductive Side where
  | working
  | ret
  deriving DecidableEq

structure Mode where
  /-- Work on the return stack. -/
  ret : Bool := false
  /-- Operands are shorts. -/
  short : Bool := false
  /-- Operands stay on the stack. -/
  keep : Bool := false
  deriving DecidableEq

def Mode.side (mode : Mode) : Side :=
  if mode.ret then .ret else .working

def Mode.width (mode : Mode) : Width :=
  if mode.short then .short else .byte

inductive Operation where
  /-- Halt. -/
  | brk
  /-- Push the operand stored after the instruction. -/
  | lit
  | data (op : DataOp)
  /-- Jump to a short from the stack, or by a byte from there. -/
  | jmp
  /-- Jump by a byte from the working stack, leaving a return address; the mode is ignored. -/
  | jsr
  /-- Jump by the offset stored after the instruction. -/
  | jmi
  /-- Jump as `jmi` does if the top byte is not zero. -/
  | jci
  /-- Jump as `jmi` does, leaving a return address. -/
  | jsi
  /-- Move a byte to the return stack. -/
  | sth
  /-- Write to a device. -/
  | deo
  deriving DecidableEq

def Operation.ofOpcode? : UInt8 → Option Operation
  | 0x00 => some .brk
  | 0x01 => some (.data .inc)
  | 0x02 => some (.data .pop)
  | 0x03 => some (.data .nip)
  | 0x04 => some (.data .swp)
  | 0x05 => some (.data .rot)
  | 0x06 => some (.data .dup)
  | 0x07 => some (.data .ovr)
  | 0x08 => some (.data .equ)
  | 0x0c => some .jmp
  | 0x0e => some .jsr
  | 0x0f => some .sth
  | 0x17 => some .deo
  | 0x18 => some (.data .add)
  | 0x20 => some .jci
  | 0x40 => some .jmi
  | 0x60 => some .jsi
  | 0x80 => some .lit
  | _ => none

structure Instruction where
  /-- The instruction byte without its mode bits. -/
  opcode : UInt8
  mode : Mode
  deriving DecidableEq

namespace Instruction

/-- Three bytes have no modes. A byte whose only other bit is the keep bit is a literal, and the
literals share one opcode; all other opcodes are the low five bits. -/
def decode (byte : UInt8) : Instruction :=
  if byte = 0x20 ∨ byte = 0x40 ∨ byte = 0x60 then
    { opcode := byte, mode := {} }
  else
    { opcode := if byte &&& 0x9f = 0x80 then 0x80 else byte &&& 0x1f
      mode :=
        { ret := byte &&& 0x40 != 0
          short := byte &&& 0x20 != 0
          keep := byte &&& 0x80 != 0 } }

def operation? (i : Instruction) : Option Operation :=
  Operation.ofOpcode? i.opcode

def describe (i : Instruction) : String :=
  Text.record "Op"
    [("opcode", toString i.opcode.toNat), ("ret", Text.truth i.mode.ret),
      ("short", Text.truth i.mode.short), ("keep", Text.truth i.mode.keep)]

end Instruction

end TwinStack
