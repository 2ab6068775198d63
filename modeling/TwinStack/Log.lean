import TwinStack.Device
import TwinStack.Instruction

/-! The record of a run: what is noted, at which level, and in which words. -/
namespace TwinStack

inductive Level where
  | trace
  | debug
  | warn
  deriving DecidableEq

def Level.name : Level → String
  | .trace => "TRACE"
  | .debug => "DEBUG"
  | .warn => "WARN"

inductive Event where
  | started (size pc : Nat)
  /-- An instruction is about to be executed. -/
  | executing (pc : Nat) (byte : UInt8) (instruction : Instruction)
  /-- A device write found its slot empty. -/
  | dropped (write : Write)
  | faulted (fault : Fault) (pc : Nat)
  | stopped (pc : Nat)
  deriving DecidableEq

namespace Event

def level : Event → Level
  | .started .. => .debug
  | .executing .. => .trace
  | .dropped _ => .trace
  | .faulted .. => .warn
  | .stopped _ => .debug

/-- The part of the machine that notes the event. -/
def source : Event → String
  | .dropped _ => "finch_uxn::op"
  | _ => "finch_uxn"

def message : Event → String
  | .started size pc => "running " ++ toString size ++ " byte program from " ++ Hex.position pc
  | .executing pc byte instruction =>
    Hex.position pc ++ ": " ++ String.ofList (Hex.pair byte) ++ " " ++ instruction.describe
  | .dropped write =>
    "dropping write of " ++ Hex.byte write.value ++ " to unbound device " ++ Hex.byte write.address
  | .faulted fault pc => fault.message ++ " at " ++ Hex.position pc
  | .stopped pc => "stopped at " ++ Hex.position pc

end Event

end TwinStack
