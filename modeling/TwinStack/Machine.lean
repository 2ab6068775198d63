import TwinStack.Bus
import TwinStack.Instruction
import TwinStack.Stack

/-! The machine: two stacks, a program counter and a bus. -/
namespace TwinStack

structure Machine where
  /-- The working stack. -/
  wst : Stack := {}
  /-- The return stack. -/
  rst : Stack := {}
  /-- The image position of the next instruction. -/
  pc : Nat := 0
  bus : Bus := {}
  deriving DecidableEq

namespace Machine

def stack (m : Machine) : Side → Stack
  | .working => m.wst
  | .ret => m.rst

def setStack (m : Machine) (side : Side) (s : Stack) : Machine :=
  match side with
  | .working => { m with wst := s }
  | .ret => { m with rst := s }

/-- Empties both stacks and goes back to the start of the image. The devices keep their logs. -/
def reset (m : Machine) : Machine :=
  { wst := m.wst.clear, rst := m.rst.clear, bus := m.bus }

def describe (m : Machine) : String :=
  Text.record "Uxn"
    [("stack", m.wst.describe), ("ret", m.rst.describe), ("pc", toString m.pc),
      ("bus", m.bus.describe)]

@[simp] theorem stack_setStack_self (m : Machine) (side : Side) (s : Stack) :
    (m.setStack side s).stack side = s := by
  cases side <;> rfl

@[simp] theorem setStack_stack (m : Machine) (side : Side) :
    m.setStack side (m.stack side) = m := by
  cases side <;> rfl

@[simp] theorem pc_setStack (m : Machine) (side : Side) (s : Stack) :
    (m.setStack side s).pc = m.pc := by
  cases side <;> rfl

@[simp] theorem bus_setStack (m : Machine) (side : Side) (s : Stack) :
    (m.setStack side s).bus = m.bus := by
  cases side <;> rfl

end Machine

end TwinStack
