import TwinStack.Log
import TwinStack.Machine.Execute

/-! One step of the machine. -/
namespace TwinStack

inductive Outcome where
  /-- The program counter is inside the image. -/
  | running
  /-- The machine halted, or the program counter left the image. -/
  | stopped
  | faulted (fault : Fault)
  deriving DecidableEq

structure Step where
  outcome : Outcome
  machine : Machine
  events : List Event
  deriving DecidableEq

namespace Machine

def follow (m : Machine) (image : Image) : Flow → Outcome × Machine
  | .halt => (.stopped, m)
  | .goto position =>
    (if position < image.size then .running else .stopped, { m with pc := position })

/-- Executes the instruction at the program counter. Past the image there is none, and the machine
stays as it is. -/
def step (m : Machine) (image : Image) : Step :=
  match image[m.pc]? with
  | none => ⟨.stopped, m, []⟩
  | some byte =>
    let instruction := Instruction.decode byte
    match instruction.operation? with
    | none => ⟨.faulted (.unknownOpcode byte), m, []⟩
    | some operation =>
      let executing := Event.executing m.pc byte instruction
      match (operation.execute image instruction.mode).run m with
      | .error fault m' => ⟨.faulted fault, m', [executing]⟩
      | .ok effect m' =>
        let after := m'.follow image effect.flow
        ⟨after.1, after.2, executing :: (effect.dropped.map Event.dropped).toList⟩

theorem step_of_size_le (m : Machine) (image : Image) (h : image.size ≤ m.pc) :
    m.step image = ⟨.stopped, m, []⟩ := by
  simp [step, Array.getElem?_eq_none h]

end Machine

end TwinStack
