import TwinStack.Device
import TwinStack.Text.Record

/-! The bus: sixteen slots, each empty or holding a device. -/
namespace TwinStack

structure Bus where
  slots : Vector (Option Device) 16 := Vector.replicate 16 none
  deriving DecidableEq

namespace Bus

/-- The device in a slot. Slots past the last hold none. -/
def device? (b : Bus) (slot : Nat) : Option Device :=
  b.slots[slot]?.getD none

def place (b : Bus) (slot : Fin 16) (content : Option Device) : Bus :=
  ⟨b.slots.setIfInBounds slot content⟩

/-- A slot's old content and the bus with a new one; the slot has to exist. -/
def replace (b : Bus) (slot : Nat) (content : Option Device) : Except Trap (Option Device × Bus) :=
  if h : slot < 16 then
    .ok (b.slots[slot], b.place ⟨slot, h⟩ content)
  else
    .error (.indexOutOfBounds 16 slot)

def bind (b : Bus) (slot : Nat) (d : Device) : Except Trap (Option Device × Bus) :=
  b.replace slot (some d)

def unbind (b : Bus) (slot : Nat) : Except Trap (Option Device × Bus) :=
  b.replace slot none

def send (b : Bus) (slot : Nat) (port value : UInt8) : Except Trap (Option Bus) :=
  if h : slot < 16 then
    match b.slots[slot] with
    | some d => do return some (b.place ⟨slot, h⟩ (some (← d.output port value)))
    | none => .ok none
  else
    .ok none

def deliver? (b : Bus) (w : Write) : Option Bus :=
  let slot := Address.slot w.address
  b.slots[slot].map fun d => b.place slot (some (d.record (Address.port w.address) w.value))

/-- The occupied slots with their devices, in the order of the slots. -/
def devices (b : Bus) : List (Fin 16 × Device) :=
  (List.finRange 16).filterMap fun slot => (b.slots.get slot).map fun d => (slot, d)

def describe (b : Bus) : String :=
  Text.record "DeviceBus"
    [("bound", Text.bracketed (b.slots.toList.map fun content => Text.truth content.isSome))]

theorem device?_place (b : Bus) (slot : Fin 16) (content : Option Device) (i : Nat) :
    (b.place slot content).device? i = if i = slot then content else b.device? i := by
  by_cases h : i = slot
  · subst h
    simp [device?, place]
  · simp [device?, place, h, Ne.symm h]

end Bus

end TwinStack
