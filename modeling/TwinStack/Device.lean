import TwinStack.Fault

/-! Devices that record what is written to them, and the addresses that select them. -/
namespace TwinStack

structure Write where
  address : UInt8
  value : UInt8
  deriving DecidableEq

namespace Address

/-- The bus slot of a device address, its high half. -/
def slot (address : UInt8) : Fin 16 :=
  ⟨address.toNat / 16, by have := address.toNat_lt; omega⟩

/-- The port of a device address, its low half. -/
def port (address : UInt8) : Fin 16 :=
  ⟨address.toNat % 16, Nat.mod_lt _ (by decide)⟩

end Address

inductive Page where
  | console
  | screen
  deriving DecidableEq

namespace Page

def base : Page → UInt8
  | .console => 0x10
  | .screen => 0x20

def slot (page : Page) : Fin 16 :=
  Address.slot page.base

def describe : Page → String
  | .console => "Console"
  | .screen => "Screen"

end Page

/-- A device keeps, for each of its ports, the bytes written to it, newest first. -/
structure Device where
  ports : Vector (List UInt8) 16 := Vector.replicate 16 []
  deriving DecidableEq

namespace Device

/-- The bytes written to a port, newest first. There are none past the last port. -/
def log (d : Device) (port : Nat) : List UInt8 :=
  d.ports[port]?.getD []

def record (d : Device) (port : Fin 16) (value : UInt8) : Device :=
  ⟨d.ports.set port (value :: d.ports[port])⟩

/-- Writes to a port given as a byte, which has to name one. -/
def output (d : Device) (port value : UInt8) : Except Trap Device :=
  if h : port.toNat < 16 then
    .ok (d.record ⟨port.toNat, h⟩ value)
  else
    .error (.indexOutOfBounds 16 port.toNat)

def outputs (d : Device) (writes : List (UInt8 × UInt8)) : Except Trap Device :=
  writes.foldlM (fun d w => d.output w.1 w.2) d

theorem log_record (d : Device) (port : Fin 16) (value : UInt8) (q : Nat) :
    (d.record port value).log q = if q = port then value :: d.log q else d.log q := by
  by_cases h : q = port
  · subst h
    simp [log, record]
  · simp [log, record, h, Ne.symm h]

end Device

end TwinStack
