import TwinStack.Machine.Step

/-! Runs: steps repeated until one is not running. A run need not end, so it is given a number of
steps that it may make. -/
namespace TwinStack

structure Progress where
  made : Nat := 0
  outcome : Outcome := .running
  machine : Machine
  deriving DecidableEq

def Progress.next (p : Progress) (image : Image) : Progress :=
  let s := p.machine.step image
  ⟨p.made + 1, s.outcome, s.machine⟩

/-- At most `limit` steps more, and none after one that is not running. -/
def Progress.advance (p : Progress) (image : Image) : Nat → Progress
  | 0 => p
  | limit + 1 => if p.outcome = .running then (p.next image).advance image limit else p

theorem Progress.advance_of_ne_running {p : Progress} (h : p.outcome ≠ .running) (image : Image)
    (limit : Nat) : p.advance image limit = p := by
  cases limit with
  | zero => rfl
  | succ limit => rw [advance, if_neg h]

theorem Progress.advance_add (p : Progress) (image : Image) (a b : Nat) :
    p.advance image (a + b) = (p.advance image a).advance image b := by
  induction a generalizing p with
  | zero => rw [Nat.zero_add, advance]
  | succ a ih =>
    rw [Nat.add_right_comm]
    by_cases h : p.outcome = .running
    · rw [advance, if_pos h, ih, advance, if_pos h]
    · rw [advance_of_ne_running h, advance_of_ne_running h, advance_of_ne_running h]

structure Ending where
  fault? : Option Fault
  machine : Machine
  deriving DecidableEq

def Outcome.ending? (m : Machine) : Outcome → Option Ending
  | .running => none
  | .stopped => some ⟨none, m⟩
  | .faulted fault => some ⟨some fault, m⟩

namespace Machine

def advance (m : Machine) (image : Image) (limit : Nat) : Progress :=
  Progress.advance { machine := m } image limit

/-- The steps of a run in order, up to the first that is not running. -/
def trace (m : Machine) (image : Image) : Nat → List Step
  | 0 => []
  | limit + 1 =>
    let s := m.step image
    s :: if s.outcome = .running then s.machine.trace image limit else []

def run? (m : Machine) (image : Image) (limit : Nat) : Option Ending :=
  let p := m.advance image limit
  p.outcome.ending? p.machine

def closing (m : Machine) : Outcome → Option Event
  | .running => none
  | .stopped => some (.stopped m.pc)
  | .faulted fault => some (.faulted fault m.pc)

/-- What a run notes: its start, the notes of its steps, and its end. -/
def runEvents (m : Machine) (image : Image) (limit : Nat) : List Event :=
  let p := m.advance image limit
  .started image.size m.pc ::
    (m.trace image limit).flatMap Step.events ++ (p.machine.closing p.outcome).toList

theorem outcome_ne_running_of_run? {m : Machine} {image : Image} {limit : Nat} {e : Ending}
    (h : m.run? image limit = some e) : (m.advance image limit).outcome ≠ .running := by
  intro hr
  rw [run?, hr] at h
  cases h

theorem run?_of_le {m : Machine} {image : Image} {limit limit' : Nat} {e : Ending}
    (h : m.run? image limit = some e) (hle : limit ≤ limit') : m.run? image limit' = some e := by
  obtain ⟨extra, rfl⟩ := Nat.exists_eq_add_of_le hle
  have hr := outcome_ne_running_of_run? h
  have ha : m.advance image (limit + extra) = m.advance image limit := by
    unfold advance at hr ⊢
    rw [Progress.advance_add, Progress.advance_of_ne_running hr]
  rw [run?, ha]
  exact h

/-- A number of steps that no run makes in practice. -/
def patience : Nat :=
  0x4000000000000000

end Machine

end TwinStack
