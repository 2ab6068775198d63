import TwinStack.Machine.Run
import TwinStack.Proofs.Faults

/-! Runs as sequences of running steps. A run that ends made some number of running steps and then
one step more, whose outcome decides how it ended. -/
namespace TwinStack.Machine

def next? (m : Machine) (image : Image) : Option Machine :=
  if (m.step image).outcome = .running then some (m.step image).machine else none

/-- The machine after `n` steps, if all of them are running. -/
def after? (m : Machine) (image : Image) : Nat → Option Machine
  | 0 => some m
  | n + 1 => (m.after? image n).bind (·.next? image)

variable {m m' : Machine} {image : Image}

theorem next?_eq_some_iff :
    m.next? image = some m' ↔
      (m.step image).outcome = .running ∧ (m.step image).machine = m' := by
  unfold next?
  split
  · next h => simp [h]
  · next h => simp [h]

theorem after?_succ_eq_some_iff {n : Nat} :
    m.after? image (n + 1) = some m' ↔ ∃ mₙ, m.after? image n = some mₙ ∧
      (mₙ.step image).outcome = .running ∧ (mₙ.step image).machine = m' := by
  simp only [after?, Option.bind_eq_some_iff, next?_eq_some_iff]

theorem advance_succ (m : Machine) (image : Image) (n : Nat) :
    m.advance image (n + 1) =
      if (m.advance image n).outcome = .running then (m.advance image n).next image
      else m.advance image n := by
  unfold advance
  rw [Progress.advance_add, Progress.advance, Progress.advance]

theorem after?_eq_some_iff {n : Nat} :
    m.after? image n = some m' ↔
      (m.advance image n).outcome = .running ∧ (m.advance image n).machine = m' := by
  induction n generalizing m' with
  | zero => simp [after?, advance, Progress.advance]
  | succ n ih =>
    rw [after?_succ_eq_some_iff, advance_succ]
    constructor
    · rintro ⟨mₙ, ha, ho, hm⟩
      obtain ⟨hr, rfl⟩ := ih.mp ha
      rw [if_pos hr]
      exact ⟨ho, hm⟩
    · rintro ⟨ho, hm⟩
      by_cases hr : (m.advance image n).outcome = .running
      · rw [if_pos hr] at ho hm
        exact ⟨_, ih.mpr ⟨hr, rfl⟩, ho, hm⟩
      · rw [if_neg hr] at ho
        exact absurd ho hr

theorem advance_of_after? {n : Nat} (h : m.after? image n = some m') :
    m.advance image n = ⟨n, .running, m'⟩ := by
  induction n generalizing m' with
  | zero =>
    obtain rfl : m = m' := Option.some.inj h
    rfl
  | succ n ih =>
    obtain ⟨mₙ, ha, ho, rfl⟩ := after?_succ_eq_some_iff.mp h
    rw [advance_succ, ih ha, if_pos rfl, Progress.next, ho]

/-- A run ends with the first step that is not running. -/
theorem run?_eq_some_iff {limit : Nat} {e : Ending} :
    m.run? image limit = some e ↔ ∃ n < limit, ∃ mₙ, m.after? image n = some mₙ ∧
      (mₙ.step image).outcome.ending? (mₙ.step image).machine = some e := by
  constructor
  · intro h
    induction limit with
    | zero => cases h
    | succ limit ih =>
      rw [run?, advance_succ] at h
      by_cases hr : (m.advance image limit).outcome = .running
      · rw [if_pos hr] at h
        exact ⟨limit, Nat.lt_succ_self limit, _, after?_eq_some_iff.mpr ⟨hr, rfl⟩, h⟩
      · rw [if_neg hr] at h
        obtain ⟨n, hn, hrest⟩ := ih h
        exact ⟨n, Nat.lt_succ_of_lt hn, hrest⟩
  · rintro ⟨n, hn, mₙ, ha, he⟩
    obtain ⟨hr, rfl⟩ := after?_eq_some_iff.mp ha
    have hsucc : m.run? image (n + 1) = some e := by
      rw [run?, advance_succ, if_pos hr]
      exact he
    exact run?_of_le hsucc hn

theorem ending?_eq_some_fault_iff {outcome : Outcome} {fault : Fault} {m₁ m₂ : Machine} :
    outcome.ending? m₁ = some ⟨some fault, m₂⟩ ↔ outcome = .faulted fault ∧ m₁ = m₂ := by
  cases outcome <;> simp [Outcome.ending?]

/-- A fault changes nothing: not the machine of the step, and not that of a run, which is left as
the running steps before the fault made it. -/
theorem fault_leaves_machine (image : Image) (m : Machine) :
    (∀ fault, (m.step image).outcome = .faulted fault → (m.step image).machine = m) ∧
    ∀ limit fault m', m.run? image limit = some ⟨some fault, m'⟩ →
      ∃ n < limit, m.after? image n = some m' ∧ (m'.step image).outcome = .faulted fault := by
  refine ⟨fun fault h => machine_step_of_faulted h, ?_⟩
  intro limit fault m' h
  obtain ⟨n, hn, mₙ, ha, he⟩ := run?_eq_some_iff.mp h
  obtain ⟨ho, hm⟩ := ending?_eq_some_fault_iff.mp he
  obtain rfl : mₙ = m' := (machine_step_of_faulted ho).symm.trans hm
  exact ⟨n, hn, ha, ho⟩

/-- Three bytes are one too few to swap two shorts. -/
theorem fault_leaves_machine_swp :
    Machine.run? {} #[0xa0, 0x01, 0x02, 0x80, 0x03, 0x24] 4 =
        some ⟨some .stackUnderflow, { wst := .ofBytes [1, 2, 3], pc := 5 }⟩ ∧
      (∃ n < 4, Machine.after? {} #[0xa0, 0x01, 0x02, 0x80, 0x03, 0x24] n =
          some { wst := .ofBytes [1, 2, 3], pc := 5 } ∧
        (step { wst := .ofBytes [1, 2, 3], pc := 5 }
          #[0xa0, 0x01, 0x02, 0x80, 0x03, 0x24]).outcome = .faulted .stackUnderflow) ∧
      (step { wst := .ofBytes [1, 2, 3], pc := 5 } #[0xa0, 0x01, 0x02, 0x80, 0x03, 0x24]).machine =
        { wst := .ofBytes [1, 2, 3], pc := 5 } := by
  have hrun : Machine.run? {} #[0xa0, 0x01, 0x02, 0x80, 0x03, 0x24] 4 =
      some ⟨some .stackUnderflow, { wst := .ofBytes [1, 2, 3], pc := 5 }⟩ := by decide
  obtain ⟨n, hn, ha, ho⟩ := (fault_leaves_machine _ _).2 4 _ _ hrun
  exact ⟨hrun, ⟨n, hn, ha, ho⟩, (fault_leaves_machine _ _).1 _ ho⟩

end TwinStack.Machine
