import TwinStack.Proofs.Writes

/-! End states are stable. After a step that stops or faults, further steps have the same outcome
and change nothing, so a run that has ended and is started again ends at once, as it did before. -/
namespace TwinStack

theorem Instruction.operation?_eq_brk_iff (byte : UInt8) :
    (decode byte).operation? = some .brk ↔ byte = 0x00 := by
  revert byte
  exact forall_byte (by decide +kernel)

theorem Operation.Performs.flow_eq_halt_iff {image : Image} {mode : Mode} {m m' : Machine}
    {operation : Operation} {effect : Effect} (h : operation.Performs image mode m effect m') :
    effect.flow = .halt ↔ operation = .brk := by
  cases h <;> simp

namespace Machine
variable {image : Image} {m : Machine}

/-- What does not fault stops on a break or at the end of the image, and runs on otherwise. -/
theorem Executes.outcome_eq {operation : Operation} {mode : Mode}
    (h : m.Executes image operation mode) :
    (m.step image).outcome =
      if operation = .brk ∨ image.size ≤ (m.step image).machine.pc then .stopped else .running := by
  obtain ⟨effect, m', hp, hout, hm⟩ := h.exists_performs
  have hhalt := hp.flow_eq_halt_iff
  rw [hout, hm]
  cases hflow : effect.flow with
  | halt =>
    rw [if_pos (.inl (hhalt.mp hflow))]
    rfl
  | goto position =>
    have hbrk : operation ≠ .brk := by
      intro hop
      rw [hhalt.mpr hop] at hflow
      cases hflow
    show (if position < image.size then Outcome.running else .stopped) =
      if operation = .brk ∨ image.size ≤ position then .stopped else .running
    by_cases hlt : position < image.size
    · have hon : ¬ (operation = .brk ∨ image.size ≤ position) :=
        fun hor => hor.elim hbrk (Nat.not_le.mpr hlt)
      rw [if_pos hlt, if_neg hon]
    · rw [if_neg hlt, if_pos (.inr (Nat.le_of_not_lt hlt))]

theorem outcome_step_eq_running_iff :
    (m.step image).outcome = .running ↔
      (∃ operation mode, m.Executes image operation mode ∧ operation ≠ .brk) ∧
        (m.step image).machine.pc < image.size := by
  constructor
  · intro hr
    refine ⟨?_, (pc_lt_size_of_running hr).2⟩
    obtain ⟨-, hs⟩ | ⟨fault, hf, -⟩ | ⟨byte, operation, effect, m', hb, ho, hp, hout, -⟩ :=
      step_cases m image
    · rw [hs] at hr
      cases hr
    · cases hf.symm.trans hr
    · refine ⟨operation, _, ⟨byte, effect, m', hb, ho, rfl, hp.run_execute⟩, fun hbrk => ?_⟩
      rw [hr, hp.flow_eq_halt_iff.mpr hbrk] at hout
      cases hout
  · rintro ⟨⟨operation, mode, h, hbrk⟩, hlt⟩
    have hon : ¬ (operation = .brk ∨ image.size ≤ (m.step image).machine.pc) :=
      fun hor => hor.elim hbrk (Nat.not_le.mpr hlt)
    rw [h.outcome_eq, if_neg hon]

theorem pc_of_stopped (h : (m.step image).outcome = .stopped) :
    image[m.pc]? = some 0x00 ∧ (m.step image).machine = m ∨
      image.size ≤ (m.step image).machine.pc := by
  obtain ⟨hsize, hs⟩ | ⟨fault, hf, -⟩ | ⟨byte, operation, effect, m', hb, ho, hp, hout, hm⟩ :=
    step_cases m image
  · rw [hs]
    exact .inr hsize
  · cases hf.symm.trans h
  · cases hflow : effect.flow with
    | halt =>
      rw [hp.flow_eq_halt_iff.mp hflow, Instruction.operation?_eq_brk_iff] at ho
      rw [hflow, hp.eq_of_halt hflow] at hm
      exact .inl ⟨ho ▸ hb, hm⟩
    | goto position =>
      rw [hflow] at hout hm
      have hpc : (m.step image).machine.pc = position := by
        rw [hm]
        rfl
      rw [hpc]
      refine .inr (Nat.le_of_not_lt fun hlt => ?_)
      rw [h, follow, if_pos hlt] at hout
      cases hout

/-- A step after one that is not running is the same and changes nothing. -/
theorem step_step (h : (m.step image).outcome ≠ .running) :
    ((m.step image).machine.step image).outcome = (m.step image).outcome ∧
      ((m.step image).machine.step image).machine = (m.step image).machine := by
  cases ho : (m.step image).outcome with
  | running => exact absurd ho h
  | stopped =>
    obtain ⟨-, hm⟩ | hsize := pc_of_stopped ho
    · rw [hm]
      exact ⟨ho, hm⟩
    · rw [step_of_size_le _ image hsize]
      exact ⟨rfl, rfl⟩
  | faulted fault =>
    have hm := machine_step_of_faulted ho
    rw [hm]
    exact ⟨ho, hm⟩

theorem stepped_eq_self (h : (m.step image).machine = m) (n : Nat) : m.stepped image n = m := by
  induction n with
  | zero => rfl
  | succ n ih =>
    rw [stepped, ih]
    exact h

theorem stepped_succ_eq (m : Machine) (image : Image) (n : Nat) :
    m.stepped image (n + 1) = (m.step image).machine.stepped image n := by
  rw [Nat.add_comm, stepped_add]
  rfl

/-- A step that leaves the machine in place is no device write, for that would move on. -/
theorem write?_eq_none_of_machine_step_eq (h : (m.step image).machine = m) :
    m.write? image = none := by
  cases hw : m.write? image with
  | none => rfl
  | some w =>
    obtain ⟨byte, s, hb, hd, hs⟩ := exists_push_of_write? hw
    have ho := (Instruction.operation?_eq_deo_iff byte).mpr hd
    obtain ⟨effect, m', hp, hm⟩ := exists_performs_of_step hb ho (step_deo hb hd hs).1
    have hpc : (m.step image).machine.pc = m.pc + 1 := by
      rw [hm]
      cases hp <;> rfl
    rw [h] at hpc
    omega

theorem writes_eq_nil_of_machine_step_eq (h : (m.step image).machine = m) (n : Nat) :
    m.writes image n = [] := by
  induction n with
  | zero => rfl
  | succ n ih =>
    rw [writes_succ, ih, stepped_eq_self h, write?_eq_none_of_machine_step_eq h]
    rfl

theorem run?_eq_some_iff_stepped {limit : Nat} {e : Ending} :
    m.run? image limit = some e ↔ ∃ n < limit,
      (∀ k < n, ((m.stepped image k).step image).outcome = .running) ∧
        ((m.stepped image n).step image).outcome.ending? (m.stepped image (n + 1)) = some e := by
  rw [run?_eq_some_iff]
  constructor
  · rintro ⟨n, hn, mₙ, ha, he⟩
    obtain ⟨hr, rfl⟩ := after?_eq_some_iff_stepped.mp ha
    exact ⟨n, hn, hr, he⟩
  · rintro ⟨n, hn, hr, he⟩
    exact ⟨n, hn, _, after?_eq_some_iff_stepped.mpr ⟨hr, rfl⟩, he⟩

theorem ne_running_of_ending? {outcome : Outcome} {m' : Machine} {e : Ending}
    (h : outcome.ending? m' = some e) : outcome ≠ .running := by
  rintro rfl
  cases h

theorem step_of_run? {limit : Nat} {e : Ending} (h : m.run? image limit = some e) :
    (e.machine.step image).machine = e.machine ∧
      (e.machine.step image).outcome.ending? e.machine = some e := by
  obtain ⟨n, -, -, he⟩ := run?_eq_some_iff_stepped.mp h
  have hmachine := machine_of_ending? he
  obtain ⟨ho, hm⟩ := step_step (ne_running_of_ending? he)
  rw [← stepped, ← hmachine] at ho hm
  rw [← hmachine, ← ho] at he
  exact ⟨hm, he⟩

/-- The run of a machine comes to an end, and to this one. -/
def EndsIn (m : Machine) (image : Image) (e : Ending) : Prop :=
  ∃ limit, m.run? image limit = some e

theorem endsIn_iff {e : Ending} :
    m.EndsIn image e ↔ ∃ n, (∀ k < n, ((m.stepped image k).step image).outcome = .running) ∧
      ((m.stepped image n).step image).outcome.ending? (m.stepped image (n + 1)) = some e := by
  unfold EndsIn
  constructor
  · rintro ⟨limit, h⟩
    obtain ⟨n, -, hn⟩ := run?_eq_some_iff_stepped.mp h
    exact ⟨n, hn⟩
  · rintro ⟨n, hn⟩
    exact ⟨n + 1, run?_eq_some_iff_stepped.mpr ⟨n, Nat.lt_succ_self n, hn⟩⟩

theorem endsIn_iff_of_ne_running (h : (m.step image).outcome ≠ .running) {e : Ending} :
    m.EndsIn image e ↔ (m.step image).outcome.ending? (m.step image).machine = some e := by
  rw [endsIn_iff]
  constructor
  · rintro ⟨n, hr, he⟩
    cases n with
    | zero => exact he
    | succ n => exact absurd (hr 0 (Nat.succ_pos n)) h
  · intro he
    exact ⟨0, nofun, he⟩

theorem endsIn_step (m : Machine) (image : Image) (e : Ending) :
    (m.step image).machine.EndsIn image e ↔ m.EndsIn image e := by
  by_cases hr : (m.step image).outcome = .running
  · rw [endsIn_iff, endsIn_iff]
    constructor
    · rintro ⟨n, hbefore, he⟩
      refine ⟨n + 1, fun k hk => ?_, ?_⟩
      · cases k with
        | zero => exact hr
        | succ k =>
          rw [stepped_succ_eq]
          exact hbefore k (Nat.lt_of_succ_lt_succ hk)
      · rw [stepped_succ_eq m image (n + 1), stepped_succ_eq m image n]
        exact he
    · rintro ⟨n, hbefore, he⟩
      cases n with
      | zero => exact absurd hr (ne_running_of_ending? he)
      | succ n =>
        rw [stepped_succ_eq m image (n + 1), stepped_succ_eq m image n] at he
        refine ⟨n, fun k hk => ?_, he⟩
        rw [← stepped_succ_eq]
        exact hbefore (k + 1) (Nat.succ_lt_succ hk)
  · obtain ⟨ho, hm⟩ := step_step hr
    rw [endsIn_iff_of_ne_running hr, endsIn_iff_of_ne_running (by rwa [ho]), ho, hm]

theorem endsIn_stepped (m : Machine) (image : Image) (n : Nat) (e : Ending) :
    (m.stepped image n).EndsIn image e ↔ m.EndsIn image e := by
  induction n with
  | zero => exact Iff.rfl
  | succ n ih => rw [stepped, endsIn_step, ih]

/-- The end states of steps and of runs are stable: going on from them changes nothing and gives the
same result. Only an instruction that is no break, and that stays inside the image, keeps the
machine running. -/
theorem end_states_stable (image : Image) (m : Machine) :
    ((m.step image).outcome = .running ↔
      (∃ operation mode, m.Executes image operation mode ∧ operation ≠ .brk) ∧
        (m.step image).machine.pc < image.size) ∧
    ((m.step image).outcome ≠ .running → ∀ n,
      ((m.stepped image (n + 1)).step image).outcome = (m.step image).outcome ∧
        m.stepped image (n + 1) = (m.step image).machine) ∧
    (∀ limit e, m.run? image limit = some e → ∀ n,
      e.machine.run? image (n + 1) = some e ∧ e.machine.stepped image n = e.machine ∧
        e.machine.writes image n = []) ∧
    ∀ limit e, m.run? image limit = some e ↔ ∃ n < limit,
      (∀ k < n, ((m.stepped image k).step image).outcome = .running) ∧
        ((m.stepped image n).step image).outcome.ending? (m.stepped image (n + 1)) = some e := by
  refine ⟨outcome_step_eq_running_iff, fun hne n => ?_, fun limit e h n => ?_,
    fun limit e => run?_eq_some_iff_stepped⟩
  · obtain ⟨ho, hm⟩ := step_step hne
    rw [stepped_succ_eq, stepped_eq_self hm]
    exact ⟨ho, rfl⟩
  · obtain ⟨hm, he⟩ := step_of_run? h
    refine ⟨?_, stepped_eq_self hm n, writes_eq_nil_of_machine_step_eq hm n⟩
    refine run?_eq_some_iff.mpr ⟨0, Nat.succ_pos n, e.machine, rfl, ?_⟩
    rw [hm]
    exact he

/-- A write as the last instruction is made once, however often the program is run on. -/
theorem end_states_stable_deo :
    ∃ e, run? { wst := .ofBytes [0x42, 0x18], bus := ({} : Bus).place 1 (some {}) } #[0x17] 1 =
        some e ∧
      e.machine = { pc := 1, bus := ({} : Bus).place 1 (some (Device.record {} 8 0x42)) } ∧
      e.machine.run? #[0x17] 5 = some e ∧ e.machine.writes #[0x17] 5 = [] ∧
      (step (stepped { wst := .ofBytes [0x42] } #[0x17] 3) #[0x17]).outcome =
        .faulted .stackUnderflow := by
  obtain ⟨-, -, hrun, -⟩ := end_states_stable #[0x17]
    { wst := .ofBytes [0x42, 0x18], bus := ({} : Bus).place 1 (some {}) }
  obtain ⟨-, hsteps, -⟩ := end_states_stable #[0x17] { wst := .ofBytes [0x42] }
  have he : run? { wst := .ofBytes [0x42, 0x18], bus := ({} : Bus).place 1 (some {}) } #[0x17] 1 =
      some ⟨none, { pc := 1, bus := ({} : Bus).place 1 (some (Device.record {} 8 0x42)) }⟩ := by
    decide
  refine ⟨_, he, rfl, (hrun 1 _ he 4).1, (hrun 1 _ he 5).2.2, ?_⟩
  exact (hsteps (by decide) 2).1.trans (by decide)

end Machine

end TwinStack
