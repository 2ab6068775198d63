import TwinStack.Proofs.Runs

/-! Steps in a row, whatever their outcomes. What a step can do is said once: it finds no
instruction, it faults, or it follows a rule. -/
namespace TwinStack

theorem Operation.Performs.eq_of_halt {image : Image} {mode : Mode} {m m' : Machine}
    {operation : Operation} {effect : Effect} (h : operation.Performs image mode m effect m')
    (hf : effect.flow = .halt) : m' = m := by
  cases h with
  | brk => rfl
  | _ => cases hf

namespace Machine

/-- The machine after `n` steps. Unlike a run, it steps on when it has stopped or faulted. -/
def stepped (m : Machine) (image : Image) : Nat → Machine
  | 0 => m
  | n + 1 => ((m.stepped image n).step image).machine

/-- The next step executes this operation in this mode, and does not fault. -/
def Executes (m : Machine) (image : Image) (operation : Operation) (mode : Mode) : Prop :=
  ∃ byte effect m', image[m.pc]? = some byte ∧
    (Instruction.decode byte).operation? = some operation ∧
    (Instruction.decode byte).mode = mode ∧ (operation.execute image mode).run m = .ok effect m'

variable {m : Machine} {image : Image}

theorem stepped_add (m : Machine) (image : Image) (a b : Nat) :
    m.stepped image (a + b) = (m.stepped image a).stepped image b := by
  induction b with
  | zero => rfl
  | succ b ih =>
    rw [← Nat.add_assoc, stepped, stepped, ih]

/-- The only ways in which a step can go. -/
theorem step_cases (m : Machine) (image : Image) :
    (image.size ≤ m.pc ∧ m.step image = ⟨.stopped, m, []⟩) ∨
    (∃ fault, (m.step image).outcome = .faulted fault ∧ (m.step image).machine = m) ∨
    ∃ byte operation effect m', image[m.pc]? = some byte ∧
      (Instruction.decode byte).operation? = some operation ∧
      operation.Performs image (Instruction.decode byte).mode m effect m' ∧
      (m.step image).outcome = (m'.follow image effect.flow).1 ∧
      (m.step image).machine = (m'.follow image effect.flow).2 := by
  cases hb : image[m.pc]? with
  | none =>
    have hsize : image.size ≤ m.pc := by simpa using hb
    exact .inl ⟨hsize, step_of_size_le m image hsize⟩
  | some byte =>
    cases ho : (Instruction.decode byte).operation? with
    | none =>
      have hs := step_of_operation?_eq_none hb ho
      exact .inr (.inl ⟨_, congrArg Step.outcome hs, congrArg Step.machine hs⟩)
    | some operation =>
      cases hr : (operation.execute image (Instruction.decode byte).mode).run m with
      | error fault m' =>
        have hf := congrArg Step.outcome (step_of_run_error hb ho hr)
        exact .inr (.inl ⟨fault, hf, machine_step_of_faulted hf⟩)
      | ok effect m' =>
        have hs := step_of_run_ok hb ho hr
        have hp := Operation.run_execute_eq_ok_iff.mp hr
        exact .inr (.inr ⟨byte, operation, effect, m', rfl, ho, hp,
          congrArg Step.outcome hs, congrArg Step.machine hs⟩)

theorem executes_of_ne_faulted {byte : UInt8} {operation : Operation}
    (hb : image[m.pc]? = some byte)
    (ho : (Instruction.decode byte).operation? = some operation)
    (hok : ∀ fault, (m.step image).outcome ≠ .faulted fault) :
    m.Executes image operation (Instruction.decode byte).mode := by
  obtain ⟨effect, m', hp, -⟩ := exists_performs_of_step hb ho hok
  exact ⟨byte, effect, m', hb, ho, rfl, hp.run_execute⟩

namespace Executes
variable {operation : Operation} {mode : Mode}

theorem pc_lt_size (h : m.Executes image operation mode) : m.pc < image.size := by
  obtain ⟨byte, -, -, hb, -⟩ := h
  exact (Array.getElem?_eq_some_iff.mp hb).1

theorem exists_performs (h : m.Executes image operation mode) :
    ∃ effect m', operation.Performs image mode m effect m' ∧
      (m.step image).outcome = (m'.follow image effect.flow).1 ∧
      (m.step image).machine = (m'.follow image effect.flow).2 := by
  obtain ⟨byte, effect, m', hb, ho, rfl, hr⟩ := h
  refine ⟨effect, m', Operation.run_execute_eq_ok_iff.mp hr, ?_⟩
  rw [step_of_run_ok hb ho hr]
  exact ⟨rfl, rfl⟩

end Executes

theorem pc_lt_size_of_running (hr : (m.step image).outcome = .running) :
    m.pc < image.size ∧ (m.step image).machine.pc < image.size := by
  obtain ⟨-, hs⟩ | ⟨fault, hf, -⟩ | ⟨byte, operation, effect, m', hb, ho, hp, hout, hm⟩ :=
    step_cases m image
  · rw [hs] at hr
    cases hr
  · cases hf.symm.trans hr
  · have hlt := (Array.getElem?_eq_some_iff.mp hb).1
    rw [hr] at hout
    rw [hm]
    cases hflow : effect.flow with
    | halt =>
      rw [hflow] at hout
      cases hout
    | goto position =>
      rw [hflow] at hout
      refine ⟨hlt, Nat.lt_of_not_le fun hge : image.size ≤ position => ?_⟩
      rw [follow, if_neg (Nat.not_lt.mpr hge)] at hout
      cases hout

theorem after?_eq_some_iff_stepped {n : Nat} {mₙ : Machine} :
    m.after? image n = some mₙ ↔
      (∀ k < n, ((m.stepped image k).step image).outcome = .running) ∧ m.stepped image n = mₙ := by
  induction n generalizing mₙ with
  | zero => simp [after?, stepped]
  | succ n ih =>
    rw [after?_succ_eq_some_iff]
    constructor
    · rintro ⟨m', ha, ho, hm⟩
      obtain ⟨hr, rfl⟩ := ih.mp ha
      refine ⟨fun k hk => ?_, hm⟩
      obtain hlt | rfl := Nat.lt_succ_iff_lt_or_eq.mp hk
      · exact hr k hlt
      · exact ho
    · rintro ⟨hr, hm⟩
      have hbefore : ∀ k < n, ((m.stepped image k).step image).outcome = .running :=
        fun k hk => hr k (Nat.lt_succ_of_lt hk)
      exact ⟨_, ih.mpr ⟨hbefore, rfl⟩, hr n (Nat.lt_succ_self n), hm⟩

theorem machine_advance (m : Machine) (image : Image) (limit : Nat) :
    (m.advance image limit).machine = m.stepped image (m.advance image limit).made := by
  induction limit with
  | zero => rfl
  | succ limit ih =>
    rw [advance_succ]
    split
    · show ((m.advance image limit).machine.step image).machine = _
      rw [ih]
      rfl
    · exact ih

theorem machine_of_ending? {outcome : Outcome} {m' : Machine} {e : Ending}
    (h : outcome.ending? m' = some e) : e.machine = m' := by
  cases outcome with
  | running => cases h
  | stopped => rw [← Option.some.inj h]
  | faulted fault => rw [← Option.some.inj h]

theorem machine_of_run? {limit : Nat} {e : Ending} (h : m.run? image limit = some e) :
    e.machine = m.stepped image (m.advance image limit).made :=
  (machine_of_ending? h).trans (machine_advance m image limit)

end Machine

end TwinStack
