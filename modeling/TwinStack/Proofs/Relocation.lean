import TwinStack.Proofs.Steps

/-! Position independence. Fetches, stored offsets, jumps over a byte and the end of the image are
all counted from the program counter, so a program makes the same steps behind other bytes. Only
jumps to a position on a stack, and calls, which leave one there, depend on where it lies. -/
namespace TwinStack

namespace Image

theorem getElem?_append_add_size (q p : Image) (i : Nat) : (q ++ p)[i + q.size]? = p[i]? := by
  rw [Array.getElem?_append_right (Nat.le_add_left _ _), Nat.add_sub_cancel]

theorem valueAt?_append_add_size (q p : Image) (position : Nat) (w : Width) :
    (q ++ p).valueAt? (position + q.size) w = p.valueAt? position w := by
  cases w with
  | byte => rw [valueAt?, valueAt?, getElem?_append_add_size]
  | short =>
    rw [valueAt?, valueAt?, Nat.add_right_comm, getElem?_append_add_size,
      getElem?_append_add_size]

end Image

def Flow.moved (k : Nat) : Flow → Flow
  | .goto position => .goto (position + k)
  | .halt => .halt

/-- The operation takes a position from a stack, or leaves one there. -/
def Operation.UsesPosition (mode : Mode) : Operation → Prop
  | .jmp => mode.width = .short
  | .jsr | .jsi => True
  | .brk | .lit | .data _ | .jmi | .jci | .sth | .deo => False

namespace Machine

/-- The machine with its program counter `k` bytes further. -/
def moved (m : Machine) (k : Nat) : Machine :=
  { m with pc := m.pc + k }

theorem pc_moved (m : Machine) (k : Nat) : (m.moved k).pc = m.pc + k := rfl

theorem stack_moved (m : Machine) (k : Nat) (side : Side) :
    (m.moved k).stack side = m.stack side := by
  cases side <;> rfl

theorem setStack_moved (m : Machine) (k : Nat) (side : Side) (s : Stack) :
    (m.setStack side s).moved k = (m.moved k).setStack side s := by
  cases side <;> rfl

theorem valueAt?_moved (m : Machine) (q p : Image) (w : Width) :
    (q ++ p).valueAt? ((m.moved q.size).pc + 1) w = p.valueAt? (m.pc + 1) w := by
  rw [pc_moved, Nat.add_right_comm, Image.valueAt?_append_add_size]

theorem follow_moved (m : Machine) (q p : Image) (flow : Flow) :
    ((m.moved q.size).follow (q ++ p) (flow.moved q.size)).1 = (m.follow p flow).1 ∧
      ((m.moved q.size).follow (q ++ p) (flow.moved q.size)).2 =
        (m.follow p flow).2.moved q.size := by
  cases flow with
  | halt => exact ⟨rfl, rfl⟩
  | goto position =>
    have hin : position + q.size < (q ++ p).size ↔ position < p.size := by
      rw [Array.size_append]
      omega
    refine ⟨?_, rfl⟩
    simp only [Flow.moved, follow, hin]

end Machine

namespace Operation
variable {p : Image} {mode : Mode} {m m' : Machine} {operation : Operation}

theorem underflows_moved (k : Nat) :
    operation.Underflows mode (m.moved k) ↔ operation.Underflows mode m := by
  cases operation <;> simp only [Underflows, Machine.stack_moved] <;> exact Iff.rfl

theorem truncates_moved (q : Image) :
    operation.Truncates (q ++ p) mode (m.moved q.size) ↔ operation.Truncates p mode m := by
  have hsize : (q ++ p).size = q.size + p.size := Array.size_append
  have hpc := m.pc_moved q.size
  cases operation with
  | brk | data | jmp | jsr | sth | deo => exact Iff.rfl
  | lit | jmi | jsi =>
    simp only [Truncates]
    omega
  | jci =>
    refine and_congr_right fun _ => ?_
    omega

/-- The rules that use no position apply further on, and lead further on. -/
theorem Performs.moved {effect : Effect} (h : operation.Performs p mode m effect m') (q : Image)
    (hu : ¬ operation.UsesPosition mode) :
    ∃ effect', operation.Performs (q ++ p) mode (m.moved q.size) effect' (m'.moved q.size) ∧
      effect'.flow = effect.flow.moved q.size := by
  have hpc := m.pc_moved q.size
  have hvalue := m.valueAt?_moved q p
  have hgoto {a b : Nat} (h : a = b + q.size) : Flow.goto a = (Flow.goto b).moved q.size :=
    congrArg Flow.goto h
  cases h with
  | brk => exact ⟨_, .brk, rfl⟩
  | lit v hv =>
    rw [Machine.setStack_moved, ← m.stack_moved q.size]
    exact ⟨_, .lit v ((hvalue mode.width).trans hv), hgoto (by omega)⟩
  | data op s h =>
    rw [Machine.setStack_moved]
    refine ⟨_, .data op s ?_, hgoto (by omega)⟩
    rw [Machine.stack_moved]
    exact h
  | jmpByte s offset hw hs =>
    rw [Machine.setStack_moved]
    exact ⟨_, .jmpByte s offset hw ((m.stack_moved q.size _).trans hs), hgoto (by omega)⟩
  | jmpShort s position hw hs => exact absurd hw hu
  | jsr | jsi => exact absurd trivial hu
  | jmi offset hv => exact ⟨_, .jmi offset ((hvalue .short).trans hv), hgoto (by omega)⟩
  | jciSkip s hs => exact ⟨_, .jciSkip s hs, hgoto (by omega)⟩
  | jciTake s top offset hs ht hv =>
    exact ⟨_, .jciTake s top offset hs ht ((hvalue .short).trans hv), hgoto (by omega)⟩
  | sth s b hs => exact ⟨_, .sth s b hs, hgoto (by omega)⟩
  | deo s value address bus hs hb =>
    exact ⟨_, .deo s value address bus hs hb, hgoto (by omega)⟩
  | deoDropped s value address hs hb =>
    exact ⟨_, .deoDropped s value address hs hb, hgoto (by omega)⟩

end Operation

namespace Machine
variable {p : Image} {m : Machine}

theorem step_moved (q : Image)
    (hu : ∀ operation mode, m.Executes p operation mode → ¬ operation.UsesPosition mode) :
    ((m.moved q.size).step (q ++ p)).outcome = (m.step p).outcome ∧
      ((m.moved q.size).step (q ++ p)).machine = (m.step p).machine.moved q.size := by
  have hfetch : (q ++ p)[(m.moved q.size).pc]? = p[m.pc]? := Image.getElem?_append_add_size q p m.pc
  cases hb : p[m.pc]? with
  | none =>
    have hsize : p.size ≤ m.pc := by simpa using hb
    have hsize' : (q ++ p).size ≤ (m.moved q.size).pc := by simpa using hfetch.trans hb
    rw [step_of_size_le m p hsize, step_of_size_le _ (q ++ p) hsize']
    exact ⟨rfl, rfl⟩
  | some byte =>
    have hb' := hfetch.trans hb
    cases ho : (Instruction.decode byte).operation? with
    | none =>
      rw [step_of_operation?_eq_none hb ho, step_of_operation?_eq_none hb' ho]
      exact ⟨rfl, rfl⟩
    | some operation =>
      cases hr : (operation.execute p (Instruction.decode byte).mode).run m with
      | error fault m₁ =>
        obtain ⟨rfl, hf⟩ := Operation.run_execute_eq_error_iff.mp hr
        rw [← Operation.underflows_moved q.size, ← Operation.truncates_moved q] at hf
        have hr' := Operation.run_execute_eq_error_iff.mpr ⟨rfl, hf⟩
        rw [step_of_run_error hb ho hr, step_of_run_error hb' ho hr']
        exact ⟨rfl, rfl⟩
      | ok effect m₁ =>
        have hp := Operation.run_execute_eq_ok_iff.mp hr
        obtain ⟨effect', hp', hflow⟩ := hp.moved q (hu _ _ ⟨byte, effect, m₁, hb, ho, rfl, hr⟩)
        rw [step_of_run_ok hb ho hr, step_of_performs hb' ho hp', hflow]
        exact follow_moved m₁ q p effect.flow

theorem stepped_moved (q : Image) {n : Nat}
    (hu : ∀ k < n, ∀ operation mode, (m.stepped p k).Executes p operation mode →
      ¬ operation.UsesPosition mode) :
    (m.moved q.size).stepped (q ++ p) n = (m.stepped p n).moved q.size := by
  induction n with
  | zero => rfl
  | succ n ih =>
    rw [stepped, stepped, ih fun k hk => hu k (Nat.lt_succ_of_lt hk)]
    exact (step_moved q (hu n (Nat.lt_succ_self n))).2

/-- As long as no position is used, the steps of a program behind other bytes are its own steps,
with the program counter further on by the number of these bytes. -/
theorem steps_independent_of_position (q p : Image) (m : Machine) (n : Nat)
    (hu : ∀ k < n, ∀ operation mode, (m.stepped p k).Executes p operation mode →
      ¬ operation.UsesPosition mode) :
    ∀ k < n,
      (((m.moved q.size).stepped (q ++ p) k).step (q ++ p)).outcome =
        ((m.stepped p k).step p).outcome ∧
      (m.moved q.size).stepped (q ++ p) (k + 1) = (m.stepped p (k + 1)).moved q.size := by
  intro k hk
  refine ⟨?_, stepped_moved q fun j hj => hu j (by omega)⟩
  rw [stepped_moved q fun j hj => hu j (by omega)]
  exact (step_moved q (hu k hk)).1

/-- A literal, a jump over a byte and a literal at the end, behind two bytes. -/
theorem steps_independent_of_position_jmp :
    (step (stepped { pc := 2 } (#[0xff, 0xff] ++ #[0x80, 0x01, 0x0c, 0xff, 0x80, 0x2a]) 2)
        (#[0xff, 0xff] ++ #[0x80, 0x01, 0x0c, 0xff, 0x80, 0x2a])).outcome = .stopped ∧
      stepped { pc := 2 } (#[0xff, 0xff] ++ #[0x80, 0x01, 0x0c, 0xff, 0x80, 0x2a]) 3 =
        { wst := .ofBytes [0x2a], pc := 8 } := by
  have hu : ∀ k < 3, ∀ operation mode,
      (stepped {} #[0x80, 0x01, 0x0c, 0xff, 0x80, 0x2a] k).Executes
        #[0x80, 0x01, 0x0c, 0xff, 0x80, 0x2a] operation mode → ¬ operation.UsesPosition mode := by
    rintro k hk operation mode ⟨byte, -, -, hb, ho, rfl, -⟩
    obtain rfl | rfl | rfl : k = 0 ∨ k = 1 ∨ k = 2 := by omega
    · obtain rfl : 0x80 = byte := Option.some.inj hb
      obtain rfl : .lit = operation := Option.some.inj ho
      exact id
    · obtain rfl : 0x0c = byte := Option.some.inj hb
      obtain rfl : .jmp = operation := Option.some.inj ho
      exact nofun
    · obtain rfl : 0x80 = byte := Option.some.inj hb
      obtain rfl : .lit = operation := Option.some.inj ho
      exact id
  obtain ⟨ho, hm⟩ := steps_independent_of_position #[0xff, 0xff]
    #[0x80, 0x01, 0x0c, 0xff, 0x80, 0x2a] {} 3 hu 2 (by decide)
  exact ⟨ho.trans (by decide), hm.trans (by decide)⟩

end Machine

end TwinStack
