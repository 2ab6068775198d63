import TwinStack.Proofs.Pops
import TwinStack.Stack.Operands

/-! Deferred pops against pops that remove their bytes at once. Whatever calls are made and in
whichever order, nobody who sees the answers alone can tell the two apart. -/
namespace TwinStack

namespace Operands

inductive Call where
  /-- Pops a value of the instruction's width. -/
  | pop
  | popByte
  | push (v : Value)
  | pushByte (b : UInt8)
  | commit
  deriving DecidableEq

inductive Reply where
  | value (v : Value)
  | byte (b : UInt8)
  | done
  deriving DecidableEq

namespace Call

def run (w : Width) : Call → EStateM Fault Operands Reply
  | .pop => return .value (← Operands.pop w)
  | .popByte => return .byte (← Operands.popByte)
  | .push v => do
    Operands.push v
    return .done
  | .pushByte b => do
    Operands.pushByte b
    return .done
  | .commit => do
    modify Operands.commit
    return .done

/-- Makes the call on a stack, where there is never anything to commit. -/
def runAtOnce (w : Width) : Call → EStateM Fault Stack Reply
  | .pop => return .value (← Stack.pop w)
  | .popByte => return .byte (← Stack.popByte)
  | .push v => do
    modify (·.push v)
    return .done
  | .pushByte b => do
    modify (·.pushByte b)
    return .done
  | .commit => return .done

def isPop : Call → Bool
  | .pop | .popByte => true
  | .push _ | .pushByte _ | .commit => false

end Call

/-- The answers to some calls on the operands of a stack, and the operands after them. -/
def deferred (s : Stack) (w : Width) (calls : List Call) : List (Except Fault Reply) × Operands :=
  attempts (calls.map (Call.run w)) (ofStack s)

def direct (s : Stack) (w : Width) (calls : List Call) : List (Except Fault Reply) × Stack :=
  attempts (calls.map (Call.runAtOnce w)) s

/-- What is taken is there, and `s` is left beneath it. -/
structure Shows (o : Operands) (s : Stack) : Prop where
  taken_le : o.taken ≤ o.stack.size
  drop_eq : o.stack.drop o.taken = s

theorem shows_ofStack (s : Stack) : (ofStack s).Shows s :=
  ⟨Nat.zero_le _, rfl⟩

theorem Shows.take {o : Operands} {s : Stack} {n : Nat} (h : o.Shows s)
    (hn : o.taken + n ≤ o.stack.size) :
    Shows { o with taken := o.taken + n } (s.drop n) := by
  refine ⟨hn, ?_⟩
  rw [← Stack.drop_drop, h.drop_eq]

/-- Two answers are the same, and so are the stacks that one sees after them. -/
structure Agrees {α : Type} (x : α × Operands) (y : α × Stack) : Prop where
  answer_eq : x.1 = y.1
  shows_stack : x.2.Shows y.2

section
variable {o : Operands} {s : Stack}

theorem agrees_pop (h : o.Shows s) (w : Width) :
    Agrees (attempt (pop w) o) (attempt (Stack.pop w) s) := by
  have hread : s.valueAt? 0 w = o.stack.valueAt? o.taken w := by
    rw [← h.drop_eq, Stack.valueAt?_drop, Nat.add_zero]
  rw [attempt, attempt, run_pop, Stack.run_pop, hread]
  cases hv : o.stack.valueAt? o.taken w with
  | none => exact ⟨rfl, h⟩
  | some v =>
    have hn : o.taken + w.size ≤ o.stack.size := Nat.le_of_not_lt fun hlt => by
      simp [(o.stack.valueAt?_eq_none_iff o.taken w).mpr hlt] at hv
    exact ⟨rfl, h.take hn⟩

theorem agrees_popByte (h : o.Shows s) :
    Agrees (attempt popByte o) (attempt Stack.popByte s) := by
  have hread : s.byteAt? 0 = o.stack.byteAt? o.taken := by
    rw [← h.drop_eq, Stack.byteAt?_drop, Nat.add_zero]
  rw [attempt, attempt, run_popByte, Stack.run_popByte, hread]
  cases hb : o.stack.byteAt? o.taken with
  | none => exact ⟨rfl, h⟩
  | some b =>
    have hn : o.taken + 1 ≤ o.stack.size := Nat.lt_of_not_le fun hle => by
      simp [(o.stack.byteAt?_eq_none_iff o.taken).mpr hle] at hb
    exact ⟨rfl, h.take hn⟩

theorem Agrees.map {α β : Type} {x : Except Fault α × Operands} {y : Except Fault α × Stack}
    (h : Agrees x y) (f : α → β) : Agrees (x.1.map f, x.2) (y.1.map f, y.2) :=
  ⟨congrArg (Except.map f) h.answer_eq, h.shows_stack⟩

/-- One call agrees with its counterpart, whether it fails or not. -/
theorem agrees_run (h : o.Shows s) (w : Width) (c : Call) :
    Agrees (attempt (c.run w) o) (attempt (c.runAtOnce w) s) := by
  cases c with
  | pop =>
    rw [Call.run, Call.runAtOnce, attempt_map, attempt_map]
    exact (agrees_pop h w).map Reply.value
  | popByte =>
    rw [Call.run, Call.runAtOnce, attempt_map, attempt_map]
    exact (agrees_popByte h).map Reply.byte
  | push | pushByte | commit =>
    rw [← h.drop_eq]
    exact ⟨rfl, shows_ofStack _⟩

theorem agrees_attempts (h : o.Shows s) (w : Width) (calls : List Call) :
    Agrees (attempts (calls.map (Call.run w)) o) (attempts (calls.map (Call.runAtOnce w)) s) := by
  induction calls generalizing o s with
  | nil => exact ⟨rfl, h⟩
  | cons c calls ih =>
    have hfirst := agrees_run h w c
    have hothers := ih hfirst.shows_stack
    exact ⟨congr (congrArg _ hfirst.answer_eq) hothers.answer_eq, hothers.shows_stack⟩

end

theorem stack_attempt_of_isPop {c : Call} (hc : c.isPop) (w : Width) (o : Operands) :
    (attempt (c.run w) o).2.stack = o.stack := by
  cases c with
  | pop =>
    rw [Call.run, attempt_map, attempt, run_pop]
    cases o.stack.valueAt? o.taken w <;> rfl
  | popByte =>
    rw [Call.run, attempt_map, attempt, run_popByte]
    cases o.stack.byteAt? o.taken <;> rfl
  | push | pushByte | commit => cases hc

/-- Pops alone leave the bytes in place, also those that fail. -/
theorem stack_attempts_of_isPop {calls : List Call} (h : ∀ c ∈ calls, c.isPop) (w : Width)
    (o : Operands) : (attempts (calls.map (Call.run w)) o).2.stack = o.stack := by
  induction calls generalizing o with
  | nil => rfl
  | cons c calls ih =>
    obtain ⟨hc, hcalls⟩ := List.forall_mem_cons.mp h
    exact (ih hcalls _).trans (stack_attempt_of_isPop hc w o)

/-- Deferred pops cannot be told from pops that remove their bytes at once. After any calls, and so
after each of them, the answers have been the same, what is taken is still there, and beneath it is
the stack on which the calls were made at once; a commit leaves just that. As long as there were
only pops the bytes are untouched, even if some of them failed. -/
theorem deferred_pops_agree (s : Stack) (w : Width) (calls : List Call) :
    (deferred s w calls).1 = (direct s w calls).1 ∧
    (deferred s w calls).2.taken ≤ (deferred s w calls).2.stack.size ∧
    (deferred s w calls).2.stack.drop (deferred s w calls).2.taken = (direct s w calls).2 ∧
    (deferred s w (calls ++ [.commit])).2 = ofStack (direct s w (calls ++ [.commit])).2 ∧
    ((∀ c ∈ calls, c.isPop) → (deferred s w calls).2.stack = s) := by
  have hsame := agrees_attempts (shows_ofStack s) w calls
  refine ⟨hsame.answer_eq, hsame.shows_stack.taken_le, hsame.shows_stack.drop_eq, ?_,
    fun hpops => stack_attempts_of_isPop hpops w (ofStack s)⟩
  rw [deferred, direct, List.map_append, List.map_append, attempts_append, attempts_append]
  exact congrArg ofStack hsame.shows_stack.drop_eq

/-- A byte and a short are popped from three bytes, and one more short is not there. All three bytes
stay until one is pushed. -/
theorem deferred_pops_agree_short :
    (deferred (.ofBytes [0x12, 0x34, 0x56]) .short [.popByte, .pop, .pop]).1 =
      [.ok (.byte 0x56), .ok (.value (.short 0x1234)), .error .stackUnderflow] ∧
    (deferred (.ofBytes [0x12, 0x34, 0x56]) .short [.popByte, .pop, .pop]).2.stack =
      .ofBytes [0x12, 0x34, 0x56] ∧
    (deferred (.ofBytes [0x12, 0x34, 0x56]) .short
      [.popByte, .pop, .pop, .pushByte 0x9a, .commit]).2 = ofStack (.ofBytes [0x9a]) := by
  obtain ⟨hsame, -, -, -, hpops⟩ :=
    deferred_pops_agree (.ofBytes [0x12, 0x34, 0x56]) .short [.popByte, .pop, .pop]
  obtain ⟨-, -, -, hcommit, -⟩ :=
    deferred_pops_agree (.ofBytes [0x12, 0x34, 0x56]) .short [.popByte, .pop, .pop, .pushByte 0x9a]
  exact ⟨hsame.trans rfl, hpops (by decide), hcommit.trans rfl⟩

end Operands

end TwinStack
