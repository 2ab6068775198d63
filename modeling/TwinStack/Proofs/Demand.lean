import TwinStack.DataOp
import TwinStack.Proofs.Stack

/-! How many bytes a data operation needs. What its pops take adds up, and if there are too few
bytes the operation notices it before it pushes anything. -/
namespace TwinStack

namespace Operands

/-- With fewer than `n` bytes of operands the program underflows and leaves the stack in place. -/
def Needs {α : Type} (n : Nat) (act : EStateM Fault Operands α) : Prop :=
  ∀ o : Operands, o.rest.size < n →
    ∃ o', act.run o = .error .stackUnderflow o' ∧ o'.stack = o.stack

/-- The program takes `n` bytes of operands and does nothing else. -/
structure Takes {α : Type} (n : Nat) (act : EStateM Fault Operands α) : Prop where
  needs : Needs n act
  ok (o : Operands) : n ≤ o.rest.size → ∃ a, act.run o = .ok a { o with taken := o.taken + n }

theorem size_rest (o : Operands) : o.rest.size = o.stack.size - o.taken :=
  o.stack.size_drop o.taken

theorem takes_popByte : Takes 1 popByte := by
  constructor
  · intro o h
    rw [size_rest] at h
    rw [run_popByte, (o.stack.byteAt?_eq_none_iff o.taken).mpr (by omega)]
    exact ⟨o, rfl, rfl⟩
  · intro o h
    rw [size_rest] at h
    rw [run_popByte]
    cases hb : o.stack.byteAt? o.taken with
    | none =>
      have := (o.stack.byteAt?_eq_none_iff o.taken).mp hb
      omega
    | some b => exact ⟨b, rfl⟩

theorem takes_pop (w : Width) : Takes w.size (pop w) := by
  have hw : 0 < w.size := by cases w <;> decide
  constructor
  · intro o h
    rw [size_rest] at h
    rw [run_pop, (o.stack.valueAt?_eq_none_iff o.taken w).mpr (by omega)]
    exact ⟨o, rfl, rfl⟩
  · intro o h
    rw [size_rest] at h
    rw [run_pop]
    cases hv : o.stack.valueAt? o.taken w with
    | none =>
      have := (o.stack.valueAt?_eq_none_iff o.taken w).mp hv
      omega
    | some v => exact ⟨v, rfl⟩

theorem Needs.bind {α β : Type} {n : Nat} {act : EStateM Fault Operands α} (h : Needs n act)
    (next : α → EStateM Fault Operands β) : Needs n (act >>= next) := by
  intro o ho
  obtain ⟨o', hr, hs⟩ := h o ho
  exact ⟨o', by rw [EStateM.run_bind, hr], hs⟩

/-- What is taken first is not there any more, so needs add up. -/
theorem Takes.bind {α β : Type} {n k : Nat} {act : EStateM Fault Operands α}
    {next : α → EStateM Fault Operands β} (h : Takes n act) (hn : ∀ a, Needs k (next a)) :
    Needs (n + k) (act >>= next) := by
  intro o ho
  by_cases hlt : o.rest.size < n
  · exact h.needs.bind next o hlt
  · obtain ⟨a, ha⟩ := h.ok o (Nat.le_of_not_lt hlt)
    have hrest : (rest { o with taken := o.taken + n }).size < k := by
      rw [size_rest] at ho ⊢
      rw [size_rest] at hlt
      simp only
      omega
    obtain ⟨o', hr, hs⟩ := hn a _ hrest
    exact ⟨o', by rw [EStateM.run_bind, ha]; exact hr, hs⟩

theorem needs_pop_pop {β : Type} (w : Width) (next : Value → Value → EStateM Fault Operands β) :
    Needs (2 * w.size) (do next (← pop w) (← pop w)) := by
  rw [Nat.two_mul]
  exact (takes_pop w).bind fun b => (takes_pop w).needs.bind (next b)

theorem run_span (width depth : Nat) (o : Operands) :
    (span width depth).run o = match o.rest.span? width depth with
      | some bs => .ok bs o
      | none => .error .stackUnderflow o := by
  change EStateM.run (match o.rest.span? width depth with
    | some bs => _
    | none => _) o = _
  cases o.rest.span? width depth <;> rfl

theorem needs_span (width depth : Nat) : Needs (width * depth) (span width depth) := by
  intro o h
  rw [run_span, Stack.span?, if_neg (Nat.not_le.mpr h)]
  exact ⟨o, rfl, rfl⟩

end Operands

namespace DataOp
open Operands

/-- The bytes that an operation needs. A plain `inc` looks at the top byte alone, whatever the
width. -/
def demand (keep : Bool) (w : Width) : DataOp → Nat
  | .inc => if keep then w.size else 1
  | .pop | .dup => w.size
  | .nip | .swp | .ovr | .equ | .add => 2 * w.size
  | .rot => 3 * w.size

theorem needs_apply (keep : Bool) (w : Width) (op : DataOp) :
    Needs (op.demand keep w) (op.apply keep w) := by
  cases op with
  | inc =>
    cases keep with
    | false => exact takes_popByte.needs.bind _
    | true =>
      have h := needs_span w.size 1
      rw [Nat.mul_one] at h
      exact h.bind _
  | pop | dup => exact (takes_pop w).needs.bind _
  | nip | swp | equ | add => exact needs_pop_pop w _
  | rot =>
    have h : 3 * w.size = w.size + 2 * w.size := by omega
    rw [demand, h]
    exact (takes_pop w).bind fun c => needs_pop_pop w _
  | ovr =>
    rw [demand, Nat.mul_comm]
    exact (needs_span w.size 2).bind _

end DataOp

end TwinStack
