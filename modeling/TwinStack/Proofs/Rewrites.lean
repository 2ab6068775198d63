import TwinStack.Proofs.Demand

/-! The data operations as rules that rewrite the top of a stack. The rules are written with pushes
only; each operation follows its rule, and a stack with enough bytes always has one. -/
namespace TwinStack

/-- One more in the low byte alone. -/
def Value.bump : Value → Value
  | .byte b => .byte (b + 1)
  | .short s => .short (Short.join (Short.high s) (Short.low s + 1))

/-- How an operation on operands of width `w` rewrites a stack. In keep mode `ovr` reaches below its
operands, and on shorts it does so only if there is another pair of them. -/
inductive DataOp.Rewrites (keep : Bool) (w : Width) : DataOp → Stack → Stack → Prop
  | inc (s : Stack) (b : UInt8) (hk : keep = false) :
    Rewrites keep w .inc (s.pushByte b) (s.pushByte (b + 1))
  | incKeep (s : Stack) (a : Value) (hk : keep = true) (ha : a.width = w) :
    Rewrites keep w .inc (s.push a) ((s.push a).push a.bump)
  | pop (s : Stack) (a : Value) (ha : a.width = w) : Rewrites keep w .pop (s.push a) s
  | nip (s : Stack) (a b : Value) (ha : a.width = w) (hb : b.width = w) :
    Rewrites keep w .nip ((s.push a).push b) ((if keep then (s.push a).push b else s).push b)
  | swp (s : Stack) (a b : Value) (ha : a.width = w) (hb : b.width = w) :
    Rewrites keep w .swp ((s.push a).push b)
      (((if keep then (s.push a).push b else s).push b).push a)
  | rot (s : Stack) (a b c : Value) (ha : a.width = w) (hb : b.width = w) (hc : c.width = w) :
    Rewrites keep w .rot (((s.push a).push b).push c) (((s.push b).push c).push a)
  | dup (s : Stack) (a : Value) (ha : a.width = w) :
    Rewrites keep w .dup (s.push a) (((if keep then s.push a else s).push a).push a)
  | ovr (s : Stack) (a b : Value) (hk : keep = false) (ha : a.width = w) (hb : b.width = w) :
    Rewrites keep w .ovr ((s.push a).push b) (((s.push a).push b).push a)
  | ovrKeepByte (s : Stack) (a b : Value) (hk : keep = true) (hw : w = .byte) (ha : a.width = w)
    (hb : b.width = w) :
    Rewrites keep w .ovr ((s.push a).push b) (((((s.push a).push b).push a).push b).push a)
  | ovrKeepShort (s : Stack) (a b c d : Value) (hk : keep = true) (hw : w = .short)
    (ha : a.width = w) (hb : b.width = w) (hc : c.width = w) (hd : d.width = w) :
    Rewrites keep w .ovr ((((s.push a).push b).push c).push d)
      (((((((s.push a).push b).push c).push d).push a).push b).push c)
  | ovrShallow (s : Stack) (a b : Value) (hk : keep = true) (hw : w = .short) (hs : s.size < 4)
    (ha : a.width = w) (hb : b.width = w) :
    Rewrites keep w .ovr ((s.push a).push b) (((s.push a).push b).push a)
  | equ (s : Stack) (a b : Value) (ha : a.width = w) (hb : b.width = w) :
    Rewrites keep w .equ ((s.push a).push b) (s.pushByte (if a = b then 1 else 0))
  | add (s : Stack) (a b : Value) (ha : a.width = w) (hb : b.width = w) :
    Rewrites keep w .add ((s.push a).push b) ((if keep then (s.push a).push b else s).push (a + b))

namespace Operands

theorem valueAt?_of_rest {o : Operands} {s : Stack} {a : Value} (h : o.rest = s.push a) :
    o.stack.valueAt? o.taken a.width = some a := by
  have hd := o.stack.valueAt?_drop o.taken 0 a.width
  have ht := s.valueAt?_push a
  rw [Nat.add_zero] at hd
  rw [← h] at ht
  exact hd.symm.trans ht

theorem rest_take {o : Operands} {s : Stack} {a : Value} (h : o.rest = s.push a) :
    rest { o with taken := o.taken + a.width.size } = s := by
  have hd := o.stack.drop_drop o.taken a.width.size
  have ht := s.drop_push a
  rw [← h] at ht
  exact hd.symm.trans ht

/-- A pop takes the value on top of what the instruction sees. -/
theorem run_pop_bind {β : Type} {o : Operands} {s : Stack} {w : Width} {a : Value}
    (h : o.rest = s.push a) (ha : a.width = w) (next : Value → EStateM Fault Operands β) :
    ∃ o', (pop w >>= next).run o = (next a).run o' ∧ o'.rest = s := by
  subst ha
  refine ⟨{ o with taken := o.taken + a.width.size }, ?_, rest_take h⟩
  rw [EStateM.run_bind, run_pop, valueAt?_of_rest h]

theorem run_pop_pop_bind {β : Type} {o : Operands} {s : Stack} {w : Width} {a b : Value}
    (h : o.rest = (s.push a).push b) (ha : a.width = w) (hb : b.width = w)
    (next : Value → Value → EStateM Fault Operands β) :
    ∃ o', (do next (← pop w) (← pop w)).run o = (next b a).run o' ∧ o'.rest = s := by
  obtain ⟨o₁, hr₁, hs₁⟩ := run_pop_bind h hb fun b' => do next b' (← pop w)
  obtain ⟨o₂, hr₂, hs₂⟩ := run_pop_bind hs₁ ha (next b)
  exact ⟨o₂, hr₁.trans hr₂, hs₂⟩

end Operands

namespace DataOp
open Operands

theorem run_apply_ovr (keep : Bool) {w : Width} {s : Stack} {second : List UInt8}
    (h : s.span? w.size 2 = some second) :
    (DataOp.ovr.apply keep w).run (.ofStack s) =
      .ok () (.ofStack ((if keep then s.pushBytes ((s.span? (2 * w.size) w.size).getD [])
        else s).pushBytes second)) := by
  have hr : (span w.size 2).run (ofStack s) = .ok second (ofStack s) := by
    rw [run_span, rest_ofStack, h]
  rw [apply, EStateM.run_bind, hr]
  cases keep <;> rfl

theorem run_apply_inc_keep (w : Width) {s : Stack} {top : List UInt8}
    (h : s.span? w.size 1 = some top) :
    (DataOp.inc.apply true w).run (.ofStack s) =
      (DataOp.inc.apply false w).run (.ofStack (s.pushBytes top)) := by
  have hr : (span w.size 1).run (ofStack s) = .ok top (ofStack s) := by
    rw [run_span, rest_ofStack, h]
  change (span w.size 1 >>= fun bs => Operands.pushBytes bs >>= fun _ =>
    DataOp.inc.apply false w).run (ofStack s) = _
  rw [EStateM.run_bind, hr]
  rfl

theorem Rewrites.run_apply {keep : Bool} {w : Width} {op : DataOp} {s s' : Stack}
    (h : op.Rewrites keep w s s') :
    ∃ o, (op.apply keep w).run (.ofStack s) = .ok () o ∧ o.rest = s' := by
  have hrest := rest_ofStack s
  cases h with
  | inc t b hk =>
    subst hk
    exact ⟨_, rfl, rfl⟩
  | incKeep t a hk ha =>
    subst hk ha
    rw [run_apply_inc_keep _ (t.span?_push a)]
    cases a with
    | byte b => exact ⟨_, rfl, rfl⟩
    | short v =>
      refine ⟨_, rfl, ?_⟩
      exact ((t.pushShort v).pushShort_join (Short.high v) (Short.low v + 1)).symm
  | pop t a ha =>
    obtain ⟨o, hr, rfl⟩ := run_pop_bind hrest ha fun _ => pure ()
    exact ⟨o, hr, rfl⟩
  | nip t a b ha hb =>
    obtain ⟨o, hr, rfl⟩ := run_pop_pop_bind hrest ha hb fun b a => do
      restore keep [a, b]
      Operands.push b
    cases keep <;> exact ⟨_, hr, rfl⟩
  | swp t a b ha hb =>
    obtain ⟨o, hr, rfl⟩ := run_pop_pop_bind hrest ha hb fun b a => do
      restore keep [a, b]
      Operands.push b
      Operands.push a
    cases keep <;> exact ⟨_, hr, rfl⟩
  | rot t a b c ha hb hc =>
    obtain ⟨o₁, hr₁, hs₁⟩ := run_pop_bind hrest hc fun c => do
      let b ← Operands.pop w
      let a ← Operands.pop w
      Operands.push b
      Operands.push c
      Operands.push a
    obtain ⟨o₂, hr₂, rfl⟩ := run_pop_pop_bind hs₁ ha hb fun b a => do
      Operands.push b
      Operands.push c
      Operands.push a
    exact ⟨_, hr₁.trans hr₂, rfl⟩
  | dup t a ha =>
    obtain ⟨o, hr, rfl⟩ := run_pop_bind hrest ha fun a => do
      restore keep [a]
      Operands.push a
      Operands.push a
    cases keep <;> exact ⟨_, hr, rfl⟩
  | ovr t a b hk ha hb =>
    subst hk
    refine ⟨_, run_apply_ovr false (t.span?_push_push ha hb), ?_⟩
    exact (Stack.push_eq_pushBytes _ a).symm
  | ovrKeepByte t a b hk hw ha hb =>
    subst hk hw
    have hlayer : ((t.push a).push b).span? (2 * Width.byte.size) Width.byte.size =
        some (a.bytes ++ b.bytes) := t.span?_layer ha hb [] rfl
    refine ⟨_, run_apply_ovr true (t.span?_push_push ha hb), ?_⟩
    rw [hlayer]
    ext1
    simp
  | ovrKeepShort t a b c d hk hw ha hb hc hd =>
    subst hk hw
    have hlayer : ((((t.push a).push b).push c).push d).span? (2 * Width.short.size)
        Width.short.size = some (a.bytes ++ b.bytes) := by
      have hlen : (c.bytes ++ d.bytes).length = 4 := by
        rw [List.length_append, c.length_bytes, d.length_bytes, hc, hd]
        rfl
      have h := t.span?_layer ha hb (c.bytes ++ d.bytes) (by rw [hlen]; rfl)
      rwa [← Stack.pushBytes_pushBytes, ← Stack.push_eq_pushBytes, ← Stack.push_eq_pushBytes] at h
    refine ⟨_, run_apply_ovr true (Stack.span?_push_push _ hc hd), ?_⟩
    rw [hlayer]
    ext1
    simp
  | ovrShallow t a b hk hw hs ha hb =>
    subst hk hw
    have hlayer : ((t.push a).push b).span? (2 * Width.short.size) Width.short.size = none := by
      rw [Stack.span?, if_neg]
      simp only [Stack.size_push, ha, hb, Width.size]
      omega
    refine ⟨_, run_apply_ovr true (t.span?_push_push ha hb), ?_⟩
    rw [hlayer]
    ext1
    simp
  | equ t a b ha hb =>
    obtain ⟨o, hr, rfl⟩ := run_pop_pop_bind hrest ha hb fun b a =>
      Operands.pushByte (if a = b then 1 else 0)
    exact ⟨_, hr, rfl⟩
  | add t a b ha hb =>
    obtain ⟨o, hr, rfl⟩ := run_pop_pop_bind hrest ha hb fun b a => do
      restore keep [a, b]
      Operands.push (a + b)
    cases keep <;> exact ⟨_, hr, rfl⟩

theorem exists_rewrites {keep : Bool} {w : Width} {op : DataOp} {s : Stack}
    (h : op.demand keep w ≤ s.size) : ∃ s', op.Rewrites keep w s s' := by
  cases op with
  | inc =>
    cases keep with
    | false =>
      obtain ⟨b, rest, hc⟩ := Stack.exists_cells_of_one_le h
      obtain rfl : s = Stack.pushByte ⟨rest⟩ b := congrArg Stack.mk hc
      exact ⟨_, .inc _ b rfl⟩
    | true =>
      obtain ⟨t, a, ha, rfl⟩ := Stack.exists_push h
      exact ⟨_, .incKeep t a rfl ha⟩
  | pop =>
    obtain ⟨t, a, ha, rfl⟩ := Stack.exists_push h
    exact ⟨_, .pop t a ha⟩
  | dup =>
    obtain ⟨t, a, ha, rfl⟩ := Stack.exists_push h
    exact ⟨_, .dup t a ha⟩
  | nip =>
    obtain ⟨t, a, b, ha, hb, rfl⟩ := Stack.exists_push_push h
    exact ⟨_, .nip t a b ha hb⟩
  | swp =>
    obtain ⟨t, a, b, ha, hb, rfl⟩ := Stack.exists_push_push h
    exact ⟨_, .swp t a b ha hb⟩
  | equ =>
    obtain ⟨t, a, b, ha, hb, rfl⟩ := Stack.exists_push_push h
    exact ⟨_, .equ t a b ha hb⟩
  | add =>
    obtain ⟨t, a, b, ha, hb, rfl⟩ := Stack.exists_push_push h
    exact ⟨_, .add t a b ha hb⟩
  | rot =>
    rw [demand] at h
    obtain ⟨u, c, hc, rfl⟩ := Stack.exists_push (s := s) (w := w) (by omega)
    rw [Stack.size_push, hc] at h
    obtain ⟨t, a, b, ha, hb, rfl⟩ := Stack.exists_push_push (s := u) (w := w) (by omega)
    exact ⟨_, .rot t a b c ha hb hc⟩
  | ovr =>
    obtain ⟨t, a, b, ha, hb, rfl⟩ := Stack.exists_push_push h
    cases keep with
    | false => exact ⟨_, .ovr t a b rfl ha hb⟩
    | true =>
      cases w with
      | byte => exact ⟨_, .ovrKeepByte t a b rfl rfl ha hb⟩
      | short =>
        by_cases hs : t.size < 4
        · exact ⟨_, .ovrShallow t a b rfl rfl hs ha hb⟩
        · obtain ⟨u, c, d, hc, hd, rfl⟩ :=
            Stack.exists_push_push (s := t) (w := .short) (Nat.le_of_not_lt hs)
          exact ⟨_, .ovrKeepShort u c d a b rfl rfl hc hd ha hb⟩

end DataOp

end TwinStack
