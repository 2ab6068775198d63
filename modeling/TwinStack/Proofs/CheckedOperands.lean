import TwinStack.Checked.Operands
import TwinStack.Proofs.Rewrites

/-! Data operations in machine words do not trap. On a stack that fits into memory before and after,
they follow the rules of `DataOp.Rewrites`; on one with too few bytes they underflow and leave it in
place. -/
namespace TwinStack

theorem Width.size_pos (w : Width) : 0 < w.size := by
  cases w <;> decide

theorem Width.size_le_two (w : Width) : w.size ≤ 2 := by
  cases w <;> decide

namespace Value

theorem add_comm (a b : Value) : a + b = b + a := by
  cases a with
  | byte a =>
    cases b with
    | byte b => exact congrArg byte (UInt8.add_comm a b)
    | short b => exact congrArg short (UInt16.add_comm a.toUInt16 b)
  | short a => cases b <;> exact congrArg short (UInt16.add_comm a _)

theorem toUInt16_inj {a b : Value} (h : a.width = b.width) : a.toUInt16 = b.toUInt16 ↔ a = b := by
  cases a with
  | byte a =>
    cases b with
    | byte b => simp [toUInt16, ← UInt16.toNat_inj, ← UInt8.toNat_inj]
    | short b => cases h
  | short a =>
    cases b with
    | byte b => cases h
    | short b => simp [toUInt16]

end Value

namespace Stack

theorem size_le_size_push (s : Stack) (v : Value) : s.size ≤ (s.push v).size := by
  rw [size_push]
  exact Nat.le_add_right _ _

theorem push_push_eq_pushBytes (s : Stack) (a b : Value) :
    (s.push a).push b = s.pushBytes (a.bytes ++ b.bytes) := by
  rw [push_eq_pushBytes, push_eq_pushBytes, pushBytes_pushBytes]

theorem width_of_valueAt? {s : Stack} {offset : Nat} {w : Width} {v : Value}
    (h : s.valueAt? offset w = some v) : v.width = w := by
  cases w with
  | byte =>
    obtain ⟨b, -, rfl⟩ := Option.map_eq_some_iff.mp h
    rfl
  | short =>
    obtain ⟨b, -, rfl⟩ := Option.map_eq_some_iff.mp h
    rfl

theorem getElem?_bytes {s : Stack} {offset : Nat} (h : offset < s.size) :
    s.bytes[s.size - (offset + 1)]? = s.byteAt? offset := by
  have hlt : s.size - (offset + 1) < s.cells.length := by
    rw [size] at h ⊢
    omega
  have hback : s.cells.length - 1 - (s.size - (offset + 1)) = offset := by
    rw [size] at h ⊢
    omega
  rw [bytes, List.getElem?_reverse hlt, hback, byteAt?]

end Stack

namespace Checked
variable {σ : Type}

theorem run_add {a b : Nat} (h : a + b < UInt64.size) (st : σ) :
    (add a b).run st = .ok (a + b) st := by
  rw [add, if_pos h]
  rfl

theorem run_mul {a b : Nat} (h : a * b < UInt64.size) (st : σ) :
    (mul a b).run st = .ok (a * b) st := by
  rw [mul, if_pos h]
  rfl

/-- The position that is counted back from the length is inside the row. -/
theorem run_peekByte (s : Stack) {offset : Nat} (h : offset + 1 < UInt64.size) (st : σ) :
    (peekByte s offset).run st = match s.byteAt? offset with
      | some b => .ok b st
      | none => .error (.fault .stackUnderflow) st := by
  rw [peekByte, EStateM.run_bind, run_add h]
  dsimp only
  by_cases hlt : offset + 1 ≤ s.size
  · rw [if_pos hlt, index, Stack.getElem?_bytes hlt]
    cases hb : s.byteAt? offset with
    | none =>
      have := (s.byteAt?_eq_none_iff offset).mp hb
      omega
    | some b => rfl
  · rw [if_neg hlt, (s.byteAt?_eq_none_iff offset).mpr (by omega)]
    rfl

theorem run_peek (s : Stack) {offset : Nat} (h : offset + 2 < UInt64.size) (w : Width) (st : σ) :
    (peek s offset w).run st = match s.valueAt? offset w with
      | some v => .ok v st
      | none => .error (.fault .stackUnderflow) st := by
  cases w with
  | byte =>
    rw [peek, EStateM.run_bind, run_peekByte s (by omega), Stack.valueAt?]
    cases s.byteAt? offset <;> rfl
  | short =>
    rw [peek, EStateM.run_bind, peekShort, EStateM.run_bind, run_peekByte s (by omega),
      Stack.valueAt?, Stack.shortAt?]
    cases s.byteAt? offset with
    | none => rfl
    | some lo =>
      dsimp only
      rw [EStateM.run_bind, run_add (by omega)]
      dsimp only
      rw [EStateM.run_bind, run_peekByte s (by omega)]
      cases s.byteAt? (offset + 1) <;> rfl

/-- What is taken is there, and the row fits into memory. -/
structure Fits (o : Operands) : Prop where
  taken_le : o.taken ≤ o.stack.size
  size_le : o.stack.size ≤ capacity

theorem Fits.ofStack {s : Stack} (h : s.size ≤ capacity) : Fits (.ofStack s) :=
  ⟨Nat.zero_le _, h⟩

theorem Fits.taken_lt {o : Operands} (h : Fits o) : o.taken + 2 < UInt64.size := by
  have hcap : capacity + 2 < UInt64.size := by decide
  have := h.taken_le
  have := h.size_le
  omega

theorem run_pop {o : Operands} (h : Fits o) (w : Width) :
    (pop w).run o = match o.stack.valueAt? o.taken w with
      | some v => .ok v { o with taken := o.taken + w.size }
      | none => .error (.fault .stackUnderflow) o := by
  have hlt := h.taken_lt
  have hw := w.size_le_two
  change (peek o.stack o.taken w >>= fun v => add o.taken v.width.size >>= fun taken =>
    set { o with taken := taken } >>= fun _ => pure v).run o = _
  rw [EStateM.run_bind, run_peek o.stack hlt]
  cases hv : o.stack.valueAt? o.taken w with
  | none => rfl
  | some v =>
    dsimp only
    rw [Stack.width_of_valueAt? hv, EStateM.run_bind, run_add (by omega)]
    rfl

theorem run_popByte {o : Operands} (h : Fits o) :
    popByte.run o = match o.stack.byteAt? o.taken with
      | some b => .ok b { o with taken := o.taken + 1 }
      | none => .error (.fault .stackUnderflow) o := by
  have hlt := h.taken_lt
  change (peekByte o.stack o.taken >>= fun b => add o.taken 1 >>= fun taken =>
    set { o with taken := taken } >>= fun _ => pure b).run o = _
  rw [EStateM.run_bind, run_peekByte o.stack (by omega)]
  cases o.stack.byteAt? o.taken with
  | none => rfl
  | some b =>
    dsimp only
    rw [EStateM.run_bind, run_add (by omega)]
    rfl

/-- A pop takes the value on top of what the instruction sees. -/
theorem run_pop_bind {β : Type} {o : Operands} (h : Fits o) {s : Stack} {w : Width} {a : Value}
    (hs : o.rest = s.push a) (ha : a.width = w) (next : Value → Checked Operands β) :
    ∃ o', (pop w >>= next).run o = (next a).run o' ∧ o'.rest = s ∧ Fits o' ∧
      o'.stack = o.stack := by
  subst ha
  have hsize : o.stack.size - o.taken = s.size + a.width.size := by
    rw [← o.size_rest, hs, Stack.size_push]
  refine ⟨{ o with taken := o.taken + a.width.size }, ?_, Operands.rest_take hs,
    ⟨?_, h.size_le⟩, rfl⟩
  · rw [EStateM.run_bind, run_pop h, Operands.valueAt?_of_rest hs]
  · have := a.width.size_pos
    dsimp only
    omega

theorem run_pop_pop_bind {β : Type} {o : Operands} (h : Fits o) {s : Stack} {w : Width}
    {a b : Value} (hs : o.rest = (s.push a).push b) (ha : a.width = w) (hb : b.width = w)
    (next : Value → Value → Checked Operands β) :
    ∃ o', (do next (← pop w) (← pop w)).run o = (next b a).run o' ∧ o'.rest = s ∧ Fits o' := by
  obtain ⟨o₁, hr₁, hs₁, h₁, -⟩ := run_pop_bind h hs hb fun b' => do next b' (← pop w)
  obtain ⟨o₂, hr₂, hs₂, h₂, -⟩ := run_pop_bind h₁ hs₁ ha (next b)
  exact ⟨o₂, hr₁.trans hr₂, hs₂, h₂⟩

theorem run_append {o : Operands} {bytes : List UInt8}
    (h : o.stack.size + bytes.length ≤ capacity) :
    (append bytes).run o = .ok () { o with stack := o.stack.pushBytes bytes } := by
  change (if o.stack.size + bytes.length ≤ capacity then _ else _ : Checked Operands Unit).run o = _
  rw [if_pos h]
  rfl

theorem run_push_bind {β : Type} {o : Operands} {v : Value}
    (h : (o.rest.push v).size ≤ capacity) (next : Unit → Checked Operands β) :
    (push v >>= next).run o = (next ()).run (.ofStack (o.rest.push v)) := by
  have happend : (append v.bytes).run o.commit = .ok () (.ofStack (o.rest.push v)) := by
    rw [Stack.size_push, ← v.length_bytes] at h
    rw [Stack.push_eq_pushBytes]
    exact run_append h
  change ((append v.bytes) >>= next).run o.commit = _
  rw [EStateM.run_bind, happend]

theorem run_push {o : Operands} {v : Value} (h : (o.rest.push v).size ≤ capacity) :
    (push v).run o = .ok () (.ofStack (o.rest.push v)) := by
  have hbind := run_push_bind h pure
  rwa [bind_pure] at hbind

/-! Too few bytes. -/

/-- With fewer than `n` bytes of operands the program underflows and leaves the stack in place. -/
def Starves {α : Type} (n : Nat) (act : Checked Operands α) : Prop :=
  ∀ o, Fits o → o.rest.size < n →
    ∃ o', act.run o = .error (.fault .stackUnderflow) o' ∧ o'.stack = o.stack

theorem starves_zero {α : Type} (act : Checked Operands α) : Starves 0 act :=
  fun _ _ h => absurd h (Nat.not_lt_zero _)

/-- What a pop takes is not there for what follows. -/
theorem starves_pop {β : Type} {w : Width} {k : Nat} {next : Value → Checked Operands β}
    (hn : ∀ v, Starves k (next v)) : Starves (w.size + k) (pop w >>= next) := by
  intro o ho hlt
  by_cases hw : w.size ≤ o.rest.size
  · obtain ⟨s, a, ha, hs⟩ := Stack.exists_push hw
    obtain ⟨o₁, hr₁, hs₁, h₁, hstack⟩ := run_pop_bind ho hs ha next
    have hrest : o₁.rest.size < k := by
      rw [hs, Stack.size_push, ha] at hlt
      rw [hs₁]
      omega
    obtain ⟨o', hr, hs'⟩ := hn a o₁ h₁ hrest
    exact ⟨o', hr₁.trans hr, hs'.trans hstack⟩
  · have hnone : o.stack.valueAt? o.taken w = none := by
      have := ho.taken_le
      rw [o.size_rest] at hw
      exact (o.stack.valueAt?_eq_none_iff o.taken w).mpr (by omega)
    exact ⟨o, by rw [EStateM.run_bind, run_pop ho, hnone], rfl⟩

theorem starves_pop_pop {β : Type} (w : Width) (next : Value → Value → Checked Operands β) :
    Starves (2 * w.size) (do next (← pop w) (← pop w)) := by
  rw [Nat.two_mul]
  exact starves_pop fun b => starves_pop fun a => starves_zero (next b a)

/-! Ranges of positions. -/

theorem run_span?_of_lt {s : Stack} {width depth : Nat} (hd : width * depth ≤ 8)
    (hlt : s.size < width * depth) :
    (span? width depth).run (.ofStack s) = .ok none (.ofStack s) := by
  have hcap : 8 < UInt64.size := by decide
  rw [span?, EStateM.run_bind, run_mul (by omega)]
  change (if width * depth ≤ s.size then _ else _ : Checked Operands _).run (.ofStack s) = _
  rw [if_neg (Nat.not_le.mpr hlt)]
  rfl

/-- The range of `xs` on a stack where it lies below `ys`. -/
theorem run_span?_pushBytes {s : Stack} {xs ys : List UInt8} {width depth : Nat}
    (hx : xs.length = width) (hd : xs.length + ys.length = width * depth)
    (h : (s.pushBytes (xs ++ ys)).size ≤ capacity) :
    (span? width depth).run (.ofStack (s.pushBytes (xs ++ ys))) =
      .ok (some (s.bytes.length, s.bytes.length + xs.length))
        (.ofStack (s.pushBytes (xs ++ ys))) := by
  have hcap : capacity < UInt64.size := by decide
  have hsize : (s.pushBytes (xs ++ ys)).size = s.bytes.length + width * depth := by
    rw [Stack.size_pushBytes, List.length_append, hd, Stack.length_bytes]
  have hstart : (s.pushBytes (xs ++ ys)).size - width * depth = s.bytes.length := by omega
  rw [span?, EStateM.run_bind, run_mul (by omega)]
  change (if width * depth ≤ (s.pushBytes (xs ++ ys)).size then
    add ((s.pushBytes (xs ++ ys)).size - width * depth) width >>= fun stop =>
      pure (some ((s.pushBytes (xs ++ ys)).size - width * depth, stop))
    else pure none : Checked Operands _).run _ = _
  rw [if_pos (by omega), hstart, EStateM.run_bind, run_add (by omega), hx]
  rfl

theorem run_span_bind {β : Type} {s : Stack} {xs ys : List UInt8} {width depth : Nat}
    (hx : xs.length = width) (hd : xs.length + ys.length = width * depth)
    (h : (s.pushBytes (xs ++ ys)).size ≤ capacity)
    (next : Nat × Nat → Checked Operands β) :
    (span width depth >>= next).run (.ofStack (s.pushBytes (xs ++ ys))) =
      (next (s.bytes.length, s.bytes.length + xs.length)).run
        (.ofStack (s.pushBytes (xs ++ ys))) := by
  rw [span, bind_assoc, EStateM.run_bind, run_span?_pushBytes hx hd h]
  rfl

theorem run_span_top_bind {β : Type} {s : Stack} {a : Value} (h : (s.push a).size ≤ capacity)
    (next : Nat × Nat → Checked Operands β) :
    (span a.width.size 1 >>= next).run (.ofStack (s.push a)) =
      (next (s.bytes.length, s.bytes.length + a.bytes.length)).run (.ofStack (s.push a)) := by
  have hlen : a.bytes.length + ([] : List UInt8).length = a.width.size * 1 := by simp
  rw [Stack.push_eq_pushBytes, ← List.append_nil a.bytes] at h ⊢
  rw [run_span_bind a.length_bytes hlen h, List.append_nil]

theorem run_span_bind_of_lt {β : Type} {s : Stack} {width depth : Nat} (hd : width * depth ≤ 8)
    (hlt : s.size < width * depth) (next : Nat × Nat → Checked Operands β) :
    (span width depth >>= next).run (.ofStack s) =
      .error (.fault .stackUnderflow) (.ofStack s) := by
  rw [span, bind_assoc, EStateM.run_bind, run_span?_of_lt hd hlt]
  rfl

/-- A range found on a stack can be copied after the stack has grown. -/
theorem run_copyWithin {s : Stack} {before bytes after : List UInt8}
    (hs : s.bytes = before ++ (bytes ++ after)) (h : (s.pushBytes bytes).size ≤ capacity) :
    (copyWithin (before.length, before.length + bytes.length)).run (.ofStack s) =
      .ok () (.ofStack (s.pushBytes bytes)) := by
  have hsize : s.size = before.length + (bytes.length + after.length) := by
    rw [← s.length_bytes, hs, List.length_append, List.length_append]
  have hbytes : s.bytes.extract before.length (before.length + bytes.length) = bytes := by
    rw [hs, List.extract_eq_take_drop, List.drop_left, Nat.add_sub_cancel_left, List.take_left]
  rw [Stack.size_pushBytes] at h
  change (if before.length ≤ before.length + bytes.length ∧ before.length + bytes.length ≤ s.size
    then append (s.bytes.extract before.length (before.length + bytes.length))
    else _).run (.ofStack s) = _
  rw [if_pos (by omega), hbytes]
  exact run_append h

theorem run_copyWithin_value {s : Stack} {a : Value} {before after : List UInt8}
    (hs : s.bytes = before ++ (a.bytes ++ after)) (h : (s.push a).size ≤ capacity) :
    (copyWithin (before.length, before.length + a.bytes.length)).run (.ofStack s) =
      .ok () (.ofStack (s.push a)) := by
  rw [Stack.push_eq_pushBytes] at h ⊢
  exact run_copyWithin hs h

/-- An operation with too few bytes underflows and leaves them in place. -/
theorem run_apply_of_lt (keep : Bool) (w : Width) (op : DataOp) {s : Stack}
    (h : s.size ≤ capacity) (hlt : s.size < op.demand keep w) :
    ∃ o, (apply keep w op).run (.ofStack s) = .error (.fault .stackUnderflow) o ∧
      o.stack = s := by
  have hw := w.size_le_two
  cases op with
  | inc =>
    cases keep with
    | false =>
      obtain rfl : s = {} := congrArg Stack.mk (s.size_lt_one_iff.mp hlt)
      exact ⟨_, rfl, rfl⟩
    | true =>
      rw [DataOp.demand, if_pos rfl, ← Nat.mul_one w.size] at hlt
      exact ⟨_, run_span_bind_of_lt (by omega) hlt _, rfl⟩
  | pop => exact starves_pop (fun _ => starves_zero _) _ (.ofStack h) hlt
  | dup =>
    cases keep with
    | false => exact starves_pop (fun _ => starves_zero _) _ (.ofStack h) hlt
    | true =>
      rw [DataOp.demand, ← Nat.mul_one w.size] at hlt
      exact ⟨_, run_span_bind_of_lt (by omega) hlt _, rfl⟩
  | nip | swp | equ | add => exact starves_pop_pop w _ _ (.ofStack h) hlt
  | rot =>
    have hthree : 3 * w.size = w.size + 2 * w.size := by omega
    rw [DataOp.demand, hthree] at hlt
    exact starves_pop (fun c => starves_pop_pop w _) _ (.ofStack h) hlt
  | ovr =>
    rw [DataOp.demand, Nat.mul_comm] at hlt
    exact ⟨_, run_span_bind_of_lt (by omega) hlt _, rfl⟩

/-! Enough bytes. -/

theorem run_restore_bind {β : Type} {keep : Bool} {o : Operands} {a b : Value}
    (h : (if keep then (o.rest.push a).push b else o.rest).size ≤ capacity)
    (next : Unit → Checked Operands β) :
    ∃ o', (restore keep [a, b] >>= next).run o = (next ()).run o' ∧
      o'.rest = if keep then (o.rest.push a).push b else o.rest := by
  cases keep with
  | false => exact ⟨o, rfl, rfl⟩
  | true =>
    refine ⟨.ofStack ((o.rest.push a).push b), ?_, rfl⟩
    change ((push a >>= fun _ => push b >>= fun _ => pure ()) >>= next).run o = _
    rw [bind_assoc, run_push_bind (Nat.le_trans (Stack.size_le_size_push _ b) h), bind_assoc]
    exact run_push_bind (o := .ofStack (o.rest.push a)) h _

theorem length_bytes_append {w : Width} {a b : Value} (ha : a.width = w) (hb : b.width = w) :
    (a.bytes ++ b.bytes).length = 2 * w.size := by
  rw [List.length_append, a.length_bytes, b.length_bytes, ha, hb, Nat.two_mul]

theorem run_copyLayer {w : Width} {s t : Stack} {xs ys : List UInt8}
    (hs : s = t.pushBytes (xs ++ ys)) (hx : xs.length = 2 * w.size)
    (hd : xs.length + ys.length = 2 * w.size * w.size) (h : (s.pushBytes xs).size ≤ capacity) :
    (copyLayer w).run (.ofStack s) = .ok () (.ofStack (s.pushBytes xs)) := by
  have hcap : 4 < UInt64.size := by decide
  have hw := w.size_le_two
  have hfirst : (t.pushBytes (xs ++ ys)).size ≤ capacity := by
    rw [Stack.size_pushBytes, hs] at h
    omega
  subst hs
  rw [copyLayer, EStateM.run_bind, run_mul (by omega)]
  dsimp only
  rw [EStateM.run_bind, run_span?_pushBytes hx hd hfirst]
  exact run_copyWithin (Stack.bytes_pushBytes t (xs ++ ys)) h

theorem run_copyLayer_of_lt {s : Stack} (h : s.size < 8) :
    (copyLayer .short).run (.ofStack s) = .ok () (.ofStack s) := by
  have hspan : (span? (2 * Width.short.size) Width.short.size).run (.ofStack s) =
      .ok none (.ofStack s) := run_span?_of_lt (by decide) h
  rw [copyLayer, EStateM.run_bind, run_mul (by decide)]
  dsimp only
  rw [EStateM.run_bind, hspan]
  rfl

theorem run_apply_ovr (layer : List UInt8) {keep : Bool} {w : Width} {s : Stack} {a b : Value}
    (ha : a.width = w) (hb : b.width = w)
    (hlayer : (if keep then copyLayer w else pure ()).run (.ofStack ((s.push a).push b)) =
      .ok () (.ofStack (((s.push a).push b).pushBytes layer)))
    (h : ((((s.push a).push b).pushBytes layer).push a).size ≤ capacity) :
    (apply keep w .ovr).run (.ofStack ((s.push a).push b)) =
      .ok () (.ofStack ((((s.push a).push b).pushBytes layer).push a)) := by
  have hlen : a.bytes.length + b.bytes.length = w.size * 2 := by
    rw [← List.length_append, length_bytes_append ha hb, Nat.mul_comm]
  have hfirst : ((s.push a).push b).size ≤ capacity := by
    rw [Stack.size_push, Stack.size_pushBytes] at h
    omega
  have hcopy : (copyWithin (s.bytes.length, s.bytes.length + a.bytes.length)).run
      (.ofStack (((s.push a).push b).pushBytes layer)) =
        .ok () (.ofStack ((((s.push a).push b).pushBytes layer).push a)) := by
    have hbytes : (((s.push a).push b).pushBytes layer).bytes =
        s.bytes ++ (a.bytes ++ (b.bytes ++ layer)) := by simp
    exact run_copyWithin_value hbytes h
  have hseq : apply keep w .ovr = span w.size 2 >>= fun second =>
      (if keep then copyLayer w else pure ()) >>= fun _ => copyWithin second := by
    cases keep <;> rfl
  rw [Stack.push_push_eq_pushBytes] at hfirst hlayer hcopy ⊢
  rw [hseq, run_span_bind (a.length_bytes.trans (congrArg _ ha)) hlen hfirst, EStateM.run_bind,
    hlayer]
  exact hcopy

/-- An operation follows its rule if the stack fits before and after. -/
theorem run_apply {keep : Bool} {w : Width} {op : DataOp} {s s' : Stack}
    (h : op.Rewrites keep w s s') (hs : s.size ≤ capacity) (hs' : s'.size ≤ capacity) :
    (apply keep w op).run (.ofStack s) = .ok () (.ofStack s') := by
  have hfits := Fits.ofStack hs
  have hrest := Operands.rest_ofStack s
  cases h with
  | inc t b hk =>
    subst hk
    rfl
  | incKeep t a hk ha =>
    subst hk ha
    have hmid : ((t.push a).push a).size ≤ capacity := by
      rw [Stack.size_push] at hs' ⊢
      cases a <;> exact hs'
    have hbytes : (t.push a).bytes = t.bytes ++ (a.bytes ++ []) := by simp
    have hcopy := run_copyWithin_value hbytes hmid
    change (span a.width.size 1 >>= fun top => copyWithin top >>= fun _ => incrementTop).run _ = _
    rw [run_span_top_bind hs, EStateM.run_bind, hcopy]
    cases a with
    | byte b => rfl
    | short v =>
      have hbump : (t.push (.short v)).push (Value.short v).bump =
          ((t.pushShort v).pushByte (Short.high v)).pushByte (Short.low v + 1) :=
        (t.pushShort v).pushShort_join (Short.high v) (Short.low v + 1)
      rw [hbump]
      rfl
  | pop t a ha =>
    obtain ⟨o, hr, rfl, -⟩ := run_pop_bind hfits hrest ha fun _ => commit
    exact hr
  | nip t a b ha hb =>
    obtain ⟨o, hr, rfl, -⟩ := run_pop_pop_bind hfits hrest ha hb fun b a => do
      restore keep [a, b]
      push b
    obtain ⟨o₁, hr₁, hs₁⟩ := run_restore_bind (a := a) (b := b)
      (Nat.le_trans (Stack.size_le_size_push _ b) hs') fun _ => push b
    rw [← hs₁] at hs' ⊢
    exact (hr.trans hr₁).trans (run_push hs')
  | swp t a b ha hb =>
    obtain ⟨o, hr, rfl, -⟩ := run_pop_pop_bind hfits hrest ha hb fun b a => do
      restore keep [a, b]
      push b
      push a
    have hmid := Nat.le_trans (Stack.size_le_size_push _ a) hs'
    obtain ⟨o₁, hr₁, hs₁⟩ := run_restore_bind (a := a) (b := b)
      (Nat.le_trans (Stack.size_le_size_push _ b) hmid) fun _ => do
        push b
        push a
    rw [← hs₁] at hs' hmid ⊢
    exact ((hr.trans hr₁).trans (run_push_bind hmid _)).trans (run_push hs')
  | rot t a b c ha hb hc =>
    obtain ⟨o₁, hr₁, hs₁, h₁, -⟩ := run_pop_bind hfits hrest hc fun c => do
      let b ← pop w
      let a ← pop w
      push b
      push c
      push a
    obtain ⟨o₂, hr₂, rfl, -⟩ := run_pop_pop_bind h₁ hs₁ ha hb fun b a => do
      push b
      push c
      push a
    have hmid := Nat.le_trans (Stack.size_le_size_push _ a) hs'
    have hfirst := Nat.le_trans (Stack.size_le_size_push _ c) hmid
    exact ((hr₁.trans hr₂).trans (run_push_bind hfirst _)).trans
      ((run_push_bind (o := .ofStack _) hmid _).trans (run_push (o := .ofStack _) hs'))
  | dup t a ha =>
    subst ha
    have hmid := Nat.le_trans (Stack.size_le_size_push _ a) hs'
    cases keep with
    | false =>
      obtain ⟨o, hr, rfl, -⟩ := run_pop_bind hfits hrest rfl fun a => do
        push a
        push a
      exact (hr.trans (run_push_bind hmid _)).trans (run_push (o := .ofStack _) hs')
    | true =>
      have hbytes : (t.push a).bytes = t.bytes ++ (a.bytes ++ []) := by simp
      have hbytes' : ((t.push a).push a).bytes = t.bytes ++ (a.bytes ++ a.bytes) := by simp
      have hfirst := run_copyWithin_value hbytes hmid
      have hsecond := run_copyWithin_value hbytes' hs'
      change (span a.width.size 1 >>= fun top =>
        copyWithin top >>= fun _ => copyWithin top).run _ = _
      rw [run_span_top_bind hs, EStateM.run_bind, hfirst]
      exact hsecond
  | ovr t a b hk ha hb =>
    subst hk
    exact run_apply_ovr [] ha hb rfl hs'
  | ovrKeepByte t a b hk hw ha hb =>
    subst hk hw
    rw [Stack.push_push_eq_pushBytes ((t.push a).push b) a b] at hs' ⊢
    have hstack : (t.push a).push b = t.pushBytes ((a.bytes ++ b.bytes) ++ []) := by
      rw [List.append_nil, Stack.push_push_eq_pushBytes]
    have hlen := length_bytes_append ha hb
    have hlayer := run_copyLayer hstack hlen (by rw [hlen]; rfl)
      (Nat.le_trans (Stack.size_le_size_push _ a) hs')
    exact run_apply_ovr (a.bytes ++ b.bytes) ha hb hlayer hs'
  | ovrKeepShort t a b c d hk hw ha hb hc hd =>
    subst hk hw
    rw [Stack.push_push_eq_pushBytes ((((t.push a).push b).push c).push d) a b] at hs' ⊢
    have hstack : (((t.push a).push b).push c).push d =
        t.pushBytes ((a.bytes ++ b.bytes) ++ (c.bytes ++ d.bytes)) := by
      rw [← Stack.pushBytes_pushBytes, ← Stack.push_push_eq_pushBytes,
        ← Stack.push_push_eq_pushBytes]
    have hlen := length_bytes_append ha hb
    have hlayer := run_copyLayer hstack hlen (by rw [hlen, length_bytes_append hc hd]; rfl)
      (Nat.le_trans (Stack.size_le_size_push _ c) hs')
    exact run_apply_ovr (a.bytes ++ b.bytes) hc hd hlayer hs'
  | ovrShallow t a b hk hw ht ha hb =>
    subst hk hw
    have hlt : ((t.push a).push b).size < 8 := by
      rw [Stack.size_push, Stack.size_push, ha, hb]
      simp only [Width.size]
      omega
    exact run_apply_ovr [] ha hb (run_copyLayer_of_lt hlt) hs'
  | equ t a b ha hb =>
    obtain ⟨o, hr, rfl, -⟩ := run_pop_pop_bind hfits hrest ha hb fun b a =>
      pushByte (if a.toUInt16 = b.toUInt16 then 1 else 0)
    have hbit : (if a = b then 1 else 0 : UInt8) = if a.toUInt16 = b.toUInt16 then 1 else 0 :=
      by simp only [Value.toUInt16_inj (ha.trans hb.symm)]
    rw [hbit] at hs' ⊢
    exact hr.trans (run_push (v := .byte (if a.toUInt16 = b.toUInt16 then 1 else 0)) hs')
  | add t a b ha hb =>
    obtain ⟨o, hr, rfl, -⟩ := run_pop_pop_bind hfits hrest ha hb fun b a => do
      restore keep [a, b]
      push (b + a)
    obtain ⟨o₁, hr₁, hs₁⟩ := run_restore_bind (a := a) (b := b)
      (Nat.le_trans (Stack.size_le_size_push _ (a + b)) hs') fun _ => push (b + a)
    rw [← hs₁, Value.add_comm a b] at hs' ⊢
    exact (hr.trans hr₁).trans (run_push hs')

end Checked

end TwinStack
