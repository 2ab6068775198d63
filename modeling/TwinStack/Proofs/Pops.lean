import TwinStack.Proofs.Stack

/-! Pushes and pops undo one another. Values of either width lie on a stack as plain bytes, so
values pushed at one width may be popped at another, and what the pops give depends on the bytes
alone. -/
namespace TwinStack

section Attempts
variable {ε σ α β : Type}

/-- What a program gives and what it leaves, also if it fails. -/
def attempt (act : EStateM ε σ α) (st : σ) : Except ε α × σ :=
  match act.run st with
  | .ok a st' => (.ok a, st')
  | .error e st' => (.error e, st')

/-- Runs programs one after another, each on what the one before it left, even if that one failed:
what they give, and what the last one leaves. -/
def attempts : List (EStateM ε σ α) → σ → List (Except ε α) × σ
  | [], st => ([], st)
  | act :: acts, st =>
    let first := attempt act st
    let others := attempts acts first.2
    (first.1 :: others.1, others.2)

theorem attempt_of_ok {act : EStateM ε σ α} {st st' : σ} {a : α} (h : act.run st = .ok a st') :
    attempt act st = (.ok a, st') := by
  rw [attempt, h]

theorem attempt_of_error {act : EStateM ε σ α} {st st' : σ} {e : ε}
    (h : act.run st = .error e st') : attempt act st = (.error e, st') := by
  rw [attempt, h]

theorem attempt_bind (act : EStateM ε σ α) (next : α → EStateM ε σ β) (st : σ) :
    attempt (act >>= next) st = match attempt act st with
      | (.ok a, st') => attempt (next a) st'
      | (.error e, st') => (.error e, st') := by
  rw [attempt, EStateM.run_bind, attempt]
  cases act.run st <;> rfl

theorem attempt_map (f : α → β) (act : EStateM ε σ α) (st : σ) :
    attempt (do return f (← act)) st = ((attempt act st).1.map f, (attempt act st).2) := by
  rw [attempt_bind, attempt]
  cases act.run st <;> rfl

theorem attempts_cons_of_ok {act : EStateM ε σ α} {st st' : σ} {a : α}
    (h : act.run st = .ok a st') (acts : List (EStateM ε σ α)) :
    attempts (act :: acts) st = (.ok a :: (attempts acts st').1, (attempts acts st').2) := by
  rw [attempts, attempt_of_ok h]

theorem attempts_append (xs ys : List (EStateM ε σ α)) (st : σ) :
    attempts (xs ++ ys) st = ((attempts xs st).1 ++ (attempts ys (attempts xs st).2).1,
      (attempts ys (attempts xs st).2).2) := by
  induction xs generalizing st with
  | nil => rfl
  | cons act xs ih => rw [List.cons_append, attempts, ih, attempts, List.cons_append]

theorem getElem?_attempts (acts : List (EStateM ε σ α)) (st : σ) (k : Nat) :
    (attempts acts st).1[k]? =
      acts[k]?.map fun act => (attempt act (attempts (acts.take k) st).2).1 := by
  induction acts generalizing st k with
  | nil => rfl
  | cons act acts ih =>
    cases k with
    | zero => rfl
    | succ k => exact ih (attempt act st).2 k

end Attempts

namespace Stack

/-! One pop. -/

/-- The result of a pop that has looked for its value in the top `n` bytes. -/
def popped {α : Type} (s : Stack) (n : Nat) : Option α → EStateM.Result Fault Stack α
  | some a => .ok a (s.drop n)
  | none => .error .stackUnderflow s

theorem run_popByte (s : Stack) : popByte.run s = s.popped 1 (s.byteAt? 0) := by
  obtain ⟨cells⟩ := s
  cases cells <;> rfl

theorem run_popShort (s : Stack) : popShort.run s = s.popped 2 (s.shortAt? 0) := by
  obtain ⟨cells⟩ := s
  match cells with
  | [] => rfl
  | [_] => rfl
  | _ :: _ :: _ => rfl

theorem run_pop (w : Width) (s : Stack) : (pop w).run s = s.popped w.size (s.valueAt? 0 w) := by
  cases w with
  | byte =>
    rw [pop, EStateM.run_bind, run_popByte, valueAt?]
    cases s.byteAt? 0 <;> rfl
  | short =>
    rw [pop, EStateM.run_bind, run_popShort, valueAt?]
    cases s.shortAt? 0 <;> rfl

/-- The pop fails exactly on fewer than `n` bytes; it underflows then, and leaves them in place. -/
def FailsBelow {α : Type} (n : Nat) (act : EStateM Fault Stack α) : Prop :=
  ∀ s fault t, act.run s = .error fault t ↔ fault = .stackUnderflow ∧ t = s ∧ s.size < n

theorem failsBelow_of_run_eq {α : Type} {n : Nat} {act : EStateM Fault Stack α}
    {read : Stack → Option α} (hrun : ∀ s, act.run s = s.popped n (read s))
    (hread : ∀ s, read s = none ↔ s.size < n) : FailsBelow n act := by
  intro s fault t
  rw [hrun, ← hread]
  cases read s with
  | none => simp [popped, eq_comm]
  | some a => simp [popped]

theorem FailsBelow.attempt_eq_error_iff {α : Type} {n : Nat} {act : EStateM Fault Stack α}
    (h : FailsBelow n act) (s : Stack) (fault : Fault) :
    (attempt act s).1 = .error fault ↔ fault = .stackUnderflow ∧ s.size < n := by
  constructor
  · intro he
    cases hr : act.run s with
    | ok a t =>
      rw [attempt_of_ok hr] at he
      cases he
    | error e t =>
      rw [attempt_of_error hr] at he
      obtain ⟨hfault, -, hlt⟩ := (h s e t).mp hr
      exact ⟨(Except.error.inj he).symm.trans hfault, hlt⟩
  · rintro ⟨rfl, hlt⟩
    rw [attempt_of_error ((h s _ s).mpr ⟨rfl, rfl, hlt⟩)]

theorem failsBelow_popByte : FailsBelow 1 popByte :=
  failsBelow_of_run_eq run_popByte fun s =>
    (s.byteAt?_eq_none_iff 0).trans Nat.lt_succ_iff.symm

theorem failsBelow_popShort : FailsBelow 2 popShort :=
  failsBelow_of_run_eq run_popShort fun s => s.shortAt?_eq_none_iff 0

theorem failsBelow_pop (w : Width) : FailsBelow w.size (pop w) :=
  failsBelow_of_run_eq (run_pop w) fun s => by
    rw [s.valueAt?_eq_none_iff 0 w, Nat.zero_add]

theorem run_pop_cases (w : Width) (s : Stack) :
    (∃ (t : Stack) (v : Value), v.width = w ∧ s = t.push v ∧ (pop w).run s = .ok v t) ∨
      (pop w).run s = .error .stackUnderflow s := by
  by_cases h : w.size ≤ s.size
  · obtain ⟨t, v, rfl, rfl⟩ := exists_push h
    exact .inl ⟨t, v, rfl, rfl, run_pop_push t v⟩
  · exact .inr ((failsBelow_pop w _ _ _).mpr ⟨rfl, rfl, Nat.lt_of_not_le h⟩)

/-! Many pushes, many pops. -/

/-- Pushes values in order, the last one on top. -/
def pushAll (s : Stack) (vs : List Value) : Stack :=
  vs.foldl push s

theorem bytes_pushAll (s : Stack) (vs : List Value) :
    (s.pushAll vs).bytes = s.bytes ++ vs.flatMap Value.bytes := by
  induction vs generalizing s with
  | nil => simp [pushAll]
  | cons v vs ih =>
    have h : s.pushAll (v :: vs) = (s.push v).pushAll vs := rfl
    rw [h, ih, bytes_push, List.flatMap_cons, List.append_assoc]

theorem pushAll_reverse_cons (s : Stack) (v : Value) (vs : List Value) :
    s.pushAll (v :: vs).reverse = (s.pushAll vs.reverse).push v := by
  rw [pushAll, List.reverse_cons, List.foldl_append]
  rfl

/-- Here `vs` lists the values from the top, in the order in which they are popped. -/
theorem attempts_pop_pushAll (s : Stack) (vs : List Value) :
    attempts (vs.map fun v => pop v.width) (s.pushAll vs.reverse) = (vs.map .ok, s) := by
  induction vs with
  | nil => rfl
  | cons v vs ih =>
    rw [pushAll_reverse_cons, List.map_cons, attempts_cons_of_ok (run_pop_push _ v), ih,
      List.map_cons]

theorem eq_pushAll_of_attempts_pop {ws : List Width} {vs : List Value} {s t : Stack}
    (h : attempts (ws.map pop) s = (vs.map .ok, t)) :
    vs.map Value.width = ws ∧ t.pushAll vs.reverse = s := by
  induction ws generalizing s vs with
  | nil =>
    obtain ⟨hvs, rfl⟩ := Prod.mk.inj h
    obtain rfl : vs = [] := List.map_eq_nil_iff.mp hvs.symm
    exact ⟨rfl, rfl⟩
  | cons w ws ih =>
    obtain ⟨u, v, hv, rfl, hr⟩ | hr := run_pop_cases w s
    · rw [List.map_cons, attempts_cons_of_ok hr] at h
      obtain ⟨hvs, ht⟩ := Prod.mk.inj h
      obtain ⟨v', vs', rfl, hv', hvs'⟩ := List.map_eq_cons_iff.mp hvs.symm
      obtain rfl : v' = v := Except.ok.inj hv'
      obtain ⟨hws, hu⟩ := ih (Prod.ext hvs'.symm ht)
      -- What was popped first is pushed back last.
      refine ⟨by rw [List.map_cons, hv, hws], ?_⟩
      rw [pushAll_reverse_cons, hu]
    · rw [List.map_cons, attempts, attempt_of_error hr] at h
      obtain ⟨v', vs', rfl, hv', -⟩ := List.map_eq_cons_iff.mp (Prod.mk.inj h).1.symm
      cases hv'

/-- A pop fails if those before it, whether they failed or not, leave too few bytes for it. -/
theorem getElem?_attempts_pop_eq_error_iff (s : Stack) (ws : List Width) (k : Nat) (fault : Fault) :
    (attempts (ws.map pop) s).1[k]? = some (.error fault) ↔ fault = .stackUnderflow ∧
      ∃ w, ws[k]? = some w ∧ (attempts ((ws.take k).map pop) s).2.size < w.size := by
  rw [getElem?_attempts, List.getElem?_map, ← List.map_take]
  cases ws[k]? with
  | none => simp
  | some w => simp [(failsBelow_pop w).attempt_eq_error_iff]

/-- Pushes and pops undo one another. Values pushed in order are popped in reverse order, each at
its own width, and values popped can be pushed back. A pop fails if the bytes left are fewer than
its width, and then it takes none. How the bytes came onto the stack makes no difference to later
pops. -/
theorem pushes_and_pops_invert (s : Stack) :
    (∀ vs : List Value, attempts (vs.reverse.map fun v => pop v.width) (s.pushAll vs) =
      (vs.reverse.map .ok, s)) ∧
    (∀ (ws : List Width) (vs : List Value) (t : Stack),
      attempts (ws.map pop) s = (vs.map .ok, t) →
        vs.map Value.width = ws ∧ t.pushAll vs.reverse = s) ∧
    (∀ (ws : List Width) (k : Nat) (fault : Fault),
      (attempts (ws.map pop) s).1[k]? = some (.error fault) ↔ fault = .stackUnderflow ∧
        ∃ w, ws[k]? = some w ∧ (attempts ((ws.take k).map pop) s).2.size < w.size) ∧
    (FailsBelow 1 popByte ∧ FailsBelow 2 popShort ∧ ∀ w, FailsBelow w.size (pop w)) ∧
    ∀ us vs : List Value, us.flatMap Value.bytes = vs.flatMap Value.bytes → ∀ ws : List Width,
      attempts (ws.map pop) (s.pushAll us) = attempts (ws.map pop) (s.pushAll vs) := by
  refine ⟨fun vs => ?_, fun ws vs t => eq_pushAll_of_attempts_pop,
    s.getElem?_attempts_pop_eq_error_iff,
    ⟨failsBelow_popByte, failsBelow_popShort, failsBelow_pop⟩, fun us vs h ws => ?_⟩
  · have hpop := s.attempts_pop_pushAll vs.reverse
    rwa [List.reverse_reverse] at hpop
  · have hsame : s.pushAll us = s.pushAll vs := by
      ext1
      rw [bytes_pushAll, bytes_pushAll, h]
    rw [hsame]

/-- Two bytes and a short are the same four bytes as two shorts. They are popped as such, over a
byte that lies beneath them and is not enough for one more short. -/
theorem pushes_and_pops_invert_mixed :
    attempts [pop .short, pop .byte, pop .byte]
        (pushAll (.ofBytes [0xff]) [.byte 0x12, .byte 0x34, .short 0x5678]) =
      ([.ok (.short 0x5678), .ok (.byte 0x34), .ok (.byte 0x12)], .ofBytes [0xff]) ∧
    pushAll (.ofBytes []) [.byte 0xff, .short 0x1234] = .ofBytes [0xff, 0x12, 0x34] ∧
    attempts [pop .short, pop .short, pop .short, pop .byte]
        (pushAll (.ofBytes [0xff]) [.byte 0x12, .byte 0x34, .short 0x5678]) =
      ([.ok (.short 0x5678), .ok (.short 0x1234), .error .stackUnderflow, .ok (.byte 0xff)],
        {}) := by
  obtain ⟨hpop, -, -, -, hsame⟩ := pushes_and_pops_invert (.ofBytes [0xff])
  obtain ⟨-, hpush, -⟩ := pushes_and_pops_invert (.ofBytes [0xff, 0x12, 0x34])
  refine ⟨hpop [.byte 0x12, .byte 0x34, .short 0x5678],
    (hpush [.short, .byte] [.short 0x1234, .byte 0xff] {} rfl).2, ?_⟩
  exact (hsame [.byte 0x12, .byte 0x34, .short 0x5678] [.short 0x1234, .short 0x5678] rfl
    [.short, .short, .short, .byte]).trans rfl

end Stack

end TwinStack
