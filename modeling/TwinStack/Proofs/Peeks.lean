import TwinStack.Proofs.CheckedOperands
import TwinStack.Proofs.Pops

/-! Peeks at 64-bit offsets. A peek tells what a pop would give after as many bytes were popped as
the offset says. Only the greatest offset traps, where the depth counted from one leaves the
words. -/
namespace TwinStack

theorem checkedAdd_of_lt {a b : UInt64} (h : a.toNat + b.toNat < UInt64.size) :
    checkedAdd a b = .ok (a + b) :=
  if_pos h

theorem checkedAdd_one_of_eq {offset : UInt64} (h : offset.toNat + 1 = UInt64.size) :
    checkedAdd offset 1 = .error .addOverflow :=
  (checkedAdd_eq_error_iff offset 1).mpr (Nat.le_of_eq h.symm)

theorem add_one_lt_or_eq (offset : UInt64) :
    offset.toNat + 1 < UInt64.size ∨ offset.toNat + 1 = UInt64.size :=
  Nat.lt_or_eq_of_le offset.toNat_lt

theorem toNat_add_one_of_lt {offset : UInt64} (h : offset.toNat + 1 < UInt64.size) :
    (offset + 1).toNat = offset.toNat + 1 := by
  rw [UInt64.toNat_add]
  exact Nat.mod_eq_of_lt h

section MapError
variable {α β : Type}

theorem mapError_ok_bind {ε ε' : Type} (f : ε → ε') (a : α) (next : α → Except ε' β) :
    ((Except.ok a : Except ε α).mapError f >>= next) = next a := rfl

theorem mapError_fault_ne_trap (x : Except Fault α) (trap : Trap) :
    x.mapError Failure.fault ≠ .error (.trap trap) := by
  cases x with
  | ok a => exact nofun
  | error fault => exact nofun

theorem mapError_fault_eq_iff (x : Except Fault α) (fault : Fault) :
    x.mapError Failure.fault = .error (.fault fault) ↔ x = .error fault := by
  cases x with
  | ok a => exact ⟨nofun, nofun⟩
  | error e =>
    constructor
    · intro h
      obtain rfl : e = fault := Failure.fault.inj (Except.error.inj h)
      rfl
    · intro h
      rw [h]
      rfl

end MapError

namespace Stack
variable {s : Stack} {offset : UInt64}

theorem peekByte_of_eq (h : offset.toNat + 1 = UInt64.size) :
    s.peekByte offset = .error (.trap .addOverflow) := by
  rw [peekByte, checkedAdd_one_of_eq h]
  rfl

theorem peekShort_of_eq (h : offset.toNat + 1 = UInt64.size) :
    s.peekShort offset = .error (.trap .addOverflow) := by
  rw [peekShort, peekByte_of_eq h]
  rfl

theorem peekByte_of_lt (h : offset.toNat + 1 < UInt64.size) :
    s.peekByte offset = match s.byteAt? offset.toNat with
      | some b => .ok b
      | none => .error (.fault .stackUnderflow) := by
  have hdepth : (offset + 1).toNat - 1 = offset.toNat := by
    rw [toNat_add_one_of_lt h, Nat.add_sub_cancel]
  rw [peekByte, checkedAdd_of_lt h, mapError_ok_bind, hdepth]
  cases s.byteAt? offset.toNat <;> rfl

/-- If the low byte is there, its offset is so far from the greatest that the additions for the high
byte cannot overflow. -/
theorem add_two_lt_of_lt_size (hs : s.size ≤ Checked.capacity) (h : offset.toNat < s.size) :
    offset.toNat + 2 < UInt64.size := by
  have hcap : Checked.capacity + 1 < UInt64.size := by decide
  omega

theorem peekShort_of_lt (hs : s.size ≤ Checked.capacity) (h : offset.toNat + 1 < UInt64.size) :
    s.peekShort offset = match s.shortAt? offset.toNat with
      | some v => .ok v
      | none => .error (.fault .stackUnderflow) := by
  rw [peekShort, peekByte_of_lt h, shortAt?]
  cases hlo : s.byteAt? offset.toNat with
  | none => rfl
  | some lo =>
    -- The low byte is there, so the second peek does not reach the greatest offset.
    have hlt : offset.toNat < s.size := Nat.lt_of_not_le fun hle => by
      simp [(s.byteAt?_eq_none_iff _).mpr hle] at hlo
    have hnext := toNat_add_one_of_lt h
    have hfits : (offset + 1).toNat + 1 < UInt64.size := by
      rw [hnext]
      exact add_two_lt_of_lt_size hs hlt
    change ((checkedAdd offset 1).mapError .trap >>= fun next =>
      s.peekByte next >>= fun hi => pure (Short.join hi lo)) = _
    rw [checkedAdd_of_lt h, mapError_ok_bind, peekByte_of_lt hfits, hnext]
    cases s.byteAt? (offset.toNat + 1) <;> rfl

theorem peekByte_eq_attempt (h : offset.toNat + 1 < UInt64.size) :
    s.peekByte offset = (attempt popByte (s.drop offset.toNat)).1.mapError .fault := by
  rw [peekByte_of_lt h, attempt, run_popByte, byteAt?_drop, Nat.add_zero]
  cases s.byteAt? offset.toNat <;> rfl

theorem peekShort_eq_attempt (hs : s.size ≤ Checked.capacity)
    (h : offset.toNat + 1 < UInt64.size) :
    s.peekShort offset = (attempt popShort (s.drop offset.toNat)).1.mapError .fault := by
  rw [peekShort_of_lt hs h, attempt, run_popShort, shortAt?_drop, Nat.add_zero]
  cases s.shortAt? offset.toNat <;> rfl

theorem attempts_popByte {n : Nat} (h : n ≤ s.size) :
    attempts (List.replicate n popByte) s = ((s.cells.take n).map .ok, s.drop n) := by
  induction n generalizing s with
  | zero => rfl
  | succ n ih =>
    obtain ⟨b, rest, hcells⟩ := exists_cells_of_one_le (Nat.le_trans (Nat.le_add_left 1 n) h)
    obtain rfl : s = pushByte ⟨rest⟩ b := congrArg mk hcells
    rw [List.replicate_succ, attempts_cons_of_ok (run_popByte_pushByte _ b),
      ih (Nat.le_of_succ_le_succ h)]
    rfl

/-- The peek foresees a pop of `n` bytes: it gives what the pop would give after `offset` bytes
were popped one by one. If there are not so many it underflows, and it traps at the greatest offset
alone. -/
structure Foresees {α : Type} (s : Stack) (offset : UInt64) (n : Nat) (pop : EStateM Fault Stack α)
    (peeked : Except Failure α) : Prop where
  trap_iff (trap : Trap) :
    peeked = .error (.trap trap) ↔ trap = .addOverflow ∧ offset.toNat + 1 = UInt64.size
  underflow_iff : offset.toNat + 1 < UInt64.size →
    (peeked = .error (.fault .stackUnderflow) ↔ s.size < offset.toNat + n)
  eq_pop : offset.toNat ≤ s.size → ∃ (bytes : List UInt8) (t : Stack),
    attempts (List.replicate offset.toNat popByte) s = (bytes.map .ok, t) ∧
      peeked = (attempt pop t).1.mapError .fault

theorem foresees_of_eq {α : Type} {n : Nat} {pop : EStateM Fault Stack α}
    {peeked : Except Failure α} (hs : s.size ≤ Checked.capacity) (hn : 0 < n)
    (hpop : FailsBelow n pop)
    (htrap : offset.toNat + 1 = UInt64.size → peeked = .error (.trap .addOverflow))
    (heq : offset.toNat + 1 < UInt64.size →
      peeked = (attempt pop (s.drop offset.toNat)).1.mapError .fault) :
    s.Foresees offset n pop peeked := by
  refine ⟨fun trap => ?_, fun hlt => ?_, fun hsize => ?_⟩
  · obtain hlt | hmax := add_one_lt_or_eq offset
    · rw [heq hlt]
      constructor
      · intro h
        exact (mapError_fault_ne_trap _ trap h).elim
      · rintro ⟨-, hmax⟩
        exact absurd hmax (Nat.ne_of_lt hlt)
    · simp [htrap hmax, hmax, eq_comm]
  · have hdrop : (s.drop offset.toNat).size < n ↔ s.size < offset.toNat + n := by
      rw [size_drop]
      omega
    rw [heq hlt, mapError_fault_eq_iff, hpop.attempt_eq_error_iff, hdrop]
    simp
  · have hcap : Checked.capacity + 1 < UInt64.size := by decide
    exact ⟨_, _, attempts_popByte hsize, heq (by omega)⟩

end Stack

namespace Checked
variable {σ : Type}

/-- Counted back from the length in machine words, the byte is found where the peek says, and the
state is left as it is. -/
theorem attempt_peekByte (s : Stack) (offset : UInt64) (st : σ) :
    attempt (peekByte s offset.toNat) st = (s.peekByte offset, st) := by
  obtain hlt | hmax := add_one_lt_or_eq offset
  · rw [attempt, run_peekByte s hlt, Stack.peekByte_of_lt hlt]
    cases s.byteAt? offset.toNat <;> rfl
  · have hadd : (add offset.toNat 1 : Checked σ Nat) = throw (.trap .addOverflow) :=
      if_neg (by omega)
    rw [peekByte, hadd, Stack.peekByte_of_eq hmax]
    rfl

theorem attempt_peekShort (s : Stack) (offset : UInt64) (st : σ) :
    attempt (peekShort s offset.toNat) st = (s.peekShort offset, st) := by
  rw [peekShort, attempt_bind, attempt_peekByte]
  obtain hlt | hmax := add_one_lt_or_eq offset
  · rw [Stack.peekShort]
    cases s.peekByte offset with
    | error failure => rfl
    | ok lo =>
      dsimp only
      rw [attempt_bind, attempt_of_ok (run_add hlt st), ← toNat_add_one_of_lt hlt]
      dsimp only
      rw [attempt_bind, attempt_peekByte, checkedAdd_of_lt hlt]
      change _ = (s.peekByte (offset + 1) >>= fun hi => pure (Short.join hi lo), st)
      cases s.peekByte (offset + 1) <;> rfl
  · rw [Stack.peekByte_of_eq hmax, Stack.peekShort_of_eq hmax]

end Checked

namespace Stack

/-- Peeks agree with pops at every offset. Where the low byte of a short is found, neither addition
for its high byte overflows; at the last offset but one the low byte is already missing. Worked out
in machine words, a peek gives the same and leaves the stack as it is. -/
theorem peeks_agree_with_pops (s : Stack) (offset : UInt64) (hs : s.size ≤ Checked.capacity) :
    s.Foresees offset 1 popByte (s.peekByte offset) ∧
    s.Foresees offset 2 popShort (s.peekShort offset) ∧
    (∀ lo, s.peekByte offset = .ok lo → ∃ next depth,
      checkedAdd offset 1 = .ok next ∧ checkedAdd next 1 = .ok depth) ∧
    (offset.toNat + 2 = UInt64.size → s.peekByte offset = .error (.fault .stackUnderflow)) ∧
    attempt (do Checked.peekByte (← get) offset.toNat) s = (s.peekByte offset, s) ∧
    attempt (do Checked.peekShort (← get) offset.toNat) s = (s.peekShort offset, s) := by
  have hbyte : s.Foresees offset 1 popByte (s.peekByte offset) :=
    foresees_of_eq hs Nat.one_pos failsBelow_popByte peekByte_of_eq peekByte_eq_attempt
  have hshort : s.Foresees offset 2 popShort (s.peekShort offset) :=
    foresees_of_eq hs Nat.two_pos failsBelow_popShort peekShort_of_eq (peekShort_eq_attempt hs)
  refine ⟨hbyte, hshort, fun lo hlo => ?_, fun hoffset => ?_,
    Checked.attempt_peekByte s offset s, Checked.attempt_peekShort s offset s⟩
  · have hlt : offset.toNat + 1 < UInt64.size :=
      Nat.lt_of_le_of_ne offset.toNat_lt fun hmax => by simp [peekByte_of_eq hmax] at hlo
    have hsize : offset.toNat < s.size := Nat.lt_of_not_le fun hle => by
      simp [(hbyte.underflow_iff hlt).mpr (Nat.lt_succ_of_le hle)] at hlo
    refine ⟨_, _, checkedAdd_of_lt hlt, checkedAdd_of_lt ?_⟩
    rw [toNat_add_one_of_lt hlt]
    exact add_two_lt_of_lt_size hs hsize
  · have hcap : Checked.capacity + 2 < UInt64.size := by decide
    exact (hbyte.underflow_iff (by omega)).mpr (by omega)

/-- The short beneath the top of three bytes is the one that can be popped after it. The last two
offsets there are give an underflow and a trap. -/
theorem peeks_agree_with_pops_three :
    attempts [popByte] (.ofBytes [0x12, 0x34, 0x56]) = ([.ok 0x56], .ofBytes [0x12, 0x34]) ∧
    peekShort (.ofBytes [0x12, 0x34, 0x56]) 1 =
      (attempt popShort (.ofBytes [0x12, 0x34])).1.mapError .fault ∧
    peekByte (.ofBytes [0x12, 0x34, 0x56]) 0xfffffffffffffffe = .error (.fault .stackUnderflow) ∧
    peekShort (.ofBytes [0x12, 0x34, 0x56]) 0xffffffffffffffff = .error (.trap .addOverflow) := by
  obtain ⟨-, hone, -⟩ := peeks_agree_with_pops (.ofBytes [0x12, 0x34, 0x56]) 1 (by decide)
  obtain ⟨-, -, -, hlast, -⟩ :=
    peeks_agree_with_pops (.ofBytes [0x12, 0x34, 0x56]) 0xfffffffffffffffe (by decide)
  obtain ⟨-, hmax, -⟩ :=
    peeks_agree_with_pops (.ofBytes [0x12, 0x34, 0x56]) 0xffffffffffffffff (by decide)
  obtain ⟨bytes, t, hpops, hpeek⟩ := hone.eq_pop (by decide)
  obtain rfl : .ofBytes [0x12, 0x34] = t := congrArg Prod.snd hpops
  exact ⟨rfl, hpeek, hlast (by decide), (hmax.trap_iff .addOverflow).mpr ⟨rfl, by decide⟩⟩

end Stack

end TwinStack
