import TwinStack.Stack

/-! Sizes, and what is found on a stack that was pushed onto. -/
namespace TwinStack

namespace Stack

@[simp] theorem size_drop (s : Stack) (n : Nat) : (s.drop n).size = s.size - n := by
  simp [size, drop]

@[simp] theorem size_pushBytes (s : Stack) (bs : List UInt8) :
    (s.pushBytes bs).size = s.size + bs.length := by
  simp [size, pushBytes, Nat.add_comm]

@[simp] theorem size_push (s : Stack) (v : Value) : (s.push v).size = s.size + v.width.size := by
  rw [← length_bytes, bytes_push, List.length_append, length_bytes, Value.length_bytes]

theorem drop_drop (s : Stack) (a b : Nat) : (s.drop a).drop b = s.drop (a + b) := by
  simp [drop, List.drop_drop]

theorem byteAt?_eq_none_iff (s : Stack) (offset : Nat) :
    s.byteAt? offset = none ↔ s.size ≤ offset := by
  simp [byteAt?, size]

theorem valueAt?_eq_none_iff (s : Stack) (offset : Nat) (w : Width) :
    s.valueAt? offset w = none ↔ s.size < offset + w.size := by
  cases w with
  | byte =>
    rw [valueAt?, Option.map_eq_none_iff, byteAt?_eq_none_iff]
    exact Nat.lt_succ_iff.symm
  | short =>
    have hlo := s.byteAt?_eq_none_iff offset
    have hhi := s.byteAt?_eq_none_iff (offset + 1)
    rw [valueAt?, Option.map_eq_none_iff, shortAt?, Width.size]
    cases h₀ : s.byteAt? offset with
    | none =>
      have := hlo.mp h₀
      simp only [Option.bind_eq_bind, Option.bind_none, true_iff]
      omega
    | some lo =>
      cases h₁ : s.byteAt? (offset + 1) with
      | none =>
        have := hhi.mp h₁
        simp only [Option.bind_eq_bind, Option.bind_some, Option.bind_none, true_iff]
        omega
      | some hi =>
        have : ¬ s.size ≤ offset + 1 := fun hle => by simp [hhi.mpr hle] at h₁
        simp only [Option.bind_eq_bind, Option.bind_some, Option.pure_def, reduceCtorEq, false_iff]
        omega

theorem shortAt?_eq_none_iff (s : Stack) (offset : Nat) :
    s.shortAt? offset = none ↔ s.size < offset + 2 := by
  have h := s.valueAt?_eq_none_iff offset .short
  rwa [valueAt?, Option.map_eq_none_iff] at h

theorem size_lt_one_iff (s : Stack) : s.size < 1 ↔ s.cells = [] := by
  simp [size]

theorem exists_cells_of_one_le {s : Stack} (h : 1 ≤ s.size) : ∃ b rest, s.cells = b :: rest := by
  apply List.exists_cons_of_ne_nil
  rw [Ne, ← size_lt_one_iff]
  omega

theorem exists_cells_of_two_le {s : Stack} (h : 2 ≤ s.size) :
    ∃ a b rest, s.cells = a :: b :: rest := by
  obtain ⟨a, rest, ha⟩ := exists_cells_of_one_le (Nat.le_of_succ_le h)
  have hr : 1 ≤ (Stack.mk rest).size := by
    rw [size, ha, List.length_cons] at h
    exact Nat.le_of_succ_le_succ h
  obtain ⟨b, rest', hb⟩ := exists_cells_of_one_le hr
  exact ⟨a, b, rest', by rw [ha]; exact congrArg _ hb⟩

theorem valueAt?_push (s : Stack) (v : Value) : (s.push v).valueAt? 0 v.width = some v := by
  cases v with
  | byte b => rfl
  | short v =>
    have h : (s.pushShort v).valueAt? 0 .short =
        some (.short (Short.join (Short.high v) (Short.low v))) := rfl
    rw [Short.join_high_low] at h
    exact h

theorem drop_push (s : Stack) (v : Value) : (s.push v).drop v.width.size = s := by
  cases v <;> rfl

theorem byteAt?_drop (s : Stack) (n offset : Nat) :
    (s.drop n).byteAt? offset = s.byteAt? (n + offset) := by
  simp [byteAt?, drop]

theorem shortAt?_drop (s : Stack) (n offset : Nat) :
    (s.drop n).shortAt? offset = s.shortAt? (n + offset) := by
  rw [shortAt?, byteAt?_drop, byteAt?_drop]
  rfl

theorem valueAt?_drop (s : Stack) (n offset : Nat) (w : Width) :
    (s.drop n).valueAt? offset w = s.valueAt? (n + offset) w := by
  cases w with
  | byte => rw [valueAt?, byteAt?_drop, valueAt?]
  | short => rw [valueAt?, shortAt?_drop, valueAt?]

theorem push_eq_pushBytes (s : Stack) (v : Value) : s.push v = s.pushBytes v.bytes := by
  ext1
  simp

theorem pushBytes_pushBytes (s : Stack) (xs ys : List UInt8) :
    (s.pushBytes xs).pushBytes ys = s.pushBytes (xs ++ ys) := by
  ext1
  simp

theorem span?_pushBytes (s : Stack) (xs ys : List UInt8) (width depth : Nat)
    (hx : xs.length = width) (h : xs.length + ys.length = width * depth) :
    (s.pushBytes (xs ++ ys)).span? width depth = some xs := by
  have hsize : width * depth ≤ (s.pushBytes (xs ++ ys)).size := by
    rw [size_pushBytes, List.length_append]
    omega
  have htop : (s.pushBytes (xs ++ ys)).cells.take (width * depth) = (xs ++ ys).reverse := by
    rw [pushBytes, ← h, ← List.length_append, ← List.length_reverse, List.take_left]
  rw [span?, if_pos hsize, htop, List.reverse_reverse, ← hx, List.take_left]

theorem span?_push (s : Stack) (a : Value) :
    (s.push a).span? a.width.size 1 = some a.bytes := by
  have h := s.span?_pushBytes a.bytes [] a.width.size 1 a.length_bytes (by simp)
  rwa [List.append_nil, ← push_eq_pushBytes] at h

theorem span?_push_push (s : Stack) {w : Width} {a b : Value} (ha : a.width = w)
    (hb : b.width = w) : ((s.push a).push b).span? w.size 2 = some a.bytes := by
  subst ha
  have hlen : a.bytes.length + b.bytes.length = a.width.size * 2 := by
    rw [a.length_bytes, b.length_bytes, hb, Nat.mul_two]
  have h := s.span?_pushBytes a.bytes b.bytes a.width.size 2 a.length_bytes hlen
  rwa [← pushBytes_pushBytes, ← push_eq_pushBytes, ← push_eq_pushBytes] at h

/-- What `ovr` copies in keep mode, over `ys` bytes that it leaves out. -/
theorem span?_layer (s : Stack) {w : Width} {a b : Value} (ha : a.width = w) (hb : b.width = w)
    (ys : List UInt8) (h : 2 * w.size + ys.length = 2 * w.size * w.size) :
    (((s.push a).push b).pushBytes ys).span? (2 * w.size) w.size = some (a.bytes ++ b.bytes) := by
  have hlen : (a.bytes ++ b.bytes).length = 2 * w.size := by
    rw [List.length_append, a.length_bytes, b.length_bytes, ha, hb, Nat.two_mul]
  rw [push_eq_pushBytes, push_eq_pushBytes, pushBytes_pushBytes, pushBytes_pushBytes,
    ← List.append_assoc]
  exact s.span?_pushBytes _ ys _ _ hlen (by rw [hlen, h])

theorem pushShort_join (s : Stack) (hi lo : UInt8) :
    s.pushShort (Short.join hi lo) = (s.pushByte hi).pushByte lo := by
  rw [pushShort, Short.high_join, Short.low_join]

/-- A stack with enough bytes has a value of a given width on top. -/
theorem exists_push {s : Stack} {w : Width} (h : w.size ≤ s.size) :
    ∃ (t : Stack) (v : Value), v.width = w ∧ s = t.push v := by
  cases w with
  | byte =>
    obtain ⟨b, rest, hc⟩ := exists_cells_of_one_le h
    exact ⟨⟨rest⟩, .byte b, rfl, congrArg mk hc⟩
  | short =>
    obtain ⟨lo, hi, rest, hc⟩ := exists_cells_of_two_le h
    refine ⟨⟨rest⟩, .short (Short.join hi lo), rfl, ?_⟩
    rw [push, pushShort_join]
    exact congrArg mk hc

theorem exists_push_push {s : Stack} {w : Width} (h : 2 * w.size ≤ s.size) :
    ∃ (t : Stack) (a b : Value), a.width = w ∧ b.width = w ∧ s = (t.push a).push b := by
  obtain ⟨u, b, hb, rfl⟩ := exists_push (s := s) (w := w) (by omega)
  rw [size_push, hb] at h
  obtain ⟨t, a, ha, rfl⟩ := exists_push (s := u) (w := w) (by omega)
  exact ⟨t, a, b, ha, hb, rfl⟩

end Stack

end TwinStack
