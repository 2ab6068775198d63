import TwinStack.Text.Hex
import TwinStack.Text.Utf8

/-! Hexadecimal text as bytes. A byte is written as the digits of its two halves, and a position as
the digits that denote it, at least four of them. -/
namespace TwinStack

theorem Text.utf8_ofList (cs : List Char) :
    utf8 (String.ofList cs) = cs.flatMap String.utf8EncodeChar := by
  rw [utf8, String.toList_ofList]

namespace Hex

/-- The byte that stands for a digit, in lower case. -/
def digit (d : Nat) : UInt8 :=
  UInt8.ofNat (if d < 10 then 0x30 + d else 0x57 + d)

/-- The number that digits denote, the highest first. -/
def value (digits : List Nat) : Nat :=
  digits.foldl (fun n d => 16 * n + d) 0

/-- The digits of a number, filled up with zeros on the left to four of them. -/
structure Spells (digits : List Nat) (n : Nat) : Prop where
  lt_sixteen : ∀ d ∈ digits, d < 16
  value_eq : value digits = n
  four_le : 4 ≤ digits.length
  head_ne_zero : 4 < digits.length → digits.head? ≠ some 0

theorem utf8EncodeChar_digitChar {d : Nat} (h : d < 16) :
    String.utf8EncodeChar (Nat.digitChar d) = [digit d] := by
  revert d
  decide

theorem utf8_digits {digits : List Nat} (h : ∀ d ∈ digits, d < 16) :
    Text.utf8 (String.ofList (digits.map Nat.digitChar)) = digits.map digit := by
  rw [Text.utf8_ofList]
  induction digits with
  | nil => rfl
  | cons d digits ih =>
    have hd : d < 16 := h d List.mem_cons_self
    have hrest : ∀ d' ∈ digits, d' < 16 := fun d' hd' => h d' (List.mem_cons_of_mem d hd')
    rw [List.map_cons, List.flatMap_cons, utf8EncodeChar_digitChar hd, ih hrest]
    rfl

theorem value_append_singleton (digits : List Nat) (d : Nat) :
    value (digits ++ [d]) = 16 * value digits + d := by
  rw [value, List.foldl_append]
  rfl

theorem value_replicate_zero_append (k : Nat) (digits : List Nat) :
    value (List.replicate k 0 ++ digits) = value digits := by
  induction k with
  | zero => rfl
  | succ k ih =>
    rw [List.replicate_succ]
    exact ih

theorem exists_toDigits (n : Nat) :
    ∃ digits, Nat.toDigits 16 n = digits.map Nat.digitChar ∧ (∀ d ∈ digits, d < 16) ∧
      value digits = n ∧ (0 < n → ∃ d rest, digits = d :: rest ∧ d ≠ 0) := by
  induction n using Nat.strongRecOn with
  | _ n ih =>
    by_cases hn : n < 16
    · refine ⟨[n], Nat.toDigits_of_lt_base hn, ?_, Nat.zero_add n, fun hpos => ?_⟩
      · simpa using hn
      · exact ⟨n, [], rfl, Nat.pos_iff_ne_zero.mp hpos⟩
    · -- The digits of the quotient, and the remainder behind them.
      obtain ⟨digits, ht, hlt, hv, hhead⟩ := ih (n / 16) (by omega)
      refine ⟨digits ++ [n % 16], ?_, fun d hd => ?_, ?_, fun _ => ?_⟩
      · rw [Nat.toDigits_eq_if (by decide), if_neg hn, ht, List.map_append]
        rfl
      · obtain hd | hd := List.mem_append.mp hd
        · exact hlt d hd
        · rw [List.mem_singleton.mp hd]
          exact Nat.mod_lt n (by decide)
      · rw [value_append_singleton, hv]
        exact Nat.div_add_mod n 16
      · obtain ⟨d, rest, rfl, hd⟩ := hhead (by omega)
        exact ⟨d, rest ++ [n % 16], rfl, hd⟩

theorem spells_padded {digits : List Nat} {n : Nat} (hlt : ∀ d ∈ digits, d < 16)
    (hv : value digits = n) (hhead : 4 < digits.length → digits.head? ≠ some 0) :
    Spells (List.replicate (4 - digits.length) 0 ++ digits) n := by
  constructor
  · intro d hd
    obtain hd | hd := List.mem_append.mp hd
    · rw [List.eq_of_mem_replicate hd]
      decide
    · exact hlt d hd
  · rw [value_replicate_zero_append, hv]
  · rw [List.length_append, List.length_replicate]
    omega
  · intro h
    rw [List.length_append, List.length_replicate] at h
    have hnone : 4 - digits.length = 0 := by omega
    rw [hnone]
    exact hhead (by omega)

/-- A position is written as `0x` and its digits. -/
theorem exists_utf8_position (n : Nat) :
    ∃ digits, Spells digits n ∧ Text.utf8 (position n) = Text.utf8 "0x" ++ digits.map digit := by
  obtain ⟨digits, ht, hlt, hv, hhead⟩ := exists_toDigits n
  have hlong : 4 < digits.length → digits.head? ≠ some 0 := by
    intro hlength
    obtain rfl | hpos := Nat.eq_zero_or_pos n
    · -- Zero has one digit.
      have hone : (Nat.toDigits 16 0).length = 1 := rfl
      rw [ht, List.length_map] at hone
      omega
    · obtain ⟨d, rest, rfl, hd⟩ := hhead hpos
      simpa using hd
  have hspells := spells_padded hlt hv hlong
  have hpadded : padded 4 n =
      (List.replicate (4 - digits.length) 0 ++ digits).map Nat.digitChar := by
    rw [padded, List.map_append, List.map_replicate, ht, List.length_map]
    rfl
  refine ⟨_, hspells, ?_⟩
  rw [position, Text.utf8_append, hpadded, utf8_digits hspells.lt_sixteen]

/-- Bytes in a row, a blank and two digits each. -/
def row (bytes : List UInt8) : List UInt8 :=
  bytes.flatMap fun b => [0x20, digit (b.toNat / 16), digit (b.toNat % 16)]

theorem div_lt_sixteen (b : UInt8) : b.toNat / 16 < 16 := by
  have hb := b.toNat_lt
  omega

theorem mod_lt_sixteen (b : UInt8) : b.toNat % 16 < 16 :=
  Nat.mod_lt _ (by decide)

theorem flatMap_pair (b : UInt8) :
    (pair b).flatMap String.utf8EncodeChar = [digit (b.toNat / 16), digit (b.toNat % 16)] := by
  rw [pair, List.flatMap_cons, List.flatMap_cons, utf8EncodeChar_digitChar (div_lt_sixteen b),
    utf8EncodeChar_digitChar (mod_lt_sixteen b)]
  rfl

theorem utf8_row (bytes : List UInt8) :
    Text.utf8 (String.ofList (bytes.flatMap fun b => ' ' :: pair b)) = row bytes := by
  have hbyte (b : UInt8) : (' ' :: pair b).flatMap String.utf8EncodeChar =
      [0x20, digit (b.toNat / 16), digit (b.toNat % 16)] := by
    rw [List.flatMap_cons, flatMap_pair]
    rfl
  rw [Text.utf8_ofList, List.flatMap_assoc, row]
  simp only [hbyte]

end Hex

end TwinStack
