import Mathlib.Algebra.Group.Nat.Defs
import TwinStack.Proofs.Faults

/-! What the data operations make of their operands. Operands are numbers here, and a stack is a row
of bytes: an operand of some width lies on it with its high byte first. -/
namespace TwinStack

/-- The lowest `n` bytes of a number, the high ones first. -/
def bigEndian : Nat → Nat → List UInt8
  | 0, _ => []
  | n + 1, a => bigEndian n (a / 256) ++ [UInt8.ofNat a]

namespace Value

/-- A number cut to the width of an operand. -/
def ofNat (a : Nat) : Width → Value
  | .byte => .byte (UInt8.ofNat a)
  | .short => .short (UInt16.ofNat a)

@[simp] theorem width_ofNat (a : Nat) (w : Width) : (ofNat a w).width = w := by
  cases w <;> rfl

@[simp] theorem bytes_ofNat (a : Nat) (w : Width) : (ofNat a w).bytes = bigEndian w.size a := by
  cases w with
  | byte => simp [ofNat, bytes, bigEndian, Width.size]
  | short =>
    have hhigh : Short.high (UInt16.ofNat a) = UInt8.ofNat (a / 256) := by
      apply UInt8.toNat_inj.1
      simp [Short.high]
      omega
    have hlow : Short.low (UInt16.ofNat a) = UInt8.ofNat a := by
      apply UInt8.toNat_inj.1
      simp [Short.low]
    simp [ofNat, bytes, bigEndian, Width.size, hhigh, hlow]

theorem ofNat_mod (a : Nat) (w : Width) : ofNat (a % 2 ^ (8 * w.size)) w = ofNat a w := by
  cases w with
  | byte =>
    have h : UInt8.ofNat (a % 2 ^ 8) = UInt8.ofNat a := by
      apply UInt8.toNat_inj.1
      simp
    exact congrArg Value.byte h
  | short =>
    have h : UInt16.ofNat (a % 2 ^ 16) = UInt16.ofNat a := by
      apply UInt16.toNat_inj.1
      simp
    exact congrArg Value.short h

theorem ofNat_add (a b : Nat) (w : Width) : ofNat a w + ofNat b w = ofNat (a + b) w := by
  cases w with
  | byte => exact congrArg Value.byte (UInt8.ofNat_add a b).symm
  | short => exact congrArg Value.short (UInt16.ofNat_add a b).symm

theorem ofNat_inj {a b : Nat} {w : Width} (ha : a < 2 ^ (8 * w.size)) (hb : b < 2 ^ (8 * w.size)) :
    ofNat a w = ofNat b w ↔ a = b := by
  refine ⟨fun h => ?_, fun h => h ▸ rfl⟩
  cases w with
  | byte =>
    have hnat := congrArg UInt8.toNat (Value.byte.inj h)
    rwa [UInt8.toNat_ofNat_of_lt' ha, UInt8.toNat_ofNat_of_lt' hb] at hnat
  | short =>
    have hnat := congrArg UInt16.toNat (Value.short.inj h)
    rwa [UInt16.toNat_ofNat_of_lt' ha, UInt16.toNat_ofNat_of_lt' hb] at hnat

end Value

namespace Stack

theorem pushByte_ofBytes (bs : List UInt8) (b : UInt8) :
    (ofBytes bs).pushByte b = ofBytes (bs ++ [b]) := by
  ext1
  simp

theorem push_ofBytes (bs : List UInt8) (v : Value) :
    (ofBytes bs).push v = ofBytes (bs ++ v.bytes) := by
  ext1
  simp

end Stack

namespace DataOp

/-- The bytes that take the place of operands of width `w`, the last of which lies on top. There are
none if the operation does not take as many operands; `inc` takes no operand but the byte on top. -/
def results? (w : Width) : DataOp → List Nat → Option (List UInt8)
  | .pop, [_] => some []
  | .nip, [_, b] => some (bigEndian w.size b)
  | .swp, [a, b] => some (bigEndian w.size b ++ bigEndian w.size a)
  | .rot, [a, b, c] =>
    some (bigEndian w.size b ++ bigEndian w.size c ++ bigEndian w.size a)
  | .dup, [a] => some (bigEndian w.size a ++ bigEndian w.size a)
  | .ovr, [a, b] =>
    some (bigEndian w.size a ++ bigEndian w.size b ++ bigEndian w.size a)
  | .equ, [a, b] => some [if a = b then 1 else 0]
  | .add, [a, b] => some (bigEndian w.size ((a + b) % 2 ^ (8 * w.size)))
  | _, _ => none

theorem rewrites_of_results? {w : Width} {op : DataOp} {operands : List Nat} {out : List UInt8}
    (h : op.results? w operands = some out) (hlt : ∀ a ∈ operands, a < 2 ^ (8 * w.size))
    (rest : List UInt8) :
    op.Rewrites false w (.ofBytes (rest ++ operands.flatMap (bigEndian w.size)))
      (.ofBytes (rest ++ out)) := by
  have hw (a : Nat) : (Value.ofNat a w).width = w := Value.width_ofNat a w
  unfold results? at h
  -- The cases stand in the order of the table.
  split at h
  · next a =>
    have hrule : Rewrites false w _ _ _ := .pop (.ofBytes rest) (.ofNat a w) (hw a)
    cases h
    simpa [Stack.push_ofBytes] using hrule
  · next a b =>
    have hrule : Rewrites false w _ _ _ :=
      .nip (.ofBytes rest) (.ofNat a w) (.ofNat b w) (hw a) (hw b)
    cases h
    simpa [Stack.push_ofBytes] using hrule
  · next a b =>
    have hrule : Rewrites false w _ _ _ :=
      .swp (.ofBytes rest) (.ofNat a w) (.ofNat b w) (hw a) (hw b)
    cases h
    simpa [Stack.push_ofBytes] using hrule
  · next a b c =>
    have hrule : Rewrites false w _ _ _ :=
      .rot (.ofBytes rest) (.ofNat a w) (.ofNat b w) (.ofNat c w) (hw a) (hw b) (hw c)
    cases h
    simpa [Stack.push_ofBytes] using hrule
  · next a =>
    have hrule : Rewrites false w _ _ _ := .dup (.ofBytes rest) (.ofNat a w) (hw a)
    cases h
    simpa [Stack.push_ofBytes] using hrule
  · next a b =>
    have hrule : Rewrites false w _ _ _ :=
      .ovr (.ofBytes rest) (.ofNat a w) (.ofNat b w) rfl (hw a) (hw b)
    cases h
    simpa [Stack.push_ofBytes] using hrule
  · next a b =>
    have hrule : Rewrites false w _ _ _ :=
      .equ (.ofBytes rest) (.ofNat a w) (.ofNat b w) (hw a) (hw b)
    have hsame := Value.ofNat_inj (hlt a (by simp)) (hlt b (by simp))
    cases h
    simpa [Stack.push_ofBytes, Stack.pushByte_ofBytes, hsame] using hrule
  · next a b =>
    have hrule : Rewrites false w _ _ _ :=
      .add (.ofBytes rest) (.ofNat a w) (.ofNat b w) (hw a) (hw b)
    have hsum : bigEndian w.size ((a + b) % 2 ^ (8 * w.size)) = bigEndian w.size (a + b) := by
      rw [← Value.bytes_ofNat, Value.ofNat_mod, Value.bytes_ofNat]
    cases h
    simpa [Stack.push_ofBytes, Value.ofNat_add, hsum] using hrule
  · cases h

end DataOp

namespace Machine
variable {image : Image} {m : Machine} {byte : UInt8} {i : Instruction} {op : DataOp}

/-- The next step succeeds, leaves these bytes on one stack and goes on behind the instruction.
Nothing else changes. -/
def Leaves (m : Machine) (image : Image) (side : Side) (bytes : List UInt8) : Prop :=
  (m.step image).outcome = (if m.pc + 1 < image.size then .running else .stopped) ∧
    (m.step image).machine = { m.setStack side (.ofBytes bytes) with pc := m.pc + 1 }

theorem leaves_of_rewrites {bytes bytes' : List UInt8} (hb : image[m.pc]? = some byte)
    (hi : Instruction.decode byte = i) (ho : i.operation? = some (.data op))
    (hs : (m.stack i.mode.side).bytes = bytes)
    (h : op.Rewrites i.mode.keep i.mode.width (.ofBytes bytes) (.ofBytes bytes')) :
    m.Leaves image i.mode.side bytes' := by
  subst hi
  rw [← hs, Stack.ofBytes_bytes] at h
  unfold Leaves
  rw [step_of_performs hb ho (.data op _ h)]
  exact ⟨rfl, rfl⟩

/-- Without the keep bit, the results take the place of the operands. All else stays, and the next
instruction follows. -/
theorem data_instruction_effects (image : Image) (m : Machine) (byte : UInt8) (i : Instruction)
    (op : DataOp) (hb : image[m.pc]? = some byte) (hi : Instruction.decode byte = i)
    (ho : i.operation? = some (.data op)) (hk : i.mode.keep = false) :
    (∀ rest operands out, (∀ a ∈ operands, a < 2 ^ (8 * i.mode.width.size)) →
      op.results? i.mode.width operands = some out →
      (m.stack i.mode.side).bytes = rest ++ operands.flatMap (bigEndian i.mode.width.size) →
      m.Leaves image i.mode.side (rest ++ out)) ∧
    (op = .inc → ∀ rest top, (m.stack i.mode.side).bytes = rest ++ [top] →
      m.Leaves image i.mode.side (rest ++ [UInt8.ofNat ((top.toNat + 1) % 256)])) := by
  refine ⟨fun rest operands out hlt hout hs => ?_, ?_⟩
  · apply leaves_of_rewrites hb hi ho hs
    rw [hk]
    exact DataOp.rewrites_of_results? hout hlt rest
  · rintro rfl rest top hs
    have hnext : UInt8.ofNat ((top.toNat + 1) % 256) = top + 1 := by
      apply UInt8.toNat_inj.1
      simp
    have hrule : DataOp.Rewrites false i.mode.width .inc _ _ := .inc (.ofBytes rest) top rfl
    rw [Stack.pushByte_ofBytes, Stack.pushByte_ofBytes, ← hnext] at hrule
    apply leaves_of_rewrites hb hi ho hs
    rw [hk]
    exact hrule

/-- Shorts on the return stack are added without the carry; `inc` has none either, but from the low
byte to the high one. -/
theorem data_instruction_effects_carry :
    Leaves { rst := .ofBytes [0x07, 0xff, 0xff, 0x00, 0x02] } #[0x78] .ret [0x07, 0x00, 0x01] ∧
      Leaves { wst := .ofBytes [0x01, 0xff] } #[0x21, 0x00] .working [0x01, 0x00] := by
  obtain ⟨hadd, -⟩ := data_instruction_effects #[0x78]
    { rst := .ofBytes [0x07, 0xff, 0xff, 0x00, 0x02] } 0x78 _ .add rfl rfl rfl rfl
  obtain ⟨-, hinc⟩ := data_instruction_effects #[0x21, 0x00] { wst := .ofBytes [0x01, 0xff] }
    0x21 _ .inc rfl rfl rfl rfl
  exact ⟨hadd [0x07] [0xffff, 2] [0x00, 0x01] (by decide) (by decide) (by decide),
    hinc rfl [0x01] 0xff (by decide)⟩

end Machine

end TwinStack
