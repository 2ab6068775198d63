import TwinStack.Proofs.DataEffects

/-! The keep bit. Some operations leave their operands below their results if it is set, and the
results are the same; others take no notice of it. -/
namespace TwinStack

def Image.keepAt (image : Image) (position : Nat) : Image :=
  image.modify position (· ||| 0x80)

theorem Image.getElem?_keepAt {image : Image} {position : Nat} {byte : UInt8}
    (h : image[position]? = some byte) :
    (image.keepAt position)[position]? = some (byte ||| 0x80) := by
  simp [keepAt, Array.getElem?_modify, h]

theorem Image.size_keepAt (image : Image) (position : Nat) :
    (image.keepAt position).size = image.size := by
  simp [keepAt]

/-- Operations that come with and without the keep bit. In the others' bytes it is part of the
opcode. -/
def Operation.HasKeepForm : Operation → Prop
  | .data _ | .jmp | .jsr | .sth | .deo => True
  | .brk | .lit | .jmi | .jci | .jsi => False

def Operation.IgnoresKeep : Operation → Prop
  | .data .pop | .data .rot | .data .equ | .jmp | .jsr | .sth | .deo => True
  | .data .inc | .data .nip | .data .swp | .data .dup | .data .ovr | .data .add
  | .brk | .lit | .jmi | .jci | .jsi => False

/-- Operations that leave their operands below their results in keep mode. On shorts `ovr` leaves
more than that. -/
def DataOp.KeepsOperands (w : Width) : DataOp → Prop
  | .inc | .nip | .swp | .dup | .add => True
  | .ovr => w = .byte
  | .pop | .rot | .equ => False

theorem Operation.IgnoresKeep.hasKeepForm {operation : Operation} (h : operation.IgnoresKeep) :
    operation.HasKeepForm := by
  cases operation with
  | data | jmp | jsr | sth | deo => trivial
  | brk | lit | jmi | jci | jsi => exact h

namespace Instruction

def kept (i : Instruction) : Instruction :=
  { i with mode := { i.mode with keep := true } }

private theorem decode_keep_of_low (byte : UInt8) :
    byte &&& 0x80 = 0 → byte &&& 0x1f ≠ 0 →
      decode (byte ||| 0x80) = (decode byte).kept ∧ (decode byte).mode.keep = false := by
  revert byte
  exact forall_byte (by decide +kernel)

private theorem operation?_of_low_eq_zero (byte : UInt8) :
    byte &&& 0x1f = 0 →
      (decode byte).operation? ∈ [some .brk, some .lit, some .jmi, some .jci, some .jsi] := by
  revert byte
  exact forall_byte (by decide +kernel)

theorem decode_keep {byte : UInt8} {operation : Operation} (hk : byte &&& 0x80 = 0)
    (ho : (decode byte).operation? = some operation) (hm : operation.HasKeepForm) :
    decode (byte ||| 0x80) = (decode byte).kept ∧
      (decode (byte ||| 0x80)).operation? = some operation ∧ (decode byte).mode.keep = false := by
  have hlow : byte &&& 0x1f ≠ 0 := by
    intro hzero
    have hmem := operation?_of_low_eq_zero byte hzero
    rw [ho] at hmem
    cases operation with
    | data | jmp | jsr | sth | deo => simp at hmem
    | brk | lit | jmi | jci | jsi => exact hm
  obtain ⟨hdecode, hplain⟩ := decode_keep_of_low byte hk hlow
  refine ⟨hdecode, ?_, hplain⟩
  rw [hdecode]
  exact ho

end Instruction

namespace Value

theorem exists_bytes_eq {w : Width} {bs : List UInt8} (h : bs.length = w.size) :
    ∃ v : Value, v.width = w ∧ v.bytes = bs := by
  match w, bs, h with
  | .byte, [b], _ => exact ⟨.byte b, rfl, rfl⟩
  | .short, [hi, lo], _ => exact ⟨.short (Short.join hi lo), rfl, by simp [bytes]⟩

theorem exists_bytes_append_eq {w : Width} {bs : List UInt8} (h : bs.length = 2 * w.size) :
    ∃ a b : Value, a.width = w ∧ b.width = w ∧ a.bytes ++ b.bytes = bs := by
  have htake : (bs.take w.size).length = w.size := by
    rw [List.length_take]
    omega
  have hdrop : (bs.drop w.size).length = w.size := by
    rw [List.length_drop]
    omega
  obtain ⟨a, ha, hbytes⟩ := exists_bytes_eq htake
  obtain ⟨b, hb, hbytes'⟩ := exists_bytes_eq hdrop
  exact ⟨a, b, ha, hb, by rw [hbytes, hbytes', List.take_append_drop]⟩

theorem exists_bytes_bump (v : Value) :
    ∃ front last, v.bytes = front ++ [last] ∧ v.bump.bytes = front ++ [last + 1] := by
  cases v with
  | byte b => exact ⟨[], b, rfl, rfl⟩
  | short s => exact ⟨[Short.high s], Short.low s, rfl, by simp [bump, bytes]⟩

end Value

/-- What the plain form leaves in place of its operands, the keep form leaves above them. -/
theorem DataOp.KeepsOperands.exists_rewrites {w : Width} {op : DataOp} (h : op.KeepsOperands w)
    (rest : List UInt8) {args : List UInt8} (hargs : args.length = op.demand true w) :
    ∃ t, op.Rewrites false w (.ofBytes (rest ++ args)) (.ofBytes (rest ++ t)) ∧
      op.Rewrites true w (.ofBytes (rest ++ args)) (.ofBytes (rest ++ args ++ t)) := by
  cases op with
  | pop | rot | equ => exact h.elim
  | inc =>
    obtain ⟨a, ha, rfl⟩ := Value.exists_bytes_eq hargs
    obtain ⟨front, last, hbytes, hbump⟩ := a.exists_bytes_bump
    have hplain : Rewrites false w .inc _ _ := .inc (.ofBytes (rest ++ front)) last rfl
    have hkeep : Rewrites true w .inc _ _ := .incKeep (.ofBytes rest) a rfl ha
    refine ⟨a.bump.bytes, ?_, ?_⟩
    · simpa [Stack.pushByte_ofBytes, hbytes, hbump] using hplain
    · simpa [Stack.push_ofBytes] using hkeep
  | dup =>
    obtain ⟨a, ha, rfl⟩ := Value.exists_bytes_eq hargs
    have hrule (keep : Bool) : Rewrites keep w .dup _ _ := .dup (.ofBytes rest) a ha
    refine ⟨a.bytes ++ a.bytes, ?_, ?_⟩
    · simpa [Stack.push_ofBytes] using hrule false
    · simpa [Stack.push_ofBytes] using hrule true
  | nip =>
    obtain ⟨a, b, ha, hb, rfl⟩ := Value.exists_bytes_append_eq hargs
    have hrule (keep : Bool) : Rewrites keep w .nip _ _ := .nip (.ofBytes rest) a b ha hb
    refine ⟨b.bytes, ?_, ?_⟩
    · simpa [Stack.push_ofBytes] using hrule false
    · simpa [Stack.push_ofBytes] using hrule true
  | swp =>
    obtain ⟨a, b, ha, hb, rfl⟩ := Value.exists_bytes_append_eq hargs
    have hrule (keep : Bool) : Rewrites keep w .swp _ _ := .swp (.ofBytes rest) a b ha hb
    refine ⟨b.bytes ++ a.bytes, ?_, ?_⟩
    · simpa [Stack.push_ofBytes] using hrule false
    · simpa [Stack.push_ofBytes] using hrule true
  | add =>
    obtain ⟨a, b, ha, hb, rfl⟩ := Value.exists_bytes_append_eq hargs
    have hrule (keep : Bool) : Rewrites keep w .add _ _ := .add (.ofBytes rest) a b ha hb
    refine ⟨(a + b).bytes, ?_, ?_⟩
    · simpa [Stack.push_ofBytes] using hrule false
    · simpa [Stack.push_ofBytes] using hrule true
  | ovr =>
    obtain ⟨a, b, ha, hb, rfl⟩ := Value.exists_bytes_append_eq hargs
    have hplain : Rewrites false w .ovr _ _ := .ovr (.ofBytes rest) a b rfl ha hb
    have hkeep : Rewrites true w .ovr _ _ := .ovrKeepByte (.ofBytes rest) a b rfl h ha hb
    refine ⟨a.bytes ++ b.bytes ++ a.bytes, ?_, ?_⟩
    · simpa [Stack.push_ofBytes] using hplain
    · simpa [Stack.push_ofBytes] using hkeep

namespace Operation
variable {operation : Operation} {mode : Mode} {m : Machine}

theorem IgnoresKeep.execute_eq (h : operation.IgnoresKeep) (image image' : Image) (mode : Mode) :
    operation.execute image' { mode with keep := true } = operation.execute image mode := by
  cases operation with
  | jmp | jsr | sth | deo => rfl
  | brk | lit | jmi | jci | jsi => exact h.elim
  | data op =>
    cases op with
    | pop | rot | equ => rfl
    | inc | nip | swp | dup | ovr | add => exact h.elim

/-- The keep bit asks for more operands in one case only. -/
theorem underflows_keep_iff (hk : mode.keep = false)
    (h : ¬ (operation = .data .inc ∧ mode.width = .short ∧ (m.stack mode.side).size = 1)) :
    operation.Underflows { mode with keep := true } m ↔ operation.Underflows mode m := by
  have hwidth : ({ mode with keep := true } : Mode).width = mode.width := rfl
  have hside : ({ mode with keep := true } : Mode).side = mode.side := rfl
  cases operation with
  | brk | lit | jmp | jsr | jmi | jci | jsi | sth | deo => rfl
  | data op =>
    cases op with
    | pop | nip | swp | rot | dup | ovr | equ | add => rfl
    | inc =>
      simp only [Underflows, DataOp.demand, hk, hwidth, hside]
      cases hw : mode.width with
      | byte => rfl
      | short =>
        have hsize : (m.stack mode.side).size ≠ 1 := fun hone => h ⟨rfl, hw, hone⟩
        simp only [if_true, Bool.false_eq_true, if_false, Width.size]
        omega

theorem underflows_inc_of_size_eq_one (hk : mode.keep = false) (hw : mode.width = .short)
    (hs : (m.stack mode.side).size = 1) :
    (Operation.data .inc).Underflows { mode with keep := true } m ∧
      ¬ (Operation.data .inc).Underflows mode m := by
  have hwidth : ({ mode with keep := true } : Mode).width = mode.width := rfl
  have hside : ({ mode with keep := true } : Mode).side = mode.side := rfl
  simp [Underflows, DataOp.demand, hk, hw, hs, hwidth, hside, Width.size]

end Operation

namespace Machine
variable {image : Image} {m : Machine} {byte : UInt8} {operation : Operation}

theorem step_keepAt (hb : image[m.pc]? = some byte) (hk : byte &&& 0x80 = 0)
    (ho : (Instruction.decode byte).operation? = some operation) (h : operation.IgnoresKeep) :
    (m.step (image.keepAt m.pc)).outcome = (m.step image).outcome ∧
      (m.step (image.keepAt m.pc)).machine = (m.step image).machine := by
  have hb' := Image.getElem?_keepAt hb
  obtain ⟨hdecode, ho', -⟩ := Instruction.decode_keep hk ho h.hasKeepForm
  have hexecute : operation.execute (image.keepAt m.pc) (Instruction.decode (byte ||| 0x80)).mode =
      operation.execute image (Instruction.decode byte).mode := by
    rw [hdecode]
    exact h.execute_eq image _ _
  exact step_of_execute_eq hb ho hb' ho' (image.size_keepAt m.pc) hexecute

theorem outcome_step_eq_faulted_iff_underflows (hb : image[m.pc]? = some byte)
    (ho : (Instruction.decode byte).operation? = some operation) (hm : operation.HasKeepForm)
    (fault : Fault) :
    (m.step image).outcome = .faulted fault ↔
      fault = .stackUnderflow ∧ operation.Underflows (Instruction.decode byte).mode m := by
  have htruncates : ¬ operation.Truncates image (Instruction.decode byte).mode m := by
    cases operation with
    | data | jmp | jsr | sth | deo => exact id
    | brk | lit | jmi | jci | jsi => exact hm.elim
  rw [outcome_step_eq_faulted_iff hb ho]
  simp [htruncates]

/-- The keep bit is a matter of the operands alone. Where it is looked at, the results are those
without it and lie above the operands; elsewhere it changes nothing. It makes no difference to
faults either, unless a single byte is to be incremented as a short. -/
theorem keep_bit_keeps_operands (image : Image) (m : Machine) (byte : UInt8) (i : Instruction)
    (operation : Operation) (hb : image[m.pc]? = some byte) (hk : byte &&& 0x80 = 0)
    (hi : Instruction.decode byte = i) (ho : i.operation? = some operation) :
    (∀ op rest args, operation = .data op → op.KeepsOperands i.mode.width →
      (m.stack i.mode.side).bytes = rest ++ args → args.length = op.demand true i.mode.width →
      ∃ t, m.Leaves image i.mode.side (rest ++ t) ∧
        m.Leaves (image.keepAt m.pc) i.mode.side (rest ++ args ++ t) ∧
        (m.step (image.keepAt m.pc)).outcome = (m.step image).outcome) ∧
    (operation.IgnoresKeep →
      (m.step (image.keepAt m.pc)).outcome = (m.step image).outcome ∧
        (m.step (image.keepAt m.pc)).machine = (m.step image).machine) ∧
    (operation.HasKeepForm →
      ¬ (operation = .data .inc ∧ i.mode.width = .short ∧ (m.stack i.mode.side).size = 1) →
      ∀ fault, (m.step (image.keepAt m.pc)).outcome = .faulted fault ↔
        (m.step image).outcome = .faulted fault) ∧
    (operation = .data .inc → i.mode.width = .short → (m.stack i.mode.side).size = 1 →
      (m.step (image.keepAt m.pc)).outcome = .faulted .stackUnderflow ∧
        ∀ fault, (m.step image).outcome ≠ .faulted fault) := by
  subst hi
  have hb' := Image.getElem?_keepAt hb
  refine ⟨?_, step_keepAt hb hk ho, ?_, ?_⟩
  · rintro op rest args rfl hop hs hargs
    obtain ⟨hdecode, -, hplain⟩ := Instruction.decode_keep hk ho trivial
    obtain ⟨t, hrule, hrule'⟩ := hop.exists_rewrites rest hargs
    rw [← hplain] at hrule
    have hleaves := leaves_of_rewrites hb rfl ho hs hrule
    have hleaves' := leaves_of_rewrites hb' hdecode ho hs hrule'
    refine ⟨t, hleaves, hleaves', ?_⟩
    rw [hleaves.1, hleaves'.1, image.size_keepAt]
  · intro hm hne fault
    obtain ⟨hdecode, ho', hplain⟩ := Instruction.decode_keep hk ho hm
    rw [outcome_step_eq_faulted_iff_underflows hb ho hm,
      outcome_step_eq_faulted_iff_underflows hb' ho' hm, hdecode]
    exact and_congr_right fun _ => Operation.underflows_keep_iff hplain hne
  · rintro rfl hw hsize
    obtain ⟨hdecode, ho', hplain⟩ := Instruction.decode_keep hk ho trivial
    obtain ⟨hkept, hnot⟩ := Operation.underflows_inc_of_size_eq_one hplain hw hsize
    constructor
    · rw [outcome_step_eq_faulted_iff_underflows hb' ho' trivial, hdecode]
      exact ⟨rfl, hkept⟩
    · intro fault hfault
      exact hnot ((outcome_step_eq_faulted_iff_underflows hb ho trivial fault).mp hfault).2

/-- Two shorts and the upper one again, with and without the lower; and a byte that is no short. -/
theorem keep_bit_keeps_operands_nip :
    (∃ t, Leaves { wst := .ofBytes [0x01, 0x12, 0x34, 0x56, 0x78] } #[0x23] .working ([0x01] ++ t) ∧
      Leaves { wst := .ofBytes [0x01, 0x12, 0x34, 0x56, 0x78] } #[0xa3] .working
        ([0x01] ++ [0x12, 0x34, 0x56, 0x78] ++ t)) ∧
      (step { wst := .ofBytes [0x02, 0x01] } #[0x82]).machine =
        (step { wst := .ofBytes [0x02, 0x01] } #[0x02]).machine ∧
      (step { rst := .ofBytes [0x01] } #[0xe1]).outcome = .faulted .stackUnderflow := by
  have hnip : Image.keepAt #[0x23] 0 = #[0xa3] := by decide
  have hpop : Image.keepAt #[0x02] 0 = #[0x82] := by decide
  have hinc : Image.keepAt #[0x61] 0 = #[0xe1] := by decide
  obtain ⟨hkeeps, -⟩ := keep_bit_keeps_operands #[0x23]
    { wst := .ofBytes [0x01, 0x12, 0x34, 0x56, 0x78] } 0x23 _ _ rfl rfl rfl rfl
  obtain ⟨-, hignores, -⟩ := keep_bit_keeps_operands #[0x02] { wst := .ofBytes [0x02, 0x01] }
    0x02 _ _ rfl rfl rfl rfl
  obtain ⟨-, -, -, hone⟩ := keep_bit_keeps_operands #[0x61] { rst := .ofBytes [0x01] }
    0x61 _ _ rfl rfl rfl rfl
  obtain ⟨t, hplain, hkept, -⟩ := hkeeps .nip [0x01] [0x12, 0x34, 0x56, 0x78] rfl trivial
    (by decide) rfl
  rw [← hnip, ← hpop, ← hinc]
  exact ⟨⟨t, hplain, hkept⟩, (hignores trivial).2, (hone rfl rfl rfl).1⟩

end Machine

end TwinStack
