import TwinStack.Proofs.DataEffects

/-! What `ovr` copies, by positions counted from the bottom of the stack. The second operand is cut
out of the stack as it was before anything was pushed. In keep mode a layer goes below the copy: on
bytes the two operands, on shorts the two shorts beneath them, if there are as many. -/
namespace TwinStack

theorem extract_append_append (xs ys zs : List UInt8) :
    (xs ++ ys ++ zs).extract xs.length (xs.length + ys.length) = ys := by
  rw [List.extract_eq_take_drop, List.append_assoc, List.drop_left, Nat.add_sub_cancel_left,
    List.take_left]

theorem extract_second (rest : List UInt8) {a b : List UInt8} {w : Nat} (ha : a.length = w)
    (hb : b.length = w) :
    (rest ++ a ++ b).extract ((rest ++ a ++ b).length - 2 * w)
      ((rest ++ a ++ b).length - w) = a := by
  have hlength : (rest ++ a ++ b).length = rest.length + w + w := by
    rw [List.length_append, List.length_append, ha, hb]
  have hstart : rest.length + w + w - 2 * w = rest.length := by omega
  have hstop : rest.length + w + w - w = rest.length + a.length := by omega
  rw [hlength, hstart, hstop]
  exact extract_append_append rest a b

theorem Stack.span?_eq_extract {s : Stack} {width depth : Nat} (h : width * depth ≤ s.size) :
    s.span? width depth =
      some (s.bytes.extract (s.size - width * depth) (s.size - width * depth + width)) := by
  rw [span?, if_pos h, List.reverse_take, List.extract_eq_take_drop, Nat.add_sub_cancel_left]
  rfl

namespace DataOp

/-- What `ovr` on operands of `w` bytes pushes below its copy of the second one. -/
def layer (keep : Bool) (w : Nat) (bytes : List UInt8) : List UInt8 :=
  let start := bytes.length - 2 * w * w
  if keep ∧ 2 * w * w ≤ bytes.length then bytes.extract start (start + 2 * w) else []

theorem getD_span?_eq_layer (s : Stack) (w : Nat) :
    (s.span? (2 * w) w).getD [] = layer true w s.bytes := by
  by_cases h : 2 * w * w ≤ s.size
  · rw [Stack.span?_eq_extract h, layer, s.length_bytes, if_pos ⟨rfl, h⟩]
    rfl
  · rw [Stack.span?, if_neg h, layer, s.length_bytes, if_neg fun hk => h hk.2]
    rfl

/-- The layer and the second operand, both of the stack as it was. -/
theorem run_apply_ovr_eq (keep : Bool) {w : Width} {s : Stack} (h : 2 * w.size ≤ s.size) :
    (DataOp.ovr.apply keep w).run (.ofStack s) =
      .ok () (.ofStack (s.pushBytes (layer keep w.size s.bytes ++
        s.bytes.extract (s.size - 2 * w.size) (s.size - w.size)))) := by
  have hstop : s.size - 2 * w.size + w.size = s.size - w.size := by omega
  have hsecond : s.span? w.size 2 =
      some (s.bytes.extract (s.size - 2 * w.size) (s.size - w.size)) := by
    rw [Stack.span?_eq_extract (by omega), Nat.mul_comm w.size 2, hstop]
  rw [run_apply_ovr keep hsecond, getD_span?_eq_layer, ← Stack.pushBytes_pushBytes]
  cases keep <;> rfl

theorem layer_byte (rest : List UInt8) (a b : UInt8) :
    layer true Width.byte.size (rest ++ [a, b]) = [a, b] := by
  have hstart : (rest ++ [a, b]).length - 2 * 1 * 1 = rest.length := by simp
  have hcut := extract_append_append rest [a, b] []
  rw [List.append_nil] at hcut
  rw [layer, Width.size, hstart, if_pos ⟨rfl, by simp⟩]
  exact hcut

theorem layer_short (rest : List UInt8) {beneath top : List UInt8} (hb : beneath.length = 4)
    (ht : top.length = 4) : layer true Width.short.size (rest ++ beneath ++ top) = beneath := by
  have hlength : (rest ++ beneath ++ top).length = rest.length + 8 := by
    rw [List.length_append, List.length_append]
    omega
  have hcut := extract_append_append rest beneath top
  rw [hb] at hcut
  rw [layer, Width.size, hlength, if_pos ⟨rfl, Nat.le_add_left 8 rest.length⟩]
  exact hcut

theorem layer_short_eq_nil {bytes : List UInt8} (h : bytes.length < 8) :
    layer true Width.short.size bytes = [] := by
  rw [layer, Width.size, if_neg fun hk => Nat.not_le.mpr h hk.2]

end DataOp

namespace Machine
variable {image : Image} {m : Machine} {byte : UInt8} {i : Instruction} {op : DataOp}

theorem leaves_of_run_apply {o : Operands} (hb : image[m.pc]? = some byte)
    (hi : Instruction.decode byte = i) (ho : i.operation? = some (.data op))
    (hr : (op.apply i.mode.keep i.mode.width).run (.ofStack (m.stack i.mode.side)) = .ok () o) :
    m.Leaves image i.mode.side o.rest.bytes := by
  subst hi
  have hrun := Operation.run_execute_data image (Instruction.decode byte).mode m op
  rw [hr] at hrun
  unfold Leaves
  rw [step_of_run_ok hb ho hrun, Stack.ofBytes_bytes]
  exact ⟨rfl, rfl⟩

theorem leaves_ovr {bytes : List UInt8} (hb : image[m.pc]? = some byte)
    (hi : Instruction.decode byte = i) (ho : i.operation? = some (.data .ovr))
    (hs : (m.stack i.mode.side).bytes = bytes) (hsize : 2 * i.mode.width.size ≤ bytes.length) :
    m.Leaves image i.mode.side (bytes ++ DataOp.layer i.mode.keep i.mode.width.size bytes ++
      bytes.extract (bytes.length - 2 * i.mode.width.size)
        (bytes.length - i.mode.width.size)) := by
  rw [← hs, Stack.length_bytes] at hsize ⊢
  have h := leaves_of_run_apply hb hi ho (DataOp.run_apply_ovr_eq i.mode.keep hsize)
  rwa [Operands.rest_ofStack, Stack.bytes_pushBytes, ← List.append_assoc] at h

/-- With two operands on the stack `ovr` succeeds and adds to it: the layer if it keeps them, then
the second operand, both taken from the stack as it was. -/
theorem over_copies_original_bytes (image : Image) (m : Machine) (byte : UInt8) (i : Instruction)
    (bytes : List UInt8) (hb : image[m.pc]? = some byte) (hi : Instruction.decode byte = i)
    (ho : i.operation? = some (.data .ovr)) (hs : (m.stack i.mode.side).bytes = bytes)
    (hsize : 2 * i.mode.width.size ≤ bytes.length) :
    m.Leaves image i.mode.side (bytes ++ DataOp.layer i.mode.keep i.mode.width.size bytes ++
      bytes.extract (bytes.length - 2 * i.mode.width.size) (bytes.length - i.mode.width.size)) ∧
    (i.mode.keep = true → i.mode.width = .byte → ∀ rest a b, bytes = rest ++ [a, b] →
      m.Leaves image i.mode.side (bytes ++ [a, b] ++ [a])) ∧
    (i.mode.keep = true → i.mode.width = .short →
      (∀ rest beneath top, bytes = rest ++ beneath ++ top → beneath.length = 4 → top.length = 4 →
        m.Leaves image i.mode.side (bytes ++ beneath ++ top.take 2)) ∧
      (bytes.length < 8 →
        m.Leaves image i.mode.side
          (bytes ++ bytes.extract (bytes.length - 4) (bytes.length - 2)))) := by
  have hleaves := leaves_ovr hb hi ho hs hsize
  refine ⟨hleaves, fun hk hw rest a b hbytes => ?_, fun hk hw => ⟨?_, fun hlt => ?_⟩⟩
  · have hsplit : bytes = rest ++ [a] ++ [b] := by rw [hbytes, List.append_cons]
    have hsecond : bytes.extract (bytes.length - 2 * 1) (bytes.length - 1) = [a] := by
      rw [hsplit]
      exact extract_second rest rfl rfl
    rw [hk, hw, hbytes, DataOp.layer_byte, ← hbytes] at hleaves
    rw [← hsecond]
    exact hleaves
  · intro rest beneath top hbytes hbeneath htop
    have hsplit : bytes = rest ++ beneath ++ top.take 2 ++ top.drop 2 := by
      rw [hbytes, List.append_assoc _ (top.take 2), List.take_append_drop]
    have hsecond : bytes.extract (bytes.length - 2 * 2) (bytes.length - 2) = top.take 2 := by
      rw [hsplit]
      exact extract_second (rest ++ beneath) (by simp [htop]) (by simp [htop])
    rw [hk, hw, hbytes, DataOp.layer_short rest hbeneath htop, ← hbytes] at hleaves
    rw [← hsecond]
    exact hleaves
  · rw [hk, hw, DataOp.layer_short_eq_nil hlt, List.append_nil] at hleaves
    exact hleaves

/-- Eight bytes have a layer beneath the top four, seven have none. -/
theorem over_copies_original_bytes_layer :
    Leaves { rst := .ofBytes [1, 2, 3, 4, 5, 6, 7, 8] } #[0xe7] .ret
        [1, 2, 3, 4, 5, 6, 7, 8, 1, 2, 3, 4, 5, 6] ∧
      Leaves { wst := .ofBytes [2, 3, 4, 5, 6, 7, 8] } #[0xa7] .working
        [2, 3, 4, 5, 6, 7, 8, 5, 6] ∧
      Leaves { wst := .ofBytes [7, 8] } #[0x87] .working [7, 8, 7, 8, 7] := by
  obtain ⟨-, -, hdeep⟩ := over_copies_original_bytes #[0xe7]
    { rst := .ofBytes [1, 2, 3, 4, 5, 6, 7, 8] } 0xe7 _ [1, 2, 3, 4, 5, 6, 7, 8] rfl rfl rfl
    (by decide) (by decide)
  obtain ⟨-, -, hshallow⟩ := over_copies_original_bytes #[0xa7]
    { wst := .ofBytes [2, 3, 4, 5, 6, 7, 8] } 0xa7 _ [2, 3, 4, 5, 6, 7, 8] rfl rfl rfl
    (by decide) (by decide)
  obtain ⟨-, hbytes, -⟩ := over_copies_original_bytes #[0x87] { wst := .ofBytes [7, 8] } 0x87 _
    [7, 8] rfl rfl rfl (by decide) (by decide)
  exact ⟨(hdeep rfl rfl).1 [] [1, 2, 3, 4] [5, 6, 7, 8] rfl rfl rfl,
    (hshallow rfl rfl).2 (by decide), hbytes rfl rfl [] 7 8 rfl⟩

end Machine

end TwinStack
