import TwinStack.Checked.Step
import TwinStack.Proofs.CheckedOperands
import TwinStack.Proofs.Steps

/-! Steps do not trap. On an image and stacks that fit into memory a step in machine words is the
step of `Machine.step`, so no sum or product leaves the words, and no index or range its row. Since
jumps reach no further than a short, the program counter stays within a short of the image. -/
namespace TwinStack

/-- Both stacks fit into memory. -/
structure Machine.Fits (m : Machine) : Prop where
  wst_le : m.wst.size ≤ Checked.capacity
  rst_le : m.rst.size ≤ Checked.capacity

theorem Machine.Fits.stack_le {m : Machine} (h : m.Fits) (side : Side) :
    (m.stack side).size ≤ Checked.capacity := by
  cases side with
  | working => exact h.wst_le
  | ret => exact h.rst_le

theorem Address.toNat_halves (address : UInt8) :
    (address >>> 4).toNat = Address.slot address ∧
      (address &&& 0x0f).toNat = Address.port address := by
  revert address
  exact forall_byte (by decide +kernel)

/-- The halves of an address name a slot and a port. -/
theorem Bus.send_address (b : Bus) (w : Write) :
    b.send (w.address >>> 4).toNat (w.address &&& 0x0f) w.value = .ok (b.deliver? w) := by
  obtain ⟨hslot, hport⟩ := Address.toNat_halves w.address
  have hlt : (w.address &&& 0x0f).toNat < 16 := by
    rw [hport]
    exact Fin.isLt _
  have hout (d : Device) : d.output (w.address &&& 0x0f) w.value =
      .ok (d.record (Address.port w.address) w.value) := by
    rw [Device.output, dif_pos hlt]
    congr
  rw [hslot, send, dif_pos (Fin.isLt _), deliver?]
  cases hd : b.slots[(Address.slot w.address : Nat)] with
  | none => simp
  | some d =>
    simp only [hout]
    rfl

namespace Checked
variable {image : Image} {mode : Mode} {m m' : Machine} {operation : Operation}

theorem run_onStack {α : Type} (side : Side) (act : Checked Operands α) (m : Machine) :
    (onStack side act).run m = match act.run (.ofStack (m.stack side)) with
      | .ok a o => .ok a (m.setStack side o.stack)
      | .error failure o => .error failure (m.setStack side o.stack) := by
  unfold onStack EStateM.run
  rfl

theorem run_onStack_append {side : Side} {bytes : List UInt8}
    (h : ((m.stack side).pushBytes bytes).size ≤ capacity) :
    (onStack side (append bytes)).run m =
      .ok () (m.setStack side ((m.stack side).pushBytes bytes)) := by
  rw [Stack.size_pushBytes] at h
  rw [run_onStack, run_append h]
  rfl

theorem run_takeByte (m : Machine) :
    (onStack .working takeByte).run m = match m.wst.cells with
      | top :: rest => .ok top { m with wst := ⟨rest⟩ }
      | [] => .error (.fault .stackUnderflow) m := by
  obtain ⟨⟨cells⟩, rst, pc, bus⟩ := m
  cases cells <;> rfl

theorem run_takeByte_of_push {s : Stack} {b : UInt8} (hs : m.wst = s.pushByte b) :
    (onStack .working takeByte).run m = .ok b { m with wst := s } := by
  rw [run_takeByte, hs]
  rfl

theorem run_next {skipped : Nat} (h : m.pc + skipped + 1 < UInt64.size) :
    (next skipped).run m = .ok { flow := .goto (m.pc + skipped + 1) } m := by
  change (add m.pc skipped >>= fun position => add position 1 >>= fun target =>
    pure (Effect.mk (.goto target) none)).run m = _
  rw [EStateM.run_bind, run_add (by omega)]
  dsimp only
  rw [EStateM.run_bind, run_add h]
  rfl

theorem run_immediate (image : Image) (w : Width) (h : m.pc + 1 < UInt64.size) :
    (immediate image w).run m = match image.valueAt? (m.pc + 1) w with
      | some v => .ok v m
      | none => .error (.fault .truncatedImmediate) m := by
  change (add m.pc 1 >>= fun position => match image.valueAt? position w with
    | some v => pure v
    | none => throw (.fault .truncatedImmediate)).run m = _
  rw [EStateM.run_bind, run_add h]
  dsimp only
  cases image.valueAt? (m.pc + 1) w <;> rfl

theorem run_immediateTarget (image : Image) (h : m.pc + 65536 < UInt64.size) :
    (immediateTarget image).run m = match image.valueAt? (m.pc + 1) .short with
      | some v => .ok (m.pc + v.toUInt16.toNat) m
      | none => .error (.fault .truncatedImmediate) m := by
  rw [immediateTarget, EStateM.run_bind, run_immediate image .short (by omega)]
  cases image.valueAt? (m.pc + 1) .short with
  | none => rfl
  | some v =>
    have hv := v.toUInt16.toNat_lt
    exact run_add (by omega) m

theorem run_pushReturn {position : Nat}
    (h : (m.rst.pushShort (UInt16.ofNat position)).size ≤ capacity) :
    (pushReturn position).run m =
      .ok () { m with rst := m.rst.pushShort (UInt16.ofNat position) } :=
  run_onStack_append h

theorem run_deliver (w : Write) (m : Machine) :
    (deliver w).run m = match m.bus.deliver? w with
      | some bus => .ok none { m with bus }
      | none => .ok (some w) m := by
  have hslot : (w.address >>> 4).toNat < 16 := by
    rw [(Address.toNat_halves w.address).1]
    exact Fin.isLt _
  have hsend := m.bus.send_address w
  unfold deliver
  dsimp only
  rw [if_pos hslot, EStateM.run_bind, EStateM.run_get]
  dsimp only
  rw [hsend]
  cases m.bus.deliver? w <;> rfl

theorem run_onStack_pop {side : Side} {w : Width} {s : Stack} {v : Value} (hm : m.Fits)
    (hs : m.stack side = s.push v) (hw : v.width = w) :
    (onStack side do
      let v ← pop w
      commit
      return v).run m = .ok v (m.setStack side s) := by
  obtain ⟨o, hr, rfl, -⟩ := run_pop_bind (.ofStack (hm.stack_le side)) hs hw fun v => do
    commit
    return v
  rw [run_onStack, hr]
  rfl

theorem run_popWrite {s : Stack} {w : Write}
    (h : ((s.pushByte w.value).pushByte w.address).size ≤ capacity) :
    popWrite.run (.ofStack ((s.pushByte w.value).pushByte w.address)) = .ok w (.ofStack s) := by
  have hone : Fits ⟨(s.pushByte w.value).pushByte w.address, 1⟩ := ⟨Nat.le_add_left 1 _, h⟩
  rw [popWrite, EStateM.run_bind, run_popByte (.ofStack h)]
  change (popByte >>= fun value => commit >>= fun _ => pure (Write.mk w.address value)).run
    ⟨(s.pushByte w.value).pushByte w.address, 1⟩ = _
  rw [EStateM.run_bind, run_popByte hone]
  rfl

theorem run_popWrite_of_lt {s : Stack} (h : s.size ≤ capacity) (hlt : s.size < 2) :
    ∃ o, popWrite.run (.ofStack s) = .error (.fault .stackUnderflow) o ∧ o.stack = s := by
  obtain ⟨cells⟩ := s
  rw [popWrite, EStateM.run_bind, run_popByte (.ofStack h)]
  match cells with
  | [] => exact ⟨_, rfl, rfl⟩
  | [address] =>
    have hone : Fits ⟨⟨[address]⟩, 1⟩ := ⟨Nat.le_refl 1, h⟩
    change ∃ o, (popByte >>= fun value => commit >>= fun _ => pure (Write.mk address value)).run
      ⟨⟨[address]⟩, 1⟩ = .error (.fault .stackUnderflow) o ∧ o.stack = ⟨[address]⟩
    rw [EStateM.run_bind, run_popByte hone]
    exact ⟨_, rfl, rfl⟩
  | _ :: _ :: rest =>
    simp only [Stack.size, List.length_cons] at hlt
    omega

theorem run_execute_deo {s : Stack} {w : Write} (image : Image) (mode : Mode) (hm : m.Fits)
    (hs : m.wst = (s.pushByte w.value).pushByte w.address) (hpc : m.pc + 1 < UInt64.size) :
    (execute image mode .deo).run m = match m.bus.deliver? w with
      | some bus => .ok { flow := .goto (m.pc + 1) } { m with wst := s, bus }
      | none => .ok { flow := .goto (m.pc + 1), dropped := some w } { m with wst := s } := by
  have hfits := hm.wst_le
  have hpop : (onStack .working popWrite).run m = .ok w { m with wst := s } := by
    rw [hs] at hfits
    rw [run_onStack, Machine.stack, hs, run_popWrite hfits]
    rfl
  rw [execute, EStateM.run_bind, hpop]
  dsimp only
  rw [EStateM.run_bind, run_deliver]
  dsimp only
  cases m.bus.deliver? w with
  | none =>
    dsimp only
    rw [EStateM.run_bind, run_next hpc]
    rfl
  | some bus =>
    dsimp only
    rw [EStateM.run_bind, run_next hpc]
    rfl

theorem run_execute_jci (image : Image) (mode : Mode) (h : m.pc + 65536 < UInt64.size) :
    (execute image mode .jci).run m = match m.wst.cells with
      | [] => .error (.fault .stackUnderflow) m
      | top :: rest =>
        if top = 0 then
          .ok { flow := .goto (m.pc + 3) } { m with wst := ⟨rest⟩ }
        else
          match image.valueAt? (m.pc + 1) .short with
          | some v => .ok { flow := .goto (m.pc + v.toUInt16.toNat) } { m with wst := ⟨rest⟩ }
          | none => .error (.fault .truncatedImmediate) m := by
  have hone : 0 + 1 < UInt64.size := by decide
  have hpeek := run_peekByte m.wst hone m
  obtain ⟨⟨cells⟩, rst, pc, bus⟩ := m
  rw [execute]
  change (peekByte ⟨cells⟩ 0 >>= fun top => if top = 0
    then next 2 >>= fun effect => onStack .working takeByte >>= fun _ => pure effect
    else immediateTarget image >>= fun target => jump target >>= fun effect =>
      onStack .working takeByte >>= fun _ => pure effect).run ⟨⟨cells⟩, rst, pc, bus⟩ = _
  rw [EStateM.run_bind, hpeek]
  cases cells with
  | nil => rfl
  | cons top rest =>
    dsimp only [Stack.byteAt?, List.getElem?_cons_zero]
    by_cases hz : top = 0
    · rw [if_pos hz, if_pos hz, EStateM.run_bind, run_next (Nat.lt_trans (by omega) h)]
      rfl
    · rw [if_neg hz, if_neg hz, EStateM.run_bind, run_immediateTarget image h]
      cases image.valueAt? (pc + 1) .short <;> rfl

/-- A rule that applies is what the operation does in machine words. -/
theorem run_execute {effect : Effect} (h : operation.Performs image mode m effect m')
    (hpc : m.pc < capacity) (hm : m.Fits) (hm' : m'.Fits) :
    (execute image mode operation).run m = .ok effect m' := by
  have hcap : capacity + 65536 < UInt64.size := by decide
  cases h with
  | brk => rfl
  | lit v hv =>
    have hfits := hm'.stack_le mode.side
    have hw := mode.width.size_le_two
    rw [Machine.stack_setStack_self, Stack.push_eq_pushBytes] at hfits
    rw [execute, EStateM.run_bind, run_immediate image mode.width (by omega), hv]
    dsimp only
    rw [EStateM.run_bind, run_onStack_append hfits, Stack.push_eq_pushBytes]
    dsimp only
    rw [run_next (by rw [Machine.pc_setStack]; omega), Machine.pc_setStack]
  | data op s h =>
    have hfits := hm'.stack_le mode.side
    rw [Machine.stack_setStack_self] at hfits
    rw [execute, EStateM.run_bind, run_onStack, run_apply h (hm.stack_le mode.side) hfits]
    dsimp only
    rw [run_next (by rw [Machine.pc_setStack]; omega), Machine.pc_setStack]
    rfl
  | jmpByte s offset hw hs =>
    have hoffset := offset.toNat_lt
    rw [execute, EStateM.run_bind, run_onStack_pop (v := .byte offset) hm hs hw.symm]
    dsimp only
    rw [run_next (by rw [Machine.pc_setStack]; omega), Machine.pc_setStack]
  | jmpShort s position hw hs =>
    rw [execute, EStateM.run_bind, run_onStack_pop (v := .short position) hm hs hw.symm]
    rfl
  | jsr s offset hs =>
    have hoffset := offset.toNat_lt
    have hnext : m.pc + offset.toNat + 1 < UInt64.size := by omega
    rw [execute, EStateM.run_bind, run_takeByte_of_push hs]
    change (add m.pc 1 >>= fun position => pushReturn position >>= fun _ =>
      next offset.toNat).run { m with wst := s } = _
    rw [EStateM.run_bind, run_add (by omega)]
    dsimp only
    rw [EStateM.run_bind, run_pushReturn (m := ⟨s, m.rst, m.pc, m.bus⟩) hm'.rst_le]
    exact run_next (m := ⟨s, m.rst.pushShort (UInt16.ofNat (m.pc + 1)), m.pc, m.bus⟩) hnext
  | jmi offset hv =>
    rw [execute, EStateM.run_bind, run_immediateTarget image (by omega), hv]
    rfl
  | jciSkip s hs =>
    rw [run_execute_jci image mode (by omega), hs]
    rfl
  | jciTake s top offset hs ht hv =>
    rw [run_execute_jci image mode (by omega), hs, hv]
    exact if_neg ht
  | jsi offset hv =>
    have hoffset := offset.toNat_lt
    rw [execute, EStateM.run_bind, run_immediate image .short (by omega), hv]
    change (add m.pc 3 >>= fun position => pushReturn position >>= fun _ => get >>= fun m' =>
      add m'.pc offset.toNat >>= jump).run m = _
    rw [EStateM.run_bind, run_add (by omega)]
    dsimp only
    rw [EStateM.run_bind, run_pushReturn hm'.rst_le]
    change (add m.pc offset.toNat >>= jump).run _ = _
    rw [EStateM.run_bind, run_add (by omega)]
    rfl
  | sth s b hs =>
    have hfits : ((Machine.stack ⟨s, m.rst, m.pc, m.bus⟩ .ret).pushBytes [b]).size ≤ capacity :=
      hm'.rst_le
    rw [execute, EStateM.run_bind, run_takeByte_of_push hs]
    dsimp only
    rw [EStateM.run_bind, run_onStack_append hfits]
    exact run_next (m := ⟨s, m.rst.pushByte b, m.pc, m.bus⟩) (by dsimp only; omega)
  | deo s value address bus hs hb =>
    rw [run_execute_deo (w := ⟨address, value⟩) image mode hm hs (by omega), hb]
  | deoDropped s value address hs hb =>
    rw [run_execute_deo (w := ⟨address, value⟩) image mode hm hs (by omega), hb]

theorem run_execute_of_underflows (image : Image) (h : operation.Underflows mode m)
    (hpc : m.pc < capacity) (hm : m.Fits) :
    (execute image mode operation).run m = .error (.fault .stackUnderflow) m := by
  have hcap : capacity + 65536 < UInt64.size := by decide
  cases operation with
  | brk | lit | jmi | jsi => exact h.elim
  | data op =>
    obtain ⟨o, hr, hs⟩ := run_apply_of_lt mode.keep mode.width op (hm.stack_le mode.side) h
    rw [execute, EStateM.run_bind, run_onStack, hr]
    simp [hs]
  | jmp =>
    have hstarves : Starves mode.width.size (do
        let v ← pop mode.width
        commit
        return v) := starves_pop fun v => starves_zero _
    obtain ⟨o, hr, hs⟩ :=
      hstarves (.ofStack (m.stack mode.side)) (.ofStack (hm.stack_le mode.side)) h
    rw [execute, EStateM.run_bind, run_onStack, hr]
    simp [hs, Operands.ofStack]
  | jsr => rw [execute, EStateM.run_bind, run_takeByte, m.wst.size_lt_one_iff.mp h]
  | sth => rw [execute, EStateM.run_bind, run_takeByte, m.wst.size_lt_one_iff.mp h]
  | jci => rw [run_execute_jci image mode (by omega), m.wst.size_lt_one_iff.mp h]
  | deo =>
    obtain ⟨o, hr, hs⟩ := run_popWrite_of_lt hm.wst_le h
    rw [execute, EStateM.run_bind, run_onStack, Machine.stack, hr]
    simp [hs, Machine.setStack]

theorem run_execute_of_truncates (h : operation.Truncates image mode m) (hpc : m.pc < capacity) :
    (execute image mode operation).run m = .error (.fault .truncatedImmediate) m := by
  have hcap : capacity + 65536 < UInt64.size := by decide
  cases operation with
  | brk | data | jmp | jsr | sth | deo => exact h.elim
  | lit =>
    rw [execute, EStateM.run_bind, run_immediate image mode.width (by omega),
      (image.valueAt?_eq_none_iff _ _).mpr h]
  | jmi =>
    rw [execute, EStateM.run_bind, run_immediateTarget image (by omega),
      (image.valueAt?_eq_none_iff _ _).mpr h]
  | jsi =>
    rw [execute, EStateM.run_bind, run_immediate image .short (by omega),
      (image.valueAt?_eq_none_iff _ _).mpr h]
  | jci =>
    obtain ⟨⟨top, ht, hz⟩, hsize⟩ := h
    have hnone := (image.valueAt?_eq_none_iff (m.pc + 1) .short).mpr hsize
    obtain ⟨⟨cells⟩, rst, pc, bus⟩ := m
    cases cells with
    | nil => cases ht
    | cons t rest =>
      obtain rfl : t = top := by simpa [Stack.byteAt?] using ht
      rw [run_execute_jci image mode (Nat.lt_trans (Nat.add_lt_add_right hpc _) hcap)]
      dsimp only
      rw [if_neg hz, hnone]

end Checked

theorem Operation.getElem?_table (opcode : UInt8) :
    Operation.table[opcode.toNat]? = some (Operation.ofOpcode? opcode) := by
  have hlt : opcode.toNat < 256 := opcode.toNat_lt
  rw [Vector.getElem?_eq_getElem hlt, Operation.table, Vector.getElem_ofFn]
  simp

/-- No operation goes further than a short from its own place, if it does not name the place by a
short. A stored offset takes two more bytes of the image. -/
theorem Operation.Performs.goto_le {image : Image} {mode : Mode} {m m' : Machine}
    {operation : Operation} {effect : Effect} {position : Nat}
    (h : operation.Performs image mode m effect m') (hpc : m.pc < image.size)
    (hf : effect.flow = .goto position) : position ≤ 65532 + max 3 image.size := by
  have hoffset (offset : UInt16)
      (hv : image.valueAt? (m.pc + 1) .short = some (.short offset)) :
      m.pc + offset.toNat ≤ 65532 + max 3 image.size := by
    have hlt := offset.toNat_lt
    have hsize : ¬ image.size < m.pc + 1 + Width.short.size := by
      rw [← image.valueAt?_eq_none_iff, hv]
      nofun
    simp only [Width.size] at hsize
    omega
  cases h with
  | brk => cases hf
  | lit =>
    cases hf
    have := mode.width.size_le_two
    omega
  | data | jciSkip | sth | deo | deoDropped =>
    cases hf
    omega
  | jmpByte s offset | jsr s offset =>
    cases hf
    have := offset.toNat_lt
    omega
  | jmpShort s address =>
    cases hf
    have := address.toNat_lt
    omega
  | jmi offset hv | jsi offset hv =>
    cases hf
    exact hoffset offset hv
  | jciTake s top offset hs ht hv =>
    cases hf
    exact hoffset offset hv

namespace Machine
variable {image : Image} {m : Machine}

theorem pc_step_le (h : m.pc ≤ 65532 + max 3 image.size) :
    (m.step image).machine.pc ≤ 65532 + max 3 image.size := by
  obtain ⟨-, hs⟩ | ⟨fault, -, hm⟩ | ⟨byte, operation, effect, m', hb, -, hp, -, hm⟩ :=
    step_cases m image
  · rw [hs]
    exact h
  · rw [hm]
    exact h
  · have hlt := (Array.getElem?_eq_some_iff.mp hb).1
    cases hflow : effect.flow with
    | halt =>
      rw [hm, hflow, hp.eq_of_halt hflow]
      exact h
    | goto position =>
      rw [hm, hflow]
      exact hp.goto_le hlt hflow

theorem pc_stepped_le (h : m.pc ≤ 65532 + max 3 image.size) (n : Nat) :
    (m.stepped image n).pc ≤ 65532 + max 3 image.size := by
  induction n with
  | zero => exact h
  | succ n ih => exact pc_step_le ih

theorem follow_fits (image : Image) (flow : Flow) (h : (m.follow image flow).2.Fits) : m.Fits := by
  cases flow with
  | halt => exact h
  | goto position => exact ⟨h.wst_le, h.rst_le⟩

/-- In machine words a step is the same step. -/
theorem checkedStep_eq (hi : image.size ≤ Checked.capacity) (hm : m.Fits)
    (hm' : (m.step image).machine.Fits) :
    m.checkedStep image = .ok ((m.step image).outcome, (m.step image).machine) := by
  cases hb : image[m.pc]? with
  | none =>
    rw [step_of_size_le m image (by simpa using hb)]
    simp only [checkedStep, hb]
  | some byte =>
    have hpc : m.pc < Checked.capacity :=
      Nat.lt_of_lt_of_le (Array.getElem?_eq_some_iff.mp hb).1 hi
    have htable := Operation.getElem?_table (Instruction.decode byte).opcode
    cases ho : (Instruction.decode byte).operation? with
    | none =>
      rw [← Instruction.operation?, ho] at htable
      rw [step_of_operation?_eq_none hb ho]
      simp only [checkedStep, hb, htable]
    | some operation =>
      rw [← Instruction.operation?, ho] at htable
      cases hr : (operation.execute image (Instruction.decode byte).mode).run m with
      | error fault m₁ =>
        obtain ⟨rfl, ⟨rfl, hu⟩ | ⟨rfl, ht⟩⟩ := Operation.run_execute_eq_error_iff.mp hr
        · have hc := Checked.run_execute_of_underflows image hu hpc hm
          rw [step_of_run_error hb ho hr]
          simp only [checkedStep, hb, htable, hc]
        · have hc := Checked.run_execute_of_truncates ht hpc
          rw [step_of_run_error hb ho hr]
          simp only [checkedStep, hb, htable, hc]
      | ok effect m₁ =>
        have hp := Operation.run_execute_eq_ok_iff.mp hr
        rw [step_of_run_ok hb ho hr] at hm' ⊢
        have hc := Checked.run_execute hp hpc hm (follow_fits image effect.flow hm')
        simp only [checkedStep, hb, htable, hc]

/-- No step traps on what fits into memory, and from the start of an image the program counter goes
no further than a jump from its end: a running step leaves it inside. -/
theorem step_never_traps (image : Image) :
    (∀ m : Machine, image.size ≤ Checked.capacity → m.Fits → (m.step image).machine.Fits →
      m.checkedStep image = .ok ((m.step image).outcome, (m.step image).machine)) ∧
    ∀ m : Machine, m.pc = 0 → ∀ n,
      (m.stepped image n).pc ≤ 65532 + max 3 image.size ∧
      (((m.stepped image n).step image).outcome = .running →
        (m.stepped image n).pc < image.size ∧ (m.stepped image (n + 1)).pc < image.size) := by
  refine ⟨fun m hi hm hm' => checkedStep_eq hi hm hm', fun m h0 n => ⟨?_, pc_lt_size_of_running⟩⟩
  refine pc_stepped_le ?_ n
  rw [h0]
  exact Nat.zero_le _

/-- A layer and the second operand are copied from a stack of just enough bytes. -/
theorem step_never_traps_layer :
    checkedStep { wst := .ofBytes [1, 2, 3, 4, 5, 6, 7, 8] } #[0xa7, 0x00] =
        .ok (.running, { wst := .ofBytes [1, 2, 3, 4, 5, 6, 7, 8, 1, 2, 3, 4, 5, 6], pc := 1 }) ∧
      (stepped { wst := .ofBytes [1, 2, 3, 4, 5, 6, 7, 8] } #[0xa7, 0x00] 1).pc < 2 := by
  have hstep : step { wst := .ofBytes [1, 2, 3, 4, 5, 6, 7, 8] } #[0xa7, 0x00] =
      ⟨.running, { wst := .ofBytes [1, 2, 3, 4, 5, 6, 7, 8, 1, 2, 3, 4, 5, 6], pc := 1 },
        [.executing 0 0xa7 (Instruction.decode 0xa7)]⟩ := by decide
  obtain ⟨hsame, hrun⟩ := step_never_traps #[0xa7, 0x00]
  have hchecked := hsame { wst := .ofBytes [1, 2, 3, 4, 5, 6, 7, 8] } (by decide)
    ⟨by decide, by decide⟩ (by rw [hstep]; exact ⟨by decide, by decide⟩)
  rw [hstep] at hchecked
  exact ⟨hchecked, ((hrun _ rfl 0).2 (by decide)).2⟩

end Machine

end TwinStack
