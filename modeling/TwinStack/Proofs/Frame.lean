import TwinStack.Proofs.Rewrites
import TwinStack.Proofs.Runs

/-! Bytes below the operands do not matter. A machine whose stacks have more bytes underneath makes
the same steps, and the bytes stay where they are. -/
namespace TwinStack

namespace Stack

/-- The stack on top of the bytes of `base`. -/
def onto (s : Stack) (base : List UInt8) : Stack :=
  ⟨s.cells ++ base.reverse⟩

@[simp] theorem bytes_onto (s : Stack) (base : List UInt8) :
    (s.onto base).bytes = base ++ s.bytes := by
  simp [onto, bytes]

@[simp] theorem onto_nil (s : Stack) : s.onto [] = s := by
  ext1
  simp

@[simp] theorem pushByte_onto (s : Stack) (b : UInt8) (base : List UInt8) :
    (s.pushByte b).onto base = (s.onto base).pushByte b := rfl

@[simp] theorem pushShort_onto (s : Stack) (v : UInt16) (base : List UInt8) :
    (s.pushShort v).onto base = (s.onto base).pushShort v := rfl

@[simp] theorem push_onto (s : Stack) (v : Value) (base : List UInt8) :
    (s.push v).onto base = (s.onto base).push v := by
  cases v <;> rfl

theorem byteAt?_onto {s : Stack} {offset : Nat} {b : UInt8} (h : s.byteAt? offset = some b)
    (base : List UInt8) : (s.onto base).byteAt? offset = some b := by
  have hlt : offset < s.cells.length := (List.getElem?_eq_some_iff.mp h).1
  rw [byteAt?, onto, List.getElem?_append_left hlt]
  exact h

@[simp] theorem ite_onto (keep : Bool) (s t : Stack) (base : List UInt8) :
    (if keep then s else t).onto base = if keep then s.onto base else t.onto base := by
  cases keep <;> rfl

end Stack

/-- The rules of the data operations look at the top only. The exception is the rule for a stack
that is too shallow. -/
theorem DataOp.Rewrites.onto {keep : Bool} {w : Width} {op : DataOp} {s s' : Stack}
    (h : op.Rewrites keep w s s') (base : List UInt8)
    (hs : op = .ovr → keep = true → w = .short → base ≠ [] → 8 ≤ s.size) :
    op.Rewrites keep w (s.onto base) (s'.onto base) := by
  cases h with
  | inc t b hk => exact .inc _ b hk
  | incKeep t a hk ha =>
    simp only [Stack.push_onto]
    exact .incKeep _ a hk ha
  | pop t a ha =>
    simp only [Stack.push_onto]
    exact .pop _ a ha
  | nip t a b ha hb =>
    simp only [Stack.push_onto, Stack.ite_onto]
    exact .nip _ a b ha hb
  | swp t a b ha hb =>
    simp only [Stack.push_onto, Stack.ite_onto]
    exact .swp _ a b ha hb
  | rot t a b c ha hb hc =>
    simp only [Stack.push_onto]
    exact .rot _ a b c ha hb hc
  | dup t a ha =>
    simp only [Stack.push_onto, Stack.ite_onto]
    exact .dup _ a ha
  | ovr t a b hk ha hb =>
    simp only [Stack.push_onto]
    exact .ovr _ a b hk ha hb
  | ovrKeepByte t a b hk hw ha hb =>
    simp only [Stack.push_onto]
    exact .ovrKeepByte _ a b hk hw ha hb
  | ovrKeepShort t a b c d hk hw ha hb hc hd =>
    simp only [Stack.push_onto]
    exact .ovrKeepShort _ a b c d hk hw ha hb hc hd
  | ovrShallow t a b hk hw ht ha hb =>
    by_cases hbase : base = []
    · subst hbase
      simp only [Stack.onto_nil]
      exact .ovrShallow t a b hk hw ht ha hb
    · have h := hs rfl hk hw hbase
      rw [Stack.size_push, Stack.size_push, ha, hb, hw] at h
      simp only [Width.size] at h
      omega
  | equ t a b ha hb =>
    simp only [Stack.push_onto, Stack.pushByte_onto]
    exact .equ _ a b ha hb
  | add t a b ha hb =>
    simp only [Stack.push_onto, Stack.ite_onto]
    exact .add _ a b ha hb

/-- One of two, for the working stack and for the return stack. -/
def Side.pick {α : Type} (x y : α) : Side → α
  | .working => x
  | .ret => y

namespace Machine

/-- The machine with the bytes of `x` and `y` under its working and its return stack. -/
def onto (m : Machine) (x y : List UInt8) : Machine :=
  { m with wst := m.wst.onto x, rst := m.rst.onto y }

theorem stack_onto (m : Machine) (x y : List UInt8) (side : Side) :
    (m.onto x y).stack side = (m.stack side).onto (side.pick x y) := by
  cases side <;> rfl

theorem setStack_onto (m : Machine) (x y : List UInt8) (side : Side) (s : Stack) :
    (m.setStack side s).onto x y = (m.onto x y).setStack side (s.onto (side.pick x y)) := by
  cases side <;> rfl

end Machine

namespace Operation
variable {image : Image} {mode : Mode} {m m' : Machine} {operation : Operation}

theorem Truncates.onto (h : operation.Truncates image mode m) (x y : List UInt8) :
    operation.Truncates image mode (m.onto x y) := by
  cases operation with
  | brk | data | jmp | jsr | sth | deo => exact h.elim
  | lit | jmi | jsi => exact h
  | jci =>
    obtain ⟨⟨top, ht, hz⟩, hsize⟩ := h
    exact ⟨⟨top, Stack.byteAt?_onto ht x, hz⟩, hsize⟩

theorem Performs.onto {effect : Effect} (h : operation.Performs image mode m effect m')
    (x y : List UInt8)
    (hs : operation = .data .ovr → mode.keep = true → mode.width = .short →
      mode.side.pick x y ≠ [] → 8 ≤ (m.stack mode.side).size) :
    operation.Performs image mode (m.onto x y) effect (m'.onto x y) := by
  cases h with
  | brk => exact .brk
  | lit v hv =>
    rw [Machine.setStack_onto, Stack.push_onto, ← Machine.stack_onto]
    exact .lit v hv
  | data op s h =>
    rw [Machine.setStack_onto]
    refine .data op _ ?_
    rw [Machine.stack_onto]
    exact h.onto _ fun ho => hs (congrArg _ ho)
  | jmpByte s offset hw ht =>
    rw [Machine.setStack_onto]
    refine .jmpByte _ offset hw ?_
    rw [Machine.stack_onto, ht, Stack.pushByte_onto]
  | jmpShort s position hw ht =>
    rw [Machine.setStack_onto]
    refine .jmpShort _ position hw ?_
    rw [Machine.stack_onto, ht, Stack.pushShort_onto]
  | jsr s offset ht =>
    exact .jsr (s.onto x) offset (congrArg (Stack.onto · x) ht)
  | jmi offset hv => exact .jmi offset hv
  | jciSkip s ht => exact .jciSkip (s.onto x) (congrArg (Stack.onto · x) ht)
  | jciTake s top offset ht hz hv =>
    exact .jciTake (s.onto x) top offset (congrArg (Stack.onto · x) ht) hz hv
  | jsi offset hv => exact .jsi offset hv
  | sth s b ht => exact .sth (s.onto x) b (congrArg (Stack.onto · x) ht)
  | deo s value address bus ht hb =>
    exact .deo (s.onto x) value address bus (congrArg (Stack.onto · x) ht) hb
  | deoDropped s value address ht hb =>
    exact .deoDropped (s.onto x) value address (congrArg (Stack.onto · x) ht) hb

end Operation

theorem Instruction.eq_of_decode_ovr (byte : UInt8)
    (ho : (decode byte).operation? = some (.data .ovr)) (hk : (decode byte).mode.keep = true)
    (hw : (decode byte).mode.width = .short) :
    byte = (decode byte).mode.side.pick 0xa7 0xe7 := by
  revert byte
  exact forall_byte (by decide +kernel)

namespace Machine
variable {image : Image} {m mₙ : Machine}

/-- The next instruction is `ovr` on shorts in keep mode, and its stack holds fewer than four of
them. -/
def ShallowOver (m : Machine) (image : Image) (side : Side) : Prop :=
  image[m.pc]? = some (side.pick 0xa7 0xe7) ∧ (m.stack side).size < 8

instance (m : Machine) (image : Image) (side : Side) : Decidable (m.ShallowOver image side) :=
  inferInstanceAs (Decidable (_ ∧ _))

theorem step_onto (x y : List UInt8) (hu : (m.step image).outcome ≠ .faulted .stackUnderflow)
    (hs : ∀ side : Side, side.pick x y ≠ [] → ¬ m.ShallowOver image side) :
    (m.onto x y).step image =
      { m.step image with machine := (m.step image).machine.onto x y } := by
  cases hb : image[m.pc]? with
  | none =>
    have hsize : image.size ≤ m.pc := by simpa using hb
    rw [step_of_size_le m image hsize, step_of_size_le (m.onto x y) image hsize]
  | some byte =>
    have hb' : image[(m.onto x y).pc]? = some byte := hb
    cases ho : (Instruction.decode byte).operation? with
    | none => rw [step_of_operation?_eq_none hb ho, step_of_operation?_eq_none hb' ho]
    | some operation =>
      cases hr : (operation.execute image (Instruction.decode byte).mode).run m with
      | error fault m' =>
        rw [step_of_run_error hb ho hr] at hu ⊢
        obtain ⟨rfl, ⟨rfl, -⟩ | ⟨rfl, ht⟩⟩ := Operation.run_execute_eq_error_iff.mp hr
        · exact absurd rfl hu
        · have hr' := Operation.run_execute_of_truncates (ht.onto x y)
          rw [step_of_run_error hb' ho hr']
          rfl
      | ok effect m' =>
        have hp := Operation.run_execute_eq_ok_iff.mp hr
        have hp' := hp.onto x y (by
          rintro rfl hk hw hbase
          have hbyte := Instruction.eq_of_decode_ovr byte ho hk hw
          exact Nat.le_of_not_lt fun hlt => hs _ hbase ⟨by rw [hb, ← hbyte], hlt⟩)
        rw [step_of_run_ok hb ho hr, step_of_run_ok hb' ho hp'.run_execute]
        cases effect.flow <;> rfl

theorem after?_onto (x y : List UInt8) {n : Nat} (h : m.after? image n = some mₙ)
    (hs : ∀ k < n, ∀ mₖ, m.after? image k = some mₖ →
      ∀ side : Side, side.pick x y ≠ [] → ¬ mₖ.ShallowOver image side) :
    (m.onto x y).after? image n = some (mₙ.onto x y) := by
  induction n generalizing mₙ with
  | zero =>
    obtain rfl : m = mₙ := Option.some.inj h
    rfl
  | succ n ih =>
    obtain ⟨m', ha, ho, rfl⟩ := after?_succ_eq_some_iff.mp h
    have ha' := ih ha fun k hk => hs k (Nat.lt_succ_of_lt hk)
    have hstep := step_onto x y (by simp [ho]) (hs n (Nat.lt_succ_self n) m' ha)
    exact after?_succ_eq_some_iff.mpr ⟨_, ha', by rw [hstep]; exact ho, by rw [hstep]⟩

/-- Bytes under the stacks change nothing in a run that neither underflows nor copies a layer from
a shallow stack. -/
theorem run_frame (image : Image) (m : Machine) (x y : List UInt8) (n : Nat) (mₙ : Machine)
    (h : m.after? image n = some mₙ)
    (hs : ∀ k < n, ∀ mₖ, m.after? image k = some mₖ → ∀ side, ¬ mₖ.ShallowOver image side) :
    (m.onto x y).after? image n = some (mₙ.onto x y) ∧
      ((mₙ.step image).outcome ≠ .faulted .stackUnderflow →
        (∀ side, ¬ mₙ.ShallowOver image side) →
        ((mₙ.onto x y).step image).outcome = (mₙ.step image).outcome ∧
          ((mₙ.onto x y).step image).machine = (mₙ.step image).machine.onto x y) := by
  refine ⟨after?_onto x y h fun k hk mₖ ha side _ => hs k hk mₖ ha side, ?_⟩
  intro hu hn
  rw [step_onto x y hu fun side _ => hn side]
  exact ⟨rfl, rfl⟩

/-- Eight bytes are just enough for the layer, and the literal behind is cut off. -/
theorem run_frame_layer :
    after? { wst := .ofBytes [1, 2, 3, 4, 5, 6, 7, 8] } #[0xa7, 0x80] 1 =
        some { wst := .ofBytes [1, 2, 3, 4, 5, 6, 7, 8, 1, 2, 3, 4, 5, 6], pc := 1 } ∧
      (onto { wst := .ofBytes [1, 2, 3, 4, 5, 6, 7, 8] } [9] [0]).after? #[0xa7, 0x80] 1 =
        some (onto { wst := .ofBytes [1, 2, 3, 4, 5, 6, 7, 8, 1, 2, 3, 4, 5, 6], pc := 1 }
          [9] [0]) ∧
      (step (onto { wst := .ofBytes [1, 2, 3, 4, 5, 6, 7, 8, 1, 2, 3, 4, 5, 6], pc := 1 } [9] [0])
        #[0xa7, 0x80]).outcome = .faulted .truncatedImmediate := by
  have h : after? { wst := .ofBytes [1, 2, 3, 4, 5, 6, 7, 8] } #[0xa7, 0x80] 1 =
      some { wst := .ofBytes [1, 2, 3, 4, 5, 6, 7, 8, 1, 2, 3, 4, 5, 6], pc := 1 } := by decide
  obtain ⟨ha, hnext⟩ := run_frame #[0xa7, 0x80] _ [9] [0] 1 _ h (by
    intro k hk mₖ hmₖ side
    obtain rfl : k = 0 := by omega
    obtain rfl := Option.some.inj hmₖ
    cases side <;> decide)
  refine ⟨h, ha, (hnext (by decide) ?_).1⟩
  intro side
  cases side <;> decide

end Machine

end TwinStack
