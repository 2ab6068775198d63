import TwinStack.Proofs.Steps

/-! Device writes over a run. The bus after any number of steps is the bus before them with the
writes of the steps delivered in order, so each port's log grows by the values sent to its
address, newest first. -/
namespace TwinStack

/-- A device in slot `slot` takes a write if it is addressed to that slot. -/
def Device.receive (d : Device) (slot : Nat) (w : Write) : Device :=
  if slot = Address.slot w.address then d.record (Address.port w.address) w.value else d

theorem Device.log_receive (d : Device) (slot : Nat) (w : Write) {q : Nat} (hq : q < 16) :
    (d.receive slot w).log q =
      if w.address.toNat = 16 * slot + q then w.value :: d.log q else d.log q := by
  have hslot : (Address.slot w.address : Nat) = w.address.toNat / 16 := rfl
  have hport : (Address.port w.address : Nat) = w.address.toNat % 16 := rfl
  unfold receive
  by_cases hs : slot = Address.slot w.address
  · rw [if_pos hs, log_record]
    by_cases hp : q = Address.port w.address
    · rw [if_pos hp, if_pos (by omega)]
    · rw [if_neg hp, if_neg (by omega)]
  · rw [if_neg hs, if_neg (by omega)]

/-- A port's log after some writes: the new values, newest first, and the old log below. -/
theorem Device.log_foldl_receive (d : Device) (slot : Nat) (ws : List Write) {q : Nat}
    (hq : q < 16) :
    (ws.foldl (·.receive slot ·) d).log q =
      ((ws.filter fun w => w.address.toNat = 16 * slot + q).map Write.value).reverse ++
        d.log q := by
  induction ws generalizing d with
  | nil => rfl
  | cons w ws ih =>
    rw [List.foldl_cons, ih, log_receive d slot w hq]
    by_cases h : w.address.toNat = 16 * slot + q
    · simp [h]
    · simp [h]

namespace Bus

/-- The bus after a write; one to an empty slot is lost. -/
def output (b : Bus) (w : Write) : Bus :=
  (b.deliver? w).getD b

theorem deliver?_eq_map (b : Bus) (w : Write) :
    b.deliver? w = (b.device? (Address.slot w.address)).map fun d =>
      b.place (Address.slot w.address) (some (d.record (Address.port w.address) w.value)) := by
  simp [deliver?, device?]

theorem device?_output (b : Bus) (w : Write) (i : Nat) :
    (b.output w).device? i = (b.device? i).map (·.receive i w) := by
  unfold output
  rw [deliver?_eq_map]
  by_cases h : i = Address.slot w.address
  · subst h
    cases hd : b.device? (Address.slot w.address) with
    | none => simpa using hd
    | some d => simp [device?_place, Device.receive]
  · have hsame (d : Device) : d.receive i w = d := if_neg h
    cases hd : b.device? (Address.slot w.address) with
    | none => simp [hsame]
    | some d => simp [device?_place, hsame, h]

theorem device?_foldl_output (b : Bus) (ws : List Write) (i : Nat) :
    (ws.foldl output b).device? i =
      (b.device? i).map fun d => ws.foldl (·.receive i ·) d := by
  induction ws generalizing b with
  | nil => simp
  | cons w ws ih =>
    rw [List.foldl_cons, ih, device?_output, Option.map_map]
    rfl

end Bus

theorem Instruction.operation?_eq_deo_iff (byte : UInt8) :
    (decode byte).operation? = some .deo ↔ byte &&& 0x1f = 0x17 := by
  revert byte
  exact forall_byte (by decide +kernel)

theorem Operation.Performs.bus_eq {image : Image} {mode : Mode} {m m' : Machine}
    {operation : Operation} {effect : Effect} (h : operation.Performs image mode m effect m')
    (ho : operation ≠ .deo) : m'.bus = m.bus := by
  cases h with
  | lit | data | jmpByte | jmpShort => exact Machine.bus_setStack ..
  | brk | jsr | jmi | jciSkip | jciTake | jsi | sth => rfl
  | deo | deoDropped => exact absurd rfl ho

namespace Machine
variable {image : Image} {m : Machine} {w : Write}

/-- The write that the next step sends, if it is a device write with both its operands: the address
on top of the working stack and the value below. -/
def write? (m : Machine) (image : Image) : Option Write := do
  let byte ← image[m.pc]?
  if byte &&& 0x1f = 0x17 then
    let address ← m.wst.byteAt? 0
    let value ← m.wst.byteAt? 1
    return ⟨address, value⟩
  else
    none

/-- The writes of the first `n` steps, in order. -/
def writes (m : Machine) (image : Image) (n : Nat) : List Write :=
  (List.range n).filterMap fun k => (m.stepped image k).write? image

theorem writes_succ (m : Machine) (image : Image) (n : Nat) :
    m.writes image (n + 1) = m.writes image n ++ ((m.stepped image n).write? image).toList := by
  rw [writes, List.range_succ, List.filterMap_append]
  cases h : (m.stepped image n).write? image <;> simp [writes, h]

theorem bus_follow (m : Machine) (image : Image) (flow : Flow) :
    (m.follow image flow).2.bus = m.bus := by
  cases flow <;> rfl

theorem step_deo {byte : UInt8} {s : Stack} (hb : image[m.pc]? = some byte)
    (hd : byte &&& 0x1f = 0x17) (hs : m.wst = (s.pushByte w.value).pushByte w.address) :
    (∀ fault, (m.step image).outcome ≠ .faulted fault) ∧
      (m.step image).machine.bus = m.bus.output w := by
  have ho := (Instruction.operation?_eq_deo_iff byte).mpr hd
  unfold Bus.output
  cases hbus : m.bus.deliver? w with
  | none =>
    rw [step_of_performs hb ho (.deoDropped s w.value w.address hs hbus)]
    exact ⟨follow_ne_faulted _ image _, bus_follow _ image _⟩
  | some bus =>
    rw [step_of_performs hb ho (.deo s w.value w.address bus hs hbus)]
    exact ⟨follow_ne_faulted _ image _, bus_follow _ image _⟩

theorem write?_eq_some_iff_stack :
    m.write? image = some w ↔ ∃ byte, image[m.pc]? = some byte ∧ byte &&& 0x1f = 0x17 ∧
      m.wst.byteAt? 0 = some w.address ∧ m.wst.byteAt? 1 = some w.value := by
  unfold write?
  simp only [Option.bind_eq_bind, Option.bind_eq_some_iff]
  refine exists_congr fun byte => and_congr_right fun _ => ?_
  by_cases hd : byte &&& 0x1f = 0x17
  · rw [if_pos hd]
    simp only [Option.bind_eq_some_iff, hd, true_and]
    constructor
    · rintro ⟨address, ha, value, hv, hw⟩
      obtain rfl := Option.some.inj hw
      exact ⟨ha, hv⟩
    · rintro ⟨ha, hv⟩
      exact ⟨_, ha, _, hv, rfl⟩
  · simp [hd]

theorem exists_push_of_write? (h : m.write? image = some w) :
    ∃ byte s, image[m.pc]? = some byte ∧ byte &&& 0x1f = 0x17 ∧
      m.wst = (Stack.pushByte s w.value).pushByte w.address := by
  obtain ⟨byte, hb, hd, ha, hv⟩ := write?_eq_some_iff_stack.mp h
  obtain ⟨⟨cells⟩, rst, pc, bus⟩ := m
  match cells with
  | [] => cases ha
  | [_] => cases hv
  | a :: b :: rest =>
    obtain rfl : a = w.address := Option.some.inj ha
    obtain rfl : b = w.value := Option.some.inj hv
    exact ⟨byte, ⟨rest⟩, hb, hd, rfl⟩

theorem bus_step (m : Machine) (image : Image) :
    (m.step image).machine.bus = (m.write? image).toList.foldl Bus.output m.bus := by
  cases hw : m.write? image with
  | some w =>
    obtain ⟨byte, s, hb, hd, hs⟩ := exists_push_of_write? hw
    exact (step_deo hb hd hs).2
  | none =>
    obtain ⟨-, hs⟩ | ⟨fault, -, hm⟩ | ⟨byte, operation, effect, m', hb, ho, hp, -, hm⟩ :=
      step_cases m image
    · rw [hs]
      rfl
    · rw [hm]
      rfl
    · rw [hm, bus_follow]
      refine hp.bus_eq ?_
      rintro rfl
      -- The operands of the rule are those of a write.
      have hd := (Instruction.operation?_eq_deo_iff byte).mp ho
      have hsome : ∃ w, m.write? image = some w := by
        cases hp with
        | deo s value address bus hs | deoDropped s value address hs =>
          have ha : m.wst.byteAt? 0 = some address := by
            rw [hs]
            rfl
          have hv : m.wst.byteAt? 1 = some value := by
            rw [hs]
            rfl
          exact ⟨⟨address, value⟩, write?_eq_some_iff_stack.mpr ⟨byte, hb, hd, ha, hv⟩⟩
      obtain ⟨w, hsome⟩ := hsome
      cases hw.symm.trans hsome

theorem bus_stepped (m : Machine) (image : Image) (n : Nat) :
    (m.stepped image n).bus = (m.writes image n).foldl Bus.output m.bus := by
  induction n with
  | zero => rfl
  | succ n ih => rw [stepped, bus_step, ih, writes_succ, List.foldl_append]

theorem device?_stepped (m : Machine) (image : Image) (n i : Nat) :
    (m.stepped image n).bus.device? i =
      (m.bus.device? i).map fun d => (m.writes image n).foldl (·.receive i ·) d := by
  rw [bus_stepped, Bus.device?_foldl_output]

/-- No write is lost, made twice or out of order. A write is made by each device write that does
not fault, nothing else changes the bus, and the logs hold the writes newest first. -/
theorem bus_takes_writes (image : Image) (m : Machine) :
    (∀ (m : Machine) (w : Write), m.write? image = some w ↔
      (∃ byte, image[m.pc]? = some byte ∧ byte &&& 0x1f = 0x17) ∧
      (∀ fault, (m.step image).outcome ≠ .faulted fault) ∧
      m.wst.byteAt? 0 = some w.address ∧ m.wst.byteAt? 1 = some w.value) ∧
    (∀ m : Machine, m.write? image = none → (m.step image).machine.bus = m.bus) ∧
    (∀ n, (m.stepped image n).bus = (m.writes image n).foldl Bus.output m.bus ∧
      (∀ i, ((m.stepped image n).bus.device? i).isSome = (m.bus.device? i).isSome) ∧
      ∀ i d, m.bus.device? i = some d →
        ∃ d', (m.stepped image n).bus.device? i = some d' ∧ ∀ q < 16, d'.log q =
          (((m.writes image n).filter fun w => w.address.toNat = 16 * i + q).map
            Write.value).reverse ++ d.log q) ∧
    ∀ limit e, m.run? image limit = some e →
      e.machine = m.stepped image (m.advance image limit).made := by
  refine ⟨fun m w => ⟨fun h => ?_, ?_⟩, ?_, fun n => ⟨bus_stepped m image n, ?_, ?_⟩,
    fun limit e => machine_of_run?⟩
  · obtain ⟨byte, s, hb, hd, hs⟩ := exists_push_of_write? h
    obtain ⟨-, -, -, ha, hv⟩ := write?_eq_some_iff_stack.mp h
    exact ⟨⟨byte, hb, hd⟩, (step_deo hb hd hs).1, ha, hv⟩
  · rintro ⟨⟨byte, hb, hd⟩, -, ha, hv⟩
    exact write?_eq_some_iff_stack.mpr ⟨byte, hb, hd, ha, hv⟩
  · intro m hw
    rw [bus_step, hw]
    rfl
  · intro i
    rw [device?_stepped, Option.isSome_map]
  · intro i d hd
    refine ⟨(m.writes image n).foldl (·.receive i ·) d, ?_, fun q hq => d.log_foldl_receive i _ hq⟩
    rw [device?_stepped, hd]
    rfl

/-- Two bytes to the console's port eight, where one stands already, and one to an empty slot. The
literal before them leaves the bus alone. -/
theorem bus_takes_writes_console :
    (step { bus := ({} : Bus).place 1 (some (Device.record {} 8 0x41)) }
        #[0x80, 0x42, 0x80, 0x18, 0x17, 0xa0, 0x43, 0x28, 0x17, 0xa0, 0x44, 0x18, 0x77]).machine.bus
          = ({} : Bus).place 1 (some (Device.record {} 8 0x41)) ∧
      ∃ e d, run? { bus := ({} : Bus).place 1 (some (Device.record {} 8 0x41)) }
          #[0x80, 0x42, 0x80, 0x18, 0x17, 0xa0, 0x43, 0x28, 0x17, 0xa0, 0x44, 0x18, 0x77] 7
            = some e ∧
        e.machine.bus.device? 1 = some d ∧ d.log 8 = [0x44, 0x42, 0x41] := by
  obtain ⟨-, hother, hsteps, hrun⟩ := bus_takes_writes
    #[0x80, 0x42, 0x80, 0x18, 0x17, 0xa0, 0x43, 0x28, 0x17, 0xa0, 0x44, 0x18, 0x77]
    { bus := ({} : Bus).place 1 (some (Device.record {} 8 0x41)) }
  obtain ⟨-, -, hlogs⟩ := hsteps 7
  obtain ⟨d, hd, hlog⟩ := hlogs 1 (Device.record {} 8 0x41) (by decide)
  obtain ⟨e, he⟩ : ∃ e, run? { bus := ({} : Bus).place 1 (some (Device.record {} 8 0x41)) }
      #[0x80, 0x42, 0x80, 0x18, 0x17, 0xa0, 0x43, 0x28, 0x17, 0xa0, 0x44, 0x18, 0x77] 7 = some e :=
    Option.isSome_iff_exists.mp (by decide)
  refine ⟨hother _ (by decide), e, d, he, ?_, (hlog 8 (by decide)).trans (by decide)⟩
  rw [hrun 7 e he]
  exact hd

end Machine

end TwinStack
