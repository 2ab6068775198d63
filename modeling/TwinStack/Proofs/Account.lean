import Mathlib.Algebra.BigOperators.Group.Finset.Piecewise
import TwinStack.Proofs.Stability

/-! The log of a run as an account of its steps. It lists the instructions in the order in which
they were executed, each write that was lost behind its instruction, and the way in which the run
ended; with the growth of the devices' logs it accounts for every write. -/
namespace TwinStack

/-- The number of bytes that a device has logged. -/
def Device.logged (d : Device) : Nat :=
  ∑ q ∈ Finset.range 16, (d.log q).length

def Bus.logged (b : Bus) : Nat :=
  ∑ i ∈ Finset.range 16, (b.device? i).elim 0 Device.logged

theorem Device.logged_record (d : Device) (port : Fin 16) (value : UInt8) :
    (d.record port value).logged = d.logged + 1 := by
  have hlog (q : Nat) : ((d.record port value).log q).length =
      (d.log q).length + if q = port then 1 else 0 := by
    rw [log_record]
    split <;> rfl
  have hport : (port : Nat) ∈ Finset.range 16 := Finset.mem_range.mpr port.isLt
  unfold logged
  rw [Finset.sum_congr rfl fun q _ => hlog q, Finset.sum_add_distrib, Finset.sum_ite_eq',
    if_pos hport]

theorem Bus.logged_output (b : Bus) (w : Write) :
    (b.output w).logged =
      b.logged + if (b.device? (Address.slot w.address)).isSome then 1 else 0 := by
  have hslot : (Address.slot w.address : Nat) ∈ Finset.range 16 :=
    Finset.mem_range.mpr (Address.slot w.address).isLt
  -- Only the summand of the slot that the write is addressed to can change.
  have hdevice (i : Nat) : ((b.output w).device? i).elim 0 Device.logged =
      (b.device? i).elim 0 Device.logged +
        if i = Address.slot w.address then
          (if (b.device? i).isSome then 1 else 0)
        else 0 := by
    rw [device?_output]
    cases b.device? i with
    | none => simp
    | some d =>
      by_cases hi : i = Address.slot w.address
      · simp [Device.receive, hi, Device.logged_record]
      · simp [Device.receive, hi]
  unfold logged
  rw [Finset.sum_congr rfl fun i _ => hdevice i, Finset.sum_add_distrib, Finset.sum_ite_eq',
    if_pos hslot]

def Event.dropped? : Event → Option Write
  | .dropped w => some w
  | .started .. | .executing .. | .faulted .. | .stopped _ => none

theorem Instruction.opcode_mem_of_operation? {i : Instruction} {operation : Operation}
    (h : i.operation? = some operation) : i.opcode ∈ Operation.opcodes := by
  by_contra hnot
  cases ((Operation.ofOpcode?_eq_none_iff i.opcode).mpr hnot).symm.trans h

def Ending.note (e : Ending) : Event :=
  match e.fault? with
  | none => .stopped e.machine.pc
  | some fault => .faulted fault e.machine.pc

theorem Ending.level_note (e : Ending) :
    e.note.level = if e.fault? = none then .debug else .warn := by
  unfold note
  cases e.fault? <;> rfl

theorem Ending.dropped?_note (e : Ending) : e.note.dropped? = none := by
  unfold note
  cases e.fault? <;> rfl

namespace Machine
variable {image : Image} {m : Machine} {byte : UInt8} {operation : Operation}

/-- The write of the next step, if its slot is empty. -/
def lost? (m : Machine) (image : Image) : Option Write :=
  (m.write? image).filter fun w => (m.bus.device? (w.address.toNat / 16)).isNone

def lost (m : Machine) (image : Image) (n : Nat) : List Write :=
  (List.range n).filterMap fun k => (m.stepped image k).lost? image

/-- What there is to note of the next step: its instruction, if there is one, and then its write, if
that is lost. -/
def notes (m : Machine) (image : Image) : List Event :=
  match image[m.pc]? with
  | none => []
  | some byte =>
    if (Instruction.decode byte).opcode ∈ Operation.opcodes then
      .executing m.pc byte (Instruction.decode byte) ::
        ((m.lost? image).map Event.dropped).toList
    else
      []

theorem lost?_of_write? {w : Write} (h : m.write? image = some w) :
    m.lost? image =
      if (m.bus.device? (Address.slot w.address)).isSome then none else some w := by
  have hslot : m.bus.device? (w.address.toNat / 16) =
      m.bus.device? (Address.slot w.address) := rfl
  rw [lost?, h, Option.filter_some, hslot]
  cases m.bus.device? (Address.slot w.address) <;> rfl

theorem lost?_of_write?_eq_none (h : m.write? image = none) : m.lost? image = none := by
  rw [lost?, h, Option.filter_none]

theorem write?_eq_some_iff_executes {w : Write} :
    m.write? image = some w ↔ (∃ mode, m.Executes image .deo mode) ∧
      m.wst.byteAt? 0 = some w.address ∧ m.wst.byteAt? 1 = some w.value := by
  constructor
  · intro h
    obtain ⟨byte, s, hb, hd, hs⟩ := exists_push_of_write? h
    obtain ⟨-, -, -, hoperands⟩ := write?_eq_some_iff_stack.mp h
    have ho := (Instruction.operation?_eq_deo_iff byte).mpr hd
    obtain ⟨effect, m', hp, -⟩ := exists_performs_of_step hb ho (step_deo hb hd hs).1
    exact ⟨⟨_, byte, effect, m', hb, ho, rfl, hp.run_execute⟩, hoperands⟩
  · rintro ⟨⟨mode, byte, effect, m', hb, ho, -, -⟩, hoperands⟩
    have hd := (Instruction.operation?_eq_deo_iff byte).mp ho
    exact write?_eq_some_iff_stack.mpr ⟨byte, hb, hd, hoperands⟩

theorem write?_eq_none_of_ne_deo (hb : image[m.pc]? = some byte)
    (ho : (Instruction.decode byte).operation? = some operation) (hne : operation ≠ .deo) :
    m.write? image = none := by
  apply Option.eq_none_iff_forall_ne_some.mpr
  intro w hw
  obtain ⟨byte', hb', hd, -⟩ := write?_eq_some_iff_stack.mp hw
  obtain rfl : byte = byte' := Option.some.inj (hb.symm.trans hb')
  have hdeo := (Instruction.operation?_eq_deo_iff byte).mpr hd
  exact hne (Option.some.inj (ho.symm.trans hdeo))

theorem write?_eq_none_of_faulted {fault : Fault} (h : (m.step image).outcome = .faulted fault) :
    m.write? image = none := by
  apply Option.eq_none_iff_forall_ne_some.mpr
  intro w hw
  obtain ⟨byte, s, hb, hd, hs⟩ := exists_push_of_write? hw
  exact (step_deo hb hd hs).1 fault h

/-- What an operation reports as dropped is the write that is lost. -/
theorem lost?_of_performs {effect : Effect} {m' : Machine} (hb : image[m.pc]? = some byte)
    (ho : (Instruction.decode byte).operation? = some operation)
    (hp : operation.Performs image (Instruction.decode byte).mode m effect m') :
    m.lost? image = effect.dropped := by
  by_cases hdeo : operation = .deo
  · subst hdeo
    have hd := (Instruction.operation?_eq_deo_iff byte).mp ho
    have hwrite {s : Stack} {value address : UInt8}
        (hs : m.wst = (s.pushByte value).pushByte address) :
        m.write? image = some ⟨address, value⟩ := by
      refine write?_eq_some_iff_stack.mpr ⟨byte, hb, hd, ?_⟩
      rw [hs]
      exact ⟨rfl, rfl⟩
    have hslot (w : Write) : (m.bus.device? (Address.slot w.address)).isSome =
        (m.bus.deliver? w).isSome := by
      rw [Bus.deliver?_eq_map, Option.isSome_map]
    cases hp with
    | deo s value address bus hs hbus =>
      rw [lost?_of_write? (hwrite hs), hslot ⟨address, value⟩, hbus]
      rfl
    | deoDropped s value address hs hbus =>
      rw [lost?_of_write? (hwrite hs), hslot ⟨address, value⟩, hbus]
      rfl
  · have hdropped : effect.dropped = none := by
      cases hp with
      | deo | deoDropped => exact absurd rfl hdeo
      | _ => rfl
    rw [lost?_of_write?_eq_none (write?_eq_none_of_ne_deo hb ho hdeo), hdropped]

theorem events_step (m : Machine) (image : Image) : (m.step image).events = m.notes image := by
  unfold notes
  cases hb : image[m.pc]? with
  | none => rw [step_of_size_le m image (by simpa using hb)]
  | some byte =>
    dsimp only
    cases ho : (Instruction.decode byte).operation? with
    | none =>
      have hnot := (Operation.ofOpcode?_eq_none_iff (Instruction.decode byte).opcode).mp ho
      rw [step_of_operation?_eq_none hb ho, if_neg hnot]
    | some operation =>
      rw [if_pos (Instruction.opcode_mem_of_operation? ho)]
      cases hr : (operation.execute image (Instruction.decode byte).mode).run m with
      | ok effect m' =>
        have hp := Operation.run_execute_eq_ok_iff.mp hr
        rw [step_of_run_ok hb ho hr, lost?_of_performs hb ho hp]
      | error fault m' =>
        have hstep := step_of_run_error hb ho hr
        have hwrite := write?_eq_none_of_faulted (congrArg Step.outcome hstep)
        rw [hstep, lost?_of_write?_eq_none hwrite]
        rfl

theorem trace_eq_map {n limit : Nat}
    (hr : ∀ k < n, ((m.stepped image k).step image).outcome = .running)
    (hend : ((m.stepped image n).step image).outcome ≠ .running) (hn : n < limit) :
    m.trace image limit = (List.range (n + 1)).map fun k => (m.stepped image k).step image := by
  induction n generalizing m limit with
  | zero =>
    obtain ⟨limit, rfl⟩ := Nat.exists_eq_succ_of_ne_zero (Nat.ne_zero_of_lt hn)
    have hlast : (m.step image).outcome ≠ .running := hend
    rw [trace, if_neg hlast]
    rfl
  | succ n ih =>
    obtain ⟨limit, rfl⟩ := Nat.exists_eq_succ_of_ne_zero (Nat.ne_zero_of_lt hn)
    have hfirst : (m.step image).outcome = .running := hr 0 (Nat.succ_pos n)
    have hr' : ∀ k < n, (((m.step image).machine.stepped image k).step image).outcome =
        .running := by
      intro k hk
      rw [← stepped_succ_eq]
      exact hr (k + 1) (Nat.succ_lt_succ hk)
    rw [stepped_succ_eq] at hend
    rw [trace, if_pos hfirst, ih hr' hend (Nat.lt_of_succ_lt_succ hn),
      List.range_succ_eq_map (n := n + 1), List.map_cons, List.map_map]
    congr 1
    apply List.map_congr_left
    intro k _
    rw [Function.comp_apply, Nat.succ_eq_add_one, stepped_succ_eq]

theorem closing_of_ending? {outcome : Outcome} {e : Ending} (h : outcome.ending? m = some e) :
    m.closing outcome = some e.note := by
  cases outcome with
  | running => cases h
  | stopped =>
    rw [← Option.some.inj h]
    rfl
  | faulted fault =>
    rw [← Option.some.inj h]
    rfl

/-- The log of a run that ends: its start, the notes of its steps in order, and its end. -/
theorem runEvents_eq {n limit : Nat} {e : Ending} (h : m.run? image limit = some e)
    (hr : ∀ k < n, ((m.stepped image k).step image).outcome = .running)
    (hend : ((m.stepped image n).step image).outcome ≠ .running) (hn : n < limit) :
    m.runEvents image limit = .started image.size m.pc ::
      (List.range (n + 1)).flatMap (fun k => (m.stepped image k).notes image) ++ [e.note] := by
  have hclosing : (m.advance image limit).machine.closing (m.advance image limit).outcome =
      some e.note := closing_of_ending? h
  unfold runEvents
  dsimp only
  rw [hclosing, trace_eq_map hr hend hn, List.flatMap_map]
  simp only [events_step]
  rfl

/-- Lost writes are noted, and nothing else is noted as a lost write. -/
theorem filterMap_notes (m : Machine) (image : Image) :
    (m.notes image).filterMap Event.dropped? = (m.lost? image).toList := by
  unfold notes
  cases hw : m.write? image with
  | none =>
    rw [lost?_of_write?_eq_none hw]
    cases image[m.pc]? with
    | none => rfl
    | some byte =>
      dsimp only
      split <;> rfl
  | some w =>
    obtain ⟨byte, hb, hd, -⟩ := write?_eq_some_iff_stack.mp hw
    have ho := (Instruction.operation?_eq_deo_iff byte).mpr hd
    rw [hb]
    dsimp only
    rw [if_pos (Instruction.opcode_mem_of_operation? ho)]
    cases m.lost? image <;> rfl

/-- A step's write is lost or makes a log longer by one. -/
theorem logged_step (m : Machine) (image : Image) :
    (m.write? image).toList.length + m.bus.logged =
      (m.lost? image).toList.length + (m.step image).machine.bus.logged := by
  rw [bus_step]
  cases hw : m.write? image with
  | none =>
    rw [lost?_of_write?_eq_none hw]
    rfl
  | some w =>
    have hlogged := m.bus.logged_output w
    rw [lost?_of_write? hw, Option.toList_some, List.foldl_cons, List.foldl_nil, hlogged]
    split <;> simp only [Option.toList_none, Option.toList_some, List.length_nil,
      List.length_singleton] <;> omega

theorem logged_stepped (m : Machine) (image : Image) (n : Nat) :
    (m.writes image n).length + m.bus.logged =
      (m.lost image n).length + (m.stepped image n).bus.logged := by
  induction n with
  | zero => rfl
  | succ n ih =>
    have hstep := logged_step (m.stepped image n) image
    have hlost : m.lost image (n + 1) =
        m.lost image n ++ ((m.stepped image n).lost? image).toList := by
      rw [lost, List.range_succ, List.filterMap_append]
      cases hl : (m.stepped image n).lost? image <;> simp [lost, hl]
    rw [writes_succ, hlost, List.length_append, List.length_append, stepped]
    omega

theorem level_of_mem_notes {event : Event} (h : event ∈ m.notes image) : event.level = .trace := by
  unfold notes at h
  split at h
  · cases h
  · split at h
    · obtain rfl | hdropped := List.mem_cons.mp h
      · rfl
      · obtain ⟨w, -, rfl⟩ := Option.map_eq_some_iff.mp (Option.mem_toList.mp hdropped)
        rfl
    · cases h

theorem notes_of_faulted {fault : Fault} (h : (m.step image).outcome = .faulted fault)
    (hfault : ∀ byte, fault ≠ .unknownOpcode byte) :
    ∃ byte, m.notes image = [.executing m.pc byte (Instruction.decode byte)] := by
  rw [← events_step]
  cases hb : image[m.pc]? with
  | none =>
    rw [step_of_size_le m image (by simpa using hb)] at h
    cases h
  | some byte =>
    cases ho : (Instruction.decode byte).operation? with
    | none =>
      rw [step_of_operation?_eq_none hb ho] at h
      exact absurd (Outcome.faulted.inj h).symm (hfault byte)
    | some operation =>
      cases hr : (operation.execute image (Instruction.decode byte).mode).run m with
      | ok effect m' =>
        rw [step_of_run_ok hb ho hr] at h
        exact absurd h (follow_ne_faulted m' image effect.flow fault)
      | error fault' m' =>
        rw [step_of_run_error hb ho hr]
        exact ⟨byte, rfl⟩

theorem filterMap_log (m : Machine) (image : Image) (size pc n : Nat) (e : Ending) :
    (.started size pc :: (List.range n).flatMap (fun k => (m.stepped image k).notes image) ++
      [e.note]).filterMap Event.dropped? = m.lost image n := by
  have hstart : (Event.started size pc).dropped? = none := rfl
  rw [List.cons_append, List.filterMap_cons_none hstart, List.filterMap_append,
    List.filterMap_cons_none e.dropped?_note, List.filterMap_nil, List.append_nil,
    List.filterMap_flatMap, lost, List.filterMap_eq_flatMap_toList]
  simp only [filterMap_notes]

theorem map_level_log {first last : Event} {middle : List Event}
    (h : ∀ event ∈ middle, event.level = .trace) :
    (first :: middle ++ [last]).map Event.level = first.level ::
      List.replicate ((first :: middle ++ [last]).length - 2) .trace ++ [last.level] := by
  have hmiddle : middle.map Event.level = List.replicate middle.length .trace :=
    List.map_eq_replicate_iff.mpr h
  have hlength : (first :: middle ++ [last]).length - 2 = middle.length := by simp
  rw [hlength, ← hmiddle]
  simp

/-- The log of a run is a faithful account of it. Between its start and its end stand the notes of
its steps, a fault is reported right behind the instruction that caused it, and the writes that the
log reports as lost are those missing from the devices. -/
theorem log_accounts_for_run (image : Image) (m : Machine) (limit : Nat) (e : Ending)
    (h : m.run? image limit = some e) :
    (∀ (m : Machine) (w : Write), m.write? image = some w ↔
      (∃ mode, m.Executes image .deo mode) ∧
        m.wst.byteAt? 0 = some w.address ∧ m.wst.byteAt? 1 = some w.value) ∧
    ∃ n, (∀ k < n, ((m.stepped image k).step image).outcome = .running) ∧
      ((m.stepped image n).step image).outcome.ending? (m.stepped image (n + 1)) = some e ∧
      m.runEvents image limit = .started image.size m.pc ::
        (List.range (n + 1)).flatMap (fun k => (m.stepped image k).notes image) ++ [e.note] ∧
      (m.runEvents image limit).map Event.level = .debug ::
        List.replicate ((m.runEvents image limit).length - 2) .trace ++
          [if e.fault? = none then .debug else .warn] ∧
      (∀ fault, e.fault? = some fault →
        e.note.message = fault.message ++ " at " ++ Hex.position e.machine.pc ∧
        ((∀ byte, fault ≠ .unknownOpcode byte) → ∃ before byte, m.runEvents image limit =
          before ++ [.executing e.machine.pc byte (Instruction.decode byte), e.note])) ∧
      (m.writes image (n + 1)).length + m.bus.logged =
        ((m.runEvents image limit).filterMap Event.dropped?).length + e.machine.bus.logged := by
  refine ⟨fun m w => write?_eq_some_iff_executes, ?_⟩
  obtain ⟨n, hn, hr, he⟩ := run?_eq_some_iff_stepped.mp h
  have hlog := runEvents_eq h hr (ne_running_of_ending? he) hn
  have hmachine : e.machine = m.stepped image (n + 1) := machine_of_ending? he
  refine ⟨n, hr, he, hlog, ?_, fun fault hfault => ⟨?_, fun hknown => ?_⟩, ?_⟩
  · have htrace : ∀ event ∈ (List.range (n + 1)).flatMap fun k => (m.stepped image k).notes image,
        event.level = .trace := by
      intro event hevent
      obtain ⟨k, -, hk⟩ := List.mem_flatMap.mp hevent
      exact level_of_mem_notes hk
    rw [hlog, map_level_log htrace, e.level_note]
    rfl
  · unfold Ending.note
    rw [hfault]
    rfl
  · obtain ⟨fault?, m'⟩ := e
    obtain rfl : fault? = some fault := hfault
    obtain ⟨hout, -⟩ := ending?_eq_some_fault_iff.mp he
    obtain ⟨byte, hnotes⟩ := notes_of_faulted hout hknown
    -- The fault left the machine on the instruction.
    obtain rfl : m' = m.stepped image n := hmachine.trans (machine_step_of_faulted hout)
    refine ⟨.started image.size m.pc ::
      (List.range n).flatMap fun k => (m.stepped image k).notes image, byte, ?_⟩
    rw [hlog, List.range_succ, List.flatMap_append, List.flatMap_singleton, hnotes]
    simp
  · rw [hlog, filterMap_log, hmachine]
    exact logged_stepped m image (n + 1)

/-- One write reaches the console and one is lost; then an addition finds no operands. -/
theorem log_accounts_for_run_add :
    run? { bus := ({} : Bus).place 1 (some {}) }
        #[0xa0, 0x41, 0x18, 0x17, 0xa0, 0x42, 0x28, 0x17, 0x18] 5 = some ⟨some .stackUnderflow,
          { pc := 8, bus := ({} : Bus).place 1 (some (Device.record {} 8 0x41)) }⟩ ∧
      (∃ before byte, runEvents { bus := ({} : Bus).place 1 (some {}) }
          #[0xa0, 0x41, 0x18, 0x17, 0xa0, 0x42, 0x28, 0x17, 0x18] 5 =
        before ++ [.executing 8 byte (Instruction.decode byte), .faulted .stackUnderflow 8]) ∧
      ∃ n, (writes { bus := ({} : Bus).place 1 (some {}) }
          #[0xa0, 0x41, 0x18, 0x17, 0xa0, 0x42, 0x28, 0x17, 0x18] (n + 1)).length +
            (({} : Bus).place 1 (some {})).logged =
        ([⟨0x28, 0x42⟩] : List Write).length +
          (({} : Bus).place 1 (some (Device.record {} 8 0x41))).logged := by
  have hrun : run? { bus := ({} : Bus).place 1 (some {}) }
      #[0xa0, 0x41, 0x18, 0x17, 0xa0, 0x42, 0x28, 0x17, 0x18] 5 = some ⟨some .stackUnderflow,
        { pc := 8, bus := ({} : Bus).place 1 (some (Device.record {} 8 0x41)) }⟩ := by decide
  obtain ⟨-, n, -, -, -, -, hfault, hcount⟩ := log_accounts_for_run _ _ 5 _ hrun
  have hdropped : (runEvents { bus := ({} : Bus).place 1 (some {}) }
      #[0xa0, 0x41, 0x18, 0x17, 0xa0, 0x42, 0x28, 0x17, 0x18] 5).filterMap Event.dropped? =
        [⟨0x28, 0x42⟩] := by decide
  rw [hdropped] at hcount
  exact ⟨hrun, (hfault .stackUnderflow rfl).2 nofun, n, hcount⟩

end Machine

end TwinStack
