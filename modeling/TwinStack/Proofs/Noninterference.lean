import TwinStack.Proofs.Writes

/-! The bus has no influence on what a machine computes. Machines that differ in their buses alone
make the same steps; so a machine that is used again runs as a new one, and its logs only grow by
what a new device would log. -/
namespace TwinStack

namespace Machine

/-- What a machine is apart from its bus. -/
def core (m : Machine) : Stack × Stack × Nat :=
  (m.wst, m.rst, m.pc)

theorem eq_of_core_eq {m m' : Machine} (h : m.core = m'.core) : m' = { m with bus := m'.bus } := by
  obtain ⟨hw, hr, hpc⟩ : m.wst = m'.wst ∧ m.rst = m'.rst ∧ m.pc = m'.pc := by
    simpa [core] using h
  rw [hw, hr, hpc]

theorem stack_bus (m : Machine) (b : Bus) (side : Side) :
    ({ m with bus := b } : Machine).stack side = m.stack side := by
  cases side <;> rfl

theorem core_setStack_bus (m : Machine) (b : Bus) (side : Side) (s : Stack) :
    (({ m with bus := b } : Machine).setStack side s).core = (m.setStack side s).core := by
  cases side <;> rfl

end Machine

namespace Operation
variable {image : Image} {mode : Mode} {m m' : Machine} {operation : Operation}

theorem underflows_bus (b : Bus) :
    operation.Underflows mode { m with bus := b } ↔ operation.Underflows mode m := by
  cases operation <;> simp only [Underflows, Machine.stack_bus]

theorem truncates_bus (b : Bus) :
    operation.Truncates image mode { m with bus := b } ↔ operation.Truncates image mode m := by
  cases operation <;> exact Iff.rfl

/-- The rules apply with any bus. Only whether a device write is dropped depends on it. -/
theorem Performs.bus {effect : Effect} (h : operation.Performs image mode m effect m') (b : Bus) :
    ∃ effect' m'', operation.Performs image mode { m with bus := b } effect' m'' ∧
      effect'.flow = effect.flow ∧ m''.core = m'.core := by
  cases h with
  | brk => exact ⟨_, _, .brk, rfl, rfl⟩
  | lit v hv =>
    refine ⟨_, _, .lit v hv, rfl, ?_⟩
    rw [Machine.stack_bus, Machine.core_setStack_bus]
  | data op s h =>
    refine ⟨_, _, .data op s ?_, rfl, Machine.core_setStack_bus m b mode.side s⟩
    rw [Machine.stack_bus]
    exact h
  | jmpByte s offset hw hs =>
    exact ⟨_, _, .jmpByte s offset hw ((m.stack_bus b _).trans hs), rfl,
      Machine.core_setStack_bus m b mode.side s⟩
  | jmpShort s position hw hs =>
    exact ⟨_, _, .jmpShort s position hw ((m.stack_bus b _).trans hs), rfl,
      Machine.core_setStack_bus m b mode.side s⟩
  | jsr s offset hs => exact ⟨_, _, .jsr s offset hs, rfl, rfl⟩
  | jmi offset hv => exact ⟨_, _, .jmi offset hv, rfl, rfl⟩
  | jciSkip s hs => exact ⟨_, _, .jciSkip s hs, rfl, rfl⟩
  | jciTake s top offset hs ht hv => exact ⟨_, _, .jciTake s top offset hs ht hv, rfl, rfl⟩
  | jsi offset hv => exact ⟨_, _, .jsi offset hv, rfl, rfl⟩
  | sth s top hs => exact ⟨_, _, .sth s top hs, rfl, rfl⟩
  | deo s value address bus hs hb | deoDropped s value address hs hb =>
    cases hb' : b.deliver? ⟨address, value⟩ with
    | none => exact ⟨_, _, .deoDropped s value address hs hb', rfl, rfl⟩
    | some bus' => exact ⟨_, _, .deo s value address bus' hs hb', rfl, rfl⟩

end Operation

def Ending.report (e : Ending) : Option Fault × Stack × Stack × Nat :=
  (e.fault?, e.machine.core)

namespace Machine
variable {image : Image} {m m' : Machine}

theorem follow_core (h : m.core = m'.core) (image : Image) (flow : Flow) :
    (m.follow image flow).1 = (m'.follow image flow).1 ∧
      (m.follow image flow).2.core = (m'.follow image flow).2.core := by
  rw [eq_of_core_eq h]
  cases flow <;> exact ⟨rfl, rfl⟩

theorem step_bus (m : Machine) (image : Image) (b : Bus) :
    (({ m with bus := b } : Machine).step image).outcome = (m.step image).outcome ∧
      (({ m with bus := b } : Machine).step image).machine.core = (m.step image).machine.core := by
  cases hb : image[m.pc]? with
  | none =>
    have hsize : image.size ≤ m.pc := by simpa using hb
    rw [step_of_size_le m image hsize, step_of_size_le { m with bus := b } image hsize]
    exact ⟨rfl, rfl⟩
  | some byte =>
    have hb' : image[({ m with bus := b } : Machine).pc]? = some byte := hb
    cases ho : (Instruction.decode byte).operation? with
    | none =>
      rw [step_of_operation?_eq_none hb ho, step_of_operation?_eq_none hb' ho]
      exact ⟨rfl, rfl⟩
    | some operation =>
      cases hr : (operation.execute image (Instruction.decode byte).mode).run m with
      | error fault m₁ =>
        -- The conditions of the faults speak of stacks, program counter and image only.
        obtain ⟨rfl, hf⟩ := Operation.run_execute_eq_error_iff.mp hr
        rw [← Operation.underflows_bus b, ← Operation.truncates_bus b] at hf
        have hr' := Operation.run_execute_eq_error_iff.mpr ⟨rfl, hf⟩
        rw [step_of_run_error hb ho hr, step_of_run_error hb' ho hr']
        exact ⟨rfl, rfl⟩
      | ok effect m₁ =>
        obtain ⟨effect', m₂, hp, hflow, hcore⟩ := (Operation.run_execute_eq_ok_iff.mp hr).bus b
        rw [step_of_run_ok hb ho hr, step_of_performs hb' ho hp, hflow]
        exact follow_core hcore image effect.flow

theorem step_core (h : m.core = m'.core) (image : Image) :
    (m.step image).outcome = (m'.step image).outcome ∧
      (m.step image).machine.core = (m'.step image).machine.core := by
  obtain ⟨ho, hc⟩ := step_bus m image m'.bus
  rw [← eq_of_core_eq h] at ho hc
  exact ⟨ho.symm, hc.symm⟩

theorem stepped_core (h : m.core = m'.core) (image : Image) (n : Nat) :
    (m.stepped image n).core = (m'.stepped image n).core := by
  induction n with
  | zero => exact h
  | succ n ih => exact (step_core ih image).2

theorem advance_core (h : m.core = m'.core) (image : Image) (limit : Nat) :
    (m.advance image limit).made = (m'.advance image limit).made ∧
      (m.advance image limit).outcome = (m'.advance image limit).outcome ∧
      (m.advance image limit).machine.core = (m'.advance image limit).machine.core := by
  induction limit with
  | zero => exact ⟨rfl, rfl, h⟩
  | succ limit ih =>
    obtain ⟨hmade, hout, hcore⟩ := ih
    rw [advance_succ m, advance_succ m', hout]
    split
    · obtain ⟨ho, hc⟩ := step_core hcore image
      exact ⟨congrArg (· + 1) hmade, ho, hc⟩
    · exact ⟨hmade, hout, hcore⟩

theorem run?_core (h : m.core = m'.core) (image : Image) (limit : Nat) :
    (m.run? image limit).map Ending.report = (m'.run? image limit).map Ending.report := by
  obtain ⟨-, hout, hcore⟩ := advance_core h image limit
  unfold run?
  dsimp only
  rw [hout]
  cases (m'.advance image limit).outcome with
  | running => rfl
  | stopped => exact congrArg (fun c => some (none, c)) hcore
  | faulted fault => exact congrArg (fun c => some (some fault, c)) hcore

theorem write?_core (h : m.core = m'.core) (image : Image) : m.write? image = m'.write? image := by
  rw [eq_of_core_eq h]
  rfl

theorem writes_core (h : m.core = m'.core) (image : Image) (n : Nat) :
    m.writes image n = m'.writes image n := by
  unfold writes
  congr 1
  funext k
  exact write?_core (stepped_core h image k) image

/-- Two runs that differ in their buses alone add the same to the log of a port. -/
theorem log_of_run? (h : m.core = m'.core) {limit i : Nat} {e e' : Ending} {d d' : Device}
    (hm : m.run? image limit = some e) (hm' : m'.run? image limit = some e')
    (hd : m.bus.device? i = some d) (hd' : m'.bus.device? i = some d') :
    ∃ d₁ d₁' : Device, e.machine.bus.device? i = some d₁ ∧ e'.machine.bus.device? i = some d₁' ∧
      ∀ q < 16, ∃ values, d₁.log q = values ++ d.log q ∧ d₁'.log q = values ++ d'.log q := by
  obtain ⟨hmade, -, -⟩ := advance_core h image limit
  rw [machine_of_run? hm, machine_of_run? hm', ← hmade, device?_stepped, device?_stepped, hd, hd',
    writes_core h]
  exact ⟨_, _, rfl, rfl, fun q hq =>
    ⟨_, Device.log_foldl_receive d i _ hq, Device.log_foldl_receive d' i _ hq⟩⟩

/-- The bus influences neither steps nor runs. In particular a machine that is reset runs as a new
one, and its devices log what new ones would, on top of what they hold. -/
theorem bus_never_influences (image : Image) :
    (∀ m m' : Machine, m.core = m'.core →
      (∀ n, ((m.stepped image n).step image).outcome = ((m'.stepped image n).step image).outcome ∧
        (m.stepped image (n + 1)).core = (m'.stepped image (n + 1)).core) ∧
      ∀ limit, (m.run? image limit).map Ending.report = (m'.run? image limit).map Ending.report) ∧
    ∀ (m : Machine) (limit : Nat),
      (m.reset.run? image limit).map Ending.report =
        (({} : Machine).run? image limit).map Ending.report ∧
      ∀ e, m.reset.run? image limit = some e → ∀ i d, m.bus.device? i = some d →
        ∀ b : Bus, b.device? i = some {} → ∃ e' d₁ d₁',
          run? { bus := b } image limit = some e' ∧
          e.machine.bus.device? i = some d₁ ∧ e'.machine.bus.device? i = some d₁' ∧
          ∀ q < 16, d₁.log q = d₁'.log q ++ d.log q := by
  refine ⟨fun m m' h => ⟨fun n => ?_, run?_core h image⟩, fun m limit => ⟨?_, ?_⟩⟩
  · exact ⟨(step_core (stepped_core h image n) image).1, stepped_core h image (n + 1)⟩
  · have hcore : m.reset.core = ({} : Machine).core := rfl
    exact run?_core hcore image limit
  · intro e he i d hd b hb
    have hcore : m.reset.core = ({ bus := b } : Machine).core := rfl
    have hmap := run?_core hcore image limit
    rw [he] at hmap
    obtain ⟨e', he', -⟩ := Option.map_eq_some_iff.mp hmap.symm
    obtain ⟨d₁, d₁', hd₁, hd₁', hlog⟩ := log_of_run? hcore he he' hd hb
    refine ⟨e', d₁, d₁', he', hd₁, hd₁', fun q hq => ?_⟩
    obtain ⟨values, hv, hv'⟩ := hlog q hq
    have hnew : ({} : Device).log q = [] := by simp [Device.log, hq]
    rw [hv, hv', hnew, List.append_nil]

/-- A console changes nothing of what is computed, and a used machine with one runs as a new machine
without any device. -/
theorem bus_never_influences_console :
    (stepped { bus := ({} : Bus).place 1 (some {}) } #[0x80, 0x42, 0x80, 0x18, 0x17] 3).core =
        (stepped {} #[0x80, 0x42, 0x80, 0x18, 0x17] 3).core ∧
      ∃ e d, run? (reset ⟨.ofBytes [1], {}, 3, ({} : Bus).place 1 (some (Device.record {} 8 0x41))⟩)
          #[0x80, 0x42, 0x80, 0x18, 0x17] 3 = some e ∧
        e.report = (none, {}, {}, 5) ∧ e.machine.bus.device? 1 = some d ∧
        d.log 8 = [0x42, 0x41] := by
  obtain ⟨hpair, hreset⟩ := bus_never_influences #[0x80, 0x42, 0x80, 0x18, 0x17]
  obtain ⟨hsame, hlogs⟩ :=
    hreset ⟨.ofBytes [1], {}, 3, ({} : Bus).place 1 (some (Device.record {} 8 0x41))⟩ 3
  have hnew : (run? {} #[0x80, 0x42, 0x80, 0x18, 0x17] 3).map Ending.report =
      some (none, {}, {}, 5) := by decide
  obtain ⟨e, he, hreport⟩ := Option.map_eq_some_iff.mp (hsame.trans hnew)
  obtain ⟨e', d, d', he', hd, hd', hlog⟩ := hlogs e he 1 (Device.record {} 8 0x41) (by decide)
    (({} : Bus).place 1 (some {})) (by decide)
  have hd'8 : d'.log 8 = [0x42] := by
    have hrun : (run? { bus := ({} : Bus).place 1 (some {}) }
        #[0x80, 0x42, 0x80, 0x18, 0x17] 3).bind (·.machine.bus.device? 1) =
          some (Device.record {} 8 0x42) := by decide
    rw [he', Option.bind_some, hd'] at hrun
    obtain rfl := Option.some.inj hrun
    decide
  refine ⟨((hpair { bus := ({} : Bus).place 1 (some {}) } {} rfl).1 2).2, e, d, he, hreport, hd, ?_⟩
  rw [hlog 8 (by decide), hd'8]
  decide

end Machine

end TwinStack
