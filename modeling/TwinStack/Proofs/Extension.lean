import TwinStack.Proofs.Stability

/-! Bytes appended to an image. A step inside the image is the same step, unless its own operand was
cut off; only where the image ended it may now go on. So a run on the longer image passes through
the state in which the run on the shorter one stopped. -/
namespace TwinStack

namespace Image
variable {p : Image}

theorem getElem?_append_of_eq_some {i : Nat} {byte : UInt8} (h : p[i]? = some byte) (q : Image) :
    (p ++ q)[i]? = some byte := by
  have hlt : i < p.size := (Array.getElem?_eq_some_iff.mp h).1
  rw [Array.getElem?_append_left hlt, h]

theorem valueAt?_append_of_eq_some {position : Nat} {w : Width} {v : Value}
    (h : p.valueAt? position w = some v) (q : Image) : (p ++ q).valueAt? position w = some v := by
  cases w with
  | byte =>
    obtain ⟨b, hb, rfl⟩ := Option.map_eq_some_iff.mp h
    rw [valueAt?, getElem?_append_of_eq_some hb]
    rfl
  | short =>
    obtain ⟨hi, lo, hhi, hlo, rfl⟩ := bytes_of_valueAt?_short h
    rw [valueAt?, getElem?_append_of_eq_some hhi, getElem?_append_of_eq_some hlo]
    rfl

end Image

theorem Operation.Performs.append {p : Image} {mode : Mode} {m m' : Machine}
    {operation : Operation} {effect : Effect} (h : operation.Performs p mode m effect m')
    (q : Image) : operation.Performs (p ++ q) mode m effect m' := by
  cases h with
  | brk => exact .brk
  | lit v hv => exact .lit v (Image.valueAt?_append_of_eq_some hv q)
  | data op s h => exact .data op s h
  | jmpByte s offset hw hs => exact .jmpByte s offset hw hs
  | jmpShort s position hw hs => exact .jmpShort s position hw hs
  | jsr s offset hs => exact .jsr s offset hs
  | jmi offset hv => exact .jmi offset (Image.valueAt?_append_of_eq_some hv q)
  | jciSkip s hs => exact .jciSkip s hs
  | jciTake s top offset hs ht hv =>
    exact .jciTake s top offset hs ht (Image.valueAt?_append_of_eq_some hv q)
  | jsi offset hv => exact .jsi offset (Image.valueAt?_append_of_eq_some hv q)
  | sth s b hs => exact .sth s b hs
  | deo s value address bus hs hb => exact .deo s value address bus hs hb
  | deoDropped s value address hs hb => exact .deoDropped s value address hs hb

namespace Machine
variable {p : Image} {m m' : Machine}

/-- A longer image changes one thing: a place that lay outside may now be inside. -/
theorem follow_append (q : Image) {flow : Flow} (hlt : flow = .halt → m.pc < p.size) :
    m.follow (p ++ q) flow =
      (if p.size ≤ (m.follow p flow).2.pc ∧ (m.follow p flow).2.pc < (p ++ q).size then .running
        else (m.follow p flow).1, (m.follow p flow).2) := by
  cases flow with
  | halt =>
    have hout : ¬ (p.size ≤ m.pc ∧ m.pc < (p ++ q).size) :=
      fun h => absurd h.1 (Nat.not_le.mpr (hlt rfl))
    exact Prod.ext (if_neg hout).symm rfl
  | goto position =>
    refine Prod.ext ?_ rfl
    show (if position < (p ++ q).size then Outcome.running else .stopped) =
      if p.size ≤ position ∧ position < (p ++ q).size then .running
      else if position < p.size then .running else .stopped
    have hsize : (p ++ q).size = p.size + q.size := Array.size_append
    split <;> split <;> simp <;> omega

theorem step_append (q : Image) (hlt : m.pc < p.size)
    (ht : (m.step p).outcome ≠ .faulted .truncatedImmediate) :
    m.step (p ++ q) = { m.step p with
      outcome := if p.size ≤ (m.step p).machine.pc ∧ (m.step p).machine.pc < (p ++ q).size
        then .running else (m.step p).outcome } := by
  have hb : p[m.pc]? = some p[m.pc] := Array.getElem?_eq_getElem hlt
  have hb' := Image.getElem?_append_of_eq_some hb q
  have hin : ¬ (p.size ≤ m.pc ∧ m.pc < (p ++ q).size) := fun h => absurd h.1 (Nat.not_le.mpr hlt)
  cases ho : (Instruction.decode p[m.pc]).operation? with
  | none =>
    rw [step_of_operation?_eq_none hb' ho, step_of_operation?_eq_none hb ho, if_neg hin]
  | some operation =>
    cases hr : (operation.execute p (Instruction.decode p[m.pc]).mode).run m with
    | error fault m₁ =>
      rw [step_of_run_error hb ho hr] at ht ⊢
      obtain ⟨rfl, ⟨rfl, hu⟩ | ⟨rfl, -⟩⟩ := Operation.run_execute_eq_error_iff.mp hr
      · rw [step_of_run_error hb' ho (Operation.run_execute_of_underflows hu), if_neg hin]
      · exact absurd rfl ht
    | ok effect m₁ =>
      have hp := Operation.run_execute_eq_ok_iff.mp hr
      have hfollow : m₁.follow (p ++ q) effect.flow = _ :=
        follow_append q fun hflow => by rwa [hp.eq_of_halt hflow]
      rw [step_of_run_ok hb ho hr, step_of_performs hb' ho (hp.append q), hfollow]

theorem step_append_of_pc_lt (q : Image) (hlt : m.pc < p.size)
    (ht : (m.step p).outcome ≠ .faulted .truncatedImmediate)
    (hin : (m.step p).machine.pc < p.size) : m.step (p ++ q) = m.step p := by
  rw [step_append q hlt ht, if_neg fun h => absurd h.1 (Nat.not_le.mpr hin)]

theorem after?_append (q : Image) {n : Nat} {mₙ : Machine} (h : m.after? p n = some mₙ) :
    m.after? (p ++ q) n = some mₙ := by
  induction n generalizing mₙ with
  | zero => exact h
  | succ n ih =>
    obtain ⟨m', ha, hr, hm⟩ := after?_succ_eq_some_iff.mp h
    obtain ⟨hlt, hin⟩ := pc_lt_size_of_running hr
    have hstep := step_append_of_pc_lt q hlt (by simp [hr]) hin
    refine after?_succ_eq_some_iff.mpr ⟨m', ih ha, ?_, ?_⟩
    · rw [hstep, hr]
    · rw [hstep, hm]

theorem step_brk {image : Image} (h : image[m.pc]? = some 0x00) :
    (m.step image).outcome = .stopped ∧ (m.step image).machine = m := by
  have ho := (Instruction.operation?_eq_brk_iff 0x00).mpr rfl
  rw [step_of_performs h ho .brk]
  exact ⟨rfl, rfl⟩

theorem ending?_eq_some_none_iff {outcome : Outcome} {m₁ m₂ : Machine} :
    outcome.ending? m₁ = some ⟨none, m₂⟩ ↔ outcome = .stopped ∧ m₁ = m₂ := by
  cases outcome <;> simp [Outcome.ending?]

/-- The run on the longer image comes to where the shorter one stopped. If that lies in the bytes
appended, it is still running there. -/
theorem exists_stepped_append (q : Image) (h : m.EndsIn p ⟨none, m'⟩) :
    ∃ n, m.stepped (p ++ q) n = m' ∧
      (p.size ≤ m'.pc → m'.pc < (p ++ q).size → m.after? (p ++ q) n = some m') := by
  obtain ⟨limit, hrun⟩ := h
  obtain ⟨n, -, mₙ, ha, he⟩ := run?_eq_some_iff.mp hrun
  obtain ⟨hstop, rfl⟩ := ending?_eq_some_none_iff.mp he
  have ha' := after?_append q ha
  obtain ⟨-, hn⟩ := after?_eq_some_iff_stepped.mp ha'
  by_cases hlt : mₙ.pc < p.size
  · have hstep := step_append q hlt (by simp [hstop])
    refine ⟨n + 1, ?_, fun hout hin => ?_⟩
    · rw [stepped, hn, hstep]
    · refine after?_succ_eq_some_iff.mpr ⟨mₙ, ha', ?_, ?_⟩
      · rw [hstep]
        exact if_pos ⟨hout, hin⟩
      · rw [hstep]
  · have hsame : (mₙ.step p).machine = mₙ := by
      rw [step_of_size_le mₙ p (Nat.le_of_not_lt hlt)]
    rw [hsame]
    exact ⟨n, hn, fun _ _ => ha'⟩

/-- What stopped goes on from where it stopped: a program that ran off its end runs into the bytes
appended, and one that came to a break stops there again. -/
theorem endsIn_append_of_stopped (q : Image) (h : m.EndsIn p ⟨none, m'⟩) (e : Ending) :
    m.EndsIn (p ++ q) e ↔ m'.EndsIn (p ++ q) e := by
  obtain ⟨n, rfl, -⟩ := exists_stepped_append q h
  exact (endsIn_stepped m (p ++ q) n e).symm

theorem getElem?_pc_of_endsIn (h : m.EndsIn p ⟨none, m'⟩) (hlt : m'.pc < p.size) :
    p[m'.pc]? = some 0x00 := by
  obtain ⟨limit, hrun⟩ := h
  obtain ⟨n, -, mₙ, -, he⟩ := run?_eq_some_iff.mp hrun
  obtain ⟨hstop, rfl⟩ := ending?_eq_some_none_iff.mp he
  obtain ⟨hb, hm⟩ | hsize := pc_of_stopped hstop
  · rw [hm]
    exact hb
  · exact absurd hsize (Nat.not_le.mpr hlt)

theorem endsIn_append_of_faulted (q : Image) {fault : Fault} (hf : fault ≠ .truncatedImmediate)
    (h : m.EndsIn p ⟨some fault, m'⟩) : m.EndsIn (p ++ q) ⟨some fault, m'⟩ := by
  obtain ⟨limit, hrun⟩ := h
  obtain ⟨n, -, mₙ, ha, he⟩ := run?_eq_some_iff.mp hrun
  obtain ⟨ho, hm⟩ := ending?_eq_some_fault_iff.mp he
  obtain rfl : mₙ = m' := (machine_step_of_faulted ho).symm.trans hm
  obtain ⟨-, hn⟩ := after?_eq_some_iff_stepped.mp (after?_append q ha)
  have hlt : mₙ.pc < p.size := by
    refine Nat.lt_of_not_le fun hle => ?_
    rw [step_of_size_le mₙ p hle] at ho
    cases ho
  have hstep := step_append_of_pc_lt q hlt (by simpa [ho] using hf) (by rwa [hm])
  rw [← endsIn_stepped m (p ++ q) n, hn, endsIn_iff_of_ne_running (by simp [hstep, ho]), hstep]
  exact he

/-- A run on an image with more bytes behind it ends as the run from where the shorter image stopped
it. A fault stays, unless an operand was cut off. -/
theorem run_on_longer_image (p q : Image) (m m' : Machine) :
    (m.EndsIn p ⟨none, m'⟩ →
      (∀ e, m.EndsIn (p ++ q) e ↔ m'.EndsIn (p ++ q) e) ∧
      (m'.pc < p.size → p[m'.pc]? = some 0x00 ∧ m.EndsIn (p ++ q) ⟨none, m'⟩) ∧
      (p.size ≤ m'.pc → m'.pc < (p ++ q).size → ∃ n, m.after? (p ++ q) n = some m')) ∧
    ∀ fault, fault = .stackUnderflow ∨ (∃ byte, fault = .unknownOpcode byte) →
      m.EndsIn p ⟨some fault, m'⟩ → m.EndsIn (p ++ q) ⟨some fault, m'⟩ := by
  refine ⟨fun h => ⟨endsIn_append_of_stopped q h, fun hlt => ?_, fun hout hin => ?_⟩,
    fun fault hf => endsIn_append_of_faulted q ?_⟩
  · have hb := getElem?_pc_of_endsIn h hlt
    obtain ⟨ho, hm⟩ := step_brk (Image.getElem?_append_of_eq_some hb q)
    refine ⟨hb, (endsIn_append_of_stopped q h _).mpr ?_⟩
    rw [endsIn_iff_of_ne_running (by simp [ho]), ho, hm]
    rfl
  · obtain ⟨n, -, ha⟩ := exists_stepped_append q h
    exact ⟨n, ha hout hin⟩
  · obtain rfl | ⟨byte, rfl⟩ := hf <;> nofun

/-- A literal runs off the end into an addition. A break stays a break, and a missing operand is
missed as before. -/
theorem run_on_longer_image_add :
    EndsIn {} (#[0x80, 0x01] ++ #[0x80, 0x02, 0x18]) ⟨none, { wst := .ofBytes [3], pc := 5 }⟩ ∧
      (∃ n, after? {} (#[0x80, 0x01] ++ #[0x80, 0x02, 0x18]) n =
        some { wst := .ofBytes [1], pc := 2 }) ∧
      EndsIn {} (#[0x00] ++ #[0x80, 0x02]) ⟨none, {}⟩ ∧
      EndsIn { wst := .ofBytes [7] } (#[0x18] ++ #[0x80, 0x02])
        ⟨some .stackUnderflow, { wst := .ofBytes [7] }⟩ := by
  obtain ⟨hsame, -, hinto⟩ := (run_on_longer_image #[0x80, 0x01] #[0x80, 0x02, 0x18] {}
    { wst := .ofBytes [1], pc := 2 }).1 ⟨1, by decide⟩
  obtain ⟨-, hbreak, -⟩ := (run_on_longer_image #[0x00] #[0x80, 0x02] {} {}).1 ⟨1, by decide⟩
  refine ⟨(hsame _).mpr ⟨2, by decide⟩, hinto (by decide) (by decide), (hbreak (by decide)).2, ?_⟩
  exact (run_on_longer_image #[0x18] #[0x80, 0x02] _ _).2 .stackUnderflow (.inl rfl) ⟨1, by decide⟩

end Machine

end TwinStack
