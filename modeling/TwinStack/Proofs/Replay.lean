import TwinStack.Proofs.Writes

/-! The history of a bus. Devices are bound, unbound and written to in any order; what a slot holds
afterwards, and what its device has logged, can be read off the calls that were made. -/
namespace TwinStack

namespace Device

/-- If each event adds at most one value to a port's log, they leave their values with the last one
first. -/
theorem log_foldl {α : Type} {f : Device → α → Device} {value? : α → Option UInt8} {q : Nat}
    (h : ∀ d a, (f d a).log q = (value? a).toList ++ d.log q) (d : Device) (as : List α) :
    (as.foldl f d).log q = (as.filterMap value?).reverse ++ d.log q := by
  induction as generalizing d with
  | nil => rfl
  | cons a as ih =>
    rw [List.foldl_cons, ih, h]
    cases hv : value? a <;> simp [hv]

theorem log_of_le (d : Device) {q : Nat} (h : 16 ≤ q) : d.log q = [] := by
  have hnone : d.ports[q]? = none := by simpa using h
  rw [log, hnone]
  rfl

/-- A new device after some writes, each to a port that exists. -/
def ofWrites (writes : List (Fin 16 × UInt8)) : Device :=
  writes.foldl (fun d w => d.record w.1 w.2) {}

def valuesAt (writes : List (Fin 16 × UInt8)) (q : Nat) : List UInt8 :=
  writes.filterMap fun w => if w.1 = q then some w.2 else none

theorem log_ofWrites (writes : List (Fin 16 × UInt8)) {q : Nat} (hq : q < 16) :
    (ofWrites writes).log q = (valuesAt writes q).reverse := by
  have hnew : ({} : Device).log q = [] := by simp [log, hq]
  have hstep (d : Device) (w : Fin 16 × UInt8) : (d.record w.1 w.2).log q =
      (if w.1 = q then some w.2 else none).toList ++ d.log q := by
    rw [log_record]
    by_cases h : q = w.1
    · simp [h]
    · simp [h, Ne.symm h]
  rw [ofWrites, log_foldl hstep, hnew, List.append_nil, valuesAt]

theorem outputs_eq_ok (d : Device) (writes : List (Fin 16 × UInt8)) :
    d.outputs (writes.map fun w => (UInt8.ofNat w.1, w.2)) =
      .ok (writes.foldl (fun d w => d.record w.1 w.2) d) := by
  induction writes generalizing d with
  | nil => rfl
  | cons w writes ih =>
    have hport : (UInt8.ofNat w.1).toNat = w.1 := by
      rw [UInt8.toNat_ofNat']
      omega
    have hout : d.output (UInt8.ofNat w.1) w.2 = .ok (d.record w.1 w.2) := by
      unfold output
      rw [dif_pos (by omega)]
      congr
    rw [List.map_cons, outputs, List.foldlM_cons, hout]
    exact ih (d.record w.1 w.2)

end Device

namespace Bus

inductive Call where
  /-- Puts a new device into a slot, after it has received some writes. -/
  | bind (slot : Nat) (received : List (Fin 16 × UInt8))
  | unbind (slot : Nat)
  | output (write : Write)
  | send (slot : Nat) (port value : UInt8)
  deriving DecidableEq

inductive Reply where
  | previous (device? : Option Device)
  /-- Whether there was a device to take the value. -/
  | delivered (taken : Bool)
  deriving DecidableEq

namespace Call

def run : Call → EStateM Trap Bus Reply
  | .bind slot received => do
    let d ← liftExcept (Device.outputs {} (received.map fun w => (UInt8.ofNat w.1, w.2)))
    let (old, b) ← liftExcept ((← get).bind slot d)
    set b
    return .previous old
  | .unbind slot => do
    let (old, b) ← liftExcept ((← get).unbind slot)
    set b
    return .previous old
  | .output w => do
    match (← get).deliver? w with
    | some b =>
      set b
      return .delivered true
    | none => return .delivered false
  | .send slot port value => do
    match ← liftExcept ((← get).send slot port value) with
    | some b =>
      set b
      return .delivered true
    | none => return .delivered false

/-- The bus that the call leaves, whether or not it traps. -/
def leave (b : Bus) (c : Call) : Bus :=
  match c.run.run b with
  | .ok _ b' => b'
  | .error _ b' => b'

/-- The call binds or unbinds this slot. -/
def Rebinds (slot : Nat) : Call → Prop
  | .bind i _ | .unbind i => i = slot
  | .output _ | .send .. => False

def content? : Call → Option Device
  | .bind _ received => some (.ofWrites received)
  | .unbind _ | .output _ | .send .. => none

/-- The value that the call sends to port `q` of a slot. -/
def sent? (slot q : Nat) : Call → Option UInt8
  | .output w => if w.address.toNat = 16 * slot + q then some w.value else none
  | .send i port value => if i = slot ∧ port.toNat = q then some value else none
  | .bind .. | .unbind _ => none

/-- The trap into which the call runs: a slot, or the port of a device, that does not exist. -/
def refusal? (b : Bus) : Call → Option Trap
  | .bind i _ | .unbind i => if 16 ≤ i then some (.indexOutOfBounds 16 i) else none
  | .output _ => none
  | .send i port _ =>
    if (b.device? i).isSome ∧ 16 ≤ port.toNat then some (.indexOutOfBounds 16 port.toNat) else none

def reply (b : Bus) : Call → Reply
  | .bind i _ | .unbind i => .previous (b.device? i)
  | .output w => .delivered (b.device? (w.address.toNat / 16)).isSome
  | .send i _ _ => .delivered (b.device? i).isSome

end Call

def replay (calls : List Call) : Bus :=
  calls.foldl Call.leave {}

theorem device?_eq_none_of_le (b : Bus) {i : Nat} (h : 16 ≤ i) : b.device? i = none := by
  have hnone : b.slots[i]? = none := by simpa using h
  rw [device?, hnone]
  rfl

theorem device?_new (i : Nat) : ({} : Bus).device? i = none := by
  by_cases h : i < 16
  · simp [device?, h]
  · exact device?_eq_none_of_le _ (Nat.le_of_not_lt h)

theorem replace_of_lt (b : Bus) {i : Nat} (h : i < 16) (content : Option Device) :
    b.replace i content = .ok (b.device? i, b.place ⟨i, h⟩ content) := by
  rw [replace, dif_pos h]
  simp [device?, h]

theorem replace_of_le (b : Bus) {i : Nat} (h : 16 ≤ i) (content : Option Device) :
    b.replace i content = .error (.indexOutOfBounds 16 i) := by
  rw [replace, dif_neg (Nat.not_lt.mpr h)]

theorem send_of_none {b : Bus} {i : Nat} (h : b.device? i = none) (port value : UInt8) :
    b.send i port value = .ok none := by
  unfold send
  split
  · next hi =>
    have hslot : b.slots[i] = none := by simpa [device?, hi] using h
    rw [hslot]
  · rfl

theorem send_of_some {b : Bus} {i : Nat} {d : Device} (hi : i < 16) (h : b.device? i = some d)
    (port value : UInt8) :
    b.send i port value =
      (d.output port value).map fun d' => some (b.place ⟨i, hi⟩ (some d')) := by
  have hslot : b.slots[i] = some d := by simpa [device?, hi] using h
  unfold send
  rw [dif_pos hi, hslot]
  rfl

def Call.passOn (i : Nat) (d : Device) : Call → Device
  | .output w => d.receive i w
  | .send slot port value =>
    if h : slot = i ∧ port.toNat < 16 then d.record ⟨port.toNat, h.2⟩ value else d
  | .bind .. | .unbind _ => d

namespace Call
variable {b : Bus} {i : Nat} {c : Call}

theorem run_liftExcept {α : Type} (x : Except Trap α) (b : Bus) :
    (liftExcept x : EStateM Trap Bus α).run b = match x with
      | .ok a => .ok a b
      | .error trap => .error trap b := by
  cases x <;> rfl

theorem run_of_rebinds (h : c.Rebinds i) :
    c.run.run b = match b.replace i c.content? with
      | .ok (old, b') => .ok (.previous old) b'
      | .error trap => .error trap b := by
  cases c with
  | bind slot received =>
    obtain rfl : slot = i := h
    rw [run, EStateM.run_bind, run_liftExcept, Device.outputs_eq_ok, ← Device.ofWrites]
    dsimp only
    rw [EStateM.run_bind, EStateM.run_get]
    dsimp only
    rw [EStateM.run_bind, run_liftExcept, content?, Bus.bind]
    cases b.replace slot (some (.ofWrites received)) <;> rfl
  | unbind slot =>
    obtain rfl : slot = i := h
    rw [run, EStateM.run_bind, EStateM.run_get]
    dsimp only
    rw [EStateM.run_bind, run_liftExcept, content?, Bus.unbind]
    cases b.replace slot none <;> rfl
  | output | send => exact h.elim

theorem run_output (w : Write) :
    (Call.output w).run.run b =
      .ok (.delivered (b.device? (w.address.toNat / 16)).isSome) (b.output w) := by
  have hslot : b.device? (w.address.toNat / 16) = b.device? (Address.slot w.address) := rfl
  rw [run, EStateM.run_bind, EStateM.run_get, hslot, Bus.output]
  dsimp only
  rw [deliver?_eq_map]
  cases b.device? (Address.slot w.address) <;> rfl

theorem run_send (port value : UInt8) :
    (Call.send i port value).run.run b = match b.send i port value with
      | .ok (some b') => .ok (.delivered true) b'
      | .ok none => .ok (.delivered false) b
      | .error trap => .error trap b := by
  rw [run, EStateM.run_bind, EStateM.run_get]
  dsimp only
  rw [EStateM.run_bind, run_liftExcept]
  rcases b.send i port value with trap | (_ | b') <;> rfl

private theorem run_eq_of_rebinds (h : c.Rebinds i) :
    c.run.run b = match c.refusal? b with
      | some trap => .error trap b
      | none => .ok (c.reply b) (leave b c) := by
  have hc : c.refusal? b = (if 16 ≤ i then some (.indexOutOfBounds 16 i) else none) ∧
      c.reply b = .previous (b.device? i) := by
    cases c with
    | bind | unbind =>
      obtain rfl : _ = i := h
      exact ⟨rfl, rfl⟩
    | output | send => exact h.elim
  rw [hc.1, hc.2, leave, run_of_rebinds h]
  by_cases hi : 16 ≤ i
  · rw [if_pos hi, b.replace_of_le hi]
  · rw [if_neg hi, b.replace_of_lt (Nat.lt_of_not_le hi)]

/-- A call traps for the stated reason only, and then the bus stays as it is. -/
theorem run_eq (b : Bus) (c : Call) :
    c.run.run b = match c.refusal? b with
      | some trap => .error trap b
      | none => .ok (c.reply b) (leave b c) := by
  cases c with
  | bind i received => exact run_eq_of_rebinds (Eq.refl i)
  | unbind i => exact run_eq_of_rebinds (Eq.refl i)
  | output w =>
    rw [leave, run_output]
    rfl
  | send i port value =>
    rw [leave, run_send, refusal?, reply]
    cases hd : b.device? i with
    | none =>
      rw [send_of_none hd]
      simp
    | some d =>
      have hi : i < 16 := Nat.lt_of_not_le fun h => by simp [b.device?_eq_none_of_le h] at hd
      rw [send_of_some hi hd, Device.output]
      by_cases hp : port.toNat < 16
      · rw [dif_pos hp, if_neg (by simp [hp])]
        rfl
      · rw [dif_neg hp, if_pos (by simpa using hp)]
        rfl

theorem device?_leave_of_rebinds (h : c.Rebinds i) (hi : i < 16) :
    (leave b c).device? i = c.content? := by
  rw [leave, run_of_rebinds h, b.replace_of_lt hi]
  simp [device?_place]

theorem device?_leave_of_ne {slot : Nat} (h : c.Rebinds slot) (hne : i ≠ slot) :
    (leave b c).device? i = b.device? i := by
  rw [leave, run_of_rebinds h]
  by_cases hs : 16 ≤ slot
  · rw [b.replace_of_le hs]
  · rw [b.replace_of_lt (Nat.lt_of_not_le hs)]
    simp [device?_place, hne]

theorem device?_leave (h : ¬ c.Rebinds i) :
    (leave b c).device? i = (b.device? i).map (c.passOn i) := by
  have hid : b.device? i = (b.device? i).map id := Option.map_id_apply.symm
  cases c with
  | bind slot received =>
    rw [device?_leave_of_ne (c := .bind slot received) (Eq.refl slot) (Ne.symm h)]
    exact hid
  | unbind slot =>
    rw [device?_leave_of_ne (c := .unbind slot) (Eq.refl slot) (Ne.symm h)]
    exact hid
  | output w =>
    rw [leave, run_output]
    exact device?_output b w i
  | send slot port value =>
    rw [leave, run_send]
    cases hd : b.device? slot with
    | none =>
      rw [send_of_none hd]
      by_cases he : slot = i
      · simp [← he, hd]
      · simp [passOn, he]
    | some d =>
      have hs : slot < 16 := Nat.lt_of_not_le fun hle => by
        simp [b.device?_eq_none_of_le hle] at hd
      rw [send_of_some hs hd, Device.output]
      by_cases hp : port.toNat < 16
      · rw [dif_pos hp]
        by_cases he : slot = i
        · subst he
          simp [Except.map, device?_place, passOn, hd, hp]
        · simp [Except.map, device?_place, passOn, he, Ne.symm he]
      · rw [dif_neg hp]
        simp [Except.map, passOn, hp]

theorem log_passOn (c : Call) (i : Nat) {q : Nat} (hq : q < 16) (d : Device) :
    (c.passOn i d).log q = (c.sent? i q).toList ++ d.log q := by
  cases c with
  | bind | unbind => rfl
  | output w =>
    rw [passOn, sent?, Device.log_receive d i w hq]
    split <;> rfl
  | send slot port value =>
    rw [passOn, sent?]
    by_cases h : slot = i ∧ port.toNat < 16
    · rw [dif_pos h, Device.log_record]
      by_cases hp : q = port.toNat
      · simp [hp, h.1]
      · simp [hp, Ne.symm hp]
    · have hne : ¬ (slot = i ∧ port.toNat = q) := fun hs => h ⟨hs.1, hs.2 ▸ hq⟩
      rw [dif_neg h, if_neg hne]
      rfl

/-- Calls that leave a slot alone pass their values on to the device in it. -/
theorem device?_foldl_leave {calls : List Call} (h : ∀ c ∈ calls, ¬ c.Rebinds i) (b : Bus) :
    (calls.foldl leave b).device? i = (b.device? i).map fun d => calls.foldl (passOn i) d := by
  induction calls generalizing b with
  | nil => simp
  | cons c calls ih =>
    obtain ⟨hc, hcs⟩ := List.forall_mem_cons.mp h
    rw [List.foldl_cons, ih hcs, device?_leave hc, Option.map_map]
    rfl

theorem exists_last_rebinds (i : Nat) (calls : List Call) :
    (∀ c ∈ calls, ¬ c.Rebinds i) ∨ ∃ before c after, calls = before ++ c :: after ∧
      c.Rebinds i ∧ ∀ c ∈ after, ¬ c.Rebinds i := by
  induction calls with
  | nil => exact .inl nofun
  | cons c calls ih =>
    obtain hnone | ⟨before, c', after, rfl, hc', hafter⟩ := ih
    · by_cases hc : c.Rebinds i
      · exact .inr ⟨[], c, calls, rfl, hc, hnone⟩
      · exact .inl (List.forall_mem_cons.mpr ⟨hc, hnone⟩)
    · exact .inr ⟨c :: before, c', after, rfl, hc', hafter⟩

end Call

/-- What a slot holds was put there by the last call that bound or unbound it, and has taken what
was sent to it since. -/
theorem device?_replay {before after : List Call} {c : Call} {i : Nat} (hi : i < 16)
    (hc : c.Rebinds i) (hafter : ∀ c ∈ after, ¬ c.Rebinds i) :
    (replay (before ++ c :: after)).device? i =
      c.content?.map fun d => after.foldl (Call.passOn i) d := by
  rw [replay, List.foldl_append, List.foldl_cons, Call.device?_foldl_leave hafter,
    Call.device?_leave_of_rebinds hc hi]

theorem isSome_device?_replay_iff (calls : List Call) (i : Nat) :
    ((replay calls).device? i).isSome ↔ i < 16 ∧ ∃ before received after,
      calls = before ++ .bind i received :: after ∧ ∀ c ∈ after, ¬ c.Rebinds i := by
  constructor
  · intro h
    have hi : i < 16 := Nat.lt_of_not_le fun hle => by
      simp [device?_eq_none_of_le _ hle] at h
    refine ⟨hi, ?_⟩
    obtain hnone | ⟨before, c, after, rfl, hc, hafter⟩ := Call.exists_last_rebinds i calls
    · rw [replay, Call.device?_foldl_leave hnone, device?_new] at h
      cases h
    · rw [device?_replay hi hc hafter] at h
      cases c with
      | bind slot received =>
        obtain rfl : slot = i := hc
        exact ⟨before, received, after, rfl, hafter⟩
      | unbind => cases h
      | output | send => exact hc.elim
  · rintro ⟨hi, before, received, after, rfl, hafter⟩
    have hc : Call.Rebinds i (.bind i received) := Eq.refl i
    rw [device?_replay hi hc hafter]
    rfl

/-- The bus is what its history says. A slot holds a device if it was bound last and not unbound;
the device has logged, newest first, what was sent to it since and what it had received before.
Calls give back what the slot held, and those that ask for a slot or a port that does not exist
trap and change nothing. -/
theorem replay_follows_history (calls : List Call) :
    (∀ i, ((replay calls).device? i).isSome ↔ i < 16 ∧ ∃ before received after,
      calls = before ++ .bind i received :: after ∧ ∀ c ∈ after, ¬ c.Rebinds i) ∧
    (∀ i before received after, i < 16 → calls = before ++ .bind i received :: after →
      (∀ c ∈ after, ¬ c.Rebinds i) → ∃ d, (replay calls).device? i = some d ∧
        (∀ q < 16, d.log q = (after.filterMap (Call.sent? i q)).reverse ++
          (Device.valuesAt received q).reverse) ∧
        ∀ q ≥ 16, d.log q = []) ∧
    ∀ c : Call,
      (∀ trap b, c.run.run (replay calls) = .error trap b ↔
        c.refusal? (replay calls) = some trap ∧ b = replay calls) ∧
      ∀ reply b, c.run.run (replay calls) = .ok reply b ↔
        c.refusal? (replay calls) = none ∧ reply = c.reply (replay calls) ∧
          b = replay (calls ++ [c]) := by
  refine ⟨isSome_device?_replay_iff calls, ?_, fun c => ?_⟩
  · rintro i before received after hi rfl hafter
    have hc : Call.Rebinds i (.bind i received) := Eq.refl i
    refine ⟨after.foldl (Call.passOn i) (.ofWrites received), ?_, fun q hq => ?_, fun q hq => ?_⟩
    · rw [device?_replay hi hc hafter]
      rfl
    · rw [Device.log_foldl (fun d c => Call.log_passOn c i hq d), Device.log_ofWrites received hq]
    · exact Device.log_of_le _ hq
  · have happend : replay (calls ++ [c]) = c.leave (replay calls) := by
      rw [replay, List.foldl_append]
      rfl
    rw [Call.run_eq, happend]
    cases c.refusal? (replay calls) with
    | none => simp [eq_comm]
    | some trap => simp [eq_comm]

/-- A console that is bound again starts with the byte it brings along. It gets one value by its
address and one by its port; there is no port sixteen. -/
theorem replay_follows_history_console :
    ∃ d, (replay [.bind 1 [(8, 0x40)], .output ⟨0x18, 0x3f⟩, .bind 1 [(8, 0x41), (9, 0x00)],
        .output ⟨0x18, 0x42⟩, .unbind 2, .send 1 8 0x43, .send 1 16 0x44]).device? 1 = some d ∧
      d.log 8 = [0x43, 0x42, 0x41] ∧ d.log 9 = [0x00] := by
  obtain ⟨-, hlogs, -⟩ := replay_follows_history
    [.bind 1 [(8, 0x40)], .output ⟨0x18, 0x3f⟩, .bind 1 [(8, 0x41), (9, 0x00)],
      .output ⟨0x18, 0x42⟩, .unbind 2, .send 1 8 0x43, .send 1 16 0x44]
  obtain ⟨d, hd, hlog, -⟩ := hlogs 1 [.bind 1 [(8, 0x40)], .output ⟨0x18, 0x3f⟩]
    [(8, 0x41), (9, 0x00)] [.output ⟨0x18, 0x42⟩, .unbind 2, .send 1 8 0x43, .send 1 16 0x44]
    (by decide) rfl (by simp [Call.Rebinds])
  exact ⟨d, hd, (hlog 8 (by decide)).trans (by decide), (hlog 9 (by decide)).trans (by decide)⟩

end Bus

end TwinStack
