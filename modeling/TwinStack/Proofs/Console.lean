import TwinStack.CommandLine
import TwinStack.Proofs.Hexadecimal
import TwinStack.Proofs.Stability

/-! What the command line prints. The console gives back the values that the program sent to two of
its addresses, in the order in which they were sent, whatever the program did otherwise and however
it ended. -/
namespace TwinStack

/-- The values that a run of at most `limit` steps sends to a device address, in order. -/
def Machine.sent (m : Machine) (image : Image) (limit : Nat) (address : UInt8) : List UInt8 :=
  ((m.writes image (m.advance image limit).made).filter (·.address = address)).map Write.value

namespace CommandLine

theorem utf8_newline : Text.utf8 "\n" = [0x0a] := by
  decide

theorem stackLine_eq (name : String) (s : Stack) :
    stackLine name s = Text.utf8 (name ++ ":") ++ Hex.row s.bytes ++ [0x0a] := by
  rw [stackLine, Text.utf8_append, Text.utf8_append, Hex.utf8_row, utf8_newline]

theorem exists_report_eq (pc : Nat) (cause : String) :
    ∃ digits, Hex.Spells digits pc ∧ report ("program faulted at " ++ Hex.position pc) cause =
      Text.utf8 "Error: program faulted at 0x" ++ digits.map Hex.digit ++
        Text.utf8 "\n\nCaused by:\n    " ++ Text.utf8 cause ++ [0x0a] := by
  obtain ⟨digits, hspells, hposition⟩ := Hex.exists_utf8_position pc
  have hhead : Text.utf8 "Error: program faulted at 0x" =
      Text.utf8 "Error: " ++ (Text.utf8 "program faulted at " ++ Text.utf8 "0x") := by
    rw [← Text.utf8_append, ← Text.utf8_append]
    rfl
  refine ⟨digits, hspells, ?_⟩
  simp only [report, Text.utf8_append, hposition, hhead, utf8_newline, List.append_assoc]

/-- A console port holds what was sent to its address. -/
theorem written_of_run? {rom : Image} {limit port : Nat} {e : Ending} {address : UInt8}
    (h : start.run? rom limit = some e) (hport : port < 16)
    (haddress : address.toNat = 16 + port) :
    written e.machine.bus port = start.sent rom limit address := by
  have hdevice : e.machine.bus.device? Page.console.slot = some
      ((start.writes rom (start.advance rom limit).made).foldl (·.receive 1 ·) {}) := by
    rw [Machine.machine_of_run? h, Machine.device?_stepped]
    rfl
  have hnew : ({} : Device).log port = [] := by simp [Device.log, hport]
  have hsame (w : Write) : w.address.toNat = 16 * 1 + port ↔ w.address = address := by
    rw [← UInt8.toNat_inj, haddress]
  rw [written, hdevice]
  dsimp only
  rw [Device.log_foldl_receive _ 1 _ hport, hnew, List.append_nil, List.reverse_reverse]
  simp only [hsame, Machine.sent]

theorem respond_of_run? {M : Type → Type} [Monad M] [LawfulMonad M]
    {read : String → M (Except ReadFailure Image)} {args : List String} {path : String}
    {showStacks : Bool} {rom : Image} {limit : Nat} {e : Ending}
    (hargs : Request.ofArguments? args = some (.run path showStacks))
    (hread : read path = pure (.ok rom)) (hrun : start.run? rom limit = some e) :
    respond read limit args = pure (.output (ended showStacks e)) := by
  unfold respond
  simp only [hargs, hread, pure_bind, hrun]

theorem stdout_ended (showStacks : Bool) (e : Ending) :
    (ended showStacks e).stdout = written e.machine.bus writePort ++
      if showStacks then dump e.machine.wst e.machine.rst else [] := by
  unfold ended
  cases e.fault? <;> rfl

/-- What is printed about an image that runs to an end. The standard output has the values sent to
the console's address `0x18`, and the stacks if they are asked for; the standard error output has
those sent to `0x19`, and the report of a fault behind them. -/
theorem respond_prints_run {M : Type → Type} [Monad M] [LawfulMonad M]
    (read : String → M (Except ReadFailure Image)) (args : List String) (path : String)
    (showStacks : Bool) (rom : Image) (limit : Nat) (e : Ending)
    (hargs : Request.ofArguments? args = some (.run path showStacks))
    (hread : read path = pure (.ok rom)) (hrun : start.run? rom limit = some e) :
    ∃ output, respond read limit args = pure (.output output) ∧
      e.machine = start.stepped rom (start.advance rom limit).made ∧
      output.stdout = start.sent rom limit 0x18 ++
        (if showStacks then
          Text.utf8 "wst:" ++ Hex.row e.machine.wst.bytes ++ [0x0a] ++
            (Text.utf8 "rst:" ++ Hex.row e.machine.rst.bytes ++ [0x0a])
        else []) ∧
      (e.fault? = none → output.code = 0 ∧ output.stderr = start.sent rom limit 0x19) ∧
      ∀ fault, e.fault? = some fault →
        (e.machine.step rom).outcome = .faulted fault ∧ output.code = 1 ∧
        ∃ digits, Hex.Spells digits e.machine.pc ∧
          output.stderr = start.sent rom limit 0x19 ++
            (Text.utf8 "Error: program faulted at 0x" ++ digits.map Hex.digit ++
              Text.utf8 "\n\nCaused by:\n    " ++ Text.utf8 fault.message ++ [0x0a]) := by
  have hout : written e.machine.bus writePort = start.sent rom limit 0x18 :=
    written_of_run? hrun (by decide) rfl
  have herr : written e.machine.bus errorPort = start.sent rom limit 0x19 :=
    written_of_run? hrun (by decide) rfl
  refine ⟨ended showStacks e, respond_of_run? hargs hread hrun, Machine.machine_of_run? hrun, ?_,
    fun hok => ?_, fun fault hfault => ?_⟩
  · rw [stdout_ended, hout, dump, stackLine_eq, stackLine_eq]
    rfl
  · unfold ended
    rw [hok]
    exact ⟨rfl, herr⟩
  · obtain ⟨digits, hspells, hreport⟩ := exists_report_eq e.machine.pc fault.message
    obtain ⟨-, hend⟩ := Machine.step_of_run? hrun
    obtain ⟨fault?, m⟩ := e
    obtain rfl : fault? = some fault := hfault
    refine ⟨(Machine.ending?_eq_some_fault_iff.mp hend).1, rfl, digits, hspells, ?_⟩
    rw [← hreport, ← herr]
    rfl

/-- Two values for the console and one for an empty slot; then an addition lacks an operand. A
program that only breaks prints nothing. -/
theorem respond_prints_run_add :
    (∃ output, respond (m := Id)
        (fun _ => .ok #[0xa0, 0x41, 0x18, 0x17, 0xa0, 0x42, 0x19, 0x17, 0xa0, 0x43, 0x28, 0x17,
          0x80, 0x07, 0x18]) 8 ["--stacks", "add.rom"] = .output output ∧
      output.code = 1 ∧ output.stdout = 0x41 :: Text.utf8 "wst: 07\nrst:\n" ∧
      ∃ digits, Hex.Spells digits 14 ∧ output.stderr = 0x42 ::
        (Text.utf8 "Error: program faulted at 0x" ++ digits.map Hex.digit ++
          Text.utf8 "\n\nCaused by:\n    " ++ Text.utf8 "stack underflow" ++ [0x0a])) ∧
    ∃ output, respond (m := Id) (fun _ => .ok #[0x00]) 1 ["break.rom"] = .output output ∧
      output.code = 0 ∧ output.stdout = [] ∧ output.stderr = [] := by
  constructor
  · obtain ⟨output, hrespond, -, hout, -, hfault⟩ := respond_prints_run (M := Id)
      (fun _ => .ok #[0xa0, 0x41, 0x18, 0x17, 0xa0, 0x42, 0x19, 0x17, 0xa0, 0x43, 0x28, 0x17,
        0x80, 0x07, 0x18]) ["--stacks", "add.rom"] "add.rom" true _ 8
      ⟨some .stackUnderflow, { start with
        wst := .ofBytes [7], pc := 14,
        bus := ({} : Bus).place 1 (some ((Device.record {} 8 0x41).record 9 0x42)) }⟩
      (by decide) rfl (by decide)
    obtain ⟨-, hcode, digits, hspells, herr⟩ := hfault .stackUnderflow rfl
    have hsent : start.sent #[0xa0, 0x41, 0x18, 0x17, 0xa0, 0x42, 0x19, 0x17, 0xa0, 0x43, 0x28,
        0x17, 0x80, 0x07, 0x18] 8 0x19 = [0x42] := by decide
    rw [hsent] at herr
    exact ⟨output, hrespond, hcode, hout.trans (by decide), digits, hspells, herr⟩
  · obtain ⟨output, hrespond, -, hout, hok, -⟩ := respond_prints_run (M := Id)
      (fun _ => .ok #[0x00]) ["break.rom"] "break.rom" false _ 1 ⟨none, start⟩
      (by decide) rfl (by decide)
    obtain ⟨hcode, herr⟩ := hok rfl
    exact ⟨output, hrespond, hcode, hout.trans (by decide), herr.trans (by decide)⟩

end CommandLine

end TwinStack
