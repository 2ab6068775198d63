import TwinStack.Machine.Run
import TwinStack.Text.Quoted
import TwinStack.Text.Utf8

/-! The command line: an image is read from a file and run with a console on the bus; what the
program wrote to the console is printed. -/
namespace TwinStack.CommandLine

inductive Request where
  | help
  | version
  | run (path : String) (showStacks : Bool)
  deriving DecidableEq

structure Arguments where
  path? : Option String := none
  showStacks : Bool := false
  deriving DecidableEq

namespace Arguments

/-- There is one path, and it is not empty. -/
def addPath? (a : Arguments) (path : String) : Option Arguments :=
  if path = "" ∨ a.path?.isSome then none else some { a with path? := some path }

/-- The flag is given at most once. -/
def addDump? (a : Arguments) : Option Arguments :=
  if a.showStacks then none else some { a with showStacks := true }

def finish? (a : Arguments) : Option Request :=
  a.path?.map fun path => .run path a.showStacks

/-- Arguments are read from the left, and the first that is wrong or asks for help or for the
version decides. After `--` all of them are paths. A lone `-` is a path too, and of a group of short
flags only the first is looked at. -/
def read? (a : Arguments) : List String → Option Request
  | [] => a.finish?
  | "--" :: rest => do (← rest.foldlM addPath? a).finish?
  | "--help" :: _ => some .help
  | "--version" :: _ => some .version
  | "--stacks" :: rest => do (← a.addDump?).read? rest
  | arg :: rest =>
    match arg.toList with
    | '-' :: 'h' :: _ => some .help
    | '-' :: 'V' :: _ => some .version
    | '-' :: _ :: _ => none
    | _ => do (← a.addPath? arg).read? rest

end Arguments

def Request.ofArguments? (args : List String) : Option Request :=
  Arguments.read? {} args

inductive ReadFailure where
  | notFound
  | isDirectory
  | other (message : String)
  deriving DecidableEq

def ReadFailure.message : ReadFailure → String
  | .notFound => "No such file or directory (os error 2)"
  | .isDirectory => "Is a directory (os error 21)"
  | .other message => message

structure Output where
  code : Nat := 0
  stdout : List UInt8 := []
  stderr : List UInt8 := []
  deriving DecidableEq

def report (error cause : String) : List UInt8 :=
  Text.utf8 ("Error: " ++ error ++ "\n\nCaused by:\n    " ++ cause ++ "\n")

def usage : String :=
  "usage: [--help] [--version] [--stacks] [--] PATH\n"

def help : Output :=
  { stdout := Text.utf8 usage }

def version : Output :=
  { stdout := Text.utf8 "finch-cli 0.1.0\n" }

def unreadable (path : String) (failure : ReadFailure) : Output :=
  { code := 1, stderr := report ("failed to read " ++ Text.quoted path) failure.message }

def stackLine (name : String) (s : Stack) : List UInt8 :=
  Text.utf8 (name ++ ":" ++ String.ofList (s.bytes.flatMap fun b => ' ' :: Hex.pair b) ++ "\n")

def dump (wst rst : Stack) : List UInt8 :=
  stackLine "wst" wst ++ stackLine "rst" rst

/-- The console port whose bytes go to the standard output. -/
def writePort : Nat := 8

/-- The console port whose bytes go to the standard error output. -/
def errorPort : Nat := 9

/-- The bytes written to a console port, oldest first. -/
def written (bus : Bus) (port : Nat) : List UInt8 :=
  match bus.device? Page.console.slot with
  | some console => (console.log port).reverse
  | none => []

/-- What is printed when a run has ended. A fault comes after all that the program wrote. -/
def ended (showStacks : Bool) (e : Ending) : Output :=
  let m := e.machine
  let stdout := written m.bus writePort ++ if showStacks then dump m.wst m.rst else []
  let stderr := written m.bus errorPort
  match e.fault? with
  | none => { stdout, stderr }
  | some fault =>
    { code := 1
      stdout
      stderr := stderr ++ report ("program faulted at " ++ Hex.position m.pc) fault.message }

def start : Machine :=
  { bus := Bus.place {} Page.console.slot (some {}) }

inductive Reply where
  | output (output : Output)
  | usage
  /-- The run did not end within the steps that it may make. -/
  | unfinished
  deriving DecidableEq

/-- Answers a request by running the image that `read` finds, for at most `limit` steps. -/
def respond {m : Type → Type} [Monad m] (read : String → m (Except ReadFailure Image))
    (limit : Nat) (args : List String) : m Reply := do
  match Request.ofArguments? args with
  | none => return .usage
  | some .help => return .output help
  | some .version => return .output version
  | some (.run path showStacks) =>
    match ← read path with
    | .error failure => return .output (unreadable path failure)
    | .ok image =>
      match start.run? image limit with
      | none => return .unfinished
      | some e => return .output (ended showStacks e)

end TwinStack.CommandLine
