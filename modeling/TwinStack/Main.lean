import TwinStack.CommandLine

/-! The executable: files and streams around `CommandLine.respond`. -/
namespace TwinStack.CommandLine

def readImage (path : String) : IO (Except ReadFailure Image) := do
  try
    return .ok (← IO.FS.readBinFile path).data
  catch
    | .noFileOrDirectory .. => return .error .notFound
    | .inappropriateType .. => return .error .isDirectory
    | error => return .error (.other (toString error))

def print (output : Output) : IO UInt32 := do
  let stdout ← IO.getStdout
  stdout.write ⟨output.stdout.toArray⟩
  stdout.flush
  let stderr ← IO.getStderr
  stderr.write ⟨output.stderr.toArray⟩
  stderr.flush
  return UInt32.ofNat output.code

/-- Prints the reply to the arguments and gives the exit code. -/
def perform (args : List String) : IO UInt32 := do
  match ← respond readImage Machine.patience args with
  | .output output => print output
  | .usage =>
    IO.eprint usage
    return 2
  | .unfinished =>
    IO.eprintln "the program does not stop"
    return 1

end TwinStack.CommandLine

def main (args : List String) : IO UInt32 :=
  TwinStack.CommandLine.perform args
