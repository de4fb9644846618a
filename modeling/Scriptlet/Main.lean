/-
# Main -- the command line

Reads files and lines, and leaves everything else to `Console`.  The interactive
session answers each line before it reads the next one.
-/
import Scriptlet.Console

namespace Scriptlet.Main

set_option autoImplicit false

/-- An allowance of rounds that no run uses up. -/
def rounds : Nat := Nat.pow 2 62

/-- The wording of a failure of the system. -/
def reason (details : String) (code : UInt32) : String := s!"{details} (os error {code})"

/-- What there is under the name of a file. -/
def readSource (name : String) : IO Console.Source := do
  try
    pure (.ofBytes? (some (← IO.FS.readBinFile name)))
  catch
    | .noFileOrDirectory .. => pure .missing
    | .permissionDenied _ code details => pure (.withheld (reason details code))
    | .inappropriateType _ code details => pure (.withheld (reason details code))
    | error => pure (.withheld error.toString)

/-- Runs the named files. -/
def runFiles (names : List String) : IO UInt32 := do
  let sources ← names.mapM fun name => do pure (name, ← readSource name)
  let files := fun name => (Dictionary.find? name sources).getD .missing
  match Console.runScripts Console.Failure.text rounds files "" .new names with
  | none => pure 2
  | some report =>
      (← IO.getStdout).putStr report.output
      (← IO.getStderr).putStr report.errors
      pure report.exitCode.toUInt32

/-- The next line, or how the reading of lines ends. -/
def readLine : IO (Except Console.Closing String) := do
  try
    match Console.lines (← (← IO.getStdin).getLine) with
    | [] => pure (.error .ended)
    | line :: _ => pure (.ok line)
  catch error => pure (.error (.failed error.toString))

/-- Answers lines until the input or the session ends. -/
partial def converse (state : Console.Dialogue) : IO Unit := do
  let output ← IO.getStdout
  output.putStr Console.Dialogue.prompt
  output.flush
  match ← readLine with
  | .error closing => output.putStr closing.farewell
  | .ok line =>
      match state.respond rounds line with
      | some (reply, some next) => output.putStr reply; converse next
      | some (reply, none) => output.putStr reply
      | none => pure ()

end Scriptlet.Main

def main (arguments : List String) : IO UInt32 :=
  let arguments := Scriptlet.Console.Arguments.ofList arguments
  match arguments.names with
  | [] => do
      Scriptlet.Main.converse ⟨.new, arguments.listing⟩
      pure 0
  | names => Scriptlet.Main.runFiles names
