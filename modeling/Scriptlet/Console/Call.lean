/-
# Console.Call -- scripts and the interactive session

A call of the program is told the names of some files, and whether bindings are to be listed.

With names, the files are run in order on one session.  The first that cannot be read, is no
program or fails ends the run; its name goes into the message of the failure, with a location if
the failure lies in its text.

Without names, lines are run on one session.  The reader is asked with a prompt for each of them.
A line that is `exit` or `quit` ends the session, one that is `debug` turns on or off the listing of
all bindings after each other line, and a failure is reported and does not end anything.  The
session also ends when the reader has no more lines.

How arguments and lines are read and how a failure is rendered is not settled here.  A call takes
what has been read (`Arguments`, `Reader`) and the rendering of failures as parameters.
-/
import Scriptlet.Session
import Scriptlet.Text.Blank

namespace Scriptlet.Console

set_option autoImplicit false

/-- What a call of the program leaves behind. -/
structure Report where
  exitCode : Nat
  output : String
  errors : String
  deriving DecidableEq, Repr

/-- What a call is asked to do: the files to run, and whether bindings are listed if there are
none. -/
structure Arguments where
  names : List String
  listing : Bool

/-! ## Scripts -/

/-- What there is under the name of a file.  The system may have a reason to withhold it. -/
inductive Source where
  | missing
  | withheld (reason : String)
  | undecodable
  | text (content : String)

/-- What the bytes of a file hold, if there is such a file. -/
def Source.ofBytes? : Option ByteArray → Source
  | none => missing
  | some bytes =>
      match String.fromUTF8? bytes with
      | some content => text content
      | none => undecodable

/-- The content of a file, or why it cannot be read. -/
def Source.content : Source → Except String String
  | missing => .error "No such file or directory (os error 2)"
  | withheld reason => .error reason
  | undecodable => .error "stream did not contain valid UTF-8"
  | text content => .ok content

/-- Why a call fails, and what has caused that if it is known. -/
structure Failure where
  message : String
  cause? : Option String
  deriving DecidableEq, Repr

/-- The failure of a file that cannot be read. -/
def unreadable (name reason : String) : Failure := ⟨"failed to read " ++ name, some reason⟩

/-- The failure of a script. -/
def scriptFailure (name : String) (location? : Option Location) (complaint : String) : Failure :=
  match location? with
  | some location => ⟨name ++ ", " ++ location.describe ++ ": " ++ complaint, none⟩
  | none => ⟨name ++ ": " ++ complaint, none⟩

/-- Runs the named files in order, after `output` has been printed. -/
def runScripts (render : Failure → String) (rounds : Nat) (files : String → Source)
    (output : String) (environment : Environment) : List String → Option Report
  | [] => some ⟨0, output, ""⟩
  | name :: others =>
      match (files name).content with
      | .error reason => some ⟨1, output, render (unreadable name reason)⟩
      | .ok content => do
          let transcript ← Session.run rounds .default content environment
          let output := output ++ transcript.printed
          match transcript.ending.complaint? with
          | some complaint =>
              let location? := transcript.ending.location? content
              some ⟨1, output, render (scriptFailure name location? complaint)⟩
          | none => runScripts render rounds files output transcript.environment others

/-! ## The interactive session -/

/-- How the reading of lines ends: the user interrupts it, the input is at its end, or it fails. -/
inductive Closing where
  | interrupted
  | ended
  | failed (description : String)

/-- What is written when the reading of lines has ended. -/
def Closing.farewell : Closing → String
  | interrupted => "CTRL-C\n"
  | ended => "CTRL-D\n"
  | failed description => "Error: " ++ description ++ "\n"

/-- What reads the lines: what it writes when it is asked with a prompt, the lines that it reads one
after the other, and how the reading ends behind them. -/
structure Reader where
  asks : String → String
  lines : List String
  closing : Closing

/-- The state between two lines: the bindings, and whether they are listed. -/
structure Dialogue where
  environment : Environment
  listing : Bool

namespace Dialogue

/-- The prompt with which the reader is asked for a line. -/
def prompt : String := ">> "

/-- The bindings of the current scope, one to a line. -/
def bindings (environment : Environment) : String :=
  String.join (environment.localBindings.map fun binding =>
    "  " ++ binding.1 ++ " = " ++ binding.2.display ++ "\n")

/-- The report of a failure in a line. -/
def lineFailure (location? : Option Location) (complaint : String) : String :=
  match location? with
  | some location => "Error at " ++ location.describe ++ ": " ++ complaint ++ "\n"
  | none => "Error: " ++ complaint ++ "\n"

/-- What a line that is a program writes, and the state after it. -/
def runLine (rounds : Nat) (state : Dialogue) (line : String) : Option (String × Dialogue) := do
  let transcript ← Session.run rounds .default line state.environment
  let failure :=
    match transcript.ending.complaint? with
    | some complaint => lineFailure (transcript.ending.location? line) complaint
    | none => ""
  let listed := if state.listing then bindings transcript.environment else ""
  pure (transcript.printed ++ failure ++ listed,
    { state with environment := transcript.environment })

/-- What a line writes, and the state after it unless the line ends the session. -/
def respond (rounds : Nat) (state : Dialogue) (line : String) :
    Option (String × Option Dialogue) :=
  let command := Text.trim line
  if command = "exit" ∨ command = "quit" then some ("", none)
  else if command = "debug" then
    if state.listing then some ("debugger is off.\n", some { state with listing := false })
    else
      some ("debugger is on.\n" ++ bindings state.environment,
        some { state with listing := true })
  else (runLine rounds state line).map fun reply => (reply.1, some reply.2)

/-- All that a session writes, after `output`, as it reads the given lines; `asked` is written
before each of them, and before the reading ends. -/
def transcript (rounds : Nat) (asked : String) (closing : Closing) (output : String)
    (state : Dialogue) : List String → Option String
  | [] => some (output ++ asked ++ closing.farewell)
  | line :: others => do
      let (reply, next?) ← state.respond rounds line
      let output := output ++ asked ++ reply
      match next? with
      | none => some output
      | some next => transcript rounds asked closing output next others

/-- All that a session writes with a reader. -/
def converse (rounds : Nat) (state : Dialogue) (reader : Reader) : Option String :=
  state.transcript rounds (reader.asks prompt) reader.closing "" reader.lines

end Dialogue

/-! ## A call -/

/-- What a call of the program leaves behind. -/
def call (render : Failure → String) (rounds : Nat) (arguments : Arguments)
    (files : String → Source) (reader : Reader) : Option Report :=
  match arguments.names with
  | [] => do
      let output ← Dialogue.converse rounds ⟨.new, arguments.listing⟩ reader
      pure ⟨0, output, ""⟩
  | names => runScripts render rounds files "" .new names

end Scriptlet.Console
