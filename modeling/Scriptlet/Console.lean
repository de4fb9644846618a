/-
# Console -- the command line as it is run

What a call does is in `Console.Call`.  Packages of their own read the command line, edit the lines
and render failures, and no theory of them is developed here.  This module stands in for them with
as much as a call needs whose input is a text: file names and the flag for the listing among the
arguments, lines with their backspaces carried out, and a failure with its cause below it.  What is
proved of calls holds for any arguments, any reader, and any rendering that shows the message.
-/
import Scriptlet.Console.Call
import Scriptlet.Console.Typed

namespace Scriptlet.Console

set_option autoImplicit false

/-- Whether an argument asks for the listing of bindings. -/
def isListingFlag (argument : String) : Bool := argument == "--debug" || argument == "-d"

/-- What the arguments ask for: the files named among them, and the listing. -/
def Arguments.ofList (arguments : List String) : Arguments where
  names := arguments.filter fun argument => !isListingFlag argument
  listing := arguments.any isListingFlag

/-- The lines of an input.  A line ends before a line feed, or before a carriage
return and a line feed; what follows the last line feed is a line unless it is
empty.  The characters of the line so far come in reverse. -/
def linesAfter (reversed : List Char) : List Char → List String
  | [] => if reversed = [] then [] else [String.ofList reversed.reverse]
  | c :: rest =>
      if c = '\n' then
        let line := if reversed.head? = some '\r' then reversed.tail else reversed
        String.ofList line.reverse :: linesAfter [] rest
      else linesAfter (c :: reversed) rest

/-- The lines of an input, as they were meant by whoever typed them. -/
def lines (input : String) : List String := (linesAfter [] input.toList).map typed

/-- The reader of an input that is not typed at a terminal: its prompt is written as it is. -/
def Reader.ofInput (input : String) : Reader := ⟨id, Console.lines input, .ended⟩

/-- A failure as it is written, with its cause. -/
def Failure.text (failure : Failure) : String :=
  match failure.cause? with
  | some cause => "Error: " ++ failure.message ++ "\n\nCaused by:\n    " ++ cause ++ "\n"
  | none => "Error: " ++ failure.message ++ "\n"

/-- What a call of the program leaves behind, given its arguments, the files and the
standard input. -/
def run (rounds : Nat) (arguments : List String) (files : String → Source) (input : String) :
    Option Report :=
  call Failure.text rounds (.ofList arguments) files (.ofInput input)

example : lines "a\r\n\nbc\x08" = ["a", "", "b"] := by decide +kernel

end Scriptlet.Console
