/-
# Session -- running texts one after another

A session is an environment on which texts are run in turn: each is read as a
program, checked, and evaluated in the current scope.  `Transcript` is what one
text leaves behind: how it ended, what it printed, and the environment for the
next one.  A text that is no program prints nothing and changes nothing.  One
that fails while it runs keeps what it had printed and bound until then.

An answer of `none` means that the allowance of rounds was used up.
-/
import Scriptlet.Evaluation.Evaluate
import Scriptlet.Grammar.Rules
import Scriptlet.Text.Location
import Scriptlet.Token.Scan

namespace Scriptlet

set_option autoImplicit false

/-- How the run of a text ends. -/
inductive Ending where
  | finished (flow : Flow)
  | refused (error : SyntaxError)
  | failed (error : RuntimeError)

namespace Ending

/-- The report of an ending that is a failure. -/
def complaint? : Ending → Option String
  | finished _ => none
  | refused error => some ("syntax error: " ++ error.message)
  | failed error => some ("runtime error: " ++ error.message)

/-- Where in the text the failure lies; only a text that is refused knows. -/
def location? (text : String) : Ending → Option Location
  | refused error => some (.ofOffset text error.position)
  | _ => none

end Ending

/-- What the run of a text leaves behind. -/
structure Transcript where
  ending : Ending
  printed : String
  environment : Environment

namespace Session

/-- Evaluates a tree in the current scope. -/
def runTree (rounds : Nat) (limits : Limits) (tree : Node) (environment : Environment) :
    Option Transcript :=
  match Evaluation.evaluate limits rounds tree (.start environment) with
  | .done flow after => some ⟨.finished flow, after.printed, after.environment⟩
  | .failed error after => some ⟨.failed error, after.printed, after.environment⟩
  | .unfinished => none

/-- The program that a text writes. -/
def read (text : String) : Except SyntaxError Node := do
  Grammar.parse (← tokenize text)

/-- Runs a text in the current scope. -/
def run (rounds : Nat) (limits : Limits) (text : String) (environment : Environment) :
    Option Transcript :=
  match read text with
  | .ok tree => runTree rounds limits tree environment
  | .error error => some ⟨.refused error, "", environment⟩

end Session

end Scriptlet
