/-
# SyntaxError -- why a text is no program

A text is refused for one of three causes: no lexeme begins at some position, a
run of digits is too large for an integer, or the grammar wants something else
than the token at some position.  Each cause carries the byte offset to blame;
the wording is in `message`.
-/
import Scriptlet.Token

namespace Scriptlet

set_option autoImplicit false

/-- What the grammar would have taken. -/
inductive Expected where
  | expression
  | endOfInput
  | identifier
  | string
  | symbol (symbol : Symbol)
  | either (first second : Symbol)
  | assignmentTarget
  | shallowerNesting
  deriving DecidableEq, Repr

/-- A lexeme in an error report. -/
def inQuotes (lexeme : String) : String := "'" ++ lexeme ++ "'"

def Expected.describe : Expected → String
  | expression => "expression"
  | endOfInput => "end of input"
  | identifier => "identifier"
  | string => "string"
  | symbol sign => inQuotes sign.spelling
  | either first second => inQuotes first.spelling ++ " or " ++ inQuotes second.spelling
  | assignmentTarget => "identifier as assignment target"
  | shallowerNesting => "shallower nesting"

/-- What stands at the position instead. -/
inductive Found where
  | endOfInput
  | lexeme (text : String)
  deriving DecidableEq, Repr

def Found.describe : Found → String
  | endOfInput => "end of input"
  | lexeme text => inQuotes text

/-- Why a text is no program. -/
inductive SyntaxError where
  | unexpectedCharacter (position : Nat)
  | invalidNumber (lexeme : String) (position : Nat)
  | unexpected (expected : Expected) (found : Found) (position : Nat)
  deriving DecidableEq, Repr

namespace SyntaxError

/-- The byte offset to blame. -/
def position : SyntaxError → Nat
  | unexpectedCharacter position => position
  | invalidNumber _ position => position
  | unexpected _ _ position => position

def message : SyntaxError → String
  | unexpectedCharacter position => "unexpected character at position " ++ toString position
  | invalidNumber lexeme position =>
      "invalid number literal " ++ inQuotes lexeme ++ " at position " ++ toString position
  | unexpected expected found position =>
      "expected " ++ expected.describe ++ ", found " ++ found.describe ++ " at position "
        ++ toString position

/-- The error that the first of the remaining tokens is not what was wanted.  If
no token remains, not even an end marker, the blame falls on position zero. -/
def ofRest (expected : Expected) : List Token → SyntaxError
  | [] => unexpected expected .endOfInput 0
  | token :: _ =>
      unexpected expected (if token.isEnd then .endOfInput else .lexeme token.lexeme) token.position

/-- The error that a token nests too deeply. -/
def tooDeep (token : Token) : SyntaxError :=
  unexpected .shallowerNesting (.lexeme token.lexeme) token.position

end SyntaxError

end Scriptlet
