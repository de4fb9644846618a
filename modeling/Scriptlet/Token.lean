/-
# Token -- lexemes with their meaning

A `Token` is one lexeme of a source text: the text itself, the byte offset at
which it begins, and its `Terminal`, which is all that the grammar looks at.
Numbers and strings carry their decoded value in the terminal.  A list of tokens
ends with a marker that has an empty lexeme and stands at the end of the text.
-/
import Scriptlet.Number.Binary64

namespace Scriptlet

set_option autoImplicit false

/-! ## Symbols -/

/-- Operators and punctuation. -/
inductive Symbol where
  | leftParen | rightParen | leftBracket | rightBracket | leftBrace | rightBrace
  | comma | semicolon | colon
  | equalEqual | notEqual | lessEqual | greaterEqual | andAnd | orOr
  | less | greater | equal | exclamation | plus | minus | star | slash
  deriving DecidableEq, Repr

namespace Symbol

/-- How the symbol is written. -/
def spelling : Symbol → String
  | leftParen => "("
  | rightParen => ")"
  | leftBracket => "["
  | rightBracket => "]"
  | leftBrace => "\x7b"
  | rightBrace => "\x7d"
  | comma => ","
  | semicolon => ";"
  | colon => ":"
  | equalEqual => "=="
  | notEqual => "!="
  | lessEqual => "<="
  | greaterEqual => ">="
  | andAnd => "&&"
  | orOr => "||"
  | less => "<"
  | greater => ">"
  | equal => "="
  | exclamation => "!"
  | plus => "+"
  | minus => "-"
  | star => "*"
  | slash => "/"

/-- The name of the symbol in a listing of tokens. -/
def tag : Symbol → String
  | leftParen => "LPAR"
  | rightParen => "RPAR"
  | leftBracket => "LSQB"
  | rightBracket => "RSQB"
  | leftBrace => "LBRACE"
  | rightBrace => "RBRACE"
  | comma => "COMMA"
  | semicolon => "SEMI"
  | colon => "COLON"
  | equalEqual => "EQEQUAL"
  | notEqual => "NOTEQUAL"
  | lessEqual => "LESSEQUAL"
  | greaterEqual => "GREATEREQUAL"
  | andAnd => "DOUBLEAMPER"
  | orOr => "DOUBLEVBAR"
  | less => "LESS"
  | greater => "GREATER"
  | equal => "EQUAL"
  | exclamation => "EXCLAMATION"
  | plus => "PLUS"
  | minus => "MINUS"
  | star => "STAR"
  | slash => "SLASH"

end Symbol

/-! ## Keywords -/

/-- The words that are no names. -/
inductive Keyword where
  | printWord | ifWord | elseWord | whileWord | functionWord | returnWord
  | trueWord | falseWord | nullWord
  deriving DecidableEq, Repr

namespace Keyword

def spelling : Keyword → String
  | printWord => "print"
  | ifWord => "if"
  | elseWord => "else"
  | whileWord => "while"
  | functionWord => "function"
  | returnWord => "return"
  | trueWord => "true"
  | falseWord => "false"
  | nullWord => "null"

/-- All keywords. -/
def all : List Keyword :=
  [printWord, ifWord, elseWord, whileWord, functionWord, returnWord, trueWord, falseWord, nullWord]

end Keyword

/-! ## Tokens -/

/-- What the grammar sees of a token. -/
inductive Terminal where
  | endMarker
  | name
  | integer (value : Int64)
  | float (value : Binary64)
  | string (value : String)
  | keyword (word : Keyword)
  | symbol (symbol : Symbol)
  deriving DecidableEq

/-- The name of a terminal in a listing of tokens. -/
def Terminal.tag : Terminal → String
  | endMarker => "ENDMARKER"
  | name => "NAME"
  | integer _ => "NUMBER"
  | float _ => "NUMBER"
  | string _ => "STRING"
  | keyword _ => "KEYWORD"
  | symbol sign => sign.tag

/-- A lexeme, what it stands for, and the byte offset at which it begins. -/
structure Token where
  terminal : Terminal
  lexeme : String
  position : Nat
  deriving DecidableEq

namespace Token

/-- The marker after the last lexeme. -/
def endAt (position : Nat) : Token := ⟨.endMarker, "", position⟩

def isEnd (token : Token) : Bool := token.terminal = .endMarker

/-- The line of a token in a listing. -/
def describe (token : Token) : String :=
  token.terminal.tag ++ "('" ++ token.lexeme ++ "')@" ++ toString token.position

end Token

end Scriptlet
