/-
# Token.Pattern -- the shapes of lexemes

A `Pattern` is a class of lexemes.  `split?` takes the lexeme of a pattern off
the front of a text and leaves the rest; `terminal?` says what the lexeme stands
for.  `Pattern.rules` lists the patterns in the order in which they are tried:
symbols of two characters come before those of one, and keywords before names.

A keyword must not be followed by a letter, a digit or an underscore of ASCII.
A letter outside ASCII begins no lexeme at all, so whether it also keeps a word
from being a keyword makes no difference: such a text is refused at that letter.
-/
import Scriptlet.SyntaxError
import Scriptlet.Text.Blank

namespace Scriptlet

set_option autoImplicit false

/-- The classes of lexemes. -/
inductive Pattern where
  | blanks
  | symbol (symbol : Symbol)
  | keyword
  | number
  | string
  | name
  deriving DecidableEq, Repr

namespace Pattern

/-! ## Characters of words -/

def isWordStart (c : Char) : Bool := c.isAlpha || c == '_'

def isWordChar (c : Char) : Bool := c.isAlphanum || c == '_'

/-- Whether no word goes on at the front of a text. -/
def atBoundary : List Char → Bool
  | [] => true
  | c :: _ => !isWordChar c

/-! ## Taking a lexeme off a text -/

/-- A keyword that ends at a word boundary. -/
def splitKeyword? (word : Keyword) (text : List Char) : Option (List Char × List Char) :=
  match word.spelling.toList.isPrefixOf? text with
  | some rest => if atBoundary rest then some (word.spelling.toList, rest) else none
  | none => none

/-- Digits, with at most one point anywhere among them. -/
def splitNumber? (text : List Char) : Option (List Char × List Char) :=
  let whole := text.takeWhile Char.isDigit
  match text.dropWhile Char.isDigit with
  | '.' :: rest =>
      let behind := rest.takeWhile Char.isDigit
      if whole = [] ∧ behind = [] then none
      else some (whole ++ '.' :: behind, rest.dropWhile Char.isDigit)
  | rest => if whole = [] then none else some (whole, rest)

/-- The rest of a string after its opening quote, up to and with the next quote
that no backslash precedes.  A backslash takes the character after it along,
but cannot stand before a line feed. -/
def closeString? : List Char → Option (List Char × List Char)
  | [] => none
  | '"' :: rest => some (['"'], rest)
  | '\\' :: c :: rest =>
      if c = '\n' then none
      else (closeString? rest).map fun split => ('\\' :: c :: split.1, split.2)
  | c :: rest =>
      if c = '\\' then none else (closeString? rest).map fun split => (c :: split.1, split.2)

/-- The lexeme of a pattern at the front of a text, and the text after it. -/
def split? : Pattern → List Char → Option (List Char × List Char)
  | blanks, text =>
      if text.takeWhile Text.isBlank = [] then none
      else some (text.takeWhile Text.isBlank, text.dropWhile Text.isBlank)
  | symbol sign, text =>
      (sign.spelling.toList.isPrefixOf? text).map fun rest => (sign.spelling.toList, rest)
  | keyword, text => Keyword.all.findSome? fun word => splitKeyword? word text
  | number, text => splitNumber? text
  | string, '"' :: rest => (closeString? rest).map fun split => ('"' :: split.1, split.2)
  | string, _ => none
  | name, c :: rest =>
      if isWordStart c then some (c :: rest.takeWhile isWordChar, rest.dropWhile isWordChar)
      else none
  | name, [] => none

/-- The patterns in the order in which they are tried. -/
def rules : List Pattern :=
  [blanks, symbol .leftParen, symbol .rightParen, symbol .leftBracket, symbol .rightBracket,
    symbol .leftBrace, symbol .rightBrace, symbol .comma, symbol .semicolon, symbol .colon,
    symbol .equalEqual, symbol .notEqual, symbol .lessEqual, symbol .greaterEqual,
    symbol .andAnd, symbol .orOr, symbol .less, symbol .greater, symbol .equal,
    symbol .exclamation, symbol .plus, symbol .minus, symbol .star, symbol .slash,
    keyword, number, string, name]

/-! ## What a lexeme stands for -/

/-- The number that some digits write. -/
def digitsValue (digits : List Char) : Nat := Nat.ofDigitChars 10 digits 0

/-- The terminal of a number: a float if it has a point, otherwise an integer, which
may be too large. -/
def numberTerminal? (lexeme : List Char) : Option Terminal :=
  let whole := lexeme.takeWhile Char.isDigit
  match lexeme.dropWhile Char.isDigit with
  | [] => (Integer.ofExact? (digitsValue whole)).map .integer
  | _ :: behind =>
      some (.float (Binary64.ofDecimal false (digitsValue (whole ++ behind)) behind.length))

/-- The text that the inside of a string writes: a backslash makes line feeds and
tabs of two letters and keeps every other character. -/
def unescape : List Char → List Char
  | '\\' :: c :: rest =>
      (if c = 'n' then '\n' else if c = 't' then '\t' else c) :: unescape rest
  | c :: rest => c :: unescape rest
  | [] => []

/-- The terminal of a lexeme; blanks have none.  Only a number can fail. -/
def terminal? (pattern : Pattern) (lexeme : List Char) (position : Nat) :
    Except SyntaxError (Option Terminal) :=
  match pattern with
  | blanks => .ok none
  | symbol sign => .ok (some (.symbol sign))
  | keyword => .ok ((Keyword.all.find? fun word => word.spelling.toList = lexeme).map .keyword)
  | number =>
      match numberTerminal? lexeme with
      | some terminal => .ok (some terminal)
      | none => .error (.invalidNumber (String.ofList lexeme) position)
  | string => .ok (some (.string (String.ofList (unescape lexeme.tail.dropLast))))
  | name => .ok (some .name)

end Pattern

end Scriptlet
