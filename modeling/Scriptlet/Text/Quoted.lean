/-
# Text.Quoted -- the quoted form of a text

Inside a list or a map a text is written between double quotes, so that its
commas and brackets cannot be taken for those of the container.  A quote and a
backslash are written after a backslash; line feed, carriage return, tab and
the null character have a letter of their own; every other unprintable
character is written as its code point, in lower-case hexadecimal, between
braces.  An apostrophe needs no escape.
-/
import Scriptlet.Text.Unprintable

namespace Scriptlet.Text

set_option autoImplicit false

/-- How a quoted text writes one character. -/
def escapeChar (c : Char) : List Char :=
  if c = '"' ∨ c = '\\' then ['\\', c]
  else if c = '\n' then ['\\', 'n']
  else if c = '\r' then ['\\', 'r']
  else if c = '\t' then ['\\', 't']
  else if c = '\x00' then ['\\', '0']
  else if isUnprintable c then
    ['\\', 'u', '\x7b'] ++ Nat.toDigits 16 c.toNat ++ ['\x7d']
  else [c]

/-- The text between double quotes, each character in its escaped form. -/
def quote (text : String) : String :=
  String.ofList ('"' :: text.toList.flatMap escapeChar ++ ['"'])

example : quote "a'\"\\\n" = "\"a'\\\"\\\\\\n\"" := by decide
example : quote "e\u0301" = "\"e\\u\x7b301\x7d\"" := by decide

end Scriptlet.Text
