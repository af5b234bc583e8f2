import DuckTyping.Text.GraphemeExtend
import DuckTyping.Text.Unprintable

set_option autoImplicit false

/-!
# Quoted text

A text between double quotes, in which everything that would not be seen as itself is escaped: the
quote, the backslash, the usual controls by a letter, and combining or unprintable characters by the
hexadecimal number of their code point.
-/

namespace DuckTyping.Text

/-- The code point in hexadecimal, as `\u` with braces. -/
def codePointEscape (c : Char) : List Char :=
  ['\\', 'u', '{'] ++ Nat.toDigits 16 c.toNat ++ ['}']

/-- A character as it is written between quotes. -/
def quotedChar (c : Char) : List Char :=
  if c = '\x00' then ['\\', '0']
  else if c = '\t' then ['\\', 't']
  else if c = '\r' then ['\\', 'r']
  else if c = '\n' then ['\\', 'n']
  else if c = '\\' ∨ c = '"' then ['\\', c]
  else if graphemeExtend.contains c || unprintable.contains c then codePointEscape c
  else [c]

/-- A text between quotes. -/
def quoted (s : String) : String :=
  String.ofList ('"' :: s.toList.flatMap quotedChar ++ ['"'])

/-- Texts between quotes, separated by commas, between brackets. -/
def quotedList (items : List String) : String :=
  "[" ++ ", ".intercalate (items.map quoted) ++ "]"

end DuckTyping.Text
