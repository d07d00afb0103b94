import DataSchema.Text.Unprintable

/-!
# Quoted lists

Messages list texts, integers and booleans between brackets. A text stands between double quotes; a
character without a printed form is written by its code point.
-/

namespace DataSchema.Text

/-- The form of a character between double quotes. -/
def shownChar (c : Char) : List Char :=
  if c = '\x00' then ['\\', '0']
  else if c = '\t' then ['\\', 't']
  else if c = '\n' then ['\\', 'n']
  else if c = '\r' then ['\\', 'r']
  else if c = '"' then ['\\', '"']
  else if c = '\\' then ['\\', '\\']
  else if isPrintable c then [c]
  else ['\\', 'u', '\x7b'] ++ Nat.toDigits 16 c.toNat ++ ['\x7d']

/-- A text between double quotes, with every unprintable character made visible. -/
def shown (text : String) : String := String.ofList ('"' :: text.toList.flatMap shownChar ++ ['"'])

/-- A list between brackets. -/
def bracketed (items : List String) : String := "[" ++ ", ".intercalate items ++ "]"

def shownList (texts : List String) : String := bracketed (texts.map shown)

end DataSchema.Text
