import Lockstep.Text.Invisible
/-!
# Quoted text

How a character or a text is set between quotes in a message.  A backslash escapes the quote that
encloses it and itself; line breaks, tabs and the null character have short escapes, and a character
without a visible form is written as its code point in hexadecimal.
-/

namespace Lockstep.Text.Quoted

/-- The quote around a single character. -/
def singleQuote : Char := Char.ofNat 39

/-- The quote around a text. -/
def doubleQuote : Char := Char.ofNat 34

/-- The written form of one character inside the enclosing quote. -/
def escape (quote c : Char) : List Char :=
  if c = '\x00' then ['\\', '0']
  else if c = '\t' then ['\\', 't']
  else if c = '\n' then ['\\', 'n']
  else if c = '\x0d' then ['\\', 'r']
  else if c = '\\' ∨ c = quote then ['\\', c]
  else if isInvisible c then
    ['\\', 'u', Char.ofNat 0x7b] ++ Nat.toDigits 16 c.toNat ++ [Char.ofNat 0x7d]
  else [c]

/-- A text between quotes. -/
def enclose (quote : Char) (s : List Char) : String :=
  String.ofList (quote :: s.flatMap (escape quote) ++ [quote])

/-- A character between single quotes. -/
def char (c : Char) : String := enclose singleQuote [c]

/-- A text between double quotes. -/
def text (s : String) : String := enclose doubleQuote s.toList

end Lockstep.Text.Quoted
