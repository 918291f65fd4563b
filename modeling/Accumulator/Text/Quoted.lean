import Accumulator.Text.Printable

set_option autoImplicit false

/-!
Quoted text. A text is enclosed in apostrophes, or in double quotes when it holds an apostrophe and
no double quote. The enclosing mark and the backslash are escaped, and a character that cannot be
shown is written by its code point in hexadecimal.
-/

namespace Accumulator.Text

def apostrophe : Char := Char.ofNat 0x27

def doubleQuote : Char := Char.ofNat 0x22

def quoteMark (text : List Char) : Char :=
  if text.contains apostrophe && !text.contains doubleQuote then doubleQuote else apostrophe

def hexadecimal (width value : Nat) : List Char :=
  (Nat.toDigits 16 value).leftpad width '0'

def escape (mark character : Char) : List Char :=
  let code := character.toNat
  if character == mark || character == '\\' then ['\\', character]
  else if character == '\n' then ['\\', 'n']
  else if character == '\r' then ['\\', 'r']
  else if character == '\t' then ['\\', 't']
  else if isPrintable character then [character]
  else if code < 0x100 then '\\' :: 'x' :: hexadecimal 2 code
  else if code < 0x10000 then '\\' :: 'u' :: hexadecimal 4 code
  else '\\' :: 'U' :: hexadecimal 8 code

def quoted (text : List Char) : List Char :=
  let mark := quoteMark text
  mark :: text.flatMap (escape mark) ++ [mark]

end Accumulator.Text
