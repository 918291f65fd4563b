set_option autoImplicit false

/-!
Lines of a text. A carriage return followed by a line feed ends one line; every other break
character ends one line alone. A break at the very end of a text opens no further line.
-/

namespace Accumulator.Text

/-- The break characters: the ASCII ones from line feed to carriage return, the separators of
files, groups and records, the next-line control and the two Unicode separators. -/
def isLineBreak (character : Char) : Bool :=
  let code := character.toNat
  (0x0A ≤ code && code ≤ 0x0D) || (0x1C ≤ code && code ≤ 0x1E) || code == 0x85 ||
    code == 0x2028 || code == 0x2029

def lines : List Char → List (List Char)
  | [] => []
  | '\r' :: '\n' :: rest => [] :: lines rest
  | character :: rest =>
    if isLineBreak character then [] :: lines rest
    else
      match lines rest with
      | [] => [[character]]
      | line :: later => (character :: line) :: later

/-- Files may end their lines in any of three ways; read as text, every ending is a line feed. -/
def unifyNewlines : List Char → List Char
  | [] => []
  | '\r' :: '\n' :: rest => '\n' :: unifyNewlines rest
  | '\r' :: rest => '\n' :: unifyNewlines rest
  | character :: rest => character :: unifyNewlines rest

end Accumulator.Text
