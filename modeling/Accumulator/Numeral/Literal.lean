import Accumulator.Numeral.Decimal
import Accumulator.Text.Blank
import Accumulator.Text.DecimalDigit

set_option autoImplicit false

/-!
Integer literals. A literal is an optional sign and a run of digits, in which single underscores
may separate neighbouring digits; blanks around it are ignored. A decimal literal has at most
`digitLimit` digits. A marked literal starts with a zero and a letter that names its base, has
digits of that base after at most one underscore, and may be of any length.
-/

namespace Accumulator.Numeral

open Text (isBlank trimWith decimalDigit?)

/-- Blanks that may stand around a literal: all but the information separators. -/
def isMargin (character : Char) : Bool :=
  isBlank character && !(0x1C ≤ character.toNat && character.toNat ≤ 0x1F)

/-- The value of a digit: a decimal digit of any script, or one of the first six ASCII letters. -/
def digitValue? (character : Char) : Option Nat :=
  match decimalDigit? character with
  | some value => some value
  | none =>
    if 'a' ≤ character ∧ character ≤ 'f' then some (character.toNat - 'a'.toNat + 10)
    else if 'A' ≤ character ∧ character ≤ 'F' then some (character.toNat - 'A'.toNat + 10)
    else none

def digitBelow? (base : Nat) (character : Char) : Option Nat :=
  (digitValue? character).filter (· < base)

/-- Reads a whole text as digits, with single underscores between neighbouring ones. -/
def digitRun? (base : Nat) : List Char → Option (List Nat)
  | [] => none
  | [character] => (digitBelow? base character).map ([·])
  | character :: '_' :: rest =>
    (digitBelow? base character).bind fun digit => (digitRun? base rest).map (digit :: ·)
  | character :: rest =>
    (digitBelow? base character).bind fun digit => (digitRun? base rest).map (digit :: ·)

def ofDigits (base : Nat) (digits : List Nat) : Nat :=
  digits.foldl (fun value digit => value * base + digit) 0

/-- Splits off a leading sign; `true` stands for a minus. -/
def splitSign : List Char → Bool × List Char
  | '+' :: rest => (false, rest)
  | '-' :: rest => (true, rest)
  | text => (false, text)

def applySign (negative : Bool) (magnitude : Nat) : Int :=
  if negative then -magnitude else magnitude

def decimalMagnitude? (text : List Char) : Option Nat :=
  ((digitRun? 10 text).filter (·.length ≤ digitLimit)).map (ofDigits 10)

/-- The base that a letter after a leading zero announces. -/
def markedBase? : Char → Option Nat
  | 'x' => some 16
  | 'X' => some 16
  | 'o' => some 8
  | 'O' => some 8
  | 'b' => some 2
  | 'B' => some 2
  | _ => none

def dropUnderscore : List Char → List Char
  | '_' :: rest => rest
  | text => text

def markedMagnitude? : List Char → Option Nat
  | leading :: marker :: rest =>
    if decimalDigit? leading = some 0 then
      (markedBase? marker).bind fun base =>
        (digitRun? base (dropUnderscore rest)).map (ofDigits base)
    else none
  | _ => none

/-- Reads a signed literal whose magnitude is read by the given reader. -/
def signed? (magnitude? : List Char → Option Nat) (text : List Char) : Option Int :=
  let (negative, body) := splitSign (trimWith isMargin text)
  (magnitude? body).map (applySign negative)

def decimalLiteral? (text : List Char) : Option Int :=
  signed? decimalMagnitude? text

def markedLiteral? (text : List Char) : Option Int :=
  signed? markedMagnitude? text

/-- A digit in front of others is worth as much as its place says. -/
theorem ofDigits_cons (base digit : Nat) (rest : List Nat) :
    ofDigits base (digit :: rest) = digit * Nat.pow base rest.length + ofDigits base rest := by
  have shifted (start : Nat) :
      rest.foldl (fun value digit => value * base + digit) start =
        start * Nat.pow base rest.length + ofDigits base rest := by
    unfold ofDigits
    induction rest generalizing start with
    | nil => simp
    | cons first others previous =>
        have power : Nat.pow base (others.length + 1) = base * Nat.pow base others.length :=
          Nat.pow_succ'
        rw [List.foldl_cons, previous, List.foldl_cons, previous (0 * base + first),
          List.length_cons, power]
        simp only [Nat.add_mul, Nat.mul_assoc, Nat.zero_mul, Nat.zero_add, Nat.add_assoc]
  rw [ofDigits, List.foldl_cons, shifted, Nat.zero_mul, Nat.zero_add]

theorem splitSign_of_ne {first : Char} (plus : first ≠ '+') (minus : first ≠ '-')
    (rest : List Char) : splitSign (first :: rest) = (false, first :: rest) := by
  rw [splitSign]
  · exact fun _ same => plus (List.cons.inj same).1
  · exact fun _ same => minus (List.cons.inj same).1

theorem digitBelow?_lt {base : Nat} {character : Char} {digit : Nat}
    (found : digitBelow? base character = some digit) : digit < base := by
  have kept := (Option.filter_eq_some_iff.1 found).2
  simpa using kept

end Accumulator.Numeral
