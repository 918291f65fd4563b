import Accumulator.Numeral.Literal

set_option autoImplicit false

/-!
Literals of real numbers: a sign, digits with an optional point among or beside them, and an
optional decimal exponent; or one of the names of infinity and of the undefined number. A literal
is read as an exact decimal, so nothing is rounded here.
-/

namespace Accumulator.Numeral

open Text (trimWith)

/-- What a literal of a real number denotes. The decimal is `significand * 10 ^ exponent`. -/
inductive Scientific
  | undefined
  | infinite (negative : Bool)
  | decimal (negative : Bool) (significand : Nat) (exponent : Int)
  deriving DecidableEq, Repr

namespace Scientific

/-- The part before the first character of a class, and the part after it if there is one. -/
def splitAtFirst (isMark : Char → Bool) : List Char → List Char × Option (List Char)
  | [] => ([], none)
  | character :: rest =>
    if isMark character then ([], some rest)
    else
      let (before, after) := splitAtFirst isMark rest
      (character :: before, after)

def optionalDigits? : List Char → Option (List Nat)
  | [] => some []
  | text => digitRun? 10 text

/-- The digits of a decimal fraction and how many of them follow the point. -/
def fraction? (text : List Char) : Option (List Nat × Nat) :=
  match splitAtFirst (· == '.') text with
  | (whole, none) => (digitRun? 10 whole).map (·, 0)
  | (whole, some part) =>
    if whole.isEmpty && part.isEmpty then none
    else
      (optionalDigits? whole).bind fun high =>
        (optionalDigits? part).map fun low => (high ++ low, low.length)

def exponent? : Option (List Char) → Option Int
  | none => some 0
  | some text =>
    let (negative, body) := splitSign text
    (digitRun? 10 body).map fun digits => applySign negative (ofDigits 10 digits)

/-- Compares without regard to the case of ASCII letters. -/
def spells (name : String) (text : List Char) : Bool :=
  text.map Char.toLower == name.toList

def unsigned? (negative : Bool) (text : List Char) : Option Scientific :=
  if spells "nan" text then some .undefined
  else if spells "inf" text || spells "infinity" text then some (.infinite negative)
  else
    let (body, tail) := splitAtFirst (fun character => character == 'e' || character == 'E') text
    (fraction? body).bind fun (digits, places) =>
      (exponent? tail).map fun power => .decimal negative (ofDigits 10 digits) (power - places)

end Scientific

def realLiteral? (text : List Char) : Option Scientific :=
  let (negative, body) := splitSign (trimWith isMargin text)
  Scientific.unsigned? negative body

end Accumulator.Numeral
