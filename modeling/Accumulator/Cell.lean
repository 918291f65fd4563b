import Accumulator.Number.Basic
import Accumulator.Text.Quoted

set_option autoImplicit false

/-!
Memory cells. A cell holds instruction text, a number or nothing; one memory serves code and data,
so every cell can be shown, tested for blankness and read as an integer word.
-/

namespace Accumulator

/-- A flag is no number and no text. Loaders let it pass, but it never makes a valid memory. -/
inductive Cell
  | absent
  | text (content : String)
  | number (value : Number)
  | flag (value : Bool)
  deriving DecidableEq, Repr

def flagName (value : Bool) : String :=
  if value then "True" else "False"

/-- The integer denoted by a token: a decimal literal, else a marked literal, else the integer
part of a finite real literal. -/
def wordOfToken? (token : List Char) : Option Int :=
  let body := Text.trim token
  match Numeral.decimalLiteral? body with
  | some value => some value
  | none =>
    match Numeral.markedLiteral? body with
    | some value => some value
    | none => (Binary64.ofText? body).bind Binary64.truncate?

namespace Cell

@[match_pattern]
abbrev int (value : Int) : Cell := .number (.int value)

@[match_pattern]
abbrev real (value : Binary64) : Cell := .number (.real value)

def empty : Cell := .text ""

def isNumber : Cell → Bool
  | .number _ => true
  | _ => false

/-- Cells without content: nothing at all, or blank text. -/
def isBlank : Cell → Bool
  | .absent => true
  | .text content => (Text.trim content.toList).isEmpty
  | _ => false

def display : Cell → String
  | .absent => "None"
  | .text content => content
  | .number value => value.display
  | .flag value => flagName value

def quotedDisplay : Cell → String
  | .text content => String.ofList (Text.quoted content.toList)
  | cell => cell.display

/-- The exact text of a cell, which an integer past the digit limit does not have. -/
def exactText? : Cell → Option String
  | .int value => Numeral.decimal? value
  | cell => some cell.display

def quotedText? : Cell → Option String
  | .text content => some (String.ofList (Text.quoted content.toList))
  | cell => cell.exactText?

/-- The integer that an instruction reads in a cell; zero where there is none. -/
def word : Cell → Int
  | .int value => value
  | .real value => value.truncate?.getD 0
  | .text content => (wordOfToken? content.toList).getD 0
  | _ => 0

/-- The kinds of content that a valid memory holds. -/
def isStorable : Cell → Bool
  | .flag _ => false
  | _ => true

end Cell

end Accumulator
