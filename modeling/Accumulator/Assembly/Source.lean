import Accumulator.Text.Blank
import Accumulator.Text.Line

set_option autoImplicit false

/-!
Source text. Two slashes start a comment that ends with its line. What is left of a line, trimmed,
is a program line unless it is empty.
-/

namespace Accumulator.Assembly

open Text (trim lines)

def beforeComment : List Char → List Char
  | [] => []
  | '/' :: '/' :: _ => []
  | character :: rest => character :: beforeComment rest

def programLines (source : List Char) : List (List Char) :=
  ((lines source).map fun line => trim (beforeComment line)).filter (!·.isEmpty)

end Accumulator.Assembly
