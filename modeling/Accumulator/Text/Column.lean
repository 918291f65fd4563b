set_option autoImplicit false

/-!
Columns of fixed width. Text that is too long for its column is kept whole.
-/

namespace Accumulator.Text

def alignRight (width : Nat) (text : String) : String :=
  String.ofList (text.toList.leftpad width ' ')

def alignLeft (width : Nat) (text : String) : String :=
  String.ofList (text.toList.rightpad width ' ')

def rule (width : Nat) (character : Char) : String :=
  String.ofList (List.replicate width character)

end Accumulator.Text
