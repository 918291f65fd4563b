set_option autoImplicit false

/-!
A small collection of programs in source form.
-/

namespace Accumulator.Assembly

def sourceText (lines : List String) : String :=
  String.join (lines.map (· ++ "\n"))

/-- Emits the numbers from `X` down to one. -/
def countdown : String :=
  sourceText
    ["// Emit X, X-1, ..., 1",
      "LOADI X     // ACC <- MEM[X]",
      "OUT",
      "SUB 1",
      "STORE X",
      "JNZ 0       // loop while ACC != 0",
      "HLT"]

/-- Adds `X` to `Z` as many times as `Y` says. -/
def multiplication : String :=
  sourceText
    ["// Z = X * Y by repeated addition (Y > 0)",
      "LOADI Z",
      "ADDM X      // Z += X",
      "STORE Z",
      "LOADI Y",
      "SUB 1",
      "STORE Y     // Y -= 1",
      "JNZ 0",
      "LOADI Z",
      "OUT",
      "HLT"]

end Accumulator.Assembly
