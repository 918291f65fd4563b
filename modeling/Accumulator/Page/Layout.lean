import Accumulator.Assembly.Template
import Accumulator.Machine.State
import Accumulator.Page.Component

set_option autoImplicit false

/-!
The layout of the page: which components it has, how they nest and what each one is given when it
is created. Containers create their children in order, right after themselves.
-/

namespace Accumulator.Page

/-- What a component can be given: a plain value, a list of texts, a new simulator for every
visitor, or the soft theme. -/
inductive Setting
  | value (content : Cell)
  | texts (contents : List String)
  | newSimulator
  | softTheme
  deriving DecidableEq, Repr

namespace Setting

def text (content : String) : Setting := .value (.text content)

def int (content : Int) : Setting := .value (.int content)

def flag (content : Bool) : Setting := .value (.flag content)

end Setting

/-- A component without its number, with its unnamed and its named settings. -/
inductive Element
  | element (kind : Kind) (unnamed : List Setting) (named : List (String × Setting))
      (children : List Element)

def leaf (kind : Kind) (unnamed : List Setting) (named : List (String × Setting)) : Element :=
  .element kind unnamed named []

def defaultSpeed : Nat := 600

def defaultInterval : Binary64 :=
  Binary64.ofFraction false defaultSpeed 1000

def defaultExercise : String := "ADD"

/-- Lines below each other, each but the empty ones indented. -/
def indented (margin : String) (lines : List String) : String :=
  "\n" ++ String.join (lines.map fun line =>
    (if line.isEmpty then "" else margin ++ line) ++ "\n") ++ margin

def introduction : String :=
  indented "        "
    ["# VN-CPU: Von Neumann Machine Simulator",
      "",
      "One accumulator, one unified memory for code and data, and an",
      "instruction cycle you can watch phase by phase.",
      "",
      "**Cycle**: `fetch -> decode -> execute -> fetch ...`"]

def referenceLines : List String :=
  ["| Instruction | Description | Example |",
    "|-------------|-------------|---------|",
    "| `LOAD v` | ACC <- v | `LOAD 5` |",
    "| `LOADI a` | ACC <- MEM[a] | `LOADI X` |",
    "| `STORE a` | MEM[a] <- ACC | `STORE Z` |",
    "| `ADD v` / `SUB v` | ACC <- ACC +/- v | `ADD 3` |",
    "| `MUL v` / `DIV v` | ACC <- ACC * v, ACC / v (toward zero, /0 -> 0) | `MUL Y` |",
    "| `ADDM a` / `SUBM a` | ACC <- ACC +/- MEM[a] | `ADDM X` |",
    "| `MULM a` / `DIVM a` | ACC <- ACC * MEM[a], ACC / MEM[a] | `DIVM Y` |",
    "| `JMP a` | PC <- a | `JMP 0` |",
    "| `JZ a` / `JNZ a` | Jump if ACC == 0 / ACC != 0 | `JNZ 2` |",
    "| `OUT` | Append ACC to outputs | `OUT` |",
    "| `NOP` | No operation | `NOP` |",
    "| `HLT` | Stop execution | `HLT` |",
    "",
    "**Variables**: X, Y, Z are stored right after the program.",
    "Address instructions receive their address, the others their value.",
    "**Comments**: `//` to end of line."]

def reference : String :=
  indented "            " referenceLines

def numberInput (value : Int) (label : String) : Element :=
  leaf .number []
    [("value", .int value), ("label", .text label), ("precision", .int 0)]

def slider (minimum maximum value step : Int) (label : String) : Element :=
  leaf .slider []
    [("minimum", .int minimum), ("maximum", .int maximum), ("value", .int value),
      ("step", .int step), ("label", .text label)]

def button (label : String) : Element :=
  leaf .button [.text label] []

def note (text : String) : Element :=
  leaf .note [.text text] []

/-- A text that the page shows and the user cannot change. -/
def textView (label : String) (sizing : List (String × Setting)) : Element :=
  leaf .textbox [] ([("label", Setting.text label)] ++ sizing ++ [("interactive", .flag false)])

def row (children : List Element) : Element :=
  .element .row [] [] children

def column (scale : Int) (children : List Element) : Element :=
  .element .column [] [("scale", .int scale)] children

def controls : Element :=
  column 2
    [note "### Program",
      leaf .dropdown []
        [("choices", .texts (Assembly.exerciseSigns.map Prod.fst)),
          ("value", .text defaultExercise),
          ("label", .text "Template: X op Y = Z")],
      leaf .textbox []
        [("value", .text (Assembly.exercise defaultExercise)),
          ("label", .text "Source Code"),
          ("lines", .int 12),
          ("placeholder", .text "LOAD X\nADD Y\nSTORE Z\nOUT\nHLT")],
      row [numberInput 2 "X", numberInput 2 "Y", numberInput 0 "Z"],
      note "### Settings",
      row
        [slider 4 64 defaultMemorySize 1 "Memory Cells",
          slider 150 1500 defaultSpeed 50 "Run Speed (ms per phase)"],
      leaf .button [.text "Assemble & Load"] [("variant", .text "primary")],
      row [button "Step", button "Run / Pause", button "Reset"],
      row [button "Load Sample", button "Clear Memory"],
      note "### Edit Memory",
      row
        [numberInput 0 "Address",
          leaf .textbox []
            [("label", .text "Value"), ("placeholder", .text "LOAD 5, 42 or blank")]],
      button "Write Cell"]

def display : Element :=
  column 3
    [textView "Last Action" [],
      row
        [textView "CPU" [("lines", .int 10)],
          leaf .table []
            [("headers", .texts ["Addr", "Cell", ""]),
              ("datatype", .texts ["number", "str", "str"]),
              ("label", .text "Memory"),
              ("interactive", .flag false)]],
      textView "Outputs (OUT)" [],
      textView "History" [("lines", .int 15)]]

def layout : Element :=
  .element .page [] [("title", .text "VN-CPU Demo"), ("theme", .softTheme)]
    [note introduction,
      leaf .state [.newSimulator] [],
      leaf .state [.flag false] [],
      leaf .timer [] [("value", .value (.real defaultInterval)), ("active", .flag false)],
      row [controls, display],
      .element .accordion [.text "ISA Reference"] [("open", .flag false)] [note reference]]

/-! ### Numbering -/

inductive Node
  | node (component : Component) (unnamed : List Setting) (named : List (String × Setting))
      (children : List Node)

def Node.component : Node → Component
  | .node component _ _ _ => component

def Node.named : Node → List (String × Setting)
  | .node _ _ named _ => named

abbrev Created := List Kind

mutual

def Element.place (created : Created) : Element → Node × Created
  | .element kind unnamed named children =>
    let component : Component := ⟨kind, created.count kind⟩
    let (placed, later) := placeAll (kind :: created) children
    (.node component unnamed named placed, later)

def placeAll (created : Created) : List Element → List Node × Created
  | [] => ([], created)
  | first :: rest =>
    let (node, afterFirst) := first.place created
    let (nodes, afterRest) := placeAll afterFirst rest
    (node :: nodes, afterRest)

end

def page : Node :=
  (layout.place []).1

mutual

def Node.flatten : Node → List Node
  | .node component unnamed named children =>
    .node component unnamed named children :: flattenAll children

def flattenAll : List Node → List Node
  | [] => []
  | first :: rest => first.flatten ++ flattenAll rest

end

def components : List Component :=
  page.flatten.map Node.component

def setting? (component : Component) (name : String) : Option Setting :=
  (page.flatten.find? (·.component == component)).bind fun node => node.named.lookup name

def initialValue (component : Component) : Cell :=
  match setting? component "value" with
  | some (.value content) => content
  | _ => .absent

def Component.ofKey? (key : String) : Option Component :=
  components.find? (·.key == key)

end Accumulator.Page
