set_option autoImplicit false

/-!
The components of the page. A component is known by its kind and by its number among the components
of that kind, counted from zero in the order in which the page creates them.
-/

namespace Accumulator.Page

inductive Kind
  | page
  | note
  | state
  | timer
  | row
  | column
  | dropdown
  | textbox
  | number
  | slider
  | button
  | table
  | accordion
  deriving DecidableEq, Repr

namespace Kind

def all : List Kind :=
  [.page, .note, .state, .timer, .row, .column, .dropdown, .textbox, .number, .slider, .button,
    .table, .accordion]

def name : Kind → String
  | .page => "Blocks"
  | .note => "Markdown"
  | .state => "State"
  | .timer => "Timer"
  | .row => "Row"
  | .column => "Column"
  | .dropdown => "Dropdown"
  | .textbox => "Textbox"
  | .number => "Number"
  | .slider => "Slider"
  | .button => "Button"
  | .table => "Dataframe"
  | .accordion => "Accordion"

end Kind

structure Component where
  kind : Kind
  number : Nat
  deriving DecidableEq, Repr

namespace Component

def key (component : Component) : String :=
  component.kind.name ++ "#" ++ String.ofList (Nat.toDigits 10 component.number)

/-- The components with a part in the events of the page, under the names of their parts. -/
def page : Component := ⟨.page, 0⟩
def simulator : Component := ⟨.state, 0⟩
def running : Component := ⟨.state, 1⟩
def timer : Component := ⟨.timer, 0⟩
def template : Component := ⟨.dropdown, 0⟩
def source : Component := ⟨.textbox, 0⟩
def x : Component := ⟨.number, 0⟩
def y : Component := ⟨.number, 1⟩
def z : Component := ⟨.number, 2⟩
def memorySize : Component := ⟨.slider, 0⟩
def speed : Component := ⟨.slider, 1⟩
def cellAddress : Component := ⟨.number, 3⟩
def cellText : Component := ⟨.textbox, 1⟩
def assembleButton : Component := ⟨.button, 0⟩
def stepButton : Component := ⟨.button, 1⟩
def runButton : Component := ⟨.button, 2⟩
def resetButton : Component := ⟨.button, 3⟩
def sampleButton : Component := ⟨.button, 4⟩
def clearButton : Component := ⟨.button, 5⟩
def writeButton : Component := ⟨.button, 6⟩
def status : Component := ⟨.textbox, 2⟩
def registers : Component := ⟨.textbox, 3⟩
def memory : Component := ⟨.table, 0⟩
def outputs : Component := ⟨.textbox, 4⟩
def history : Component := ⟨.textbox, 5⟩

end Component

end Accumulator.Page
