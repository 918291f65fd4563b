import Accumulator.Machine.Size
import Accumulator.Machine.Step
import Accumulator.Number.Arithmetic

set_option autoImplicit false

/-!
Items: what a loosely typed field of a machine may hold, a cell or a sequence of items. Sequences
are nothing that the machine computes with, but they can be shown, decoded and repeated.
-/

namespace Accumulator

inductive Item
  | cell (content : Cell)
  | sequence (content : List Item)

namespace Item

mutual

/-- An item inside a sequence, with text in quotes. An integer past the digit limit has no text. -/
def quotedText? : Item → Option String
  | .cell content => content.quotedText?
  | .sequence content =>
    (quotedTexts? content).map fun texts => "[" ++ ", ".intercalate texts ++ "]"

def quotedTexts? : List Item → Option (List String)
  | [] => some []
  | first :: rest => do
    let text ← first.quotedText?
    let texts ← quotedTexts? rest
    pure (text :: texts)

end

def decodable : Item → Except Fault Cell
  | .cell content => .ok content
  | .sequence content =>
    match quotedText? (.sequence content) with
    | some text => .ok (.text text)
    | none => .error .tooManyDigits

def shown : Item → Except Fault Cell
  | .cell content => .ok content
  | .sequence content =>
    match quotedText? (.sequence content) with
    | some text => .ok (.text text)
    | none => .error .wrongKind

def quotedDisplay : Item → Except Fault String
  | .cell content => .ok content.quotedDisplay
  | .sequence content =>
    match quotedText? (.sequence content) with
    | some text => .ok text
    | none => .error .tooManyDigits

def latch : Item → Item
  | .cell content => .cell (State.latch content)
  | .sequence content => .sequence content

def isStorable : Item → Bool
  | .cell content => content.isStorable
  | .sequence _ => false

def word : Item → Int
  | .cell content => content.word
  | .sequence _ => 0

def number? : Item → Option Number
  | .cell (.number value) => some value
  | .cell (.flag value) => some (.int (if value then 1 else 0))
  | _ => none

def isZero (item : Item) : Bool :=
  match item.number? with
  | some value => value.isZero
  | none => false

def repeated [Provision] (item : Item) (count : Int) : Except Fault Item :=
  match item with
  | .cell (.text content) =>
    (copies content.length count .overflow).map fun number =>
      .cell (.text (String.join (List.replicate number content)))
  | .sequence content =>
    (copies content.length count .noRoom).map fun number =>
      .sequence (List.replicate number content).flatten
  | _ => .error .notNumeric

/-- Arithmetic on an item. Only numbers take part, but a quotient by zero asks for no dividend, and
a text or a sequence can be multiplied by an integer. -/
def apply [Provision] (function : Arithmetic) (left : Item) (right : Number) : Except Fault Item :=
  match left.number?, function, right with
  | some value, _, _ =>
    (Number.apply function value right).map fun result => .cell (.number result)
  | none, .multiply, .int count => left.repeated count
  | none, .divide, _ => if right.isZero then .ok (.cell (.int 0)) else .error .notNumeric
  | none, _, _ => .error .notNumeric

end Item

end Accumulator
