import Accumulator.Text.DecimalDigit

set_option autoImplicit false

/-!
The parameters of the command line and how an argument names one. A parameter has a long spelling
or a short one or both. A long spelling may be cut short as long as it stays unique, and takes its
value after an equals sign or as the next argument. A short spelling may also take its value
directly, and short spellings without values may share one dash with those after them.
-/

namespace Accumulator.CommandLine

inductive Parameter
  | help
  | program
  | inline
  | x
  | y
  | z
  | memorySize
  | stepLimit
  | trace
  | quiet
  | level
  deriving DecidableEq, Repr

namespace Parameter

def spellings : List (String × Parameter) :=
  [("-h", .help), ("--help", .help), ("--program", .program), ("-p", .program),
    ("--inline", .inline), ("-i", .inline), ("-x", .x), ("-y", .y), ("-z", .z),
    ("--mem-size", .memorySize), ("--max-steps", .stepLimit), ("--trace", .trace), ("-t", .trace),
    ("--quiet", .quiet), ("-q", .quiet), ("--log-level", .level)]

def ofSpelling? (spelling : List Char) : Option Parameter :=
  spellings.lookup (String.ofList spelling)

def takesValue : Parameter → Bool
  | .help => false
  | .trace => false
  | .quiet => false
  | _ => true

/-- What a cut long spelling can stand for. -/
def withLongStart (start : List Char) : List (String × Parameter) :=
  spellings.filter fun (spelling, _) => start.isPrefixOf spelling.toList

/-- How a parameter is referred to: by all of its spellings. -/
def label (parameter : Parameter) : String :=
  "/".intercalate ((spellings.filter fun (_, named) => named = parameter).map Prod.fst)

end Parameter

/-- An argument by its form. A plain argument can be the value of a parameter. What is attached to
a parameter in the same argument is its value or, after a short spelling, more letters. -/
inductive Argument
  | plain (text : String)
  | named (parameter : Parameter) (short : Bool) (attached? : Option (List Char))
  /-- It looks like a parameter but names none. -/
  | unknown (text : String)
  /-- It is the beginning of several spellings. -/
  | ambiguous (text : String) (spellings : List String)
  deriving DecidableEq, Repr

namespace Argument

def splitEquals : List Char → List Char × Option (List Char)
  | [] => ([], none)
  | '=' :: rest => ([], some rest)
  | character :: rest =>
    let (before, after) := splitEquals rest
    (character :: before, after)

def isDigit (character : Char) : Bool :=
  (Text.decimalDigit? character).isSome

/-- A minus and digits, possibly with a point among or before them, possibly before a line end. -/
def isNegativeNumber (text : List Char) : Bool :=
  let body := if text.getLast? = some '\n' then text.dropLast else text
  match body with
  | '-' :: rest =>
    let whole := rest.takeWhile isDigit
    match rest.dropWhile isDigit with
    | [] => !whole.isEmpty
    | '.' :: places => !places.isEmpty && places.all isDigit
    | _ => false
  | _ => false

def ofCompound (text : List Char) : Argument :=
  let fallback :=
    if isNegativeNumber text || text.contains ' ' then .plain (String.ofList text)
    else .unknown (String.ofList text)
  match text with
  | '-' :: '-' :: _ =>
    let (start, value?) := splitEquals text
    match Parameter.withLongStart start with
    | [] => fallback
    | [(_, parameter)] => .named parameter false value?
    | several => .ambiguous (String.ofList text) (several.map Prod.fst)
  | dash :: letter :: value =>
    match Parameter.ofSpelling? [dash, letter] with
    | some parameter => .named parameter true (some value)
    | none => fallback
  | _ => fallback

def ofText (argument : String) : Argument :=
  let text := argument.toList
  let isShort := !(['-', '-'] : List Char).isPrefixOf text
  if text.head? ≠ some '-' then .plain argument
  else
    match Parameter.ofSpelling? text with
    | some parameter => .named parameter isShort none
    | none =>
      if text.length = 1 then .plain argument
      else
        match splitEquals text with
        | (spelling, some value) =>
          match Parameter.ofSpelling? spelling with
          | some parameter => .named parameter isShort (some value)
          | none => ofCompound text
        | (_, none) => ofCompound text

end Argument

end Accumulator.CommandLine
