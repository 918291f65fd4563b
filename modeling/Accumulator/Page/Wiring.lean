import Accumulator.Page.Component

set_option autoImplicit false

/-!
The wiring of the page: which event of which component triggers what, which components are read for
it and which ones it writes.
-/

namespace Accumulator.Page

inductive Trigger
  | loadTemplate
  | assemble
  | step
  | toggleRun
  | tick
  | changeSpeed
  | reset
  | loadSample
  | clearMemory
  | writeCell
  | opening
  deriving DecidableEq, Repr

inductive EventKind
  | change
  | click
  | tick
  | load
  deriving DecidableEq, Repr

def EventKind.name : EventKind → String
  | .change => "change"
  | .click => "click"
  | .tick => "tick"
  | .load => "load"

structure Wire where
  trigger : Trigger
  target : Component
  event : EventKind
  inputs : List Component
  outputs : List Component
  deriving DecidableEq, Repr

def viewComponents : List Component :=
  [.status, .registers, .memory, .outputs, .history]

def displayComponents : List Component :=
  .simulator :: viewComponents

def runComponents : List Component :=
  [.timer, .running]

def wires : List Wire :=
  [⟨.loadTemplate, .template, .change, [.template], [.source]⟩,
    ⟨.assemble, .assembleButton, .click,
      [.simulator, .source, .x, .y, .z, .memorySize], displayComponents⟩,
    ⟨.step, .stepButton, .click, [.simulator], displayComponents⟩,
    ⟨.toggleRun, .runButton, .click, [.simulator, .running], runComponents⟩,
    ⟨.tick, .timer, .tick, [.simulator], displayComponents ++ runComponents⟩,
    ⟨.changeSpeed, .speed, .change, [.speed], [.timer]⟩,
    ⟨.reset, .resetButton, .click, [.simulator], displayComponents ++ runComponents⟩,
    ⟨.loadSample, .sampleButton, .click, [.simulator], displayComponents ++ runComponents⟩,
    ⟨.clearMemory, .clearButton, .click, [.simulator], displayComponents ++ runComponents⟩,
    ⟨.writeCell, .writeButton, .click, [.simulator, .cellAddress, .cellText], displayComponents⟩,
    ⟨.opening, .page, .load, [.simulator], displayComponents⟩]

def wire? (target : Component) (eventName : String) : Option Wire :=
  wires.find? fun wire => wire.target == target && wire.event.name == eventName

end Accumulator.Page
