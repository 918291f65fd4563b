import Accumulator.Page.Layout
import Accumulator.Page.Response
import Accumulator.Page.Wiring

set_option autoImplicit false

/-!
Sessions: a page in use. The user enters cells into components and triggers events; an event reads
the current contents of the components wired to it and writes what it responds. An event that fails
writes nothing.
-/

namespace Accumulator.Page

structure Timer where
  interval : Binary64
  active : Bool
  deriving DecidableEq, Repr

inductive Content
  | cell (content : Cell)
  | simulator (simulator : Simulator)
  | timer (timer : Timer)
  | rows (rows : List Row)
  deriving DecidableEq, Repr

/-- A cell that was put into a component stays there until an event writes the component; `entered`
holds these cells, at most one for each component. -/
structure Session where
  simulator : Simulator
  running : Bool
  timer : Timer
  views? : Option Views
  entered : List (Component × Cell)
  deriving DecidableEq, Repr

namespace Session

variable [Provision]

def opened : Session :=
  { simulator := Simulator.new defaultMemorySize defaultStepLimit
    running := false
    timer := { interval := defaultInterval, active := false }
    views? := none
    entered := [] }

def discard (session : Session) (components : List Component) : Session :=
  { session with entered := session.entered.filter fun (component, _) =>
      !components.contains component }

def enter (session : Session) (component : Component) (cell : Cell) : Session :=
  { session with entered := (component, cell) :: (session.discard [component]).entered }

def entry (session : Session) (component : Component) : Cell :=
  (session.entered.lookup component).getD (initialValue component)

/-- The part of the views that a component shows; nothing before they are first written. -/
def shown (session : Session) (part : Views → Content) : Content :=
  match session.views? with
  | some views => part views
  | none => .cell .absent

def content (session : Session) (component : Component) : Content :=
  match session.entered.lookup component with
  | some cell => .cell cell
  | none =>
    if component = .simulator then .simulator session.simulator
    else if component = .running then .cell (.flag session.running)
    else if component = .timer then .timer session.timer
    else if component = .status then session.shown fun views => .cell (.text views.status)
    else if component = .registers then session.shown fun views => .cell (.text views.registers)
    else if component = .memory then session.shown fun views => .rows views.memory
    else if component = .outputs then session.shown fun views => .cell (.text views.outputs)
    else if component = .history then session.shown fun views => .cell (.text views.history)
    else .cell (initialValue component)

def currentSimulator (session : Session) : Except Fault Simulator :=
  match session.entered.lookup .simulator with
  | some _ => .error .wrongKind
  | none => .ok session.simulator

/-- The running flag; a cell in its place counts as raised if it counts as given. -/
def isRunning (session : Session) : Bool :=
  match session.entered.lookup .running with
  | some cell => isGiven cell
  | none => session.running

/-- What a handler does with the simulator of the page; a cell in its place is none. -/
def driving (session : Session) (handler : Simulator → Outcome Response) : Outcome Response :=
  match session.currentSimulator with
  | .ok simulator => handler simulator
  | .error fault => keeping session.simulator (.error fault)

def respond (session : Session) (trigger : Trigger) : Outcome Response :=
  match trigger with
  | .loadTemplate => keeping session.simulator (loadTemplate (session.entry .template))
  | .changeSpeed => keeping session.simulator (changeSpeed (session.entry .speed))
  | .assemble =>
    match requestedSize (session.entry .memorySize) with
    | .ok size =>
      session.driving fun simulator =>
        assembleSized simulator (session.entry .source) (session.entry .x) (session.entry .y)
          (session.entry .z) size
    | .error fault => keeping session.simulator (.error fault)
  | .step => session.driving stepOnce
  | .toggleRun =>
    if session.isRunning then keeping session.simulator (.ok (settingRun false))
    else session.driving fun simulator => keeping simulator (.ok (startRun simulator))
  | .tick => session.driving tick
  | .reset => session.driving resetMachine
  | .loadSample => session.driving loadSample
  | .clearMemory => session.driving clearMemory
  | .writeCell =>
    session.driving fun simulator =>
      writeCell simulator (session.entry .cellAddress) (session.entry .cellText)
  | .opening =>
    session.driving fun simulator => keeping simulator (.ok (Response.displaying simulator))

def absorbDisplay (session : Session) : Option Display → Session
  | none => session
  | some display =>
    { session.discard displayComponents with
      simulator := display.simulator
      views? := some display.views }

/-- A new setting of the timer replaces that setting alone. -/
def absorbTimer (session : Session) (active? : Option Bool) (interval? : Option Binary64) :
    Session :=
  if active?.isNone && interval?.isNone then session
  else
    { session.discard [.timer] with
      timer :=
        { interval := interval?.getD session.timer.interval
          active := active?.getD session.timer.active } }

def absorbRunning (session : Session) : Option Bool → Session
  | none => session
  | some running => { session.discard [.running] with running := running }

def absorbSource (session : Session) : Option String → Session
  | none => session
  | some source => (session.discard [.source]).enter .source (.text source)

def absorb (session : Session) (response : Response) : Session :=
  (((session.absorbDisplay response.display?).absorbTimer response.active?
    response.interval?).absorbRunning response.running?).absorbSource response.source?

/-- The session after an event, and whether the event failed. What it has done to the simulator of
the page is done in either case. -/
def fire (session : Session) (trigger : Trigger) : Session × Except Fault Unit :=
  let outcome := session.respond trigger
  let touched := { session with simulator := outcome.simulator }
  match outcome.answer with
  | .ok response => (touched.absorb response, .ok ())
  | .error fault => (touched, .error fault)

/-- Fires a trigger a number of times; the first fault ends the repetition. -/
def fireTimes (trigger : Trigger) : Nat → Session → Session × Except Fault Unit
  | 0, session => (session, .ok ())
  | count + 1, session =>
    match session.fire trigger with
    | (next, .ok _) => fireTimes trigger count next
    | (next, .error fault) => (next, .error fault)

/-- What a user does to a page: entering a cell or causing an event. -/
inductive Deed
  | enter (component : Component) (cell : Cell)
  | fire (trigger : Trigger)
  deriving DecidableEq, Repr

def after (session : Session) : Deed → Session
  | .enter component cell => session.enter component cell
  | .fire trigger => (session.fire trigger).1

def afterAll (session : Session) (deeds : List Deed) : Session :=
  deeds.foldl after session

end Session

end Accumulator.Page
