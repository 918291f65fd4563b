import Accumulator.Assembly.Collection
import Accumulator.Machine.Registry
import Accumulator.Simulator.Command
import Accumulator.Page.Session
import Accumulator.Main
import Accumulator.Proofs.Machine.InstructionCycle
import Accumulator.Proofs.Text.Word
import Accumulator.Proofs.Text.Capital
import Accumulator.Proofs.Text.LetterCase
import Accumulator.Proofs.Numeral.LetterCase
import Accumulator.Proofs.Numeral.Reading
import Accumulator.Proofs.Numeral.Exactness
import Accumulator.Proofs.Numeral.RoundTrip
import Accumulator.Proofs.Numeral.Opening
import Accumulator.Proofs.Instruction.Mnemonic
import Accumulator.Proofs.Assembly.Letter
import Accumulator.Proofs.Assembly.Image
import Accumulator.Proofs.Assembly.ReadBack
import Accumulator.Proofs.Assembly.Refusal
import Accumulator.Proofs.Simulator.Invariant
import Accumulator.Proofs.Machine.Halting
import Accumulator.Proofs.Page.Ticking
import Accumulator.Proofs.Page.Pause
import Accumulator.Proofs.Machine.Provenance
import Accumulator.Proofs.Simulator.Loading
import Accumulator.Proofs.Machine.Storage
import Accumulator.Proofs.Machine.Lockstep
import Accumulator.Proofs.Simulator.Clock
import Accumulator.Proofs.Simulator.Editing
import Accumulator.Proofs.Simulator.History
import Accumulator.Proofs.Simulator.Typing
import Accumulator.Proofs.Simulator.Retyping
import Accumulator.Proofs.Assembly.Redirection
import Accumulator.Proofs.Machine.Output
import Accumulator.Proofs.Machine.Runnable
import Accumulator.Proofs.Machine.Division
import Accumulator.Proofs.Machine.Footprint
import Accumulator.Proofs.Page.Display
import Accumulator.Proofs.Page.Wiring
import Accumulator.Proofs.Page.Highlight
import Accumulator.Proofs.Assembly.Frame
import Accumulator.Proofs.Assembly.Listing
import Accumulator.Proofs.Assembly.Collection
import Accumulator.Proofs.Assembly.Exercise
import Accumulator.Proofs.Assembly.ProgramLine
import Accumulator.Proofs.Assembly.FirstWords
import Accumulator.Proofs.Assembly.NormalForm
import Accumulator.Proofs.Assembly.Reassembly
import Accumulator.Proofs.CommandLine.Outcome
import Accumulator.Proofs.CommandLine.Argument
import Accumulator.Proofs.CommandLine.Options
import Accumulator.Proofs.CommandLine.Refusal
import Accumulator.Proofs.CommandLine.Selection
import Accumulator.Proofs.CommandLine.Source
import Accumulator.Proofs.Machine.Extension
import Accumulator.Proofs.Instruction.Rendering
import Accumulator.Proofs.Page.Assembling
import Accumulator.Proofs.Page.Running
