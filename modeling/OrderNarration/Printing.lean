import OrderNarration.CommandLine
import OrderNarration.Narration.Course

/-!
# Printing to an output of UTF-8

An output that is written as UTF-8 refuses a line with a lone surrogate, which has no form
in it. Nothing of the line is written, and the refusal is a fault that nothing on the way
catches. The lines of a range are printed while it is scanned, so a refused line ends the
scan as well; those of a transaction are printed when all of it is narrated.

## Implementation notes

The error output takes every text: it shows a lone surrogate by its number.
-/

namespace OrderNarration

/-- What was printed, the events on the way, and the fault by which a line was refused. -/
structure Printing where
  output : Text := []
  events : List Event := []
  refusal : Option Fault := none

namespace Printing

/-- Go on unless a line was refused. -/
def andThen (p : Printing) (next : Unit → Printing) : Printing :=
  match p.refusal with
  | some _ => p
  | none =>
    let rest := next ()
    ⟨p.output ++ rest.output, p.events ++ rest.events, rest.refusal⟩

/-- Print a line. -/
def line (t : Text) : Printing :=
  match Utf8.encodeText t with
  | .ok _ => { output := t ++ "\n" }
  | .error wording => { refusal := some (.notEncodable wording) }

/-- Print lines one after another. -/
def lines : List Text → Printing
  | [] => {}
  | t :: rest => (line t).andThen fun _ => lines rest

/-- Go through the moments of a scan, and print the section of each trace. -/
def moments : List Moment → Printing
  | [] => {}
  | .event e :: rest => { events := [e] : Printing }.andThen fun _ => moments rest
  | .trace t :: rest => (lines (CommandLine.traceLines t)).andThen fun _ => moments rest

/-- End with the fault of a refused line, or else with what the printed output leads to. -/
def finish (p : Printing) (ending : Text → Completion) : Completion :=
  match p.refusal with
  | some e => { ending := .error e, output := p.output }
  | none => ending p.output

end Printing

namespace CommandLine

/-- Narrate one transaction, and print its records. -/
def printTransaction (inv : Invocation) (routing : Logging.Routing) (hash : Text) : Completion :=
  let r := Narration.transaction inv.topics inv.node (.text hash)
  match r.outcome with
  | .ok records =>
    after routing r.events <|
      (Printing.lines (records.map Record.line)).finish fun output =>
        { ending := .ok success, output }
  | .error _ => runTransaction inv routing hash

/-- Narrate a range of blocks, and print each trace when it is complete. -/
def printBlocks (inv : Invocation) (routing : Logging.Routing) (range : BlockRange) : Completion :=
  let course := Narration.courseOn inv.topics inv.node range
  let p := (Printing.line (scanHeading range)).andThen fun _ => Printing.moments course.moments
  after routing p.events <|
    p.finish fun output =>
      match course.stop with
      | none => { ending := .ok success, output }
      | some e => stopWith e output

/-- What the command does for a request with an output of UTF-8. -/
def servePrinting (inv : Invocation) (routing : Logging.Routing) : Request → Completion
  | .transaction hash => printTransaction inv routing hash
  | .blocks range => printBlocks inv routing range

/-- Run the command with an output of UTF-8. -/
def runPrinting (inv : Invocation) : Completion := runWith (servePrinting inv) inv

end CommandLine

end OrderNarration
