import OrderNarration.Node.Table
import OrderNarration.Printing

/-!
# The program

The node is a snapshot on the standard input: a JSON object with the fields
`transactions`, `receipts` and `blocks`. Everything else is decided by the
command line, which is a function; this module only reads and writes. It writes
no debug file, since a snapshot has no time of day for the lines of one.
-/

namespace OrderNarration

/-- The characters of a text; a lone surrogate is shown by its number. -/
def shownText (t : Text) : String :=
  let escaped := t.flatMap fun c =>
    if c.char?.isSome then [c] else Text.escapeNumber c.number
  String.ofList (escaped.filterMap CodePoint.char?)

/-- A setting of the environment. -/
def readSetting (name : String) : IO (Option Text) := do
  return (← IO.getEnv name).map Text.ofString

/-- The snapshot on the standard input, and whether there is one. -/
def readSnapshot : IO (NodeTable × Presence) := do
  let input ← (← IO.getStdin).readToEnd
  match Json.read input.toList with
  | .ok v => return (NodeTable.ofValue v, .answer (.bool true))
  | .error _ => return ({}, .answer (.bool false))

end OrderNarration

open OrderNarration

/-- Run the command line. -/
def main (args : List String) : IO UInt32 := do
  let environment : Environment := {
    rpcUrl := ← readSetting "RPC_URL"
    rpcTimeout := ← readSetting "RPC_TIMEOUT"
    debug := ← readSetting "DECODER_DEBUG" }
  let (table, presence) ← readSnapshot
  let c := CommandLine.runPrinting {
    arguments := args.map Text.ofString
    environment
    debug := environment.wantsDebug
    terminal := ← (← IO.getStderr).isTty
    presence := some presence
    topics := TopicTable.standard
    node := table.node }
  IO.print (shownText c.output)
  IO.eprint (shownText c.errors)
  match c.ending with
  | .ok code => return UInt32.ofNat code
  | .error e =>
    IO.eprintln (shownText e.message)
    return 1
