import OrderNarration.Client
import OrderNarration.Logging.Routing
import OrderNarration.Narration.Scan

/-!
# The command line

One argument is a transaction hash, two are a range of blocks. The narration
goes to the output, diagnostics and complaints go to the error output. What
concerns one log or one block is only reported; the exit code tells whether the
arguments were good, the node was there and the transaction was found.

## Implementation notes

An invocation holds everything that the command depends on, and its result
everything that it writes, so the command is a function.
-/

namespace OrderNarration

/-- The reminder of how to use the command. -/
def usage : Text := "
Order Trace Decoder - narrate the order-matching logs of a transaction or block range

Usage:
    python decode.py <txhash>
    python decode.py 0x6139dba1b74796d2fa1af26e70074a1e7b891a0170f7153dea95ac3db65daba6
    python decode.py <fromBlock> <toBlock>

Environment:
    RPC_URL         Node endpoint (default http://localhost:8551)
    RPC_TIMEOUT     HTTP timeout in seconds (default 30)
    DECODER_DEBUG   Set to 1 to write verbose decode logs to decoder_debug.log

Exit codes:
    0  finished (per-log or per-block problems are only reported)
    1  bad arguments, RPC unreachable, or no receipt for the requested tx
"

/-- Everything that the command depends on. A presence of none means that the node is known to
be there. -/
structure Invocation where
  arguments : List Text
  environment : Environment
  debug : Bool
  terminal : Bool
  presence : Option Presence
  topics : TopicTable
  node : Node

/-- How the command ends, what it writes, and the lookups and diagnostics on the way. A fault
that the command does not expect ends it without an exit code. -/
structure Completion where
  ending : Except Fault Nat
  output : Text := []
  errors : Text := []
  events : List Event := []

/-- What the arguments ask for. -/
inductive Request where
  | transaction (hash : Text)
  | blocks (range : BlockRange)

namespace Request

/-- The block number that an argument is a numeral of, null if it is none. -/
def blockNumber (argument : Text) : Value :=
  match Numeral.read? argument with
  | some n => .int n
  | none => .null

/-- Read the arguments; `none` stands for a wrong number of them. -/
def ofArguments : List Text → Option (Except Fault Request)
  | [hash] => some (transaction <$> HashText.transactionHash (.text hash))
  | [first, last] =>
    some (blocks <$> BlockRange.ofValues (blockNumber first) (blockNumber last))
  | _ => none

end Request

namespace CommandLine

/-- A complaint of the command. -/
def complaint (t : Text) : Text := "[!] " ++ t ++ "\n"

/-- The exit code of success. -/
def success : Nat := 0

/-- The exit code for bad arguments, an absent node and a missing transaction. -/
def failure : Nat := 1

/-- The exit code for an interrupt. -/
def interrupted : Nat := 130

/-- A fault is an interrupt from outside. -/
def isInterrupt : Fault → Bool
  | .lookup f => f.kind = .interrupt
  | _ => false

/-- The node is not there. -/
def isUnreachable : Fault → Bool
  | .unreachable _ _ => true
  | .lookup f => f.kind = .refusedConnection
  | _ => false

/-- The lines of records. -/
def recordLines (records : List Record) : Text := records.flatMap fun r => r.line ++ "\n"

/-- The title of the section of a trace. -/
def traceTitle (t : Trace) : Text :=
  "Analyzing block " ++ Text.ofInt t.block ++ " tx[" ++ Text.ofNat t.position ++ "]: " ++
    t.hash.getD "None"

/-- The rule below the section of a trace. -/
def rule : Text := List.replicate 38 (CodePoint.scalar '-')

/-- The lines of the section of a trace: a title, its records and a rule. -/
def traceLines (t : Trace) : List Text := traceTitle t :: (t.records.map Record.line ++ [rule])

/-- The section of a trace. -/
def traceSection (t : Trace) : Text := (traceLines t).flatMap fun line => line ++ "\n"

/-- The heading of a scan. -/
def scanHeading (range : BlockRange) : Text :=
  "Analyzing logs from block " ++ Text.ofInt range.first ++ " to block " ++ Text.ofInt range.last

/-- The title of a scan. -/
def scanTitle (range : BlockRange) : Text := scanHeading range ++ "\n"

/-- The console lines of the diagnostics among some events. -/
def consoleLines (routing : Logging.Routing) (events : List Event) : Text :=
  (events.filterMap Event.diagnostic?).flatMap fun d => (routing.write d.record).console

/-- Put what happened before in front. -/
def after (routing : Logging.Routing) (events : List Event) (c : Completion) : Completion :=
  { c with errors := consoleLines routing events ++ c.errors, events := events ++ c.events }

/-- End with the exit code of failure and a complaint. -/
def complain (t : Text) : Completion := { ending := .ok failure, errors := complaint t }

/-- End after a fault in a lookup: an interrupt has an exit code of its own. -/
def stopWith (e : Fault) (output : Text) : Completion :=
  if isInterrupt e then
    { ending := .ok interrupted, output, errors := "\n" ++ complaint "Interrupted" }
  else { ending := .error e, output }

/-- Narrate one transaction. -/
def runTransaction (inv : Invocation) (routing : Logging.Routing) (hash : Text) : Completion :=
  let r := Narration.transaction inv.topics inv.node (.text hash)
  after routing r.events <|
    match r.outcome with
    | .ok records => { ending := .ok success, output := recordLines records }
    | .error e =>
      match e with
      | .notFound .receipt _ => complain e.message
      | _ =>
        if e.isPassing then
          complain ("Failed to fetch receipt for tx " ++ hash ++ ": " ++ e.message)
        else stopWith e []

/-- Narrate a range of blocks. -/
def runBlocks (inv : Invocation) (routing : Logging.Routing) (range : BlockRange) : Completion :=
  let s := Narration.scanRange inv.topics inv.node range
  let output := scanTitle range ++ s.traces.flatMap traceSection
  after routing s.events <|
    match s.stop with
    | none => { ending := .ok success, output }
    | some e => stopWith e output

/-- Make sure that the node is there. -/
def connect (inv : Invocation) : Run Unit :=
  match inv.presence with
  | none => pure ()
  | some presence => (Client.configured inv.environment none .null).connect presence

/-- What the command does for a request once the node is there. -/
def serve (inv : Invocation) (routing : Logging.Routing) : Request → Completion
  | .transaction hash => runTransaction inv routing hash
  | .blocks range => runBlocks inv routing range

/-- Carry out a request by a service once the node is known to be there. -/
def carryOut (inv : Invocation) (routing : Logging.Routing) (service : Request → Completion)
    (request : Request) : Completion :=
  let r := connect inv
  after routing r.events <|
    match r.outcome with
    | .error e => if isUnreachable e then complain e.message else { ending := .error e }
    | .ok () => service request

/-- Run the command with a service for requests. -/
def runWith (service : Logging.Routing → Request → Completion) (inv : Invocation) : Completion :=
  match Request.ofArguments inv.arguments with
  | none => { ending := .ok failure, errors := usage ++ "\n" }
  | some request =>
    let routing := (Logging.Routing.initial inv.terminal).setUp Logging.Level.info inv.debug
    let c :=
      match request with
      | .error e => complain e.message
      | .ok request => carryOut inv routing (service routing) request
    { c with errors := routing.setUpConsole inv.debug ++ c.errors }

/-- Run the command with an output that takes every text. -/
def run (inv : Invocation) : Completion := runWith (serve inv) inv

end CommandLine

end OrderNarration
