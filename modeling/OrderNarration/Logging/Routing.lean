import OrderNarration.Entries
import OrderNarration.Logging.Format

/-!
# Where log records go

Loggers have dotted names and inherit from the loggers above them: the level of
the nearest one that has a level counts, and a record goes to the handlers of all
of them. The root logger writes to the console. The application's logger writes to
the debug file as well, once that was asked for.

## Implementation notes

Setting up again starts the console anew but keeps the handler of the debug file,
so that no line is written twice. A logger remembers which urgencies it takes until
the next set-up, also when a logger that was asked for later comes to stand above it.
What a handler tells of its own failures is left out.
-/

namespace OrderNarration.Logging

/-- The levels of loggers, the levels of the handlers of the root and of the application, the
loggers that were asked for and what they remember. -/
structure Routing where
  rootLevel : Level
  levels : Entries Level
  console : List Level
  file : List Level
  colored : Bool
  loggers : List Text := []
  remembered : List ((Text × Urgency) × Bool) := []

/-- What one record adds to the console and to the debug file. -/
structure Written where
  console : Text
  file : Text

namespace Routing

/-- The logger of the application. -/
def application : Text := "order_decoder"

/-- Loggers of libraries that are kept quiet below warnings. -/
def quieted : List Text :=
  ["urllib3", "asyncio", "web3", "web3.providers", "web3.RequestManager",
    "web3.manager.RequestManager"]

/-- Before anything is set up: warnings pass, and there are no handlers. -/
def initial (colored : Bool) : Routing where
  rootLevel := Level.warning
  levels := []
  console := []
  file := []
  colored

/-- There is a logger with the name. -/
def knows (r : Routing) (name : Text) : Bool :=
  r.loggers.contains name || (Entries.get? name r.levels).isSome

/-- The loggers above a name, from the nearest one upwards; the name is read backwards. What
stands before a dot is a name above if it is not empty. The code point right before a dot whose
name above has no logger is passed over, so it is not taken for a dot. -/
def aboveFrom (r : Routing) : Text → List Text
  | c :: d :: rest =>
    let above := (d :: rest).reverse
    if c = .scalar '.' then
      if r.knows above then above :: aboveFrom r (d :: rest) else aboveFrom r rest
    else aboveFrom r (d :: rest)
  | _ => []

/-- A name with the loggers above it, from the name itself upwards. -/
def path (r : Routing) (name : Text) : List Text := name :: aboveFrom r name.reverse

/-- The level of the nearest logger that has one. -/
def effectiveLevel (r : Routing) (name : Text) : Level :=
  let own := (r.path name).filterMap fun n =>
    match Entries.get? n r.levels with
    | some level => if level = Level.notSet then none else some level
    | none => none
  own.head?.getD r.rootLevel

/-- What a logger remembers of an urgency. -/
def remembered? (r : Routing) (name : Text) (u : Urgency) : Option Bool :=
  (r.remembered.find? fun e => e.1 = (name, u.normal)).map Prod.snd

/-- A logger takes records of the urgency. -/
def isEnabled (r : Routing) (name : Text) (u : Urgency) : Bool :=
  (r.remembered? name u).getD (u.isPositive && u.reaches (r.effectiveLevel name))

/-- The routing after a logger was asked whether it takes records of the urgency. -/
def asked (r : Routing) (name : Text) (u : Urgency) : Routing :=
  let r := if r.knows name then r else { r with loggers := name :: r.loggers }
  { r with remembered := ((name, u.normal), r.isEnabled name u) :: r.remembered }

/-- The lines that handlers with the given levels write. -/
def lines (handlers : List Level) (u : Urgency) (line : Text) : Text :=
  (handlers.filter fun least => u.reaches least).flatMap fun _ => line ++ "\n"

/-- Give a record to its logger. Without any handler, warnings go to the console bare. A record
whose line the debug file does not take is left out of it. -/
def write (r : Routing) (record : Record) : Written :=
  if r.isEnabled record.logger record.urgency then
    let file := if (r.path record.logger).contains application then r.file else []
    if r.console = [] ∧ file = [] then
      ⟨lines [Level.warning] record.urgency record.message, []⟩
    else
      ⟨lines r.console record.urgency (record.concise r.colored),
        record.fileLine.toOption.elim [] (lines file record.urgency)⟩
  else ⟨[], []⟩

/-- The announcement of the debug file. -/
def announcement : Record where
  logger := application
  urgency := .level Level.info
  message := "DECODER_DEBUG enabled - verbose logs written to decoder_debug.log"
  seconds := 0
  milliseconds := 0
  line := 0

/-- Set up the console at a level, and the debug file if it is asked for. -/
def setUp (r : Routing) (level : Level) (debug : Bool) : Routing :=
  let quiet := quieted.foldl (fun levels name => Entries.put name Level.warning levels) r.levels
  { r with
    rootLevel := level
    levels := Entries.put application (if debug then Level.debug else level) quiet
    console := [if debug then Level.info else Level.notSet]
    file := if debug ∧ r.file = [] then [Level.debug] else r.file
    remembered := [] }

/-- What setting up writes to the console. -/
def setUpConsole (r : Routing) (debug : Bool) : Text :=
  if debug then (r.write announcement).console else []

example : ((initial false).setUp 20 true).path "order_decoder.a.b" =
    (["order_decoder.a.b", "order_decoder"] : List Text) := by decide +kernel
example : ((initial false).setUp 20 true).path "order_decoder..a" =
    (["order_decoder..a"] : List Text) := by decide +kernel
example :
    (((initial false).setUp 20 true).asked "order_decoder." (.level 20)).path "order_decoder..a" =
      (["order_decoder..a", "order_decoder.", "order_decoder"] : List Text) := by decide +kernel

end Routing

end OrderNarration.Logging
