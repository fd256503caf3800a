import OrderNarration.Bytes.Utf8
import OrderNarration.Logging.Record
import OrderNarration.Logging.Timestamp

/-!
# Forms of log lines

On the console a line has a tag for its level, coloured if the console is a
terminal; information and warnings speak to the user and do not name their
logger. In the debug file every line has its time, level, logger and source line.
The file is written as UTF-8, so it takes no line with a lone surrogate.
-/

namespace OrderNarration.Logging

/-- The tag of a level with its terminal colour; what has none counts as information. -/
def tag (level : Option Level) : Text × Text :=
  if level = some Level.debug then ("[D]", "90")
  else if level = some Level.warning then ("[W]", "33")
  else if level = some Level.error then ("[E]", "31")
  else if level = some Level.critical then ("[!]", "31;1")
  else ("[I]", "32")

namespace Record

/-- The line for the console, without its line break. -/
def concise (colored : Bool) (r : Record) : Text :=
  let level := r.urgency.level?
  let (mark, color) := tag level
  let mark : Text := if colored then "\x1b[" ++ color ++ "m" ++ mark ++ "\x1b[0m" else mark
  if level = some Level.info ∨ level = some Level.warning then mark ++ " " ++ r.message
  else mark ++ " " ++ r.logger ++ ": " ++ r.message

/-- Three places for the milliseconds; a sign takes one of them. -/
def threePlaces (n : Int) : Text :=
  if n < 0 then "-" ++ Text.padLeft 2 '0' (Text.ofNat n.natAbs)
  else Text.padLeft 3 '0' (Text.ofNat n.natAbs)

/-- The line for the debug file, without its line break, if its second has a timestamp. -/
def verbose (r : Record) : Except TimestampError Text := do
  let time ← timestamp r.seconds
  return time ++ "." ++ threePlaces r.milliseconds ++ " " ++ Text.padRight 8 ' ' r.urgency.name ++
    " " ++ r.logger ++ ":" ++ Text.ofInt r.line ++ " " ++ r.message

end Record

/-- Why the debug file takes no line of a record: its second has no timestamp, or the line has no
UTF-8 form. -/
inductive LineError where
  | noTime (cause : TimestampError)
  | notEncodable (wording : Text)

/-- The line for the debug file, without its line break, if the file takes it. -/
def Record.fileLine (r : Record) : Except LineError Text :=
  match r.verbose with
  | .error cause => .error (.noTime cause)
  | .ok line =>
    match Utf8.encodeText line with
    | .error wording => .error (.notEncodable wording)
    | .ok _ => .ok line

end OrderNarration.Logging
