import OrderNarration.Logging.Record

/-!
# Diagnostics

The steps of a run note what they do and what they leave out. A diagnostic has
the part of the program it comes from, a level and a message.
-/

namespace OrderNarration

/-- The parts of the program that note diagnostics. -/
inductive Source where
  | application
  | nodeClient
  | topics
  | payloads
  | orders
  | logs
  | walker
  deriving DecidableEq

/-- The name of the logger of a part. -/
def Source.loggerName : Source → Text
  | application => "order_decoder"
  | nodeClient => "order_decoder.services.node_client"
  | topics => "order_decoder.services.decoders.topics"
  | payloads => "order_decoder.services.decoders.log_decoders"
  | orders => "order_decoder.services.decoders.order_resolver"
  | logs => "order_decoder.services.decoders.registry"
  | walker => "order_decoder.services.trace_walker"

/-- What a step notes. -/
structure Diagnostic where
  source : Source
  level : Logging.Level
  message : Text

/-- The log record of a diagnostic; time and line are not part of it. -/
def Diagnostic.record (d : Diagnostic) : Logging.Record where
  logger := d.source.loggerName
  urgency := .level d.level
  message := d.message
  seconds := 0
  milliseconds := 0
  line := 0

end OrderNarration
