import OrderNarration.Number.DecimalNumeral
import OrderNarration.Text.Lowercase

/-!
# Settings

The environment can name the endpoint of the node, the time to wait for it and
whether to write verbose logs. Blank and unreadable settings count as absent.
-/

namespace OrderNarration

/-- The environment's settings as they are written there. -/
structure Environment where
  rpcUrl : Option Text := none
  rpcTimeout : Option Text := none
  debug : Option Text := none

namespace Environment

/-- The endpoint that is used if none is named. -/
def defaultUrl : Text := "http://localhost:8551"

/-- The number of seconds that is used if none is given. -/
def defaultTimeout : Binary64 := .ofDecimal false 30 0

/-- The node's endpoint. -/
def url (env : Environment) : Text :=
  match (env.rpcUrl.getD defaultUrl).strip with
  | [] => defaultUrl
  | t => t

/-- The number of seconds to wait for the node. -/
def timeout (env : Environment) : Binary64 :=
  match (env.rpcTimeout.getD []).strip with
  | [] => defaultTimeout
  | t => (Binary64.read? t).getD defaultTimeout

/-- The words that ask for verbose logs. -/
def affirmations : List Text := ["1", "true", "yes"]

/-- Verbose logs are asked for. -/
def wantsDebug (env : Environment) : Bool :=
  affirmations.contains (env.debug.getD []).lowercase

end Environment

end OrderNarration
