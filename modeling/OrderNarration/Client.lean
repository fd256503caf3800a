import OrderNarration.Node
import OrderNarration.Settings

/-!
# Connecting to a node

Before anything is looked up, the endpoint has to say that it is there.
-/

namespace OrderNarration

/-- The endpoint of a node and the time to wait for it. -/
structure Client where
  url : Text
  timeout : Value

/-- What an endpoint says about being there: a value that holds if it is, or a failure. -/
inductive Presence where
  | answer (value : Value)
  | failed (failure : Failure)

namespace Client

/-- The client for an endpoint; what is not given is taken from the environment. -/
def configured (env : Environment) (url : Option Text) (timeout : Value) : Client where
  url :=
    match url with
    | none | some [] => env.url
    | some t => t
  timeout :=
    match timeout with
    | .null => .float env.timeout
    | v => v

/-- Make sure that the endpoint is there. -/
def connect (client : Client) (presence : Presence) : Run Unit := do
  Run.note .nodeClient .debug ("Connecting to RPC: " ++ client.url)
  match presence with
  | .failed failure =>
    if failure.kind.isTransport then .fail (.unreachable client.url (some failure))
    else .fail (.lookup failure)
  | .answer v =>
    if v.holds then Run.note .nodeClient .debug ("Connected to RPC: " ++ client.url)
    else .fail (.unreachable client.url none)

end Client

end OrderNarration
