import OrderNarration.Event
import OrderNarration.HashText
import OrderNarration.Node

/-!
# Topics

A table of topics maps the hashes of events to their kinds. Every value can be
classified: what is not in the table, not a hash or not even a text is of the
unknown kind and keeps its text for display.
-/

namespace OrderNarration

/-- The kinds of the topics that are known. -/
abbrev TopicTable := Entries EventKind

/-- The kind of a topic with the topic's text, none for a missing topic. -/
structure Classification where
  kind : EventKind
  topic : Option Text
  deriving DecidableEq

namespace TopicTable

/-- The topics of the five events of the exchange. -/
def standard : TopicTable :=
  Entries.ofPairs (EventKind.named.filterMap fun kind =>
    kind.eventName?.map fun name => (eventTopic name, kind))

/-- Classify a topic given as a value. -/
def classify (table : TopicTable) (topic : Value) : Run Classification :=
  match HashText.ofValue topic with
  | .ok none => pure ⟨.unknown, none⟩
  | .ok (some t) => pure ⟨(Entries.get? t table).getD .unknown, some t⟩
  | .error _ => do
    Run.note .topics .debug ("Could not normalize topic " ++ topic.quoted)
    return ⟨.unknown, some topic.quoted⟩

/-- The first topic of a kind; the unknown kind has the topic that the table gives it. -/
def topicFor? (table : TopicTable) (kind : EventKind) : Option Text :=
  (table.find? fun e => e.2 = kind).map Prod.fst

end TopicTable

end OrderNarration
