import ProtocolGateway.Decimal.Shortest
import ProtocolGateway.Gateway.State

/-!
Metrics of a gateway and the text they are exported in: for each metric what it means, its type and
its values. What it means is known once the metrics have been described; a metric without a value is
left out. Counters only go up.
-/

namespace ProtocolGateway

inductive MetricType where
  | gauge | counter
  deriving DecidableEq, Repr

def MetricType.name : MetricType → String
  | .gauge => "gauge"
  | .counter => "counter"

structure Metric where
  name : String
  type : MetricType
  help : String
  /-- Labels as written, with the value under each. -/
  samples : ManagerStats → List (String × Nat)

namespace Metric

def single (name : String) (type : MetricType) (help : String) (value : ManagerStats → Nat) : Metric :=
  ⟨name, type, help, fun s => [("", value s)]⟩

def kindLabel (kind : String) : String := "\x7bkind=\"" ++ kind ++ "\"\x7d"

def all : List Metric :=
  [single "gateway_plugins" .gauge "Number of registered plugins" (·.plugins),
    single "gateway_pending_replies" .gauge "Requests waiting for a reply" (·.pending),
    ⟨"gateway_subscriptions", .gauge, "Current subscribers, by kind", fun s =>
      [(kindLabel "standing", s.subscriptions.standing), (kindLabel "one_shot", s.subscriptions.oneShot)]⟩,
    single "gateway_subscribed_uris" .gauge "Resources with at least one subscriber"
      (·.subscriptions.uris),
    single "gateway_forwarded_total" .counter "Envelopes delivered to a pipeline stage"
      (·.counters.forwarded),
    single "gateway_dropped_total" .counter "Envelopes dropped by the dispatcher" (·.counters.dropped),
    single "gateway_faults_total" .counter "Pipeline stage failures" (·.counters.faults),
    single "gateway_unmatched_total" .counter "Replies with no waiting request"
      (·.counters.unmatched)]

/-- A gauge is a double and written out in full; a counter is a whole number. -/
def valueText (m : Metric) (value : Nat) : String :=
  match m.type with
  | .gauge => Decimal.positional (.ofInt value)
  | .counter => toString value

def lines (m : Metric) (described : Bool) (s : ManagerStats) : List String :=
  (if described then ["# HELP " ++ m.name ++ " " ++ m.help] else []) ++
    ("# TYPE " ++ m.name ++ " " ++ m.type.name) ::
    (m.samples s).map fun (label, value) => m.name ++ label ++ " " ++ m.valueText value

end Metric

structure Metrics where
  described : Bool
  /-- What was recorded last, counters at their highest. -/
  recorded : Option ManagerStats
  deriving DecidableEq, Repr

namespace Metrics

def new : Metrics := ⟨false, none⟩

def describe (m : Metrics) : Metrics := { m with described := true }

def raise (old new : Counters) : Counters :=
  ⟨max old.forwarded new.forwarded, max old.dropped new.dropped, max old.faults new.faults,
    max old.unmatched new.unmatched⟩

def record (m : Metrics) (s : ManagerStats) : Metrics :=
  { m with recorded := some (match m.recorded with
      | some old => { s with counters := raise old.counters s.counters }
      | none => s) }

def lines (m : Metrics) : List String :=
  match m.recorded with
  | none => []
  | some s => (Metric.all.flatMap fun x => x.lines m.described s).mergeSort (· ≤ ·)

end Metrics

end ProtocolGateway
