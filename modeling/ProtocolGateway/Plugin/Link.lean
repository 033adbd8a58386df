import ProtocolGateway.Message.Message
import ProtocolGateway.Plugin.Settings
import ProtocolGateway.Text.Ascii

/-!
Names of protocols, the key under which a plugin is registered and the scheme it serves, and what
plugins and the gateway tell each other: errors of links and plugins, and the wait for a reply
that has not arrived yet.
-/

namespace ProtocolGateway

/-- A name in lower case, so that names equal up to ASCII case are equal. -/
structure ProtocolName where
  text : String
  folded : Text.Ascii.lower text = text
  deriving DecidableEq, Repr

namespace ProtocolName

def of (s : String) : ProtocolName := ⟨Text.Ascii.lower s, Text.Ascii.lower_lower s⟩

instance : Inhabited ProtocolName := ⟨of ""⟩

def before (a b : ProtocolName) : Bool := a.text < b.text

end ProtocolName

inductive PluginError where
  | startFailed (cause : String)
  | stopFailed (cause : String)
  | settings (cause : SettingsError)
  | other (cause : String)
  deriving DecidableEq, Repr

namespace PluginError

def name : PluginError → String
  | .startFailed _ => "StartFailed"
  | .stopFailed _ => "StopFailed"
  | .settings _ => "Settings"
  | .other _ => "Other"

def message : PluginError → String
  | .startFailed cause => "Start failed: " ++ cause
  | .stopFailed cause => "Stop failed: " ++ cause
  | .settings cause => "Settings error: " ++ cause.message
  | .other cause => cause

end PluginError

inductive LinkError where
  /-- The gateway's side of the link is not wired yet. -/
  | notReady
  | closed
  /-- No reply within the time the caller would wait. -/
  | timeout (after : Span)
  /-- The exchange failed with an error reply. -/
  | rejected (error : ErrorReply)
  /-- The request could not be sequenced. -/
  | protocol (cause : ProtocolError)
  deriving DecidableEq, Repr

namespace LinkError

def name : LinkError → String
  | .notReady => "NotReady"
  | .closed => "Closed"
  | .timeout _ => "Timeout"
  | .rejected _ => "Rejected"
  | .protocol _ => "Protocol"

def message : LinkError → String
  | .notReady => "Link not ready"
  | .closed => "Link closed"
  | .timeout after => "No reply within " ++ after.text
  | .rejected error => "Request failed: " ++ error.text
  | .protocol cause => "Protocol error: " ++ cause.message

end LinkError

inductive Resolution where
  | reply (r : Reply)
  | error (e : ErrorReply)
  /-- The gateway let go of the exchange. -/
  | dropped
  deriving DecidableEq, Repr

def Resolution.outcome : Resolution → Except LinkError Reply
  | .reply r => .ok r
  | .error e => .error (.rejected e)
  | .dropped => .error .closed

/-- Waits for a resolution that comes `arrival` milliseconds from now, if it comes at all. Gives the
outcome and the milliseconds waited; `none` when the wait has no end. A resolution in the very
millisecond of the timeout comes too late. -/
def awaitResolution (arrival : Option (Nat × Resolution)) (timeout : Option Span) :
    Option (Except LinkError Reply × Nat) :=
  match arrival, timeout with
  | some (delay, r), none => some (r.outcome, delay)
  | some (delay, r), some limit =>
    if delay < limit.timerMillis then some (r.outcome, delay)
    else some (.error (.timeout limit), limit.timerMillis)
  | none, some limit => some (.error (.timeout limit), limit.timerMillis)
  | none, none => none

/-! Recording links -/

/-- A link that keeps what is sent over it. A closed one refuses each value after it has kept it. -/
structure RecordingLink (α : Type) where
  closed : Bool
  seen : List α
  deriving DecidableEq, Repr

namespace RecordingLink

variable {α : Type}

def new (closed : Bool) : RecordingLink α := ⟨closed, []⟩

def send (l : RecordingLink α) (x : α) : RecordingLink α × Except LinkError Unit :=
  ({ l with seen := l.seen ++ [x] }, if l.closed then .error .closed else .ok ())

def sendInTurn (l : RecordingLink α) : List α → RecordingLink α
  | [] => l
  | x :: rest =>
    match l.send x with
    | (l, .ok ()) => l.sendInTurn rest
    | (l, .error _) => l

end RecordingLink

end ProtocolGateway
