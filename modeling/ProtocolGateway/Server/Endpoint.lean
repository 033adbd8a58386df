import ProtocolGateway.Json.Tree
import ProtocolGateway.Message.Documents
import ProtocolGateway.Message.Typed
import ProtocolGateway.Server.Assembly
import ProtocolGateway.Web.Percent

/-!
The HTTP endpoint of a gateway: its health, its statistics, its plugins, and requests submitted
through an origin.
-/

namespace ProtocolGateway

structure HttpRequest where
  method : String
  /-- The request target, percent escapes and query included. -/
  target : String
  contentType : Option String
  body : Octets
  deriving DecidableEq, Repr

structure HttpResponse where
  status : Nat
  /-- The body, if it is a JSON document. -/
  json : Option Datum
  deriving Repr

namespace HttpResponse

def bare (status : Nat) : HttpResponse := ⟨status, none⟩

def withJson (status : Nat) (members : List (String × Datum)) : HttpResponse :=
  ⟨status, some (.ofMembers members)⟩

end HttpResponse

structure Submission where
  operation : Operation
  path : String
  payload : Option String
  deriving DecidableEq, Repr

namespace Submission

def reader : Reader Submission := fun d x => do
  match ← Reader.slots ["operation", "path", "payload"] d x with
  | [operation, path, payload] =>
    some ⟨← Reader.required Operation.reader d operation, ← Reader.required Reader.text d path,
      ← Reader.defaulted (Reader.optional Reader.text) none d payload⟩
  | _ => none

def request (s : Submission) : Request :=
  let r := Request.new s.operation s.path
  match s.payload with
  | some text => r.withPayload (Text.Utf8.encode text)
  | none => r

end Submission

namespace Endpoint

def submitTimeout : Span := .ofSeconds 10

def version : String := "0.1.0"

/-! Documents about the gateway -/

def health (a : Assembly) : HttpResponse :=
  .withJson 200 [("status", .text (if a.gateway.isRunning then "ok" else "stopped")),
    ("version", .text version)]

def stats (a : Assembly) : HttpResponse :=
  let s := a.gateway.stats
  .withJson 200
    [("plugins", .int s.plugins), ("pending_replies", .int s.pending),
      ("subscriptions", .ofMembers [("uris", .int s.subscriptions.uris),
        ("standing", .int s.subscriptions.standing), ("one_shot", .int s.subscriptions.oneShot)]),
      ("forwarded", .int s.counters.forwarded), ("dropped", .int s.counters.dropped),
      ("faults", .int s.counters.faults), ("unmatched", .int s.counters.unmatched),
      ("cache_enabled", .bool a.config.cache.enabled)]

def listing (a : Assembly) : List (String × ProtocolName × PluginKind) :=
  a.config.plugins.map fun (name, c) => (name, .of (c.protocolName name), c.kind)

def plugins (a : Assembly) : HttpResponse :=
  .withJson 200 [("plugins", .list ((listing a).map fun (name, protocol, kind) =>
    .ofMembers [("name", .text name), ("protocol", .text protocol.text), ("kind", .text kind.name)]))]

/-! Submitting -/

def failure (status : Nat) (message : String) (reason : Option Reason) : HttpResponse :=
  .withJson status (("error", .text message) :: match reason with
    | some r => [("reason", .text r.name)]
    | none => [])

def ofOutcome : Except LinkError Reply → HttpResponse
  | .ok r =>
    .withJson 200 [("sequence", .int r.sequence.toNat), ("operation", .text r.headers.operation.name),
      ("payload", .text (Text.Utf8.decodeLossy r.payload.data))]
  | .error (.rejected e) => failure 502 ("Request failed: " ++ e.reason.title) (some e.reason)
  | .error (.timeout after) => failure 504 (LinkError.timeout after).message none
  | .error (.protocol cause) => failure 400 (LinkError.protocol cause).message none
  | .error e => failure 503 e.message none

/-- Submits a request through an origin and lets everything happen that it sets in motion. -/
def exchange (g : Gateway) (origin : ProtocolName) (r : Request) : Gateway × Except LinkError Reply :=
  match g.submit origin r with
  | (g, .error e) => (g, .error e)
  | (g, .ok (_, ticket)) => g.settle.wait ticket submitTimeout

def submit (a : Assembly) (protocol : String) (s : Submission) : Assembly × HttpResponse :=
  match a.origin? protocol with
  | none => (a, failure 404 ("No origin plugin for protocol " ++ protocol) none)
  | some origin =>
    let (g, outcome) := exchange a.gateway origin s.request
    ({ a with gateway := g }, ofOutcome outcome)

/-! Requests -/

def isJson (contentType : String) : Bool :=
  let bare := Text.Ascii.lower (String.ofList (Text.trim (contentType.toList.takeWhile (· ≠ ';'))))
  bare == "application/json" || (bare.startsWith "application/" && bare.endsWith "+json")

/-- The submission in a body: it has to be announced as JSON, to be JSON, and to have the shape of a
submission. -/
def readBody (r : HttpRequest) : Except HttpResponse Submission :=
  if !(r.contentType.any isJson) then .error (.bare 415)
  else match Json.read r.body with
    | none => .error (.bare 400)
    | some d =>
      match Submission.reader MediaType.jsonDialect d with
      | some s => .ok s
      | none => .error (.bare 422)

inductive Route where
  | health | stats | plugins
  | submit (protocol : Octets)
  deriving DecidableEq, Repr

def route? (target : String) : Option Route :=
  let path := String.ofList (target.toList.takeWhile (· ≠ '?'))
  match path.splitOn "/" with
  | ["", "health"] => some .health
  | ["", "stats"] => some .stats
  | ["", "plugins"] => some .plugins
  | ["", "origins", protocol, "requests"] =>
    if protocol.isEmpty then none else some (.submit (Web.Percent.decode (Text.Utf8.encode protocol)))
  | _ => none

def answerSubmit (a : Assembly) (protocol : Octets) (r : HttpRequest) : Assembly × HttpResponse :=
  match Text.Utf8.decode protocol with
  | none => (a, .bare 400)
  | some protocol =>
    match readBody r with
    | .error refusal => (a, refusal)
    | .ok s => submit a protocol s

def answer (a : Assembly) (r : HttpRequest) : Assembly × HttpResponse :=
  match route? r.target with
  | none => (a, .bare 404)
  | some (.submit protocol) =>
    if r.method = "POST" then answerSubmit a protocol r else (a, .bare 405)
  | some page =>
    if r.method = "GET" then
      (a, match page with
        | .health => health a
        | .stats => stats a
        | .plugins | .submit _ => plugins a)
    else if r.method = "HEAD" then (a, .bare 200)
    else (a, .bare 405)

def answerAll (a : Assembly) : List HttpRequest → Assembly × List HttpResponse
  | [] => (a, [])
  | r :: rest =>
    let (a, response) := answer a r
    let (a, more) := answerAll a rest
    (a, response :: more)

end Endpoint

/-! A server's run -/

/-- Whether clients have a route to the server. -/
inductive Network where
  | reachable | unreachable
  deriving DecidableEq, Repr

inductive ServerError where
  | failed (cause : AssemblyError)
  | unreachable
  deriving DecidableEq, Repr

def ServerError.message : ServerError → String
  | .failed cause => cause.message
  | .unreachable => "Network is unreachable (os error 101)"

namespace Server

def start (c : Config) : Except AssemblyError Assembly := do
  let a ← Assembly.ofConfig c
  match c.bindAddress with
  | .error cause => .error (.config cause)
  | .ok _ =>
    match a.start with
    | (a, .ok ()) => .ok a
    | (_, .error cause) => .error (.manager cause)

def run (n : Network) (c : Config) (requests : List HttpRequest) :
    Except ServerError (List HttpResponse × Except ManagerError Unit) :=
  match start c with
  | .error cause => .error (.failed cause)
  | .ok a =>
    match n with
    | .unreachable => .error .unreachable
    | .reachable =>
      let (a, responses) := Endpoint.answerAll a requests
      .ok (responses, a.stop.2)

end Server

end ProtocolGateway
