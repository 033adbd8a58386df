import ProtocolGateway.Plugin.Link

/-!
A target that serves resources from memory. It answers every request over its reply link and tells
observers of updates.
-/

namespace ProtocolGateway

structure MemoryTarget where
  protocol : ProtocolName
  settings : Settings
  /-- Contents by authority and path written together. -/
  resources : Table String Octets
  observed : List String
  /-- Requests received, by operation. -/
  counts : Table Operation Nat
  /-- Whether a reply link is set. -/
  linked : Bool
  running : Bool
  deriving DecidableEq, Repr

namespace MemoryTarget

/-- Seconds that a reply to READ may be cached; none when zero. -/
def maxAgeKey : String := "max_age_secs"

def notifyKey : String := "notify_on_update"

def declared : Settings :=
  (Settings.empty.declare maxAgeKey
    { kind := .integer, range := some (0, 86400), default := some (.integer 0) }).declare notifyKey
    { kind := .bool, default := some (.bool true) }

def new (protocol : ProtocolName) : MemoryTarget := ⟨protocol, declared, [], [], [], false, false⟩

def keyOf (authority path : String) : String := authority ++ path

def insert (t : MemoryTarget) (authority path : String) (content : Octets) : MemoryTarget :=
  { t with resources := Table.put (keyOf authority path) content t.resources }

def resource? (t : MemoryTarget) (authority path : String) : Option Octets :=
  Table.at? t.resources (keyOf authority path)

def isObserved (t : MemoryTarget) (authority path : String) : Bool :=
  t.observed.contains (keyOf authority path)

def received (t : MemoryTarget) (o : Operation) : Nat := (Table.at? t.counts o).getD 0

def count (t : MemoryTarget) (o : Operation) : MemoryTarget :=
  { t with counts := Table.put o (t.received o + 1) t.counts }

def maxAge (t : MemoryTarget) : Option Span :=
  match t.settings.getInteger maxAgeKey with
  | some secs => if secs > 0 then some (.ofSeconds secs.toNat) else none
  | none => none

def tellsObservers (t : MemoryTarget) : Bool := (t.settings.getBool notifyKey).getD true

def notification (authority path : String) (content : Octets) : Reply :=
  .notification .observe authority path { payload := content }

def notFound (r : Request) (key : String) : Message :=
  .error ((ErrorReply.forRequest r .pathNotFound).withDetail key)

def done (r : Request) : Message := .reply (.forRequest r [])

/-- What a request does, and the messages it causes: its answer, then perhaps a notification. -/
def answer (t : MemoryTarget) (r : Request) : MemoryTarget × List Message :=
  let h := r.headers
  let key := keyOf h.target h.path
  let content := Table.at? t.resources key
  match h.operation, content with
  | .read, some bytes => (t, [.reply (.answering r { payload := bytes, maxAge := t.maxAge })])
  | .create, _ => ({ t with resources := Table.put key r.payload.data t.resources }, [done r])
  | .update, some _ =>
    ({ t with resources := Table.put key r.payload.data t.resources },
      if t.observed.contains key && t.tellsObservers then
        [done r, .reply (notification h.target h.path r.payload.data)]
      else [done r])
  | .delete, some _ =>
    ({ t with
        resources := Table.erase t.resources key
        observed := t.observed.filter (· ≠ key) }, [done r])
  | .observe, some bytes =>
    ({ t with observed := if t.observed.contains key then t.observed else t.observed ++ [key] },
      [.reply (.forRequest r bytes)])
  | .unobserve, _ => ({ t with observed := t.observed.filter (· ≠ key) }, [done r])
  | .read, none | .update, none | .delete, none | .observe, none => (t, [notFound r key])

/-- Takes a request in. Without a reply link it is counted and dropped. -/
def handleRequest (t : MemoryTarget) (r : Request) : MemoryTarget × List Message :=
  let t := t.count r.headers.operation
  if t.linked then t.answer r else (t, [])

def notify (t : MemoryTarget) (authority path : String) (content : Octets) :
    MemoryTarget × Except LinkError Reply :=
  (t.insert authority path content,
    if t.linked then .ok (notification authority path content) else .error .notReady)

end MemoryTarget

end ProtocolGateway
