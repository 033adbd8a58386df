import ProtocolGateway.Plugin.MemoryOrigin
import ProtocolGateway.Plugin.MemoryTarget
import ProtocolGateway.Plugin.Scripted

/-!
Plugins as the gateway sees them. The client side takes requests, the server side takes replies that
nobody waits for; a plugin may have either or both.
-/

namespace ProtocolGateway

inductive Plugin where
  | target (t : MemoryTarget)
  | origin (o : MemoryOrigin)
  | scripted (s : ScriptedPlugin)
  deriving DecidableEq, Repr

namespace Plugin

def protocol : Plugin → ProtocolName
  | .target t => t.protocol
  | .origin o => o.protocol
  | .scripted s => s.protocol

def hasClient : Plugin → Bool
  | .target _ => true
  | .origin _ => false
  | .scripted s => s.hasClient

def hasServer : Plugin → Bool
  | .target _ => false
  | .origin _ => true
  | .scripted s => s.hasServer

def settings : Plugin → Settings
  | .target t => t.settings
  | .origin o => o.settings
  | .scripted s => s.settings

def withSettings (p : Plugin) (settings : Settings) : Plugin :=
  match p with
  | .target t => .target { t with settings := settings }
  | .origin o => .origin { o with settings := settings }
  | .scripted s => .scripted { s with settings := settings }

def link : Plugin → Plugin
  | .target t => .target { t with linked := true }
  | .origin o => .origin { o with linked := true }
  | .scripted s => .scripted { s with linked := true }

def start : Plugin → Plugin × Except PluginError Unit
  | .target t => (.target { t with running := true }, .ok ())
  | .origin o => (.origin o, .ok ())
  | .scripted s =>
    (.scripted s, match s.startError with
      | some e => .error e
      | none => .ok ())

def stop : Plugin → Plugin × Except PluginError Unit
  | .target t => (.target { t with running := false }, .ok ())
  | .origin o => (.origin o, .ok ())
  | .scripted s =>
    (.scripted s, match s.stopError with
      | some e => .error e
      | none => .ok ())

def handleRequest : Plugin → Request → Plugin × List Message
  | .target t, r =>
    let (t, messages) := t.handleRequest r
    (.target t, messages)
  | .scripted s, r => (.scripted (if s.hasClient then s.handleRequest r else s), [])
  | .origin o, _ => (.origin o, [])

def handleReply : Plugin → Reply → Plugin
  | .origin o, r => .origin (o.handleReply r)
  | .scripted s, r => .scripted (if s.hasServer then s.handleReply r else s)
  | .target t, _ => .target t

end Plugin

end ProtocolGateway
