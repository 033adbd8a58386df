import ProtocolGateway.Plugin.Link

/-!
A plugin whose every move is somebody else's decision: it holds the requests it gets and keeps the
replies pushed to it. It stands for any plugin at all.
-/

namespace ProtocolGateway

structure ScriptedPlugin where
  protocol : ProtocolName
  settings : Settings
  hasClient : Bool
  hasServer : Bool
  startError : Option PluginError
  stopError : Option PluginError
  linked : Bool
  held : List Request
  pushed : List Reply
  deriving DecidableEq, Repr

namespace ScriptedPlugin

def handleRequest (s : ScriptedPlugin) (r : Request) : ScriptedPlugin := { s with held := s.held ++ [r] }

def handleReply (s : ScriptedPlugin) (r : Reply) : ScriptedPlugin := { s with pushed := s.pushed ++ [r] }

def takePushed (s : ScriptedPlugin) : ScriptedPlugin × List Reply := ({ s with pushed := [] }, s.pushed)

end ScriptedPlugin

end ProtocolGateway
