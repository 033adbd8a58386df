import ProtocolGateway.Data.Reader
import ProtocolGateway.Json.Text
import ProtocolGateway.Json.Tree
import ProtocolGateway.Message.Charset
import ProtocolGateway.Message.Message
import ProtocolGateway.MessagePack
import ProtocolGateway.Text.Ascii

/-!
Payloads as texts and as typed values. The character set of a text is named by whoever reads or writes
it. The content type of a typed value names the format; what a type accepts is said once, by its reader,
for every format.
-/

namespace ProtocolGateway

inductive MediaType where
  | json | messagePack
  deriving DecidableEq, Repr

namespace MediaType

def name : MediaType → String
  | .json => "application/json"
  | .messagePack => "application/msgpack"

def ofContentType (contentType : String) : Except ProtocolError MediaType :=
  let bare := Text.trim (contentType.toList.takeWhile (· ≠ ';'))
  if bare = MediaType.json.name.toList then .ok .json
  else if bare = MediaType.messagePack.name.toList then .ok .messagePack
  else .error (.unsupportedContentType (String.ofList bare))

def jsonDialect : Dialect := ⟨false, false, false, Datum.isNull⟩

def messagePackDialect : Dialect := ⟨true, true, false, Datum.isNull⟩

def dialect : MediaType → Dialect
  | .json => jsonDialect
  | .messagePack => messagePackDialect

def read : MediaType → Octets → Option Datum
  | .json => Json.read
  | .messagePack => MessagePack.read

def failure : MediaType → ProtocolError
  | .json => .json
  | .messagePack => .messagePack

end MediaType

namespace Payload

def ofText (text : String) (charset : Charset) : Except ProtocolError Payload :=
  (charset.encode text).map .new

def asText (p : Payload) (charset : Charset) : Except ProtocolError String := charset.decode p.data

def typed {α : Type} (reader : Reader α) (contentType : String) (p : Payload) :
    Except ProtocolError α :=
  match MediaType.ofContentType contentType with
  | .error e => .error e
  | .ok t =>
    match (t.read p.data).bind (reader t.dialect) with
    | some value => .ok value
    | none => .error t.failure

def json (d : Datum) : Payload := .new (Text.Utf8.encodeChars (Json.written d))

end Payload

end ProtocolGateway
