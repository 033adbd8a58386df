import ProtocolGateway.Data.Reader
import ProtocolGateway.Text.Ascii
import ProtocolGateway.Plugin.Settings

/-! Values of settings as documents. The kind of a value is told by what it looks like. -/

namespace ProtocolGateway

namespace SettingValue

/-- A whole number past 64 bits is read as a double. -/
def reader : Reader SettingValue
  | _, .bool b => some (.bool b)
  | _, .int i => if Word.fitsSigned i then some (.integer i) else some (.float (.ofInt i))
  | _, .float x => some (.float x)
  | d, x => (Reader.text d x).map .text

def datum : SettingValue → Datum
  | .bool b => .bool b
  | .integer i => .int i
  | .float x => .float x
  | .text s => .text s

end SettingValue

namespace Settings

def valuesReader : Reader (List (String × SettingValue)) := Reader.table SettingValue.reader

def valuesDatum (values : List (String × SettingValue)) : Datum :=
  .ofMembers (values.map fun (k, v) => (k, v.datum))

end Settings

end ProtocolGateway
