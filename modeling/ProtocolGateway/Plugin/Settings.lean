import ProtocolGateway.Data.Table
import ProtocolGateway.Decimal.Binary64

/-!
Settings of a plugin: declared keys with a kind, bounds and a default. A value is checked when it is
set, and once the settings are locked none can be.
-/

namespace ProtocolGateway

inductive SettingKind where
  | bool | integer | float | text
  deriving DecidableEq, Repr

def SettingKind.name : SettingKind → String
  | .bool => "bool"
  | .integer => "integer"
  | .float => "float"
  | .text => "text"

inductive SettingValue where
  | bool (b : Bool)
  | integer (i : Int)
  | float (x : Binary64)
  | text (s : String)
  deriving DecidableEq, Repr

def SettingValue.kind : SettingValue → SettingKind
  | .bool _ => .bool
  | .integer _ => .integer
  | .float _ => .float
  | .text _ => .text

structure SettingSpec where
  kind : SettingKind
  default : Option SettingValue := none
  /-- Bounds of an integer, both included. -/
  range : Option (Int × Int) := none
  required : Bool := false
  deriving DecidableEq, Repr

inductive SettingsError where
  | locked
  | unknownKey (key : String)
  | wrongType (key : String) (expected actual : SettingKind)
  | outOfRange (key : String) (value min max : Int)
  | missing (key : String)
  deriving DecidableEq, Repr

namespace SettingsError

def name : SettingsError → String
  | .locked => "Locked"
  | .unknownKey _ => "UnknownKey"
  | .wrongType .. => "WrongType"
  | .outOfRange .. => "OutOfRange"
  | .missing _ => "Missing"

def message : SettingsError → String
  | .locked => "Settings are locked"
  | .unknownKey key => "Unknown setting: " ++ key
  | .wrongType key expected actual =>
    "Setting " ++ key ++ " expects " ++ expected.name ++ ", got " ++ actual.name
  | .outOfRange key value min max =>
    "Setting " ++ key ++ " = " ++ toString value ++ " is out of range " ++ toString min ++ "..=" ++
      toString max
  | .missing key => "Missing required setting: " ++ key

end SettingsError

structure Settings where
  /-- Declarations in the order of their keys. -/
  specs : List (String × SettingSpec)
  values : Table String SettingValue
  locked : Bool
  deriving DecidableEq, Repr

namespace Settings

def empty : Settings := ⟨[], [], false⟩

def putSpec (key : String) (spec : SettingSpec) : List (String × SettingSpec) → List (String × SettingSpec)
  | [] => [(key, spec)]
  | (k, s) :: rest =>
    if key < k then (key, spec) :: (k, s) :: rest
    else if key = k then (key, spec) :: rest
    else (k, s) :: putSpec key spec rest

def declare (s : Settings) (key : String) (spec : SettingSpec) : Settings :=
  { s with specs := putSpec key spec s.specs }

def spec? (s : Settings) (key : String) : Option SettingSpec := Table.at? s.specs key

/-- Integers are accepted where floats are declared. -/
def widened (kind : SettingKind) : SettingValue → SettingValue
  | .integer i => if kind = .float then .float (.ofInt i) else .integer i
  | value => value

def checkValue (key : String) (spec : SettingSpec) (value : SettingValue) : Except SettingsError Unit :=
  if value.kind ≠ spec.kind then .error (.wrongType key spec.kind value.kind)
  else match value, spec.range with
    | .integer i, some (min, max) =>
      if i < min ∨ i > max then .error (.outOfRange key i min max) else .ok ()
    | _, _ => .ok ()

/-- Sets a value; the lock is looked at last, after the value has been found fit. -/
def set (s : Settings) (key : String) (value : SettingValue) : Except SettingsError Settings :=
  match s.spec? key with
  | none => .error (.unknownKey key)
  | some spec =>
    let value := widened spec.kind value
    match checkValue key spec value with
    | .error e => .error e
    | .ok () => if s.locked then .error .locked else .ok { s with values := Table.put key value s.values }

/-- Sets values one after the other and stops at the first error; what came before stays set. -/
def apply (s : Settings) : List (String × SettingValue) → Settings × Except SettingsError Unit
  | [] => (s, .ok ())
  | (key, value) :: rest =>
    match s.set key value with
    | .error e => (s, .error e)
    | .ok s => s.apply rest

def isMissing (s : Settings) (e : String × SettingSpec) : Bool :=
  e.2.required && e.2.default.isNone && !Table.has s.values e.1

def validate (s : Settings) : Except SettingsError Unit :=
  match s.specs.find? s.isMissing with
  | some (key, _) => .error (.missing key)
  | none => .ok ()

def lock (s : Settings) : Except SettingsError Settings :=
  if s.locked then .ok s
  else match s.validate with
    | .error e => .error e
    | .ok () => .ok { s with locked := true }

def get (s : Settings) (key : String) : Option SettingValue :=
  match Table.at? s.values key with
  | some value => some value
  | none => (s.spec? key).bind (·.default)

def getBool (s : Settings) (key : String) : Option Bool :=
  match s.get key with
  | some (.bool b) => some b
  | _ => none

def getInteger (s : Settings) (key : String) : Option Int :=
  match s.get key with
  | some (.integer i) => some i
  | _ => none

def getFloat (s : Settings) (key : String) : Option Binary64 :=
  match s.get key with
  | some (.float x) => some x
  | _ => none

def getText (s : Settings) (key : String) : Option String :=
  match s.get key with
  | some (.text t) => some t
  | _ => none

def getPort (s : Settings) (key : String) : Option Nat :=
  match s.getInteger key with
  | some i => if 0 ≤ i ∧ i < 65536 then some i.toNat else none
  | none => none

end Settings

end ProtocolGateway
