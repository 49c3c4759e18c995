import Entitlement.Fault.Kind
import Entitlement.Path
import Entitlement.Settings.Basic
import Entitlement.Text.Encoding
import Entitlement.Text.Quoted
import Entitlement.Value.Json

/-!
# Refusals

Why settings are refused before any value is checked: what variables hold cannot be read, what a
caller asks for cannot be followed, or a name cannot be written.
-/

namespace Entitlement

inductive VariableSource where
  | environment
  | file
  deriving DecidableEq, Repr

def VariableSource.label : VariableSource -> String
  | .environment => "EnvSettingsSource"
  | .file => "DotEnvSettingsSource"

inductive RawRole where
  | settingsClass
  | allSettings
  | beginning
  | files
  | path
  | encoding
  deriving DecidableEq, Repr

inductive SettingsRefusal where
  | unreadable (setting : Setting) (source : VariableSource)
  | tooDeep (holder : Value.Json.Holder)
  | nameless (setting : Setting) (source : VariableSource)
  | unfit (role : RawRole) (raw : Value)
  | badPath (defect : PathDefect)
  | unknownEncoding (name : String)
  | undecodable (defect : Text.DecodeDefect)
  | readOnly (view : String)
  /-- A name that the keeper of the settings has for itself. -/
  | reserved (name : String)

namespace SettingsRefusal

def label : SettingsRefusal -> String
  | .unreadable _ _ | .nameless _ _ => "SettingsError"
  | .tooDeep _ => "RecursionError"
  | .unfit _ _ => "TypeError"
  | .badPath .unknownHome => Family.state.label
  | .badPath (.tooLong _) => Family.system.label
  | .unknownEncoding _ => "LookupError"
  | .undecodable .noMark => "UnicodeError"
  | .undecodable _ => "UnicodeDecodeError"
  | .readOnly _ | .reserved _ => Family.field.label

def unfitMessage (kind : String) : RawRole -> String
  | .settingsClass => s!"__class__ must be set to a class, not '{kind}' object"
  | .allSettings => s!"__dict__ must be set to a dictionary, not a '{kind}'"
  | .beginning => s!"object of type '{kind}' has no len()"
  | .files => s!"'{kind}' object is not iterable"
  | .path => s!"expected str, bytes or os.PathLike object, not {kind}"
  | .encoding => s!"open() argument 'encoding' must be str or None, not {kind}"

def byteText (byte : Nat) : String :=
  String.ofList ('0' :: 'x' :: Text.hex 2 byte)

def undecodableMessage : Text.DecodeDefect -> String
  | .notAscii byte position =>
      let shown := byteText byte
      s!"'ascii' codec can't decode byte {shown} in position {position}: ordinal not in range(128)"
  | .halfUnit byte position =>
      let shown := byteText byte
      s!"'utf-16-le' codec can't decode byte {shown} in position {position}: truncated data"
  | .noMark => "UTF-16 stream does not start with BOM"

def message : SettingsRefusal -> String
  | .unreadable setting source =>
      let name := setting.label
      let origin := source.label
      s!"error parsing value for field \"{name}\" from source \"{origin}\""
  | .tooDeep holder =>
      let shape := match holder with
        | .list => "array"
        | .record => "object"
      s!"maximum recursion depth exceeded while decoding a JSON {shape} from a unicode string"
  | .nameless setting source =>
      let name := setting.label
      let origin := source.label
      s!"error getting value for field \"{name}\" from source \"{origin}\""
  | .unfit role raw => unfitMessage raw.kindLabel role
  | .badPath .unknownHome => "Could not determine home directory."
  | .badPath (.tooLong path) =>
      let shown := Text.quoted path.text
      s!"[Errno 36] File name too long: {shown}"
  | .unknownEncoding name => s!"unknown encoding: {name}"
  | .undecodable defect => undecodableMessage defect
  | .readOnly view => s!"property '{view}' of 'RbacSettings' object has no setter"
  | .reserved name => s!"attribute '{name}' of 'BaseSettings' objects is not writable"

end SettingsRefusal

end Entitlement
