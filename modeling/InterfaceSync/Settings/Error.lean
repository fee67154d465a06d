import InterfaceSync.FileError

/-! What can be wrong with settings: their values, their form, or the file that holds them. -/

namespace InterfaceSync

inductive Mismatch
  /-- The file is not well-formed, so there are no values. -/
  | malformed
  | wrongType
  | outOfRange
  | missingField
  | wrongLength
deriving DecidableEq, Repr

inductive SettingsError
  | invalid (field reason : String)
  | unknownProfile (name : String) (available : String)
  /-- A number is too large for the file format. -/
  | unwritable
  /-- The value at a path of keys does not fit. -/
  | unfit (cause : Mismatch) (path : List String)
  | file (error : FileError)
deriving DecidableEq, Repr

namespace Mismatch

def message : Mismatch → String
  | .malformed => "malformed file"
  | .wrongType => "invalid type"
  | .outOfRange => "invalid value"
  | .missingField => "missing field"
  | .wrongLength => "invalid length"

end Mismatch

def SettingsError.message : SettingsError → String
  | .invalid field reason => s!"invalid {field}: {reason}"
  | .unknownProfile name available => s!"profile '{name}' not found (available: {available})"
  | .unwritable => "failed to serialize config: out-of-range value for u64 type"
  | .unfit cause path =>
    s!"config loading failed: {cause.message}" ++
      (if path.isEmpty then "" else " for key " ++ ".".intercalate path)
  | .file error => s!"IO error: {error.message}"

end InterfaceSync
