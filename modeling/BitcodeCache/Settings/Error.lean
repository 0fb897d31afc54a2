import BitcodeCache.FileError
import BitcodeCache.Signature

/-!
# Faulty settings

Why settings could not be read or used.
-/

namespace BitcodeCache

/-- A value of the settings that is out of its range. -/
inductive InvalidSetting where
  | optimization (found : UInt8)
  | signature (cause : SignatureTooLong)
  | stated (text : String)
deriving DecidableEq, Repr

/-- The words for a value out of range. -/
def InvalidSetting.message : InvalidSetting → String
  | .optimization found => "toolchain.opt_level must be 0..=3, got " ++ toString found
  | .signature cause => cause.message
  | .stated text => text

/-- Why there are no settings, or nothing can be derived from them. -/
inductive SettingsError where
  | unreadable (cause : FileError)
  | malformed (problem : String)
  | missingField (field : String)
  | invalid (problem : InvalidSetting)
  | invalidResourceName (name : String)
deriving DecidableEq, Repr

/-- What is said of faulty settings. -/
def SettingsError.message : SettingsError → String
  | .unreadable cause => "failed to read configuration: " ++ cause.message
  | .malformed problem => "failed to parse configuration: " ++ problem
  | .missingField field => "missing required field: " ++ field
  | .invalid problem => "validation error: " ++ problem.message
  | .invalidResourceName name => "invalid resource name '" ++ name ++ "'"

/-- The words of the cause under an error, if one is told apart from it. -/
def SettingsError.cause? : SettingsError → Option String
  | .unreadable cause => some cause.message
  | _ => none

end BitcodeCache
