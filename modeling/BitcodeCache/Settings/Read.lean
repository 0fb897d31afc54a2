import BitcodeCache.Settings
import BitcodeCache.Toml.Document

/-!
# Reading settings

Settings are the values of a TOML document. Each group of settings is a table, or an array that
gives its values by place; keys that are not known and surplus places are ignored, and settings
that are not there have their defaults.
-/

namespace BitcodeCache

namespace Toml.Value

/-- A value that is a text. -/
def asString? : Value → Option String
  | .string text => some text
  | _ => none

/-- A value that is true or false. -/
def asBool? : Value → Option Bool
  | .boolean b => some b
  | _ => none

/-- A value that is a number below 256. -/
def asByte? : Value → Option UInt8
  | .integer n => if 0 ≤ n ∧ n < 256 then some (UInt8.ofNat n.toNat) else none
  | _ => none

/-- A value that is an array of texts. -/
def asStrings? : Value → Option (List String)
  | .array items => items.mapM asString?
  | _ => none

/-- The values of a group, each asked for by its place and its key. A moment is a group without
known keys. -/
def group? : Value → Option (Nat → String → Option Value)
  | .table _ entries => some fun _ key => entries.lookup key
  | .array items => some fun place _ => items[place]?
  | .tables elements => some fun place _ => elements[place]?.map (.table .header)
  | .moment _ => some fun _ _ => none
  | _ => none

/-- The reading of a value that must be there. -/
def required {α : Type} (read : Value → Option α) (value : Option Value) : Option α :=
  value.bind read

/-- The reading of a value that may be missing. -/
def optional {α : Type} (read : Value → Option α) (default : α) : Option Value → Option α
  | none => some default
  | some value => read value

end Toml.Value

open Toml.Value

/-- The cache settings in a value. -/
def CacheSettings.ofValue? (value : Toml.Value) : Option CacheSettings := do
  let field ← value.group?
  let dir ← optional asString? ".bcc-cache" (field 0 "dir")
  let bypass ← optional asBool? false (field 1 "bypass")
  pure ⟨⟨dir⟩, bypass⟩

/-- The toolchain settings in a value. -/
def ToolchainSettings.ofValue? (value : Toml.Value) : Option ToolchainSettings := do
  let field ← value.group?
  let compilerVersion ← required asString? (field 0 "compiler_version")
  let triple ← required asString? (field 1 "triple")
  let optimization ← optional asByte? 2 (field 2 "opt_level")
  let flags ← optional asStrings? [] (field 3 "flags")
  pure ⟨compilerVersion, triple, optimization, flags⟩

/-- The switches in a value. -/
def LinkerSwitches.ofValue? (value : Toml.Value) : Option LinkerSwitches := do
  let field ← value.group?
  let combineRelocations ← optional asBool? true (field 0 "comb_reloc")
  let defs ← optional asBool? false (field 1 "defs")
  let execStack ← optional asBool? false (field 2 "exec_stack")
  let initFirst ← optional asBool? false (field 3 "init_first")
  let interpose ← optional asBool? false (field 4 "interpose")
  let loadFilter ← optional asBool? false (field 5 "load_fltr")
  let multipleDefs ← optional asBool? false (field 6 "mul_defs")
  let noCopyRelocation ← optional asBool? false (field 7 "no_copy_reloc")
  let noDefaultLib ← optional asBool? false (field 8 "no_default_lib")
  let noDelete ← optional asBool? false (field 9 "no_delete")
  let noDlopen ← optional asBool? false (field 10 "no_dlopen")
  let noDump ← optional asBool? false (field 11 "no_dump")
  let relro ← optional asBool? true (field 12 "relro")
  let isLazy ← optional asBool? true (field 13 "lazy")
  let origin ← optional asBool? false (field 14 "origin")
  pure ⟨combineRelocations, defs, execStack, initFirst, interpose, loadFilter, multipleDefs,
    noCopyRelocation, noDefaultLib, noDelete, noDlopen, noDump, relro, isLazy, origin⟩

/-- The linker settings in a value. -/
def LinkerSettings.ofValue? (value : Toml.Value) : Option LinkerSettings := do
  let field ← value.group?
  let shared ← optional asBool? false (field 0 "shared")
  let bsymbolic ← optional asBool? false (field 1 "bsymbolic")
  let soname ← optional (fun v => some <$> v.asString?) none (field 2 "soname")
  let dyld ← optional (fun v => some <$> v.asString?) none (field 3 "dyld")
  let sysroot ← optional (fun v => some <$> v.asString?) none (field 4 "sysroot")
  let searchDirs ← optional asStrings? [] (field 5 "search_dirs")
  let wrap ← optional asStrings? [] (field 6 "wrap")
  let portable ← optional asStrings? [] (field 7 "portable")
  let z ← optional LinkerSwitches.ofValue? {} (field 8 "z")
  pure ⟨shared, bsymbolic, soname, dyld, sysroot.map Path.mk, searchDirs.map Path.mk, wrap,
    portable, z⟩

namespace Settings

/-- The settings in a value. -/
def ofValue? (value : Toml.Value) : Option Settings := do
  let field ← value.group?
  let cache ← optional CacheSettings.ofValue? {} (field 0 "cache")
  let toolchain ← required ToolchainSettings.ofValue? (field 1 "toolchain")
  let linker ← optional LinkerSettings.ofValue? {} (field 2 "linker")
  pure ⟨cache, toolchain, linker⟩

/-- The valid settings in a document. -/
def parse (text : String) : Except SettingsError Settings :=
  match Toml.parse? text with
  | none => .error (.malformed "the text is no TOML document")
  | some value =>
    match ofValue? value with
    | none => .error (.malformed "a setting is missing or has the wrong type")
    | some settings => do
      settings.validate
      pure settings

end Settings

end BitcodeCache
