import BitcodeCache.Digest
import BitcodeCache.Linker.Keyword
import BitcodeCache.Linker.Rename

/-!
# Toolchain signatures of settings

Every setting that can change a compiled artifact is written into one canonical text, each value
after its key and its length, so that different settings never give the same text. The signature is
the compiler, the triple and the digest of that text. Where cache files live does not enter it.
-/

namespace BitcodeCache

/-- The written form of a value: its length in bytes, a colon, and the value. -/
def canonicalValue (value : String) : String := toString value.utf8ByteSize ++ ":" ++ value

/-- The line of a key with a value. -/
def canonicalField (key value : String) : String := key ++ "=" ++ canonicalValue value ++ "\n"

/-- The line of a key whose value may be missing. -/
def canonicalOption (key : String) : Option String → String
  | some value => key ++ "=some:" ++ canonicalValue value ++ "\n"
  | none => key ++ "=none\n"

namespace Settings

/-- The lines of the canonical text. -/
def canonicalLines (s : Settings) : List String :=
  [canonicalField "compiler" s.toolchain.compilerVersion,
    canonicalField "triple" s.toolchain.triple,
    canonicalField "opt" (toString s.toolchain.optimization)] ++
  s.toolchain.flags.map (canonicalField "flag") ++
  [canonicalField "shared" (toString s.linker.shared),
    canonicalField "bsymbolic" (toString s.linker.bsymbolic),
    canonicalOption "soname" s.linker.soname,
    canonicalOption "dyld" s.linker.dyld,
    canonicalOption "sysroot" (s.linker.sysroot.map Path.text)] ++
  s.linker.searchDirs.map (fun dir => canonicalField "search" dir.text) ++
  s.linker.z.keywords.map (canonicalField "z") ++
  (RenameMap.ofLinker s.linker).rules.flatMap fun rule =>
    [canonicalField "rename-from" rule.symbol, canonicalField "rename-to" rule.replacement]

/-- The canonical text. -/
def canonicalText (s : Settings) : String := String.join s.canonicalLines

/-- The text of the signature: compiler, triple and digest between slashes. -/
def signatureText (s : Settings) : String :=
  s.toolchain.compilerVersion ++ "/" ++ s.toolchain.triple ++ "/" ++
    (Digest.ofSource (Text.utf8 s.canonicalText)).display

/-- The toolchain signature of the settings. -/
def signature (s : Settings) : Except SettingsError Signature :=
  match Signature.ofBytes (Text.utf8 s.signatureText) with
  | .ok signature => .ok signature
  | .error e => .error (.invalid (.signature e))

end Settings

end BitcodeCache
