import BitcodeCache.Linker.Keyword
import BitcodeCache.Linker.Rename

/-!
# Linker options

The linker settings as the options that the linker is called with, one a line.
-/

namespace BitcodeCache.LinkerSettings

/-- The options in the order in which the linker takes them. -/
def options (linker : LinkerSettings) : List String :=
  (if linker.shared then ["-shared"] else []) ++
  (if linker.bsymbolic then ["-Bsymbolic"] else []) ++
  linker.soname.toList.map ("-soname " ++ ·) ++
  linker.dyld.toList.map ("-dynamic-linker " ++ ·) ++
  linker.sysroot.toList.map ("--sysroot=" ++ ·.text) ++
  linker.searchDirs.map ("-L" ++ ·.text) ++
  linker.z.keywords.map ("-z " ++ ·) ++
  (RenameMap.ofLinker linker).rules.map fun rule =>
    "--defsym=" ++ rule.symbol ++ "=" ++ rule.replacement

/-- The options, each on a line of its own. -/
def optionText (linker : LinkerSettings) : String :=
  String.join (linker.options.map (· ++ "\n"))

end BitcodeCache.LinkerSettings
