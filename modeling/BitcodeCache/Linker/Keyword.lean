import BitcodeCache.Settings

/-!
# Keywords of the linker

The `-z` keywords that the linker is called with, in the order in which it takes them. Switches
that come in pairs always give one keyword of their pair.
-/

namespace BitcodeCache.LinkerSwitches

/-- The keyword of a switch that gives none when it is off. -/
def single (isOn : Bool) (keyword : String) : List String := if isOn then [keyword] else []

/-- The keyword of a switch that gives one either way. -/
def pair (isOn : Bool) (on off : String) : List String := if isOn then [on] else [off]

/-- The keywords of all switches. -/
def keywords (z : LinkerSwitches) : List String :=
  pair z.combineRelocations "combreloc" "nocombreloc" ++
  single z.defs "defs" ++
  pair z.execStack "execstack" "noexecstack" ++
  single z.initFirst "initfirst" ++
  single z.interpose "interpose" ++
  single z.loadFilter "loadfltr" ++
  single z.multipleDefs "muldefs" ++
  single z.noCopyRelocation "nocopyreloc" ++
  single z.noDefaultLib "nodefaultlib" ++
  single z.noDelete "nodelete" ++
  single z.noDlopen "nodlopen" ++
  single z.noDump "nodump" ++
  pair z.relro "relro" "norelro" ++
  pair z.isLazy "lazy" "now" ++
  single z.origin "origin"

end BitcodeCache.LinkerSwitches
