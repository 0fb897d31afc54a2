import BitcodeCache.Linker.Keyword

/-!
# Keywords tell the switches

A switch is on where its keyword is among the keywords, so no two choices of switches have the same
keywords.
-/

namespace BitcodeCache.LinkerSwitches

/-- A switch without an opposite has its keyword only while it is on. -/
theorem mem_single {isOn : Bool} {keyword k : String} :
    k ∈ single isOn keyword ↔ isOn = true ∧ k = keyword := by
  cases isOn <;> simp [single]

/-- A switch with an opposite has one of two keywords. -/
theorem mem_pair {isOn : Bool} {on off k : String} :
    k ∈ pair isOn on off ↔ (isOn = true ∧ k = on) ∨ (isOn = false ∧ k = off) := by
  cases isOn <;> simp [pair]

/-- The switches that are on by the given keywords. -/
def ofKeywords (keywords : List String) : LinkerSwitches where
  combineRelocations := "combreloc" ∈ keywords
  defs := "defs" ∈ keywords
  execStack := "execstack" ∈ keywords
  initFirst := "initfirst" ∈ keywords
  interpose := "interpose" ∈ keywords
  loadFilter := "loadfltr" ∈ keywords
  multipleDefs := "muldefs" ∈ keywords
  noCopyRelocation := "nocopyreloc" ∈ keywords
  noDefaultLib := "nodefaultlib" ∈ keywords
  noDelete := "nodelete" ∈ keywords
  noDlopen := "nodlopen" ∈ keywords
  noDump := "nodump" ∈ keywords
  relro := "relro" ∈ keywords
  isLazy := "lazy" ∈ keywords
  origin := "origin" ∈ keywords

/-- Switches can be read off their keywords. -/
theorem ofKeywords_keywords (z : LinkerSwitches) : ofKeywords z.keywords = z := by
  simp [ofKeywords, keywords, mem_single, mem_pair]

theorem keywords_injective {z w : LinkerSwitches} (h : z.keywords = w.keywords) : z = w := by
  rw [← ofKeywords_keywords z, h, ofKeywords_keywords]

end BitcodeCache.LinkerSwitches
