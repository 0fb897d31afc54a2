import BitcodeCache.Proofs.Linker.Keyword
import BitcodeCache.Proofs.Linker.Rename
import BitcodeCache.Proofs.Text
import BitcodeCache.Settings.Canonical

/-!
# The canonical text tells the settings

The canonical text is a list of lines, each a key and a content. A key has no equals sign, a content
says which of the three kinds it is by its first character, and a value follows its length: so the
lines are read off the text in one way only, whatever characters the values have. Each setting has
its own keys, so the settings are read off the lines.
-/

namespace BitcodeCache

/-- Settings under which the same artifacts are built. Where cache files live is not asked; maps of
renamed symbols are asked for their replacements, and not for the symbols that they were made from. -/
structure SameBuild (s s' : Settings) : Prop where
  compilerVersion : s.toolchain.compilerVersion = s'.toolchain.compilerVersion
  triple : s.toolchain.triple = s'.toolchain.triple
  optimization : s.toolchain.optimization = s'.toolchain.optimization
  flags : s.toolchain.flags = s'.toolchain.flags
  shared : s.linker.shared = s'.linker.shared
  bsymbolic : s.linker.bsymbolic = s'.linker.bsymbolic
  soname : s.linker.soname = s'.linker.soname
  dyld : s.linker.dyld = s'.linker.dyld
  sysroot : s.linker.sysroot.map Path.text = s'.linker.sysroot.map Path.text
  searchDirs : s.linker.searchDirs.map Path.text = s'.linker.searchDirs.map Path.text
  z : s.linker.z = s'.linker.z
  renames : ∀ symbol,
    (RenameMap.ofLinker s.linker).get? symbol = (RenameMap.ofLinker s'.linker).get? symbol

theorem Path.text_injective : Function.Injective Path.text := by
  rintro ⟨text⟩ ⟨other⟩ same
  exact congrArg Path.mk same

namespace SameBuild

variable {s s' : Settings}

theorem sysroot_eq (same : SameBuild s s') : s.linker.sysroot = s'.linker.sysroot :=
  Option.map_injective Path.text_injective same.sysroot

theorem searchDirs_eq (same : SameBuild s s') : s.linker.searchDirs = s'.linker.searchDirs :=
  List.map_injective_iff.2 Path.text_injective same.searchDirs

/-- Maps with the same replacements are the same. -/
theorem ofLinker_eq (same : SameBuild s s') :
    RenameMap.ofLinker s.linker = RenameMap.ofLinker s'.linker :=
  (RenameMap.ordered_ofLinker _).ext (RenameMap.ordered_ofLinker _) same.renames

end SameBuild

/-! ## Contents -/

/-- A value can be told from what follows it, as its length stands before it. -/
theorem canonicalValue_append_inj {value value' after after' : String}
    (h : canonicalValue value ++ after = canonicalValue value' ++ after') :
    value = value' ∧ after = after' := by
  have colon (n : Nat) : ':' ∉ n.repr.toList := by
    intro member
    have := Text.isDigit_of_mem_repr member
    contradiction
  simp only [canonicalValue, Nat.toString_eq_repr, String.append_assoc] at h
  obtain ⟨size, rest⟩ := Text.append_inj_of_stop rfl (colon _) (colon _) h
  exact Text.append_inj_of_size (Text.repr_injective size) rest

/-- What stands behind a key. -/
inductive CanonicalContent where
  | plain (value : String)
  | present (value : String)
  | absent

namespace CanonicalContent

/-- The written form of a content. -/
def text : CanonicalContent → String
  | plain value => canonicalValue value
  | present value => "some:" ++ canonicalValue value
  | absent => "none"

/-- The first characters of each kind of content. -/
def StartsWith : CanonicalContent → Char → Prop
  | plain _, c => c.isDigit
  | present _, c => c = 's'
  | absent, c => c = 'n'

/-- The first character of a content tells its kind. -/
theorem exists_startsWith (content : CanonicalContent) (after : String) :
    ∃ c cs, (content.text ++ after).toList = c :: cs ∧ content.StartsWith c := by
  cases content with
  | plain value =>
    cases digits : value.utf8ByteSize.repr.toList with
    | nil => exact absurd digits (by simp)
    | cons d ds =>
      refine ⟨d, ds ++ ':' :: (value ++ after).toList, ?_, ?_⟩
      · simp only [text, canonicalValue, Nat.toString_eq_repr, String.toList_append, digits]
        simp
      · apply Text.isDigit_of_mem_repr
        rw [digits]
        exact List.mem_cons_self
  | present value => exact ⟨'s', _, by simp [text]; rfl, rfl⟩
  | absent => exact ⟨'n', _, by simp [text]; rfl, rfl⟩

/-- A content can be told from what follows it. -/
theorem text_append_inj {content content' : CanonicalContent} {after after' : String}
    (h : content.text ++ after = content'.text ++ after') : content = content' ∧ after = after' := by
  obtain ⟨c, cs, start, kind⟩ := exists_startsWith content after
  obtain ⟨c', cs', start', kind'⟩ := exists_startsWith content' after'
  rw [h, start'] at start
  obtain rfl := (List.cons.inj start).1
  -- different kinds start with different characters, so two contents are of one kind
  cases content with
  | plain value =>
    cases content' with
    | plain value' =>
      obtain ⟨rfl, rfl⟩ := canonicalValue_append_inj h
      exact ⟨rfl, rfl⟩
    | present value' => simp_all [StartsWith]
    | absent => simp_all [StartsWith]
  | present value =>
    cases content' with
    | plain value' => simp_all [StartsWith]
    | present value' =>
      simp only [text, String.append_assoc, String.append_right_inj] at h
      obtain ⟨rfl, rfl⟩ := canonicalValue_append_inj h
      exact ⟨rfl, rfl⟩
    | absent => simp_all [StartsWith]
  | absent =>
    cases content' with
    | plain value' => simp_all [StartsWith]
    | present value' => simp_all [StartsWith]
    | absent =>
      rw [String.append_right_inj] at h
      exact ⟨rfl, h⟩

end CanonicalContent

/-! ## Lines -/

/-- A key and its content. -/
structure CanonicalLine where
  key : String
  content : CanonicalContent

namespace CanonicalLine

/-- The written form of a line. -/
def text (line : CanonicalLine) : String := line.key ++ "=" ++ line.content.text ++ "\n"

/-- A line can be told from what follows it, if no key has an equals sign. -/
theorem text_append_inj {line line' : CanonicalLine} {after after' : String}
    (key : '=' ∉ line.key.toList) (key' : '=' ∉ line'.key.toList)
    (h : line.text ++ after = line'.text ++ after') : line = line' ∧ after = after' := by
  obtain ⟨k, content⟩ := line
  obtain ⟨k', content'⟩ := line'
  simp only [text, String.append_assoc] at h
  obtain ⟨rfl, rest⟩ := Text.append_inj_of_stop rfl key key' h
  obtain ⟨rfl, tail⟩ := CanonicalContent.text_append_inj rest
  exact ⟨rfl, (String.append_right_inj "\n").1 tail⟩

/-- Lines are read off their text in one way only. -/
theorem join_text_inj {lines lines' : List CanonicalLine}
    (keys : ∀ line ∈ lines, '=' ∉ line.key.toList) (keys' : ∀ line ∈ lines', '=' ∉ line.key.toList)
    (h : String.join (lines.map text) = String.join (lines'.map text)) : lines = lines' := by
  have nonempty (line : CanonicalLine) (after : String) : line.text ++ after ≠ "" := by
    intro empty
    have := congrArg String.toList empty
    simp [text] at this
  induction lines generalizing lines' with
  | nil =>
    cases lines' with
    | nil => rfl
    | cons line' lines' =>
      rw [List.map_nil, List.map_cons, String.join_cons] at h
      exact absurd h.symm (nonempty _ _)
  | cons line lines ih =>
    cases lines' with
    | nil =>
      rw [List.map_nil, List.map_cons, String.join_cons] at h
      exact absurd h (nonempty _ _)
    | cons line' lines' =>
      rw [List.map_cons, List.map_cons, String.join_cons, String.join_cons] at h
      rw [List.forall_mem_cons] at keys keys'
      obtain ⟨rfl, rest⟩ := text_append_inj keys.1 keys'.1 h
      rw [ih keys.2 keys'.2 rest]

/-- The contents of the lines with some key. -/
def contents (key : String) (lines : List CanonicalLine) : List CanonicalContent :=
  (lines.filter (·.key = key)).map CanonicalLine.content

variable {α : Type} (key : String)

@[simp] theorem contents_nil : contents key [] = [] := rfl

@[simp] theorem contents_cons (line : CanonicalLine) (lines : List CanonicalLine) :
    contents key (line :: lines) =
      if line.key = key then line.content :: contents key lines else contents key lines := by
  simp only [contents, List.filter_cons]
  split <;> simp_all

@[simp] theorem contents_append (xs ys : List CanonicalLine) :
    contents key (xs ++ ys) = contents key xs ++ contents key ys := by
  simp [contents]

/-- Lines that all have one key hold their contents under it and under no other. -/
@[simp] theorem contents_map (k : String) (content : α → CanonicalContent) (xs : List α) :
    contents key (xs.map fun x => ⟨k, content x⟩) = if k = key then xs.map content else [] := by
  induction xs with
  | nil => simp
  | cons x xs ih =>
    rw [List.map_cons, contents_cons, ih]
    split <;> simp_all

/-- Lines that take turns with two keys hold their contents under the two. -/
@[simp] theorem contents_flatMap_pair {k l : String} (different : k ≠ l)
    (content other : α → CanonicalContent) (xs : List α) :
    contents key (xs.flatMap fun x => [⟨k, content x⟩, ⟨l, other x⟩]) =
      if k = key then xs.map content else if l = key then xs.map other else [] := by
  induction xs with
  | nil => simp
  | cons x xs ih =>
    rw [List.flatMap_cons, contents_append, ih]
    by_cases first : k = key
    · have not_second : l ≠ key := fun second => different (first.trans second.symm)
      simp [first, not_second]
    · by_cases second : l = key <;> simp [first, second]

end CanonicalLine

/-! ## Settings -/

namespace Settings

open CanonicalLine

/-- The content of a setting that may be missing. -/
def optionContent : Option String → CanonicalContent
  | some value => .present value
  | none => .absent

theorem optionContent_injective {x y : Option String} (h : optionContent x = optionContent y) :
    x = y := by
  cases x <;> cases y <;> simp_all [optionContent]

/-- The lines of the canonical text, before they are written. -/
def canonicalEntries (s : Settings) : List CanonicalLine :=
  [⟨"compiler", .plain s.toolchain.compilerVersion⟩,
    ⟨"triple", .plain s.toolchain.triple⟩,
    ⟨"opt", .plain (toString s.toolchain.optimization)⟩] ++
  s.toolchain.flags.map (⟨"flag", .plain ·⟩) ++
  [⟨"shared", .plain (toString s.linker.shared)⟩,
    ⟨"bsymbolic", .plain (toString s.linker.bsymbolic)⟩,
    ⟨"soname", optionContent s.linker.soname⟩,
    ⟨"dyld", optionContent s.linker.dyld⟩,
    ⟨"sysroot", optionContent (s.linker.sysroot.map Path.text)⟩] ++
  s.linker.searchDirs.map (⟨"search", .plain ·.text⟩) ++
  s.linker.z.keywords.map (⟨"z", .plain ·⟩) ++
  (RenameMap.ofLinker s.linker).rules.flatMap fun rule =>
    [⟨"rename-from", .plain rule.symbol⟩, ⟨"rename-to", .plain rule.replacement⟩]

/-- The text of an optional value is a line with its content. -/
theorem canonicalOption_eq (key : String) (value : Option String) :
    canonicalOption key value = text ⟨key, optionContent value⟩ := by
  cases value with
  | none => simp [canonicalOption, text, optionContent, CanonicalContent.text, String.append_assoc]
  | some value =>
    have mark : "=some:" = "=" ++ "some:" := rfl
    simp only [canonicalOption, text, optionContent, CanonicalContent.text, mark, String.append_assoc]

/-- The canonical lines are the texts of the entries. -/
theorem canonicalLines_eq (s : Settings) : s.canonicalLines = s.canonicalEntries.map text := by
  have field (key value : String) : canonicalField key value = text ⟨key, .plain value⟩ := rfl
  simp [canonicalLines, canonicalEntries, field, canonicalOption_eq, List.map_flatMap]
  rfl

/-- No key of the settings has an equals sign. -/
theorem key_of_mem_canonicalEntries (s : Settings) :
    ∀ line ∈ s.canonicalEntries, '=' ∉ line.key.toList := by
  simp +contextual [canonicalEntries, or_imp, forall_and]

/-- The lines of all settings of a build are told apart by their keys. -/
theorem canonicalEntries_inj {s s' : Settings} (h : s.canonicalEntries = s'.canonicalEntries) :
    SameBuild s s' := by
  have same (key : String) : contents key s.canonicalEntries = contents key s'.canonicalEntries := by
    rw [h]
  have strip {xs ys : List String}
      (equal : xs.map CanonicalContent.plain = ys.map CanonicalContent.plain) : xs = ys :=
    List.map_inj_right (fun _ _ => CanonicalContent.plain.inj) |>.1 equal
  have bool {x y : Bool} (equal : toString x = toString y) : x = y := by
    revert x y
    decide
  have level : toString s.toolchain.optimization = toString s'.toolchain.optimization := by
    simpa [canonicalEntries] using same "opt"
  have symbols : (RenameMap.ofLinker s.linker).rules.map Rename.symbol =
      (RenameMap.ofLinker s'.linker).rules.map Rename.symbol := by
    apply strip
    simpa [canonicalEntries, Function.comp_def] using same "rename-from"
  have replacements : (RenameMap.ofLinker s.linker).rules.map Rename.replacement =
      (RenameMap.ofLinker s'.linker).rules.map Rename.replacement := by
    apply strip
    simpa [canonicalEntries, Function.comp_def] using same "rename-to"
  constructor
  case compilerVersion => simpa [canonicalEntries] using same "compiler"
  case triple => simpa [canonicalEntries] using same "triple"
  case optimization => exact UInt8.toNat_inj.1 (Text.repr_injective level)
  case flags =>
    apply strip
    simpa [canonicalEntries] using same "flag"
  case shared =>
    apply bool
    simpa [canonicalEntries] using same "shared"
  case bsymbolic =>
    apply bool
    simpa [canonicalEntries] using same "bsymbolic"
  case soname =>
    apply optionContent_injective
    simpa [canonicalEntries] using same "soname"
  case dyld =>
    apply optionContent_injective
    simpa [canonicalEntries] using same "dyld"
  case sysroot =>
    apply optionContent_injective
    simpa [canonicalEntries] using same "sysroot"
  case searchDirs =>
    apply strip
    simpa [canonicalEntries, Function.comp_def] using same "search"
  case z =>
    apply LinkerSwitches.keywords_injective
    apply strip
    simpa [canonicalEntries] using same "z"
  case renames =>
    have rules : (RenameMap.ofLinker s.linker).rules = (RenameMap.ofLinker s'.linker).rules := by
      have whole (rules : List Rename) :
          rules = List.zipWith Rename.mk (rules.map Rename.symbol) (rules.map Rename.replacement) := by
        induction rules <;> simp_all
      rw [whole (RenameMap.ofLinker s.linker).rules, symbols, replacements, ← whole]
    intro symbol
    rw [RenameMap.get?, RenameMap.get?, rules]

/-- The canonical texts of two settings are the same where what is built under them is. -/
theorem canonicalText_eq_iff {s s' : Settings} :
    s.canonicalText = s'.canonicalText ↔ SameBuild s s' := by
  constructor
  · intro h
    rw [canonicalText, canonicalText, canonicalLines_eq, canonicalLines_eq] at h
    apply canonicalEntries_inj
    exact join_text_inj (key_of_mem_canonicalEntries s) (key_of_mem_canonicalEntries s') h
  · intro same
    simp only [canonicalText, canonicalLines, same.compilerVersion, same.triple, same.optimization,
      same.flags, same.shared, same.bsymbolic, same.soname, same.dyld, same.sysroot_eq,
      same.searchDirs_eq, same.z, same.ofLinker_eq]

end Settings

end BitcodeCache
