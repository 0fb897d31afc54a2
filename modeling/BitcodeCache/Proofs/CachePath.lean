import BitcodeCache.CachePath
import BitcodeCache.Proofs.Path.Parent
import BitcodeCache.Store

/-!
# Cache files of one directory

A cache file has a plain name: the name has no slashes and does not stand for a directory. So the name
can be told from the location, and two cache files of a directory are at one location only where they
are the same path. Which resources share a file is `Collide`, a relation of their names alone; no
temporary file has the name of a cache file.
-/

namespace BitcodeCache.CachePath

/-! ## File names -/

/-- The file name of a cache file: plain, without the other marks that separate the parts of a resource
name, and with the extension at its end. -/
structure IsCacheFile (file : String) : Prop where
  plain : Path.IsPlain file
  noBackslash : '\\' ∉ file.toList
  noColon : ':' ∉ file.toList
  ending : ".oBCC".toList <:+ file.toList

/-- A name is refused only if nothing, or a mere step in the tree, is left after the leading separators.
-/
theorem fileName?_eq_none_iff {name : String} : fileName? name = none ↔
    trim name.toList = [] ∨ trim name.toList = ['.'] ∨ trim name.toList = ['.', '.'] := by
  unfold fileName?
  dsimp only
  split
  · rename_i idle
    exact iff_of_true rfl idle
  · rename_i named
    exact iff_of_false nofun named

/-- The characters of a file name. -/
theorem toList_of_fileName? {name file : String} (h : fileName? name = some file) :
    file.toList = (trim name.toList).map flatten ++ ".oBCC".toList := by
  unfold fileName? at h
  obtain ⟨_, made⟩ := Option.ite_none_left_eq_some.1 h
  cases made
  simp [extension]

/-- The marks between the parts of a resource name, and the one that stands for them in file names. -/
def marks : List Char := ['/', '\\', ':', '@']

theorem flatten_of_mem {c : Char} (mark : c ∈ marks) : flatten c = '@' := by
  simp only [marks, List.mem_cons, List.not_mem_nil, or_false] at mark
  rcases mark with rfl | rfl | rfl | rfl <;> rfl

theorem flatten_of_not_mem {c : Char} (letter : c ∉ marks) : flatten c = c := by
  simp only [marks, List.mem_cons, List.not_mem_nil, or_false, not_or] at letter
  simp [flatten, isSlash, letter]

/-- Of the separators only `@` is made. -/
theorem flatten_ne {c separator : Char} (mark : separator ∈ marks) (other : separator ≠ '@') :
    flatten c ≠ separator := by
  by_cases own : c ∈ marks
  · rw [flatten_of_mem own]
    exact other.symm
  · rw [flatten_of_not_mem own]
    rintro rfl
    exact own mark

/-- A file name holds a separator only where its ending does. -/
theorem not_mem_of_fileName? {name file : String} (h : fileName? name = some file)
    {separator : Char} (mark : separator ∈ marks) (other : separator ≠ '@')
    (outside : separator ∉ ".oBCC".toList) : separator ∉ file.toList := by
  rw [toList_of_fileName? h, List.mem_append, not_or]
  refine ⟨fun member => ?_, outside⟩
  obtain ⟨c, _, same⟩ := List.mem_map.1 member
  exact flatten_ne mark other same

/-- What a resource name becomes is the name of a cache file. -/
theorem isCacheFile_of_fileName? {name file : String} (h : fileName? name = some file) :
    IsCacheFile file := by
  have longer {short : String} (few : short.toList.length < 5) : file ≠ short := by
    rintro rfl
    rw [toList_of_fileName? h, List.length_append] at few
    exact absurd few (by simp)
  refine ⟨⟨?_, longer (by decide), longer (by decide), longer (by decide)⟩, ?_, ?_, ?_⟩
  · exact not_mem_of_fileName? h (by decide) (by decide) (by decide)
  · exact not_mem_of_fileName? h (by decide) (by decide) (by decide)
  · exact not_mem_of_fileName? h (by decide) (by decide) (by decide)
  · exact ⟨_, (toList_of_fileName? h).symm⟩

/-- The ends of their names tell cache files from temporary files. -/
theorem IsCacheFile.ne_temporaryName {file : String} (h : IsCacheFile file) (name tag : String) :
    file ≠ Store.temporaryName name tag := by
  rintro rfl
  obtain ⟨front, text⟩ := h.ending
  have last : (Store.temporaryName name tag).toList.reverse.head? = some 'p' := by
    simp [Store.temporaryName, Store.temporarySuffix]
  rw [← text] at last
  simp at last

/-! ## Files in a directory -/

theorem resolve_eq_ok_iff {dir p : Path} {name : String} : resolve dir name = .ok p ↔
    ∃ file, fileName? name = some file ∧ p = dir.join ⟨file⟩ := by
  unfold resolve
  cases fileName? name with
  | none => exact ⟨nofun, nofun⟩
  | some file =>
    constructor
    · intro h
      cases h
      exact ⟨file, rfl, rfl⟩
    · rintro ⟨_, named, rfl⟩
      cases named
      rfl

/-- A refusal names the resource, and comes from its name alone. -/
theorem resolve_eq_error_iff {dir : Path} {name : String} {e : SettingsError} :
    resolve dir name = .error e ↔ e = .invalidResourceName name ∧ fileName? name = none := by
  unfold resolve
  cases fileName? name with
  | none => simp [eq_comm]
  | some file => simp

/-- A cache file is directly in its directory. -/
theorem location_resolve {dir p : Path} {name file : String} (named : fileName? name = some file)
    (resolved : resolve dir name = .ok p) (workingDir : Location) :
    p.location workingDir = file :: dir.location workingDir := by
  obtain ⟨_, named', rfl⟩ := resolve_eq_ok_iff.1 resolved
  cases named.symm.trans named'
  rw [Path.location_join, (isCacheFile_of_fileName? named).plain.location]

/-- Two resources of a directory have their files at one location only where they have the same file. -/
theorem eq_of_location_eq {dir p q : Path} {a b : String} {workingDir : Location}
    (first : resolve dir a = .ok p) (second : resolve dir b = .ok q)
    (same : p.location workingDir = q.location workingDir) : p = q := by
  obtain ⟨file, named, rfl⟩ := resolve_eq_ok_iff.1 first
  obtain ⟨file', named', rfl⟩ := resolve_eq_ok_iff.1 second
  rw [location_resolve named first, location_resolve named' second, List.cons.injEq] at same
  rw [same.1]

/-! ## Resources that share a file -/

/-- Two characters that a file name does not tell apart. -/
def Alike (c d : Char) : Prop := c = d ∨ c ∈ marks ∧ d ∈ marks

/-- Flattening makes equal what is alike and nothing else. -/
theorem flatten_eq_iff {c d : Char} : flatten c = flatten d ↔ Alike c d := by
  have at_mem : '@' ∈ marks := by decide
  by_cases own : c ∈ marks <;> by_cases own' : d ∈ marks
  · simp [Alike, own, own', flatten_of_mem]
  · rw [flatten_of_mem own, flatten_of_not_mem own', Alike]
    refine iff_of_false (fun same => own' (same ▸ at_mem)) ?_
    rintro (rfl | ⟨_, mark⟩)
    · exact own' own
    · exact own' mark
  · rw [flatten_of_not_mem own, flatten_of_mem own', Alike]
    refine iff_of_false (fun same => own (same ▸ at_mem)) ?_
    rintro (rfl | ⟨mark, _⟩)
    · exact own own'
    · exact own mark
  · rw [flatten_of_not_mem own, flatten_of_not_mem own', Alike]
    simp [own]

/-- Two resource names are equally long without the slashes at their front, and no place in them is told
apart in a file name. -/
structure Collide (a b : String) : Prop where
  length_eq : (trim a.toList).length = (trim b.toList).length
  alike : ∀ (i : Nat) c d, (trim a.toList)[i]? = some c → (trim b.toList)[i]? = some d → Alike c d

/-- The flattened texts are equal where the names collide. -/
theorem map_flatten_eq_iff {a b : String} :
    (trim a.toList).map flatten = (trim b.toList).map flatten ↔ Collide a b := by
  constructor
  · intro same
    refine ⟨by simpa using congrArg List.length same, fun i c d first second => ?_⟩
    have place := congrArg (·[i]?) same
    simp only [List.getElem?_map, first, second, Option.map_some, Option.some.injEq] at place
    exact flatten_eq_iff.1 place
  · rintro ⟨length, alike⟩
    refine List.ext_getElem (by simpa using length) fun i inside inside' => ?_
    rw [List.length_map] at inside inside'
    rw [List.getElem_map, List.getElem_map, flatten_eq_iff]
    exact alike i _ _ (List.getElem?_eq_getElem inside) (List.getElem?_eq_getElem inside')

/-- In one directory, two resources share a path exactly if their names collide. -/
theorem eq_iff_collide {dir p q : Path} {a b : String} (first : resolve dir a = .ok p)
    (second : resolve dir b = .ok q) : p = q ↔ Collide a b := by
  obtain ⟨file, named, _⟩ := resolve_eq_ok_iff.1 first
  obtain ⟨file', named', _⟩ := resolve_eq_ok_iff.1 second
  rw [← map_flatten_eq_iff]
  constructor
  · rintro rfl
    have same : file = file' := by
      have one := (location_resolve named first []).symm.trans (location_resolve named' second [])
      exact (List.cons.inj one).1
    have chars := (toList_of_fileName? named).symm.trans (same ▸ toList_of_fileName? named')
    exact List.append_cancel_right chars
  · intro same
    refine eq_of_location_eq first second (?_ : p.location [] = q.location [])
    have one : file = file' := by
      rw [← String.toList_inj, toList_of_fileName? named, toList_of_fileName? named', same]
    rw [location_resolve named first, location_resolve named' second, one]

/-- A resource name is refused where nothing is left of it behind the slashes at its front, or only what
stands for a directory. Every other one has a cache file directly in the directory, wherever that is and
whatever the name tries to lead to. Names have one file where they collide, and no file is a temporary
one. -/
theorem resolve_stays_inside (dir : Path) :
    (∀ name e, resolve dir name = .error e ↔ e = .invalidResourceName name ∧
      (trim name.toList = [] ∨ trim name.toList = ['.'] ∨ trim name.toList = ['.', '.'])) ∧
    (∀ name p, resolve dir name = .ok p → ∃ file, IsCacheFile file ∧ p = dir.join ⟨file⟩ ∧
      p.fileName? = some file ∧
      (∀ workingDir, p.location workingDir = file :: dir.location workingDir) ∧
      ∀ other tag, file ≠ Store.temporaryName other tag) ∧
    ∀ a b p q, resolve dir a = .ok p → resolve dir b = .ok q → (p = q ↔ Collide a b) ∧
      ∀ workingDir, p.location workingDir = q.location workingDir ↔ Collide a b := by
  refine ⟨fun name e => ?_, fun name p resolved => ?_, fun a b p q first second => ?_⟩
  · rw [resolve_eq_error_iff, fileName?_eq_none_iff]
  · obtain ⟨file, named, rfl⟩ := resolve_eq_ok_iff.1 resolved
    have isFile := isCacheFile_of_fileName? named
    exact ⟨file, isFile, rfl, Path.fileName?_join isFile.plain dir,
      location_resolve named resolved, isFile.ne_temporaryName⟩
  · have shared := eq_iff_collide first second
    refine ⟨shared, fun workingDir => ?_⟩
    constructor
    · exact fun same => shared.1 (eq_of_location_eq first second same)
    · intro collide
      rw [shared.2 collide]

/-- A name that starts as a path from the root and goes up has the file of one that does neither. -/
theorem resolve_stays_inside_upwards :
    resolve ⟨"cache/"⟩ "//../C:\\fx" = .ok ⟨"cache/..@C@@fx.oBCC"⟩ ∧
      resolve ⟨"cache/"⟩ "..@C/:fx" = .ok ⟨"cache/..@C@@fx.oBCC"⟩ ∧
      Collide "//../C:\\fx" "..@C/:fx" ∧
      (⟨"cache/..@C@@fx.oBCC"⟩ : Path).location ["work"] = ["..@C@@fx.oBCC", "cache", "work"] ∧
      ¬ ∃ p, resolve ⟨"cache/"⟩ "/\\.." = .ok p := by
  have first : resolve ⟨"cache/"⟩ "//../C:\\fx" = .ok ⟨"cache/..@C@@fx.oBCC"⟩ :=
    resolve_eq_ok_iff.2 ⟨"..@C@@fx.oBCC", by decide +kernel, by decide +kernel⟩
  have second : resolve ⟨"cache/"⟩ "..@C/:fx" = .ok ⟨"cache/..@C@@fx.oBCC"⟩ :=
    resolve_eq_ok_iff.2 ⟨"..@C@@fx.oBCC", by decide +kernel, by decide +kernel⟩
  obtain ⟨refused, inside, shared⟩ := resolve_stays_inside ⟨"cache/"⟩
  obtain ⟨file, _, _, named, located, _⟩ := inside _ _ first
  have known : (⟨"cache/..@C@@fx.oBCC"⟩ : Path).fileName? = some "..@C@@fx.oBCC" := by decide +kernel
  cases named.symm.trans known
  refine ⟨first, second, (shared _ _ _ _ first second).1.1 rfl, located _, ?_⟩
  rintro ⟨p, resolved⟩
  have idle := (refused "/\\.." _).2 ⟨rfl, .inr (.inr (by decide +kernel))⟩
  cases idle.symm.trans resolved

end BitcodeCache.CachePath
