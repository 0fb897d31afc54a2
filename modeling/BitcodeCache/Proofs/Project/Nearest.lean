import BitcodeCache.Project
import BitcodeCache.Proofs.Disk.Operations
import BitcodeCache.Proofs.Path.Parent
import Mathlib.Data.List.Find
import Mathlib.Data.List.Infix

/-!
# The nearest project

The search for a project goes up from a directory and ends at the first one that holds a settings file,
or above the root. So it finds the deepest of all directories above the start that hold one, and misses
none: `findRoot?_eq_some_iff` and `findRoot?_eq_none_iff`. On a disk these are the directories above a
location, and what they hold are nodes.
-/

namespace BitcodeCache

namespace Path

variable {p q : Path}

/-! ## Directories above a path -/

/-- A path above another one is that path, or above its parent. -/
theorem above_iff : Above q p ↔ q = p ∨ ∃ parent, p.parent? = some parent ∧ Above q parent := by
  constructor
  · intro above
    cases above with
    | self => exact .inl rfl
    | parent up above => exact .inr ⟨_, up, above⟩
  · rintro (rfl | ⟨parent, up, above⟩)
    · exact .self q
    · exact .parent up above

/-- Going up makes no text longer. -/
theorem Above.length_le (above : Above q p) : q.text.length ≤ p.text.length := by
  induction above with
  | self => exact Nat.le_refl _
  | parent up _ ih => exact Nat.le_of_lt (Nat.lt_of_le_of_lt ih (length_parent?_lt up))

theorem Above.antisymm (above : Above q p) (below : Above p q) : q = p := by
  rcases above_iff.1 above with same | ⟨parent, up, above⟩
  · exact same
  · have shorter := length_parent?_lt up
    have := above.length_le
    have := below.length_le
    omega

/-- Above an absolute path all paths are absolute. -/
theorem Above.isAbsolute (above : Above q p) (absolute : p.isAbsolute = true) :
    q.isAbsolute = true := by
  induction above with
  | self => exact absolute
  | parent up _ ih => exact ih (isAbsolute_of_parent? up absolute)

end Path

namespace Project

variable {files : FileAccess Id} {start root : Path}

/-! ## The search -/

/-- The file system finds an entry of the name of settings files in a directory. -/
def Holds (files : FileAccess Id) (dir : Path) : Prop :=
  (files.isThere (dir.join ⟨Settings.fileName⟩)).run = true

instance (files : FileAccess Id) (dir : Path) : Decidable (Holds files dir) :=
  inferInstanceAs (Decidable (_ = true))

/-- The deepest directory with settings among a directory and all above it. -/
structure IsNearest (files : FileAccess Id) (start root : Path) : Prop where
  above : Path.Above root start
  holds : Holds files root
  deepest : ∀ dir, Path.Above dir start → Holds files dir → Path.Above dir root

theorem IsNearest.unique {root' : Path} (nearest : IsNearest files start root)
    (nearest' : IsNearest files start root') : root = root' :=
  (nearest'.deepest root nearest.above nearest.holds).antisymm
    (nearest.deepest root' nearest'.above nearest'.holds)

/-- The search asks a directory first, and then its parent. -/
theorem findRoot?_run (files : FileAccess Id) (dir : Path) : (findRoot? files dir).run =
    if Holds files dir then some dir
    else dir.parent?.bind fun parent => (findRoot? files parent).run := by
  rw [findRoot?]
  change Id.run (if Holds files dir then _ else _) = _
  split
  · rfl
  · split
    · rename_i none
      rw [none]
      rfl
    · rename_i parent up
      rw [up]
      rfl

/-- What the search tells of a directory and all above it. -/
theorem findRoot?_spec (files : FileAccess Id) (start : Path) :
    (∃ root, (findRoot? files start).run = some root ∧ IsNearest files start root) ∨
      (findRoot? files start).run = none ∧ ∀ dir, Path.Above dir start → ¬ Holds files dir := by
  rw [findRoot?_run]
  by_cases held : Holds files start
  · rw [if_pos held]
    exact .inl ⟨start, rfl, .self start, held, fun _ above _ => above⟩
  · rw [if_neg held]
    cases up : start.parent? with
    | none =>
      refine .inr ⟨rfl, fun dir above => ?_⟩
      rcases Path.above_iff.1 above with rfl | ⟨parent, up', _⟩
      · exact held
      · cases up.symm.trans up'
    | some parent =>
      rw [Option.bind_some]
      -- the directories above the start are itself, which holds nothing, and those above its parent
      have step : ∀ dir, Path.Above dir start → Holds files dir → Path.Above dir parent := by
        intro dir above holds
        rcases Path.above_iff.1 above with rfl | ⟨other, up', above⟩
        · exact absurd holds held
        · cases up.symm.trans up'
          exact above
      rcases findRoot?_spec files parent with ⟨root, found, nearest⟩ | ⟨found, nothing⟩
      · exact .inl ⟨root, found, .parent up nearest.above, nearest.holds,
          fun dir above holds => nearest.deepest dir (step dir above holds) holds⟩
      · exact .inr ⟨found, fun dir above holds => nothing dir (step dir above holds) holds⟩
termination_by start.text.length
decreasing_by exact Path.length_parent?_lt up

/-- The search finds the nearest project and no other directory. -/
theorem findRoot?_eq_some_iff :
    (findRoot? files start).run = some root ↔ IsNearest files start root := by
  rcases findRoot?_spec files start with ⟨root', found, nearest⟩ | ⟨found, nothing⟩
  · rw [found, Option.some.injEq]
    constructor
    · rintro rfl
      exact nearest
    · exact nearest.unique
  · rw [found]
    exact iff_of_false nofun fun nearest => nothing root nearest.above nearest.holds

/-- The search finds nothing exactly if no directory at or above the start holds settings. -/
theorem findRoot?_eq_none_iff :
    (findRoot? files start).run = none ↔ ∀ dir, Path.Above dir start → ¬ Holds files dir := by
  rcases findRoot?_spec files start with ⟨root, found, nearest⟩ | ⟨found, nothing⟩
  · rw [found]
    exact iff_of_false nofun fun nothing => nothing root nearest.above nearest.holds
  · exact iff_of_true found nothing

/-- From the path of a location the search goes through the locations above it, deepest first. -/
theorem findRoot?_path (files : FileAccess Id) {loc : Location}
    (plain : ∀ part ∈ loc, Path.IsPlain part) : (findRoot? files (Location.path loc)).run =
      (loc.tails.find? fun dir => Holds files (Location.path dir)).map Location.path := by
  induction loc with
  | nil =>
    rw [findRoot?_run, Location.parent?_path_nil, List.tails, List.find?_singleton]
    by_cases held : Holds files (Location.path []) <;> simp [held]
  | cons name loc ih =>
    rw [findRoot?_run, Location.parent?_path_cons plain, List.tails_cons, List.find?_cons,
      Option.bind_some, ih (List.forall_mem_cons.1 plain).2]
    by_cases held : Holds files (Location.path (name :: loc)) <;> simp [held]

end Project

/-! ## On disks -/

namespace Disk

variable {disk : Disk} {loc : Location}

/-- A directory with names for all the directories above it, which are there. -/
structure Reaches (disk : Disk) (loc : Location) : Prop where
  plain : ∀ part ∈ loc, Path.IsPlain part
  short : ∀ part ∈ loc, part.utf8ByteSize ≤ maxNameLength
  directory : ∀ dir ∈ loc.tails, ∃ time, disk.get? dir = some (.directory time)

instance (disk : Disk) (loc : Location) : Decidable (disk.Reaches loc) :=
  decidable_of_iff ((∀ part ∈ loc, Path.IsPlain part) ∧
      (∀ part ∈ loc, part.utf8ByteSize ≤ maxNameLength) ∧
      ∀ dir ∈ loc.tails, (disk.get? dir).any Node.isDirectory = true) <| by
    have directory (dir : Location) : (disk.get? dir).any Node.isDirectory = true ↔
        ∃ time, disk.get? dir = some (.directory time) := by
      cases disk.get? dir with
      | none => simp
      | some node => cases node <;> simp [Node.isDirectory]
    simp only [directory]
    exact ⟨fun ⟨plain, short, directory⟩ => ⟨plain, short, directory⟩,
      fun reaches => ⟨reaches.plain, reaches.short, reaches.directory⟩⟩

/-- A disk that reaches a directory reaches all directories above it. -/
theorem Reaches.of_suffix {dir : Location} (reaches : disk.Reaches loc) (above : dir <:+ loc) :
    disk.Reaches dir where
  plain part member := reaches.plain part (above.subset member)
  short part member := reaches.short part (above.subset member)
  directory other above' := reaches.directory other
    ((List.mem_tails _ _).2 (((List.mem_tails _ _).1 above').trans above))

/-- From a directory that is reached, the step to a plain name succeeds. -/
theorem Reaches.enter (reaches : disk.Reaches loc) {name : String} (own : Path.IsPlain name)
    (short : name.utf8ByteSize ≤ maxNameLength) : disk.enter loc name = .ok (name :: loc) := by
  obtain ⟨time, directory⟩ := reaches.directory loc ((List.mem_tails _ _).2 List.suffix_rfl)
  exact enter_name directory ⟨own.notEmpty, own.notSelf, own.notUp⟩ short

/-- A directory that is reached can be walked to from the root, part by part. -/
theorem Reaches.walk (reaches : disk.Reaches loc) : disk.walk [] ("" :: loc.reverse) = .ok loc := by
  induction loc with
  | nil => rfl
  | cons name loc ih =>
    have above := reaches.of_suffix (List.suffix_cons name loc)
    have last := above.enter (reaches.plain name List.mem_cons_self)
      (reaches.short name List.mem_cons_self)
    rw [List.reverse_cons, ← List.cons_append]
    exact walk_concat (ih above) last

/-- A name is found in a directory where the directory has a node of the name. -/
theorem Reaches.isThere_eq (reaches : disk.Reaches loc) {name : String} (own : Path.IsPlain name)
    (short : name.utf8ByteSize ≤ maxNameLength)
    (fits : (Location.path (name :: loc)).text.utf8ByteSize ≤ maxPathLength) :
    disk.isThere (Location.path (name :: loc)) = (disk.get? (name :: loc)).isSome := by
  have plain := List.forall_mem_cons.2 ⟨own, reaches.plain⟩
  have start : disk.start (Location.path (name :: loc)) = .ok [] := by
    have filled : (Location.path (name :: loc)).isEmpty = false := by
      simp [Location.path, Path.isEmpty]
    rw [Disk.start, filled, Location.isAbsolute_path, if_neg (by simp), if_neg (by omega),
      if_pos rfl]
  have located : disk.locate (Location.path (name :: loc)) = .ok (name :: loc) := by
    rw [locate, start, Location.pieces_path plain, List.reverse_cons, ← List.cons_append]
    exact walk_concat reaches.walk (reaches.enter own short)
  cases found : disk.get? (name :: loc) with
  | none =>
    have missing : disk.stat (Location.path (name :: loc)) = .error .notFound :=
      except_bind_eq_error_iff.2 (.inr ⟨_, located, by rw [found]; rfl⟩)
    rw [isThere, missing]
    rfl
  | some node =>
    rw [isThere, stat_eq_ok_iff.2 ⟨_, located, found⟩]
    rfl

/-- From a directory on a disk the search goes through all directories above it, deepest first, up to
the first one that has an entry of the name. No path that is asked for on the way may be longer than
`maxPathLength`, since a disk finds nothing at such a path. -/
theorem Reaches.findRoot? (reaches : disk.Reaches loc) (fits : ∀ dir ∈ loc.tails,
      (Location.path (Settings.fileName :: dir)).text.utf8ByteSize ≤ maxPathLength) :
    (Project.findRoot? disk.access (Location.path loc)).run =
      (loc.tails.find? fun dir => (disk.get? (Settings.fileName :: dir)).isSome).map
        Location.path := by
  have own : Path.IsPlain Settings.fileName := by decide
  rw [Project.findRoot?_path _ reaches.plain, List.find?_congr fun dir member => ?_]
  have reached := reaches.of_suffix ((List.mem_tails dir loc).1 member)
  rw [← reached.isThere_eq own (by decide) (fits dir member),
    Location.path_cons reached.plain own]
  exact Bool.decide_eq_true

end Disk

end BitcodeCache
