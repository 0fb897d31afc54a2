import BitcodeCache.Disk.Walk
import BitcodeCache.Proofs.Result

/-!
# Paths have one location

A disk may refuse to walk a path, but it has no say in where the path leads: `Path.location` follows
the parts of a path without looking, and a walk that succeeds ends there. So the operations that walk
to the end of a path and those that stop before its last part mean the same location.
-/

namespace BitcodeCache

/-- The location one part of a path further, whatever is there. -/
def Location.next (dir : Location) (piece : String) : Location :=
  if piece = "" ∨ piece = "." then dir
  else if piece = ".." then dir.tail
  else piece :: dir

/-- An empty piece of a path stays in the directory. -/
theorem Location.next_empty (dir : Location) : dir.next "" = dir := rfl

/-- Slashes in a row stay in the directory. -/
theorem Location.foldl_next_replicate (dir : Location) (n : Nat) :
    (List.replicate n "").foldl Location.next dir = dir := by
  induction n with
  | zero => rfl
  | succ n ih => exact ih

/-- The location that a path names, seen from a working directory. -/
def Path.location (p : Path) (workingDir : Location) : Location :=
  p.pieces.foldl Location.next (if p.isAbsolute then [] else workingDir)

namespace Disk

variable {disk disk' : Disk} {p : Path}

/-! ## Where walks end -/

/-- A step leads where its piece says, if anywhere. -/
theorem eq_of_enter {dir loc : Location} {piece : String} (h : disk.enter dir piece = .ok loc) :
    loc = dir.next piece := by
  unfold enter at h
  split at h
  · cases h
  · cases h
  · unfold Location.next
    split at h
    · rename_i here
      cases h
      rw [if_pos here]
    · rename_i away
      rw [if_neg away]
      split at h
      · rename_i up
        cases h
        rw [if_pos up]
      · rename_i down
        rw [if_neg down]
        split at h
        · cases h
        · cases h
          rfl

/-- A walk leads where its pieces say, if anywhere. -/
theorem eq_of_walk {pieces : List String} {dir loc : Location}
    (h : disk.walk dir pieces = .ok loc) : loc = pieces.foldl Location.next dir := by
  induction pieces generalizing dir with
  | nil =>
    cases h
    rfl
  | cons piece pieces ih =>
    rw [walk, List.foldlM_cons, except_bind_eq_ok_iff] at h
    obtain ⟨mid, entered, walked⟩ := h
    rw [eq_of_enter entered] at walked
    exact ih walked

/-- A walk starts at the root or in the working directory. -/
theorem eq_of_start {loc : Location} (h : disk.start p = .ok loc) :
    loc = if p.isAbsolute then [] else disk.workingDir := by
  unfold start at h
  split at h
  · cases h
  split at h
  · cases h
  · cases h
    rfl

/-- A path leads to the location that its text says, if anywhere. -/
theorem eq_of_locate {loc : Location} (h : disk.locate p = .ok loc) :
    loc = p.location disk.workingDir := by
  rw [locate, except_bind_eq_ok_iff] at h
  obtain ⟨start, started, walked⟩ := h
  rw [eq_of_walk walked, eq_of_start started]
  rfl

/-- Behind the last part with a name there are only empty ones. -/
theorem exists_eq_append_replicate {pieces way : List String} {name : String}
    (h : pieces.reverse.dropWhile (· == "") = name :: way) :
    ∃ n, pieces = way.reverse ++ name :: List.replicate n "" := by
  have split := List.takeWhile_append_dropWhile (p := (· == "")) (l := pieces.reverse)
  have slashes : ∀ piece ∈ pieces.reverse.takeWhile (· == ""), piece = "" := by
    intro piece member
    exact beq_iff_eq.1 (List.all_eq_true.1 List.all_takeWhile piece member)
  rw [h, List.eq_replicate_of_mem slashes] at split
  generalize (pieces.reverse.takeWhile (· == "")).length = n at split
  refine ⟨n, ?_⟩
  calc pieces = (List.replicate n "" ++ name :: way).reverse := by rw [split, List.reverse_reverse]
    _ = way.reverse ++ name :: List.replicate n "" := by
      rw [List.reverse_append, List.reverse_cons, List.reverse_replicate, List.append_assoc,
        List.singleton_append]

/-- The name of a place is the last part of the path, so the place is where the path leads. -/
theorem location_of_place {place : Place} (h : disk.place p = .ok place)
    (named : place.isNamed = true) : place.location = p.location disk.workingDir := by
  rw [Disk.place, except_bind_eq_ok_iff] at h
  obtain ⟨start, started, h⟩ := h
  dsimp only at h
  cases rest : p.pieces.reverse.dropWhile (· == "") with
  | nil =>
    rw [rest] at h
    cases h
    cases named
  | cons name way =>
    rw [rest] at h
    dsimp only at h
    rw [except_bind_eq_ok_iff] at h
    obtain ⟨dir, walked, h⟩ := h
    rw [except_bind_eq_ok_iff] at h
    obtain ⟨held, entered, h⟩ := h
    cases h
    obtain ⟨n, parts⟩ := exists_eq_append_replicate rest
    simp only [Place.isNamed, Bool.and_eq_true, bne_iff_ne] at named
    obtain ⟨⟨notEmpty, notDot⟩, notUp⟩ := named
    rw [Path.location, parts, List.foldl_append, List.foldl_cons, Location.foldl_next_replicate,
      ← eq_of_start started, ← eq_of_walk walked, eq_of_enter entered, Location.next_empty,
      Location.next, if_neg (by simp [notEmpty, notDot]), if_neg notUp]
    rfl

/-- Steps are only made out of directories. -/
theorem directory_of_enter {dir loc : Location} {piece : String}
    (h : disk.enter dir piece = .ok loc) : ∃ time, disk.get? dir = some (.directory time) := by
  unfold enter at h
  split at h
  · cases h
  · cases h
  · rename_i found
    exact ⟨_, found⟩

/-- In a directory the step to a name of usable length always succeeds. -/
theorem enter_name {dir : Location} {time : FileTime} {name : String}
    (directory : disk.get? dir = some (.directory time)) (own : name ≠ "" ∧ name ≠ "." ∧ name ≠ "..")
    (short : name.utf8ByteSize ≤ maxNameLength) : disk.enter dir name = .ok (name :: dir) := by
  obtain ⟨notEmpty, notDot, notUp⟩ := own
  simp only [enter, directory, notEmpty, notDot, notUp, or_self, if_false]
  rw [if_neg (by omega)]

/-- A walk goes on by one part. -/
theorem walk_concat {start dir loc : Location} {way : List String} {piece : String}
    (walked : disk.walk start way = .ok dir) (entered : disk.enter dir piece = .ok loc) :
    disk.walk start (way ++ [piece]) = .ok loc := by
  rw [walk, List.foldlM_append, ← walk, walked]
  change [piece].foldlM disk.enter dir = _
  rw [List.foldlM_cons, entered]
  rfl

/-- A path without slashes at its end leads to its place, if that has a usable name. -/
theorem locate_of_place {place : Place} (h : disk.place p = .ok place)
    (named : place.isNamed = true) (short : place.isLong = false) (plain : place.hasSlash = false) :
    disk.locate p = .ok place.location := by
  rw [Disk.place, except_bind_eq_ok_iff] at h
  obtain ⟨start, started, h⟩ := h
  dsimp only at h
  cases rest : p.pieces.reverse.dropWhile (· == "") with
  | nil =>
    rw [rest] at h
    cases h
    cases plain
  | cons name way =>
    rw [rest] at h
    dsimp only at h
    rw [except_bind_eq_ok_iff] at h
    obtain ⟨dir, walked, h⟩ := h
    rw [except_bind_eq_ok_iff] at h
    obtain ⟨held, entered, h⟩ := h
    cases h
    obtain rfl : held = dir := by rw [eq_of_enter entered, Location.next_empty]
    simp only [Place.isNamed, Bool.and_eq_true, bne_iff_ne] at named
    obtain ⟨⟨notEmpty, notDot⟩, notUp⟩ := named
    -- without a slash at the end there was no empty piece to drop
    have whole : p.pieces.reverse = name :: way := by
      rw [← rest]
      cases back : p.pieces.reverse with
      | nil => rfl
      | cons last way' =>
        rw [List.dropWhile_cons_of_neg]
        intro slash
        simp [back, beq_iff_eq.1 slash] at plain
    have parts : p.pieces = way.reverse ++ [name] := by
      rw [← List.reverse_cons, ← whole, List.reverse_reverse]
    obtain ⟨time, directory⟩ := directory_of_enter entered
    have last : disk.enter held name = .ok (name :: held) :=
      enter_name directory ⟨notEmpty, notDot, notUp⟩ (by simpa [Place.isLong] using short)
    rw [locate, started, parts]
    exact walk_concat walked last

/-! ## What walks depend on -/

/-- Every directory of one disk is one of the other, and both have the same working directory. -/
structure KeepsDirectories (disk disk' : Disk) : Prop where
  workingDir : disk'.workingDir = disk.workingDir
  directory : ∀ {loc time}, disk.get? loc = some (.directory time) →
    ∃ time', disk'.get? loc = some (.directory time')

theorem KeepsDirectories.trans {mid : Disk} (keeps : KeepsDirectories disk mid)
    (keeps' : KeepsDirectories mid disk') : KeepsDirectories disk disk' where
  workingDir := keeps'.workingDir.trans keeps.workingDir
  directory := by
    intro loc time found
    obtain ⟨_, there⟩ := keeps.directory found
    exact keeps'.directory there

/-- A step that could be made can still be made. -/
theorem KeepsDirectories.enter (keeps : KeepsDirectories disk disk') {dir loc : Location}
    {piece : String} (h : disk.enter dir piece = .ok loc) : disk'.enter dir piece = .ok loc := by
  unfold Disk.enter at h ⊢
  split at h
  · cases h
  · cases h
  · rename_i found
    obtain ⟨_, there⟩ := keeps.directory found
    rw [there]
    exact h

theorem KeepsDirectories.walk (keeps : KeepsDirectories disk disk') {pieces : List String}
    {dir loc : Location} (h : disk.walk dir pieces = .ok loc) : disk'.walk dir pieces = .ok loc := by
  induction pieces generalizing dir with
  | nil => exact h
  | cons piece pieces ih =>
    rw [Disk.walk, List.foldlM_cons, except_bind_eq_ok_iff] at h ⊢
    obtain ⟨mid, entered, walked⟩ := h
    exact ⟨mid, keeps.enter entered, ih walked⟩

theorem KeepsDirectories.start (keeps : KeepsDirectories disk disk') (p : Path) :
    disk'.start p = disk.start p := by
  rw [Disk.start, Disk.start, keeps.workingDir]

/-- A path that could be walked can still be walked, to the same location. -/
theorem KeepsDirectories.locate (keeps : KeepsDirectories disk disk') {loc : Location}
    (h : disk.locate p = .ok loc) : disk'.locate p = .ok loc := by
  rw [Disk.locate, except_bind_eq_ok_iff] at h ⊢
  obtain ⟨start, started, walked⟩ := h
  exact ⟨start, by rw [keeps.start, started], keeps.walk walked⟩

theorem KeepsDirectories.place (keeps : KeepsDirectories disk disk') {place : Place}
    (h : disk.place p = .ok place) : disk'.place p = .ok place := by
  rw [Disk.place, except_bind_eq_ok_iff] at h ⊢
  obtain ⟨start, started, h⟩ := h
  refine ⟨start, by rw [keeps.start, started], ?_⟩
  dsimp only at h ⊢
  split at h
  · exact h
  · rw [except_bind_eq_ok_iff] at h ⊢
    obtain ⟨dir, walked, h⟩ := h
    rw [except_bind_eq_ok_iff] at h
    obtain ⟨held, entered, h⟩ := h
    exact ⟨dir, keeps.walk walked, except_bind_eq_ok_iff.2 ⟨held, keeps.enter entered, h⟩⟩

end Disk

end BitcodeCache
