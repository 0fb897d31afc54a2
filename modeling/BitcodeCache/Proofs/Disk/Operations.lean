import BitcodeCache.Disk.Operations
import BitcodeCache.Proofs.Disk.Walk
import Mathlib.Logic.Relation

/-!
# What operations change

Every operation on a file changes the node at one location, `Disk.Becomes`, and this is the location
that the path names. Making a directory with those above it changes nothing that was there,
`Disk.Grows`.
-/

namespace BitcodeCache

/-- A path is the other one or a directory above it. -/
inductive Path.Above : Path → Path → Prop where
  | self (p : Path) : Above p p
  | parent {p q r : Path} (h : p.parent? = some q) (above : Above r q) : Above r p

theorem Path.Above.trans {p q r : Path} (h : Above r q) (h' : Above q p) : Above r p := by
  induction h' with
  | self => exact h
  | parent up _ ih => exact .parent up (ih h)

namespace Disk

variable {disk disk' : Disk} {p q : Path} {loc : Location}

/-! ## One node changes -/

/-- The other disk has this node, or nothing, at the location, and is the same elsewhere. -/
structure Becomes (disk : Disk) (loc : Location) (node : Option Node) (disk' : Disk) : Prop where
  workingDir : disk'.workingDir = disk.workingDir
  clock : disk'.clock = disk.clock
  there : disk'.get? loc = node
  others : ∀ other, other ≠ loc → disk'.get? other = disk.get? other

/-- Setting a node changes no other location. -/
theorem becomes_set (node : Node) (h : loc ≠ []) :
    disk.Becomes loc (some node) (disk.set loc node) where
  workingDir := rfl
  clock := rfl
  there := get?_set_self disk node h
  others := fun _ away => get?_set_of_ne disk node away

theorem becomes_erase (h : loc ≠ []) : disk.Becomes loc none (disk.erase loc) where
  workingDir := rfl
  clock := rfl
  there := get?_erase_self disk h
  others := fun _ away => get?_erase_of_ne disk away

/-- A change where no directory is keeps all directories. -/
theorem Becomes.keepsDirectories {node : Option Node} (h : disk.Becomes loc node disk')
    (free : ∀ time, disk.get? loc ≠ some (.directory time)) : KeepsDirectories disk disk' where
  workingDir := h.workingDir
  directory := by
    intro other time found
    have away : other ≠ loc := by
      intro same
      exact free time (same ▸ found)
    exact ⟨time, by rw [h.others other away, found]⟩

/-- Of two changes of one location the later one counts. -/
theorem Becomes.trans {node node' : Option Node} {mid : Disk} (h : disk.Becomes loc node mid)
    (h' : mid.Becomes loc node' disk') : disk.Becomes loc node' disk' where
  workingDir := h'.workingDir.trans h.workingDir
  clock := h'.clock.trans h.clock
  there := h'.there
  others := fun other away => (h'.others other away).trans (h.others other away)

/-- A node that was put back changed nothing. -/
theorem Becomes.get?_eq {node : Option Node} (h : disk.Becomes loc node disk')
    (same : disk.get? loc = node) (other : Location) : disk'.get? other = disk.get? other := by
  by_cases here : other = loc
  · rw [here, h.there, same]
  · exact h.others other here

/-- The content of the file at a location. -/
def file? (disk : Disk) (loc : Location) : Option Bytes :=
  match disk.get? loc with
  | some (.file content _) => some content
  | _ => none

theorem file?_eq_some_iff {content : Bytes} : disk.file? loc = some content ↔
    ∃ time, disk.get? loc = some (.file content time) := by
  unfold file?
  split
  · rename_i found
    simp [found]
  · rename_i other
    constructor
    · exact nofun
    · rintro ⟨time, found⟩
      exact absurd found (other content time)

theorem file?_congr {other : Location} (same : disk'.get? loc = disk.get? other) :
    disk'.file? loc = disk.file? other := by
  rw [file?, file?, same]

/-- A location without a directory is not the root. -/
theorem ne_nil_of_not_directory (disk : Disk)
    (h : ∀ time, disk.get? loc ≠ some (.directory time)) : loc ≠ [] := by
  intro root
  exact h .epoch (by rw [root, get?, if_pos rfl])

/-! ## Files -/

/-- A place is usable for a name of its own that is not too long. -/
theorem usable_eq_ok_iff {place : Place} {unnamed : FileError} : usable place unnamed = .ok loc ↔
    place.isNamed = true ∧ place.isLong = false ∧ loc = place.location := by
  unfold usable
  cases place.isNamed <;> cases place.isLong <;> simp [eq_comm]

/-- A path names a location where a file can be: its directory is there, and the name is a usable
one without a slash behind it. -/
def Names (disk : Disk) (p : Path) (loc : Location) : Prop :=
  ∃ place, disk.place p = .ok place ∧ place.isNamed = true ∧ place.isLong = false ∧
    place.hasSlash = false ∧ loc = place.location

/-- A path can name no location but the one its text says. -/
theorem Names.eq_location (h : disk.Names p loc) : loc = p.location disk.workingDir := by
  obtain ⟨place, placed, named, _, _, rfl⟩ := h
  exact location_of_place placed named

/-- A location that is named stays so while its directory does. -/
theorem Names.mono (keeps : KeepsDirectories disk disk') (h : disk.Names p loc) :
    disk'.Names p loc := by
  obtain ⟨place, placed, rest⟩ := h
  exact ⟨place, keeps.place placed, rest⟩

/-- Where a path names a location, it can also be walked. -/
theorem Names.locate (h : disk.Names p loc) : disk.locate p = .ok loc := by
  obtain ⟨place, placed, named, short, plain, rfl⟩ := h
  exact locate_of_place placed named short plain

theorem stat_eq_ok_iff {node : Node} : disk.stat p = .ok node ↔
    ∃ loc, disk.locate p = .ok loc ∧ disk.get? loc = some node := by
  rw [stat, except_bind_eq_ok_iff]
  refine exists_congr fun loc => and_congr_right fun _ => ?_
  cases disk.get? loc with
  | none => exact ⟨nofun, nofun⟩
  | some there => exact ⟨fun h => by cases h; rfl, fun h => by cases h; rfl⟩

/-- What is read is the content of the file that the path leads to. -/
theorem get?_of_read {content : Bytes} (h : disk.read p = .ok content) :
    ∃ time, disk.get? (p.location disk.workingDir) = some (.file content time) := by
  rw [read, except_bind_eq_ok_iff] at h
  obtain ⟨node, found, h⟩ := h
  obtain ⟨loc, located, there⟩ := stat_eq_ok_iff.1 found
  obtain rfl := eq_of_locate located
  rw [there]
  split at h
  · cases h
    exact ⟨_, rfl⟩
  · cases h

/-- A file is read where the path can be walked and a file is at its end. -/
theorem read_eq_ok_iff {content : Bytes} : disk.read p = .ok content ↔
    (∃ loc, disk.locate p = .ok loc) ∧
      ∃ time, disk.get? (p.location disk.workingDir) = some (.file content time) := by
  constructor
  · intro h
    refine ⟨?_, get?_of_read h⟩
    rw [read, except_bind_eq_ok_iff] at h
    obtain ⟨node, found, _⟩ := h
    obtain ⟨loc, located, _⟩ := stat_eq_ok_iff.1 found
    exact ⟨loc, located⟩
  · rintro ⟨⟨loc, located⟩, time, there⟩
    rw [← eq_of_locate located] at there
    have found : disk.stat p = .ok (.file content time) := stat_eq_ok_iff.2 ⟨loc, located, there⟩
    rw [read, found]
    rfl

/-- A new file is empty, and nothing was at its place. -/
theorem create_spec (h : disk.create p = .ok disk') : ∃ loc, disk.Names p loc ∧
    disk.get? loc = none ∧ disk.Becomes loc (some (.file [] disk.clock)) disk' := by
  rw [create, except_bind_eq_ok_iff] at h
  obtain ⟨place, placed, h⟩ := h
  obtain ⟨slash, h⟩ := except_guard_eq_ok_iff.1 h
  obtain ⟨_, used, h⟩ := except_bind_eq_ok_iff.1 h
  obtain ⟨named, short, rfl⟩ := usable_eq_ok_iff.1 used
  split at h
  · cases h
  · rename_i free
    cases h
    exact ⟨_, ⟨place, placed, named, short, eq_false_of_ne_true slash, rfl⟩, free,
      becomes_set _ (ne_nil_of_not_directory disk (by simp [free]))⟩

/-- An edit changes the content of one file, and its time. -/
theorem edit_spec {change : Bytes → Bytes} (h : disk.edit p change = .ok disk') :
    ∃ content time, disk.get? (p.location disk.workingDir) = some (.file content time) ∧
      disk.Becomes (p.location disk.workingDir) (some (.file (change content) disk.clock))
        disk' := by
  rw [edit, except_bind_eq_ok_iff] at h
  obtain ⟨loc, located, h⟩ := h
  obtain rfl := eq_of_locate located
  split at h
  · cases h
  · cases h
  · rename_i content time found
    cases h
    exact ⟨content, time, found, becomes_set _ (ne_nil_of_not_directory disk (by simp [found]))⟩

/-- An edit succeeds wherever the path leads to a file. -/
theorem edit_of_file {change : Bytes → Bytes} {content : Bytes} {time : FileTime}
    (located : disk.locate p = .ok loc) (there : disk.get? loc = some (.file content time)) :
    disk.edit p change = .ok (disk.set loc (.file (change content) disk.clock)) := by
  rw [edit, except_bind_eq_ok_iff]
  refine ⟨loc, located, ?_⟩
  rw [there]
  rfl

/-- A file that can be removed is there and named, and it is all that goes. -/
theorem remove_eq_ok_iff : disk.remove p = .ok disk' ↔ ∃ loc content time, disk.Names p loc ∧
    disk.get? loc = some (.file content time) ∧ disk' = disk.erase loc := by
  simp only [remove, except_bind_eq_ok_iff, usable_eq_ok_iff]
  constructor
  · intro h
    obtain ⟨place, placed, loc, ⟨named, short, rfl⟩, h⟩ := h
    split at h
    · cases h
    · cases h
    · rename_i content time found
      cases slash : place.hasSlash with
      | true =>
        rw [slash] at h
        cases h
      | false =>
        rw [slash] at h
        cases h
        exact ⟨_, content, time, ⟨place, placed, named, short, slash, rfl⟩, found, rfl⟩
  · intro h
    obtain ⟨_, content, time, ⟨place, placed, named, short, slash, rfl⟩, found, rfl⟩ := h
    refine ⟨place, placed, _, ⟨named, short, rfl⟩, ?_⟩
    rw [found, slash]
    rfl

/-- A renamed file is where the new path leads, in place of no directory. -/
theorem rename_spec {content : Bytes} {time : FileTime} (h : disk.rename p q = .ok disk')
    (found : disk.get? (p.location disk.workingDir) = some (.file content time)) :
    (∃ loc, disk.Names q loc) ∧
      (∀ time', disk.get? (q.location disk.workingDir) ≠ some (.directory time')) ∧
      ∃ mid, disk.Becomes (p.location disk.workingDir) none mid ∧
        mid.Becomes (q.location disk.workingDir) (some (.file content time)) disk' := by
  rw [rename, except_bind_eq_ok_iff] at h
  obtain ⟨source, placed, h⟩ := h
  rw [except_bind_eq_ok_iff] at h
  obtain ⟨target, placed', h⟩ := h
  obtain ⟨usable, h⟩ := except_guard_eq_ok_iff.1 h
  simp only [Bool.or_eq_true, Bool.not_eq_true', not_or, Bool.not_eq_false] at usable
  obtain ⟨named, named'⟩ := usable
  obtain ⟨_, h⟩ := except_guard_eq_ok_iff.1 h
  rw [location_of_place placed named, location_of_place placed' named'] at h
  dsimp only at h
  rw [found] at h
  obtain ⟨short, h⟩ := except_guard_eq_ok_iff.1 h
  obtain ⟨plain, h⟩ := except_guard_eq_ok_iff.1 h
  simp only [Bool.or_eq_true, not_or, Bool.not_eq_true] at short plain
  split at h
  · cases h
  · rename_i free
    cases h
    exact ⟨⟨_, target, placed', named', short, plain.2, rfl⟩, free, _,
      becomes_erase (ne_nil_of_not_directory disk (by simp [found])),
      becomes_set _ (ne_nil_of_not_directory disk free)⟩

/-- Renaming a file keeps every directory. -/
theorem rename_keepsDirectories {content : Bytes} {time : FileTime}
    (h : disk.rename p q = .ok disk')
    (found : disk.get? (p.location disk.workingDir) = some (.file content time)) :
    KeepsDirectories disk disk' := by
  obtain ⟨_, free, mid, gone, put⟩ := rename_spec h found
  have keeps : KeepsDirectories disk mid := gone.keepsDirectories (by simp [found])
  have keeps' : KeepsDirectories mid disk' := by
    apply put.keepsDirectories
    intro time isDirectory
    by_cases here : q.location disk.workingDir = p.location disk.workingDir
    · rw [here, gone.there] at isDirectory
      cases isDirectory
    · exact free time ((gone.others _ here).symm.trans isDirectory)
  exact keeps.trans keeps'

/-! ## Directories -/

/-- A directory is made where nothing was. -/
theorem makeDir_spec (h : disk.makeDir p = .ok disk') :
    disk.get? (p.location disk.workingDir) = none ∧
      disk.Becomes (p.location disk.workingDir) (some (.directory disk.clock)) disk' := by
  simp only [makeDir, except_bind_eq_ok_iff, usable_eq_ok_iff] at h
  obtain ⟨place, placed, _, ⟨named, _, rfl⟩, h⟩ := h
  rw [location_of_place placed named] at h
  split at h
  · cases h
  · rename_i free
    cases h
    exact ⟨free, becomes_set _ (ne_nil_of_not_directory disk (by simp [free]))⟩

/-- The other disk has, at places of `dir` and of directories above it, directories where nothing
was, and is the same elsewhere. -/
structure Grows (dir : Path) (disk disk' : Disk) : Prop where
  workingDir : disk'.workingDir = disk.workingDir
  clock : disk'.clock = disk.clock
  nodes : ∀ loc, disk'.get? loc = disk.get? loc ∨
    disk.get? loc = none ∧ disk'.get? loc = some (.directory disk.clock) ∧
      ∃ q, Path.Above q dir ∧ loc = q.location disk.workingDir

theorem Grows.refl (dir : Path) (disk : Disk) : Grows dir disk disk :=
  ⟨rfl, rfl, fun _ => .inl rfl⟩

theorem Grows.trans {dir : Path} {mid : Disk} (h : Grows dir disk mid) (h' : Grows dir mid disk') :
    Grows dir disk disk' where
  workingDir := h'.workingDir.trans h.workingDir
  clock := h'.clock.trans h.clock
  nodes := by
    intro loc
    rcases h'.nodes loc with same | ⟨free, made, place⟩
    · rw [same]
      exact h.nodes loc
    · rw [h.clock, h.workingDir] at *
      rcases h.nodes loc with same | ⟨_, there, _⟩
      · exact .inr ⟨same ▸ free, made, place⟩
      · rw [free] at there
        cases there

/-- New directories keep the ones that are there. -/
theorem Grows.keepsDirectories {dir : Path} (h : Grows dir disk disk') :
    KeepsDirectories disk disk' where
  workingDir := h.workingDir
  directory := by
    intro loc time found
    rcases h.nodes loc with same | ⟨free, _, _⟩
    · exact ⟨time, same.trans found⟩
    · rw [free] at found
      cases found

/-- A node that becomes what it was adds nothing to the growth. -/
theorem Grows.becomes {dir : Path} {mid : Disk} {node : Option Node} (h : Grows dir disk mid)
    (h' : mid.Becomes loc node disk') (same : mid.get? loc = node) : Grows dir disk disk' where
  workingDir := h'.workingDir.trans h.workingDir
  clock := h'.clock.trans h.clock
  nodes := by
    intro other
    rw [h'.get?_eq same]
    exact h.nodes other

/-- What grows above a directory grows above every directory below it. -/
theorem Grows.above (above : Path.Above q p) (h : Grows q disk disk') : Grows p disk disk' where
  workingDir := h.workingDir
  clock := h.clock
  nodes := by
    intro loc
    rcases h.nodes loc with same | ⟨free, made, r, higher, place⟩
    · exact .inl same
    · exact .inr ⟨free, made, r, higher.trans above, place⟩

/-- New directories change no file. -/
theorem Grows.file?_eq {dir : Path} (h : Grows dir disk disk') (loc : Location) :
    disk'.file? loc = disk.file? loc := by
  rcases h.nodes loc with same | ⟨free, made, _⟩
  · exact file?_congr same
  · rw [file?, file?, free, made]

/-- Making one directory is growth. -/
theorem makeDir_grows (h : disk.makeDir p = .ok disk') : Grows p disk disk' := by
  obtain ⟨free, becomes⟩ := makeDir_spec h
  refine ⟨becomes.workingDir, becomes.clock, ?_⟩
  intro loc
  by_cases here : loc = p.location disk.workingDir
  · exact .inr ⟨here ▸ free, here ▸ becomes.there, p, .self p, here⟩
  · exact .inl (becomes.others loc here)

/-- Some directories are made, one after another, each of them `dir` or one above it. -/
def Makes (dir : Path) : Disk → Disk → Prop :=
  Relation.ReflTransGen fun disk disk' => ∃ q, Path.Above q dir ∧ disk.makeDir q = .ok disk'

/-- What is made for the parent is made for the directory. -/
theorem Makes.parent {dir parent : Path} (above : dir.parent? = some parent)
    (h : Makes parent disk disk') : Makes dir disk disk' := by
  refine Relation.ReflTransGen.mono ?_ _ _ h
  rintro _ _ ⟨q, higher, made⟩
  exact ⟨q, .parent above higher, made⟩

/-- Making a directory and those above it makes one directory at a time, also where the last one fails.
-/
theorem makeDirs_makes (refuse : Path → Option FileError) (disk : Disk) (p : Path) :
    Makes p disk (disk.makeDirs refuse p).2 := by
  fun_induction Disk.makeDirs refuse disk p with
  | case1 => exact .refl
  | case2 _ make _ _ made =>
    simp only [make] at made
    split at made
    · cases made
    · exact .single ⟨_, .self _, made⟩
  | case3 => exact .refl
  | case4 => exact .refl
  | case5 _ _ _ _ _ _ _ above _ _ rest ih =>
    rw [rest] at ih
    exact ih.parent above
  | case6 _ make _ _ _ _ _ above _ rest _ made ih =>
    rw [rest] at ih
    simp only [make] at made
    split at made
    · cases made
    · exact (ih.parent above).tail ⟨_, .self _, made⟩
  | case7 _ _ _ _ _ _ _ _ above _ rest _ _ ih =>
    rw [rest] at ih
    exact ih.parent above

/-- Directories made one after another are growth. -/
theorem Makes.grows {dir : Path} (h : Makes dir disk disk') : Grows dir disk disk' := by
  induction h with
  | refl => exact .refl dir disk
  | tail _ made ih =>
    obtain ⟨q, higher, made⟩ := made
    exact ih.trans ((makeDir_grows made).above higher)

end Disk

end BitcodeCache
