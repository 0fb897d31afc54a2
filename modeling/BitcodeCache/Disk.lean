import BitcodeCache.Bytes
import BitcodeCache.Fingerprint

/-!
# Disks

A disk is a tree of files and directories, kept as a table from locations to nodes. All that is
known of a disk is what `get?` answers; `set` and `erase` change the answer for one location and
for no other.
-/

namespace BitcodeCache

/-- The place of a node: its name, and after it the names of the directories above it up to the root.
The root itself has no names. -/
abbrev Location := List String

/-- A file with its content, or a directory, with the time of its last change. -/
inductive Node where
  | file (content : Bytes) (modified : FileTime)
  | directory (modified : FileTime)
deriving DecidableEq

/-- The time of a node's last change. -/
def Node.modified : Node → FileTime
  | .file _ modified => modified
  | .directory modified => modified

/-- A node with another time of change. -/
def Node.touch (time : FileTime) : Node → Node
  | .file content _ => .file content time
  | .directory _ => .directory time

/-- Whether a node is a directory. -/
def Node.isDirectory : Node → Bool
  | .file .. => false
  | .directory _ => true

/-- The first second in which a disk can keep a time. -/
def firstSecond : Int64 := -2147483648

/-- The last second in which a disk can keep a time. -/
def lastSecond : Int64 := 15032385535

/-- A time as a disk keeps it. The first and the last second have no parts, and times outside them
become the nearer one. -/
def FileTime.kept (time : FileTime) : FileTime :=
  if time.floor ≤ firstSecond then .ofSeconds firstSecond
  else if lastSecond ≤ time.floor then .ofSeconds lastSecond
  else time

/-- The nodes of a tree, the directory that relative paths start from, and the time that changes
are given. -/
structure Disk where
  nodes : List (Location × Node) := []
  workingDir : Location := []
  clock : FileTime := .epoch
deriving DecidableEq

namespace Disk

/-- The node at a location. The root is always a directory. -/
def get? (disk : Disk) (loc : Location) : Option Node :=
  if loc = [] then some (.directory .epoch) else disk.nodes.lookup loc

/-- Puts a node at a location, in place of what is there. -/
def set (disk : Disk) (loc : Location) (node : Node) : Disk :=
  { disk with nodes := (loc, node) :: disk.nodes.filter (·.1 != loc) }

/-- Takes away what is at a location. -/
def erase (disk : Disk) (loc : Location) : Disk :=
  { disk with nodes := disk.nodes.filter (·.1 != loc) }

/-- The names in a directory with their nodes. -/
def children (disk : Disk) (dir : Location) : List (String × Node) :=
  disk.nodes.filterMap fun (loc, node) =>
    match loc with
    | name :: above => if above = dir then some (name, node) else none
    | [] => none

/-- Taking one location out of a table changes no other answer of it. -/
theorem lookup_filter_ne {nodes : List (Location × Node)} {loc other : Location}
    (h : other ≠ loc) : (nodes.filter (·.1 != loc)).lookup other = nodes.lookup other := by
  induction nodes with
  | nil => rfl
  | cons entry nodes ih =>
    obtain ⟨l, node⟩ := entry
    by_cases hl : l = loc
    · subst hl
      have : (other == l) = false := by simpa using h
      rw [List.filter_cons_of_neg (by simp), List.lookup_cons, this, ih]
    · have : (l != loc) = true := by simpa using hl
      rw [List.filter_cons_of_pos (by simpa using hl), List.lookup_cons, List.lookup_cons, ih]

/-- A location that was taken out of a table is not in it. -/
theorem lookup_filter_self (nodes : List (Location × Node)) (loc : Location) :
    (nodes.filter (·.1 != loc)).lookup loc = none := by
  rw [List.lookup_eq_none_iff]
  intro entry member
  have := (List.mem_filter.1 member).2
  simp only [bne_iff_ne, ne_eq] at this
  simpa using fun h => this h.symm

/-- Any location but the root holds the node that was set there. -/
theorem get?_set_self (disk : Disk) {loc : Location} (node : Node) (h : loc ≠ []) :
    (disk.set loc node).get? loc = some node := by
  simp [get?, set, h]

theorem get?_set_of_ne (disk : Disk) {loc other : Location} (node : Node) (h : other ≠ loc) :
    (disk.set loc node).get? other = disk.get? other := by
  have : (other == loc) = false := by simpa using h
  simp only [get?, set]
  split
  · rfl
  · rw [List.lookup_cons, this, lookup_filter_ne h]

theorem get?_erase_self (disk : Disk) {loc : Location} (h : loc ≠ []) :
    (disk.erase loc).get? loc = none := by
  simp [get?, erase, h, lookup_filter_self]

theorem get?_erase_of_ne (disk : Disk) {loc other : Location} (h : other ≠ loc) :
    (disk.erase loc).get? other = disk.get? other := by
  simp only [get?, erase]
  split
  · rfl
  · exact lookup_filter_ne h

end Disk

end BitcodeCache
