import BitcodeCache.Proofs.Entry.Encoding
import BitcodeCache.Proofs.Entry.Load
import BitcodeCache.Proofs.Lookup
import BitcodeCache.Proofs.Store

/-!
# Lookups after stores

A path that a store succeeded at reads as what was stored. All other files stay as they are, and so do
the ways to them: directories are only made where nothing was, and none goes away. So a lookup that hit
hits again after stores at other paths.
-/

namespace BitcodeCache

open Disk

/-! ## Files after stores -/

namespace Store

variable {disk disk' : Disk} {path other : Path} {content : Bytes → Prop} {bytes : Bytes}
  {result : Except WriteError Unit}

theorem Effect.workingDir (h : Effect disk path content result disk') :
    disk'.workingDir = disk.workingDir := by
  cases h with
  | failed grows => exact grows.workingDir
  | stored _ grows _ becomes _ => exact becomes.workingDir.trans grows.workingDir

/-- A store removes no directory, and puts no file in the place of one. -/
theorem Effect.keepsDirectories (h : Effect disk path content result disk') :
    KeepsDirectories disk disk' := by
  cases h with
  | failed grows => exact grows.keepsDirectories
  | stored _ grows free becomes _ => exact grows.keepsDirectories.trans (becomes.keepsDirectories free)

/-- A store that fails changes no file, and one that succeeds changes the one at its path. -/
theorem Effect.file_iff (h : Effect disk path content result disk') {loc : Location}
    (kept : loc ≠ path.location disk.workingDir ∨ ∃ e, result = .error e) {time : FileTime} :
    disk'.get? loc = some (.file bytes time) ↔ disk.get? loc = some (.file bytes time) := by
  have grown {mid : Disk} (grows : Grows (directoryOf path) disk mid) :
      mid.get? loc = some (.file bytes time) ↔ disk.get? loc = some (.file bytes time) := by
    rcases grows.nodes loc with same | ⟨free, made, _⟩
    · rw [same]
    · simp [free, made]
  cases h with
  | failed grows => exact grown grows
  | stored _ grows _ becomes _ =>
    rcases kept with away | ⟨e, failed⟩
    · rw [becomes.others loc away]
      exact grown grows
    · cases failed

/-- A file that could be read still can, unless a store that succeeded took its place. -/
theorem Effect.read_of_read (h : Effect disk path content result disk')
    (kept : other.location disk.workingDir ≠ path.location disk.workingDir ∨ ∃ e, result = .error e)
    (readable : disk.read other = .ok bytes) : disk'.read other = .ok bytes := by
  obtain ⟨⟨loc, located⟩, time, there⟩ := read_eq_ok_iff.1 readable
  apply read_eq_ok_iff.2
  refine ⟨⟨loc, h.keepsDirectories.locate located⟩, time, ?_⟩
  rw [h.workingDir]
  exact (h.file_iff kept).2 there

/-- What was stored is read back. -/
theorem Effect.read_self (h : Effect disk path content (.ok ()) disk') :
    ∃ bytes, content bytes ∧ disk'.read path = .ok bytes := by
  have workingDir := h.workingDir
  cases h with
  | @stored bytes _ _ right _ _ becomes reached =>
    refine ⟨bytes, right, read_eq_ok_iff.2 ⟨reached, disk.clock, ?_⟩⟩
    rw [workingDir]
    exact becomes.there

end Store

/-! ## Entries on disks -/

/-- A path leads to the entry of an artifact under a fingerprint. -/
def Disk.Holds (disk : Disk) (path : Path) (fingerprint : Fingerprint) (artifact : Artifact) : Prop :=
  ∃ bytes header, disk.read path = .ok bytes ∧ Entry.decode bytes = .ok ⟨header, artifact⟩ ∧
    header.fingerprint = fingerprint

variable {c : Circumstances} {disk : Disk} {path other : Path} {fingerprint : Fingerprint}
  {artifact : Artifact}

/-- Without a file at the path there is nothing to find. -/
theorem tryLoad_of_no_file (expected : Fingerprint)
    (free : ∀ bytes time, disk.get? (path.location disk.workingDir) ≠ some (.file bytes time)) :
    tryLoad disk path expected = .error .notFound := by
  cases readable : disk.read path with
  | error cause =>
    rw [tryLoad, readable]
    rfl
  | ok bytes =>
    obtain ⟨time, there⟩ := get?_of_read readable
    exact absurd there (free bytes time)

/-- A lookup depends on the file where the path leads, and finds nothing if it leads nowhere. -/
theorem tryLoad_eq_load (disk : Disk) (path : Path) (expected : Fingerprint) :
    tryLoad disk path expected =
      match disk.locate path with
      | .error _ => .error .notFound
      | .ok loc =>
        match disk.file? loc with
        | none => .error .notFound
        | some content => Entry.load content expected := by
  cases located : disk.locate path with
  | error cause =>
    rw [tryLoad, Disk.read, stat, located]
    rfl
  | ok loc =>
    dsimp only
    cases there : disk.file? loc with
    | none =>
      apply tryLoad_of_no_file
      intro bytes time found
      rw [← eq_of_locate located] at found
      rw [file?, found] at there
      cases there
    | some content =>
      obtain ⟨time, found⟩ := file?_eq_some_iff.1 there
      rw [eq_of_locate located] at found
      exact tryLoad_of_read (read_eq_ok_iff.2 ⟨⟨loc, located⟩, time, found⟩) expected

/-- A lookup of an entry is stale in the first field that differs, or hits. -/
theorem Disk.Holds.tryLoad_eq (h : disk.Holds path fingerprint artifact) :
    ∃ header, header.fingerprint = fingerprint ∧ ∀ expected, tryLoad disk path expected =
      match expected.firstMismatch? fingerprint with
      | some field => .error (.stale field)
      | none => .ok ⟨header, artifact⟩ := by
  obtain ⟨bytes, header, readable, decoded, rfl⟩ := h
  refine ⟨header, rfl, fun expected => ?_⟩
  rw [tryLoad_of_read readable, Entry.load_eq_decode, Entry.header_decode_of_decode decoded, decoded]
  rfl

/-- A hit shows that the disk holds the entry. -/
theorem Disk.holds_of_tryLoad {entry : Entry} (found : tryLoad disk path fingerprint = .ok entry) :
    disk.Holds path fingerprint entry.artifact := by
  cases readable : disk.read path with
  | error cause =>
    rw [tryLoad, readable] at found
    cases found
  | ok bytes =>
    rw [tryLoad_of_read readable] at found
    obtain ⟨decoded, own⟩ := Entry.load_eq_ok_iff.1 found
    exact ⟨bytes, entry.header, readable, decoded, own⟩

/-- A file with the encoded bytes of an artifact holds its entry. -/
theorem Disk.holds_of_read {bytes : Bytes} (readable : disk.read path = .ok bytes)
    (encoded : Entry.encode artifact fingerprint = .ok bytes)
    (limit : fingerprint.toolchain.length ≤ Signature.maxLength) (small : bytes.length < 2 ^ 63) :
    disk.Holds path fingerprint artifact := by
  obtain ⟨payload, written⟩ := Entry.encode_eq_ok_iff.1 encoded
  exact ⟨bytes, _, readable, written.decode limit (by omega), rfl⟩

/-- What a store that succeeded has stored is there. -/
theorem holds_of_store (stored : (store c disk path fingerprint artifact).result = .ok ())
    (limit : fingerprint.toolchain.length ≤ Signature.maxLength)
    (small : ∀ bytes, Entry.encode artifact fingerprint = .ok bytes → bytes.length < 2 ^ 63) :
    (store c disk path fingerprint artifact).disk.Holds path fingerprint artifact := by
  have effect := store_effect c disk path fingerprint artifact
  rw [stored] at effect
  obtain ⟨bytes, encoded, readable⟩ := effect.read_self
  exact Disk.holds_of_read readable encoded limit (small bytes encoded)

/-- An entry is still there after a store that fails or goes elsewhere. -/
theorem Disk.Holds.store {f : Fingerprint} {a : Artifact} (h : disk.Holds path fingerprint artifact)
    (kept : path.location disk.workingDir ≠ other.location disk.workingDir ∨
      ∃ e, (store c disk other f a).result = .error e) :
    (store c disk other f a).disk.Holds path fingerprint artifact := by
  obtain ⟨bytes, header, readable, decoded⟩ := h
  exact ⟨bytes, header, (store_effect c disk other f a).read_of_read kept readable, decoded⟩

end BitcodeCache
