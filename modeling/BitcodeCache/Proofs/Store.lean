import BitcodeCache.Proofs.Disk.Operations
import BitcodeCache.Store

/-!
# Stores put all or nothing

A store puts its bytes at its path, or nothing anywhere; all it may leave besides are the
directories that it made on the way. The temporary file is gone in every case, also where it has
already taken some of the bytes: `writeFilled` fills it with any content before it fails, and
`writeAtomically` is the case that all bytes are written at once.
-/

namespace BitcodeCache

open Disk

theorem unlessRefused_eq_ok_iff {α : Type} {refusal : Option FileError} {x : Except FileError α}
    {a : α} : unlessRefused refusal x = .ok a ↔ refusal = none ∧ x = .ok a := by
  cases refusal with
  | none => simp [unlessRefused]
  | some cause => simp [unlessRefused]

namespace Store

variable {c : Circumstances} {disk disk' : Disk} {temporary : Path} {loc : Location}

/-! ## Temporary files -/

/-- The temporary file of a store: an empty file where nothing was. -/
structure Opened (disk : Disk) (temporary : Path) (loc : Location) (disk' : Disk) : Prop where
  names : disk.Names temporary loc
  free : disk.get? loc = none
  becomes : disk.Becomes loc (some (.file [] disk.clock)) disk'

/-- A temporary file that could be made is empty, and nothing was at its place. -/
theorem createAt_spec {path : Path} (h : createAt disk path = .ok disk') :
    ∃ loc, Opened disk path loc disk' := by
  unfold createAt at h
  split at h
  · cases h
  · obtain ⟨loc, names, free, becomes⟩ := create_spec h
    exact ⟨loc, names, free, becomes⟩

/-- A temporary file was made with one of the random parts. -/
theorem createAt_of_createTemporary {dir : Path} {name : String} {n : Nat}
    (h : createTemporary c disk dir name n = .ok (temporary, disk')) :
    ∃ k, temporary = dir.join ⟨temporaryName name (c.tag k)⟩ ∧
      createAt disk temporary = .ok disk' := by
  induction n with
  | zero => cases h
  | succ n ih =>
    rw [createTemporary] at h
    split at h
    · rename_i made
      cases h
      exact ⟨n, rfl, (unlessRefused_eq_ok_iff.1 made).2⟩
    · split at h
      · exact ih h
      · cases h

/-- Whichever random part was free, the temporary file is a new one. -/
theorem createTemporary_spec {dir : Path} {name : String} {n : Nat}
    (h : createTemporary c disk dir name n = .ok (temporary, disk')) :
    ∃ loc, Opened disk temporary loc disk' := by
  obtain ⟨_, _, made⟩ := createAt_of_createTemporary h
  exact createAt_spec made

/-- Whatever was written to it, the temporary file can be taken away. -/
theorem Opened.discard_eq {opened disk' : Disk} (h : Opened disk temporary loc opened)
    {content : Bytes} {time : FileTime}
    (becomes : disk.Becomes loc (some (.file content time)) disk') :
    discard disk' temporary = disk'.erase loc := by
  have keeps := becomes.keepsDirectories (by simp [h.free])
  have removed : disk'.remove temporary = .ok (disk'.erase loc) :=
    remove_eq_ok_iff.2 ⟨loc, content, time, h.names.mono keeps, becomes.there, rfl⟩
  rw [discard, removed]

/-- A temporary file that is taken away leaves nothing where nothing was. -/
theorem Opened.discard {opened disk' : Disk} (h : Opened disk temporary loc opened)
    {content : Bytes} {time : FileTime}
    (becomes : disk.Becomes loc (some (.file content time)) disk') :
    disk.Becomes loc none (discard disk' temporary) := by
  rw [h.discard_eq becomes]
  exact becomes.trans (becomes_erase (ne_nil_of_not_directory disk (by simp [h.free])))

/-- What is appended to a new temporary file is its content. -/
theorem Opened.append {opened : Disk} (h : Opened disk temporary loc opened) (content : Bytes) :
    opened.append temporary content = .ok (opened.set loc (.file content disk.clock)) := by
  have keeps := h.becomes.keepsDirectories (by simp [h.free])
  rw [Disk.append, edit_of_file (h.names.mono keeps).locate h.becomes.there, h.becomes.clock]
  rfl

/-- Writing to the temporary file changes nothing else. -/
theorem Opened.filled {opened : Disk} (h : Opened disk temporary loc opened) (content : Bytes) :
    disk.Becomes loc (some (.file content disk.clock))
      (opened.set loc (.file content disk.clock)) :=
  h.becomes.trans (becomes_set _ (ne_nil_of_not_directory disk (by simp [h.free])))

/-- What was written does not matter once the temporary file is taken away. -/
theorem Opened.discard_set {opened : Disk} (h : Opened disk temporary loc opened)
    (content : Bytes) : Store.discard (opened.set loc (.file content disk.clock)) temporary =
      Store.discard opened temporary := by
  rw [h.discard_eq (h.filled content), h.discard_eq h.becomes]
  simp [Disk.set, Disk.erase]

/-- A full temporary file that takes a place is all that changed there and elsewhere, and the path
of that place leads to it. -/
theorem Opened.rename {opened full : Disk} (h : Opened disk temporary loc opened) {bytes : Bytes}
    {path : Path} (becomes : disk.Becomes loc (some (.file bytes disk.clock)) full)
    (moved : full.rename temporary path = .ok disk') :
    (∀ time, disk.get? (path.location disk.workingDir) ≠ some (.directory time)) ∧
      disk.Becomes (path.location disk.workingDir) (some (.file bytes disk.clock)) disk' ∧
      ∃ loc, disk'.locate path = .ok loc := by
  have found : full.get? (temporary.location full.workingDir) = some (.file bytes disk.clock) := by
    rw [becomes.workingDir, ← h.names.eq_location, becomes.there]
  obtain ⟨⟨target, names⟩, free, mid, gone, put⟩ := rename_spec moved found
  have keeps := rename_keepsDirectories moved found
  rw [becomes.workingDir] at free gone put
  rw [← h.names.eq_location] at gone
  have gone := becomes.trans gone
  refine ⟨?_, ?_, target, (names.mono keeps).locate⟩
  · intro time isDirectory
    by_cases here : path.location disk.workingDir = loc
    · rw [here, h.free] at isDirectory
      cases isDirectory
    · exact free time ((becomes.others _ here).trans isDirectory)
  · refine ⟨?_, ?_, put.there, ?_⟩
    · rw [put.workingDir, gone.workingDir]
    · rw [put.clock, gone.clock]
    · intro other away
      rw [put.others other away, gone.get?_eq h.free]

/-! ## Whole stores -/

/-- What a store does to a disk. Its success means that the path leads to a file with such content,
in place of a file or of nothing. -/
inductive Effect (disk : Disk) (path : Path) (content : Bytes → Prop) :
    Except WriteError Unit → Disk → Prop where
  | failed {e : WriteError} {disk' : Disk} (grows : Grows (directoryOf path) disk disk') :
    Effect disk path content (.error e) disk'
  | stored {bytes : Bytes} {grown disk' : Disk} (right : content bytes)
    (grows : Grows (directoryOf path) disk grown)
    (free : ∀ time, grown.get? (path.location disk.workingDir) ≠ some (.directory time))
    (becomes : grown.Becomes (path.location disk.workingDir) (some (.file bytes disk.clock)) disk')
    (reached : ∃ loc, disk'.locate path = .ok loc) : Effect disk path content (.ok ()) disk'

/-- What is known of the stored content may be weakened. -/
theorem Effect.imp {path : Path} {content content' : Bytes → Prop} {result : Except WriteError Unit}
    (h : Effect disk path content result disk') (weaker : ∀ bytes, content bytes → content' bytes) :
    Effect disk path content' result disk' := by
  cases h with
  | failed grows => exact .failed grows
  | stored right grows free becomes reached =>
    exact .stored (weaker _ right) grows free becomes reached

/-- Puts a content at a path by way of a temporary file beside it, unless something fails once the
content is written. -/
def writeFilled (c : Circumstances) (disk : Disk) (path : Path) (content : Bytes)
    (failure : Option FileError) : Except WriteError Unit × Disk :=
  match path.fileName? with
  | none => (.error (.invalidPath path), disk)
  | some name =>
    let dir := directoryOf path
    match disk.makeDirs c.noDirectory dir with
    | (.error cause, disk) => (.error (.io dir cause), disk)
    | (.ok (), disk) =>
      match createTemporary c disk dir name attempts with
      | .error cause => (.error (.io dir cause), disk)
      | .ok (temporary, disk) =>
        match disk.append temporary content with
        | .error cause => (.error (.io path cause), discard disk temporary)
        | .ok disk =>
          match failure with
          | some cause => (.error (.io path cause), discard disk temporary)
          | none =>
            match unlessRefused c.noRename (disk.rename temporary path) with
            | .error cause => (.error (.rename temporary path cause), discard disk temporary)
            | .ok disk => (.ok (), disk)

/-- However filling and renaming end, the file at the path changes as a whole or not at all. -/
theorem writeFilled_effect (c : Circumstances) (disk : Disk) (path : Path) (content : Bytes)
    (failure : Option FileError) :
    Effect disk path (fun bytes => bytes = content ∧ failure = none)
      (writeFilled c disk path content failure).1 (writeFilled c disk path content failure).2 := by
  unfold writeFilled
  cases path.fileName? with
  | none => exact .failed (.refl _ _)
  | some name =>
    have made := (makeDirs_makes c.noDirectory disk (directoryOf path)).grows
    dsimp only
    generalize disk.makeDirs c.noDirectory (directoryOf path) = outcome at made ⊢
    obtain ⟨result, grown⟩ := outcome
    cases result with
    | error cause => exact .failed made
    | ok _ =>
      dsimp only at made ⊢
      cases opens : createTemporary c grown (directoryOf path) name attempts with
      | error cause => exact .failed made
      | ok temporary =>
        obtain ⟨temporary, opened⟩ := temporary
        obtain ⟨loc, isOpened⟩ := createTemporary_spec opens
        have filled := isOpened.filled content
        have discarded := made.becomes (isOpened.discard filled) isOpened.free
        dsimp only
        rw [isOpened.append]
        cases failure with
        | some cause => exact .failed discarded
        | none =>
          dsimp only
          cases moved : unlessRefused c.noRename
              ((opened.set loc (.file content grown.clock)).rename temporary path) with
          | error cause => exact .failed discarded
          | ok stored =>
            obtain ⟨_, moved⟩ := unlessRefused_eq_ok_iff.1 moved
            obtain ⟨free, put, reached⟩ := isOpened.rename filled moved
            rw [made.workingDir] at free put
            rw [made.clock] at put
            exact .stored ⟨rfl, rfl⟩ made free put reached

/-- A store writes all of its bytes or none of them. -/
theorem writeAtomically_eq_writeFilled (c : Circumstances) (disk : Disk) (path : Path)
    (bytes : Bytes) : writeAtomically c disk path bytes =
      writeFilled c disk path (if c.noWrite = none then bytes else []) (c.noWrite.or c.noSync) := by
  unfold writeAtomically writeFilled
  cases path.fileName? with
  | none => rfl
  | some name =>
    dsimp only
    generalize disk.makeDirs c.noDirectory (directoryOf path) = outcome
    obtain ⟨result, grown⟩ := outcome
    cases result with
    | error cause => rfl
    | ok _ =>
      dsimp only
      cases opens : createTemporary c grown (directoryOf path) name attempts with
      | error cause => rfl
      | ok temporary =>
        obtain ⟨temporary, opened⟩ := temporary
        obtain ⟨loc, isOpened⟩ := createTemporary_spec opens
        dsimp only
        rw [fill, isOpened.append, isOpened.append]
        -- what was written before a failure goes with the temporary file
        cases c.noWrite with
        | some cause =>
          show (_, discard opened temporary) = (_, discard (opened.set _ _) temporary)
          rw [isOpened.discard_set]
        | none =>
          cases c.noSync with
          | some cause =>
            show (_, discard opened temporary) = (_, discard (opened.set _ _) temporary)
            rw [isOpened.discard_set]
          | none => rfl

/-- Writing a file is all or nothing. -/
theorem writeAtomically_effect (c : Circumstances) (disk : Disk) (path : Path) (bytes : Bytes) :
    Effect disk path (· = bytes) (writeAtomically c disk path bytes).1
      (writeAtomically c disk path bytes).2 := by
  rw [writeAtomically_eq_writeFilled]
  refine (writeFilled_effect ..).imp ?_
  rintro written ⟨rfl, unhindered⟩
  exact if_pos (Option.or_eq_none_iff.1 unhindered).1

end Store

section Encoded

variable (c : Circumstances) (disk : Disk) (path : Path) {fingerprint : Fingerprint}
  {artifact : Artifact}

/-- What cannot be encoded is refused before the disk is touched. -/
theorem store_of_encode_error {cause : EncodeError}
    (refused : Entry.encode artifact fingerprint = .error cause) :
    store c disk path fingerprint artifact = ⟨.error (.encode cause), disk, []⟩ := by
  unfold store
  rw [refused]

/-- Storing an artifact that can be encoded is writing its bytes. -/
theorem store_of_encode {bytes : Bytes} (encoded : Entry.encode artifact fingerprint = .ok bytes) :
    ((store c disk path fingerprint artifact).result,
      (store c disk path fingerprint artifact).disk) = Store.writeAtomically c disk path bytes := by
  unfold store
  rw [encoded]
  dsimp only
  generalize Store.writeAtomically c disk path bytes = ending
  obtain ⟨result, disk⟩ := ending
  cases result <;> rfl

/-- What is stored is the encoded entry. -/
theorem store_effect (fingerprint : Fingerprint) (artifact : Artifact) :
    Store.Effect disk path (fun bytes => Entry.encode artifact fingerprint = .ok bytes)
      (store c disk path fingerprint artifact).result
      (store c disk path fingerprint artifact).disk := by
  cases encoded : Entry.encode artifact fingerprint with
  | error cause =>
    rw [store_of_encode_error c disk path encoded]
    exact .failed (.refl _ _)
  | ok bytes =>
    have effect := Store.writeAtomically_effect c disk path bytes
    rw [← store_of_encode c disk path encoded] at effect
    exact effect.imp fun _ same => congrArg Except.ok same.symm

end Encoded

end BitcodeCache
