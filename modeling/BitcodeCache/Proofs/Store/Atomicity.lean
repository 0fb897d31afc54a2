import BitcodeCache.Proofs.Store.Reading

/-!
# Stores leave nothing behind

Wherever a store fails, the disk is as it was but for the directories that were made on the way, and
every file reads as before. A store that succeeds has changed one file besides, and has nothing but the
entry in it. No new file is there, under the name of a temporary one or any other.
-/

namespace BitcodeCache

open Disk

namespace Store

variable {disk disk' : Disk} {path : Path} {content : Bytes → Prop} {result : Except WriteError Unit}

/-- All files after a store were there before it, but for the one at the path of a store that
succeeded. -/
theorem Effect.file_of_file (h : Effect disk path content result disk') {loc : Location}
    {bytes : Bytes} {time : FileTime} (there : disk'.get? loc = some (.file bytes time)) :
    disk.get? loc = some (.file bytes time) ∨
      result = .ok () ∧ loc = path.location disk.workingDir := by
  cases ran : result with
  | error e => exact .inl ((h.file_iff (.inr ⟨e, ran⟩)).1 there)
  | ok _ =>
    by_cases here : loc = path.location disk.workingDir
    · exact .inr ⟨rfl, here⟩
    · exact .inl ((h.file_iff (.inl here)).1 there)

/-- What is there after a store, node by node and by its path. -/
theorem Effect.course : Effect disk path content result disk' →
    match result with
    | .error _ => Grows (directoryOf path) disk disk'
    | .ok () => ∃ bytes grown, content bytes ∧ disk'.read path = .ok bytes ∧
        Grows (directoryOf path) disk grown ∧
        grown.Becomes (path.location disk.workingDir) (some (.file bytes disk.clock)) disk' := by
  intro h
  have workingDir := h.workingDir
  cases h with
  | failed grows => exact grows
  | @stored bytes grown _ right grows _ becomes reached =>
    refine ⟨bytes, grown, right, read_eq_ok_iff.2 ⟨reached, disk.clock, ?_⟩, grows, becomes⟩
    rw [workingDir]
    exact becomes.there

end Store

open Store in
/-- Where a store fails, whatever it has written by then, the disk has directories above the path
where nothing was, and is the same elsewhere. Where it succeeds the file at the path is the entry, and
everything else is as after a store that fails. No other file is new in either case. -/
theorem store_all_or_nothing (c : Circumstances) (disk : Disk) (path : Path)
    (fingerprint : Fingerprint) (artifact : Artifact) :
    let outcome := store c disk path fingerprint artifact
    let target := path.location disk.workingDir
    (∀ loc bytes time, outcome.disk.get? loc = some (.file bytes time) →
      disk.get? loc = some (.file bytes time) ∨ outcome.result = .ok () ∧ loc = target) ∧
    (∀ other bytes, other.location disk.workingDir ≠ target ∨ outcome.result ≠ .ok () →
      disk.read other = .ok bytes → outcome.disk.read other = .ok bytes) ∧
    (match outcome.result with
    | .error _ => Grows (directoryOf path) disk outcome.disk
    | .ok () => ∃ bytes grown, Entry.encode artifact fingerprint = .ok bytes ∧
        outcome.disk.read path = .ok bytes ∧ Grows (directoryOf path) disk grown ∧
        grown.Becomes target (some (.file bytes disk.clock)) outcome.disk) ∧
    ∀ written cause, ∃ e grown, writeFilled c disk path written (some cause) = (.error e, grown) ∧
      Grows (directoryOf path) disk grown := by
  intro outcome target
  have effect : Effect disk path (fun bytes => Entry.encode artifact fingerprint = .ok bytes)
      outcome.result outcome.disk := store_effect c disk path fingerprint artifact
  refine ⟨fun loc bytes time there => effect.file_of_file there, ?_, effect.course, ?_⟩
  · intro other bytes kept readable
    apply effect.read_of_read (kept.imp_right ?_) readable
    intro failed
    cases ran : outcome.result with
    | error e => exact ⟨e, rfl⟩
    | ok _ => exact absurd ran failed
  · intro written cause
    have partly := writeFilled_effect c disk path written (some cause)
    generalize writeFilled c disk path written (some cause) = ending at partly
    obtain ⟨result, grown⟩ := ending
    cases partly with
    | failed grows => exact ⟨_, _, rfl, grows⟩
    | stored right => cases right.2

end BitcodeCache
