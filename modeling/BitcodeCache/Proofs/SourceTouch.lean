import BitcodeCache.Proofs.FileTime
import BitcodeCache.Proofs.Fingerprint
import BitcodeCache.Proofs.Resolve
import Mathlib.Tactic.NormNum

/-!
# Touched sources

A source that was only touched has its old bytes under a new time. The seconds of a time are exact up to
what is cut off, so they tell times that are far enough apart, and then the modification time is the
first difference from the earlier fingerprint.
-/

namespace BitcodeCache

/-- With the same bytes and toolchain, only the time can tell two fingerprints. -/
theorem firstDifference_of_times (source : Bytes) (toolchain : Signature) {time time' : Int64}
    (differs : time' ≠ time) :
    FirstDifference (.ofSource source time' toolchain) (.ofSource source time toolchain) .modTime :=
  .modTime rfl rfl rfl differs

/-- A touched source has fingerprints before and after, and the time is what first tells them. -/
theorem firstMismatch?_of_apart {earlier now : Disk} {path : Path} {t u : FileTime}
    (timed : earlier.modified path = .ok t) (touched : now.modified path = .ok u)
    (apart : t.Apart u) (source : Bytes) (toolchain : Signature) :
    ∃ f g, Fingerprint.build (m := Id) earlier.modified source (.file path) toolchain = .ok f ∧
      Fingerprint.build (m := Id) now.modified source (.file path) toolchain = .ok g ∧
      g.firstMismatch? f = some .modTime :=
  ⟨.ofSource source t.seconds toolchain, .ofSource source u.seconds toolchain,
    Fingerprint.build_eq_ok_iff.2 ⟨_, .file timed, rfl⟩,
    Fingerprint.build_eq_ok_iff.2 ⟨_, .file touched, rfl⟩,
    firstDifference_iff.1 (firstDifference_of_times source toolchain apart.seconds_ne.symm)⟩

/-- The seconds of a time are its number cut towards zero, found without anything that wraps. They never
fall where the time rises, and they tell times a second apart on one side of the epoch, or two seconds
apart. A source file touched by so much is stale for its modification time. -/
theorem touch_told_by_time :
    (∀ t : FileTime, t.Course t.seconds ∧ t.seconds.toInt = towardsZero t.position) ∧
    (∀ t u : FileTime, t.position ≤ u.position → t.seconds ≤ u.seconds) ∧
    ∀ t u : FileTime, t.Apart u → t.seconds ≠ u.seconds ∧
      ∀ (earlier now : Disk) (path : Path),
        earlier.modified path = .ok t → now.modified path = .ok u →
        ∀ (source : Bytes) (toolchain : Signature), ∃ f g,
          Fingerprint.build (m := Id) earlier.modified source (.file path) toolchain = .ok f ∧
          Fingerprint.build (m := Id) now.modified source (.file path) toolchain = .ok g ∧
          g.firstMismatch? f = some .modTime := by
  refine ⟨fun t => ⟨t.course, t.toInt_seconds⟩, fun t u => FileTime.seconds_mono, ?_⟩
  intro t u apart
  refine ⟨apart.seconds_ne, ?_⟩
  intro earlier now path timed touched source toolchain
  exact firstMismatch?_of_apart timed touched apart source toolchain

/-! ## A source from before the epoch -/

namespace EarlySource

/-- A nanosecond above the second before the last one before the epoch. -/
def time : FileTime := { floor := -2, nanos := 1 }

/-- One second later. -/
def later : FileTime := { floor := -1, nanos := 1 }

def disk : Disk := { nodes := [(["s.c"], .file [120] time)] }

def touched : Disk := { nodes := [(["s.c"], .file [120] later)] }

def toolchain : Signature := ⟨[116]⟩

/-- The source is from nearly two seconds before the epoch. -/
theorem position_time : time.position = -1999999999 / 1000000000 := by
  have floor : time.floor.toInt = -2 := rfl
  rw [FileTime.position, floor, partOfSecond]
  norm_num [time]

/-- It is touched a second later. -/
theorem position_later : later.position = -999999999 / 1000000000 := by
  have floor : later.floor.toInt = -1 := rfl
  rw [FileTime.position, floor, partOfSecond]
  norm_num [later]

end EarlySource

open EarlySource in
theorem touch_told_by_time_early :
    time.position ≤ later.position ∧ time.seconds ≤ later.seconds ∧
      time.Apart later ∧ time.seconds ≠ later.seconds ∧
      disk.modified ⟨"s.c"⟩ = .ok time ∧ touched.modified ⟨"s.c"⟩ = .ok later ∧
      ∃ f g,
        Fingerprint.build (m := Id) disk.modified [120] (.file ⟨"s.c"⟩) toolchain = .ok f ∧
        Fingerprint.build (m := Id) touched.modified [120] (.file ⟨"s.c"⟩) toolchain = .ok g ∧
        g.firstMismatch? f = some .modTime := by
  obtain ⟨_, mono, told⟩ := touch_told_by_time
  have ordered : time.position ≤ later.position := by
    rw [position_time, position_later]
    norm_num
  have apart : time.Apart later := by
    unfold FileTime.Apart FileTime.OneSided
    rw [position_time, position_later]
    norm_num
  have timed : disk.modified ⟨"s.c"⟩ = .ok time := by with_unfolding_all rfl
  have again : touched.modified ⟨"s.c"⟩ = .ok later := by with_unfolding_all rfl
  obtain ⟨differs, stale⟩ := told time later apart
  exact ⟨ordered, mono _ _ ordered, apart, differs, timed, again,
    stale disk touched _ timed again [120] toolchain⟩

end BitcodeCache
