import BitcodeCache.Proofs.Entry.Classification
import BitcodeCache.Proofs.Resolve.Calls

/-!
# Small edits of a source

An edit of a source that keeps its length and changes no bits outside a window of 32 changes its
checksum. The checksum is compared before the digest and the time, and before anything behind the header
of an entry is read: so an entry of the source is stale for what was edited, whatever else is in it, and
the compiler is called.
-/

namespace BitcodeCache

/-- The checksum is what first tells an edited source, wherever the two came from. -/
theorem firstDifference_of_edit {source edited : Bytes} (edit : source.DiffersWithin 32 edited)
    (toolchain : Signature) (time time' : Int64) :
    FirstDifference (.ofSource edited time' toolchain) (.ofSource source time toolchain) .crc32 ∧
      FirstDifference (.ofSource source time toolchain) (.ofSource edited time' toolchain) .crc32 :=
  ⟨.crc32 rfl (crc32_ne_of_differsWithin edit), .crc32 rfl (crc32_ne_of_differsWithin edit).symm⟩

/-- An entry is stale in the first field in which its fingerprint differs from the expected one. -/
theorem tryLoad_of_firstDifference {artifact : Artifact} {written expected : Fingerprint}
    {bytes : Bytes} {field : StaleField} {disk : Disk} {path : Path}
    (limit : written.toolchain.length ≤ Signature.maxLength)
    (encoded : Entry.encode artifact written = .ok bytes)
    (differs : FirstDifference expected written field) (readable : disk.read path = .ok bytes) :
    tryLoad disk path expected = .error (.stale field) := by
  obtain ⟨payload, entry⟩ := Entry.encode_eq_ok_iff.1 encoded
  have current : (Header.forPayload written payload).IsCurrent := ⟨rfl, limit⟩
  rw [tryLoad_of_read readable]
  exact Entry.load_of_firstDifference (Format.opensWith_iff.2 ⟨current, payload, entry.bytes⟩) differs

/-- Other bytes in the place of four or fewer are such an edit. Under one toolchain, the fingerprints of
a source and of what was edited have different checksums, and these are their first difference. A lookup
for one of them in an entry of the other is stale by the checksum, and a call for what was edited calls
the compiler, once. -/
theorem edit_told_by_checksum :
    (∀ before after replaced bytes : Bytes, bytes.length = replaced.length → replaced.length ≤ 4 →
      bytes ≠ replaced →
      Bytes.DiffersWithin 32 (before ++ replaced ++ after) (before ++ bytes ++ after)) ∧
    ∀ source edited : Bytes, source.DiffersWithin 32 edited →
      ∀ (earlier now : Disk) (origin origin' : Origin) (toolchain : Signature) (f g : Fingerprint),
        Fingerprint.build (m := Id) earlier.modified source origin toolchain = .ok f →
        Fingerprint.build (m := Id) now.modified edited origin' toolchain = .ok g →
        f.crc32 ≠ g.crc32 ∧ f.firstMismatch? g = some .crc32 ∧ g.firstMismatch? f = some .crc32 ∧
        (toolchain.length ≤ Signature.maxLength → ∀ (artifact : Artifact) (bytes : Bytes),
          (Entry.encode artifact f = .ok bytes → ∀ disk path, disk.read path = .ok bytes →
            tryLoad disk path g = .error (.stale .crc32)) ∧
          (Entry.encode artifact g = .ok bytes → ∀ disk path, disk.read path = .ok bytes →
            tryLoad disk path f = .error (.stale .crc32)) ∧
          (Entry.encode artifact f = .ok bytes → ∀ c path compile, now.read path = .ok bytes →
            Resolve.calls c now false ⟨edited, origin'⟩ toolchain path compile = [edited])) := by
  refine ⟨?_, ?_⟩
  · intro before after replaced bytes length short other
    exact .of_append length other (by omega)
  · intro source edited edit earlier now origin origin' toolchain f g built rebuilt
    obtain ⟨time, rfl⟩ := Fingerprint.eq_ofSource_of_build built
    obtain ⟨time', rfl⟩ := Fingerprint.eq_ofSource_of_build rebuilt
    obtain ⟨differs, differed⟩ := firstDifference_of_edit edit toolchain time time'
    refine ⟨(crc32_ne_of_differsWithin edit).symm, firstDifference_iff.1 differed,
      firstDifference_iff.1 differs, fun limit artifact bytes => ⟨?_, ?_, ?_⟩⟩
    · intro encoded disk path readable
      exact tryLoad_of_firstDifference limit encoded differs readable
    · intro encoded disk path readable
      exact tryLoad_of_firstDifference limit encoded differed readable
    · intro encoded c path compile readable
      have stale := tryLoad_of_firstDifference limit encoded differs readable
      exact Resolve.calls_of_unserved rebuilt (.inr ⟨_, stale⟩)

/-! ## A digit of a script -/

namespace EditedDigit

/-- The script `x = 1;` and a line feed. -/
def source : Bytes := [120, 32, 61, 32] ++ [49] ++ [59, 10]

/-- The script with another digit. -/
def edited : Bytes := [120, 32, 61, 32] ++ [50] ++ [59, 10]

def toolchain : Signature := ⟨[1, 2]⟩

/-- The sample artifact under the fingerprint of the script. -/
def entry : Bytes :=
  (Header.forPayload (.ofSource source 7 toolchain) Format.Sample.payload).bytes ++
    Format.Sample.payload

/-- A disk with the entry of the script and the edited script, which was not given a new time. -/
def disk : Disk where
  nodes := [(["s.oBCC"], .file entry .epoch), (["s.c"], .file edited (.ofSeconds 7))]

/-- A compiler that refuses everything. -/
def compiler : Compiler := fun _ => .error "refused"

end EditedDigit

open EditedDigit in
theorem edit_told_by_checksum_digit :
    source.DiffersWithin 32 edited ∧
      Fingerprint.build (m := Id) disk.modified source (.modTime 7) toolchain =
        .ok (.ofSource source 7 toolchain) ∧
      Fingerprint.build (m := Id) disk.modified edited (.file ⟨"s.c"⟩) toolchain =
        .ok (.ofSource edited 7 toolchain) ∧
      toolchain.length ≤ Signature.maxLength ∧
      Entry.encode Format.Sample.artifact (.ofSource source 7 toolchain) = .ok entry ∧
      disk.read ⟨"s.oBCC"⟩ = .ok entry ∧
      tryLoad disk ⟨"s.oBCC"⟩ (.ofSource edited 7 toolchain) = .error (.stale .crc32) ∧
      Resolve.calls {} disk false ⟨edited, .file ⟨"s.c"⟩⟩ toolchain ⟨"s.oBCC"⟩ compiler = [edited] := by
  obtain ⟨replaced, told⟩ := edit_told_by_checksum
  have edit : source.DiffersWithin 32 edited :=
    replaced [120, 32, 61, 32] [59, 10] [49] [50] rfl (by decide) (by decide)
  have timed : disk.modified ⟨"s.c"⟩ = .ok (.ofSeconds 7) := by with_unfolding_all rfl
  have built : Fingerprint.build (m := Id) disk.modified source (.modTime 7) toolchain =
      .ok (.ofSource source 7 toolchain) := rfl
  have rebuilt : Fingerprint.build (m := Id) disk.modified edited (.file ⟨"s.c"⟩) toolchain =
      .ok (.ofSource edited 7 toolchain) := Fingerprint.build_eq_ok_iff.2 ⟨7, .file timed, rfl⟩
  have readable : disk.read ⟨"s.oBCC"⟩ = .ok entry := by with_unfolding_all rfl
  have encoded : Entry.encode Format.Sample.artifact (.ofSource source 7 toolchain) = .ok entry :=
    Entry.encode_eq_ok_iff.2 ⟨_, Entry.written_sample (by decide)⟩
  obtain ⟨_, _, _, entries⟩ := told source edited edit disk disk _ _ toolchain _ _ built rebuilt
  have limit : toolchain.length ≤ Signature.maxLength := by decide
  obtain ⟨stale, _, called⟩ := entries limit Format.Sample.artifact entry
  exact ⟨edit, built, rebuilt, limit, encoded, readable, stale encoded _ _ readable,
    called encoded _ _ compiler readable⟩

end BitcodeCache
