import BitcodeCache.Proofs.Entry.Damage
import BitcodeCache.Proofs.Entry.Fault
import BitcodeCache.Proofs.Fingerprint
import BitcodeCache.Proofs.Lookup

/-!
# What a lookup makes of a file

The bytes that a lookup goes by are at the front of the file: the first four tell a foreign file, the
first eight another version, and the header a stale entry. `Verdict` lists the answers, each with the
bytes that it rests on. Only behind a header with the expected fingerprint is anything else looked at,
so what is wrong there is neither reported for a stale entry nor in its place.
-/

namespace BitcodeCache

namespace Format

/-- At least four bytes that do not open with the letters `oBCC`. -/
def IsForeign (content : Bytes) : Prop :=
  4 ≤ content.length ∧ content.take 4 ≠ [0x6F, 0x42, 0x43, 0x43]

/-- The letters, and behind them a version. -/
def HasVersion (content : Bytes) (version : UInt32) : Prop :=
  [0x6F, 0x42, 0x43, 0x43] ++ Bytes.ofUInt32 version <+: content

/-- A whole header at the front. -/
def OpensWith (content : Bytes) (h : Header) : Prop := ∃ field, IsHeader field h ∧ field <+: content

theorem ofUInt32_magic : Bytes.ofUInt32 Header.magic = [0x6F, 0x42, 0x43, 0x43] := rfl

/-- A foreign file starts with four bytes that are another word than the magic one. -/
theorem isForeign_iff {content : Bytes} : IsForeign content ↔
    ∃ found rest, found ≠ Header.magic ∧ content = Bytes.ofUInt32 found ++ rest := by
  constructor
  · rintro ⟨length, other⟩
    have word : (content.take 4).length = 4 := List.length_take_of_le length
    have same := Bytes.ofUInt32_toUInt32 word
    refine ⟨Bytes.toUInt32 (content.take 4), content.drop 4, fun magic => other ?_, ?_⟩
    · rw [← same, magic, ofUInt32_magic]
    · rw [same, List.take_append_drop]
  · rintro ⟨found, rest, other, rfl⟩
    refine ⟨by simp, fun letters => other ?_⟩
    rw [List.take_left' (Bytes.length_ofUInt32 found), ← ofUInt32_magic] at letters
    rw [← Bytes.toUInt32_ofUInt32 found, letters, Bytes.toUInt32_ofUInt32]

/-- A version stands behind the magic word. -/
theorem hasVersion_iff {content : Bytes} {version : UInt32} : HasVersion content version ↔
    ∃ rest, content = Bytes.ofUInt32 Header.magic ++ (Bytes.ofUInt32 version ++ rest) := by
  simp only [HasVersion, List.IsPrefix, ofUInt32_magic, List.append_assoc, @eq_comm _ content]

/-- A file opens with a header exactly if the header is current and its bytes come first. -/
theorem opensWith_iff {content : Bytes} {h : Header} :
    OpensWith content h ↔ h.IsCurrent ∧ ∃ rest, content = h.bytes ++ rest := by
  simp only [OpensWith, isHeader_iff, List.IsPrefix]
  constructor
  · rintro ⟨_, ⟨current, rfl⟩, rest, rfl⟩
    exact ⟨current, rest, rfl⟩
  · rintro ⟨current, rest, rfl⟩
    exact ⟨h.bytes, ⟨current, rfl⟩, rest, rfl⟩

end Format

open Format

/-! ## Headers -/

namespace Header

open FieldReader

/-- Takes the fields behind the version. -/
def readFields (version : UInt32) : FieldReader Header := do
  let contentDigest ← digest .header
  let modTime ← int64 .header
  let crc32 ← word32 .header
  let length ← word32 .header
  require (length.toNat ≤ Signature.maxLength)
    (.badLength .signature (.overLimit length.toNat Signature.maxLength))
  let signature ← take .signature length.toNat
  let payloadLength ← word64 .header
  let payloadChecksum ← word32 .header
  pure ⟨version, ⟨contentDigest, modTime, crc32, ⟨signature⟩⟩, payloadLength, payloadChecksum⟩

/-- Behind the version, a header fails with damage only. -/
theorem failsDamaged_readFields (version : UInt32) : FailsDamaged (readFields version) :=
  (FailsDamaged.digest _).bind fun _ => (FailsDamaged.int64 _).bind fun _ =>
    (FailsDamaged.word32 _).bind fun _ => (FailsDamaged.word32 _).bind fun _ =>
    (FailsDamaged.require rfl).bind fun _ => (FailsDamaged.take _ _).bind fun _ =>
    (FailsDamaged.word64 _).bind fun _ => (FailsDamaged.word32 _).bind fun _ => .pure _

/-- Takes a version, and the fields behind the version of the format. -/
def readVersion : FieldReader Header := do
  let version ← word32 .header
  require (version == formatVersion) (.unsupportedVersion version formatVersion)
  readFields version

/-- The first word decides whether anything else is read. -/
theorem read_ofUInt32_append (found : UInt32) (rest : Bytes) :
    read (Bytes.ofUInt32 found ++ rest) =
      if found = magic then readVersion rest else .error (.badMagic found) := by
  rw [read, bind_of_ok (word32_eq_ok_iff.2 rfl), require_bind]
  simp only [beq_iff_eq]
  rfl

/-- The second word decides whether the fields are read. -/
theorem readVersion_ofUInt32_append (version : UInt32) (rest : Bytes) :
    readVersion (Bytes.ofUInt32 version ++ rest) =
      if version = formatVersion then readFields version rest
      else .error (.unsupportedVersion version formatVersion) := by
  rw [readVersion, bind_of_ok (word32_eq_ok_iff.2 rfl), require_bind]
  simp only [beq_iff_eq]

/-- Without another magic number or version, no header is read for damage only. -/
theorem onlyDamage_decode {content : Bytes} (own : ¬ IsForeign content)
    (same : ∀ version, HasVersion content version → version = formatVersion) :
    OnlyDamage (decode content) := by
  refine OnlyDamage.map ?_ _
  cases start : word32 .header content with
  | error fault =>
    rw [read, bind_apply, start]
    exact .error (FailsDamaged.word32 .header content fault start)
  | ok p =>
    obtain ⟨found, rest⟩ := p
    obtain rfl := word32_eq_ok_iff.1 start
    obtain rfl : found = magic := by
      by_contra other
      exact own (isForeign_iff.2 ⟨found, rest, other, rfl⟩)
    cases next : word32 .header rest with
    | error fault =>
      rw [read_ofUInt32_append, if_pos rfl, readVersion, bind_apply, next]
      exact .error (FailsDamaged.word32 .header rest fault next)
    | ok p =>
      obtain ⟨version, rest⟩ := p
      obtain rfl := word32_eq_ok_iff.1 next
      obtain rfl := same version (hasVersion_iff.2 ⟨rest, rfl⟩)
      rw [read_ofUInt32_append, if_pos rfl, readVersion_ofUInt32_append, if_pos rfl]
      exact failsDamaged_readFields formatVersion rest

end Header

/-! ## Answers -/

namespace Entry

variable {content : Bytes} {expected : Fingerprint}

/-- Another kind of file is told by its first four bytes. -/
theorem load_of_isForeign (foreign : IsForeign content) :
    load content expected = .error .foreignFile := by
  obtain ⟨found, rest, other, rfl⟩ := isForeign_iff.1 foreign
  rw [load_eq_decode, Header.decode, Header.read_ofUInt32_append, if_neg other]
  rfl

/-- Another version is told by the first eight bytes, whatever the header has else. -/
theorem load_of_hasVersion {version : UInt32} (skewed : HasVersion content version)
    (other : version ≠ 1) : load content expected = .error (.versionSkew version 1) := by
  obtain ⟨rest, rfl⟩ := hasVersion_iff.1 skewed
  have refused : ¬ version = Header.formatVersion := other
  rw [load_eq_decode, Header.decode, Header.read_ofUInt32_append, if_pos rfl,
    Header.readVersion_ofUInt32_append, if_neg refused]
  rfl

/-- A header of another fingerprint is stale before the payload is looked at. -/
theorem load_of_firstDifference {h : Header} {field : StaleField} (opens : OpensWith content h)
    (differs : FirstDifference expected h.fingerprint field) :
    load content expected = .error (.stale field) := by
  obtain ⟨current, rest, rfl⟩ := opensWith_iff.1 opens
  rw [load_eq_decode, Header.decode_bytes_append current]
  dsimp only
  rw [firstDifference_iff.1 differs]

/-- What a lookup answers, with the bytes at the front of the content that the answer rests on. -/
inductive Verdict (content : Bytes) (expected : Fingerprint) : Except Miss Entry → Prop where
  | foreign (foreign : IsForeign content) : Verdict content expected (.error .foreignFile)
  | skewed {version : UInt32} (skewed : HasVersion content version) (other : version ≠ 1) :
    Verdict content expected (.error (.versionSkew version 1))
  | stale {h : Header} {field : StaleField} (opens : OpensWith content h)
    (differs : FirstDifference expected h.fingerprint field) :
    Verdict content expected (.error (.stale field))
  | damaged (fault : DecodeError) : Verdict content expected (.error (.corrupt fault))
  | hit (entry : Entry) : Verdict content expected (.ok entry)

/-- A decoding that fails with damage only is a hit or a corrupt entry. -/
theorem verdict_of_onlyDamage {result : Except DecodeError Entry} (damage : OnlyDamage result) :
    Verdict content expected (Miss.ofDecoded result) := by
  cases result with
  | ok entry => exact .hit entry
  | error fault =>
    rw [Miss.ofDecoded, Miss.ofDecodeError_of_isDamage (damage fault rfl)]
    exact .damaged fault

/-- Every lookup comes to one of the five answers, and to the first three only for their reasons. -/
theorem verdict (content : Bytes) (expected : Fingerprint) :
    Verdict content expected (load content expected) := by
  by_cases foreign : IsForeign content
  · rw [load_of_isForeign foreign]
    exact .foreign foreign
  by_cases skewed : ∃ version, HasVersion content version ∧ version ≠ 1
  · obtain ⟨version, skewed, other⟩ := skewed
    rw [load_of_hasVersion skewed other]
    exact .skewed skewed other
  have same (version : UInt32) (has : HasVersion content version) : version = 1 := by
    by_contra other
    exact skewed ⟨version, has, other⟩
  -- the first two fields settle nothing, so a header that is not read is a damaged one
  have damage := Header.onlyDamage_decode foreign same
  rw [load_eq_decode]
  cases start : Header.decode content with
  | error fault =>
    dsimp only
    rw [Miss.ofDecodeError_of_isDamage (damage fault start)]
    exact .damaged fault
  | ok h =>
    obtain ⟨⟨_, rest⟩, read, rfl⟩ := except_map_eq_ok_iff.1 start
    obtain ⟨current, rfl⟩ := Header.read_eq_ok_iff.1 read
    dsimp only
    cases mismatch : expected.firstMismatch? _ with
    | some field => exact .stale (opensWith_iff.2 ⟨current, rest, rfl⟩) (firstDifference_iff.2 mismatch)
    | none => exact verdict_of_onlyDamage (onlyDamage_decode_bytes_append current rest)

theorem load_eq_foreignFile_iff :
    load content expected = .error .foreignFile ↔ IsForeign content := by
  refine ⟨fun answer => ?_, load_of_isForeign⟩
  have known := verdict content expected
  rw [answer] at known
  cases known with
  | foreign foreign => exact foreign

theorem load_eq_versionSkew_iff {found supported : UInt32} :
    load content expected = .error (.versionSkew found supported) ↔
      HasVersion content found ∧ found ≠ 1 ∧ supported = 1 := by
  constructor
  · intro answer
    have known := verdict content expected
    rw [answer] at known
    cases known with
    | skewed skewed other => exact ⟨skewed, other, rfl⟩
  · rintro ⟨skewed, other, rfl⟩
    exact load_of_hasVersion skewed other

theorem load_eq_stale_iff {field : StaleField} : load content expected = .error (.stale field) ↔
    ∃ header, OpensWith content header ∧ FirstDifference expected header.fingerprint field := by
  constructor
  · intro answer
    have known := verdict content expected
    rw [answer] at known
    cases known with
    | stale opens differs => exact ⟨_, opens, differs⟩
  · rintro ⟨header, opens, differs⟩
    exact load_of_firstDifference opens differs

/-- Where the front of a content settles nothing, the content is loaded or damaged. -/
theorem load_of_unsettled (own : ¬ IsForeign content)
    (same : ∀ version, HasVersion content version → version = 1)
    (fresh : ∀ header, OpensWith content header → header.fingerprint = expected) :
    (∃ entry, load content expected = .ok entry) ∨
      ∃ fault, load content expected = .error (.corrupt fault) := by
  have known := verdict content expected
  generalize load content expected = answer at known ⊢
  cases known with
  | foreign foreign => exact absurd foreign own
  | skewed skewed other => exact absurd (same _ skewed) other
  | stale opens differs =>
    obtain rfl := fresh _ opens
    rw [firstDifference_iff, Fingerprint.firstMismatch?_eq_none_iff.2 rfl] at differs
    cases differs
  | damaged fault => exact .inr ⟨fault, rfl⟩
  | hit entry => exact .inl ⟨entry, rfl⟩

end Entry

/-! ## Bytes that are not looked at -/

namespace Format

/-- Four bytes are enough to be foreign. -/
theorem IsForeign.take_append {content : Bytes} (foreign : IsForeign content) (rest : Bytes) :
    IsForeign (content.take 4 ++ rest) := by
  have word : (content.take 4).length = 4 := List.length_take_of_le foreign.1
  refine ⟨by rw [List.length_append]; omega, ?_⟩
  rw [List.take_left' word]
  exact foreign.2

/-- Eight bytes are enough to have a version. -/
theorem HasVersion.take_append {content : Bytes} {version : UInt32}
    (has : HasVersion content version) (rest : Bytes) :
    HasVersion (content.take 8 ++ rest) version := by
  have front : content.take 8 = [0x6F, 0x42, 0x43, 0x43] ++ Bytes.ofUInt32 version := by
    obtain ⟨after, rfl⟩ := has
    exact List.take_left' (by simp)
  rw [front]
  exact List.prefix_append _ _

end Format

/-! ## Lookups -/

/-- A lookup goes by the first four bytes, the first eight or the header, whichever settles the answer,
and the answer is the same on all files that share these. Where none of them settles it, it is a hit or
a corrupt entry. -/
theorem tryLoad_classifies {disk : Disk} {path : Path} {content : Bytes}
    (readable : disk.read path = .ok content) (expected : Fingerprint) :
    (tryLoad disk path expected = .error .foreignFile ↔ IsForeign content) ∧
    (∀ found supported, tryLoad disk path expected = .error (.versionSkew found supported) ↔
      HasVersion content found ∧ found ≠ 1 ∧ supported = 1) ∧
    (∀ field, tryLoad disk path expected = .error (.stale field) ↔
      ∃ header, OpensWith content header ∧ FirstDifference expected header.fingerprint field) ∧
    (∀ other place rest,
      (IsForeign content → other.read place = .ok (content.take 4 ++ rest) →
        tryLoad other place expected = tryLoad disk path expected) ∧
      (∀ found, HasVersion content found → found ≠ 1 →
        other.read place = .ok (content.take 8 ++ rest) →
        tryLoad other place expected = tryLoad disk path expected) ∧
      (∀ front header, IsHeader front header → front <+: content → header.fingerprint ≠ expected →
        other.read place = .ok (front ++ rest) →
        tryLoad other place expected = tryLoad disk path expected)) ∧
    (¬ IsForeign content → (∀ found, HasVersion content found → found = 1) →
      (∀ header, OpensWith content header → header.fingerprint = expected) →
      (∃ entry, tryLoad disk path expected = .ok entry) ∨
        ∃ fault, tryLoad disk path expected = .error (.corrupt fault)) := by
  rw [tryLoad_of_read readable]
  refine ⟨Entry.load_eq_foreignFile_iff, fun _ _ => Entry.load_eq_versionSkew_iff,
    fun _ => Entry.load_eq_stale_iff, fun other place rest => ⟨?_, ?_, ?_⟩, Entry.load_of_unsettled⟩
  · intro foreign there
    rw [tryLoad_of_read there, Entry.load_of_isForeign (foreign.take_append rest),
      Entry.load_of_isForeign foreign]
  · intro found skewed differs there
    rw [tryLoad_of_read there, Entry.load_of_hasVersion (skewed.take_append rest) differs,
      Entry.load_of_hasVersion skewed differs]
  · intro front header isHeader start differs there
    obtain ⟨field, first⟩ := exists_firstDifference fun same => differs same.symm
    rw [tryLoad_of_read there, Entry.load_of_firstDifference ⟨front, isHeader, start⟩ first,
      Entry.load_of_firstDifference ⟨front, isHeader, List.prefix_append front rest⟩ first]

/-! ## A stale entry with a broken payload -/

namespace Entry.Sample

/-- The header of the sample entry with nothing of its payload but the first byte. -/
def torn : Bytes := Format.Sample.header.bytes ++ [96]

/-- The fingerprint of the sample with another checksum of the source. -/
def edited : Fingerprint := { Format.Sample.fingerprint with crc32 := 6 }

end Entry.Sample

open Entry.Sample in
/-- That the entry is stale is all that is said of it, and its header alone is as stale. -/
theorem tryLoad_classifies_torn :
    (Entry.diskOf torn).read ⟨"sample.oBCC"⟩ = .ok torn ∧
      tryLoad (Entry.diskOf torn) ⟨"sample.oBCC"⟩ edited = .error (.stale .crc32) ∧
      tryLoad (Entry.diskOf Format.Sample.header.bytes) ⟨"sample.oBCC"⟩ edited =
        .error (.stale .crc32) := by
  have readable : (Entry.diskOf torn).read ⟨"sample.oBCC"⟩ = .ok torn := by
    decide +kernel
  have alone : (Entry.diskOf Format.Sample.header.bytes).read ⟨"sample.oBCC"⟩ =
      .ok (Format.Sample.header.bytes ++ []) := by decide +kernel
  have isHeader : IsHeader Format.Sample.header.bytes Format.Sample.header :=
    isHeader_iff.2 ⟨⟨rfl, by decide⟩, rfl⟩
  have front : Format.Sample.header.bytes <+: torn := List.prefix_append _ _
  obtain ⟨_, _, stale, unread, _⟩ := tryLoad_classifies readable edited
  have answer := (stale .crc32).2 ⟨_, ⟨_, isHeader, front⟩, .crc32 rfl (by decide)⟩
  have same := (unread _ _ []).2.2 _ _ isHeader front (by decide) alone
  exact ⟨readable, answer, same.trans answer⟩

end BitcodeCache
