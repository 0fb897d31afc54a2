import BitcodeCache.Entry.Load
import BitcodeCache.Proofs.Entry.Header

/-!
# Which faults are damage

A lookup tells three kinds of faults apart: another magic number, another version, and damage. The
first two come from the first two fields of a header. Whatever is read after these, down to the check
of the decoded artifact, fails with damage only.
-/

namespace BitcodeCache

/-- Whether a fault is damage, and not what another kind of file or another version has. -/
def DecodeError.isDamage : DecodeError → Bool
  | .badMagic _ => false
  | .unsupportedVersion .. => false
  | _ => true

/-- Damage makes an entry corrupt. -/
theorem Miss.ofDecodeError_of_isDamage {fault : DecodeError} (damage : fault.isDamage = true) :
    ofDecodeError fault = .corrupt fault := by
  cases fault with
  | badMagic _ => cases damage
  | unsupportedVersion _ _ => cases damage
  | _ => rfl

/-! ## Steps that fail with damage only -/

/-- Where a result is a fault, it is damage. -/
def OnlyDamage {α : Type} (result : Except DecodeError α) : Prop :=
  ∀ fault, result = .error fault → fault.isDamage = true

namespace OnlyDamage

variable {α β : Type}

theorem ok (a : α) : OnlyDamage (.ok a) := nofun

theorem error {fault : DecodeError} (damage : fault.isDamage = true) :
    OnlyDamage (.error fault : Except DecodeError α) := by
  rintro _ ⟨⟩
  exact damage

/-- Steps that fail with damage only make a computation that does. -/
theorem bind {x : Except DecodeError α} {next : α → Except DecodeError β} (first : OnlyDamage x)
    (second : ∀ a, OnlyDamage (next a)) : OnlyDamage (x >>= next) := by
  cases x with
  | error fault => exact error (first fault rfl)
  | ok a => exact second a

theorem map {x : Except DecodeError α} (h : OnlyDamage x) (f : α → β) : OnlyDamage (f <$> x) := by
  cases x with
  | error fault => exact error (h fault rfl)
  | ok a => exact ok (f a)

end OnlyDamage

namespace FieldReader

variable {α β : Type}

/-- Where a reader fails, it is for damage. -/
def FailsDamaged (reader : FieldReader α) : Prop := ∀ bytes, OnlyDamage (reader bytes)

namespace FailsDamaged

theorem pure (a : α) : FailsDamaged (pure a : FieldReader α) := fun bytes => .ok (a, bytes)

theorem get : FailsDamaged (get : FieldReader Bytes) := fun bytes => .ok (bytes, bytes)

theorem refuse {fault : DecodeError} (damage : fault.isDamage = true) :
    FailsDamaged (refuse fault : FieldReader α) := fun _ => .error damage

theorem require {condition : Bool} {fault : DecodeError} (damage : fault.isDamage = true) :
    FailsDamaged (require condition fault) := by
  cases condition with
  | true => exact pure ()
  | false => exact refuse damage

/-- Readers that fail with damage only, one after another, make a reader that does. -/
theorem bind {reader : FieldReader α} {next : α → FieldReader β} (first : FailsDamaged reader)
    (second : ∀ a, FailsDamaged (next a)) : FailsDamaged (reader >>= next) :=
  fun bytes => (first bytes).bind fun p => second p.1 p.2

theorem map {reader : FieldReader α} (h : FailsDamaged reader) (f : α → β) :
    FailsDamaged (f <$> reader) :=
  fun bytes => (h bytes).bind fun p => .ok (f p.1, p.2)

/-- Too few bytes are damage. -/
theorem take (region : Region) (n : Nat) : FailsDamaged (take region n) := by
  intro bytes
  unfold FieldReader.take
  dsimp only
  split
  · exact .ok _
  · exact .error rfl

theorem digest (region : Region) : FailsDamaged (digest region) := by
  intro bytes
  unfold FieldReader.digest
  split
  · exact .ok _
  · exact .error rfl

theorem word32 (region : Region) : FailsDamaged (word32 region) := (take region 4).map _

theorem word64 (region : Region) : FailsDamaged (word64 region) := (take region 8).map _

theorem int64 (region : Region) : FailsDamaged (int64 region) := (take region 8).map _

/-- If a field fails with damage only, so do repetitions of it. -/
theorem exactly {item : FieldReader α} (h : FailsDamaged item) :
    ∀ n, FailsDamaged (exactly item n)
  | 0 => pure []
  | n + 1 => h.bind fun _ => (exactly h n).bind fun _ => pure _

end FailsDamaged

end FieldReader

/-! ## Artifacts -/

namespace Artifact

/-- Each table's fault is an offset outside the code. -/
theorem isDamage_of_fault? {a : Artifact} {fault : DecodeError} (found : a.fault? = some fault) :
    fault.isDamage = true := by
  simp only [fault?, Option.orElse_eq_orElse, Option.orElse_eq_or, Option.or_eq_some_iff] at found
  rcases found with symbols | ⟨_, relocations | ⟨_, functions⟩⟩
  · obtain ⟨s, _, own⟩ := List.exists_of_findSome?_eq_some symbols
    obtain ⟨_, ⟨⟩⟩ := Option.ite_none_left_eq_some.1 own
    rfl
  · obtain ⟨r, _, own⟩ := List.exists_of_findSome?_eq_some relocations
    obtain ⟨_, ⟨⟩⟩ := Option.ite_none_left_eq_some.1 own
    rfl
  · obtain ⟨f, _, own⟩ := List.exists_of_findSome?_eq_some functions
    obtain ⟨_, ⟨⟩⟩ := Option.ite_none_left_eq_some.1 own
    rfl

/-- A table that points outside the code is damage. -/
theorem onlyDamage_validate (a : Artifact) : OnlyDamage a.validate := by
  unfold validate
  split
  · exact .ok ()
  · exact .error (isDamage_of_fault? ‹_›)

end Artifact

/-! ## Payloads -/

namespace StringPool

/-- A reference to no string is damage. -/
theorem onlyDamage_string (pool : Array UInt8) (offset length : UInt32) :
    OnlyDamage (string pool offset length) := by
  unfold string
  dsimp only
  split
  · split
    · exact .ok _
    · exact .error rfl
  · exact .error rfl

end StringPool

namespace Payload

open FieldReader

theorem failsDamaged_readString (region : Region) (pool : Array UInt8) :
    FailsDamaged (readString region pool) := by
  refine (FailsDamaged.word32 _).bind fun offset => (FailsDamaged.word32 _).bind fun length => ?_
  have looked := StringPool.onlyDamage_string pool offset length
  cases found : StringPool.string pool offset length with
  | ok s => exact .pure s
  | error fault => exact .refuse (looked fault found)

/-- What is no symbol is damage, an unknown kind included. -/
theorem failsDamaged_symbolLayout (pool : Array UInt8) : FailsDamaged (symbolLayout.read pool) := by
  refine (failsDamaged_readString _ _).bind fun name => (FailsDamaged.word32 _).bind fun tag => ?_
  cases SymbolKind.ofTag? tag with
  | none => exact .refuse rfl
  | some kind => exact (FailsDamaged.word64 _).bind fun _ => .pure _

theorem failsDamaged_relocationLayout (pool : Array UInt8) :
    FailsDamaged (relocationLayout.read pool) :=
  (FailsDamaged.word64 _).bind fun _ => (FailsDamaged.word32 _).bind fun _ =>
    (failsDamaged_readString _ _).bind fun _ => (FailsDamaged.int64 _).bind fun _ => .pure _

theorem failsDamaged_functionLayout (pool : Array UInt8) :
    FailsDamaged (functionLayout.read pool) :=
  (failsDamaged_readString _ _).bind fun _ => (FailsDamaged.word64 _).bind fun _ =>
    (FailsDamaged.word64 _).bind fun _ => .pure _

theorem failsDamaged_pragmaLayout (pool : Array UInt8) : FailsDamaged (pragmaLayout.read pool) :=
  (failsDamaged_readString _ _).bind fun _ => (failsDamaged_readString _ _).bind fun _ => .pure _

/-- If a record fails with damage only, so does a section of records. -/
theorem RecordLayout.onlyDamage_decode {α : Type} {layout : RecordLayout α} {pool : Array UInt8}
    (record : FailsDamaged (layout.read pool)) (bytes : Bytes) :
    OnlyDamage (layout.decode pool bytes) := by
  have reader : FailsDamaged (layout.reader pool) :=
    (FailsDamaged.word32 _).bind fun _ => FailsDamaged.get.bind fun _ =>
      (FailsDamaged.require rfl).bind fun _ => record.exactly _
  exact (reader bytes).map _

/-- Every fault of the section table is damage. -/
theorem failsDamaged_readTable (total : Nat) (regions : List Region) (start : Nat) :
    FailsDamaged (readTable total start regions) := by
  induction regions generalizing start with
  | nil => exact .pure _
  | cons region regions ih =>
    exact (FailsDamaged.word64 _).bind fun _ => (FailsDamaged.word64 _).bind fun _ =>
      (FailsDamaged.require rfl).bind fun _ => (FailsDamaged.require rfl).bind fun _ =>
        (ih _).bind fun _ => .pure _

/-- Every fault in cutting a payload into its sections is damage. -/
theorem onlyDamage_readSections (payload : Bytes) : OnlyDamage (readSections payload) := by
  have table := failsDamaged_readTable payload.length regions tableLength payload
  unfold readSections
  split
  · rename_i fault read
    exact .error (table fault read)
  · split
    · exact .ok _
    · exact .error rfl

/-- A payload is refused for damage only. -/
theorem onlyDamage_decode (payload : Bytes) : OnlyDamage (decode payload) := by
  refine (onlyDamage_readSections payload).bind fun sections => ?_
  split
  · exact (RecordLayout.onlyDamage_decode (failsDamaged_symbolLayout _) _).bind fun _ =>
      (RecordLayout.onlyDamage_decode (failsDamaged_relocationLayout _) _).bind fun _ =>
      (RecordLayout.onlyDamage_decode (failsDamaged_functionLayout _) _).bind fun _ =>
      (RecordLayout.onlyDamage_decode (failsDamaged_pragmaLayout _) _).bind fun _ =>
      (Artifact.onlyDamage_validate _).bind fun _ => .ok _
  · exact .error rfl

end Payload

namespace Entry

/-- A payload of another length or with another checksum is damage. -/
theorem onlyDamage_verifyPayload (header : Header) (payload : Bytes) :
    OnlyDamage (verifyPayload header payload) := by
  unfold verifyPayload
  dsimp only
  split
  · exact .error rfl
  · split
    · exact .error rfl
    · split
      · exact .ok ()
      · exact .error rfl

/-- What follows a header is refused for damage only. -/
theorem onlyDamage_decode_bytes_append {h : Header} (current : h.IsCurrent) (rest : Bytes) :
    OnlyDamage (decode (h.bytes ++ rest)) := by
  rw [decode, Header.read_eq_ok_iff.2 ⟨current, rfl⟩]
  exact (onlyDamage_verifyPayload h rest).bind fun _ =>
    (Payload.onlyDamage_decode rest).bind fun _ => .ok _

end Entry

end BitcodeCache
