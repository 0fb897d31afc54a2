import BitcodeCache.Proofs.Settings.Canonical

/-!
# Signatures tell builds apart

A signature ends with the digest of the canonical text, in forty digits after a slash. The compiler
and the triple in front of it may have slashes of their own: the digest is found from the end, and the
compiler and the triple are told by the canonical text.
-/

namespace BitcodeCache

namespace Bytes

/-! ## Hexadecimal text -/

theorem hexDigit_injective {m n : Nat} (hm : m < 16) (hn : n < 16) (h : hexDigit m = hexDigit n) :
    m = n := by
  have each : ∀ m < 16, ∀ n < 16, hexDigit m = hexDigit n → m = n := by decide
  exact each m hm n hn h

theorem utf8Size_hexDigit {n : Nat} (h : n < 16) : (hexDigit n).utf8Size = 1 := by
  have each : ∀ n < 16, (hexDigit n).utf8Size = 1 := by decide
  exact each n h

/-- A byte is two digits, the high one first. -/
theorem hex_cons (b : UInt8) (bs : Bytes) : hex (b :: bs) =
    String.singleton (hexDigit (b.toNat / 16)) ++ String.singleton (hexDigit (b.toNat % 16)) ++
      hex bs := by
  rw [← String.toList_inj]
  simp [hex]

/-- A byte takes two bytes of hexadecimal text. -/
theorem utf8ByteSize_hex (bs : Bytes) : (hex bs).utf8ByteSize = 2 * bs.length := by
  induction bs with
  | nil => rfl
  | cons b bs ih =>
    have bound : b.toNat < 256 := b.toNat_lt
    rw [hex_cons, String.utf8ByteSize_append, String.utf8ByteSize_append,
      String.utf8ByteSize_singleton, String.utf8ByteSize_singleton, utf8Size_hexDigit (by omega),
      utf8Size_hexDigit (by omega), ih, List.length_cons]
    omega

theorem hex_injective {bs cs : Bytes} (h : hex bs = hex cs) : bs = cs := by
  induction bs generalizing cs with
  | nil =>
    cases cs with
    | nil => rfl
    | cons c cs =>
      have := congrArg String.utf8ByteSize h
      rw [utf8ByteSize_hex, utf8ByteSize_hex] at this
      cases this
  | cons b bs ih =>
    cases cs with
    | nil =>
      have := congrArg String.utf8ByteSize h
      rw [utf8ByteSize_hex, utf8ByteSize_hex] at this
      cases this
    | cons c cs =>
      have hb : b.toNat < 256 := b.toNat_lt
      have hc : c.toNat < 256 := c.toNat_lt
      rw [hex_cons, hex_cons, ← String.toList_inj] at h
      simp only [String.toList_append, String.toList_singleton, List.cons_append, List.nil_append,
        List.cons.injEq, String.toList_inj] at h
      obtain ⟨high, low, rest⟩ := h
      have high := hexDigit_injective (by omega) (by omega) high
      have low := hexDigit_injective (by omega) (by omega) low
      have same : b = c := by
        apply UInt8.toNat_inj.1
        omega
      rw [same, ih rest]

end Bytes

theorem Digest.display_injective {d e : Digest} (h : d.display = e.display) : d = e := by
  cases d
  cases e
  cases Bytes.hex_injective h
  rfl

theorem Digest.utf8ByteSize_display (d : Digest) : d.display.utf8ByteSize = 40 := by
  rw [display, Bytes.utf8ByteSize_hex, d.length_eq]

namespace Settings

/-! ## Signatures -/

/-- Beside the version and the triple the text has 42 bytes: the digest and two separators. -/
theorem length_signatureText (s : Settings) : (Text.utf8 s.signatureText).length =
    s.toolchain.compilerVersion.utf8ByteSize + s.toolchain.triple.utf8ByteSize + 42 := by
  have slash : "/".utf8ByteSize = 1 := rfl
  simp only [signatureText, Text.length_utf8, String.utf8ByteSize_append,
    Digest.utf8ByteSize_display, slash]
  omega

/-- Settings have a signature exactly if their text is within the limit, and then the text is it. -/
theorem signature_eq_ok_iff {s : Settings} {signature : Signature} :
    s.signature = .ok signature ↔ signature = ⟨Text.utf8 s.signatureText⟩ ∧
      s.toolchain.compilerVersion.utf8ByteSize + s.toolchain.triple.utf8ByteSize ≤
        Signature.maxLength - 42 := by
  have bound : (Text.utf8 s.signatureText).length ≤ Signature.maxLength ↔
      s.toolchain.compilerVersion.utf8ByteSize + s.toolchain.triple.utf8ByteSize ≤
        Signature.maxLength - 42 := by
    rw [length_signatureText, Signature.maxLength]
    omega
  rw [← bound, ← Signature.ofBytes_eq_ok_iff, Settings.signature]
  cases Signature.ofBytes (Text.utf8 s.signatureText) with
  | ok found => simp
  | error fault => simp

/-- A signature that is built is within the limit. -/
theorem length_signature_le {s : Settings} {signature : Signature} (built : s.signature = .ok signature) :
    signature.length ≤ Signature.maxLength := by
  obtain ⟨rfl, room⟩ := signature_eq_ok_iff.1 built
  rw [Signature.length, length_signatureText]
  rw [Signature.maxLength] at room ⊢
  omega

/-- The digest is what the last forty bytes of a signature say. -/
theorem digest_of_signatureText {s s' : Settings} (h : s.signatureText = s'.signatureText) :
    Digest.ofSource (Text.utf8 s.canonicalText) = Digest.ofSource (Text.utf8 s'.canonicalText) := by
  have chars := congrArg Text.utf8 h
  rw [signatureText, signatureText, Text.utf8_append, Text.utf8_append] at chars
  have lengths : (Text.utf8 (Digest.ofSource (Text.utf8 s.canonicalText)).display).length =
      (Text.utf8 (Digest.ofSource (Text.utf8 s'.canonicalText)).display).length := by
    rw [Text.length_utf8, Text.length_utf8, Digest.utf8ByteSize_display, Digest.utf8ByteSize_display]
  obtain ⟨_, digests⟩ := List.append_inj' chars lengths
  exact Digest.display_injective (Text.utf8_injective digests)

/-- The same builds have the same signature, or are refused one for the same reason. -/
theorem signature_eq_of_sameBuild {s s' : Settings} (same : SameBuild s s') :
    s.signature = s'.signature := by
  have texts : s.signatureText = s'.signatureText := by
    rw [signatureText, signatureText, canonicalText_eq_iff.2 same, same.compilerVersion, same.triple]
  rw [signature, signature, texts]

/-- Settings that build the same have the same signature. -/
theorem signature_of_sameBuild {s s' : Settings} {signature : Signature} (same : SameBuild s s')
    (built : s.signature = .ok signature) : s'.signature = .ok signature :=
  signature_eq_of_sameBuild same ▸ built

/-- Where digests do not collide, one signature is that of one build. -/
theorem sameBuild_of_signature {s s' : Settings} {signature : Signature}
    (collision : Digest.ofSource (Text.utf8 s.canonicalText) =
      Digest.ofSource (Text.utf8 s'.canonicalText) → s.canonicalText = s'.canonicalText)
    (built : s.signature = .ok signature) (built' : s'.signature = .ok signature) :
    SameBuild s s' := by
  obtain ⟨rfl, _⟩ := signature_eq_ok_iff.1 built
  obtain ⟨same, _⟩ := signature_eq_ok_iff.1 built'
  have texts := Text.utf8_injective (congrArg Signature.bytes same)
  exact canonicalText_eq_iff.1 (collision (digest_of_signatureText texts))

/-- There is a signature where the compiler and the triple leave room for the digest and two
slashes. Where cache files live does not enter it. Where digests do not collide, two signatures are
the same for the same builds and for no others. -/
theorem signature_eq_iff_sameBuild :
    (∀ s : Settings, (∃ signature, s.signature = .ok signature) ↔
      s.toolchain.compilerVersion.utf8ByteSize + s.toolchain.triple.utf8ByteSize ≤
        Signature.maxLength - 42) ∧
    (∀ (s : Settings) (cache : CacheSettings), { s with cache }.signature = s.signature) ∧
    ∀ (s s' : Settings) (signature signature' : Signature),
      s.signature = .ok signature → s'.signature = .ok signature' →
      (Digest.ofSource (Text.utf8 s.canonicalText) = Digest.ofSource (Text.utf8 s'.canonicalText) →
        s.canonicalText = s'.canonicalText) →
      (signature = signature' ↔ SameBuild s s') := by
  refine ⟨?_, fun _ _ => rfl, ?_⟩
  · intro s
    constructor
    · rintro ⟨signature, built⟩
      exact (signature_eq_ok_iff.1 built).2
    · intro room
      exact ⟨_, signature_eq_ok_iff.2 ⟨rfl, room⟩⟩
  · intro s s' signature signature' built built' collision
    constructor
    · rintro rfl
      exact sameBuild_of_signature collision built built'
    · intro same
      have again := signature_of_sameBuild same built
      exact Except.ok.inj (again.symm.trans built')

/-- Settings that wrap two symbols. -/
def wrapping : Settings where
  toolchain := { compilerVersion := "bcc-3.1", triple := "armv7-none-linux-gnueabi" }
  linker := { wrap := ["malloc", "free"] }

/-- The same settings for another cache, with the symbols in another order and one of them twice. -/
def wrappingElsewhere : Settings where
  cache := { dir := ⟨"/var/cache/bcc"⟩, bypass := true }
  toolchain := { compilerVersion := "bcc-3.1", triple := "armv7-none-linux-gnueabi" }
  linker := { wrap := ["free", "malloc", "free"] }

theorem signature_eq_iff_sameBuild_wrapping : ∃ signature signature',
    wrapping.signature = .ok signature ∧ wrappingElsewhere.signature = .ok signature' ∧
      (Digest.ofSource (Text.utf8 wrapping.canonicalText) =
          Digest.ofSource (Text.utf8 wrappingElsewhere.canonicalText) →
        wrapping.canonicalText = wrappingElsewhere.canonicalText) ∧
      (signature = signature' ↔ SameBuild wrapping wrappingElsewhere) ∧ signature = signature' := by
  obtain ⟨exists_iff, _, eq_iff⟩ := signature_eq_iff_sameBuild
  have texts : wrapping.canonicalText = wrappingElsewhere.canonicalText := by decide +kernel
  obtain ⟨signature, built⟩ := (exists_iff wrapping).2 (by decide +kernel)
  obtain ⟨signature', built'⟩ := (exists_iff wrappingElsewhere).2 (by decide +kernel)
  have iff := eq_iff _ _ _ _ built built' fun _ => texts
  exact ⟨signature, signature', built, built', fun _ => texts, iff,
    iff.2 (canonicalText_eq_iff.1 texts)⟩

end Settings

end BitcodeCache
