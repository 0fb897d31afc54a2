import BitcodeCache.Fingerprint

/-!
# The first difference of fingerprints

A stale entry is reported with the first field in which its fingerprint differs from the expected one.
-/

namespace BitcodeCache

/-- The field is the first in which two fingerprints differ: the toolchains before the checksums, then
the digests, and the modification times last. -/
inductive FirstDifference (f g : Fingerprint) : StaleField → Prop where
  | toolchain (differs : f.toolchain ≠ g.toolchain) : FirstDifference f g .toolchainSignature
  | crc32 (toolchain : f.toolchain = g.toolchain) (differs : f.crc32 ≠ g.crc32) :
    FirstDifference f g .crc32
  | contentDigest (toolchain : f.toolchain = g.toolchain) (crc32 : f.crc32 = g.crc32)
    (differs : f.contentDigest ≠ g.contentDigest) : FirstDifference f g .contentDigest
  | modTime (toolchain : f.toolchain = g.toolchain) (crc32 : f.crc32 = g.crc32)
    (contentDigest : f.contentDigest = g.contentDigest) (differs : f.modTime ≠ g.modTime) :
    FirstDifference f g .modTime

/-- The first difference is the mismatch that a lookup tells. -/
theorem firstDifference_iff {f g : Fingerprint} {field : StaleField} :
    FirstDifference f g field ↔ f.firstMismatch? g = some field := by
  unfold Fingerprint.firstMismatch?
  constructor
  · intro h
    cases h with
    | toolchain differs => simp [differs]
    | crc32 toolchain differs => simp [toolchain, differs]
    | contentDigest toolchain crc32 differs => simp [toolchain, crc32, differs]
    | modTime toolchain crc32 contentDigest differs =>
      simp [toolchain, crc32, contentDigest, differs]
  · intro h
    by_cases toolchain : f.toolchain = g.toolchain
    · by_cases crc32 : f.crc32 = g.crc32
      · by_cases contentDigest : f.contentDigest = g.contentDigest
        · by_cases modTime : f.modTime = g.modTime
          · simp [toolchain, crc32, contentDigest, modTime] at h
          · obtain rfl : .modTime = field := by
              simpa [toolchain, crc32, contentDigest, modTime] using h
            exact .modTime toolchain crc32 contentDigest modTime
        · obtain rfl : .contentDigest = field := by
            simpa [toolchain, crc32, contentDigest] using h
          exact .contentDigest toolchain crc32 contentDigest
      · obtain rfl : .crc32 = field := by simpa [toolchain, crc32] using h
        exact .crc32 toolchain crc32
    · obtain rfl : .toolchainSignature = field := by simpa [toolchain] using h
      exact .toolchain toolchain

/-- Different fingerprints differ in some field first. -/
theorem exists_firstDifference {f g : Fingerprint} (differs : f ≠ g) :
    ∃ field, FirstDifference f g field := by
  cases mismatch : f.firstMismatch? g with
  | some field => exact ⟨field, firstDifference_iff.2 mismatch⟩
  | none => exact absurd (Fingerprint.firstMismatch?_eq_none_iff.1 mismatch) differs

end BitcodeCache
