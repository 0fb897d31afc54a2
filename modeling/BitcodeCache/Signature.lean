import BitcodeCache.Bytes
import BitcodeCache.Text.ByteList
import BitcodeCache.Text.Quoted
import BitcodeCache.Text.Utf8

/-!
# Toolchain signatures

The bytes that identify a compiler, a linker and their settings. They are opaque: entries built
under different signatures are never exchanged, whatever the bytes mean. `Signature.ofBytes` bounds
their number; a signature that is read from its JSON text is taken as it stands.
-/

namespace BitcodeCache

/-- The identity of a compiler and linker with their settings. -/
structure Signature where
  bytes : Bytes
deriving DecidableEq, Repr

/-- A signature was refused: it has more bytes than the limit. -/
structure SignatureTooLong where
  length : Nat
deriving DecidableEq, Repr

namespace Signature

/-- The largest number of bytes of a signature. -/
def maxLength : Nat := 4096

/-- The signature with the given bytes, within the limit. -/
def ofBytes (bytes : Bytes) : Except SignatureTooLong Signature :=
  if bytes.length ≤ maxLength then .ok ⟨bytes⟩ else .error ⟨bytes.length⟩

/-- The number of bytes. -/
def length (s : Signature) : Nat := s.bytes.length

/-- Whether there are no bytes. -/
def isEmpty (s : Signature) : Bool := s.bytes.isEmpty

/-- The bytes as a text. -/
def display (s : Signature) : String := Text.lossy s.bytes

/-- The signature as diagnostics show it. -/
def debug (s : Signature) : String := "ToolchainSignature(" ++ Text.quoted s.display ++ ")"

/-- The signature as an array of numbers. -/
def toJson (s : Signature) : String := Text.ByteList.write s.bytes

/-- Reads an array of numbers below 256, of any length. -/
def ofJson? (text : String) : Option Signature := (Text.ByteList.read? text).map Signature.mk

theorem ofBytes_eq_ok_iff {bytes : Bytes} {s : Signature} :
    ofBytes bytes = .ok s ↔ s = ⟨bytes⟩ ∧ bytes.length ≤ maxLength := by
  unfold ofBytes
  split
  · simp_all [eq_comm]
  · simp_all

end Signature

/-- What is said of a signature over the limit. -/
def SignatureTooLong.message (e : SignatureTooLong) : String :=
  "toolchain signature is " ++ toString e.length ++ " bytes, limit is " ++
    toString Signature.maxLength

end BitcodeCache
