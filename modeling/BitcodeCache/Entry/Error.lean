import BitcodeCache.Text.Numeral

/-!
# Faults of entries

Why bytes are no cache entry, and why an artifact cannot be written as one. Each fault names the
region of the file it was found in, with the numbers that did not fit.
-/

namespace BitcodeCache

/-- The regions of a cache file. -/
inductive Region where
  | header
  | signature
  | payload
  | sectionTable
  | strings
  | symbols
  | relocations
  | functions
  | pragmas
  | code
deriving DecidableEq, Repr

/-- The words for a region. -/
def Region.display : Region → String
  | .header => "header"
  | .signature => "signature"
  | .payload => "payload"
  | .sectionTable => "section table"
  | .strings => "strings"
  | .symbols => "symbols"
  | .relocations => "relocations"
  | .functions => "functions"
  | .pragmas => "pragmas"
  | .code => "code"

/-- How a length disagrees with the data it describes. -/
inductive LengthFault where
  | trailing (count : Nat)
  | overLimit (length limit : Nat)
  | misplaced (start expected : Nat)
  | afterLast (count : Nat)
  | recordCount (count width needed held : Nat)
  | stated (text : String)
deriving DecidableEq, Repr

/-- The words for a wrong length. -/
def LengthFault.message : LengthFault → String
  | .trailing count => toString count ++ " trailing bytes"
  | .overLimit length limit => toString length ++ " bytes exceeds limit of " ++ toString limit
  | .misplaced start expected =>
    "starts at " ++ toString start ++ ", expected " ++ toString expected
  | .afterLast count => toString count ++ " bytes after last section"
  | .recordCount count width needed held =>
    toString count ++ " records of " ++ toString width ++ " bytes need " ++ toString needed ++
      ", section holds " ++ toString held
  | .stated text => text

/-- Why bytes are not trusted as a cache entry. -/
inductive DecodeError where
  | truncated (region : Region) (needed available : Nat)
  | badLength (region : Region) (fault : LengthFault)
  | badMagic (found : UInt32)
  | unsupportedVersion (found expected : UInt32)
  | checksumMismatch (expected actual : UInt32)
  | badOffset (region : Region) (offset limit : Nat)
  | badTag (region : Region) (tag : UInt32)
  | badString (offset : UInt32)
deriving DecidableEq, Repr

/-- A 32-bit word in hexadecimal, always with eight digits. -/
def showWord (w : UInt32) : String := Text.hexadecimal 10 w.toNat

/-- What is said of bytes that are not trusted. -/
def DecodeError.message : DecodeError → String
  | .truncated region needed available =>
    "truncated " ++ region.display ++ ": needed " ++ toString needed ++ " bytes, " ++
      toString available ++ " available"
  | .badLength region fault => "bad length in " ++ region.display ++ ": " ++ fault.message
  | .badMagic found => "bad magic " ++ showWord found
  | .unsupportedVersion found expected =>
    "unsupported format version " ++ toString found ++ " (expected " ++ toString expected ++ ")"
  | .checksumMismatch expected actual =>
    "payload checksum mismatch: header " ++ showWord expected ++ ", computed " ++ showWord actual
  | .badOffset region offset limit =>
    "offset " ++ toString offset ++ " out of range in " ++ region.display ++ " (limit " ++
      toString limit ++ ")"
  | .badTag region tag => "unknown tag " ++ toString tag ++ " in " ++ region.display
  | .badString offset => "string at pool offset " ++ toString offset ++ " is not valid UTF-8"

/-- Why an artifact has no entry: a number does not fit its field, or the artifact's tables point
outside its code. -/
inductive EncodeError where
  | tooLarge (region : Region) (length : Nat)
  | invalidArtifact (cause : DecodeError)
deriving DecidableEq, Repr

/-- What is said of an artifact without an entry. -/
def EncodeError.message : EncodeError → String
  | .tooLarge region length => region.display ++ " too large to encode: " ++ toString length
  | .invalidArtifact cause => "artifact is inconsistent: " ++ cause.message

/-- The words of the cause under an error, if one is told apart from it. -/
def EncodeError.cause? : EncodeError → Option String
  | .tooLarge .. => none
  | .invalidArtifact cause => some cause.message

end BitcodeCache
