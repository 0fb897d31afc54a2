import BitcodeCache.Bytes
import BitcodeCache.Text.ByteList

/-!
# Content digests

The SHA-1 digest of source bytes. The message is padded to blocks of sixteen big-endian words; each
block is expanded to a schedule of eighty words and mixed into a state of five. The length of a
digest is part of its type.
-/

namespace BitcodeCache

namespace Sha1

/-- The five words of the running state. -/
structure State where
  a : UInt32
  b : UInt32
  c : UInt32
  d : UInt32
  e : UInt32

/-- The state before any block. -/
def start : State := ⟨0x67452301, 0xEFCDAB89, 0x98BADCFE, 0x10325476, 0xC3D2E1F0⟩

/-- Rotation to the left by `n` bits, for `n` between 1 and 31. -/
def rotateLeft (n w : UInt32) : UInt32 := (w <<< n) ||| (w >>> (32 - n))

/-- The word with four given bytes, most significant first. -/
def bigEndian (bytes : Bytes) : UInt32 := Bytes.toUInt32 bytes.reverse

/-- How many zero bytes stand between the end mark and the length of a padded message. -/
def zeroPadding (length : Nat) : Nat := (119 - length % 64) % 64

/-- A message followed by its end mark, zeros and its length in bits, up to a full block. -/
def pad (message : Bytes) : Bytes :=
  message ++ 0x80 :: List.replicate (zeroPadding message.length) 0 ++
    (Bytes.ofNat 8 (8 * message.length)).reverse

/-- A padded message fills blocks of 64 bytes. -/
theorem length_pad (message : Bytes) : (pad message).length % 64 = 0 := by
  simp only [pad, zeroPadding, List.length_append, List.length_cons, List.length_replicate,
    List.length_reverse, Bytes.length_ofNat]
  omega

/-- One more word of the schedule, from the sixteen before it. -/
def extend (words : Array UInt32) : Array UInt32 :=
  let back (n : Nat) : UInt32 := words.getD (words.size - n) 0
  words.push (rotateLeft 1 (back 3 ^^^ back 8 ^^^ back 14 ^^^ back 16))

/-- The eighty words of a block of sixteen. -/
def schedule (block : Array UInt32) : Array UInt32 := Nat.repeat extend 64 block

/-- The mixing function and the constant of a round. -/
def mixing (round : Nat) (b c d : UInt32) : UInt32 × UInt32 :=
  if round < 20 then ((b &&& c) ||| (~~~b &&& d), 0x5A827999)
  else if round < 40 then (b ^^^ c ^^^ d, 0x6ED9EBA1)
  else if round < 60 then ((b &&& c) ||| (b &&& d) ||| (c &&& d), 0x8F1BBCDC)
  else (b ^^^ c ^^^ d, 0xCA62C1D6)

/-- One round with the word of the schedule at its place. -/
def step (s : State) (word : UInt32) (round : Nat) : State :=
  let mixed := mixing round s.b s.c s.d
  ⟨rotateLeft 5 s.a + mixed.1 + s.e + mixed.2 + word, s.a, rotateLeft 30 s.b, s.c, s.d⟩

/-- Mixes one block into the state. -/
def compress (s : State) (block : Array UInt32) : State :=
  let t := (schedule block).toList.zipIdx.foldl (fun t w => step t w.1 w.2) s
  ⟨s.a + t.a, s.b + t.b, s.c + t.c, s.d + t.d, s.e + t.e⟩

/-- A byte string in pieces of `n + 1` bytes; the last piece may be shorter. -/
def chunks (n : Nat) (bytes : Bytes) : List Bytes :=
  match bytes with
  | [] => []
  | b :: rest => (b :: rest.take n) :: chunks n (rest.drop n)
termination_by bytes.length
decreasing_by simp only [List.length_drop, List.length_cons]; omega

/-- The state after a whole message. -/
def run (message : Bytes) : State :=
  (chunks 63 (pad message)).foldl
    (fun s block => compress s ((chunks 3 block).map bigEndian).toArray) start

/-- The bytes of a state, each word most significant byte first. -/
def State.bytes (s : State) : Bytes :=
  [s.a, s.b, s.c, s.d, s.e].flatMap fun w => (Bytes.ofUInt32 w).reverse

theorem State.length_bytes (s : State) : s.bytes.length = 20 := by simp [State.bytes]

end Sha1

/-- The SHA-1 digest of some bytes. -/
structure Digest where
  bytes : Bytes
  length_eq : bytes.length = 20
deriving DecidableEq

namespace Digest

/-- The number of bytes of a digest. -/
def length : Nat := 20

/-- The digest of source bytes. -/
def ofSource (source : Bytes) : Digest := ⟨(Sha1.run source).bytes, Sha1.State.length_bytes _⟩

/-- The digest with the given twenty bytes. -/
def ofBytes? (bytes : Bytes) : Option Digest :=
  if h : bytes.length = length then some ⟨bytes, h⟩ else none

@[simp] theorem ofBytes?_bytes (d : Digest) : ofBytes? d.bytes = some d := by
  simp [ofBytes?, length, d.length_eq]

/-- Forty hexadecimal digits. -/
def display (d : Digest) : String := Bytes.hex d.bytes

/-- The digest as diagnostics show it: the first four bytes. -/
def debug (d : Digest) : String := "ContentDigest(" ++ Bytes.hex (d.bytes.take 4) ++ "..)"

/-- The digest as an array of twenty numbers. -/
def toJson (d : Digest) : String := Text.ByteList.write d.bytes

/-- Reads an array of exactly twenty numbers below 256. -/
def ofJson? (text : String) : Option Digest := (Text.ByteList.read? text).bind ofBytes?

end Digest

end BitcodeCache
