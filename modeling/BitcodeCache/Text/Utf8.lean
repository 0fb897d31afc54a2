import BitcodeCache.Bytes

/-!
# Text as UTF-8 bytes

`utf8` and `ofUtf8?` pass between texts and byte strings; the second accepts exactly the valid
byte strings. `lossy` reads any byte string: each maximal part that starts a sequence but does not
finish it, and each byte that can start none, becomes one replacement character.
-/

namespace BitcodeCache.Text

/-- The UTF-8 bytes of a text. -/
def utf8 (s : String) : Bytes := s.toByteArray.data.toList

/-- The text with the given UTF-8 bytes, if there is one. -/
def ofUtf8? (bs : Bytes) : Option String := String.fromUTF8? ⟨bs.toArray⟩

@[simp] theorem ofUtf8?_utf8 (s : String) : ofUtf8? (utf8 s) = some s := by
  have valid : ByteArray.IsValidUTF8 ⟨(utf8 s).toArray⟩ := by simpa [utf8] using s.isValidUTF8
  simp only [ofUtf8?, String.fromUTF8?, valid, dite_true]
  congr 1

/-- Only the encoding of a string is read as that string. -/
theorem utf8_of_ofUtf8? {bs : Bytes} {s : String} (h : ofUtf8? bs = some s) : utf8 s = bs := by
  simp only [ofUtf8?, String.fromUTF8?] at h
  split at h
  · cases h; simp [utf8, String.fromUTF8]
  · cases h

theorem utf8_injective {s t : String} (h : utf8 s = utf8 t) : s = t := by
  have read := ofUtf8?_utf8 s
  rw [h, ofUtf8?_utf8] at read
  exact (Option.some.inj read).symm

/-! ## Order

Texts stand in the same order as their bytes.
-/

/-- Characters are ordered as the first bytes in which their encodings differ, whatever follows. -/
theorem encodeChar_lt {c d : Char} (h : c < d) (xs ys : Bytes) :
    String.utf8EncodeChar c ++ xs < String.utf8EncodeChar d ++ ys := by
  have hc : c.val.toNat < d.val.toNat := UInt32.lt_iff_toNat_lt.1 h
  have hd : d.val.toNat < 1114112 := by
    rcases d.valid with h | h <;> omega
  simp only [String.utf8EncodeChar]
  generalize c.val.toNat = m at *
  generalize d.val.toNat = n at *
  have sixth (k : Nat) : k / 4096 = k / 64 / 64 := by omega
  have top (k : Nat) : k / 262144 = k / 64 / 64 / 64 := by omega
  -- all quotients are written by steps of 64, so that the lengths and the bytes can be compared
  rw [sixth m, sixth n, top m, top n]
  repeat' split
  all_goals
    simp only [List.cons_append, List.nil_append, List.cons_lt_cons_iff, UInt8.lt_iff_toNat_lt,
      ← UInt8.toNat_inj, UInt8.toNat_ofNat']
    omega

/-- Texts are ordered as their encodings. -/
theorem flatMap_encodeChar_lt {cs ds : List Char} (h : cs < ds) :
    cs.flatMap String.utf8EncodeChar < ds.flatMap String.utf8EncodeChar := by
  induction cs generalizing ds with
  | nil =>
    cases ds with
    | nil => exact absurd h (List.lt_irrefl [])
    | cons d ds =>
      cases e : String.utf8EncodeChar d with
      | nil => exact absurd e String.utf8EncodeChar_ne_nil
      | cons b bs => simp [e]
  | cons c cs ih =>
    cases ds with
    | nil => exact absurd h (List.not_lt_nil _)
    | cons d ds =>
      rw [List.flatMap_cons, List.flatMap_cons]
      rcases List.cons_lt_cons_iff.1 h with lt | ⟨rfl, lt⟩
      · exact encodeChar_lt lt _ _
      · exact List.append_left_lt (ih lt)

/-- The encoding of a text is that of its characters, one after the other. -/
theorem utf8_eq_flatMap (s : String) : utf8 s = s.toList.flatMap String.utf8EncodeChar := by
  rw [utf8, ← String.utf8Encode_toList]
  simp [List.utf8Encode]

/-- Strings are ordered by their bytes. -/
theorem utf8_lt_iff {s t : String} : utf8 s < utf8 t ↔ s < t := by
  rw [utf8_eq_flatMap, utf8_eq_flatMap]
  constructor
  · intro h
    rcases Decidable.em (s < t) with lt | not_lt
    · exact lt
    · rcases Decidable.em (t < s) with gt | not_gt
      · exact absurd (flatMap_encodeChar_lt gt) (List.lt_asymm h)
      · have : s = t := by
          have := String.le_antisymm (String.not_lt.1 not_gt) (String.not_lt.1 not_lt)
          exact this
        subst this
        exact absurd h (List.lt_irrefl _)
  · exact flatMap_encodeChar_lt

/-! ## Reading any bytes -/

/-- The character that stands for bytes that are not valid UTF-8. -/
def replacement : Char := '\uFFFD'

/-- The range of an ordinary continuation byte. -/
def continuation : UInt8 × UInt8 := (0x80, 0xBF)

/-- What a first byte promises: its own bits and the range of each byte that must follow. Overlong
forms, surrogates and code points past the last plane are ruled out by the range of the second
byte; no range is given for a byte that starts no sequence. -/
def sequence? (lead : UInt8) : Option (Nat × List (UInt8 × UInt8)) :=
  if lead < 0x80 then some (lead.toNat, [])
  else if lead < 0xC2 then none
  else if lead < 0xE0 then some (lead.toNat - 0xC0, [continuation])
  else if lead = 0xE0 then some (0x0, [(0xA0, 0xBF), continuation])
  else if lead = 0xED then some (0xD, [(0x80, 0x9F), continuation])
  else if lead < 0xF0 then some (lead.toNat - 0xE0, [continuation, continuation])
  else if lead = 0xF0 then some (0x0, [(0x90, 0xBF), continuation, continuation])
  else if lead < 0xF4 then some (lead.toNat - 0xF0, [continuation, continuation, continuation])
  else if lead = 0xF4 then some (0x4, [(0x80, 0x8F), continuation, continuation])
  else none

/-- Takes continuation bytes while they lie in the promised ranges: the finished code point, if all
of them do, and the bytes that are left. -/
def continueSequence (code : Nat) : List (UInt8 × UInt8) → Bytes → Option Nat × Bytes
  | [], bs => (some code, bs)
  | _ :: _, [] => (none, [])
  | (low, high) :: ranges, b :: bs =>
    if low ≤ b ∧ b ≤ high then continueSequence (code * 64 + b.toNat % 64) ranges bs
    else (none, b :: bs)

/-- Reading a sequence adds no bytes, so reading on ends. -/
theorem length_continueSequence_le (code : Nat) (ranges : List (UInt8 × UInt8)) (bs : Bytes) :
    (continueSequence code ranges bs).2.length ≤ bs.length := by
  fun_induction continueSequence code ranges bs with
  | case1 => simp
  | case2 => simp
  | case3 _ _ _ _ _ _ _ ih => simp only [List.length_cons]; omega
  | case4 => simp

/-- The characters of any byte string. -/
def lossyChars : Bytes → List Char
  | [] => []
  | b :: bs =>
    match sequence? b with
    | none => replacement :: lossyChars bs
    | some (bits, ranges) =>
      let read := continueSequence bits ranges bs
      (read.1.map Char.ofNat).getD replacement :: lossyChars read.2
termination_by bs => bs.length
decreasing_by
  · simp
  · have := length_continueSequence_le bits ranges bs
    simp only [List.length_cons]; omega

/-- The text of any byte string. -/
def lossy (bs : Bytes) : String := String.ofList (lossyChars bs)

end BitcodeCache.Text
