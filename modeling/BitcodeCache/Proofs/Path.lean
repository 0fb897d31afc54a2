import BitcodeCache.Proofs.Disk.Walk

/-!
# Where joined paths lead

The second of two joined paths leads on from where the first one leads, whatever stands at their ends
and whether they start at the root. A plain name, one without slashes that stands for no other
directory, leads one part further.
-/

namespace BitcodeCache

/-- A step that does not go up tells where it started. -/
theorem Location.next_injective {piece : String} (notUp : piece ≠ "..") {dir dir' : Location}
    (same : dir.next piece = dir'.next piece) : dir = dir' := by
  unfold next at same
  rw [if_neg notUp, if_neg notUp] at same
  split at same
  · exact same
  · exact (List.cons.inj same).2

namespace Path

/-! ## Parts -/

theorem splitSlash_ne_nil (cs : List Char) : splitSlash cs ≠ [] := by
  fun_cases splitSlash cs <;> simp

/-- Without a slash there is one piece. -/
theorem splitSlash_of_not_mem {cs : List Char} (none : '/' ∉ cs) : splitSlash cs = [cs] := by
  induction cs with
  | nil => rfl
  | cons c cs ih =>
    rw [List.mem_cons, not_or] at none
    rw [splitSlash, if_neg (Ne.symm none.1), ih none.2]

/-- A slash ends a part. -/
theorem splitSlash_append (before after : List Char) :
    splitSlash (before ++ '/' :: after) = splitSlash before ++ splitSlash after := by
  induction before with
  | nil => rfl
  | cons c before ih =>
    rw [List.cons_append, splitSlash, splitSlash, ih]
    split
    · rfl
    · cases split : splitSlash before with
      | nil => exact absurd split (splitSlash_ne_nil before)
      | cons piece pieces => rfl

/-! ## Joined paths -/

theorem toList_ne_nil {p : Path} (filled : p.isEmpty = false) : p.text.toList ≠ [] := by
  intro none
  rw [isEmpty, String.toList_eq_nil_iff.1 none] at filled
  cases filled

/-- Whether a path is absolute is told by any beginning of it that is not empty. -/
theorem isAbsolute_of_append {p q : Path} {rest : List Char} (filled : p.isEmpty = false)
    (split : q.text.toList = p.text.toList ++ rest) : q.isAbsolute = p.isAbsolute := by
  rw [isAbsolute, isAbsolute, split]
  cases chars : p.text.toList with
  | nil => exact absurd chars (toList_ne_nil filled)
  | cons c cs => rfl

/-- At a slash the pieces fall into those before it and those behind it. -/
theorem pieces_of_append {p q : Path} {before : List Char}
    (split : p.text.toList = before ++ '/' :: q.text.toList) :
    p.pieces = (splitSlash before).map String.ofList ++ q.pieces := by
  rw [pieces, split, splitSlash_append, List.map_append]
  rfl

/-- Where a path leads that goes on behind a slash. -/
theorem location_of_append {p q r : Path} (filled : p.isEmpty = false)
    (split : r.text.toList = p.text.toList ++ '/' :: q.text.toList) (workingDir : Location) :
    r.location workingDir = q.pieces.foldl Location.next (p.location workingDir) := by
  rw [location, pieces_of_append split, List.foldl_append, isAbsolute_of_append filled split]
  rfl

/-- The empty path stays in the working directory. -/
theorem location_of_isEmpty {p : Path} (none : p.isEmpty = true) (workingDir : Location) :
    p.location workingDir = workingDir := by
  obtain ⟨text⟩ := p
  obtain rfl : text = "" := by simpa [isEmpty] using none
  rfl

/-- An absolute path leads to the same location from everywhere. -/
theorem location_of_isAbsolute {p : Path} (absolute : p.isAbsolute = true)
    (workingDir : Location) : p.location workingDir = p.location [] := by
  rw [location, location, absolute]
  rfl

/-- The second of two joined paths leads on from where the first one leads. -/
theorem location_join (p q : Path) (workingDir : Location) :
    (p.join q).location workingDir = q.location (p.location workingDir) := by
  unfold join
  split
  · rename_i alone
    rcases alone with absolute | none
    · rw [location_of_isAbsolute absolute, location_of_isAbsolute absolute (p.location workingDir)]
    · rw [location_of_isEmpty none]
  · rename_i both
    rw [not_or, Bool.not_eq_true, Bool.not_eq_true] at both
    obtain ⟨relative, filled⟩ := both
    have start : q.location (p.location workingDir) =
        q.pieces.foldl Location.next (p.location workingDir) := by
      rw [location, relative]
      rfl
    rw [start]
    split
    · rename_i slash
      obtain ⟨front, split⟩ := List.getLast?_eq_some_iff.1 slash
      -- the first path ends in an empty piece, which stays where it is
      have joined : (⟨p.text ++ q.text⟩ : Path).text.toList = front ++ '/' :: q.text.toList := by
        rw [String.toList_append, split, List.append_assoc]
        rfl
      have alone : p.pieces = (splitSlash front).map String.ofList ++ [""] :=
        pieces_of_append (q := ⟨""⟩) split
      rw [location, location, isAbsolute_of_append filled String.toList_append,
        pieces_of_append joined, alone, List.foldl_append, List.foldl_append]
      rfl
    · refine location_of_append filled ?_ workingDir
      rw [String.toList_append, String.toList_append, List.append_assoc]
      rfl

/-- An absolute path stays absolute, whatever is joined to it. -/
theorem isAbsolute_join {p : Path} (absolute : p.isAbsolute = true) (q : Path) :
    (p.join q).isAbsolute = true := by
  unfold join
  split
  · rename_i alone
    rcases alone with absolute' | none
    · exact absolute'
    · rw [isAbsolute] at absolute
      rw [isEmpty, String.isEmpty_iff] at none
      rw [none] at absolute
      cases absolute
  · rename_i both
    rw [not_or, Bool.not_eq_true, Bool.not_eq_true] at both
    split
    · rw [isAbsolute_of_append both.2 String.toList_append, absolute]
    · rw [isAbsolute_of_append both.2 (by rw [String.append_assoc]; exact String.toList_append),
        absolute]

/-! ## Paths that do not go up -/

/-- From two directories a path that does not go up leads to two places. -/
theorem location_injective {p : Path} (relative : p.isAbsolute = false)
    (noUp : ".." ∉ p.pieces) {dir dir' : Location} (same : p.location dir = p.location dir') :
    dir = dir' := by
  rw [location, location, relative] at same
  simp only [Bool.false_eq_true, if_false] at same
  generalize p.pieces = pieces at noUp same
  induction pieces generalizing dir dir' with
  | nil => exact same
  | cons piece pieces ih =>
    rw [List.mem_cons, not_or] at noUp
    exact Location.next_injective (Ne.symm noUp.1) (ih noUp.2 same)

/-! ## Single parts -/

/-- A path without a slash is relative. -/
theorem isAbsolute_of_not_mem {text : String} (noSlash : '/' ∉ text.toList) :
    (⟨text⟩ : Path).isAbsolute = false := by
  rw [isAbsolute, beq_eq_false_iff_ne]
  intro slash
  exact noSlash (List.mem_of_head? slash)

/-- A path without a slash is a single step. -/
theorem location_of_not_mem {text : String} (noSlash : '/' ∉ text.toList)
    (workingDir : Location) : (⟨text⟩ : Path).location workingDir = workingDir.next text := by
  have one : (⟨text⟩ : Path).pieces = [text] := by
    rw [pieces, splitSlash_of_not_mem noSlash]
    simp
  rw [location, one, isAbsolute_of_not_mem noSlash]
  rfl

/-- A name that stands for what it names in a directory. -/
structure IsPlain (name : String) : Prop where
  noSlash : '/' ∉ name.toList
  notEmpty : name ≠ ""
  notSelf : name ≠ "."
  notUp : name ≠ ".."

instance (name : String) : Decidable (IsPlain name) :=
  decidable_of_iff ('/' ∉ name.toList ∧ name ≠ "" ∧ name ≠ "." ∧ name ≠ "..")
    ⟨fun ⟨noSlash, notEmpty, notSelf, notUp⟩ => ⟨noSlash, notEmpty, notSelf, notUp⟩,
      fun plain => ⟨plain.noSlash, plain.notEmpty, plain.notSelf, plain.notUp⟩⟩

/-- A plain name leads to the entry of that name in the working directory. -/
theorem IsPlain.location {name : String} (plain : IsPlain name) (workingDir : Location) :
    (⟨name⟩ : Path).location workingDir = name :: workingDir := by
  rw [location_of_not_mem plain.noSlash, Location.next,
    if_neg (not_or.2 ⟨plain.notEmpty, plain.notSelf⟩), if_neg plain.notUp]

end Path

end BitcodeCache
