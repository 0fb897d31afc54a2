import BitcodeCache.Proofs.Path

/-!
# Parents

The parent of a path leads to the directory that the path's last part is seen from, and is absolute
where the path is. In a directory a plain name is the last part, and the directory is the parent; so
the paths of locations have the paths of the locations above them as their parents.
-/

namespace BitcodeCache

namespace Path

/-! ## Paths from their ends -/

/-- The path whose text is read from its end. -/
def ofBack (cs : List Char) : Path := ⟨String.ofList cs.reverse⟩

theorem ofBack_reverse (p : Path) : ofBack p.text.toList.reverse = p := by
  rw [ofBack, List.reverse_reverse, String.ofList_toList]

theorem isEmpty_ofBack {cs : List Char} (filled : cs ≠ []) : (ofBack cs).isEmpty = false := by
  rw [isEmpty, ofBack, Bool.eq_false_iff]
  simpa using filled

theorem not_mem_toList_ofList_reverse {last : List Char} (noSlash : '/' ∉ last) :
    '/' ∉ (String.ofList last.reverse).toList := by
  rwa [String.toList_ofList, List.mem_reverse]

/-- A part at the end is joined to what stands before it. -/
theorem ofBack_append {last rest : List Char} (noSlash : '/' ∉ last)
    (cut : ∀ c ∈ rest.head?, c = '/') : ofBack (last ++ rest) = (ofBack rest).join (ofBack last) := by
  have relative : (ofBack last).isAbsolute = false :=
    isAbsolute_of_not_mem (not_mem_toList_ofList_reverse noSlash)
  cases rest with
  | nil => rw [join, if_pos (.inr rfl), List.append_nil]
  | cons c rest =>
    obtain rfl := cut c rfl
    have slash : (ofBack ('/' :: rest)).text.toList.getLast? = some '/' := by simp [ofBack]
    rw [join, relative, isEmpty_ofBack (List.cons_ne_nil _ _), if_neg (by simp), if_pos slash]
    rw [ofBack, List.reverse_append, String.ofList_append]
    rfl

/-- A slash at the end does not change where a path leads. -/
theorem location_ofBack_slash {cs : List Char} (filled : cs ≠ []) (workingDir : Location) :
    (ofBack ('/' :: cs)).location workingDir = (ofBack cs).location workingDir := by
  refine location_of_append (q := ⟨""⟩) (isEmpty_ofBack filled) ?_ workingDir
  simp [ofBack]

/-- Slashes and idle parts at the end of a path do not change where it leads. -/
theorem location_trimBack (cs : List Char) (workingDir : Location) :
    (ofBack (trimBack cs)).location workingDir = (ofBack cs).location workingDir := by
  fun_induction trimBack cs with
  | case1 => rfl
  | case2 rest filled ih => rw [ih, location_ofBack_slash (by simpa using filled)]
  | case3 rest ih =>
    have self : ofBack ('.' :: '/' :: rest) = (ofBack ('/' :: rest)).join ⟨"."⟩ :=
      ofBack_append (by decide : '/' ∉ ['.']) (by simp)
    rw [ih, self, location_join]
    rfl
  | case4 => rfl

/-- What is trimmed from the end of a path does not change where it leads. -/
theorem location_back (p : Path) (workingDir : Location) :
    (ofBack p.back).location workingDir = p.location workingDir := by
  rw [back, location_trimBack, ofBack_reverse]

/-- A path from its end is absolute if a slash comes last. -/
theorem isAbsolute_ofBack (cs : List Char) :
    (ofBack cs).isAbsolute = (cs.getLast? == some '/') := by
  rw [isAbsolute, ofBack, String.toList_ofList, List.head?_reverse]

/-- Trimming at the end leaves the first character in place. -/
theorem getLast?_trimBack (cs : List Char) : (trimBack cs).getLast? = cs.getLast? := by
  fun_induction trimBack cs with
  | case1 => rfl
  | case2 rest filled ih =>
    rw [ih]
    cases rest with
    | nil => exact absurd rfl filled
    | cons c rest => rfl
  | case3 rest ih => exact ih
  | case4 => rfl

/-! ## Parents -/

/-- The parent is what stands before the last part, trimmed again. -/
theorem parent?_eq_some {p q : Path} (h : p.parent? = some q) :
    q = ofBack (trimBack (p.back.dropWhile (· != '/'))) := by
  unfold parent? at h
  split at h
  · cases h
  · cases h
  · cases h
    rfl

/-- Only what is empty or the root after trimming has no parent. -/
theorem parent?_eq_none {p : Path} (h : p.parent? = none) : p.back = [] ∨ p.back = ['/'] := by
  unfold parent? at h
  split at h
  · rename_i none
    exact .inl none
  · rename_i root
    exact .inr root
  · cases h

/-- A path leads one part further than its parent. -/
theorem location_of_parent? {p q : Path} (h : p.parent? = some q) :
    ∃ piece, ∀ workingDir, p.location workingDir = (q.location workingDir).next piece := by
  obtain rfl := parent?_eq_some h
  have noSlash : '/' ∉ p.back.takeWhile (· != '/') := by
    intro member
    simpa using List.all_eq_true.1 List.all_takeWhile _ member
  have cut : ∀ c ∈ (p.back.dropWhile (· != '/')).head?, c = '/' := by
    intro c first
    have stopped := List.head?_dropWhile_not (· != '/') p.back
    rw [Option.mem_def.1 first] at stopped
    simpa using stopped
  have parts : ofBack p.back = (ofBack (p.back.dropWhile (· != '/'))).join
      (ofBack (p.back.takeWhile (· != '/'))) := by
    rw [← ofBack_append noSlash cut, List.takeWhile_append_dropWhile]
  refine ⟨String.ofList (p.back.takeWhile (· != '/')).reverse, fun workingDir => ?_⟩
  calc p.location workingDir
      = (ofBack p.back).location workingDir := (location_back p workingDir).symm
    _ = (ofBack (p.back.takeWhile (· != '/'))).location
          ((ofBack (p.back.dropWhile (· != '/'))).location workingDir) := by
      rw [parts, location_join]
    _ = _ := by
      rw [location_trimBack]
      exact location_of_not_mem (not_mem_toList_ofList_reverse noSlash) _

/-- A path that starts at the root still does without its last part. -/
theorem isAbsolute_of_parent? {p q : Path} (h : p.parent? = some q)
    (absolute : p.isAbsolute = true) : q.isAbsolute = true := by
  obtain rfl := parent?_eq_some h
  rw [← ofBack_reverse p, isAbsolute_ofBack, ← getLast?_trimBack, beq_iff_eq] at absolute
  obtain ⟨front, text⟩ := List.getLast?_eq_some_iff.1 absolute
  rw [isAbsolute_ofBack, getLast?_trimBack, beq_iff_eq, back, text, List.dropWhile_append]
  split <;> simp

/-! ## Plain names -/

section

variable {name : String}

/-- A plain name is not empty and does not end in a slash. -/
theorem IsPlain.reverse_eq (plain : IsPlain name) :
    ∃ c cs, name.toList.reverse = c :: cs ∧ c ≠ '/' := by
  cases chars : name.toList.reverse with
  | nil => exact absurd (by simpa using chars) plain.notEmpty
  | cons c cs =>
    refine ⟨c, cs, rfl, ?_⟩
    rintro rfl
    exact plain.noSlash (List.mem_reverse.1 (chars ▸ List.mem_cons_self))

/-- A plain name at the end is not trimmed. -/
theorem trimBack_plain (plain : IsPlain name) (rest : List Char) :
    trimBack (name.toList.reverse ++ rest) = name.toList.reverse ++ rest := by
  have noSlash : '/' ∉ name.toList.reverse := by simpa using plain.noSlash
  have notSelf : name.toList.reverse ≠ ['.'] := by
    intro self
    refine plain.notSelf (String.toList_inj.1 ?_)
    rw [← List.reverse_reverse name.toList, self]
    rfl
  obtain ⟨c, cs, chars, own⟩ := plain.reverse_eq
  rw [chars] at noSlash notSelf ⊢
  rw [List.cons_append]
  unfold trimBack
  split
  · rename_i text
    exact absurd (List.cons.inj text).1 own
  · rename_i text
    exact absurd (List.cons.inj text).1 own
  · rename_i text
    obtain ⟨rfl, slash⟩ := List.cons.inj text
    cases cs with
    | nil => exact absurd rfl notSelf
    | cons d cs =>
      obtain ⟨rfl, -⟩ := List.cons.inj slash
      exact absurd (List.mem_cons_of_mem _ List.mem_cons_self) noSlash
  · rfl

/-- A name joined to a directory, read from its end. -/
theorem join_plain (plain : IsPlain name) (dir : Path) : ∃ rest,
    (dir.join ⟨name⟩).text.toList.reverse = name.toList.reverse ++ rest ∧
      (∀ c ∈ rest.head?, c = '/') ∧ trimBack rest = dir.back := by
  rw [join, isAbsolute_of_not_mem plain.noSlash]
  cases none : dir.isEmpty with
  | true =>
    obtain ⟨text⟩ := dir
    obtain rfl : text = "" := by simpa [isEmpty] using none
    exact ⟨[], by simp, by simp, rfl⟩
  | false =>
    rw [if_neg (by simp)]
    split
    · rename_i slash
      refine ⟨dir.text.toList.reverse, by simp, ?_, rfl⟩
      intro c first
      rw [List.head?_reverse, slash] at first
      exact (Option.some.inj first).symm
    · refine ⟨'/' :: dir.text.toList.reverse, by simp, by simp, ?_⟩
      rw [back, trimBack]
      simpa using toList_ne_nil none

/-- From the end, a plain name goes up to the first slash. -/
theorem takeWhile_plain (plain : IsPlain name) {rest : List Char}
    (cut : ∀ c ∈ rest.head?, c = '/') :
    (name.toList.reverse ++ rest).takeWhile (· != '/') = name.toList.reverse ∧
      (name.toList.reverse ++ rest).dropWhile (· != '/') = rest := by
  have inside : ∀ c ∈ name.toList.reverse, (c != '/') = true := by
    intro c member
    rw [bne_iff_ne]
    rintro rfl
    exact plain.noSlash (List.mem_reverse.1 member)
  rw [List.takeWhile_append_of_pos inside, List.dropWhile_append_of_pos inside]
  cases rest with
  | nil => simp
  | cons c rest =>
    obtain rfl := cut c rfl
    simp

/-- The last part of a joined path is the plain name that was joined. -/
theorem fileName?_join (plain : IsPlain name) (dir : Path) :
    (dir.join ⟨name⟩).fileName? = some name := by
  obtain ⟨rest, text, cut, -⟩ := join_plain plain dir
  have named : (((dir.join ⟨name⟩).back).takeWhile (· != '/')).reverse = name.toList := by
    rw [back, text, trimBack_plain plain, (takeWhile_plain plain cut).1, List.reverse_reverse]
  have away {short : String} (other : name ≠ short) : name.toList ≠ short.toList :=
    fun same => other (String.toList_inj.1 same)
  rw [fileName?, named, if_neg, String.ofList_toList]
  exact not_or.2 ⟨away plain.notEmpty, not_or.2 ⟨away plain.notSelf, away plain.notUp⟩⟩

/-- The parent of a path in a directory is the directory, without what is idle at its end. -/
theorem parent?_join (plain : IsPlain name) (dir : Path) :
    (dir.join ⟨name⟩).parent? = some (ofBack dir.back) := by
  obtain ⟨rest, text, cut, front⟩ := join_plain plain dir
  have split : (dir.join ⟨name⟩).back = name.toList.reverse ++ rest := by
    rw [back, text, trimBack_plain plain]
  cases parent : (dir.join ⟨name⟩).parent? with
  | some q => rw [parent?_eq_some parent, split, (takeWhile_plain plain cut).2, front]
  | none =>
    obtain ⟨c, cs, chars, own⟩ := plain.reverse_eq
    rw [chars, List.cons_append] at split
    rcases parent?_eq_none parent with none | root
    · cases split.symm.trans none
    · exact absurd (List.cons.inj (split.symm.trans root)).1 own

end

end Path

namespace Location

/-! ## Paths of locations -/

open BitcodeCache.Path

variable {name : String} {loc : Location}

theorem isAbsolute_path (loc : Location) : (Location.path loc).isAbsolute = true := by
  simp [Location.path, isAbsolute]

/-- A location's path is that of the directory above it, joined with the name. -/
theorem path_cons (plain : ∀ part ∈ loc, IsPlain part) (own : IsPlain name) :
    Location.path (name :: loc) = (Location.path loc).join ⟨name⟩ := by
  induction loc generalizing name with
  | nil => simp [join, isAbsolute_of_not_mem own.noSlash, Location.path, isEmpty]
  | cons above loc ih =>
    obtain ⟨ownAbove, plain⟩ := List.forall_mem_cons.1 plain
    have filled : (Location.path (above :: loc)).isEmpty = false := by simp [Location.path, isEmpty]
    -- the path so far ends in a name, so a slash is put behind it
    have last : (Location.path (above :: loc)).text.toList.getLast? ≠ some '/' := by
      obtain ⟨rest, text, -, -⟩ := join_plain ownAbove (Location.path loc)
      obtain ⟨c, cs, chars, own⟩ := ownAbove.reverse_eq
      rw [ih plain ownAbove, ← List.head?_reverse, text, chars]
      exact fun slash => own (Option.some.inj slash)
    rw [join, isAbsolute_of_not_mem own.noSlash, filled, if_neg (by simp), if_neg last,
      Location.path, List.reverse_cons, String.intercalate_append_of_ne_nil (by simp) (by simp)]
    simp [Location.path, String.append_assoc]

/-- The path of a location has nothing to be trimmed. -/
theorem back_path (plain : ∀ part ∈ loc, IsPlain part) :
    ofBack (Location.path loc).back = Location.path loc := by
  cases loc with
  | nil => decide
  | cons name loc =>
    obtain ⟨own, plain⟩ := List.forall_mem_cons.1 plain
    obtain ⟨rest, text, -, -⟩ := join_plain own (Location.path loc)
    rw [path_cons plain own, back, text, trimBack_plain own, ← text, ofBack_reverse]

theorem parent?_path_nil : (Location.path []).parent? = none := by decide

/-- The parent of a location's path is the path of the directory it is in. -/
theorem parent?_path_cons (plain : ∀ part ∈ name :: loc, IsPlain part) :
    (Location.path (name :: loc)).parent? = some (Location.path loc) := by
  obtain ⟨own, plain⟩ := List.forall_mem_cons.1 plain
  rw [path_cons plain own, parent?_join own, back_path plain]

/-- The pieces of a location's path are its parts from the root on, behind the empty one. -/
theorem pieces_path (plain : ∀ part ∈ name :: loc, IsPlain part) :
    (Location.path (name :: loc)).pieces = "" :: (name :: loc).reverse := by
  induction loc generalizing name with
  | nil =>
    have own := (List.forall_mem_cons.1 plain).1
    have split : (Location.path [name]).text.toList = [] ++ '/' :: (⟨name⟩ : Path).text.toList := by
      simp [Location.path]
    rw [pieces_of_append split, Path.pieces, splitSlash_of_not_mem own.noSlash]
    simp [splitSlash]
  | cons above loc ih =>
    obtain ⟨own, plain⟩ := List.forall_mem_cons.1 plain
    have split : (Location.path (name :: above :: loc)).text.toList =
        (Location.path (above :: loc)).text.toList ++ '/' :: (⟨name⟩ : Path).text.toList := by
      rw [Location.path, List.reverse_cons (a := name),
        String.intercalate_append_of_ne_nil (by simp) (by simp)]
      simp [Location.path]
    rw [pieces_of_append split, ← pieces, ih plain, Path.pieces,
      splitSlash_of_not_mem own.noSlash]
    simp

end Location

end BitcodeCache
