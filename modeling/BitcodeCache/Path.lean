/-!
# Paths

A path is a text whose parts stand between slashes. `join`, `parent?` and `fileName?` work on the
text alone and ask no file system. Empty parts, and parts that name the directory itself, count for
nothing except at the very front; a part that goes up is kept as it is.
-/

namespace BitcodeCache

/-- Where a file or directory stands: absolute, or seen from the working directory. -/
structure Path where
  text : String
deriving DecidableEq, Repr, Inhabited

namespace Path

/-- The pieces of a text between its slashes, one more than there are slashes. -/
def splitSlash : List Char → List (List Char)
  | [] => [[]]
  | c :: cs =>
    if c = '/' then [] :: splitSlash cs
    else match splitSlash cs with
      | [] => [[c]]
      | piece :: pieces => (c :: piece) :: pieces

/-- Whether the path starts at the root. -/
def isAbsolute (p : Path) : Bool := p.text.toList.head? == some '/'

/-- Whether the path has no characters. -/
def isEmpty (p : Path) : Bool := p.text.isEmpty

/-- Cuts off, from the back of a path, all slashes and all pieces `.`; the text is given reversed. The root
and a leading piece `.` stay. -/
def trimBack : List Char → List Char
  | ['/'] => ['/']
  | '/' :: rest => trimBack rest
  | '.' :: '/' :: rest => trimBack ('/' :: rest)
  | back => back

/-- The text without the slashes and idle pieces at its end, last character first. -/
def back (p : Path) : List Char := trimBack p.text.toList.reverse

/-- The last part, unless it goes up; a path that ends in no part has none. -/
def fileName? (p : Path) : Option String :=
  let name := (p.back.takeWhile (· != '/')).reverse
  if name = [] ∨ name = ['.'] ∨ name = ['.', '.'] then none else some (String.ofList name)

/-- The path without its last part; the root and the empty path have none. -/
def parent? (p : Path) : Option Path :=
  match p.back with
  | [] => none
  | ['/'] => none
  | back => some ⟨String.ofList (trimBack (back.dropWhile (· != '/'))).reverse⟩

/-- The path of `q` seen from the directory `p`. -/
def join (p q : Path) : Path :=
  if q.isAbsolute ∨ p.isEmpty then q
  else if p.text.toList.getLast? = some '/' then ⟨p.text ++ q.text⟩
  else ⟨p.text ++ "/" ++ q.text⟩

theorem length_trimBack_le (cs : List Char) : (trimBack cs).length ≤ cs.length := by
  fun_induction trimBack cs with
  | case1 => simp
  | case2 rest _ ih => simp only [List.length_cons]; omega
  | case3 rest ih => simp only [List.length_cons] at ih ⊢; omega
  | case4 => simp

/-- After trimming, a slash stands at the back only if it is the root. -/
theorem trimBack_slash {cs rest : List Char} (h : trimBack cs = '/' :: rest) : rest = [] := by
  fun_induction trimBack cs with
  | case1 => simpa using h.symm
  | case2 _ _ ih => exact ih h
  | case3 _ ih => exact ih h
  | case4 back root slash dot =>
    subst h
    cases rest with
    | nil => rfl
    | cons c cs => exact absurd rfl (slash (c :: cs))

/-- The text of a parent is shorter, so going up from parent to parent ends. -/
theorem length_parent?_lt {p q : Path} (h : p.parent? = some q) :
    q.text.length < p.text.length := by
  have shorter := length_trimBack_le p.text.toList.reverse
  have slash (rest : List Char) : trimBack p.text.toList.reverse = '/' :: rest → rest = [] :=
    trimBack_slash
  unfold parent? back at h
  generalize trimBack p.text.toList.reverse = b at h shorter slash
  match b with
  | [] => cases h
  | c :: cs =>
    have hc : c ≠ '/' := by
      rintro rfl
      obtain rfl := slash cs rfl
      simp at h
    split at h
    · cases h
    · cases h
    · cases h
      have cut := length_trimBack_le ((c :: cs).dropWhile (· != '/'))
      have drop : ((c :: cs).dropWhile (· != '/')).length ≤ cs.length := by
        rw [List.dropWhile_cons_of_pos (by simpa using hc)]
        exact (List.dropWhile_sublist _).length_le
      simp only [String.length_ofList, List.length_reverse]
      simp only [List.length_cons, List.length_reverse, String.length_toList] at shorter
      omega

end Path

end BitcodeCache
