/-
# FluentSql.Text.Search — finding, splitting and replacing a text inside another.

Occurrences are taken from left to right and never overlap. Splitting returns the parts between the
occurrences, one more than there are occurrences; joining the parts with the searched text gives the
subject back (`intercalate_splitOn`). An empty search text occurs nowhere.
-/

namespace FluentSql.Text

/-- What follows `pattern` at the front of the text, if the text starts with it. -/
def afterMatch? : List Char → List Char → Option (List Char)
  | [], cs => some cs
  | _ :: _, [] => none
  | p :: ps, c :: cs => if p = c then afterMatch? ps cs else none

theorem append_of_afterMatch? {pattern cs after : List Char}
    (h : afterMatch? pattern cs = some after) : pattern ++ after = cs := by
  induction pattern generalizing cs with
  | nil => simpa [afterMatch?] using h.symm
  | cons p ps ih =>
    cases cs with
    | nil => simp [afterMatch?] at h
    | cons c cs =>
      by_cases hpc : p = c
      · simp [afterMatch?, hpc] at h
        simp [hpc, ih h]
      · simp [afterMatch?, hpc] at h

/-- Whether the pattern occurs in the text. -/
def occursIn (pattern : List Char) : List Char → Bool
  | [] => pattern.isEmpty
  | c :: cs => (afterMatch? pattern (c :: cs)).isSome || occursIn pattern cs

/-- Puts a character in front of the first part. -/
def consFirst (c : Char) : List (List Char) → List (List Char)
  | [] => [[c]]
  | part :: parts => (c :: part) :: parts

/-- The parts of the text between the occurrences of the pattern. -/
def splitOn (pattern cs : List Char) : List (List Char) :=
  match pattern, cs with
  | [], cs => [cs]
  | _ :: _, [] => [[]]
  | p :: ps, c :: cs =>
    -- The search goes on behind an occurrence, so occurrences never overlap.
    match _found : afterMatch? (p :: ps) (c :: cs) with
    | some after => [] :: splitOn (p :: ps) after
    | none => consFirst c (splitOn (p :: ps) cs)
termination_by cs.length
decreasing_by
  · have := congrArg List.length (append_of_afterMatch? _found)
    simp only [List.length_append, List.length_cons] at this ⊢
    omega
  · simp

/-- The text with every occurrence of `old` replaced by `new`. -/
def replaceAll (old new cs : List Char) : List Char := new.intercalate (splitOn old cs)

theorem splitOn_ne_nil (pattern cs : List Char) : splitOn pattern cs ≠ [] := by
  cases pattern with
  | nil => simp [splitOn]
  | cons p ps =>
    cases cs with
    | nil => simp [splitOn]
    | cons c cs =>
      rw [splitOn]
      split
      · simp
      · cases splitOn (p :: ps) cs <;> simp [consFirst]

theorem intercalate_consFirst (glue : List Char) (c : Char) {parts : List (List Char)}
    (h : parts ≠ []) : glue.intercalate (consFirst c parts) = c :: glue.intercalate parts := by
  match parts, h with
  | [part], _ => simp [consFirst, List.intercalate]
  | part :: next :: parts, _ => simp [consFirst, List.intercalate]

/-- Nothing is lost: the parts joined with the pattern are the text. -/
theorem intercalate_splitOn (pattern cs : List Char) :
    pattern.intercalate (splitOn pattern cs) = cs := by
  fun_induction splitOn pattern cs with
  | case1 => simp [List.intercalate]
  | case2 => simp [List.intercalate]
  | case3 p ps c cs after h ih =>
    have key := append_of_afterMatch? h
    obtain ⟨part, parts, hparts⟩ := List.exists_cons_of_ne_nil (splitOn_ne_nil (p :: ps) after)
    rw [hparts] at ih ⊢
    rw [← key, ← ih]
    simp [List.intercalate]
  | case4 p ps c cs h ih =>
    rw [intercalate_consFirst _ _ (splitOn_ne_nil _ _), ih]

end FluentSql.Text
