import FluentSql.Text.Search
/-
# FluentSql.Literal — the quoted literals of an SQL text, and replacing around them.

A literal starts at a single or double quote and ends at the next such quote that no backslash
precedes as its pair; a backslash and the character after it, whatever it is, belong together. A quote
without an end is ordinary text. A text is thereby a sequence of plain and quoted segments, no two
plain ones next to each other, and joining them gives the text back (`flatten_segments`).

Replacing leaves quoted segments alone. Its replacement texts come from a supply: the k-th occurrence
takes the k-th text.
-/

namespace FluentSql.Literal

/-- A piece of an SQL text, never empty. A quoted piece includes its quotes. -/
inductive Segment where
  | plain (text : List Char)
  | quoted (text : List Char)
  deriving Repr, DecidableEq

namespace Segment

/-- The characters of a segment. -/
def chars : Segment → List Char
  | .plain text => text
  | .quoted text => text

/-- Whether the segment is a literal. -/
def isQuoted : Segment → Bool
  | .plain _ => false
  | .quoted _ => true

end Segment

/-- The characters of a sequence of segments. -/
def flatten (segments : List Segment) : List Char := segments.flatMap Segment.chars

/-- The characters that start a literal. -/
def isQuote (c : Char) : Bool := c == '\x27' || c == '\x22'

/-- Splits the text after an opening quote behind the closing one, if there is one. -/
def closing? (quote : Char) : List Char → Option (List Char × List Char)
  | [] => none
  | c :: rest =>
    if c = quote then some ([c], rest)
    else if c = '\x5c' then
      -- A quote behind a backslash ends nothing.
      match rest with
      | [] => none
      | d :: rest => (closing? quote rest).map fun r => (c :: d :: r.1, r.2)
    else (closing? quote rest).map fun r => (c :: r.1, r.2)

theorem append_of_closing? {quote : Char} {cs body rest : List Char}
    (h : closing? quote cs = some (body, rest)) : body ++ rest = cs := by
  fun_induction closing? quote cs generalizing body rest with
  | case1 => simp at h
  | case2 => simp at h; simp [← h.1, ← h.2]
  | case3 => simp at h
  | case4 d rest' hb ih =>
    obtain ⟨r, hr, heq⟩ := Option.map_eq_some_iff.1 h
    simp only [Prod.mk.injEq] at heq
    simp [← heq.1, ← heq.2, ih hr]
  | case5 c rest' hq hb ih =>
    obtain ⟨r, hr, heq⟩ := Option.map_eq_some_iff.1 h
    simp only [Prod.mk.injEq] at heq
    simp [← heq.1, ← heq.2, ih hr]

/-- Puts an ordinary character in front. -/
def consPlain (c : Char) : List Segment → List Segment
  | .plain text :: segments => .plain (c :: text) :: segments
  | segments => .plain [c] :: segments

/-- The segments of an SQL text. -/
def segments : List Char → List Segment
  | [] => []
  | c :: rest =>
    if isQuote c then
      match _found : closing? c rest with
      | some (body, after) => .quoted (c :: body) :: segments after
      -- A quote that is never closed stands for itself, and literals are looked for behind it.
      | none => consPlain c (segments rest)
    else consPlain c (segments rest)
termination_by cs => cs.length
decreasing_by
  · have := congrArg List.length (append_of_closing? _found)
    simp only [List.length_append, List.length_cons] at this ⊢
    omega
  · simp
  · simp

/-- Writes the supplied texts, from the k-th on, between the parts. -/
def weave (supply : Nat → List Char) (k : Nat) : List (List Char) → List Char
  | [] => []
  | [part] => part
  | part :: next :: parts => part ++ supply k ++ weave supply (k + 1) (next :: parts)

/-- Replaces every occurrence of `search` in plain segments, the first by the k-th supplied text. -/
def replaceFrom (search : List Char) (supply : Nat → List Char) (k : Nat) :
    List Segment → List Char
  | [] => []
  | .quoted text :: rest => text ++ replaceFrom search supply k rest
  | .plain text :: rest =>
    -- Between the parts stand so many occurrences, which take so many texts.
    let parts := Text.splitOn search text
    weave supply k parts ++ replaceFrom search supply (k + (parts.length - 1)) rest

/-- Replaces every occurrence of `search` outside literals by the next supplied text. -/
def replaceEach (search : List Char) (supply : Nat → List Char) (cs : List Char) : List Char :=
  replaceFrom search supply 0 (segments cs)

/-- Replaces every occurrence of `search` outside literals by one text. -/
def replaceOutside (search new cs : List Char) : List Char :=
  (segments cs).flatMap fun segment =>
    match segment with
    | .quoted text => text
    | .plain text => Text.replaceAll search new text

/-- The supply that hands out the given texts and then one more text again and again. -/
def supplyOf (texts : Array (List Char)) (after : List Char) (k : Nat) : List Char :=
  texts.getD k after

@[simp] theorem flatten_consPlain (c : Char) (segments : List Segment) :
    flatten (consPlain c segments) = c :: flatten segments := by
  cases segments with
  | nil => simp [consPlain, flatten, Segment.chars]
  | cons segment rest => cases segment <;> simp [consPlain, flatten, Segment.chars]

/-- Nothing is lost: the segments joined are the text. -/
theorem flatten_segments (cs : List Char) : flatten (segments cs) = cs := by
  fun_induction segments cs with
  | case1 => rfl
  | case2 c rest _ body after found ih =>
    have joined := append_of_closing? found
    simp only [flatten, List.flatMap_cons, Segment.chars] at ih ⊢
    simp [ih, joined]
  | case3 c rest _ _ ih => rw [flatten_consPlain, ih]
  | case4 c rest _ ih => rw [flatten_consPlain, ih]

end FluentSql.Literal
