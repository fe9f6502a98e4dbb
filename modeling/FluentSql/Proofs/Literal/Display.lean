import FluentSql.Proofs.Literal.Placeholders
/-
# FluentSql.Proofs.Literal.Display — what a logged statement shows in each place.

Each character of a statement stands in a literal or outside of all (`marked`). Filling the placeholders of a statement
for its log goes through these characters once: a question mark outside literals gives way to the next parameter as long
as there is one, and every other character stays (`bindForDisplay_eq_mapIdx`). What a parameter looks like decides
nothing about the places of the others.
-/

namespace FluentSql

namespace Literal

open Template (ofLetters renderFrom)

/-! ## Characters and where they stand -/

/-- The characters of a text, each with whether it stands outside literals. -/
def marked (cs : List Char) : List (Char × Bool) := (segments cs).flatMap fun s => s.chars.map fun c => (c, !s.isQuoted)

/-- A question mark outside literals. -/
def isPlaceholder (p : Char × Bool) : Bool := p.1 == '?' && p.2

/-- The text with texts in place of its placeholders, from the k-th text on: a placeholder takes the text whose number is
that of the placeholders before it. -/
def filledFrom (supply : Nat → List Char) (k : Nat) (ps : List (Char × Bool)) : List Char :=
  (ps.mapIdx fun i p => if isPlaceholder p then supply (k + (ps.take i).countP isPlaceholder) else [p.1]).flatten

variable {supply : Nat → List Char}

/-- Marking leaves the characters as they are. -/
theorem map_fst_marked (cs : List Char) : (marked cs).map Prod.fst = cs := by
  have hsegment : ∀ s : Segment, (s.chars.map fun c => (c, !s.isQuoted)).map Prod.fst = s.chars := by
    intro s
    rw [List.map_map]
    exact List.map_id _
  rw [marked, List.map_flatMap]
  simp only [hsegment]
  exact flatten_segments cs

theorem filledFrom_cons_placeholder {p : Char × Bool} (hp : isPlaceholder p = true) (k : Nat) (ps : List (Char × Bool)) :
    filledFrom supply k (p :: ps) = supply k ++ filledFrom supply (k + 1) ps := by
  have hcount : ∀ i, k + ((p :: ps).take (i + 1)).countP isPlaceholder =
      k + 1 + (ps.take i).countP isPlaceholder := by
    intro i
    rw [List.take_succ_cons, List.countP_cons_of_pos hp]
    omega
  simp only [filledFrom, List.mapIdx_cons, List.flatten_cons, hp, hcount]
  rfl

theorem filledFrom_cons_other {p : Char × Bool} (hp : isPlaceholder p = false) (k : Nat) (ps : List (Char × Bool)) :
    filledFrom supply k (p :: ps) = p.1 :: filledFrom supply k ps := by
  have hcount : ∀ i, ((p :: ps).take (i + 1)).countP isPlaceholder = (ps.take i).countP isPlaceholder := by
    intro i
    rw [List.take_succ_cons, List.countP_cons_of_neg (by rw [hp]; exact Bool.false_ne_true)]
  simp only [filledFrom, List.mapIdx_cons, List.flatten_cons, hp, hcount]
  rfl

/-- The token of a character where it stands. -/
def markedToken (p : Char × Bool) : Token := if isPlaceholder p then .slot else .letter p.1

/-- The template of a text has a token for each of its characters. -/
theorem template_eq_map (cs : List Char) : template cs = (marked cs).map markedToken := by
  have hsegment : ∀ s : Segment, s.template = (s.chars.map fun c => (c, !s.isQuoted)).map markedToken := by
    intro s
    cases s with
    | plain text => simp [Segment.template, Segment.chars, Segment.isQuoted, markedToken, isPlaceholder, token]
    | quoted text => simp [Segment.template, Segment.chars, Segment.isQuoted, markedToken, isPlaceholder, ofLetters]
  rw [template, marked, List.map_flatMap]
  exact congrArg (fun f => (segments cs).flatMap f) (funext hsegment)

theorem renderFrom_map_markedToken (k : Nat) (ps : List (Char × Bool)) :
    renderFrom id supply k (ps.map markedToken) = filledFrom supply k ps := by
  induction ps generalizing k with
  | nil => rfl
  | cons p ps ih =>
      rw [List.map_cons, markedToken]
      cases hp : isPlaceholder p with
      | true => rw [if_pos rfl, Template.renderFrom_slot, ih, filledFrom_cons_placeholder hp]
      | false =>
          rw [if_neg Bool.false_ne_true, Template.renderFrom_cons rfl, ih, filledFrom_cons_other hp]
          rfl

theorem replaceEach_eq_filledFrom (cs : List Char) : replaceEach ['?'] supply cs = filledFrom supply 0 (marked cs) := by
  rw [replaceEach_eq_fill, template_eq_map, Template.fill, renderFrom_map_markedToken]

theorem countP_marked (cs : List Char) : (marked cs).countP isPlaceholder = slotsOutside cs := by
  rw [← slots_template, template_eq_map, Template.slots, List.countP_map]
  refine List.countP_congr fun p _ => ?_
  cases hp : isPlaceholder p <;> simp [markedToken, hp, Token.isSlot]

end Literal

open Literal (filledFrom isPlaceholder marked supplyOf)

/-! ## Logged statements -/

/-- A statement without parameters is logged like any other: all its question marks stay. -/
theorem bindForDisplay_eq_fillPlaceholders (quote : Value → String) (query : String) (values : List Value) :
    bindForDisplay quote query (.positional values) = fillPlaceholders query (values.map quote) := by
  cases values with
  | cons v values => rfl
  | nil =>
      have hsupply : supplyOf #[] ['?'] = fun _ => ['?'] := rfl
      rw [List.map_nil, fillPlaceholders, List.map_nil, hsupply, Literal.replaceEach_eq_fill, Template.fill,
        Template.renderFrom_questionMarks, Literal.text_template, String.ofList_toList]
      rfl

/-- The k-th text to show: the parameter, or a question mark if there are not so many. -/
def shown (quote : Value → String) (values : List Value) (k : Nat) : List Char :=
  match values[k]? with
  | some v => (quote v).toList
  | none => ['?']

theorem supplyOf_map (quote : Value → String) (values : List Value) :
    supplyOf ((values.map quote).map String.toList).toArray ['?'] = shown quote values := by
  funext k
  rw [supplyOf, shown, Array.getD_eq_getD_getElem?, List.getElem?_toArray, List.map_map, List.getElem?_map]
  cases values[k]? <;> rfl

theorem toList_bindForDisplay (quote : Value → String) (query : String) (values : List Value) :
    (bindForDisplay quote query (.positional values)).toList =
      filledFrom (shown quote values) 0 (marked query.toList) := by
  rw [bindForDisplay_eq_fillPlaceholders, fillPlaceholders, String.toList_ofList, supplyOf_map,
    Literal.replaceEach_eq_filledFrom]

/-- Parameters beyond the placeholders change nothing. -/
theorem bindForDisplay_take (quote : Value → String) (query : String) (values : List Value) :
    bindForDisplay quote query (.positional (values.take ((marked query.toList).countP isPlaceholder))) =
      bindForDisplay quote query (.positional values) := by
  rw [bindForDisplay_eq_fillPlaceholders, bindForDisplay_eq_fillPlaceholders, fillPlaceholders, fillPlaceholders,
    supplyOf_map, supplyOf_map, Literal.replaceEach_eq_fill, Literal.replaceEach_eq_fill]
  refine congrArg String.ofList (Template.fill_congr fun k hk => ?_)
  rw [Literal.slots_template, ← Literal.countP_marked] at hk
  rw [shown, shown, List.getElem?_take, if_pos hk]

/-- **A logged statement shows each parameter in its place.** The characters of the statement are gone through once, each
as it stands in the statement itself: a question mark outside literals shows the parameter whose number is that of such
question marks before it, or stays if there are not so many parameters, and every other character stays. Parameters
beyond the placeholders are not shown. -/
theorem bindForDisplay_eq_mapIdx (quote : Value → String) (query : String) (values : List Value) :
    (marked query.toList).map Prod.fst = query.toList ∧
      (bindForDisplay quote query (.positional values)).toList =
        ((marked query.toList).mapIdx fun i p =>
          if isPlaceholder p then shown quote values (((marked query.toList).take i).countP isPlaceholder)
          else [p.1]).flatten ∧
      bindForDisplay quote query (.positional (values.take ((marked query.toList).countP isPlaceholder))) =
        bindForDisplay quote query (.positional values) := by
  refine ⟨Literal.map_fst_marked query.toList, ?_, bindForDisplay_take quote query values⟩
  rw [toList_bindForDisplay, filledFrom]
  simp only [Nat.zero_add]

end FluentSql
