import FluentSql.Condition
import FluentSql.Proofs.Record.AlikeConditions
/-
# FluentSql.Proofs.Condition.Alternatives — conditions that offer alternatives.

A condition may hold exactly where one of several groups of comparisons holds (`Fragment.Offers`): a comparison is its
own only alternative, a column that is among several values is equal to one of them, and any of several groups is what
it says. The ways to write such a condition end differently, and longer columns make a longer text, so a condition does
not also offer the same alternatives with longer columns (`Fragment.Offers.eq_of_isBareOf`).
-/

namespace FluentSql

/-! ## What a condition offers -/

/-- The comparison as a condition by itself. -/
def Comparison.condition (c : Comparison) : Fragment := .comparison c.column c.operator [c.value]

/-- The condition holds exactly where all comparisons of one of several groups hold. A column that is among some
values is equal to one of them. -/
inductive Fragment.Offers : Fragment → List (List Comparison) → Prop
  | comparison (c : Comparison) : Offers c.condition [[c]]
  | among (column : String) (values : List Value) :
    Offers (.membership column "IN" (.ofTerms (values.map .bound))) (values.map fun value => [⟨column, "=", value⟩])
  | anyOf (groups : List (List Comparison)) : Offers (.anyOf groups) groups

/-- The values of the condition are those of its alternatives, in order. -/
theorem Fragment.Offers.values {f : Fragment} {groups : List (List Comparison)} (h : f.Offers groups) :
    f.values = groups.flatten.map (·.value) := by
  cases h with
  | comparison c => rfl
  | among column values =>
      show (values.map Term.bound).filterMap Term.value? = _
      simp [List.filterMap_map, Function.comp_def, Term.value?, ← List.flatMap_def, List.map_flatMap]
  | anyOf groups => rfl

/-! ## How long conditions are -/

/-- Lists whose items are the same or have more weight are the same, or one has more weight. -/
theorem eq_or_sum_lt {α : Type} (weight : α → Nat) {items items' : List α}
    (h : List.Forall₂ (fun a b => a = b ∨ weight a < weight b) items items') :
    items = items' ∨ (items.map weight).sum < (items'.map weight).sum := by
  induction h with
  | nil => exact .inl rfl
  | cons hfirst _ ih =>
      simp only [List.map_cons, List.sum_cons]
      rcases hfirst with rfl | hfirst <;> rcases ih with rfl | ih
      · exact .inl rfl
      · exact .inr (by omega)
      · exact .inr (by omega)
      · exact .inr (by omega)

/-- How long words are with a blank after each. -/
def wordsLength (words : List String) : Nat := (words.map (·.length + 1)).sum

theorem length_spaced {words : List String} (hne : words ≠ []) :
    (" ".intercalate words).length + 1 = wordsLength words := by
  induction words with
  | nil => exact absurd rfl hne
  | cons word words ih =>
      cases words with
      | nil => simp [wordsLength]
      | cons next words =>
          have hrest := ih (List.cons_ne_nil _ _)
          rw [String.intercalate_cons_cons]
          simp only [wordsLength, List.map_cons, List.sum_cons, String.length_append] at hrest ⊢
          have hblank : (" " : String).length = 1 := rfl
          omega

theorem wordsLength_append (words words' : List String) :
    wordsLength (words ++ words') = wordsLength words + wordsLength words' := by
  simp [wordsLength]

theorem wordsLength_intercalate (glue : List String) (pieces : List (List String)) (hne : pieces ≠ []) :
    wordsLength (glue.intercalate pieces) + wordsLength glue =
      (pieces.map fun piece => wordsLength piece + wordsLength glue).sum := by
  induction pieces with
  | nil => exact absurd rfl hne
  | cons piece pieces ih =>
      cases pieces with
      | nil => simp
      | cons next pieces =>
          have hrest := ih (List.cons_ne_nil _ _)
          rw [List.intercalate_cons_cons, wordsLength_append, wordsLength_append, Nat.add_assoc, hrest]
          simp

/-- Pieces that are the same or longer make the same list with glue between them, or a longer one. -/
theorem eq_or_wordsLength_lt {α : Type} (glue : List String) {words : α → List String} {items items' : List α}
    (h : List.Forall₂ (fun a b => a = b ∨ wordsLength (words a) < wordsLength (words b)) items items') :
    items = items' ∨
      wordsLength (glue.intercalate (items.map words)) < wordsLength (glue.intercalate (items'.map words)) := by
  refine (eq_or_sum_lt (fun a => wordsLength (words a) + wordsLength glue)
    (h.imp fun a b hab => hab.imp_right fun hlt => Nat.add_lt_add_right hlt _)).imp_right fun hlt => ?_
  have hne' : items' ≠ [] := by
    rintro rfl
    exact absurd hlt (Nat.not_lt_zero _)
  have hne : items ≠ [] := by
    rintro rfl
    exact hne' (List.forall₂_nil_left_iff.1 h)
  have hlength := wordsLength_intercalate glue (items.map words) (by simpa using hne)
  have hlength' := wordsLength_intercalate glue (items'.map words) (by simpa using hne')
  rw [List.map_map] at hlength hlength'
  simp only [Function.comp_def] at hlength hlength'
  omega

/-- The column of a comparison is shorter than that of another with the same operator, or they are the same. -/
def Comparison.IsBareOf (c c' : Comparison) : Prop :=
  c = c' ∨ c.column.length < c'.column.length ∧ c.operator = c'.operator

/-- Groups with shorter columns are written as a shorter condition. -/
theorem groups_eq_of_text_eq {groups groups' : List (List Comparison)}
    (hbare : List.Forall₂ (List.Forall₂ Comparison.IsBareOf) groups groups')
    (htext : (Fragment.anyOf groups).text = (Fragment.anyOf groups').text) : groups = groups' := by
  have hgroup : ∀ group group', List.Forall₂ Comparison.IsBareOf group group' →
      group = group' ∨ wordsLength (Fragment.groupWords group) < wordsLength (Fragment.groupWords group') := by
    refine fun group group' hgroup => eq_or_wordsLength_lt ["AND"] (hgroup.imp fun c c' h => ?_)
    refine h.imp_right fun ⟨hcolumn, hoperator⟩ => ?_
    simp only [wordsLength, Comparison.words, List.map_cons, List.map_nil, List.sum_cons, hoperator]
    omega
  refine (eq_or_wordsLength_lt [") OR ("] (hbare.imp hgroup)).resolve_right fun hlt => ?_
  have hlength : ∀ inner : List String,
      (" ".intercalate (["(("] ++ inner ++ ["))"])).length + 1 = 3 + wordsLength inner + 3 := by
    intro inner
    rw [length_spaced (by simp), wordsLength_append, wordsLength_append]
    rfl
  have hone := hlength ([") OR ("].intercalate (groups.map Fragment.groupWords))
  have hother := hlength ([") OR ("].intercalate (groups'.map Fragment.groupWords))
  have hsame : " ".intercalate (["(("] ++ [") OR ("].intercalate (groups.map Fragment.groupWords) ++ ["))"]) =
      " ".intercalate (["(("] ++ [") OR ("].intercalate (groups'.map Fragment.groupWords) ++ ["))"]) :=
    Piece.text.inj htext
  rw [hsame] at hone
  omega

/-! ## How conditions end -/

theorem ending_eq_of_append_eq {front front' ending ending' : String} (hlength : ending.length = ending'.length)
    (h : front ++ ending = front' ++ ending') : ending = ending' := by
  have hchars : front.toList ++ ending.toList = front'.toList ++ ending'.toList := by
    simpa using congrArg String.toList h
  rw [← String.toList_inj]
  exact (List.append_inj' hchars (by simpa [String.length_toList] using hlength)).2

theorem ends_intercalate (glue : String) (words : List String) (last : String) :
    ∃ front, glue.intercalate (words ++ [last]) = front ++ last := by
  induction words with
  | nil => exact ⟨"", by simp⟩
  | cons word words ih =>
      obtain ⟨front, hfront⟩ := ih
      obtain ⟨next, rest, hrest⟩ := List.exists_cons_of_ne_nil (List.concat_ne_nil last words)
      refine ⟨word ++ glue ++ front, ?_⟩
      rw [String.append_assoc, ← hfront, List.cons_append, hrest, String.intercalate_cons_cons]

theorem ends_membership (column operator : String) {values : List Value} (hne : values ≠ []) :
    ∃ front, (Fragment.membership column operator (.ofTerms (values.map .bound))).text = .text (front ++ "?)") := by
  obtain ⟨values, value, rfl⟩ := List.eq_nil_or_concat values |>.resolve_left hne
  obtain ⟨front, hfront⟩ := ends_intercalate ", " (values.map fun v => (Term.bound v).text) "?"
  refine ⟨column ++ " " ++ operator ++ " (" ++ front, ?_⟩
  have hslots : (Placeholders.ofTerms ((values ++ [value]).map .bound)).text = front ++ "?" := by
    rw [← hfront, Placeholders.ofTerms]
    simp [Function.comp_def, Term.text]
  rw [Fragment.membership, List.concat_eq_append, hslots]
  simp [String.append_assoc]

theorem ends_anyOf (groups : List (List Comparison)) :
    ∃ front, (Fragment.anyOf groups).text = .text (front ++ "))") := by
  obtain ⟨front, hfront⟩ := ends_intercalate " "
    (["(("] ++ [") OR ("].intercalate (groups.map Fragment.groupWords)) "))"
  exact ⟨front, congrArg Piece.text hfront⟩

/-- A condition that offers alternatives is written in one of three ways, each with an ending of its own. -/
theorem Fragment.Offers.ends {f : Fragment} {groups : List (List Comparison)} (h : f.Offers groups)
    (hne : groups ≠ []) :
    ∃ front,
      (∃ c : Comparison, groups = [[c]] ∧ f.text = c.condition.text ∧ f.text = .text (front ++ " ?")) ∨
      (∃ (column : String) (values : List Value), groups = values.map (fun value => [⟨column, "=", value⟩]) ∧
        f.text = (Fragment.membership column "IN" (.ofTerms (values.map .bound))).text ∧
        f.text = .text (front ++ "?)")) ∨
      f.text = (Fragment.anyOf groups).text ∧ f.text = .text (front ++ "))") := by
  cases h with
  | comparison c => exact ⟨_, .inl ⟨c, rfl, rfl, rfl⟩⟩
  | among column values =>
      have hvalues : values ≠ [] := by simpa using hne
      obtain ⟨front, hfront⟩ := ends_membership column "IN" hvalues
      exact ⟨front, .inr (.inl ⟨column, values, rfl, rfl, hfront⟩)⟩
  | anyOf groups =>
      obtain ⟨front, hfront⟩ := ends_anyOf groups
      exact ⟨front, .inr (.inr ⟨rfl, hfront⟩)⟩

/-- A condition that offers alternatives offers none with longer columns. -/
theorem Fragment.Offers.eq_of_isBareOf {f : Fragment} {groups groups' : List (List Comparison)}
    (h : f.Offers groups) (h' : f.Offers groups')
    (hbare : List.Forall₂ (List.Forall₂ Comparison.IsBareOf) groups groups') : groups = groups' := by
  by_cases hne : groups = []
  · subst hne
    exact (List.forall₂_nil_left_iff.1 hbare).symm
  have hne' : groups' ≠ [] := fun hnil => hne (List.forall₂_nil_right_iff.1 (hnil ▸ hbare))
  obtain ⟨front, hways⟩ := h.ends hne
  obtain ⟨front', hways'⟩ := h'.ends hne'
  have hends : ∀ {ending ending' : String}, f.text = .text (front ++ ending) → f.text = .text (front' ++ ending') →
      ending.length = ending'.length → ending = ending' := fun hone hother hlength =>
    ending_eq_of_append_eq hlength (Piece.text.inj (hone.symm.trans hother))
  rcases hways with ⟨c, rfl, htext, hend⟩ | ⟨column, values, rfl, htext, hend⟩ | ⟨htext, hend⟩ <;>
    rcases hways' with ⟨c', rfl, htext', hend'⟩ | ⟨column', values', rfl, htext', hend'⟩ | ⟨htext', hend'⟩
  case inl.inl =>
    have hcomparison : c.IsBareOf c' := by simpa using hbare
    obtain rfl | ⟨hcolumn, hoperator⟩ := hcomparison
    · rfl
    · have hlength := congrArg String.length (Piece.text.inj (htext.symm.trans htext'))
      simp only [String.length_append, hoperator] at hlength
      omega
  case inr.inl.inr.inl =>
    have hcount : values.length = values'.length := by simpa using hbare.length_eq
    have hlength := congrArg String.length (Piece.text.inj (htext.symm.trans htext'))
    have hslots : (Placeholders.ofTerms (values.map .bound)).text = (Placeholders.ofTerms (values'.map .bound)).text :=
      Record.text_boundAll_eq hcount
    simp only [hslots, String.length_append] at hlength
    rw [← List.forall₂_eq_eq_eq]
    refine (List.forall₂_map_left_iff.2 (List.forall₂_map_right_iff.2 ?_))
    refine (List.forall₂_map_left_iff.1 (List.forall₂_map_right_iff.1 hbare)).imp fun value value' hone => ?_
    have hcomparison : Comparison.IsBareOf ⟨column, "=", value⟩ ⟨column', "=", value'⟩ := by simpa using hone
    rcases hcomparison with heq | ⟨hcolumn, -⟩
    · rw [heq]
    · simp only at hcolumn
      omega
  case inr.inr.inr.inr => exact groups_eq_of_text_eq hbare (htext.symm.trans htext')
  all_goals exact absurd (hends hend hend' rfl) (by decide)

end FluentSql
