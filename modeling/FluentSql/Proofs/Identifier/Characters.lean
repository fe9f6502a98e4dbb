import FluentSql.Identifier
import FluentSql.Proofs.Text.Filling
/-
# FluentSql.Proofs.Identifier.Characters — the characters of quoted names.

A quoted name holds no characters but those of the name and of the mark, and the points between its
parts. So a name without a question mark has none when it is quoted. A name with a table in front is
quoted like the two names with a point between them.
-/

namespace FluentSql

namespace Text

theorem mem_intercalate_of_mem {c : Char} {piece : List Char} (glue : List Char)
    (hc : c ∈ piece) : ∀ {pieces : List (List Char)}, piece ∈ pieces → c ∈ glue.intercalate pieces
  | [_], h => by
      rw [List.mem_singleton] at h
      simpa [h] using hc
  | first :: next :: pieces, h => by
      rw [List.intercalate_cons_cons]
      rcases List.mem_cons.1 h with rfl | h
      · simp [hc]
      · exact List.mem_append_right _ (mem_intercalate_of_mem glue hc h)

theorem mem_of_mem_splitOn {c : Char} {pattern cs part : List Char}
    (hpart : part ∈ splitOn pattern cs) (hc : c ∈ part) : c ∈ cs := by
  rw [← intercalate_splitOn pattern cs]
  exact mem_intercalate_of_mem pattern hc hpart

theorem not_mem_intercalate {c : Char} {glue : List Char} (hglue : c ∉ glue)
    {pieces : List (List Char)} (h : ∀ piece ∈ pieces, c ∉ piece) : c ∉ glue.intercalate pieces :=
  intercalate_closed (P := fun cs => c ∉ cs) (by simp)
    (fun hcs hds hmem => (List.mem_append.1 hmem).elim hcs hds) hglue h

theorem not_mem_replaceAll {c : Char} {old new cs : List Char} (hnew : c ∉ new) (hcs : c ∉ cs) :
    c ∉ replaceAll old new cs :=
  not_mem_intercalate hnew fun _ hpart hc => hcs (mem_of_mem_splitOn hpart hc)

theorem not_mem_string_intercalate {c : Char} {glue : String} (hglue : c ∉ glue.toList)
    {pieces : List String} (h : ∀ piece ∈ pieces, c ∉ piece.toList) :
    c ∉ (glue.intercalate pieces).toList := by
  rw [String.toList_intercalate]
  refine not_mem_intercalate hglue fun cs hcs => ?_
  obtain ⟨piece, hpiece, rfl⟩ := List.mem_map.1 hcs
  exact h piece hpiece

/-- Splitting at a character, one character at a time. -/
theorem splitOn_singleton_cons (p c : Char) (cs : List Char) :
    splitOn [p] (c :: cs) = if p = c then [] :: splitOn [p] cs else consFirst c (splitOn [p] cs) := by
  have hmatch : afterMatch? [p] (c :: cs) = if p = c then some cs else none := by
    by_cases hpc : p = c <;> simp [afterMatch?, hpc]
  rw [splitOn]
  split
  · rename_i after hafter
    rw [hmatch] at hafter
    by_cases hpc : p = c
    · rw [if_pos hpc] at hafter ⊢
      cases hafter
      rfl
    · rw [if_neg hpc] at hafter
      cases hafter
  · rename_i hafter
    rw [hmatch] at hafter
    by_cases hpc : p = c
    · rw [if_pos hpc] at hafter
      cases hafter
    · rw [if_neg hpc]

@[simp] theorem replaceAll_singleton_nil (p : Char) (new : List Char) : replaceAll [p] new [] = [] := by
  simp [replaceAll, splitOn]

/-- A character is replaced wherever it stands. -/
theorem replaceAll_singleton_cons (old c : Char) (new cs : List Char) :
    replaceAll [old] new (c :: cs) = (if old = c then new else [c]) ++ replaceAll [old] new cs := by
  have hne := splitOn_ne_nil [old] cs
  rw [replaceAll, splitOn_singleton_cons]
  split
  · rw [List.intercalate_cons_of_ne_nil hne]
    rfl
  · rw [intercalate_consFirst _ _ hne]
    rfl

theorem splitOn_singleton_append (p : Char) (cs ds : List Char) :
    splitOn [p] (cs ++ p :: ds) = splitOn [p] cs ++ splitOn [p] ds := by
  induction cs with
  | nil => simp [splitOn_singleton_cons, splitOn]
  | cons c cs ih =>
      rw [List.cons_append, splitOn_singleton_cons, splitOn_singleton_cons, ih]
      by_cases hpc : p = c
      · simp [hpc]
      · obtain ⟨part, parts, hparts⟩ := List.exists_cons_of_ne_nil (splitOn_ne_nil [p] cs)
        simp [hpc, hparts, consFirst]

theorem intercalate_append (glue : List Char) {pieces more : List (List Char)} (h : pieces ≠ [])
    (hmore : more ≠ []) :
    glue.intercalate (pieces ++ more) = glue.intercalate pieces ++ glue ++ glue.intercalate more := by
  induction pieces with
  | nil => exact absurd rfl h
  | cons piece pieces ih =>
      cases pieces with
      | nil => simp [List.intercalate_cons_of_ne_nil hmore]
      | cons next pieces =>
          have hrest := ih (by simp)
          rw [List.cons_append, List.intercalate_cons_of_ne_nil (by simp), hrest,
            List.intercalate_cons_cons]
          simp

end Text

namespace Identifier

variable {c : Char}

theorem not_mem_quotePart {mark part : List Char} (hmark : c ∉ mark) (hpart : c ∉ part) :
    c ∉ quotePart mark part := by
  unfold quotePart
  split
  · exact hpart
  · have hdoubled : c ∉ Text.replaceAll mark (mark ++ mark) part :=
      Text.not_mem_replaceAll (by simp [hmark]) hpart
    simp [hmark, hdoubled]

theorem not_mem_quoteName (hpoint : c ≠ '.') {mark name : String} (hmark : c ∉ mark.toList)
    (hname : c ∉ name.toList) : c ∉ (quoteName mark name).toList := by
  rw [quoteName, String.toList_ofList, quoteChars]
  refine Text.not_mem_intercalate (by simpa using hpoint) fun piece hpiece => ?_
  obtain ⟨part, hpart, rfl⟩ := List.mem_map.1 hpiece
  exact not_mem_quotePart hmark fun hc => hname (Text.mem_of_mem_splitOn hpart hc)

theorem quoteName_append_point (mark table column : String) :
    quoteName mark (table ++ "." ++ column) = quoteName mark table ++ "." ++ quoteName mark column := by
  -- A name is split at its points before it is quoted, so the point between the two is one of them.
  have hsplit := Text.splitOn_singleton_append '.' table.toList column.toList
  have hparts : ∀ name : String, (Text.splitOn ['.'] name.toList).map (quotePart mark.toList) ≠ [] := by
    simp [Text.splitOn_ne_nil]
  have hjoin := Text.intercalate_append ['.'] (hparts table) (hparts column)
  have htext : (table ++ "." ++ column).toList = table.toList ++ '.' :: column.toList := by simp
  rw [← String.toList_inj]
  simp only [quoteName, quoteChars, htext, hsplit, List.map_append, hjoin, String.toList_append,
    String.toList_ofList]
  rfl

theorem mapM_name?_text (names : List String) : (names.map Value.text).mapM name? = .ok names := by
  induction names with
  | nil => rfl
  | cons name names ih =>
      rw [List.map_cons, List.mapM_cons, ih]
      rfl

theorem quote?_list (mark : String) (names : List String) :
    quote? mark (.list (names.map .text)) = .ok (quoteNames mark names) := by
  have hitems : quote? mark (.list (names.map .text)) =
      (do .ok (quoteNames mark (← (names.map Value.text).mapM name?))) := rfl
  rw [hitems, mapM_name?_text]
  rfl

end Identifier

end FluentSql
