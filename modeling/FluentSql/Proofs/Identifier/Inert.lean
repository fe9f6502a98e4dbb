import FluentSql.Proofs.Connection.Marks
import FluentSql.Proofs.Identifier.Characters
import FluentSql.Proofs.Literal.Reading
import Mathlib.Data.List.Basic
/-
# FluentSql.Proofs.Identifier.Inert — quoted names that readers of statements pass over.

A quoted name is inert if readers find no placeholder in it and no quote without an end. Between double
quotes every name without a backslash is inert, because doubling its quotes makes literals of all its
parts. Backticks are no quotes to the readers, so the question marks and quotes of a name count there as
if they stood in the statement itself.
-/

namespace FluentSql

open Literal (isInert isQuote)

/-- Text that is joined from pieces ends like the last piece. -/
theorem Text.getLast?_intercalate_ne {c : Char} (glue : List Char) {pieces : List (List Char)}
    (hne : pieces ≠ []) (h : ∀ piece ∈ pieces, piece ≠ [] ∧ piece.getLast? ≠ some c) :
    glue.intercalate pieces ≠ [] ∧ (glue.intercalate pieces).getLast? ≠ some c := by
  induction pieces with
  | nil => exact absurd rfl hne
  | cons piece pieces ih =>
      cases pieces with
      | nil => simpa using h piece List.mem_cons_self
      | cons next pieces =>
          obtain ⟨hrest, hlast⟩ := ih (by simp) fun p hp => h p (List.mem_cons_of_mem _ hp)
          rw [List.intercalate_cons_cons]
          exact ⟨by simp [hrest], by rwa [List.getLast?_append_of_ne_nil _ hrest]⟩

/-- The parts of a text that is split at a character do not hold the character. -/
theorem Text.not_mem_of_mem_splitOn {p : Char} {cs part : List Char} (hpart : part ∈ splitOn [p] cs) :
    p ∉ part := by
  induction cs generalizing part with
  | nil =>
      have hnil : splitOn [p] [] = [[]] := by simp [splitOn]
      rw [hnil, List.mem_singleton] at hpart
      simp [hpart]
  | cons c cs ih =>
      rw [splitOn_singleton_cons] at hpart
      by_cases hc : p = c
      · rw [if_pos hc, List.mem_cons] at hpart
        rcases hpart with rfl | hrest
        · simp
        · exact ih hrest
      · obtain ⟨first, rest, hsplit⟩ := List.exists_cons_of_ne_nil (splitOn_ne_nil [p] cs)
        rw [if_neg hc, hsplit, consFirst, List.mem_cons] at hpart
        rcases hpart with rfl | hrest
        · have hfirst := ih (hsplit ▸ List.mem_cons_self)
          simp [hc, hfirst]
        · exact ih (hsplit ▸ List.mem_cons_of_mem _ hrest)

namespace Literal

/-- A text in quotes is a literal if it holds neither the quote nor a backslash. -/
theorem isInert_quoted {quote : Char} (hquote : isQuote quote = true) {cs : List Char} (hcs : quote ∉ cs)
    (hbackslash : '\x5c' ∉ cs) : isInert (quote :: (cs ++ [quote])) = true := by
  have hclosing : closing? quote (cs ++ [quote]) = some (cs ++ [quote], []) := by
    rw [closing?_append_of_not_mem hcs hbackslash, closing?_quote]
    rfl
  rw [isInert_of_closing hquote hclosing, isInert_nil]

/-- Doubling the quotes in such a text leaves literals only. -/
theorem isInert_doubled {quote : Char} (hquote : isQuote quote = true) {pieces : List (List Char)}
    (hne : pieces ≠ []) (h : ∀ piece ∈ pieces, quote ∉ piece ∧ '\x5c' ∉ piece) :
    isInert (quote :: ([quote, quote].intercalate pieces ++ [quote])) = true := by
  induction pieces with
  | nil => exact absurd rfl hne
  | cons piece pieces ih =>
      have hpiece := h piece List.mem_cons_self
      have hfirst := isInert_quoted hquote hpiece.1 hpiece.2
      cases pieces with
      | nil => simpa using hfirst
      | cons next pieces =>
          -- One of the doubled quotes ends the literal of the first piece, the other starts the next.
          have hrest := ih (by simp) fun p hp => h p (List.mem_cons_of_mem _ hp)
          rw [List.intercalate_cons_cons]
          simpa using isInert_append hfirst hrest

end Literal

namespace Identifier

/-- The quoted name is passed over by the readers of statements. -/
def IsInert (mark name : String) : Prop := isInert (quoteChars mark.toList name.toList) = true

/-- The mark is that of a standard dialect. -/
def IsStandardMark (mark : String) : Prop :=
  ∃ spec ∈ Dialects.standardSpecs, spec.quoteMark = some mark

variable {mark : String}

theorem IsStandardMark.cases (h : IsStandardMark mark) : mark = "\x60" ∨ mark = "\x22" := by
  obtain ⟨spec, hspec, hmark⟩ := h
  have hcases := Dialects.quoteMark_of_standard spec hspec
  rw [hmark] at hcases
  simpa using hcases

/-- A name is inert if its quoted parts are. -/
theorem isInert_quoteChars {mark name : List Char}
    (h : ∀ part ∈ Text.splitOn ['.'] name, isInert (quotePart mark part) = true) :
    isInert (quoteChars mark name) = true := by
  refine Text.intercalate_closed (P := fun cs => isInert cs = true) Literal.isInert_nil
    Literal.isInert_append
    (Literal.isInert_of_all_isOrdinary (by decide)) fun piece hpiece => ?_
  obtain ⟨part, hpart, rfl⟩ := List.mem_map.1 hpiece
  exact h part hpart

/-- Between double quotes every name without a backslash is inert. -/
theorem isInert_of_doubleQuotes {name : String} (h : '\x5c' ∉ name.toList) : IsInert "\x22" name := by
  refine isInert_quoteChars fun part hpart => ?_
  have hbackslash : '\x5c' ∉ part := fun hmem => h (Text.mem_of_mem_splitOn hpart hmem)
  unfold quotePart
  split
  · rename_i hstar
    rw [hstar]
    exact Literal.isInert_of_all_isOrdinary (by decide)
  · have hpieces : ∀ piece ∈ Text.splitOn ['\x22'] part, '\x22' ∉ piece ∧ '\x5c' ∉ piece :=
      fun piece hpiece => ⟨Text.not_mem_of_mem_splitOn hpiece,
        fun hmem => hbackslash (Text.mem_of_mem_splitOn hpiece hmem)⟩
    exact Literal.isInert_doubled (by decide) (Text.splitOn_ne_nil _ _) hpieces

/-- Between backticks every name without question marks and quotes is inert. -/
theorem isInert_of_backticks {name : String} (h : ∀ c ∈ name.toList, c ≠ '?' ∧ isQuote c = false) :
    IsInert "\x60" name := by
  refine isInert_quoteChars fun part hpart => Literal.isInert_of_all_isOrdinary ?_
  rw [List.all_eq_true]
  intro c hc
  by_contra hnot
  have hmark : c ∉ "\x60".toList := by
    intro hmem
    rw [List.mem_singleton.1 hmem] at hnot
    exact hnot (by decide)
  have hpart' : c ∉ part := by
    intro hmem
    obtain ⟨hslot, hquote⟩ := h c (Text.mem_of_mem_splitOn hpart hmem)
    exact hnot (by simp [Literal.isOrdinary, hslot, hquote])
  exact not_mem_quotePart hmark hpart' hc

/-- The star stands for itself. -/
theorem quoteChars_star (mark : List Char) : quoteChars mark "*".toList = ['*'] := by
  have hsplit : Text.splitOn ['.'] "*".toList = [['*']] := by
    simp [Text.splitOn_singleton_cons, Text.splitOn, Text.consFirst]
  rw [quoteChars, hsplit]
  simp [quotePart]

theorem isInert_star : IsInert mark "*" := by
  rw [IsInert, quoteChars_star]
  exact Literal.isInert_of_all_isOrdinary (by decide)

/-- A quoted name does not escape what follows it. -/
theorem getLast?_quoteChars (hmark : IsStandardMark mark) (name : List Char) :
    (quoteChars mark.toList name).getLast? ≠ some '\x5c' := by
  refine (Text.getLast?_intercalate_ne _ (by simp [Text.splitOn_ne_nil]) fun piece hpiece => ?_).2
  obtain ⟨part, -, rfl⟩ := List.mem_map.1 hpiece
  unfold quotePart
  split
  · rename_i hstar
    rw [hstar]
    decide
  · have hends : mark.toList ≠ [] ∧ mark.toList.getLast? ≠ some '\x5c' := by
      rcases hmark.cases with rfl | rfl <;> decide
    exact ⟨by simp [hends.1], by rw [List.getLast?_append_of_ne_nil _ hends.1]; exact hends.2⟩

/-! ## Two quotes -/

/-- A name of two quotes. -/
def twoQuotes (quote : Char) : String := String.ofList [quote, quote]

/-- Such a name is quoted with the quote in it, twice if it is the mark itself. -/
theorem quoteChars_twoQuotes_eq (hmark : IsStandardMark mark) {quote : Char} (hquote : isQuote quote = true) :
    quoteChars mark.toList (twoQuotes quote).toList =
      mark.toList ++ (if mark.toList = [quote] then List.replicate 4 quote else [quote, quote]) ++ mark.toList := by
  have hcases : quote = '\x27' ∨ quote = '\x22' := by simpa [isQuote] using hquote
  rcases hmark.cases with rfl | rfl <;> rcases hcases with rfl | rfl <;>
    simp [quoteChars, quotePart, twoQuotes, Text.replaceAll, Text.splitOn_singleton_cons, Text.splitOn, Text.consFirst,
      List.replicate]

theorem isInert_twoQuotes (hmark : IsStandardMark mark) {quote : Char} (hquote : isQuote quote = true) :
    IsInert mark (twoQuotes quote) := by
  have hcases : quote = '\x27' ∨ quote = '\x22' := by simpa [isQuote] using hquote
  rw [IsInert, quoteChars_twoQuotes_eq hmark hquote]
  rcases hmark.cases with rfl | rfl <;> rcases hcases with rfl | rfl <;>
    simp [isInert, Literal.segments, Literal.closing?, Literal.consPlain, Literal.Segment.isInert, Literal.isOrdinary, isQuote]

/-- It is quoted with the quote in it, and with no escape in front of that. -/
theorem quoteChars_twoQuotes (hmark : IsStandardMark mark) {quote : Char} (hquote : isQuote quote = true) :
    ∃ before after, quoteChars mark.toList (twoQuotes quote).toList = before ++ quote :: after ∧
      quote ∉ before ∧ '\x5c' ∉ before := by
  have hcases : quote = '\x27' ∨ quote = '\x22' := by simpa [isQuote] using hquote
  rw [quoteChars_twoQuotes_eq hmark hquote]
  rcases hmark.cases with rfl | rfl <;> rcases hcases with rfl | rfl
  · exact ⟨['\x60'], ['\x27', '\x60'], by decide, by decide, by decide⟩
  · exact ⟨['\x60'], ['\x22', '\x60'], by decide, by decide, by decide⟩
  · exact ⟨['\x22'], ['\x27', '\x22'], by decide, by decide, by decide⟩
  · -- The mark is the quote itself, so the quoted name starts with it.
    exact ⟨[], List.replicate 5 '\x22', by decide, by decide, by decide⟩

end Identifier

end FluentSql
