import Mathlib.Algebra.GroupWithZero.Nat
import FluentSql.Proofs.Literal.Inert
/-
# FluentSql.Proofs.Literal.Reading — how many placeholders a reader finds.

A reader of a statement finds the question marks outside its literals. Whether a text has an effect on what
is found behind it depends on its quotes only: a text all of whose literals end in it adds its own question
marks and no more, but a quote that is left without an end hides everything up to the next such quote
(`dangles_or_isAdditive`).
-/

namespace FluentSql.Literal

open ParamStyle (doublePercents_cons_of_ne doublePercents_cons_percent doublePercents_nil)
open Text (splitOn splitOn_singleton_cons splitOn_ne_nil)

/-- The placeholders in a segment. -/
def Segment.slots : Segment → Nat
  | .plain text => (splitOn ['?'] text).length - 1
  | .quoted _ => 0

/-- The placeholders that replacing finds in a text. -/
def slotsOutside (cs : List Char) : Nat := ((segments cs).map Segment.slots).sum

/-! ## One character -/

theorem sum_slots_consPlain (c : Char) (segments : List Segment) :
    ((consPlain c segments).map Segment.slots).sum =
      (if c = '?' then 1 else 0) + (segments.map Segment.slots).sum := by
  have hsplit : ∀ text, (splitOn ['?'] (c :: text)).length - 1 =
      (if c = '?' then 1 else 0) + ((splitOn ['?'] text).length - 1) := by
    intro text
    obtain ⟨part, parts, hparts⟩ := List.exists_cons_of_ne_nil (splitOn_ne_nil ['?'] text)
    by_cases hc : c = '?'
    · simp [splitOn_singleton_cons, hc, hparts, Nat.add_comm]
    · simp [splitOn_singleton_cons, hc, Ne.symm hc, hparts, Text.consFirst]
  have hnil : splitOn ['?'] [] = [[]] := by simp [splitOn]
  have hone : (splitOn ['?'] [c]).length - 1 = if c = '?' then 1 else 0 := by
    rw [hsplit, hnil]
    rfl
  cases segments with
  | nil => simp [consPlain, Segment.slots, hone]
  | cons segment rest =>
      cases segment with
      | plain text => simp [consPlain, Segment.slots, hsplit, Nat.add_assoc]
      | quoted text => simp [consPlain, Segment.slots, hone]

theorem slotsOutside_cons {c : Char} (hc : isQuote c = false) (rest : List Char) :
    slotsOutside (c :: rest) = (if c = '?' then 1 else 0) + slotsOutside rest := by
  rw [slotsOutside, segments_cons hc, sum_slots_consPlain]
  rfl

/-- A literal has no placeholders. -/
theorem slotsOutside_of_closing {c : Char} (hc : isQuote c = true) {rest body after : List Char}
    (h : closing? c rest = some (body, after)) : slotsOutside (c :: rest) = slotsOutside after := by
  rw [slotsOutside, segments_of_closing hc h]
  exact Nat.zero_add _

/-! ## Looking for the end of a literal -/

theorem getLast?_ne_of_append {last : Char} (front : List Char) {cs : List Char}
    (h : (front ++ cs).getLast? ≠ some last) : cs.getLast? ≠ some last := by
  intro hcs
  exact h (by rw [List.getLast?_append, hcs]; rfl)

/-- The end is behind a text that has neither the quote nor a backslash. -/
theorem closing?_append_of_not_mem {quote : Char} {cs : List Char} (hquote : quote ∉ cs)
    (hbackslash : '\x5c' ∉ cs) (rest : List Char) :
    closing? quote (cs ++ rest) = (closing? quote rest).map fun r => (cs ++ r.1, r.2) := by
  induction cs with
  | nil => simp
  | cons c cs ih =>
      simp only [List.mem_cons, not_or] at hquote hbackslash
      have hrest := ih hquote.2 hbackslash.2
      rw [List.cons_append, closing?_other (Ne.symm hquote.1) (Ne.symm hbackslash.1), hrest, Option.map_map]
      rfl

/-- If a text has no end of the literal and does not escape what follows it, the end is behind it. -/
theorem closing?_append_of_none {quote : Char} {cs : List Char} (h : closing? quote cs = none)
    (hlast : cs.getLast? ≠ some '\x5c') (rest : List Char) :
    closing? quote (cs ++ rest) = (closing? quote rest).map fun r => (cs ++ r.1, r.2) := by
  fun_induction closing? quote cs with
  | case1 => simp
  | case2 => cases h
  | case3 =>
      -- A backslash at the end would escape what follows.
      simp at hlast
  | case4 d tail hb ih =>
      have hnone : closing? quote tail = none := Option.map_eq_none_iff.1 h
      have hrest := ih hnone (getLast?_ne_of_append ['\x5c', d] hlast)
      rw [List.cons_append, List.cons_append, closing?_backslash hb, hrest, Option.map_map]
      rfl
  | case5 c tail hq hb ih =>
      have hnone : closing? quote tail = none := Option.map_eq_none_iff.1 h
      have hrest := ih hnone (getLast?_ne_of_append [c] hlast)
      rw [List.cons_append, closing?_other hq hb, hrest, Option.map_map]
      rfl

/-- The end of a literal ends the literal alone. -/
theorem closing?_self {quote : Char} {cs body after : List Char}
    (h : closing? quote cs = some (body, after)) : closing? quote body = some (body, []) := by
  fun_induction closing? quote cs generalizing body after with
  | case1 => cases h
  | case2 tail =>
      cases h
      exact closing?_quote quote []
  | case3 => cases h
  | case4 d tail hb ih =>
      obtain ⟨r, hr, heq⟩ := Option.map_eq_some_iff.1 h
      cases heq
      rw [closing?_backslash hb, ih hr]
      rfl
  | case5 c tail hq hb ih =>
      obtain ⟨r, hr, heq⟩ := Option.map_eq_some_iff.1 h
      cases heq
      rw [closing?_other hq hb, ih hr]
      rfl

/-! ## Additive texts -/

/-- The text adds its own placeholders to those behind it. -/
def IsAdditive (cs : List Char) : Prop :=
  ∀ rest, slotsOutside (cs ++ rest) = slotsOutside cs + slotsOutside rest

theorem isAdditive_nil : IsAdditive [] := by
  intro rest
  simp [slotsOutside, segments]

theorem isAdditive_singleton {c : Char} (hc : isQuote c = false) : IsAdditive [c] := by
  intro rest
  rw [List.cons_append, List.nil_append, slotsOutside_cons hc, slotsOutside_cons hc]
  simp [slotsOutside, segments]

theorem IsAdditive.append {cs ds : List Char} (hcs : IsAdditive cs) (hds : IsAdditive ds) :
    IsAdditive (cs ++ ds) := by
  intro rest
  rw [List.append_assoc, hcs, hds, hcs, Nat.add_assoc]

/-- A literal adds nothing. -/
theorem isAdditive_literal {c : Char} (hc : isQuote c = true) {body : List Char}
    (h : closing? c body = some (body, [])) : IsAdditive (c :: body) := by
  intro rest
  have hrest := slotsOutside_of_closing hc (closing?_append h rest)
  rw [List.cons_append, hrest, slotsOutside_of_closing hc h, List.nil_append]
  simp [slotsOutside, segments]

/-- An inert text has no placeholders and hides none. -/
theorem slotsOutside_append_of_isInert {cs : List Char} (h : isInert cs = true) (rest : List Char) :
    slotsOutside (cs ++ rest) = slotsOutside rest := by
  induction cs, h using isInert_induction with
  | nil => rfl
  | literal c cs body after hc found _ ih =>
      rw [List.cons_append, slotsOutside_of_closing hc (closing?_append found rest)]
      exact ih
  | ordinary c cs hc _ ih =>
      obtain ⟨hslot, hplain⟩ := isOrdinary_iff.1 hc
      rw [List.cons_append, slotsOutside_cons hplain, if_neg hslot, Nat.zero_add]
      exact ih

/-! ## Dangling quotes -/

/-- A quote in the text is left without an end, the first one that does not belong to a literal. -/
structure Dangles (cs before : List Char) (quote : Char) (after : List Char) : Prop where
  split : cs = before ++ quote :: after
  isQuote : isQuote quote = true
  closing : closing? quote after = none
  before : IsAdditive before

theorem Dangles.append_left {cs before after front : List Char} {quote : Char}
    (h : Dangles cs before quote after) (hfront : IsAdditive front) :
    Dangles (front ++ cs) (front ++ before) quote after :=
  ⟨by rw [h.split, List.append_assoc], h.isQuote, h.closing, hfront.append h.before⟩

/-- A text leaves a quote without an end, or it adds its own placeholders to those behind it and is
inert unless it has some. -/
theorem dangles_or_isAdditive (cs : List Char) :
    (∃ before quote after, Dangles cs before quote after) ∨
      IsAdditive cs ∧ (isInert cs = false → 0 < slotsOutside cs) := by
  fun_induction segments cs with
  | case1 => exact .inr ⟨isAdditive_nil, by simp [isInert, segments]⟩
  | case2 c cs hc body after found ih =>
      have hjoined := append_of_closing? found
      have hliteral := isAdditive_literal hc (closing?_self found)
      have hsplit : c :: cs = (c :: body) ++ after := by rw [List.cons_append, hjoined]
      rcases ih with ⟨before, quote, rest, hdangles⟩ | ⟨hadditive, hslots⟩
      · exact .inl ⟨_, _, _, hsplit ▸ hdangles.append_left hliteral⟩
      · refine .inr ⟨hsplit ▸ hliteral.append hadditive, fun hinert => ?_⟩
        rw [isInert_of_closing hc found] at hinert
        rw [slotsOutside_of_closing hc found]
        exact hslots hinert
  | case3 c cs hc found ih => exact .inl ⟨[], c, cs, rfl, hc, found, isAdditive_nil⟩
  | case4 c cs hc ih =>
      have hplain : Literal.isQuote c = false := by simpa using hc
      rcases ih with ⟨before, quote, rest, hdangles⟩ | ⟨hadditive, hslots⟩
      · exact .inl ⟨_, _, _, hdangles.append_left (isAdditive_singleton hplain)⟩
      · refine .inr ⟨(isAdditive_singleton hplain).append hadditive, fun hinert => ?_⟩
        rw [slotsOutside_cons hplain]
        rw [isInert_cons hplain, Bool.and_eq_false_iff] at hinert
        rcases hinert with hc | hcs
        · have hslot : c = '?' := by simpa [isOrdinary, hplain] using hc
          rw [if_pos hslot]
          omega
        · have hpos := hslots hcs
          omega

/-- A dangling quote hides what stands up to the next such quote. -/
theorem Dangles.slotsOutside_append {cs before after hidden : List Char} {quote : Char}
    (h : Dangles cs before quote after) (hlast : cs.getLast? ≠ some '\x5c') (hquote : quote ∉ hidden)
    (hbackslash : '\x5c' ∉ hidden) (rest : List Char) :
    slotsOutside (cs ++ (hidden ++ quote :: rest)) = slotsOutside before + slotsOutside rest := by
  have hafter : after.getLast? ≠ some '\x5c' := by
    rw [h.split, List.append_cons] at hlast
    exact getLast?_ne_of_append _ hlast
  -- The search for the end goes through what is hidden and finds the quote behind it.
  have hclosing : closing? quote (after ++ (hidden ++ quote :: rest)) =
      some (after ++ (hidden ++ [quote]), rest) := by
    rw [closing?_append_of_none h.closing hafter, closing?_append_of_not_mem hquote hbackslash,
      closing?_quote]
    rfl
  rw [h.split, List.append_assoc, h.before, List.cons_append, slotsOutside_of_closing h.isQuote hclosing]

/-! ## Doubled percent signs -/

theorem closing?_doublePercents {quote : Char} (hquote : quote ≠ '%') (cs : List Char) :
    closing? quote (ParamStyle.doublePercents cs) =
      (closing? quote cs).map fun r =>
        (ParamStyle.doublePercents r.1, ParamStyle.doublePercents r.2) := by
  have hescape : '\x5c' ≠ '%' := by decide
  -- The two signs that become of one are ordinary characters, or one of them is escaped.
  fun_induction closing? quote cs with
  | case1 => rw [doublePercents_nil]; rfl
  | case2 tail =>
      rw [doublePercents_cons_of_ne hquote, closing?_quote, Option.map_some, doublePercents_cons_of_ne hquote, doublePercents_nil]
  | case3 hne =>
      rw [doublePercents_cons_of_ne hescape, doublePercents_nil]
      simp [closing?, hne]
  | case4 d tail hb ih =>
      rw [doublePercents_cons_of_ne hescape]
      by_cases hd : d = '%'
      · subst hd
        rw [doublePercents_cons_percent, closing?_backslash hb, closing?_other hquote.symm hescape.symm, ih]
        simp only [Option.map_map, Function.comp_def, doublePercents_cons_of_ne hescape, doublePercents_cons_percent]
      · rw [doublePercents_cons_of_ne hd, closing?_backslash hb, ih]
        simp only [Option.map_map, Function.comp_def, doublePercents_cons_of_ne hescape, doublePercents_cons_of_ne hd]
  | case5 c tail hq hb ih =>
      by_cases hc : c = '%'
      · subst hc
        rw [doublePercents_cons_percent, closing?_other hq hb, closing?_other hq hb, ih]
        simp only [Option.map_map, Function.comp_def, doublePercents_cons_percent]
      · rw [doublePercents_cons_of_ne hc, closing?_other hq hb, ih]
        simp only [Option.map_map, Function.comp_def, doublePercents_cons_of_ne hc]

theorem isInert_doublePercents {cs : List Char} (h : isInert cs = true) :
    isInert (ParamStyle.doublePercents cs) = true := by
  have hpercent : isQuote '%' = false := by decide
  induction cs, h using isInert_induction with
  | nil =>
      rw [ParamStyle.doublePercents_eq_flatMap]
      exact isInert_nil
  | literal c cs body after hc found _ ih =>
      have hne : c ≠ '%' := by
        rintro rfl
        cases hc
      have hfound := closing?_doublePercents hne cs
      rw [found] at hfound
      rw [ParamStyle.doublePercents_cons, if_neg hne, List.cons_append, List.nil_append,
        isInert_of_closing hc hfound]
      exact ih
  | ordinary c cs hc _ ih =>
      rw [ParamStyle.doublePercents_cons]
      by_cases hsign : c = '%'
      · rw [if_pos hsign, List.cons_append, List.cons_append, List.nil_append, isInert_cons hpercent,
          isInert_cons hpercent, ih]
        rfl
      · rw [if_neg hsign, List.cons_append, List.nil_append, isInert_cons (isOrdinary_iff.1 hc).2, hc, ih]
        rfl

end FluentSql.Literal
