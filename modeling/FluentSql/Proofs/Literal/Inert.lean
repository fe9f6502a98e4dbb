import FluentSql.ParamStyle
import FluentSql.Proofs.Identifier.Characters
/-
# FluentSql.Proofs.Literal.Inert — texts that replacing leaves alone wherever they stand.

Replacing question marks outside literals goes through a text from left to right. A character that
starts no literal is passed on or replaced by itself. A text is inert if all its literals end in it and
it has no question mark outside of them; whatever stands around it, an inert text comes out as it is, and
what follows it is read as if the inert text were not there (`replaceFrom_append_of_isInert`).
-/

namespace FluentSql

namespace Literal

open Text (splitOn consFirst splitOn_singleton_cons splitOn_ne_nil)

variable {supply : Nat → List Char}

/-! ## One character -/

theorem segments_cons {c : Char} (hc : isQuote c = false) (rest : List Char) :
    segments (c :: rest) = consPlain c (segments rest) := by
  rw [segments]
  simp [hc]

theorem closing?_quote (quote : Char) (cs : List Char) :
    closing? quote (quote :: cs) = some ([quote], cs) := by
  rw [closing?.eq_def]
  exact if_pos rfl

theorem closing?_backslash {quote : Char} (hb : '\x5c' ≠ quote) (d : Char) (cs : List Char) :
    closing? quote ('\x5c' :: d :: cs) =
      (closing? quote cs).map fun r => ('\x5c' :: d :: r.1, r.2) := by
  rw [closing?.eq_def]
  exact (if_neg hb).trans (if_pos rfl)

theorem closing?_other {quote c : Char} (hq : c ≠ quote) (hb : c ≠ '\x5c') (cs : List Char) :
    closing? quote (c :: cs) = (closing? quote cs).map fun r => (c :: r.1, r.2) := by
  rw [closing?.eq_def]
  exact (if_neg hq).trans (if_neg hb)

/-- A quote with an end starts a literal. -/
theorem segments_of_closing {c : Char} (hc : isQuote c = true) {rest body after : List Char}
    (h : closing? c rest = some (body, after)) :
    segments (c :: rest) = .quoted (c :: body) :: segments after := by
  rw [segments, if_pos hc]
  split
  · rename_i body' after' found
    rw [h] at found
    cases found
    rfl
  · rename_i found
    rw [h] at found
    cases found

/-- A quote without an end is passed on. -/
theorem segments_of_closing_none {c : Char} (hc : isQuote c = true) {rest : List Char}
    (h : closing? c rest = none) : segments (c :: rest) = consPlain c (segments rest) := by
  rw [segments, if_pos hc]
  split
  · rename_i found
    rw [h] at found
    cases found
  · rfl

theorem weave_consFirst (c : Char) (k : Nat) {parts : List (List Char)} (h : parts ≠ []) :
    weave supply k (consFirst c parts) = c :: weave supply k parts := by
  match parts, h with
  | [part], _ => rfl
  | part :: next :: parts, _ => rfl

theorem length_consFirst (c : Char) {parts : List (List Char)} (h : parts ≠ []) :
    (consFirst c parts).length = parts.length := by
  match parts, h with
  | part :: parts, _ => rfl

/-- A character that is no placeholder is passed on. -/
theorem replaceFrom_consPlain {c : Char} (hc : c ≠ '?') (k : Nat) (segments : List Segment) :
    replaceFrom ['?'] supply k (consPlain c segments) =
      c :: replaceFrom ['?'] supply k segments := by
  have hsplit : ∀ text, splitOn ['?'] (c :: text) = consFirst c (splitOn ['?'] text) := by
    intro text
    rw [splitOn_singleton_cons, if_neg hc.symm]
  match segments with
  | .plain text :: rest =>
      have hne := splitOn_ne_nil ['?'] text
      simp only [consPlain, replaceFrom, hsplit, weave_consFirst c k hne, length_consFirst c hne]
      rfl
  | [] => simp [consPlain, replaceFrom, hsplit, splitOn, consFirst, weave]
  | .quoted text :: rest => simp [consPlain, replaceFrom, hsplit, splitOn, consFirst, weave]

/-- A placeholder takes the next text. -/
theorem replaceFrom_consPlain_slot (k : Nat) (segments : List Segment) :
    replaceFrom ['?'] supply k (consPlain '?' segments) =
      supply k ++ replaceFrom ['?'] supply (k + 1) segments := by
  have hsplit : ∀ text, splitOn ['?'] ('?' :: text) = [] :: splitOn ['?'] text := by
    intro text
    rw [splitOn_singleton_cons, if_pos rfl]
  match segments with
  | .plain text :: rest =>
      obtain ⟨part, parts, hparts⟩ := List.exists_cons_of_ne_nil (splitOn_ne_nil ['?'] text)
      have hk : k + (parts.length + 1) = k + 1 + parts.length := by omega
      simp [consPlain, replaceFrom, hsplit, hparts, weave, hk]
  | [] => simp [consPlain, replaceFrom, hsplit, splitOn, weave]
  | .quoted text :: rest => simp [consPlain, replaceFrom, hsplit, splitOn, weave]

/-! ## Inert texts -/

/-- A character that is no placeholder and starts no literal. -/
def isOrdinary (c : Char) : Bool := c != '?' && !isQuote c

/-- Nothing in the segment is replaced, and no quote in it is left without an end. -/
def Segment.isInert : Segment → Bool
  | .plain text => text.all isOrdinary
  | .quoted _ => true

/-- All literals of the text end in it, and there is no placeholder outside of them. -/
def isInert (cs : List Char) : Bool := (segments cs).all Segment.isInert

theorem all_isInert_consPlain (c : Char) (segments : List Segment) :
    (consPlain c segments).all Segment.isInert =
      (isOrdinary c && segments.all Segment.isInert) := by
  match segments with
  | .plain text :: rest => simp [consPlain, Segment.isInert, Bool.and_assoc]
  | [] => simp [consPlain, Segment.isInert]
  | .quoted text :: rest => simp [consPlain, Segment.isInert]

theorem isOrdinary_iff {c : Char} : isOrdinary c = true ↔ c ≠ '?' ∧ isQuote c = false := by
  simp [isOrdinary]

theorem isInert_nil : isInert [] = true := by simp [isInert, segments]

theorem isInert_cons {c : Char} (hc : isQuote c = false) (cs : List Char) :
    isInert (c :: cs) = (isOrdinary c && isInert cs) := by
  rw [isInert, segments_cons hc, all_isInert_consPlain, isInert]

theorem isInert_of_closing {c : Char} (hc : isQuote c = true) {rest body after : List Char}
    (h : closing? c rest = some (body, after)) : isInert (c :: rest) = isInert after := by
  rw [isInert, segments_of_closing hc h]
  rfl

theorem isInert_of_closing_none {c : Char} (hc : isQuote c = true) {rest : List Char}
    (h : closing? c rest = none) : isInert (c :: rest) = false := by
  rw [isInert, segments_of_closing_none hc h, all_isInert_consPlain]
  simp [isOrdinary, hc]

/-- An inert text is empty, or starts with a literal or an ordinary character and goes on with an inert
text. -/
@[elab_as_elim]
theorem isInert_induction {motive : (cs : List Char) → isInert cs = true → Prop}
    (nil : motive [] isInert_nil)
    (literal : ∀ (c : Char) (cs body after : List Char) (hc : isQuote c = true)
      (found : closing? c cs = some (body, after)) (hafter : isInert after = true),
      motive after hafter → motive (c :: cs) ((isInert_of_closing hc found).trans hafter))
    (ordinary : ∀ (c : Char) (cs : List Char) (hc : isOrdinary c = true) (hcs : isInert cs = true),
      motive cs hcs →
      motive (c :: cs) ((isInert_cons (isOrdinary_iff.1 hc).2 cs).trans (by rw [hc, hcs]; rfl)))
    (cs : List Char) (h : isInert cs = true) : motive cs h := by
  fun_induction segments cs with
  | case1 => exact nil
  | case2 c cs hc body after found ih =>
      have hafter : isInert after = true := (isInert_of_closing hc found).symm.trans h
      exact literal c cs body after hc found hafter (ih hafter)
  | case3 c cs hc found ih =>
      rw [isInert_of_closing_none hc found] at h
      cases h
  | case4 c cs hc ih =>
      have hplain : isQuote c = false := by simpa using hc
      have hboth : isOrdinary c = true ∧ isInert cs = true := by
        rwa [isInert_cons hplain, Bool.and_eq_true] at h
      exact ordinary c cs hboth.1 hboth.2 (ih hboth.2)

/-- What ends a literal ends it whatever follows. -/
theorem closing?_append {quote : Char} {cs body after : List Char}
    (h : closing? quote cs = some (body, after)) (rest : List Char) :
    closing? quote (cs ++ rest) = some (body, after ++ rest) := by
  fun_induction closing? quote cs generalizing body after with
  | case1 => cases h
  | case2 tail =>
      cases h
      rw [List.cons_append, closing?_quote]
  | case3 => cases h
  | case4 d tail hb ih =>
      obtain ⟨r, hr, heq⟩ := Option.map_eq_some_iff.1 h
      cases heq
      rw [List.cons_append, List.cons_append, closing?_backslash hb, ih hr]
      rfl
  | case5 c tail hq hb ih =>
      obtain ⟨r, hr, heq⟩ := Option.map_eq_some_iff.1 h
      cases heq
      rw [List.cons_append, closing?_other hq hb, ih hr]
      rfl

/-- **An inert text comes out as it is, and what follows it is read as if it were not there.** -/
theorem replaceFrom_append_of_isInert {cs : List Char} (h : isInert cs = true) (k : Nat)
    (rest : List Char) :
    replaceFrom ['?'] supply k (segments (cs ++ rest)) =
      cs ++ replaceFrom ['?'] supply k (segments rest) := by
  induction cs, h using isInert_induction with
  | nil => rfl
  | literal c cs body after hc found _ ih =>
      -- The literal ends where it ended alone, and is copied.
      have hjoined := append_of_closing? found
      rw [List.cons_append, segments_of_closing hc (closing?_append found rest), replaceFrom, ih]
      simp [← hjoined]
  | ordinary c cs hc _ ih =>
      obtain ⟨hslot, hplain⟩ := isOrdinary_iff.1 hc
      rw [List.cons_append, segments_cons hplain, replaceFrom_consPlain hslot, ih, List.cons_append]

/-- A text of ordinary characters is inert. -/
theorem isInert_of_all_isOrdinary {cs : List Char} (h : cs.all isOrdinary = true) :
    isInert cs = true := by
  induction cs with
  | nil => exact isInert_nil
  | cons c cs ih =>
      rw [List.all_cons, Bool.and_eq_true] at h
      rw [isInert_cons (isOrdinary_iff.1 h.1).2, h.1, ih h.2]
      rfl

/-- Inert texts stay inert next to each other. -/
theorem isInert_append {cs ds : List Char} (hcs : isInert cs = true) (hds : isInert ds = true) :
    isInert (cs ++ ds) = true := by
  induction cs, hcs using isInert_induction with
  | nil => exact hds
  | literal c cs body after hc found _ ih =>
      rw [List.cons_append, isInert_of_closing hc (closing?_append found ds)]
      exact ih
  | ordinary c cs hc _ ih =>
      rw [List.cons_append, isInert_cons (isOrdinary_iff.1 hc).2, hc, ih]
      rfl

/-! ## Restyling -/

theorem weave_const (new : List Char) (k : Nat) (parts : List (List Char)) :
    weave (fun _ => new) k parts = new.intercalate parts := by
  induction parts generalizing k with
  | nil => rfl
  | cons part parts ih =>
      cases parts with
      | nil => simp [weave]
      | cons next parts => rw [weave, ih, List.intercalate_cons_cons]

/-- Replacing all by one text is replacing each by that text. -/
theorem replaceOutside_eq_replaceEach (search new cs : List Char) :
    replaceOutside search new cs = replaceEach search (fun _ => new) cs := by
  rw [replaceOutside, replaceEach]
  -- The supply is constant, so the number of the next text does not matter.
  generalize 0 = k
  induction segments cs generalizing k with
  | nil => rfl
  | cons segment rest ih =>
      cases segment with
      | quoted text => rw [List.flatMap_cons, ih, replaceFrom]
      | plain text =>
          rw [List.flatMap_cons, ih, replaceFrom, weave_const]
          rfl

/-- An inert text comes out as it is at the start of a text. -/
theorem replaceEach_append_of_isInert {cs : List Char} (h : isInert cs = true) (rest : List Char) :
    replaceEach ['?'] supply (cs ++ rest) = cs ++ replaceEach ['?'] supply rest :=
  replaceFrom_append_of_isInert h 0 rest

end Literal

namespace ParamStyle

@[simp] theorem doublePercents_nil : doublePercents [] = [] := Text.replaceAll_singleton_nil '%' ['%', '%']

theorem doublePercents_cons (c : Char) (cs : List Char) :
    doublePercents (c :: cs) = (if c = '%' then ['%', '%'] else [c]) ++ doublePercents cs := by
  rw [doublePercents, Text.replaceAll_singleton_cons]
  simp only [eq_comm]
  rfl

/-- Percent signs are doubled one by one. -/
theorem doublePercents_eq_flatMap (cs : List Char) :
    doublePercents cs = cs.flatMap fun c => if c = '%' then ['%', '%'] else [c] := by
  induction cs with
  | nil => exact doublePercents_nil
  | cons c cs ih => rw [doublePercents_cons, List.flatMap_cons, ih]

theorem doublePercents_append (cs ds : List Char) :
    doublePercents (cs ++ ds) = doublePercents cs ++ doublePercents ds := by
  simp only [doublePercents_eq_flatMap, List.flatMap_append]

theorem doublePercents_cons_of_ne {c : Char} (hc : c ≠ '%') (cs : List Char) :
    doublePercents (c :: cs) = c :: doublePercents cs := by
  rw [doublePercents_cons, if_neg hc]
  rfl

theorem doublePercents_cons_percent (cs : List Char) :
    doublePercents ('%' :: cs) = '%' :: '%' :: doublePercents cs := by
  rw [doublePercents_cons, if_pos rfl]
  rfl

theorem doublePercents_of_not_mem {cs : List Char} (h : '%' ∉ cs) : doublePercents cs = cs := by
  induction cs with
  | nil => exact doublePercents_eq_flatMap []
  | cons c cs ih =>
      simp only [List.mem_cons, not_or] at h
      rw [doublePercents_cons, if_neg (Ne.symm h.1), ih h.2]
      rfl

/-- Restyling leaves the start of a statement alone if there is nothing to restyle in it. -/
theorem restyle_append {cs : List Char} (h : cs.all Literal.isOrdinary = true) (hpercent : '%' ∉ cs)
    (style : ParamStyle) (rest : List Char) : style.restyle (cs ++ rest) = cs ++ style.restyle rest := by
  have hinert := Literal.isInert_of_all_isOrdinary h
  cases style with
  | positional => rfl
  | percent =>
      simp only [restyle, doublePercents_append, doublePercents_of_not_mem hpercent,
        Literal.replaceOutside_eq_replaceEach]
      exact Literal.replaceEach_append_of_isInert hinert _
  | numbered => exact Literal.replaceEach_append_of_isInert hinert rest
  | named => exact Literal.replaceEach_append_of_isInert hinert rest

end ParamStyle

end FluentSql
