import FluentSql.Proofs.Literal.Replacing
/-
# FluentSql.Proofs.Literal.Placeholders — the placeholders of any statement.

Whoever wrote a statement, its text is that of a template: the question marks outside its literals are slots, and all
else are letters (`template`). Filling placeholders is filling these slots. Doubling the percent signs of a statement
doubles them segment by segment and moves the limits of no literal (`segments_doublePercents`), so restyling a statement
writes these slots in the style (`restyle_template`).
-/

namespace FluentSql

open ParamStyle (doublePercents doublePercents_append doublePercents_cons_of_ne doublePercents_cons_percent
  doublePercents_nil)
open Text (splitOn splitOn_singleton_cons splitOn_ne_nil)

namespace Literal

open Template (ofLetters ofParts renderFrom)

variable {supply : Nat → List Char}

/-! ## The template of a statement -/

/-- A character outside literals: a slot if it is a question mark. -/
def token (c : Char) : Token := if c = '?' then .slot else .letter c

/-- The template of a segment. A literal has no slots. -/
def Segment.template : Segment → Template
  | .plain text => text.map token
  | .quoted text => ofLetters text

/-- The template of a statement: its question marks outside literals are slots, and all else are letters. -/
def template (cs : List Char) : Template := (segments cs).flatMap Segment.template

theorem text_map_token (cs : List Char) : Template.text (cs.map token) = cs := by
  induction cs with
  | nil => rfl
  | cons c cs ih =>
      rw [List.map_cons, Template.text, List.flatMap_cons, ← Template.text, ih, token]
      by_cases hc : c = '?' <;> simp [hc, Token.chars]

theorem text_ofLetters (cs : List Char) : Template.text (ofLetters cs) = cs := by
  induction cs with
  | nil => rfl
  | cons c cs ih =>
      rw [ofLetters, List.map_cons, Template.text, List.flatMap_cons, ← Template.text, ← ofLetters, ih]
      rfl

/-- The template is written as the statement. -/
theorem text_template (cs : List Char) : (template cs).text = cs := by
  have hsegments : ∀ segs : List Segment, Template.text (segs.flatMap Segment.template) = flatten segs := by
    intro segs
    induction segs with
    | nil => rfl
    | cons segment segs ih =>
        rw [List.flatMap_cons, Template.text_append, ih, flatten, flatten, List.flatMap_cons]
        cases segment with
        | plain text => rw [Segment.template, text_map_token, Segment.chars]
        | quoted text => rw [Segment.template, text_ofLetters, Segment.chars]
  rw [template, hsegments, flatten_segments]

theorem ofParts_consFirst (c : Char) {parts : List (List Char)} (h : parts ≠ []) :
    ofParts (Text.consFirst c parts) = .letter c :: ofParts parts := by
  obtain ⟨part, parts, rfl⟩ := List.exists_cons_of_ne_nil h
  rw [Text.consFirst, Template.ofParts_cons, Template.ofParts_cons]
  rfl

theorem map_token_eq_ofParts (cs : List Char) : cs.map token = ofParts (splitOn ['?'] cs) := by
  induction cs with
  | nil => simp [splitOn, Template.ofParts_singleton, ofLetters]
  | cons c cs ih =>
      have hne := splitOn_ne_nil ['?'] cs
      rw [List.map_cons, ih, splitOn_singleton_cons, token]
      by_cases hc : c = '?'
      · obtain ⟨part, parts, hparts⟩ := List.exists_cons_of_ne_nil hne
        rw [if_pos hc, if_pos hc.symm, hparts, Template.ofParts_cons_cons]
        rfl
      · rw [if_neg hc, if_neg (Ne.symm hc), ofParts_consFirst c hne]

/-- The placeholders are what searching a question mark finds. -/
theorem Segment.template_eq_templateOf : Segment.template = Segment.templateOf ['?'] := by
  funext s
  cases s with
  | plain text => exact map_token_eq_ofParts text
  | quoted text => rfl

/-- It has a slot for each placeholder outside literals. -/
theorem slots_template (cs : List Char) : (template cs).slots = slotsOutside cs := by
  rw [template, slotsOutside, Segment.template_eq_templateOf]
  induction segments cs with
  | nil => rfl
  | cons segment segs ih =>
      rw [List.flatMap_cons, Template.slots_append, ih, List.map_cons, List.sum_cons]
      cases segment with
      | plain text => rw [slots_templateOf_plain, Segment.slots]
      | quoted text => rw [Segment.templateOf, Template.slots_ofLetters, Segment.slots]

/-- Replacing the placeholders outside the literals of any statement fills the slots of its template. -/
theorem replaceEach_eq_fill (supply : Nat → List Char) (cs : List Char) :
    replaceEach ['?'] supply cs = (template cs).fill supply := by
  rw [replaceEach_eq_fill_templateOf, template, Segment.template_eq_templateOf, templateOf]

/-! ## Doubled percent signs -/

/-- The segment with its percent signs doubled. -/
def Segment.doublePercents : Segment → Segment
  | .plain text => .plain (ParamStyle.doublePercents text)
  | .quoted text => .quoted (ParamStyle.doublePercents text)

theorem consPlain_doublePercents {c : Char} (hc : c ≠ '%') (segs : List Segment) :
    consPlain c (segs.map Segment.doublePercents) = (consPlain c segs).map Segment.doublePercents := by
  match segs with
  | [] => simp [consPlain, Segment.doublePercents, doublePercents_cons_of_ne hc]
  | .plain text :: rest => simp [consPlain, Segment.doublePercents, doublePercents_cons_of_ne hc]
  | .quoted text :: rest => simp [consPlain, Segment.doublePercents, doublePercents_cons_of_ne hc]

theorem consPlain_percents (segs : List Segment) :
    consPlain '%' (consPlain '%' (segs.map Segment.doublePercents)) =
      (consPlain '%' segs).map Segment.doublePercents := by
  match segs with
  | [] => simp [consPlain, Segment.doublePercents, doublePercents_cons_percent]
  | .plain text :: rest => simp [consPlain, Segment.doublePercents, doublePercents_cons_percent]
  | .quoted text :: rest => simp [consPlain, Segment.doublePercents, doublePercents_cons_percent]

/-- **Doubling percent signs moves the limits of no literal.** -/
theorem segments_doublePercents (cs : List Char) :
    segments (ParamStyle.doublePercents cs) = (segments cs).map Segment.doublePercents := by
  have hpercent : isQuote '%' = false := by decide
  have hne : ∀ {c : Char}, isQuote c = true → c ≠ '%' := by
    rintro _ hc rfl
    exact absurd hc (by decide)
  fun_induction segments cs with
  | case1 => simp [segments]
  | case2 c cs hc body after found ih =>
      have hfound := closing?_doublePercents (hne hc) cs
      rw [found, Option.map_some] at hfound
      rw [doublePercents_cons_of_ne (hne hc), segments_of_closing hc hfound, ih, List.map_cons,
        Segment.doublePercents, doublePercents_cons_of_ne (hne hc)]
  | case3 c cs hc found ih =>
      have hfound := closing?_doublePercents (hne hc) cs
      rw [found, Option.map_none] at hfound
      rw [doublePercents_cons_of_ne (hne hc), segments_of_closing_none hc hfound, ih, consPlain_doublePercents (hne hc)]
  | case4 c cs hc ih =>
      have hplain : isQuote c = false := by simpa using hc
      by_cases hsign : c = '%'
      · subst hsign
        rw [doublePercents_cons_percent, segments_cons hpercent, segments_cons hpercent, ih, consPlain_percents]
      · rw [doublePercents_cons_of_ne hsign, segments_cons hplain, ih, consPlain_doublePercents hsign]

theorem map_token_percents (cs : List Char) :
    ('%' :: '%' :: cs).map token = .letter '%' :: .letter '%' :: cs.map token := rfl

/-- Doubling leaves the slots of a segment where they are. -/
theorem Segment.slots_template_doublePercents (segment : Segment) :
    Template.slots segment.doublePercents.template = Template.slots segment.template := by
  cases segment with
  | quoted text => rw [doublePercents, template, template, Template.slots_ofLetters, Template.slots_ofLetters]
  | plain text =>
      simp only [doublePercents, template]
      induction text with
      | nil => rw [doublePercents_nil]
      | cons c text ih =>
          by_cases hc : c = '%'
          · subst hc
            rw [doublePercents_cons_percent, map_token_percents, Template.slots_cons, Template.slots_cons, ih]
            rfl
          · rw [doublePercents_cons_of_ne hc, List.map_cons, List.map_cons, Template.slots_cons, Template.slots_cons, ih]

/-- A doubled segment is the segment with its letters written with doubled percent signs. -/
theorem Segment.renderFrom_doublePercents (k : Nat) (segment : Segment) :
    renderFrom id supply k segment.doublePercents.template =
      renderFrom ParamStyle.doublePercents supply k segment.template := by
  cases segment with
  | quoted text =>
      rw [doublePercents, template, template, Template.renderFrom_ofLetters rfl (fun _ _ => rfl),
        Template.renderFrom_ofLetters doublePercents_nil doublePercents_append]
      rfl
  | plain text =>
      simp only [doublePercents, template]
      induction text generalizing k with
      | nil => rw [doublePercents_nil]; rfl
      | cons c text ih =>
          by_cases hc : c = '%'
          · subst hc
            have hletter : ('%' :: text).map token = .letter '%' :: text.map token := rfl
            rw [doublePercents_cons_percent, map_token_percents, hletter, Template.renderFrom_cons rfl,
              Template.renderFrom_cons rfl, Template.renderFrom_cons rfl, ih]
            show '%' :: '%' :: _ = ParamStyle.doublePercents ['%'] ++ _
            rw [doublePercents_cons_percent, doublePercents_nil]
            rfl
          · rw [doublePercents_cons_of_ne hc, List.map_cons, List.map_cons, token]
            by_cases hslot : c = '?'
            · rw [if_pos hslot, Template.renderFrom_slot, Template.renderFrom_slot, ih]
            · rw [if_neg hslot, Template.renderFrom_cons rfl, Template.renderFrom_cons rfl, ih]
              show c :: _ = ParamStyle.doublePercents [c] ++ _
              rw [doublePercents_cons_of_ne hc, doublePercents_nil]
              rfl

theorem renderFrom_map_doublePercents (k : Nat) (segs : List Segment) :
    renderFrom id supply k ((segs.map Segment.doublePercents).flatMap Segment.template) =
      renderFrom ParamStyle.doublePercents supply k (segs.flatMap Segment.template) := by
  induction segs generalizing k with
  | nil => rfl
  | cons segment segs ih =>
      rw [List.map_cons, List.flatMap_cons, List.flatMap_cons, Template.renderFrom_append, Template.renderFrom_append,
        segment.renderFrom_doublePercents, segment.slots_template_doublePercents, ih]

/-- Restyling any statement writes the slots of its template in the style. -/
theorem restyle_template (style : ParamStyle) (cs : List Char) : style.restyle cs = (template cs).restyled style := by
  cases style with
  | positional => exact (text_template cs).symm
  | numbered => exact replaceEach_eq_fill _ cs
  | named => exact replaceEach_eq_fill _ cs
  | percent =>
      show replaceOutside ['?'] ['%', 's'] (ParamStyle.doublePercents cs) = _
      rw [replaceOutside_eq_replaceEach, replaceEach, segments_doublePercents, replaceFrom_eq_renderFrom,
        ← Segment.template_eq_templateOf, renderFrom_map_doublePercents]
      rfl

end Literal

end FluentSql
