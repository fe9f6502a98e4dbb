import FluentSql.Proofs.Literal.Reading
import FluentSql.Proofs.Query.Template
import FluentSql.Value.Literal
/-
# FluentSql.Proofs.Query.Reading — how statements are read that the builder wrote.

The log and the drivers look for placeholders in the text of a statement. In the text of a template they
find its slots and nothing else, if all its quoted names are inert: then filling the placeholders is filling
the slots, and restyling the statement is writing the slots in the style.
-/

namespace FluentSql

open Literal (segments replaceFrom replaceEach isInert slotsOutside)

/-- A reader passes the token on as it is, unless it is a slot. -/
def Token.IsInert : Token → Prop
  | .slot => True
  | t => isInert t.chars = true

theorem Token.eq_slot {t : Token} (h : t.isSlot = true) : t = .slot := by
  cases t with
  | slot => rfl
  | letter c => cases h
  | name mark text => cases h

namespace Template

/-- The text of a template with texts in its slots, the first in its first slot and so on. What stands
between the slots may be written another way. -/
def renderFrom (other : List Char → List Char) (supply : Nat → List Char) : Nat → Template → List Char
  | _, [] => []
  | k, .slot :: ts => supply k ++ renderFrom other supply (k + 1) ts
  | k, t :: ts => other t.chars ++ renderFrom other supply k ts

/-- The text of a template with texts in its slots. -/
def fill (supply : Nat → List Char) (ts : Template) : List Char := ts.renderFrom id supply 0

/-- The text of a template with its slots in a style. Where the interface interpolates the whole text, the
percent signs of names and letters are doubled. -/
def restyled (ts : Template) : ParamStyle → List Char
  | .positional => ts.text
  | .percent => ts.renderFrom ParamStyle.doublePercents (fun _ => ['%', 's']) 0
  | .numbered => ts.fill fun k => ':' :: Number.digits (k + 1)
  | .named => ts.fill fun k => ':' :: ParamStyle.parameterName k

variable {ts : Template} {other : List Char → List Char} {supply : Nat → List Char}

theorem renderFrom_slot (k : Nat) (ts : Template) :
    renderFrom other supply k (.slot :: ts) = supply k ++ renderFrom other supply (k + 1) ts := rfl

theorem renderFrom_cons {t : Token} (ht : t.isSlot = false) (k : Nat) (ts : Template) :
    renderFrom other supply k (t :: ts) = other t.chars ++ renderFrom other supply k ts := by
  cases t with
  | slot => cases ht
  | _ => rfl

/-- Question marks in the slots give the text of the template. -/
theorem renderFrom_questionMarks (k : Nat) (ts : Template) :
    renderFrom id (fun _ => ['?']) k ts = ts.text := by
  induction ts generalizing k with
  | nil => rfl
  | cons t ts ih =>
      rw [text, List.flatMap_cons]
      cases t with
      | slot => rw [renderFrom_slot, ih]; rfl
      | letter c => rw [renderFrom_cons rfl, ih]; rfl
      | name mark n => rw [renderFrom_cons rfl, ih]; rfl

/-- A reader that comes upon the slots as question marks between inert texts fills them. -/
theorem replaceFrom_renderFrom (h : ∀ t ∈ ts, t.isSlot = false → isInert (other t.chars) = true)
    (j k : Nat) :
    replaceFrom ['?'] supply k (segments (renderFrom other (fun _ => ['?']) j ts)) =
      renderFrom other supply k ts := by
  have hslot : Literal.isQuote '?' = false := by decide
  induction ts generalizing j k with
  | nil => simp [renderFrom, segments, replaceFrom]
  | cons t ts ih =>
      have hrest := ih fun u hu => h u (List.mem_cons_of_mem _ hu)
      cases ht : t.isSlot with
      | true =>
          obtain rfl := Token.eq_slot ht
          rw [renderFrom_slot, List.cons_append, List.nil_append, Literal.segments_cons hslot,
            Literal.replaceFrom_consPlain_slot, hrest, renderFrom_slot]
      | false =>
          rw [renderFrom_cons ht, Literal.replaceFrom_append_of_isInert (h t List.mem_cons_self ht),
            hrest, renderFrom_cons ht]

theorem isInert_chars (h : ∀ t ∈ ts, t.IsInert) : ∀ t ∈ ts, t.isSlot = false → isInert t.chars = true := by
  intro t ht hslot
  have hin := h t ht
  cases t with
  | slot => cases hslot
  | _ => exact hin

/-- Replacing the placeholders outside literals fills the slots, if all names are inert. -/
theorem replaceEach_text (h : ∀ t ∈ ts, t.IsInert) (supply : Nat → List Char) :
    replaceEach ['?'] supply ts.text = ts.fill supply := by
  rw [← renderFrom_questionMarks 0 ts]
  exact replaceFrom_renderFrom (isInert_chars h) 0 0

/-- A template has as many placeholders outside literals as slots, if all names are inert. -/
theorem slotsOutside_text (h : ∀ t ∈ ts, t.IsInert) : slotsOutside ts.text = ts.slots := by
  have hslot : Literal.isQuote '?' = false := by decide
  induction ts with
  | nil => simp [text, slots, slotsOutside, segments]
  | cons t ts ih =>
      have hrest := ih fun u hu => h u (List.mem_cons_of_mem _ hu)
      rw [text, slots] at hrest
      rw [text, slots, List.flatMap_cons, List.countP_cons]
      cases ht : t.isSlot with
      | true =>
          obtain rfl := Token.eq_slot ht
          show slotsOutside ('?' :: ts.flatMap Token.chars) = _
          rw [Literal.slotsOutside_cons hslot, hrest]
          exact Nat.add_comm _ _
      | false =>
          have hinert := isInert_chars h t List.mem_cons_self ht
          rw [Literal.slotsOutside_append_of_isInert hinert, hrest]
          rfl

theorem fill_eq_text (h : ts.slots = 0) (supply : Nat → List Char) : ts.fill supply = ts.text := by
  suffices main : ∀ k, renderFrom id supply k ts = ts.text from main 0
  induction ts with
  | nil => exact fun _ => rfl
  | cons t ts ih =>
      intro k
      rw [slots, List.countP_cons] at h
      cases ht : t.isSlot with
      | true =>
          rw [ht] at h
          exact absurd h (by simp)
      | false =>
          rw [ht] at h
          rw [renderFrom_cons ht, ih h k, text, text, List.flatMap_cons]
          rfl

/-- Restyling a statement writes its slots in the style, if all names are inert. -/
theorem restyle_text (h : ∀ t ∈ ts, t.IsInert) (style : ParamStyle) :
    style.restyle ts.text = ts.restyled style := by
  cases style with
  | positional => rfl
  | numbered => exact replaceEach_text h _
  | named => exact replaceEach_text h _
  | percent =>
      -- Doubling the percent signs of the statement doubles those of its letters and names.
      have hdoubled : ParamStyle.doublePercents ts.text =
          renderFrom ParamStyle.doublePercents (fun _ => ['?']) 0 ts := by
        suffices main : ∀ (ts : Template) k, ParamStyle.doublePercents ts.text =
            renderFrom ParamStyle.doublePercents (fun _ => ['?']) k ts from main ts 0
        intro ts
        induction ts with
        | nil => exact fun _ => ParamStyle.doublePercents_eq_flatMap []
        | cons t ts ih =>
            intro k
            rw [text, List.flatMap_cons, ParamStyle.doublePercents_append]
            cases t with
            | slot =>
                rw [renderFrom_slot, ← ih (k + 1)]
                exact congrArg (· ++ _) (ParamStyle.doublePercents_eq_flatMap ['?'])
            | letter c => rw [renderFrom_cons rfl, ← ih k]; rfl
            | name mark n => rw [renderFrom_cons rfl, ← ih k]; rfl
      have hinert : ∀ t ∈ ts, t.isSlot = false →
          isInert (ParamStyle.doublePercents t.chars) = true :=
        fun t ht hslot => Literal.isInert_doublePercents (isInert_chars h t ht hslot)
      show Literal.replaceOutside ['?'] ['%', 's'] (ParamStyle.doublePercents ts.text) = _
      rw [Literal.replaceOutside_eq_replaceEach, hdoubled]
      exact replaceFrom_renderFrom hinert 0 0

end Template

/-- Readers of the statement find the slots of the template that it was written from, one for each
parameter: the log fills them with the parameters, and the drivers write them in their style. -/
structure Sql.IsReadAs (ts : Template) (sql : Sql) : Prop where
  text : sql.text = .text (String.ofList ts.text)
  slots : ts.slots = sql.params.bound.length
  found : slotsOutside ts.text = sql.params.bound.length
  displayed : ∀ quote : Value → String, bindForDisplay quote (String.ofList ts.text) sql.params =
    String.ofList (ts.fill (Literal.supplyOf ((sql.params.bound.map quote).map String.toList).toArray ['?']))
  restyled : ∀ style : ParamStyle, style.restyle ts.text = ts.restyled style

/-- **A statement that was written from inert names is read as it was written.** -/
theorem Template.isReadAs {ts : Template} (h : ∀ t ∈ ts, t.IsInert) {sql : Sql} {values : List Value}
    (htext : sql.text = .text (String.ofList ts.text)) (hparams : sql.params = .positional values)
    (hslots : ts.slots = values.length) : sql.IsReadAs ts := by
  refine ⟨htext, ?_, ?_, fun quote => ?_, fun style => restyle_text h style⟩
  · rw [hparams]
    exact hslots
  · rw [hparams, slotsOutside_text h]
    exact hslots
  · rw [hparams]
    cases values with
    | nil =>
        -- The log shows a statement without parameters as it is.
        exact congrArg String.ofList (fill_eq_text hslots _).symm
    | cons v values =>
        show fillPlaceholders _ _ = _
        rw [fillPlaceholders, String.toList_ofList, replaceEach_text h]
        rfl

end FluentSql
