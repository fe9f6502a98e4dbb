import FluentSql.Proofs.Database.Machine
import FluentSql.Proofs.Literal.Placeholders
import FluentSql.Proofs.Value.Quoted
/-
# FluentSql.Proofs.Connection.Translation — statements in the placeholder style of an interface.

An interface that wants another style gets the slots of a statement written in this style, and all else as it was. Where
the interface interpolates the text, what it makes of the statement is the statement with the parameters in its slots
(`interpolate?_renderFrom`): the percent signs that were in the text come out as they were, and none of them takes a
parameter. The slots that are written in any style are those that the log fills (`prepare_translates`).
-/

namespace FluentSql

/-! ## Interpolation -/

/-- What an interface that interpolates makes of a statement and the texts of its parameters: two percent signs become
one, and each `%s` becomes the next text. Any other percent sign is refused, and so is a text too few or too many. -/
def ParamStyle.interpolate? : List Char → List (List Char) → Option (List Char)
  | [], [] => some []
  | [], _ :: _ => none
  | '%' :: '%' :: cs, texts => (interpolate? cs texts).map ('%' :: ·)
  | '%' :: 's' :: cs, t :: texts => (interpolate? cs texts).map (t ++ ·)
  | '%' :: _, _ => none
  | c :: cs, texts => (interpolate? cs texts).map (c :: ·)

namespace ParamStyle

theorem interpolate?_percent (cs : List Char) (texts : List (List Char)) :
    interpolate? ('%' :: '%' :: cs) texts = (interpolate? cs texts).map ('%' :: ·) := by
  cases texts <;> rfl

theorem interpolate?_other {c : Char} (hc : c ≠ '%') (cs : List Char) (texts : List (List Char)) :
    interpolate? (c :: cs) texts = (interpolate? cs texts).map (c :: ·) := by
  rw [interpolate?]
  all_goals simp [hc]

/-- A text with doubled percent signs comes out as it was, whatever is in it. -/
theorem interpolate?_doublePercents (cs rest : List Char) (texts : List (List Char)) :
    interpolate? (doublePercents cs ++ rest) texts = (interpolate? rest texts).map (cs ++ ·) := by
  induction cs with
  | nil =>
      rw [doublePercents_nil, List.nil_append]
      exact Option.map_id'.symm
  | cons c cs ih =>
      by_cases hc : c = '%'
      · subst hc
        rw [doublePercents_cons_percent, List.cons_append, List.cons_append, interpolate?_percent, ih, Option.map_map]
        rfl
      · rw [doublePercents_cons_of_ne hc, List.cons_append, interpolate?_other hc, ih, Option.map_map]
        rfl

end ParamStyle

namespace Template

open ParamStyle (interpolate? doublePercents)

/-- The text of a template with texts in its slots, one in each. -/
def fillWith (texts : List (List Char)) (ts : Template) : List Char := ts.fill fun k => texts.getD k []

/-- **Interpolation fills the slots.** A template that is written with `%s` in its slots and doubled percent signs takes
one text for each slot, neither more nor fewer. -/
theorem interpolate?_renderFrom (supply : Nat → List Char) (j k : Nat) (ts : Template) {texts : List (List Char)}
    (h : ∀ i t, texts[i]? = some t → supply (k + i) = t) :
    interpolate? (renderFrom doublePercents (fun _ => ['%', 's']) j ts) texts =
      if texts.length = slots ts then some (renderFrom id supply k ts) else none := by
  induction ts generalizing j k texts with
  | nil => cases texts <;> rfl
  | cons t ts ih =>
      rw [slots_cons]
      cases ht : t.isSlot with
      | false =>
          rw [renderFrom_cons ht, renderFrom_cons ht, ParamStyle.interpolate?_doublePercents, ih j k h]
          by_cases hlength : texts.length = slots ts <;> simp [hlength]
      | true =>
          obtain rfl := Token.eq_slot ht
          rw [renderFrom_slot, renderFrom_slot]
          cases texts with
          | nil => simp [interpolate?]
          | cons text texts =>
              have hfirst : supply k = text := h 0 text rfl
              have hlater : ∀ i t, texts[i]? = some t → supply (k + 1 + i) = t := fun i t hi => by
                rw [Nat.add_assoc, Nat.add_comm 1 i]
                exact h (i + 1) t hi
              have hstep : interpolate? (['%', 's'] ++ renderFrom doublePercents (fun _ => ['%', 's']) (j + 1) ts)
                  (text :: texts) = (interpolate? (renderFrom doublePercents (fun _ => ['%', 's']) (j + 1) ts)
                    texts).map (text ++ ·) := rfl
              rw [hstep, ih (j + 1) (k + 1) hlater, hfirst]
              by_cases hlength : texts.length = slots ts <;> simp [hlength]

end Template

/-! ## Named parameters -/

theorem ParamStyle.parameterName_injective : Function.Injective parameterName := by
  intro j k h
  exact Nat.succ.inj (Number.digits_injective (List.tail_eq_of_cons_eq h))

namespace Connection

open Literal (slotsOutside template)
open ParamStyle (interpolate? parameterName)

/-- Parameters are bound in order under names of their own. -/
theorem bound_named (params : List Value) :
    ∃ entries, ParamStyle.named.bound params = .map entries ∧ Entries.Distinct entries ∧
      Entries.keys entries = (List.range params.length).map (fun k => .text (String.ofList (parameterName k))) ∧
      Entries.values entries = params := by
  have hkeys : Entries.keys (params.mapIdx fun k v => (Value.text (String.ofList (parameterName k)), v)) =
      (List.range params.length).map fun k => .text (String.ofList (parameterName k)) := by
    refine List.ext_getElem (by simp [Entries.keys]) fun k hk hk' => ?_
    simp [Entries.keys]
  refine ⟨_, rfl, ?_, hkeys, List.ext_getElem (by simp [Entries.values]) fun k hk hk' => by simp [Entries.values]⟩
  rw [Entries.Distinct, hkeys]
  refine List.pairwise_map.2 (List.pairwise_lt_range.imp fun {j k} hlt => ?_)
  rw [Value.text_beq_text, beq_eq_false_iff_ne]
  intro hsame
  exact absurd (ParamStyle.parameterName_injective (String.ofList_inj.1 hsame)) (Nat.ne_of_lt hlt)

/-- The log fills the slots of a statement, if it has one for each parameter. -/
theorem bindForDisplay_eq_fillWith (quote : Value → String) (sql : String) {params : List Value} (hparams : params ≠ [])
    (hslots : slotsOutside sql.toList = params.length) :
    bindForDisplay quote sql (.positional params) =
      String.ofList ((template sql.toList).fillWith (params.map fun v => (quote v).toList)) := by
  have hfilled : bindForDisplay quote sql (.positional params) = fillPlaceholders sql (params.map quote) := by
    cases params with
    | nil => exact absurd rfl hparams
    | cons v params => rfl
  rw [hfilled, fillPlaceholders, Literal.replaceEach_eq_fill, Template.fillWith, List.map_map]
  refine congrArg String.ofList (Template.fill_congr fun k hk => ?_)
  -- There is a parameter for each slot, so neither way of writing a slot without one matters.
  rw [Literal.slots_template, hslots] at hk
  simp [Literal.supplyOf, hk]

/-- **Every placeholder style writes the slots that the log fills, and nothing else.** The slots of a statement are its
question marks outside literals. If there is a parameter for each of them, an interface that interpolates makes of what
it gets the statement with its own texts in the slots, in order, and takes as many texts as there are parameters; one
that numbers or names placeholders gets the statement with numbers or names in the slots, and the parameters in order,
or under these names. Any other interface gets the statement and the parameters as they are. -/
theorem prepare_translates (dialect style sql : String) {params : List Value} (hparams : params ≠ [])
    (hslots : slotsOutside sql.toList = params.length) (h : Heap) :
    let ts := template sql.toList
    ∃ sql' bound, (prepare (.toolkit dialect style) (.text sql) (Params.positional params).toValue).perform h =
        (.ok (.text sql', some bound), h) ∧
      ts.text = sql.toList ∧ ts.slots = params.length ∧
      (∀ quote, bindForDisplay quote sql (.positional params) =
        String.ofList (ts.fillWith (params.map fun v => (quote v).toList))) ∧
      (style = "format" ∨ style = "pyformat" → bound = .tuple params ∧ ∀ texts,
        interpolate? sql'.toList texts = if texts.length = params.length then some (ts.fillWith texts) else none) ∧
      (style = "numeric" → bound = .tuple params ∧ sql'.toList = ts.fill fun k => ':' :: Number.digits (k + 1)) ∧
      (style = "named" → sql'.toList = ts.fill (fun k => ':' :: parameterName k) ∧
        ∃ entries, bound = .map entries ∧ Entries.Distinct entries ∧
          Entries.keys entries = (List.range params.length).map (fun k => .text (String.ofList (parameterName k))) ∧
          Entries.values entries = params) ∧
      (style ∉ ["format", "pyformat", "numeric", "named"] → sql' = sql ∧ bound = .tuple params) := by
  intro ts
  have hcount : ts.slots = params.length := (Literal.slots_template _).trans hslots
  have hprepared : (prepare (.toolkit dialect style) (.text sql) (Params.positional params).toValue).perform h =
      (.ok (.text (restyled (.ofName style) sql), some ((ParamStyle.ofName style).bound params)), h) := by
    rw [perform_prepare]
    cases params with
    | nil => exact absurd rfl hparams
    | cons v params => rfl
  have hrestyled : (restyled (.ofName style) sql).toList = ts.restyled (.ofName style) := by
    rw [restyled, String.toList_ofList, Literal.restyle_template]
  refine ⟨_, _, hprepared, Literal.text_template _, hcount,
    fun quote => bindForDisplay_eq_fillWith quote sql hparams hslots, ?_, ?_, ?_, ?_⟩
  · intro hstyle
    have hpercent : ParamStyle.ofName style = .percent := by rcases hstyle with rfl | rfl <;> decide
    rw [hrestyled, hpercent]
    refine ⟨rfl, fun texts => ?_⟩
    have hsupply : ∀ i t, texts[i]? = some t → texts.getD (0 + i) [] = t := fun i t hi => by
      rw [Nat.zero_add, List.getD_eq_getElem?_getD, hi, Option.getD_some]
    have hfill := Template.interpolate?_renderFrom (fun k => texts.getD k []) 0 0 ts hsupply
    rwa [hcount] at hfill
  · rintro rfl
    exact ⟨rfl, hrestyled⟩
  · rintro rfl
    exact ⟨hrestyled, bound_named params⟩
  · intro hstyle
    have hother : ParamStyle.ofName style = .positional := by
      simp only [List.mem_cons, List.not_mem_nil, or_false, not_or] at hstyle
      simp [ParamStyle.ofName, hstyle]
    rw [hother]
    exact ⟨String.ofList_toList, rfl⟩

/-- A statement with question marks in literals, percent signs, an escaped quote and a quote that is never closed. -/
def likeStatement : String :=
  "SELECT \x2750%?\x27, ? FROM t WHERE a LIKE \x27\x5c\x27?%s\x27 AND b % ? = \x22?"

theorem prepare_translates_likeStatement :
    ∃ sql' bound, (prepare (.toolkit "mysql" "pyformat") (.text likeStatement)
        (Params.positional [.int 1, .text "x", .null]).toValue).perform {} = (.ok (.text sql', some bound), {}) ∧
      interpolate? sql'.toList ["1".toList, "%s".toList, "?".toList] = some
        "SELECT \x2750%?\x27, 1 FROM t WHERE a LIKE \x27\x5c\x27?%s\x27 AND b % %s = \x22?".toList := by
  have hparams : [Value.int 1, .text "x", .null] ≠ [] := List.cons_ne_nil _ _
  have hslots : slotsOutside likeStatement.toList = [Value.int 1, .text "x", .null].length := by decide +kernel
  obtain ⟨sql', bound, hrun, -, -, -, hpercent, -⟩ :=
    prepare_translates "mysql" "pyformat" likeStatement hparams hslots {}
  have hfilled : (template likeStatement.toList).fillWith ["1".toList, "%s".toList, "?".toList] =
      "SELECT \x2750%?\x27, 1 FROM t WHERE a LIKE \x27\x5c\x27?%s\x27 AND b % %s = \x22?".toList := by decide +kernel
  refine ⟨sql', bound, hrun, ?_⟩
  rw [(hpercent (.inr rfl)).2, ← hfilled]
  rfl

end Connection

end FluentSql
