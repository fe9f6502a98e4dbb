import FluentSql.Proofs.Query.Reading
/-
# FluentSql.Proofs.Literal.Replacing — replacing a text outside the literals of a statement.

The occurrences of a pattern are found from left to right: the first one is the leftmost of all, and each further one is the
leftmost behind the one before it. They divide a text into parts (`Divides`). For a pattern that is not empty, splitting finds
this division, and there is no other (`divides_iff`).

Searching a text in a statement gives a template: the occurrences of the text in plain segments are slots, and all else,
the literals as a whole, are letters (`templateOf`). Replacing the occurrences fills these slots (`replaceFrom_eq_renderFrom`).

The texts to put in may also be asked for one by one, as the occurrences are come upon (`replaceAsking`). What is asked may
do anything besides: count, fail, or give another text each time. It is asked once for each slot of the template, from left
to right, and never for anything else (`replaceAsking_eq_renderAsking`). So it makes no difference whether one text is
given, or something is asked that always gives this text.
-/

namespace FluentSql

namespace Text

variable {pattern cs before after : List Char} {parts : List (List Char)}

/-! ## Occurrences of a pattern -/

@[simp] theorem afterMatch?_append (pattern after : List Char) : afterMatch? pattern (pattern ++ after) = some after := by
  induction pattern with
  | nil => rfl
  | cons p ps ih => simp [afterMatch?, ih]

theorem afterMatch?_eq_none_iff : afterMatch? pattern cs = none ↔ ¬pattern <+: cs := by
  constructor
  · rintro hnone ⟨after, rfl⟩
    rw [afterMatch?_append] at hnone
    cases hnone
  · intro hprefix
    cases hmatch : afterMatch? pattern cs with
    | none => rfl
    | some after => exact absurd ⟨after, append_of_afterMatch? hmatch⟩ hprefix

theorem occursIn_iff : occursIn pattern cs = true ↔ pattern <:+: cs := by
  induction cs with
  | nil => simp [occursIn]
  | cons c cs ih =>
      rw [occursIn, Bool.or_eq_true, ih, List.infix_cons_iff, Option.isSome_iff_ne_none, ne_eq, afterMatch?_eq_none_iff,
        Classical.not_not]

/-- The pattern stands behind `before`, and nowhere earlier. -/
structure Finds (pattern cs before after : List Char) : Prop where
  split : cs = before ++ (pattern ++ after)
  first : ∀ before' after', cs = before' ++ (pattern ++ after') → before.length ≤ before'.length

/-- The parts of a text around the occurrences of a pattern, from left to right. The last part has none. -/
inductive Divides (pattern : List Char) : List Char → List (List Char) → Prop where
  | last {cs : List Char} : ¬pattern <:+: cs → Divides pattern cs [cs]
  | next {cs before after : List Char} {parts : List (List Char)} : Finds pattern cs before after →
      Divides pattern after parts → Divides pattern cs (before :: parts)

theorem Finds.isInfix (h : Finds pattern cs before after) : pattern <:+: cs :=
  ⟨before, after, by rw [h.split, List.append_assoc]⟩

theorem Finds.unique {before' after' : List Char} (h : Finds pattern cs before after)
    (h' : Finds pattern cs before' after') : before = before' ∧ after = after' := by
  have hlength : before.length = before'.length := Nat.le_antisymm (h.first _ _ h'.split) (h'.first _ _ h.split)
  obtain ⟨hbefore, hrest⟩ := List.append_inj (h.split.symm.trans h'.split) hlength
  exact ⟨hbefore, List.append_cancel_left hrest⟩

/-- A character at which the pattern does not start stands in front of the first occurrence. -/
theorem Finds.cons {c : Char} (hc : ¬pattern <+: c :: cs) (h : Finds pattern cs before after) :
    Finds pattern (c :: cs) (c :: before) after := by
  refine ⟨by rw [h.split, List.cons_append], fun before' after' hsplit => ?_⟩
  cases before' with
  | nil => exact absurd ⟨after', hsplit.symm⟩ hc
  | cons d before' =>
      have hle := h.first before' after' (List.cons.inj hsplit).2
      simp only [List.length_cons]
      omega

theorem Divides.unique {parts' : List (List Char)} (h : Divides pattern cs parts) (h' : Divides pattern cs parts') :
    parts = parts' := by
  induction h generalizing parts' with
  | last hnone =>
      cases h' with
      | last => rfl
      | next hfinds => exact absurd hfinds.isInfix hnone
  | next hfinds _ ih =>
      cases h' with
      | last hnone => exact absurd hfinds.isInfix hnone
      | next hfinds' hrest' =>
          obtain ⟨rfl, rfl⟩ := hfinds.unique hfinds'
          rw [ih hrest']

theorem Divides.cons {c : Char} (hc : ¬pattern <+: c :: cs) (h : Divides pattern cs parts) :
    Divides pattern (c :: cs) (consFirst c parts) := by
  cases h with
  | last hnone => exact .last fun hinfix => (List.infix_cons_iff.1 hinfix).elim hc hnone
  | next hfinds hrest => exact .next (hfinds.cons hc) hrest

theorem divides_splitOn (hpattern : pattern ≠ []) (cs : List Char) : Divides pattern cs (splitOn pattern cs) := by
  fun_induction splitOn pattern cs with
  | case1 => exact absurd rfl hpattern
  | case2 p ps => exact .last (by simp)
  | case3 p ps c cs after found ih =>
      have hsplit := append_of_afterMatch? found
      exact .next ⟨hsplit.symm, fun _ _ _ => Nat.zero_le _⟩ (ih hpattern)
  | case4 p ps c cs found ih => exact (ih hpattern).cons (afterMatch?_eq_none_iff.1 found)

/-- **Splitting divides a text at the occurrences of the pattern, from left to right.** -/
theorem divides_iff (hpattern : pattern ≠ []) : Divides pattern cs parts ↔ parts = splitOn pattern cs :=
  ⟨fun h => h.unique (divides_splitOn hpattern cs), fun h => h ▸ divides_splitOn hpattern cs⟩

/-- Where the pattern does not occur, there is one part. -/
theorem splitOn_of_absent (hpattern : pattern ≠ []) (h : ¬pattern <:+: cs) : splitOn pattern cs = [cs] :=
  ((divides_iff hpattern).1 (.last h)).symm

end Text

open Text (splitOn)

/-! ## Templates put together -/

namespace Template

variable {other : List Char → List Char} {supply : Nat → List Char}

/-- A text without slots. -/
def ofLetters (cs : List Char) : Template := cs.map .letter

@[simp] theorem text_append (ts us : Template) : text (ts ++ us) = text ts ++ text us := List.flatMap_append

theorem slots_cons (t : Token) (ts : Template) : slots (t :: ts) = slots ts + if t.isSlot then 1 else 0 :=
  List.countP_cons

@[simp] theorem slots_append (ts us : Template) : slots (ts ++ us) = slots ts + slots us := List.countP_append

@[simp] theorem slots_ofLetters (cs : List Char) : slots (ofLetters cs) = 0 := by
  refine List.countP_eq_zero.2 fun t ht => ?_
  obtain ⟨c, -, rfl⟩ := List.mem_map.1 ht
  exact Bool.false_ne_true

/-- The slots of the second template take the texts that the first one leaves. -/
theorem renderFrom_append (k : Nat) (ts us : Template) : renderFrom other supply k (ts ++ us) =
    renderFrom other supply k ts ++ renderFrom other supply (k + Template.slots ts) us := by
  induction ts generalizing k with
  | nil => rfl
  | cons t ts ih =>
      rw [List.cons_append, slots_cons]
      cases ht : t.isSlot with
      | true =>
          obtain rfl := Token.eq_slot ht
          have hnext : k + (slots ts + 1) = k + 1 + slots ts := by omega
          rw [renderFrom_slot, renderFrom_slot, ih, List.append_assoc, if_pos rfl, hnext]
      | false =>
          rw [renderFrom_cons ht, renderFrom_cons ht, ih, List.append_assoc, if_neg Bool.false_ne_true, Nat.add_zero]

theorem renderFrom_ofLetters (hnil : other [] = []) (happend : ∀ cs ds, other (cs ++ ds) = other cs ++ other ds) (k : Nat)
    (cs : List Char) : renderFrom other supply k (ofLetters cs) = other cs := by
  induction cs with
  | nil => exact hnil.symm
  | cons c cs ih =>
      have hfirst : renderFrom other supply k (ofLetters (c :: cs)) =
          other [c] ++ renderFrom other supply k (ofLetters cs) := renderFrom_cons rfl k _
      rw [hfirst, ih, ← happend]
      rfl

/-- What goes into the slots is all that matters of the texts. -/
theorem fill_congr {ts : Template} {supply' : Nat → List Char} (h : ∀ k < ts.slots, supply k = supply' k) :
    ts.fill supply = ts.fill supply' := by
  suffices main : ∀ k, (∀ i < ts.slots, supply (k + i) = supply' (k + i)) →
      renderFrom id supply k ts = renderFrom id supply' k ts from
    main 0 fun i hi => by rw [Nat.zero_add]; exact h i hi
  clear h
  induction ts with
  | nil => exact fun _ _ => rfl
  | cons t ts ih =>
      intro k h
      rw [slots_cons] at h
      cases ht : t.isSlot with
      | true =>
          obtain rfl := Token.eq_slot ht
          have hfirst : supply k = supply' k := h 0 (Nat.succ_pos _)
          rw [renderFrom_slot, renderFrom_slot, hfirst, ih]
          intro i hi
          rw [Nat.add_assoc, Nat.add_comm 1 i]
          exact h (i + 1) (Nat.succ_lt_succ hi)
      | false =>
          rw [renderFrom_cons ht, renderFrom_cons ht, ih]
          intro i hi
          exact h i (by rwa [ht, if_neg Bool.false_ne_true, Nat.add_zero])

end Template

/-! ## Templates of parts -/

namespace Template

variable {supply : Nat → List Char}

/-- The template of a text that is divided into parts, with a slot between each two. -/
def ofParts (parts : List (List Char)) : Template := [Token.slot].intercalate (parts.map ofLetters)

theorem ofParts_singleton (part : List Char) : ofParts [part] = ofLetters part := by simp [ofParts]

theorem ofParts_cons_cons (part next : List Char) (parts : List (List Char)) :
    ofParts (part :: next :: parts) = ofLetters part ++ .slot :: ofParts (next :: parts) := by
  simp [ofParts]

theorem ofParts_cons (part : List Char) (parts : List (List Char)) :
    ofParts (part :: parts) = ofLetters part ++ parts.flatMap fun next => .slot :: ofLetters next := by
  induction parts generalizing part with
  | nil => simp [ofParts_singleton]
  | cons next parts ih => rw [ofParts_cons_cons, ih, List.flatMap_cons, List.cons_append]

theorem slots_ofParts (parts : List (List Char)) : slots (ofParts parts) = parts.length - 1 := by
  induction parts with
  | nil => rfl
  | cons part parts ih =>
      cases parts with
      | nil => rw [ofParts_singleton, slots_ofLetters]; rfl
      | cons next parts =>
          rw [ofParts_cons_cons, slots_append, slots_ofLetters, slots_cons, ih]
          simp [Token.isSlot]

/-- Texts between parts fill the slots between them. -/
theorem renderFrom_ofParts (k : Nat) (parts : List (List Char)) :
    renderFrom id supply k (ofParts parts) = Literal.weave supply k parts := by
  have hletters : ∀ k cs, renderFrom id supply k (ofLetters cs) = cs :=
    renderFrom_ofLetters rfl fun _ _ => rfl
  induction parts generalizing k with
  | nil => rfl
  | cons part parts ih =>
      cases parts with
      | nil => rw [ofParts_singleton, hletters, Literal.weave]
      | cons next parts =>
          rw [ofParts_cons_cons, renderFrom_append, slots_ofLetters, Nat.add_zero, hletters, renderFrom_slot, ih,
            Literal.weave, List.append_assoc]

end Template

/-! ## Asking for the texts -/

namespace Template

section Asking

variable {M : Type → Type} [Monad M]

/-- What stands at a token, if it has to be asked for at a slot. -/
def tokenAsking (ask : M (List Char)) : Token → M (List Char)
  | .slot => ask
  | t => pure t.chars

/-- The text of a template that is asked for at each slot, from left to right. -/
def renderAsking (ask : M (List Char)) (ts : Template) : M (List Char) := List.flatten <$> ts.mapM (tokenAsking ask)

variable {ask : M (List Char)}

theorem tokenAsking_of_not_isSlot {t : Token} (ht : t.isSlot = false) : tokenAsking ask t = pure t.chars := by
  cases t with
  | slot => cases ht
  | _ => rfl

variable [LawfulMonad M]

theorem renderAsking_nil : renderAsking ask [] = pure [] := by simp [renderAsking]

theorem renderAsking_cons (t : Token) (ts : Template) : renderAsking ask (t :: ts) =
    tokenAsking ask t >>= fun first => (first ++ ·) <$> renderAsking ask ts := by
  simp [renderAsking]

theorem renderAsking_append (ts us : Template) : renderAsking ask (ts ++ us) =
    renderAsking ask ts >>= fun first => (first ++ ·) <$> renderAsking ask us := by
  simp [renderAsking]

@[simp] theorem renderAsking_ofLetters (cs : List Char) : renderAsking ask (ofLetters cs) = pure cs := by
  induction cs with
  | nil => exact renderAsking_nil
  | cons c cs ih =>
      rw [ofLetters, List.map_cons, renderAsking_cons, ← ofLetters, ih]
      simp [tokenAsking, Token.chars]

/-- What always gives one text fills the slots with it, whatever else it does. -/
theorem renderAsking_of_const {new : List Char} (h : (fun _ => new) <$> ask = ask) (ts : Template) :
    renderAsking ask ts = (fun _ => ts.fill fun _ => new) <$> renderAsking ask ts := by
  suffices main : ∀ k, renderAsking ask ts = (fun _ => renderFrom id (fun _ => new) k ts) <$> renderAsking ask ts from
    main 0
  induction ts with
  | nil => simp [renderAsking_nil, renderFrom]
  | cons t ts ih =>
      intro k
      cases ht : t.isSlot with
      | true =>
          obtain rfl := Token.eq_slot ht
          have hslot : tokenAsking ask .slot = (fun _ => new) <$> ask := h.symm
          rw [renderAsking_cons, hslot, ih (k + 1), renderFrom_slot]
          simp
      | false =>
          rw [renderAsking_cons, tokenAsking_of_not_isSlot ht, ih k, renderFrom_cons ht]
          simp

end Asking

/-- The texts of a supply, one after the other. -/
def nextOf (supply : Nat → List Char) : StateM Nat (List Char) := fun k => (supply k, k + 1)

/-- Each slot takes one text of the supply, and nothing else does. -/
theorem run_renderAsking_nextOf (supply : Nat → List Char) (k : Nat) (ts : Template) :
    (renderAsking (nextOf supply) ts).run k = (renderFrom id supply k ts, k + slots ts) := by
  induction ts generalizing k with
  | nil =>
      rw [renderAsking_nil]
      rfl
  | cons t ts ih =>
      rw [slots_cons, renderAsking_cons]
      cases ht : t.isSlot with
      | true =>
          obtain rfl := Token.eq_slot ht
          have hrest : (renderAsking (nextOf supply) ts).run (k + 1) =
              (renderFrom id supply (k + 1) ts, k + 1 + slots ts) := ih (k + 1)
          show ((supply k ++ ·) <$> renderAsking (nextOf supply) ts).run (k + 1) = _
          rw [StateT.run_map, hrest, renderFrom_slot, if_pos rfl, Nat.add_assoc, Nat.add_comm 1]
          rfl
      | false =>
          rw [tokenAsking_of_not_isSlot ht, pure_bind, StateT.run_map, ih, renderFrom_cons ht, if_neg Bool.false_ne_true]
          rfl

end Template

namespace Literal

open Template (ofLetters ofParts renderAsking renderFrom nextOf)

/-! ## Searching a statement -/

variable {search : List Char} {supply : Nat → List Char}

/-- The template of a segment in which a text is searched. A literal is not searched. -/
def Segment.templateOf (search : List Char) : Segment → Template
  | .plain text => ofParts (splitOn search text)
  | .quoted text => ofLetters text

/-- The template of a statement in which a text is searched. -/
def templateOf (search cs : List Char) : Template := (segments cs).flatMap (Segment.templateOf search)

/-- What a text that is searched in a segment divides it into, as a template: a plain segment has a slot at each
occurrence, from left to right, and a literal has none. -/
inductive Segment.Shows (search : List Char) : Segment → Template → Prop where
  | quoted (text : List Char) : Shows search (.quoted text) (ofLetters text)
  | plain {text : List Char} {parts : List (List Char)} : Text.Divides search text parts →
      Shows search (.plain text) (ofParts parts)

theorem Segment.shows_templateOf (hsearch : search ≠ []) (s : Segment) : s.Shows search (s.templateOf search) := by
  cases s with
  | quoted text => exact .quoted text
  | plain text => exact .plain (Text.divides_splitOn hsearch text)

theorem slots_templateOf_plain (search text : List Char) :
    Template.slots ((Segment.plain text).templateOf search) = (splitOn search text).length - 1 :=
  Template.slots_ofParts _

/-- **Replacing a text outside literals fills the slots that searching it gives.** -/
theorem replaceFrom_eq_renderFrom (search : List Char) (k : Nat) (segs : List Segment) :
    replaceFrom search supply k segs = renderFrom id supply k (segs.flatMap (Segment.templateOf search)) := by
  induction segs generalizing k with
  | nil => rfl
  | cons segment segs ih =>
      rw [List.flatMap_cons, Template.renderFrom_append]
      cases segment with
      | plain text =>
          simp only [replaceFrom]
          rw [ih, slots_templateOf_plain, Segment.templateOf, Template.renderFrom_ofParts]
      | quoted text =>
          rw [replaceFrom, Segment.templateOf, Template.renderFrom_ofLetters rfl (fun _ _ => rfl),
            Template.slots_ofLetters, ih]
          rfl

theorem replaceEach_eq_fill_templateOf (search : List Char) (supply : Nat → List Char) (cs : List Char) :
    replaceEach search supply cs = (templateOf search cs).fill supply :=
  replaceFrom_eq_renderFrom search 0 (segments cs)

/-- Segments are replaced one after the other, and those behind take the texts that those before them leave. -/
theorem replaceFrom_append (search : List Char) (k : Nat) (segs more : List Segment) :
    replaceFrom search supply k (segs ++ more) = replaceFrom search supply k segs ++
      replaceFrom search supply (k + Template.slots (segs.flatMap (Segment.templateOf search))) more := by
  rw [replaceFrom_eq_renderFrom, replaceFrom_eq_renderFrom, replaceFrom_eq_renderFrom, List.flatMap_append,
    Template.renderFrom_append]

/-- Replacing a text by itself changes nothing. -/
theorem replaceOutside_self (search cs : List Char) : replaceOutside search search cs = cs := by
  have main : ∀ (segs : List Segment) k, replaceFrom search (fun _ => search) k segs = flatten segs := by
    intro segs
    induction segs with
    | nil => exact fun _ => rfl
    | cons segment rest ih =>
        intro k
        rw [flatten, List.flatMap_cons, ← flatten]
        cases segment with
        | quoted text => rw [replaceFrom, ih, Segment.chars]
        | plain text => rw [replaceFrom, ih, weave_const, Text.intercalate_splitOn, Segment.chars]
  rw [replaceOutside_eq_replaceEach, replaceEach, main, flatten_segments]

/-! ## Replacing by what is asked -/

section Asking

variable {M : Type → Type} [Monad M]

/-- The parts put together, with a text that is asked for in front of each but the first. -/
def rebuildAsking (ask : M (List Char)) : List (List Char) → M (List Char)
  | [] => pure []
  | part :: parts => parts.foldlM (fun built next => (fun text => built ++ text ++ next) <$> ask) part

/-- Replaces every occurrence of `search` in plain segments by a text that is asked for. Where there is none, neither the
segments nor their parts are looked at. -/
def replaceAsking (search : List Char) (ask : M (List Char)) (cs : List Char) : M (List Char) :=
  if Text.occursIn search cs then
    List.flatten <$> (segments cs).mapM fun
      | .quoted text => pure text
      | .plain text =>
        if Text.occursIn search text then rebuildAsking ask (splitOn search text) else pure text
  else pure cs

variable [LawfulMonad M] {ask : M (List Char)}

theorem rebuildAsking_eq_renderAsking (parts : List (List Char)) :
    rebuildAsking ask parts = renderAsking ask (ofParts parts) := by
  have hloop : ∀ (parts : List (List Char)) (built : List Char),
      parts.foldlM (fun built next => (fun text => built ++ text ++ next) <$> ask) built =
        (built ++ ·) <$> renderAsking ask (parts.flatMap fun next => .slot :: ofLetters next) := by
    intro parts
    induction parts with
    | nil => simp [Template.renderAsking_nil]
    | cons next parts ih =>
        intro built
        simp only [List.foldlM_cons, bind_map_left, ih, List.flatMap_cons, List.cons_append, Template.renderAsking_cons,
          Template.renderAsking_append, Template.renderAsking_ofLetters, Template.tokenAsking]
        simp
  cases parts with
  | nil => exact Template.renderAsking_nil.symm
  | cons part parts =>
      rw [rebuildAsking, hloop, Template.ofParts_cons, Template.renderAsking_append, Template.renderAsking_ofLetters,
        pure_bind]

theorem templateOf_of_absent (hsearch : search ≠ []) {cs : List Char} (h : ¬search <:+: cs) :
    templateOf search cs = ofLetters cs := by
  have hsegment : ∀ s ∈ segments cs, s.templateOf search = ofLetters s.chars := by
    intro s hs
    cases s with
    | quoted text => rfl
    | plain text =>
        have hinfix : text <:+: cs := by
          have hmem : text ∈ (segments cs).map Segment.chars := List.mem_map.2 ⟨_, hs, rfl⟩
          have hjoined := List.infix_of_mem_flatten hmem
          rwa [← List.flatMap_def, ← flatten, flatten_segments] at hjoined
        rw [Segment.templateOf, Text.splitOn_of_absent hsearch fun hin => h (hin.trans hinfix),
          Template.ofParts_singleton]
        rfl
  have hletters : ∀ segs : List Segment, segs.flatMap (fun s => ofLetters s.chars) = ofLetters (flatten segs) := by
    intro segs
    rw [ofLetters, flatten, List.map_flatMap]
    rfl
  rw [templateOf, List.flatMap_def, List.map_congr_left hsegment, ← List.flatMap_def, hletters, flatten_segments]

/-- **A text is asked for once at each slot, from left to right, and never else.** -/
theorem replaceAsking_eq_renderAsking (hsearch : search ≠ []) (ask : M (List Char)) (cs : List Char) :
    replaceAsking search ask cs = renderAsking ask (templateOf search cs) := by
  have hsegment : ∀ s : Segment, (match s with
      | .quoted text => pure text
      | .plain text =>
        if Text.occursIn search text then rebuildAsking ask (splitOn search text) else pure text) =
      renderAsking ask (s.templateOf search) := by
    intro s
    cases s with
    | quoted text => exact (Template.renderAsking_ofLetters text).symm
    | plain text =>
        simp only [Segment.templateOf]
        split
        · exact rebuildAsking_eq_renderAsking _
        · rename_i hnone
          rw [Text.splitOn_of_absent hsearch (mt Text.occursIn_iff.2 hnone), Template.ofParts_singleton,
            Template.renderAsking_ofLetters]
  have hsegments : ∀ segs : List Segment, List.flatten <$> segs.mapM (fun s => renderAsking ask (s.templateOf search)) =
      renderAsking ask (segs.flatMap (Segment.templateOf search)) := by
    intro segs
    induction segs with
    | nil => simp [Template.renderAsking_nil]
    | cons s segs ih =>
        rw [List.flatMap_cons, Template.renderAsking_append, ← ih]
        simp
  rw [replaceAsking]
  split
  · simp only [hsegment]
    exact hsegments _
  · rename_i hnone
    rw [templateOf_of_absent hsearch (mt Text.occursIn_iff.2 hnone), Template.renderAsking_ofLetters]

end Asking

/-- **It makes no difference whether one text is given or a text is asked for.** Searching a text that is not empty gives a
slot at each of its occurrences, from left to right, in plain segments, and none in literals. What is asked for the texts
is asked once for each slot, in this order, whatever it does; if it always gives one text, the result is the same as if
this text was given. A supply of texts is asked as often as there are slots. Replacing the text by itself changes nothing,
and a literal stands in the result as it stood in the subject, behind what is before it. -/
theorem replacing_forms_agree {search : List Char} (hsearch : search ≠ []) (subject : List Char) :
    (∀ s ∈ segments subject, s.Shows search (s.templateOf search)) ∧
      (∀ (M : Type → Type) [Monad M] [LawfulMonad M] (ask : M (List Char)),
        replaceAsking search ask subject = renderAsking ask (templateOf search subject) ∧
          ∀ new, (fun _ => new) <$> ask = ask →
            replaceAsking search ask subject =
              (fun _ => replaceOutside search new subject) <$> replaceAsking search ask subject) ∧
      (∀ supply, (replaceAsking search (nextOf supply) subject).run 0 =
        (replaceEach search supply subject, (templateOf search subject).slots)) ∧
      (∀ new, replaceEach search (fun _ => new) subject = replaceOutside search new subject) ∧
      replaceOutside search search subject = subject ∧
      ∀ supply before text after, segments subject = before ++ .quoted text :: after →
        replaceEach search supply subject = replaceFrom search supply 0 before ++ text ++
          replaceFrom search supply (Template.slots (before.flatMap (Segment.templateOf search))) after := by
  have hgiven : ∀ new, replaceOutside search new subject = (templateOf search subject).fill fun _ => new := by
    intro new
    rw [replaceOutside_eq_replaceEach, replaceEach_eq_fill_templateOf]
  refine ⟨fun s _ => s.shows_templateOf hsearch, fun M _ _ ask => ⟨replaceAsking_eq_renderAsking hsearch ask subject, ?_⟩,
    fun supply => ?_, fun new => (replaceOutside_eq_replaceEach search new subject).symm,
    replaceOutside_self search subject, fun supply before text after hsegments => ?_⟩
  · intro new hconst
    rw [replaceAsking_eq_renderAsking hsearch, hgiven, ← Template.renderAsking_of_const hconst]
  · rw [replaceAsking_eq_renderAsking hsearch, replaceEach_eq_fill_templateOf, Template.run_renderAsking_nextOf,
      Nat.zero_add, Template.fill]
  · rw [replaceEach, hsegments, replaceFrom_append, replaceFrom, Nat.zero_add, List.append_assoc]

/-- Of occurrences that overlap the first one counts, and those in a literal do not. A text that is counted each time it is
asked for is counted three times. -/
theorem replacing_forms_agree_overlapping :
    let search := "aa".toList
    let subject := "aaa 'aa' aaaa".toList
    let counted : StateM Nat (List Char) := nextOf fun _ => ['b']
    search ≠ [] ∧ (fun _ => ['b']) <$> counted = counted ∧
      segments subject = [.plain "aaa ".toList] ++ .quoted "'aa'".toList :: [.plain " aaaa".toList] ∧
      (replaceAsking search (nextOf Number.digits) subject).run 0 = ("0a 'aa' 12".toList, 3) ∧
      (replaceAsking search counted subject).run 0 = ("ba 'aa' bb".toList, 3) ∧
      replaceOutside search ['b'] subject = "ba 'aa' bb".toList ∧ replaceOutside search search subject = subject ∧
      replaceEach search Number.digits subject = "0a ".toList ++ "'aa'".toList ++ " 12".toList := by
  intro search subject counted
  have hsearch : search ≠ [] := by decide
  have hsegments : segments subject = [.plain "aaa ".toList] ++ .quoted "'aa'".toList :: [.plain " aaaa".toList] := by
    decide +kernel
  have hslots : (templateOf search subject).slots = 3 := by decide +kernel
  have hnumbered : replaceEach search Number.digits subject = "0a 'aa' 12".toList := by decide +kernel
  have hnew : replaceOutside search ['b'] subject = "ba 'aa' bb".toList := by decide +kernel
  obtain ⟨-, hasked, hsupply, -, hself, hliteral⟩ := replacing_forms_agree hsearch subject
  refine ⟨hsearch, rfl, hsegments, ?_, ?_, hnew, hself, ?_⟩
  · rw [hsupply, hnumbered, hslots]
  · rw [(hasked (StateM Nat) counted).2 ['b'] rfl, StateT.run_map, hsupply, hslots, hnew]
    rfl
  · rw [hliteral Number.digits _ _ _ hsegments]
    decide +kernel

end Literal

end FluentSql
