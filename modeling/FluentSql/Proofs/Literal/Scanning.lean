import FluentSql.Proofs.Literal.Inert
import FluentSql.Text.Search
import Mathlib.Data.List.Chain
/-
# FluentSql.Proofs.Literal.Scanning — the literals of a text, by a scan and by a pattern.

A regular expression is matched by trying: of two alternatives the first one before the second, of a repetition more
rounds before fewer. What is tried first and succeeds is the match, so the matches of a text stand in a list, and the
first of them counts (`Pattern.tries`). Splitting a text looks for the leftmost match, and behind it for the next one.
It keeps the matches, so texts between matches and matches alternate (`Pattern.split`).

A scan goes through a text from left to right. At a quote it looks for the first later quote of the kind that no
backslash takes as its pair: up to there the text is a literal, and without one the quote is an ordinary character
(`Scans`). The segments of a text are what its scan finds and nothing else is (`scans_iff`). Splitting the text by the
regular expression of a literal finds the same (`segmentsOfPieces_split`).
-/

namespace FluentSql.Text

/-- A regular expression. -/
inductive Pattern where
  | one (accepts : Char → Bool)
  | seq (first second : Pattern)
  | either (first second : Pattern)
  | many (item : Pattern)

namespace Pattern

/-- The ways to go on behind each match: the text taken in both parts, and what is left. -/
def andThen (found : List (List Char × List Char)) (next : List Char → List (List Char × List Char)) :
    List (List Char × List Char) :=
  found.flatMap fun r => (next r.2).map fun s => (r.1 ++ s.1, s.2)

/-- At most so many rounds of the same, more before fewer. A round that takes nothing is no round. -/
def rounds (item : List Char → List (List Char × List Char)) :
    Nat → List Char → List (List Char × List Char)
  | 0, cs => [([], cs)]
  | n + 1, cs => andThen ((item cs).filter fun r => !r.1.isEmpty) (rounds item n) ++ [([], cs)]

/-- The matches at the start of a text in the order in which they are tried: the text taken, and what is left. -/
def tries : Pattern → List Char → List (List Char × List Char)
  | .one _, [] => []
  | .one accepts, c :: cs => if accepts c then [([c], cs)] else []
  | .seq first second, cs => andThen (first.tries cs) second.tries
  | .either first second, cs => first.tries cs ++ second.tries cs
  -- No text has more rounds in it than characters.
  | .many item, cs => rounds item.tries cs.length cs

/-- The leftmost match: what stands before it, the text taken, and what is left. -/
def find? (p : Pattern) : List Char → Option (List Char × List Char × List Char)
  | [] => (p.tries []).head?.map fun r => ([], r.1, r.2)
  | c :: cs =>
    match (p.tries (c :: cs)).head? with
    | some r => some ([], r.1, r.2)
    | none => (find? p cs).map fun r => (c :: r.1, r.2.1, r.2.2)

/-- The texts around the matches and, between them, the matches. -/
def split (p : Pattern) (cs : List Char) : List (List Char) :=
  match p.find? cs with
  | none => [cs]
  | some (before, found, after) =>
    -- A match that takes nothing divides nothing.
    if after.length < cs.length then before :: found :: split p after else [cs]
termination_by cs.length

theorem andThen_singleton (taken rest : List Char) (next : List Char → List (List Char × List Char)) :
    andThen [(taken, rest)] next = (next rest).map fun s => (taken ++ s.1, s.2) := List.flatMap_singleton ..

theorem andThen_append (found found' : List (List Char × List Char))
    (next : List Char → List (List Char × List Char)) :
    andThen (found ++ found') next = andThen found next ++ andThen found' next := List.flatMap_append

theorem andThen_map (taken : List Char) (found : List (List Char × List Char))
    (next : List Char → List (List Char × List Char)) :
    andThen (found.map fun r => (taken ++ r.1, r.2)) next =
      (andThen found next).map fun r => (taken ++ r.1, r.2) := by
  simp only [andThen, List.flatMap_map, List.map_flatMap, List.map_map, Function.comp_def, List.append_assoc]

/-- Where a round takes nothing or fails, there are no rounds. -/
theorem rounds_of_nil {item : List Char → List (List Char × List Char)} {cs : List Char} (h : item cs = [])
    (n : Nat) : rounds item n cs = [([], cs)] := by
  cases n with
  | zero => rfl
  | succ n => rw [rounds, h]; rfl

/-- Where there is one way for a round, it is taken before stopping. -/
theorem rounds_of_singleton {item : List Char → List (List Char × List Char)} {cs taken rest : List Char}
    (h : item cs = [(taken, rest)]) (hne : taken ≠ []) (n : Nat) :
    rounds item (n + 1) cs = (rounds item n rest).map (fun r => (taken ++ r.1, r.2)) ++ [([], cs)] := by
  have hkeep : (item cs).filter (fun r => !r.1.isEmpty) = [(taken, rest)] := by simp [h, hne]
  rw [rounds, hkeep, andThen_singleton]

end Pattern

end FluentSql.Text

namespace FluentSql.Literal

open Text (Pattern)

/-! ## Where a literal ends -/

/-- A text made of characters other than backslashes, and of backslashes with the character behind each. -/
inductive Paired : List Char → Prop where
  | nil : Paired []
  | char {c : Char} {cs : List Char} : c ≠ '\x5c' → Paired cs → Paired (c :: cs)
  | pair {d : Char} {cs : List Char} : Paired cs → Paired ('\x5c' :: d :: cs)

/-- Behind `inner` stands a quote that no backslash takes as its pair. -/
structure Occurs (quote : Char) (cs inner after : List Char) : Prop where
  split : cs = inner ++ quote :: after
  paired : Paired inner

/-- It is the first such quote. -/
structure Ends (quote : Char) (cs inner after : List Char) : Prop extends Occurs quote cs inner after where
  first : ∀ inner' after', Occurs quote cs inner' after' → inner.length ≤ inner'.length

theorem not_occurs_nil {quote : Char} {inner after : List Char} : ¬Occurs quote [] inner after := fun h => by
  simpa using h.split

theorem occurs_cons {quote c : Char} {cs inner after : List Char} (hc : c ≠ '\x5c') (h : Occurs quote cs inner after) :
    Occurs quote (c :: cs) (c :: inner) after :=
  ⟨by rw [h.split, List.cons_append], .char hc h.paired⟩

theorem occurs_pair {quote d : Char} {cs inner after : List Char} (h : Occurs quote cs inner after) :
    Occurs quote ('\x5c' :: d :: cs) ('\x5c' :: d :: inner) after :=
  ⟨by rw [h.split]; rfl, .pair h.paired⟩

/-- An occurrence behind a character that is no such quote is one behind it in what follows. -/
theorem Occurs.of_cons {quote c : Char} {cs inner after : List Char} (hq : c ≠ quote) (hb : c ≠ '\x5c')
    (h : Occurs quote (c :: cs) inner after) : ∃ inner', inner = c :: inner' ∧ Occurs quote cs inner' after := by
  obtain ⟨hsplit, hpaired⟩ := h
  cases hpaired with
  | nil => exact absurd (List.cons.inj hsplit).1 hq
  | @char _ inner' _ hpaired =>
      obtain ⟨rfl, hrest⟩ := List.cons.inj hsplit
      exact ⟨inner', rfl, hrest, hpaired⟩
  | pair => exact absurd (List.cons.inj hsplit).1 hb

/-- A backslash takes the next character with it. -/
theorem Occurs.of_pair {quote d : Char} {cs inner after : List Char} (hb : '\x5c' ≠ quote)
    (h : Occurs quote ('\x5c' :: d :: cs) inner after) :
    ∃ inner', inner = '\x5c' :: d :: inner' ∧ Occurs quote cs inner' after := by
  obtain ⟨hsplit, hpaired⟩ := h
  cases hpaired with
  | nil => exact absurd (List.cons.inj hsplit).1 hb
  | char hc _ => exact absurd (List.cons.inj hsplit).1.symm hc
  | @pair _ inner' hpaired =>
      obtain ⟨rfl, hrest⟩ := List.cons.inj (List.cons.inj hsplit).2
      exact ⟨inner', rfl, hrest, hpaired⟩

/-- A backslash at the end takes nothing with it, and no quote follows. -/
theorem not_occurs_backslash {quote : Char} {inner after : List Char} (hb : '\x5c' ≠ quote) :
    ¬Occurs quote ['\x5c'] inner after := by
  rintro ⟨hsplit, hpaired⟩
  cases hpaired with
  | nil => exact hb (List.cons.inj hsplit).1
  | char hc _ => exact hc (List.cons.inj hsplit).1.symm
  | pair => cases (List.cons.inj hsplit).2

/-- Where a literal has an end, it is the first one. -/
theorem ends_of_closing? {quote : Char} (hb : '\x5c' ≠ quote) {cs body after : List Char}
    (h : closing? quote cs = some (body, after)) : ∃ inner, body = inner ++ [quote] ∧ Ends quote cs inner after := by
  fun_induction closing? quote cs generalizing body after with
  | case1 => cases h
  | case2 rest =>
      cases h
      exact ⟨[], rfl, ⟨rfl, .nil⟩, fun _ _ _ => Nat.zero_le _⟩
  | case3 => cases h
  | case4 d rest _ ih =>
      obtain ⟨r, hr, heq⟩ := Option.map_eq_some_iff.1 h
      cases heq
      obtain ⟨inner, hbody, hends⟩ := ih hr
      refine ⟨'\x5c' :: d :: inner, by rw [hbody]; rfl, occurs_pair hends.toOccurs, fun inner' after' h' => ?_⟩
      obtain ⟨rest', rfl, hrest⟩ := h'.of_pair hb
      have hle := hends.first _ _ hrest
      simp only [List.length_cons]
      omega
  | case5 c rest hq hc ih =>
      obtain ⟨r, hr, heq⟩ := Option.map_eq_some_iff.1 h
      cases heq
      obtain ⟨inner, hbody, hends⟩ := ih hr
      refine ⟨c :: inner, by rw [hbody]; rfl, occurs_cons hc hends.toOccurs, fun inner' after' h' => ?_⟩
      obtain ⟨rest', rfl, hrest⟩ := h'.of_cons hq hc
      have hle := hends.first _ _ hrest
      simp only [List.length_cons]
      omega

/-- Where it has none, there is no quote that could end it. -/
theorem not_occurs_of_closing? {quote : Char} (hb : '\x5c' ≠ quote) {cs : List Char} (h : closing? quote cs = none)
    (inner after : List Char) : ¬Occurs quote cs inner after := by
  fun_induction closing? quote cs generalizing inner after with
  | case1 => exact not_occurs_nil
  | case2 => cases h
  | case3 => exact not_occurs_backslash hb
  | case4 d rest _ ih =>
      intro hoccurs
      obtain ⟨rest', -, hrest⟩ := hoccurs.of_pair hb
      exact ih (Option.map_eq_none_iff.1 h) _ _ hrest
  | case5 c rest hq hc ih =>
      intro hoccurs
      obtain ⟨rest', -, hrest⟩ := hoccurs.of_cons hq hc
      exact ih (Option.map_eq_none_iff.1 h) _ _ hrest

theorem Ends.unique {quote : Char} {cs inner inner' after after' : List Char} (h : Ends quote cs inner after)
    (h' : Ends quote cs inner' after') : inner = inner' ∧ after = after' := by
  have hlength : inner.length = inner'.length :=
    Nat.le_antisymm (h.first _ _ h'.toOccurs) (h'.first _ _ h.toOccurs)
  obtain ⟨hinner, hrest⟩ := List.append_inj (h.split.symm.trans h'.split) hlength
  exact ⟨hinner, (List.cons.inj hrest).2⟩

theorem closing?_of_ends {quote : Char} (hb : '\x5c' ≠ quote) {cs inner after : List Char}
    (h : Ends quote cs inner after) : closing? quote cs = some (inner ++ [quote], after) := by
  cases hclosing : closing? quote cs with
  | none => exact absurd h.toOccurs (not_occurs_of_closing? hb hclosing inner after)
  | some r =>
      obtain ⟨inner', hbody, hends⟩ := ends_of_closing? hb hclosing
      obtain ⟨rfl, hafter⟩ := h.unique hends
      rw [hafter, ← hbody]

theorem closing?_of_not_occurs {quote : Char} (hb : '\x5c' ≠ quote) {cs : List Char}
    (h : ∀ inner after, ¬Occurs quote cs inner after) : closing? quote cs = none := by
  cases hclosing : closing? quote cs with
  | none => rfl
  | some r =>
      obtain ⟨inner, -, hends⟩ := ends_of_closing? hb hclosing
      exact absurd hends.toOccurs (h inner r.2)

theorem backslash_ne {quote : Char} (h : isQuote quote = true) : '\x5c' ≠ quote := by
  rintro rfl
  cases h

/-! ## The scan -/

/-- What a scan of a text finds. -/
inductive Scans : List Char → List Segment → Prop where
  | done : Scans [] []
  | literal {quote : Char} {cs inner after : List Char} {segs : List Segment} : isQuote quote = true →
      Ends quote cs inner after → Scans after segs →
      Scans (quote :: cs) (.quoted (quote :: (inner ++ [quote])) :: segs)
  | unended {quote : Char} {cs : List Char} {segs : List Segment} : isQuote quote = true →
      (∀ inner after, ¬Occurs quote cs inner after) → Scans cs segs → Scans (quote :: cs) (consPlain quote segs)
  | ordinary {c : Char} {cs : List Char} {segs : List Segment} : isQuote c = false →
      Scans cs segs → Scans (c :: cs) (consPlain c segs)

theorem scans_segments (cs : List Char) : Scans cs (segments cs) := by
  fun_induction segments cs with
  | case1 => exact .done
  | case2 c cs hc body after found ih =>
      obtain ⟨inner, rfl, hends⟩ := ends_of_closing? (backslash_ne hc) found
      exact .literal hc hends ih
  | case3 c cs hc found ih => exact .unended hc (not_occurs_of_closing? (backslash_ne hc) found) ih
  | case4 c cs hc ih => exact .ordinary (by simpa using hc) ih

theorem Scans.eq_segments {cs : List Char} {segs : List Segment} (h : Scans cs segs) : segs = segments cs := by
  induction h with
  | done => rw [segments]
  | literal hquote hends _ ih =>
      rw [segments_of_closing hquote (closing?_of_ends (backslash_ne hquote) hends), ih]
  | unended hquote hnone _ ih =>
      rw [segments_of_closing_none hquote (closing?_of_not_occurs (backslash_ne hquote) hnone), ih]
  | ordinary hc _ ih => rw [segments_cons hc, ih]

/-- **The scan of every text ends, and with nothing but its segments.** -/
theorem scans_iff {cs : List Char} {segs : List Segment} : Scans cs segs ↔ segs = segments cs :=
  ⟨Scans.eq_segments, fun h => h ▸ scans_segments cs⟩

/-! ## The segments of a text -/

theorem mem_consPlain {c : Char} {segs : List Segment} {s : Segment} (h : s ∈ consPlain c segs) :
    (∃ text, s = .plain (c :: text) ∧ text <+: flatten segs ∧ (text = [] ∨ .plain text ∈ segs)) ∨ s ∈ segs := by
  match segs with
  | .plain text :: rest =>
      rcases List.mem_cons.1 h with rfl | h
      · exact .inl ⟨text, rfl, List.prefix_append .., .inr (List.mem_cons_self ..)⟩
      · exact .inr (List.mem_cons_of_mem _ h)
  | [] => exact .inl ⟨[], List.mem_singleton.1 h, List.nil_prefix, .inl rfl⟩
  | .quoted text :: rest =>
      rcases List.mem_cons.1 h with rfl | h
      · exact .inl ⟨[], rfl, List.nil_prefix, .inl rfl⟩
      · exact .inr h

/-- No segment is empty. -/
theorem chars_ne_nil {cs : List Char} {s : Segment} (h : s ∈ segments cs) : s.chars ≠ [] := by
  fun_induction segments cs with
  | case1 => cases h
  | case2 c cs _ body after _ ih =>
      rcases List.mem_cons.1 h with rfl | h
      · exact List.cons_ne_nil c body
      · exact ih h
  | case3 c cs _ _ ih | case4 c cs _ ih =>
      rcases mem_consPlain h with ⟨text, rfl, -⟩ | h
      · exact List.cons_ne_nil c text
      · exact ih h

/-- A literal stands in the text. -/
def HasLiteral (text : List Char) : Prop :=
  ∃ quote inner, isQuote quote = true ∧ Paired inner ∧ quote :: (inner ++ [quote]) <:+: text

/-- A literal in a text stands at its start or behind its first character. -/
theorem HasLiteral.of_cons {c : Char} {text : List Char} (h : HasLiteral (c :: text)) :
    (isQuote c = true ∧ ∃ inner, Paired inner ∧ inner ++ [c] <+: text) ∨ HasLiteral text := by
  obtain ⟨quote, inner, hquote, hpaired, hinfix⟩ := h
  rcases List.infix_cons_iff.1 hinfix with hprefix | hinfix
  · obtain ⟨rfl, hrest⟩ := List.cons_prefix_cons.1 hprefix
    exact .inl ⟨hquote, inner, hpaired, hrest⟩
  · exact .inr ⟨quote, inner, hquote, hpaired, hinfix⟩

theorem not_hasLiteral_nil : ¬HasLiteral [] := by
  rintro ⟨quote, inner, -, -, hinfix⟩
  cases List.infix_nil.1 hinfix

/-- A quote that has no end does not start a literal in what the text begins with. -/
theorem not_prefix_of_closing? {quote : Char} (hquote : isQuote quote = true) {cs text inner : List Char}
    (h : closing? quote cs = none) (htext : text <+: cs) (hpaired : Paired inner) : ¬inner ++ [quote] <+: text := by
  intro hprefix
  obtain ⟨after, rfl⟩ := hprefix.trans htext
  exact not_occurs_of_closing? (backslash_ne hquote) h inner after
    ⟨by rw [List.append_assoc, List.singleton_append], hpaired⟩

/-- No literal stands in a plain segment. -/
theorem not_hasLiteral_of_mem {cs text : List Char} (h : .plain text ∈ segments cs) : ¬HasLiteral text := by
  -- A character joins the plain segment behind it, if there is one, and starts no literal.
  have hcons : ∀ {c : Char} {cs : List Char}, (isQuote c = true → closing? c cs = none) →
      (∀ text, .plain text ∈ segments cs → ¬HasLiteral text) →
      ∀ text, .plain text ∈ consPlain c (segments cs) → ¬HasLiteral text := by
    intro c cs hnone ih text h hliteral
    rcases mem_consPlain h with ⟨text', heq, hprefix, hrest⟩ | h
    · cases heq
      rw [flatten_segments] at hprefix
      rcases hliteral.of_cons with ⟨hquote, inner, hpaired, hinner⟩ | hliteral
      · exact not_prefix_of_closing? hquote (hnone hquote) hprefix hpaired hinner
      · rcases hrest with rfl | hmem
        · exact not_hasLiteral_nil hliteral
        · exact ih text' hmem hliteral
    · exact ih text h hliteral
  fun_induction segments cs generalizing text with
  | case1 => cases h
  | case2 c cs _ body after _ ih =>
      rcases List.mem_cons.1 h with heq | h
      · cases heq
      · exact ih h
  | case3 c cs _ found ih => exact hcons (fun _ => found) (fun _ => ih) text h
  | case4 c cs hc ih => exact hcons (fun hquote => absurd hquote hc) (fun _ => ih) text h

/-- Of two segments next to each other one is a literal. -/
theorem isChain_segments (cs : List Char) : (segments cs).IsChain fun s t => s.isQuoted || t.isQuoted := by
  have hcons : ∀ (c : Char) {segs : List Segment}, segs.IsChain (fun s t => s.isQuoted || t.isQuoted) →
      (consPlain c segs).IsChain fun s t => s.isQuoted || t.isQuoted := by
    intro c segs h
    match segs, h with
    | [], _ => exact .singleton _
    | .quoted text :: rest, h => exact .cons_cons rfl h
    | [.plain text], _ => exact .singleton _
    | .plain text :: t :: rest, h =>
        obtain ⟨hfirst, hrest⟩ := List.isChain_cons_cons.1 h
        exact .cons_cons hfirst hrest
  fun_induction segments cs with
  | case1 => exact .nil
  | case2 c cs _ body after _ ih => exact List.isChain_cons.2 ⟨fun _ _ => rfl, ih⟩
  | case3 c cs _ _ ih | case4 c cs _ ih => exact hcons c ih

/-! ## The pattern of a literal -/

/-- What a literal goes through: a character that is neither its quote nor a backslash, or a backslash and any character. -/
def itemPattern (quote : Char) : Pattern :=
  .either (.one fun c => c != quote && c != '\x5c') (.seq (.one (· == '\x5c')) (.one fun _ => true))

/-- The rest of a literal behind its quote. -/
def closingPattern (quote : Char) : Pattern := .seq (.many (itemPattern quote)) (.one (· == quote))

/-- A literal. -/
def literalPattern : Pattern :=
  .either (.seq (.one (· == '\x27')) (closingPattern '\x27')) (.seq (.one (· == '\x22')) (closingPattern '\x22'))

/-- The segment of a piece of a split text: matches stand at odd places, and empty texts between them are left out. -/
def segmentOfPiece? (piece : List Char × Nat) : Option Segment :=
  if piece.1.isEmpty then none
  else if piece.2 % 2 = 1 then some (.quoted piece.1) else some (.plain piece.1)

/-- The segments that splitting gives. -/
def segmentsOfPieces (pieces : List (List Char)) : List Segment := pieces.zipIdx.filterMap segmentOfPiece?

theorem tries_itemPattern_nil (quote : Char) : (itemPattern quote).tries [] = [] := rfl

theorem tries_itemPattern_quote {quote : Char} (hb : '\x5c' ≠ quote) (cs : List Char) :
    (itemPattern quote).tries (quote :: cs) = [] := by
  simp [itemPattern, Pattern.tries, Pattern.andThen, hb.symm]

theorem tries_itemPattern_backslash (quote : Char) : (itemPattern quote).tries ['\x5c'] = [] := by
  simp [itemPattern, Pattern.tries, Pattern.andThen]

theorem tries_itemPattern_pair (quote d : Char) (cs : List Char) :
    (itemPattern quote).tries ('\x5c' :: d :: cs) = [(['\x5c', d], cs)] := by
  simp [itemPattern, Pattern.tries, Pattern.andThen]

theorem tries_itemPattern_other {quote c : Char} (hq : c ≠ quote) (hb : c ≠ '\x5c') (cs : List Char) :
    (itemPattern quote).tries (c :: cs) = [([c], cs)] := by
  simp [itemPattern, Pattern.tries, Pattern.andThen, hq, hb]

/-- A literal is closed in at most one way: where the rounds stop early no quote follows, and none goes past its quote. -/
theorem tries_closingPattern {quote : Char} (hb : '\x5c' ≠ quote) (cs : List Char) :
    (closingPattern quote).tries cs = (closing? quote cs).toList := by
  have hother : ∀ {c : Char} (cs : List Char), c ≠ quote → (Pattern.one (· == quote)).tries (c :: cs) = [] := by
    intro c cs hc
    simp [Pattern.tries, hc]
  suffices main : ∀ n, cs.length ≤ n →
      Pattern.andThen (Pattern.rounds (itemPattern quote).tries n cs) (Pattern.one (· == quote)).tries =
        (closing? quote cs).toList from main cs.length (Nat.le_refl _)
  fun_induction closing? quote cs with
  | case1 =>
      intro n _
      rw [Pattern.rounds_of_nil (tries_itemPattern_nil quote), Pattern.andThen_singleton]
      rfl
  | case2 rest =>
      intro n _
      rw [Pattern.rounds_of_nil (tries_itemPattern_quote hb rest), Pattern.andThen_singleton]
      simp [Pattern.tries]
  | case3 =>
      intro n _
      rw [Pattern.rounds_of_nil (tries_itemPattern_backslash quote), Pattern.andThen_singleton, hother [] hb]
      rfl
  | case4 d rest _ ih =>
      intro n hn
      obtain ⟨m, rfl⟩ := Nat.exists_eq_succ_of_ne_zero (Nat.ne_of_gt (Nat.lt_of_lt_of_le (Nat.succ_pos _) hn))
      have hm : rest.length ≤ m := by
        simp only [List.length_cons] at hn
        omega
      rw [Pattern.rounds_of_singleton (tries_itemPattern_pair quote d rest) (List.cons_ne_nil _ _),
        Pattern.andThen_append, Pattern.andThen_map, ih m hm, Pattern.andThen_singleton, hother _ hb, Option.toList_map]
      exact List.append_nil _
  | case5 c rest hq hc ih =>
      intro n hn
      obtain ⟨m, rfl⟩ := Nat.exists_eq_succ_of_ne_zero (Nat.ne_of_gt (Nat.lt_of_lt_of_le (Nat.succ_pos _) hn))
      have hm : rest.length ≤ m := Nat.le_of_succ_le_succ hn
      rw [Pattern.rounds_of_singleton (tries_itemPattern_other hq hc rest) (List.cons_ne_nil _ _),
        Pattern.andThen_append, Pattern.andThen_map, ih m hm, Pattern.andThen_singleton, hother _ hq, Option.toList_map]
      exact List.append_nil _

/-- What the pattern takes at the start of a text is a literal there. -/
theorem tries_literalPattern (c : Char) (cs : List Char) : literalPattern.tries (c :: cs) =
    if isQuote c then (closing? c cs).toList.map fun r => (c :: r.1, r.2) else [] := by
  have hquoted : ∀ quote : Char, '\x5c' ≠ quote →
      (Pattern.seq (.one (· == quote)) (closingPattern quote)).tries (c :: cs) =
        if c = quote then (closing? c cs).toList.map (fun r => (c :: r.1, r.2)) else [] := by
    intro quote hb
    by_cases hc : c = quote
    · subst hc
      rw [if_pos rfl, ← tries_closingPattern hb]
      simp [Pattern.tries, Pattern.andThen]
    · rw [if_neg hc]
      simp [Pattern.tries, Pattern.andThen, hc]
  rw [literalPattern, Pattern.tries, hquoted _ (by decide), hquoted _ (by decide)]
  by_cases hsingle : c = '\x27'
  · subst hsingle
    exact List.append_nil _
  · simp [isQuote, hsingle]

/-- The plain segment of a text, if there is anything in it. -/
def plainOf (text : List Char) : List Segment := if text.isEmpty then [] else [.plain text]

theorem consPlain_plainOf (c : Char) (text : List Char) : consPlain c (plainOf text) = plainOf (c :: text) := by
  cases text <;> rfl

theorem consPlain_plainOf_append (c : Char) (text found : List Char) (segs : List Segment) :
    consPlain c (plainOf text ++ .quoted found :: segs) = plainOf (c :: text) ++ .quoted found :: segs := by
  cases text <;> rfl

theorem find?_of_closing {c : Char} (hc : isQuote c = true) {cs body after : List Char}
    (found : closing? c cs = some (body, after)) :
    literalPattern.find? (c :: cs) = some ([], c :: body, after) := by
  rw [Pattern.find?, tries_literalPattern, if_pos hc, found]
  rfl

theorem find?_of_not_closing {c : Char} {cs : List Char} (h : isQuote c = true → closing? c cs = none) :
    literalPattern.find? (c :: cs) = (literalPattern.find? cs).map fun r => (c :: r.1, r.2.1, r.2.2) := by
  have hnone : literalPattern.tries (c :: cs) = [] := by
    rw [tries_literalPattern]
    by_cases hc : isQuote c = true
    · rw [if_pos hc, h hc]
      rfl
    · rw [if_neg hc]
  rw [Pattern.find?, hnone]
  rfl

/-- What the pattern finds first divides the segments: before it nothing is a literal, and behind it the next one is
looked for. -/
theorem segments_eq_find? (cs : List Char) : segments cs =
    match literalPattern.find? cs with
    | none => plainOf cs
    | some (before, found, after) => plainOf before ++ .quoted found :: segments after := by
  have hcons : ∀ {c : Char} {cs : List Char}, (isQuote c = true → closing? c cs = none) →
      (segments cs = match literalPattern.find? cs with
        | none => plainOf cs
        | some (before, found, after) => plainOf before ++ .quoted found :: segments after) →
      consPlain c (segments cs) = match literalPattern.find? (c :: cs) with
        | none => plainOf (c :: cs)
        | some (before, found, after) => plainOf before ++ .quoted found :: segments after := by
    intro c cs h ih
    rw [ih, find?_of_not_closing h]
    cases literalPattern.find? cs with
    | none => exact consPlain_plainOf c cs
    | some r => exact consPlain_plainOf_append c r.1 r.2.1 (segments r.2.2)
  fun_induction segments cs with
  | case1 => rfl
  | case2 c cs hc body after found ih =>
      rw [find?_of_closing hc found]
      rfl
  | case3 c cs hc found ih => exact hcons (fun _ => found) ih
  | case4 c cs hc ih => exact hcons (fun hquote => absurd hquote hc) ih

/-- A match takes something, so less is left of the text. -/
theorem length_of_find? {cs before found after : List Char}
    (h : literalPattern.find? cs = some (before, found, after)) : found ≠ [] ∧ after.length < cs.length := by
  have hsegments : segments cs = plainOf before ++ .quoted found :: segments after := by rw [segments_eq_find?, h]
  have hfound : found ≠ [] := by
    have hmem : .quoted found ∈ segments cs := by
      rw [hsegments]
      exact List.mem_append_right _ (List.mem_cons_self ..)
    exact chars_ne_nil hmem
  have hjoined : cs = flatten (plainOf before) ++ (found ++ after) := by
    rw [← flatten_segments cs, hsegments, flatten, List.flatMap_append, List.flatMap_cons, ← flatten, ← flatten,
      flatten_segments, Segment.chars]
  have hpos := List.length_pos_of_ne_nil hfound
  refine ⟨hfound, ?_⟩
  rw [hjoined, List.length_append, List.length_append]
  omega

theorem segmentsOfPieces_singleton (text : List Char) : segmentsOfPieces [text] = plainOf text := by
  cases text <;> rfl

theorem segmentsOfPieces_cons_cons {found : List Char} (hfound : found ≠ []) (before : List Char)
    (pieces : List (List Char)) :
    segmentsOfPieces (before :: found :: pieces) = plainOf before ++ .quoted found :: segmentsOfPieces pieces := by
  -- Two places further on, the odd places are the same.
  have hshift : ∀ k, (pieces.zipIdx (k + 2)).filterMap segmentOfPiece? = (pieces.zipIdx k).filterMap segmentOfPiece? := by
    induction pieces with
    | nil => exact fun _ => rfl
    | cons piece pieces ih =>
        intro k
        have hpiece : segmentOfPiece? (piece, k + 2) = segmentOfPiece? (piece, k) := by
          simp only [segmentOfPiece?, Nat.add_mod_right]
        rw [List.zipIdx_cons, List.zipIdx_cons, List.filterMap_cons, List.filterMap_cons, hpiece, Nat.add_right_comm, ih]
  obtain ⟨c, cs, rfl⟩ := List.exists_cons_of_ne_nil hfound
  rw [segmentsOfPieces, List.zipIdx_cons, List.zipIdx_cons, List.filterMap_cons, List.filterMap_cons, hshift 0]
  cases before <;> rfl

/-- **Splitting by the pattern of a literal gives the segments.** -/
theorem segmentsOfPieces_split (cs : List Char) : segmentsOfPieces (literalPattern.split cs) = segments cs := by
  fun_induction Pattern.split literalPattern cs with
  | case1 cs hnone => rw [segmentsOfPieces_singleton, segments_eq_find?, hnone]
  | case2 cs before found after hfound _ ih =>
      rw [segmentsOfPieces_cons_cons (length_of_find? hfound).1, ih, segments_eq_find? cs, hfound]
  | case3 cs before found after hfound hlength => exact absurd (length_of_find? hfound).2 hlength

/-- **The segments of a text are the literals that a scan of it finds, and what stands between them.** No segment is
empty, and joined they are the text. Its scan finds them and nothing else, and so does splitting it by the pattern of a
literal. No literal is left in a plain segment, and no two plain segments stand next to each other. -/
theorem segments_exact (cs : List Char) :
    (∀ s ∈ segments cs, s.chars ≠ []) ∧ flatten (segments cs) = cs ∧
      (∀ segs, Scans cs segs ↔ segs = segments cs) ∧
      segmentsOfPieces (literalPattern.split cs) = segments cs ∧
      (∀ text, .plain text ∈ segments cs → ¬HasLiteral text) ∧
      (segments cs).IsChain fun s t => s.isQuoted || t.isQuoted :=
  ⟨fun _ => chars_ne_nil, flatten_segments cs, fun _ => scans_iff, segmentsOfPieces_split cs,
    fun _ => not_hasLiteral_of_mem, isChain_segments cs⟩

end FluentSql.Literal
