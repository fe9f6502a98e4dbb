import FluentSql.Proofs.Query.Clause
import FluentSql.Proofs.Query.Template
import FluentSql.Proofs.Text.Joining
/-
# FluentSql.Proofs.Query.Spelling — statements of queries that are spelled piece by piece.

A query is spelled with a vocabulary if all its pieces are, its joins and conditions with one slot for each
of their values. Then so are its statements. Trimming a clause and leaving out what is blank loses no slot,
because neither slots nor quoted names are blank at their ends.
-/

namespace FluentSql

open Text (IsSolid isBlank trimChars dropEndWhile joinNonBlank)

/-! ## Quoted names are solid -/

theorem Identifier.isSolid_quoteChars {mark : List Char} (hmark : IsSolid mark) (name : List Char) :
    IsSolid (quoteChars mark name) := by
  refine Text.isSolid_intercalate _ (by simp [Text.splitOn_ne_nil]) fun piece hpiece => ?_
  obtain ⟨part, -, rfl⟩ := List.mem_map.1 hpiece
  unfold quotePart
  split
  · rename_i hstar
    rw [hstar]
    exact .of_ends rfl rfl
  · exact hmark.append hmark _

/-! ## Trimming -/

namespace Vocabulary

variable {voc : Vocabulary} {cs : List Char} {n : Nat}

/-- The identifier marks neither start nor end with a blank. -/
def HasSolidMarks (voc : Vocabulary) : Prop := ∀ mark, voc.marks mark → IsSolid mark.toList

theorem isSolid_chars (hvoc : voc.HasSolidMarks) {t : Token} (ht : t.In voc)
    (hletter : ∀ c, t ≠ .letter c) : IsSolid t.chars := by
  cases t with
  | letter c => exact absurd rfl (hletter c)
  | name mark text => exact Identifier.isSolid_quoteChars (hvoc mark ht.1) _
  | slot => exact .of_ends rfl rfl

theorem chars_ne_nil (hvoc : voc.HasSolidMarks) {t : Token} (ht : t.In voc) : t.chars ≠ [] := by
  cases t with
  | letter c => exact List.cons_ne_nil _ _
  | name mark text => exact (isSolid_chars hvoc ht (by simp)).ne_nil
  | slot => exact List.cons_ne_nil _ _

/-- There is no slot in an empty text. -/
theorem Spells.eq_zero (hvoc : voc.HasSolidMarks) (h : voc.Spells [] n) : n = 0 := by
  obtain ⟨ts, htext, rfl, hts⟩ := h
  cases ts with
  | nil => rfl
  | cons t ts =>
      rw [Template.text, List.flatMap_cons] at htext
      exact absurd (List.append_eq_nil_iff.1 htext).1 (chars_ne_nil hvoc (hts t List.mem_cons_self))

theorem Spells.dropWhile (hvoc : voc.HasSolidMarks) (h : voc.Spells cs n) :
    voc.Spells (cs.dropWhile isBlank) n := by
  obtain ⟨ts, rfl, rfl, hts⟩ := h
  induction ts with
  | nil => exact spells_nil
  | cons t ts ih =>
      have hrest := ih fun u hu => hts u (List.mem_cons_of_mem _ hu)
      have hall : voc.Spells (Template.text (t :: ts)) (Template.slots (t :: ts)) := ⟨_, rfl, rfl, hts⟩
      -- Only a letter can be blank at the start; names and slots are solid and stop the trimming.
      by_cases hletter : ∃ c, t = .letter c
      · obtain ⟨c, rfl⟩ := hletter
        by_cases hblank : isBlank c = true
        · have hdrop : (Template.text (.letter c :: ts)).dropWhile isBlank =
              (Template.text ts).dropWhile isBlank := List.dropWhile_cons_of_pos hblank
          rwa [hdrop]
        · have hdrop : (Template.text (.letter c :: ts)).dropWhile isBlank =
              Template.text (.letter c :: ts) := List.dropWhile_cons_of_neg hblank
          rwa [hdrop]
      · have hsolid := isSolid_chars hvoc (hts t List.mem_cons_self) fun c hc => hletter ⟨c, hc⟩
        have hdrop : (Template.text (t :: ts)).dropWhile isBlank = Template.text (t :: ts) :=
          hsolid.dropWhile_append _
        rwa [hdrop]

theorem Spells.dropEndWhile (hvoc : voc.HasSolidMarks) (h : voc.Spells cs n) :
    voc.Spells (dropEndWhile isBlank cs) n := by
  obtain ⟨ts, rfl, rfl, hts⟩ := h
  induction ts with
  | nil => exact spells_nil
  | cons t ts ih =>
      have hrest := ih fun u hu => hts u (List.mem_cons_of_mem _ hu)
      have hin := hts t List.mem_cons_self
      have hfirst := spells_token hin
      have hslots : Template.slots (t :: ts) = (if t.isSlot then 1 else 0) + Template.slots ts := by
        rw [Template.slots, List.countP_cons, Nat.add_comm]
        rfl
      rw [Template.text, List.flatMap_cons, Text.dropEndWhile_append, hslots]
      split
      · -- Nothing is left behind the token, so there was no slot behind it.
        rename_i hnil
        rw [Template.text, hnil] at hrest
        rw [hrest.eq_zero hvoc, Nat.add_zero]
        by_cases hletter : ∃ c, t = .letter c
        · obtain ⟨c, rfl⟩ := hletter
          by_cases hblank : isBlank c = true
          · have hdrop : Text.dropEndWhile isBlank [c] = [] := by simp [Text.dropEndWhile, hblank]
            show voc.Spells (Text.dropEndWhile isBlank [c]) 0
            rw [hdrop]
            exact spells_nil
          · have hdrop : Text.dropEndWhile isBlank [c] = [c] := by simp [Text.dropEndWhile, hblank]
            show voc.Spells (Text.dropEndWhile isBlank [c]) 0
            rw [hdrop]
            exact hfirst
        · have hsolid := isSolid_chars hvoc hin fun c hc => hletter ⟨c, hc⟩
          rw [hsolid.dropEndWhile_eq]
          exact hfirst
      · exact hfirst.append hrest

/-- Trimming loses no slot. -/
theorem Spells.trimChars (hvoc : voc.HasSolidMarks) (h : voc.Spells cs n) :
    voc.Spells (trimChars cs) n :=
  (h.dropWhile hvoc).dropEndWhile hvoc

theorem sum_filter_of_eq_zero {α : Type} (isKept : α → Bool) (count : α → Nat) {items : List α}
    (h : ∀ a ∈ items, isKept a = false → count a = 0) :
    ((items.filter isKept).map count).sum = (items.map count).sum := by
  induction items with
  | nil => rfl
  | cons a items ih =>
      have hrest := ih fun b hb => h b (List.mem_cons_of_mem _ hb)
      cases ha : isKept a with
      | true => simp [ha, hrest]
      | false => simp [ha, hrest, h a List.mem_cons_self ha]

/-- Neither does leaving out what is blank. -/
theorem SpellsWords.joinNonBlank (hvoc : voc.HasSolidMarks) {glue : String}
    (hglue : voc.Spells glue.toList 0) {pieces : List String} (h : voc.SpellsWords pieces n) :
    voc.Spells (joinNonBlank glue pieces).toList n := by
  obtain ⟨counted, rfl, rfl, hcounted⟩ := h
  have htrimmed : ∀ p ∈ counted, voc.Spells (Text.trimChars p.1.toList) p.2 :=
    fun p hp => (hcounted p hp).trimChars hvoc
  have hpieces : ((((counted.map (·.1)).map String.toList).map Text.trimChars).filter
      fun cs => !cs.isEmpty) = (counted.filter fun p => !(Text.trimChars p.1.toList).isEmpty).map
        fun p => Text.trimChars p.1.toList := by
    simp [List.filter_map, Function.comp_def]
  -- A piece that is blank has no slot to lose.
  have hblank : ∀ p ∈ counted, (!(Text.trimChars p.1.toList).isEmpty) = false → p.2 = 0 := by
    intro p hp hempty
    have hnil : Text.trimChars p.1.toList = [] := by simpa using hempty
    exact (hnil ▸ htrimmed p hp).eq_zero hvoc
  rw [Text.toList_joinNonBlank, hpieces, ← sum_filter_of_eq_zero _ _ hblank]
  exact spells_intercalate hglue fun p hp => htrimmed p (List.mem_filter.1 hp).1

end Vocabulary

/-! ## Clauses -/

/-- The piece can be written with the vocabulary and no slot. -/
def Piece.IsSpelled (voc : Vocabulary) (p : Piece) : Prop :=
  ∃ s, p = .text s ∧ voc.Spells s.toList 0

variable {voc : Vocabulary}

theorem Piece.spellsWords {pieces : List Piece} (h : ∀ p ∈ pieces, p.IsSpelled voc) :
    texts? pieces = .ok (pieces.map written) ∧ voc.SpellsWords (pieces.map written) 0 := by
  refine ⟨texts?_eq_ok fun p hp => (h p hp).imp fun _ hs => hs.1, ?_⟩
  induction pieces with
  | nil => exact Vocabulary.spellsWords_nil
  | cons p pieces ih =>
      obtain ⟨s, rfl, hs⟩ := h p List.mem_cons_self
      exact (Vocabulary.spellsWords_singleton hs).append
        (ih fun q hq => h q (List.mem_cons_of_mem _ hq))

namespace Query

variable {r : Rendering} {q : Query}

/-- All that the statements of the query are made of is spelled, and there is neither a row window nor a
raw statement. -/
structure IsSpelled (voc : Vocabulary) (q : Query) : Prop where
  table : voc.names q.table
  tableAlias : ∀ v, q.tableAlias = some v → ∃ name, v = .text name ∧ voc.names name
  columns : ∀ p ∈ q.columns, p.IsSpelled voc
  joins : ∀ f ∈ q.joins, f.IsSpelled voc
  wheres : ∀ f ∈ q.wheres, f.IsSpelled voc
  havings : ∀ f ∈ q.havings, f.IsSpelled voc
  groupBy : ∀ p ∈ q.groupBy, p.IsSpelled voc
  orderBy : ∀ p ∈ q.orderBy, p.IsSpelled voc
  limit : q.limit = none
  offset : q.offset = none
  raw : q.raw = none

theorem spellsWords_fragmentTexts {fragments : List Fragment} (h : ∀ f ∈ fragments, f.IsSpelled voc) :
    ∃ words, fragmentTexts fragments = .ok words ∧
      voc.SpellsWords words (boundValues fragments).length := by
  induction fragments with
  | nil => exact ⟨[], rfl, Vocabulary.spellsWords_nil⟩
  | cons f fragments ih =>
      obtain ⟨words, hwords, hspelled⟩ := ih fun g hg => h g (List.mem_cons_of_mem _ hg)
      obtain ⟨s, htext, hs⟩ := h f List.mem_cons_self
      refine ⟨s :: words, ?_, ?_⟩
      · unfold fragmentTexts Piece.texts? at hwords ⊢
        rw [List.map_cons, List.mapM_cons, hwords, htext]
        rfl
      · have hall := (Vocabulary.spellsWords_singleton hs).append hspelled
        simpa [boundValues] using hall

/-- A list clause has the slots of its entries. -/
theorem spells_listClause {keyword separator : String} (hkeyword : voc.Spells keyword.toList 0)
    (hseparator : voc.Spells separator.toList 0) {entries : List String} {n : Nat}
    (h : voc.SpellsWords entries n) : voc.Spells (listClause keyword separator entries).toList n := by
  obtain ⟨counted, rfl, rfl, hcounted⟩ := h
  unfold listClause
  split
  · -- Without entries the keyword is left out.
    rename_i hempty
    have hnil : counted = [] := by simpa using hempty
    subst hnil
    exact Vocabulary.spells_nil
  · have hentries := Vocabulary.spells_string_intercalate separator hseparator hcounted
    have hfront := hkeyword.append (voc.spells_ordinary " " (by decide))
    simpa using hfront.append hentries

theorem spells_sourceText (h : q.IsSpelled voc) (hmark : voc.marks r.mark) :
    ∃ s, sourceText? r q = .ok s ∧ voc.Spells s.toList 0 := by
  have htable : voc.Spells (r.quote q.table).toList 0 := Vocabulary.spells_quoteName hmark h.table
  cases hname : q.tableAlias with
  | none => exact ⟨_, by simp only [sourceText?, hname], htable⟩
  | some v =>
      obtain ⟨name, rfl, hin⟩ := h.tableAlias v hname
      refine ⟨r.quote q.table ++ " " ++ Identifier.quoteName r.mark name, ?_, ?_⟩
      · simp only [sourceText?, hname, Identifier.quote?_text]
        rfl
      · have hfront := htable.append (voc.spells_ordinary " " (by decide))
        simpa using hfront.append (Vocabulary.spells_quoteName hmark hin)

theorem spells_headClause (h : q.IsSpelled voc) (hmark : voc.marks r.mark) :
    ∃ s, headClause r q = .ok s ∧ voc.Spells s.toList 0 := by
  obtain ⟨source, hsource, hspelled⟩ := spells_sourceText h hmark
  obtain ⟨hcolumns, counted, hcounted, hsum, hwords⟩ := Piece.spellsWords h.columns
  have hlist := Vocabulary.spells_string_intercalate ", " (voc.spells_ordinary _ (by decide)) hwords
  rw [hsum, hcounted] at hlist
  simp only [headClause, hcolumns, hsource, h.limit]
  refine ⟨_, rfl, ?_⟩
  have hdistinct : voc.Spells (if q.distinct then "DISTINCT " else "").toList 0 := by
    split <;> exact voc.spells_ordinary _ (by decide)
  have hfrom := voc.spells_ordinary " FROM " (by decide)
  have hstart := (voc.spells_ordinary "SELECT " (by decide)).append hdistinct
  simpa using ((hstart.append hlist).append hfrom).append hspelled

theorem spells_conditionClause (kind : ConditionKind) (h : ∀ f ∈ q.conditions kind, f.IsSpelled voc) :
    ∃ s, conditionClause kind q = .ok s ∧ voc.Spells s.toList (boundValues (q.conditions kind)).length := by
  obtain ⟨words, hwords, hspelled⟩ := spellsWords_fragmentTexts h
  have hkeyword : voc.Spells kind.keyword.toList 0 := by
    cases kind <;> exact voc.spells_ordinary _ (by decide)
  refine ⟨_, by simp only [conditionClause, hwords]; rfl, ?_⟩
  exact spells_listClause hkeyword (voc.spells_ordinary _ (by decide)) hspelled

theorem spells_pieces {keyword : String} (hkeyword : voc.Spells keyword.toList 0) {entries : List Piece}
    (h : ∀ p ∈ entries, p.IsSpelled voc) :
    ∃ texts, Piece.texts? entries = .ok texts ∧ voc.Spells (listClause keyword ", " texts).toList 0 := by
  obtain ⟨htexts, hspelled⟩ := Piece.spellsWords h
  exact ⟨_, htexts, spells_listClause hkeyword (voc.spells_ordinary _ (by decide)) hspelled⟩

/-- **The SELECT of a spelled query is spelled, with one slot for each of its parameters.** -/
theorem spells_select (hvoc : voc.HasSolidMarks) (h : q.IsSpelled voc) (hmark : voc.marks r.mark) :
    ∃ sql, q.select r = .ok sql ∧ sql.IsSpelled voc 0 := by
  obtain ⟨head, hhead, hheadSpelled⟩ := spells_headClause h hmark
  obtain ⟨joins, hjoins, counted, hcounted, hsum, hwords⟩ := spellsWords_fragmentTexts h.joins
  have hjoined := Vocabulary.spells_string_intercalate " " (voc.spells_ordinary _ (by decide)) hwords
  rw [hsum, hcounted] at hjoined
  obtain ⟨wheres, hwheres, hwheresSpelled⟩ := spells_conditionClause .whereClause h.wheres
  obtain ⟨groups, hgroups, hgroupsSpelled⟩ :=
    spells_pieces (voc.spells_ordinary "GROUP BY" (by decide)) h.groupBy
  obtain ⟨havings, hhavings, hhavingsSpelled⟩ := spells_conditionClause .havingClause h.havings
  obtain ⟨order, horder, horderSpelled⟩ :=
    spells_pieces (voc.spells_ordinary "ORDER BY" (by decide)) h.orderBy
  -- There is no row window, so the last two clauses are empty.
  have hclauses : clauses r q = .ok [head, " ".intercalate joins, wheres,
      listClause "GROUP BY" ", " groups, havings, listClause "ORDER BY" ", " order, "", ""] := by
    simp only [clauses, hhead, joinClause, hjoins, hwheres, hgroups, hhavings, horder, limitClause,
      offsetClause, h.limit, h.offset]
    rfl
  refine ⟨⟨.text (joinNonBlank " " [head, " ".intercalate joins, wheres,
    listClause "GROUP BY" ", " groups, havings, listClause "ORDER BY" ", " order, "", ""]),
    .positional (boundValues q.joins ++ boundValues q.wheres ++ boundValues q.havings)⟩, ?_, _, _, rfl,
    ?_⟩
  · simp only [select, h.raw, hclauses]
    rfl
  · have hnothing : voc.SpellsWords [""] 0 := Vocabulary.spellsWords_singleton Vocabulary.spells_nil
    have hfront := (Vocabulary.spellsWords_singleton hheadSpelled).append
      ((Vocabulary.spellsWords_singleton hjoined).append (Vocabulary.spellsWords_singleton hwheresSpelled))
    have hback := (Vocabulary.spellsWords_singleton hgroupsSpelled).append
      ((Vocabulary.spellsWords_singleton hhavingsSpelled).append
        ((Vocabulary.spellsWords_singleton horderSpelled).append (hnothing.append hnothing)))
    have hall := (hfront.append hback).joinNonBlank hvoc (voc.spells_ordinary " " (by decide))
    simpa [Query.conditions, Nat.add_assoc] using hall

/-- So is the statement that deletes the rows it selects. -/
theorem spells_deleteMany (hvoc : voc.HasSolidMarks) (h : q.IsSpelled voc) (hmark : voc.marks r.mark) :
    ∃ sql, q.deleteMany r = .ok sql ∧ sql.IsSpelled voc 0 := by
  obtain ⟨wheres, hwheres, hspelled⟩ := spells_conditionClause .whereClause h.wheres
  refine ⟨_, by simp only [deleteMany, hwheres]; rfl, _, boundValues q.wheres, rfl, ?_⟩
  have htable : voc.Spells (r.quote q.table).toList 0 := Vocabulary.spells_quoteName hmark h.table
  have hstart : voc.SpellsWords ["DELETE FROM"] 0 :=
    Vocabulary.spellsWords_singleton (voc.spells_ordinary _ (by decide))
  have hall := (hstart.append ((Vocabulary.spellsWords_singleton htable).append
    (Vocabulary.spellsWords_singleton hspelled))).joinNonBlank hvoc (voc.spells_ordinary " " (by decide))
  simpa [Query.conditions] using hall

end Query

end FluentSql
