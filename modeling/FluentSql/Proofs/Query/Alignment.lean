import FluentSql.Proofs.Identifier.Characters
import FluentSql.Proofs.Query.Clause
/-
# FluentSql.Proofs.Query.Alignment — every bound value stands at the slot of its own fragment.

A query is aligned if the only slots of its statements are those of its joins and conditions, and each
of these has one value for each of its slots. The statement of an aligned query then has one slot for
each parameter, and rendering the parameters from left to right is the same as rendering every
fragment's own values in it first and writing the statement afterwards (`slots_aligned`). So no value
gets into the slot of another fragment.
-/

namespace FluentSql.Query

open Text (IsSolid slotCount slotCount_eq_zero_iff)

/-- Nothing but the WHERE conditions has slots in what the DELETE of the query is made of, and these
have one value for each. -/
structure IsDeleteAligned (r : Rendering) (q : Query) : Prop where
  mark : '?' ∉ r.mark.toList
  table : '?' ∉ q.table.toList
  wheres : ∀ f ∈ q.wheres, f.IsBalanced

/-- Nothing but joins and conditions has slots in what the SELECT of the query is made of, and these
have one value for each. -/
structure IsAligned (r : Rendering) (q : Query) : Prop extends IsDeleteAligned r q where
  limitKeyword : '?' ∉ r.dialect.limitKeyword.toList
  offsetKeyword : '?' ∉ r.dialect.offsetKeyword.toList
  tableAlias : ∀ v, q.tableAlias = some v → ∃ s, v.asText? = some s ∧ '?' ∉ s.toList
  columns : ∀ p ∈ q.columns, p.IsConstant
  groupBy : ∀ p ∈ q.groupBy, p.IsConstant
  orderBy : ∀ p ∈ q.orderBy, p.IsConstant
  limit : ∀ n, q.limit = some n → '?' ∉ n.display.toList
  offset : ∀ n, q.offset = some n → '?' ∉ n.display.toList
  joins : ∀ f ∈ q.joins, f.IsBalanced
  havings : ∀ f ∈ q.havings, f.IsBalanced

/-- The query with the values of every join and condition rendered in its slots. -/
def filled (render : Value → String) (q : Query) : Query :=
  { q with
    joins := q.joins.map (Fragment.filled render)
    wheres := q.wheres.map (Fragment.filled render)
    havings := q.havings.map (Fragment.filled render) }

/-- A statement has one slot for each parameter, and rendering its parameters from left to right gives
a second statement, which has none left. -/
def RendersTo (render : Value → String) (made rendered : Except Failure Sql) : Prop :=
  ∃ text params,
    made = .ok ⟨.text text, .positional params⟩ ∧
    slotCount text.toList = params.length ∧
    rendered = .ok ⟨.text (Text.fill text (params.map render)), .positional []⟩

variable {r : Rendering} {q : Query}

/-! ## Fragments as clauses -/

/-- Balanced fragments as clauses. -/
def fragmentClauses (fragments : List Fragment) (h : ∀ f ∈ fragments, f.IsBalanced) : List Clause :=
  fragments.pmap Clause.ofFragment h

theorem flatMap_values_fragmentClauses {fragments : List Fragment}
    (h : ∀ f ∈ fragments, f.IsBalanced) :
    (fragmentClauses fragments h).flatMap Clause.values = boundValues fragments := by
  induction fragments with
  | nil => rfl
  | cons f fragments ih =>
      have hrest := ih fun f hf => h f (by simp [hf])
      simp only [fragmentClauses, boundValues] at hrest ⊢
      simp [Clause.ofFragment, hrest]

theorem fragmentTexts_eq_ok {fragments : List Fragment} (h : ∀ f ∈ fragments, f.IsBalanced) :
    fragmentTexts fragments = .ok ((fragmentClauses fragments h).map Clause.text) := by
  have htext : ∀ p ∈ fragments.map (·.text), ∃ s, p = Piece.text s := by
    intro p hp
    obtain ⟨f, hf, rfl⟩ := List.mem_map.1 hp
    exact (h f hf).exists_text
  rw [fragmentTexts, Piece.texts?_eq_ok htext]
  simp [fragmentClauses, Clause.ofFragment, List.map_pmap, List.pmap_eq_map]

theorem fragmentTexts_filled_eq_ok (render : Value → String) {fragments : List Fragment}
    (h : ∀ f ∈ fragments, f.IsBalanced) :
    fragmentTexts (fragments.map (Fragment.filled render)) =
      .ok ((fragmentClauses fragments h).map (Clause.filled render)) := by
  have htext : ∀ p ∈ (fragments.map (Fragment.filled render)).map (·.text), ∃ s, p = Piece.text s := by
    intro p hp
    rw [List.map_map] at hp
    obtain ⟨f, hf, rfl⟩ := List.mem_map.1 hp
    exact (h f hf).exists_text_filled render
  rw [fragmentTexts, Piece.texts?_eq_ok htext]
  simp only [fragmentClauses, List.map_pmap, Clause.filled_ofFragment, List.pmap_eq_map,
    List.map_map, Function.comp_def]

theorem boundValues_filled (render : Value → String) (fragments : List Fragment) :
    boundValues (fragments.map (Fragment.filled render)) = [] := by
  simp [boundValues, Fragment.filled, List.flatMap_map]

/-! ## The clauses of a SELECT -/

/-- A clause of a keyword and entries, which is empty without entries. -/
def keywordClause (keyword separator : String) (hkeyword : '?' ∉ keyword.toList)
    (hseparator : '?' ∉ separator.toList) (entries : List Clause) : Clause :=
  if entries.isEmpty then .constant "" (by simp)
  else (Clause.constant (keyword ++ " ") (by simpa using hkeyword)).append
    (.intercalate separator hseparator entries)

theorem text_keywordClause {keyword separator : String} (hkeyword : '?' ∉ keyword.toList)
    (hseparator : '?' ∉ separator.toList) (entries : List Clause) :
    (keywordClause keyword separator hkeyword hseparator entries).text =
      listClause keyword separator (entries.map Clause.text) := by
  cases entries <;> rfl

theorem filled_keywordClause (render : Value → String) {keyword separator : String}
    (hkeyword : '?' ∉ keyword.toList) (hseparator : '?' ∉ separator.toList)
    (entries : List Clause) :
    (keywordClause keyword separator hkeyword hseparator entries).filled render =
      listClause keyword separator (entries.map (Clause.filled render)) := by
  cases entries with
  | nil => simp [keywordClause, listClause]
  | cons c cs => simp [keywordClause, listClause, Clause.filled_intercalate]

theorem values_keywordClause {keyword separator : String} (hkeyword : '?' ∉ keyword.toList)
    (hseparator : '?' ∉ separator.toList) (entries : List Clause) :
    (keywordClause keyword separator hkeyword hseparator entries).values =
      entries.flatMap Clause.values := by
  cases entries <;> rfl

theorem not_mem_listClause {keyword separator : String} (hkeyword : '?' ∉ keyword.toList)
    (hseparator : '?' ∉ separator.toList) {entries : List String}
    (h : ∀ s ∈ entries, '?' ∉ s.toList) : '?' ∉ (listClause keyword separator entries).toList := by
  unfold listClause
  split
  · simp
  · have hentries := Text.not_mem_string_intercalate hseparator h
    simp only [String.toList_append, List.mem_append, not_or]
    exact ⟨⟨hkeyword, by decide⟩, hentries⟩

/-- The conditions of one kind as a clause. -/
def conditionsClause (kind : ConditionKind) (h : ∀ f ∈ q.conditions kind, f.IsBalanced) : Clause :=
  keywordClause kind.keyword " AND " (by cases kind <;> decide) (by decide) (fragmentClauses _ h)

theorem conditionClause_eq_ok (kind : ConditionKind) (h : ∀ f ∈ q.conditions kind, f.IsBalanced) :
    conditionClause kind q = .ok (conditionsClause kind h).text := by
  rw [conditionsClause, text_keywordClause]
  simp only [conditionClause, fragmentTexts_eq_ok h]
  rfl

theorem conditionClause_filled_eq_ok (render : Value → String) (kind : ConditionKind)
    (h : ∀ f ∈ q.conditions kind, f.IsBalanced) :
    conditionClause kind (q.filled render) = .ok ((conditionsClause kind h).filled render) := by
  have hsame : (q.filled render).conditions kind = (q.conditions kind).map (Fragment.filled render) := by
    cases kind <;> rfl
  rw [conditionsClause, filled_keywordClause]
  simp only [conditionClause, hsame, fragmentTexts_filled_eq_ok render h]
  rfl

theorem values_conditionsClause (kind : ConditionKind)
    (h : ∀ f ∈ q.conditions kind, f.IsBalanced) :
    (conditionsClause kind h).values = boundValues (q.conditions kind) := by
  rw [conditionsClause, values_keywordClause, flatMap_values_fragmentClauses]

theorem values_whereClause (h : ∀ f ∈ q.wheres, f.IsBalanced) :
    (conditionsClause (q := q) .whereClause h).values = boundValues q.wheres :=
  values_conditionsClause .whereClause h

theorem values_havingClause (h : ∀ f ∈ q.havings, f.IsBalanced) :
    (conditionsClause (q := q) .havingClause h).values = boundValues q.havings :=
  values_conditionsClause .havingClause h

/-! ## The clauses without slots -/

theorem exists_sourceText (h : q.IsAligned r) :
    ∃ s, sourceText? r q = .ok s ∧ '?' ∉ s.toList := by
  have htable : '?' ∉ (r.quote q.table).toList :=
    Identifier.not_mem_quoteName (by decide) h.mark h.table
  cases hname : q.tableAlias with
  | none => exact ⟨_, by simp only [sourceText?, hname], htable⟩
  | some v =>
      obtain ⟨name, hv, hfree⟩ := h.tableAlias v hname
      have hquoted : Identifier.quote? r.mark v = .ok (Identifier.quoteName r.mark name) := by
        simp only [Identifier.quote?, hv]
      refine ⟨r.quote q.table ++ " " ++ Identifier.quoteName r.mark name, ?_, ?_⟩
      · simp only [sourceText?, hname, hquoted]
        rfl
      · simp only [String.toList_append, List.mem_append, not_or]
        exact ⟨⟨htable, by decide⟩, Identifier.not_mem_quoteName (by decide) h.mark hfree⟩

/-- The start of the SELECT can be written and has no slots. -/
theorem exists_headClause (h : q.IsAligned r) :
    ∃ s, headClause r q = .ok s ∧ '?' ∉ s.toList := by
  obtain ⟨source, hsource, hsourceFree⟩ := exists_sourceText h
  have hcolumns : Piece.texts? q.columns = .ok (q.columns.map Piece.written) :=
    Piece.texts?_eq_ok fun p hp => (h.columns p hp).imp fun _ hs => hs.1
  have hcolumnsFree : '?' ∉ (", ".intercalate (q.columns.map Piece.written)).toList :=
    Text.not_mem_string_intercalate (by decide) (Piece.not_mem_written h.columns)
  simp only [headClause, hcolumns, hsource]
  refine ⟨_, rfl, ?_⟩
  simp only [String.toList_append, List.mem_append, not_or]
  refine ⟨⟨⟨⟨⟨by decide, ?_⟩, ?_⟩, hcolumnsFree⟩, by decide⟩, hsourceFree⟩
  · cases hlimit : q.limit with
    | none => simp
    | some n =>
        -- The number stands here only where rows are limited at the head of the statement.
        cases r.limitStyle with
        | limit => simp
        | top =>
            simp only [String.toList_append, List.mem_append, not_or]
            exact ⟨⟨by decide, h.limit n hlimit⟩, by decide⟩
  · cases q.distinct <;> decide

theorem not_mem_limitClause (h : q.IsAligned r) : '?' ∉ (limitClause r q).toList := by
  unfold limitClause
  cases hlimit : q.limit with
  | none => simp
  | some n =>
      cases r.limitStyle with
      | top => simp
      | limit =>
          simp only [String.toList_append, List.mem_append, not_or]
          exact ⟨⟨h.limitKeyword, by decide⟩, h.limit n hlimit⟩

theorem not_mem_offsetClause (h : q.IsAligned r) : '?' ∉ (offsetClause r q).toList := by
  unfold offsetClause
  cases hoffset : q.offset with
  | none => simp
  | some n =>
      simp only [String.toList_append, List.mem_append, not_or]
      exact ⟨⟨h.offsetKeyword, by decide⟩, h.offset n hoffset⟩

/-- A clause of a keyword and entries without slots. -/
theorem exists_listClause (keyword : String) (hkeyword : '?' ∉ keyword.toList)
    {entries : List Piece} (h : ∀ p ∈ entries, p.IsConstant) :
    Piece.texts? entries = .ok (entries.map Piece.written) ∧
      '?' ∉ (listClause keyword ", " (entries.map Piece.written)).toList :=
  ⟨Piece.texts?_eq_ok fun p hp => (h p hp).imp fun _ hs => hs.1,
    not_mem_listClause hkeyword (by decide) (Piece.not_mem_written h)⟩

/-! ## Statements -/

/-- The clauses of the SELECT of an aligned query, those before and those behind WHERE apart. -/
theorem exists_clauses (h : q.IsAligned r) (render : Value → String) :
    ∃ before behind : List Clause,
      clauses r q = .ok
        ((before ++ conditionsClause .whereClause h.wheres :: behind).map Clause.text) ∧
      clauses r (q.filled render) = .ok
        ((before ++ conditionsClause .whereClause h.wheres :: behind).map (Clause.filled render)) ∧
      before.flatMap Clause.values = boundValues q.joins ∧
      behind.flatMap Clause.values = boundValues q.havings := by
  obtain ⟨head, hhead, hheadFree⟩ := exists_headClause h
  obtain ⟨hgroups, hgroupsFree⟩ := exists_listClause "GROUP BY" (by decide) h.groupBy
  obtain ⟨horder, horderFree⟩ := exists_listClause "ORDER BY" (by decide) h.orderBy
  have hwheres : conditionClause .whereClause q = _ :=
    conditionClause_eq_ok .whereClause h.wheres
  have hhavings : conditionClause .havingClause q = _ :=
    conditionClause_eq_ok .havingClause h.havings
  have hjoins : joinClause q =
      .ok (" ".intercalate ((fragmentClauses q.joins h.joins).map Clause.text)) := by
    rw [joinClause, fragmentTexts_eq_ok h.joins]
    rfl
  refine ⟨[.constant head hheadFree, .intercalate " " (by decide) (fragmentClauses q.joins h.joins)],
    [.constant _ hgroupsFree, conditionsClause .havingClause h.havings, .constant _ horderFree,
      .constant _ (not_mem_limitClause h), .constant _ (not_mem_offsetClause h)], ?_, ?_, ?_, ?_⟩
  · unfold clauses
    rw [hhead, hjoins, hwheres, hgroups, hhavings, horder]
    rfl
  · -- Filling the fragments leaves the other clauses as they are.
    have hhead' : headClause r (q.filled render) = .ok head := hhead
    have hgroups' : Piece.texts? (q.filled render).groupBy = _ := hgroups
    have horder' : Piece.texts? (q.filled render).orderBy = _ := horder
    have hjoins' : joinClause (q.filled render) =
        .ok (" ".intercalate ((fragmentClauses q.joins h.joins).map (Clause.filled render))) := by
      rw [joinClause]
      simp only [filled, fragmentTexts_filled_eq_ok render h.joins]
      rfl
    unfold clauses
    rw [hhead', hjoins', hgroups', horder', conditionClause_filled_eq_ok render .whereClause h.wheres,
      conditionClause_filled_eq_ok render .havingClause h.havings]
    simp only [List.cons_append, List.nil_append, List.map_cons, List.map_nil,
      Clause.filled_constant, Clause.filled_intercalate]
    rfl
  · simp [Clause.constant, Clause.intercalate, flatMap_values_fragmentClauses]
  · simp [Clause.constant, values_havingClause]

theorem select_rendersTo (hraw : q.raw = none) (h : q.IsAligned r) {render : Value → String}
    (hrender : ∀ v, IsSolid (render v).toList) :
    RendersTo render (q.select r) ((q.filled render).select r) := by
  obtain ⟨before, behind, hclauses, hfilled, hbefore, hbehind⟩ := exists_clauses h render
  have hraw' : (q.filled render).raw = none := hraw
  have hvalues : (before ++ conditionsClause .whereClause h.wheres :: behind).flatMap Clause.values =
      boundValues q.joins ++ boundValues q.wheres ++ boundValues q.havings := by
    rw [List.flatMap_append, List.flatMap_cons, hbefore, hbehind, values_whereClause,
      List.append_assoc]
  obtain ⟨hcount, hfill⟩ := Clause.joinNonBlank_filled hrender
    (before ++ conditionsClause .whereClause h.wheres :: behind)
  rw [hvalues] at hcount hfill
  refine ⟨_, _, ?_, hcount, ?_⟩
  · simp only [select, hraw, hclauses]
    rfl
  · simp only [select, hraw', hfilled, hfill]
    simp only [filled, boundValues_filled]
    rfl

theorem deleteMany_rendersTo (h : q.IsDeleteAligned r) {render : Value → String}
    (hrender : ∀ v, IsSolid (render v).toList) :
    RendersTo render (q.deleteMany r) ((q.filled render).deleteMany r) := by
  have htable : '?' ∉ (r.quote q.table).toList :=
    Identifier.not_mem_quoteName (by decide) h.mark h.table
  obtain ⟨hcount, hfill⟩ := Clause.joinNonBlank_filled hrender
    [.constant "DELETE FROM" (by decide), .constant _ htable,
      conditionsClause (q := q) .whereClause h.wheres]
  have hvalues : [Clause.constant "DELETE FROM" (by decide), .constant _ htable,
      conditionsClause (q := q) .whereClause h.wheres].flatMap Clause.values =
      boundValues q.wheres := by
    simp [Clause.constant, values_whereClause]
  rw [hvalues] at hcount hfill
  refine ⟨_, _, ?_, hcount, ?_⟩
  · have hwheres : conditionClause .whereClause q = _ := conditionClause_eq_ok .whereClause h.wheres
    simp only [deleteMany, hwheres]
    rfl
  · simp only [deleteMany, conditionClause_filled_eq_ok render .whereClause h.wheres, hfill]
    simp only [filled, boundValues_filled, List.map_cons, List.map_nil, Clause.filled_constant]
    rfl

/-- The DELETE of an aligned query has the WHERE clause of its SELECT, text and values. -/
theorem deleteMany_where (hraw : q.raw = none) (h : q.IsAligned r) :
    ∃ (before behind : List Clause) (wheres : Clause),
      conditionClause .whereClause q = .ok wheres.text ∧
      wheres.values = boundValues q.wheres ∧
      q.select r = .ok ⟨.text (Text.joinNonBlank " " ((before ++ wheres :: behind).map Clause.text)),
        .positional ((before ++ wheres :: behind).flatMap Clause.values)⟩ ∧
      q.deleteMany r = .ok ⟨.text (Text.joinNonBlank " " ["DELETE FROM", r.quote q.table, wheres.text]),
        .positional wheres.values⟩ := by
  obtain ⟨before, behind, hclauses, -, hbefore, hbehind⟩ := exists_clauses h fun _ => ""
  have hwheres : conditionClause .whereClause q = _ :=
    conditionClause_eq_ok .whereClause h.wheres
  refine ⟨before, behind, conditionsClause .whereClause h.wheres, hwheres, values_whereClause h.wheres,
    ?_, ?_⟩
  · simp only [select, hraw, hclauses, List.flatMap_append, List.flatMap_cons, hbefore, hbehind,
      values_whereClause, List.append_assoc]
    rfl
  · simp only [deleteMany, hwheres, values_whereClause]
    rfl

/-- **Every bound value stands at the slot of its own fragment.** The SELECT and the DELETE of an
aligned query have one slot for each parameter, rendering the parameters from left to right is the same
as rendering the values of every fragment in it first, and both have the same WHERE clause. -/
theorem slots_aligned (r : Rendering) (q : Query) (render : Value → String)
    (hrender : ∀ v, IsSolid (render v).toList) :
    (q.raw = none → q.IsAligned r → RendersTo render (q.select r) ((q.filled render).select r)) ∧
    (q.IsDeleteAligned r → RendersTo render (q.deleteMany r) ((q.filled render).deleteMany r)) ∧
    (q.raw = none → q.IsAligned r →
      ∃ (before behind : List Clause) (wheres : Clause),
        conditionClause .whereClause q = .ok wheres.text ∧
        wheres.values = boundValues q.wheres ∧
        q.select r = .ok ⟨.text (Text.joinNonBlank " " ((before ++ wheres :: behind).map Clause.text)),
          .positional ((before ++ wheres :: behind).flatMap Clause.values)⟩ ∧
        q.deleteMany r = .ok ⟨.text (Text.joinNonBlank " " ["DELETE FROM", r.quote q.table, wheres.text]),
          .positional wheres.values⟩) := by
  refine ⟨?_, ?_, ?_⟩
  · intro hraw h
    exact select_rendersTo hraw h hrender
  · intro h
    exact deleteMany_rendersTo h hrender
  · exact deleteMany_where

/-- A query with slots in every kind of fragment, and a question mark among its values. -/
def openOrders : Query where
  table := "orders"
  tableAlias := some (.text "o")
  joins := [⟨.text "JOIN items i ON i.order = o.id AND i.kind = ?", [.text "?"]⟩]
  wheres := [⟨.text "o.state IN (?, ?)", [.text "open", .text "late"]⟩, ⟨.text "o.paid IS NULL", []⟩]
  havings := [⟨.text "SUM(i.price) > ?", [.int 100]⟩]
  groupBy := [.text "o.id"]
  limit := some (.int 10)

theorem slots_aligned_openOrders :
    let render : Value → String := fun v => "<" ++ v.display ++ ">"
    let r : Rendering := .ofDialect (.generic "mysql")
    (∀ v, IsSolid (render v).toList) ∧ openOrders.raw = none ∧ openOrders.IsAligned r ∧
      RendersTo render (openOrders.select r) ((openOrders.filled render).select r) ∧
      RendersTo render (openOrders.deleteMany r) ((openOrders.filled render).deleteMany r) := by
  intro render r
  have hrender : ∀ v, IsSolid (render v).toList := by
    intro v
    refine ⟨by simp [render], by simp [render]; decide, ?_⟩
    have hlast : (render v).toList.getLast? = some '>' := by
      rw [String.toList_append, List.getLast?_append]
      rfl
    simp [hlast]
    decide
  have balanced : ∀ {text : String} {values : List Value}, values.length = slotCount text.toList →
      Fragment.IsBalanced ⟨.text text, values⟩ := fun hlen => ⟨_, rfl, hlen⟩
  have haligned : openOrders.IsAligned r := by
    refine ⟨⟨by decide, by decide, ?wheres⟩, by decide, by decide, ?_, ?_, ?_, ?_, ?_, ?_, ?joins,
      ?havings⟩
    case joins | havings => simpa [openOrders] using balanced (by decide)
    case wheres => simpa [openOrders] using ⟨balanced (by decide), balanced (by decide)⟩
    all_goals simp [openOrders, Piece.IsConstant]
    all_goals decide
  obtain ⟨hselect, hdelete, -⟩ := slots_aligned r openOrders render hrender
  exact ⟨hrender, rfl, haligned, hselect rfl haligned, hdelete haligned.toIsDeleteAligned⟩

end FluentSql.Query
