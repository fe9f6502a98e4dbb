import FluentSql.Proofs.Condition.Precedence
import FluentSql.Proofs.Query.Clause
import FluentSql.Condition
/-
# FluentSql.Proofs.Condition.Meaning — a condition clause means the conjunction of its conditions.

A condition has a meaning, which is a tree, and a text that it is written as. The meaning does not depend on
the identifier mark: a column stands in it with its own characters (`Node.tree`). The texts of several
conditions with AND between them read as the conjunction of their meanings, in order
(`read_conditionClause`), because each of them is an operand: a comparison has no connective outside
quotes and parentheses, and any of several groups stands in parentheses of its own.
-/

namespace FluentSql.Search

/-! ## Conditions and what they mean -/

/-- An operator without quotes, slots, parentheses and the words that connect. -/
structure IsPlainOperator (operator : String) : Prop where
  chars : ∀ c ∈ operator.toList, isMark c = false ∧ c ≠ '?' ∧ c ≠ '(' ∧ c ≠ ')'
  words : ∀ l ∈ lexemesOf operator.toList, IsPlain l

instance : DecidablePred IsPlainOperator := fun operator =>
  -- The characters of the operator are looked at, and not all characters that there are.
  have : Decidable (∀ c ∈ operator.toList, isMark c = false ∧ c ≠ '?' ∧ c ≠ '(' ∧ c ≠ ')') :=
    List.decidableBAll _ _
  decidable_of_iff ((∀ c ∈ operator.toList, isMark c = false ∧ c ≠ '?' ∧ c ≠ '(' ∧ c ≠ ')') ∧
    ∀ l ∈ lexemesOf operator.toList, IsPlain l) ⟨fun h => ⟨h.1, h.2⟩, fun h => ⟨h.chars, h.words⟩⟩

/-- The operators of the named conditions are plain. -/
theorem isPlainOperator_named : ∀ operator ∈ ["=", "!=", "LIKE", "NOT LIKE", ">", "<", ">=", "<=", "IN",
    "NOT IN", "IS NULL", "IS NOT NULL"], IsPlainOperator operator := by decide +kernel

/-- A column compared with a value. -/
structure Entry where
  column : String
  operator : String
  value : Value
  deriving Repr, Inhabited

/-- A condition. -/
inductive Node where
  | comparison (entry : Entry)
  | membership (column operator : String) (values : List Value)
  | check (column operator : String)
  /-- Any of several groups of comparisons that hold together. -/
  | anyOf (groups : List (List Entry))
  deriving Repr, Inhabited

namespace Entry

/-- The column, the operator and the value. -/
def lexemes (e : Entry) : List Lexeme :=
  nameLexemes e.column ++ (lexemesOf e.operator.toList ++ [.slot (some e.value)])

/-- The comparison by itself. -/
def tree (e : Entry) : Tree := .leaf e.lexemes

/-- The comparison as it is written with some standard mark. -/
def WrittenAs (e : Entry) (c : Comparison) : Prop :=
  ∃ mark, Identifier.IsStandardMark mark ∧
    c = ⟨Identifier.quoteName mark e.column, e.operator, e.value⟩

end Entry

/-- Values in slots, with commas between them. -/
def slotLexemes (values : List Value) : List Lexeme :=
  [.symbol ','].intercalate (values.map fun value => [.slot (some value)])

/-- A group with AND between its comparisons. -/
def groupLexemes (group : List Entry) : List Lexeme :=
  [Connective.and.lexeme].intercalate (group.map Entry.lexemes)

/-- Lexemes in parentheses. -/
def enclosed (ls : List Lexeme) : List Lexeme := .opening :: (ls ++ [.closing])

namespace Node

/-- What the condition is written with. -/
def lexemes : Node → List Lexeme
  | .comparison e => e.lexemes
  | .membership column operator values =>
    nameLexemes column ++ (lexemesOf operator.toList ++ enclosed (slotLexemes values))
  | .check column operator => nameLexemes column ++ lexemesOf operator.toList
  | .anyOf groups =>
    enclosed ([Connective.or.lexeme].intercalate (groups.map fun group => enclosed (groupLexemes group)))

/-- What the condition means. -/
def tree : Node → Tree
  | .anyOf groups =>
    .connected .or (groups.map fun group => .connected .and (group.map Entry.tree))
  | node => .leaf node.lexemes

/-- The values of the condition, in order. -/
def values : Node → List Value
  | .comparison e => [e.value]
  | .membership _ _ values => values
  | .check _ _ => []
  | .anyOf groups => groups.flatten.map (·.value)

/-- How deep its parentheses are nested, as far as they enclose operands. -/
def depth : Node → Nat
  | .anyOf _ => 2
  | _ => 0

/-- The operators are plain, and there is a group and something in every group. -/
def IsPlain : Node → Prop
  | .comparison e => IsPlainOperator e.operator
  | .membership _ operator _ => IsPlainOperator operator
  | .check _ operator => IsPlainOperator operator
  | .anyOf groups =>
    groups ≠ [] ∧ ∀ group ∈ groups, group ≠ [] ∧ ∀ e ∈ group, IsPlainOperator e.operator

/-- The condition as it is written with standard marks. -/
def WrittenAs (node : Node) (f : Fragment) : Prop :=
  match node with
  | .comparison e => ∃ c, e.WrittenAs c ∧ f = .comparison c.column c.operator [c.value]
  | .membership column operator values =>
    ∃ mark, Identifier.IsStandardMark mark ∧
      f = .membership (Identifier.quoteName mark column) operator (.ofTerms (values.map .bound))
  | .check column operator =>
    ∃ mark, Identifier.IsStandardMark mark ∧ f = .check (Identifier.quoteName mark column) operator
  | .anyOf groups =>
    ∃ written, List.Forall₂ (List.Forall₂ Entry.WrittenAs) groups written ∧ f = .anyOf written

end Node

/-! ## Operands -/

theorem isOperand_nameLexemes (name : String) : IsOperand (nameLexemes name) := by
  refine Level.intercalate (.of_forall (by decide)) fun piece hpiece => ?_
  obtain ⟨part, -, rfl⟩ := List.mem_map.1 hpiece
  refine Level.of_forall fun l hl => ?_
  rw [List.mem_singleton.1 hl, partLexeme]
  split
  · decide
  · exact ⟨rfl, rfl, rfl, rfl⟩

/-- A name does not start with a parenthesis. -/
theorem head_nameLexemes (name : String) (ls : List Lexeme) :
    ∀ l ∈ (nameLexemes name ++ ls).head?, l.isOpening = false := by
  obtain ⟨part, parts, hparts⟩ :=
    List.exists_cons_of_ne_nil (Text.splitOn_ne_nil ['.'] name.toList)
  have hfirst : (partLexeme part).isOpening = false := by
    unfold partLexeme
    split <;> rfl
  rw [nameLexemes, hparts]
  cases parts <;> simpa [List.intercalate_cons_cons] using hfirst

/-- The lexemes of a plain operator are neither parentheses nor slots. -/
theorem mem_lexemesOf {operator : String} (h : IsPlainOperator operator) {l : Lexeme}
    (hl : l ∈ lexemesOf operator.toList) :
    l.isOpening = false ∧ l.isClosing = false ∧ l.values = [] := by
  rcases mem_scan hl with ⟨text, rfl⟩ | ⟨text, rfl⟩ | ⟨c, hc, rfl | ⟨rfl, -⟩⟩
  · exact ⟨rfl, rfl, rfl⟩
  · exact ⟨rfl, rfl, rfl⟩
  · obtain ⟨-, -, hopening, hclosing⟩ := h.chars c hc
    exact ⟨beq_false_of_ne hopening, beq_false_of_ne hclosing, rfl⟩
  · exact absurd rfl (h.chars '?' hc).2.1

theorem isOperand_lexemesOf {operator : String} (h : IsPlainOperator operator) :
    IsOperand (lexemesOf operator.toList) :=
  Level.of_forall fun l hl => ⟨(mem_lexemesOf h hl).1, (mem_lexemesOf h hl).2.1, h.words l hl⟩

theorem isOperand_slotLexemes (values : List Value) : IsOperand (slotLexemes values) := by
  refine Level.intercalate (.of_forall (by decide)) fun piece hpiece => ?_
  obtain ⟨value, -, rfl⟩ := List.mem_map.1 hpiece
  refine Level.of_forall fun l hl => ?_
  rw [List.mem_singleton.1 hl]
  exact ⟨rfl, rfl, rfl, rfl⟩

theorem isOperand_enclosed {ls : List Lexeme} (h : IsOperand ls) : IsOperand (enclosed ls) :=
  Level.enclose h

/-- Operands with connectives between them have matching parentheses. -/
theorem level_connected {α : Type} (c : Connective) (lexemes : α → List Lexeme) {items : List α}
    (h : ∀ a ∈ items, IsOperand (lexemes a)) :
    Level (fun _ => True) ([c.lexeme].intercalate (items.map lexemes)) := by
  refine Level.intercalate (.of_forall fun l hl => ?_) fun piece hpiece => ?_
  · rw [List.mem_singleton.1 hl]
    exact ⟨rfl, rfl, trivial⟩
  · obtain ⟨a, ha, rfl⟩ := List.mem_map.1 hpiece
    exact (h a ha).any

theorem Entry.isOperand {e : Entry} (h : IsPlainOperator e.operator) : IsOperand e.lexemes :=
  (isOperand_nameLexemes e.column).append
    ((isOperand_lexemesOf h).append (.of_forall fun l hl => by
      rw [List.mem_singleton.1 hl]
      exact ⟨rfl, rfl, rfl, rfl⟩))

theorem Entry.operand_eq (inside : List Lexeme → Tree) (e : Entry) : operand inside e.lexemes = e.tree :=
  operand_leaf inside (head_nameLexemes _ _)

namespace Node

variable {node : Node} {nodes : List Node}

theorem isOperand (h : node.IsPlain) : IsOperand node.lexemes := by
  cases node with
  | comparison e => exact Entry.isOperand h
  | membership column operator values =>
      exact (isOperand_nameLexemes column).append
        ((isOperand_lexemesOf h).append (isOperand_enclosed (isOperand_slotLexemes values)))
  | check column operator => exact (isOperand_nameLexemes column).append (isOperand_lexemesOf h)
  | anyOf groups =>
      refine Level.enclose (level_connected .or _ fun group hgroup => ?_)
      exact Level.enclose (level_connected .and _ fun e he => Entry.isOperand ((h.2 group hgroup).2 e he))

/-- A group in parentheses reads as the conjunction of its comparisons. -/
theorem operand_group (depth : Nat) {group : List Entry} (hne : group ≠ [])
    (h : ∀ e ∈ group, IsPlainOperator e.operator) :
    operand (opened (depth + 1)) (enclosed (groupLexemes group)) =
      .connected .and (group.map Entry.tree) := by
  have hoperands : ∀ piece ∈ group.map Entry.lexemes, IsOperand piece := by
    intro piece hpiece
    obtain ⟨e, he, rfl⟩ := List.mem_map.1 hpiece
    exact Entry.isOperand (h e he)
  have hlevel : Level (fun _ => True) (groupLexemes group) :=
    level_connected .and _ fun e he => Entry.isOperand (h e he)
  calc operand (opened (depth + 1)) (enclosed (groupLexemes group))
      = disjunction (opened depth) (groupLexemes group) := operand_enclose _ hlevel
    _ = .connected .and ((group.map Entry.lexemes).map (operand (opened depth))) :=
        disjunction_and (by simpa using hne) hoperands
    _ = .connected .and (group.map Entry.tree) := by
        rw [List.map_map]
        congr 1
        exact List.map_congr_left fun e _ => e.operand_eq _

/-- A condition means what it reads as, if parentheses are opened as deep as it needs. -/
theorem operand_eq (h : node.IsPlain) {depth : Nat} (hdepth : node.depth ≤ depth) :
    operand (opened depth) node.lexemes = node.tree := by
  cases node with
  | comparison e => exact e.operand_eq _
  | membership column operator values => exact operand_leaf _ (head_nameLexemes _ _)
  | check column operator => exact operand_leaf _ (head_nameLexemes _ _)
  | anyOf groups =>
      obtain ⟨depth, rfl⟩ := Nat.exists_eq_add_of_le' hdepth
      obtain ⟨hne, hgroups⟩ := h
      have hoperands : ∀ piece ∈ groups.map fun group => enclosed (groupLexemes group),
          IsOperand piece := by
        intro piece hpiece
        obtain ⟨group, hgroup, rfl⟩ := List.mem_map.1 hpiece
        exact Level.enclose
          (level_connected .and Entry.lexemes fun e he => Entry.isOperand ((hgroups group hgroup).2 e he))
      have hlevel := level_connected .or id hoperands
      rw [List.map_id] at hlevel
      calc operand (opened (depth + 2)) (Node.lexemes (.anyOf groups))
          = disjunction (opened (depth + 1)) ([Connective.or.lexeme].intercalate
              (groups.map fun group => enclosed (groupLexemes group))) := operand_enclose _ hlevel
        _ = .connected .or ((groups.map fun group => enclosed (groupLexemes group)).map
              (operand (opened (depth + 1)))) := disjunction_or (by simpa using hne) hoperands
        _ = Node.tree (.anyOf groups) := by
            rw [List.map_map]
            refine congrArg (Tree.connected .or) (List.map_congr_left fun group hgroup => ?_)
            exact operand_group depth (hgroups group hgroup).1 (hgroups group hgroup).2

/-- There are as many opening parentheses as the condition is deep. -/
theorem depth_le (h : node.IsPlain) : node.depth ≤ node.lexemes.countP Lexeme.isOpening := by
  cases node with
  | anyOf groups =>
      obtain ⟨group, groups, rfl⟩ := List.exists_cons_of_ne_nil h.1
      have hopening : Lexeme.isOpening .opening = true := rfl
      cases groups <;> simp [depth, lexemes, enclosed, List.intercalate_cons_cons, hopening]
  | _ => exact Nat.zero_le _

end Node

/-- What is put together with a glue has all its pieces in it. -/
theorem sublist_intercalate {α : Type} (glue : List α) {piece : List α} :
    ∀ {pieces : List (List α)}, piece ∈ pieces → piece.Sublist (glue.intercalate pieces)
  | [_], h => by
      rw [List.mem_singleton] at h
      simp [h]
  | first :: next :: pieces, h => by
      rw [List.intercalate_cons_cons]
      rcases List.mem_cons.1 h with rfl | h
      · rw [List.append_assoc]
        exact List.sublist_append_left _ _
      · exact (sublist_intercalate glue h).trans (List.sublist_append_right _ _)

/-- Conditions with AND between them mean their conjunction. -/
theorem read_conjunction {nodes : List Node} (hne : nodes ≠ []) (h : ∀ node ∈ nodes, node.IsPlain) :
    read ([Connective.and.lexeme].intercalate (nodes.map Node.lexemes)) =
      .connected .and (nodes.map Node.tree) := by
  have hoperands : ∀ piece ∈ nodes.map Node.lexemes, IsOperand piece := by
    intro piece hpiece
    obtain ⟨node, hnode, rfl⟩ := List.mem_map.1 hpiece
    exact Node.isOperand (h node hnode)
  rw [read, disjunction_and (by simpa using hne) hoperands, List.map_map]
  refine congrArg (Tree.connected .and) (List.map_congr_left fun node hnode => ?_)
  refine Node.operand_eq (h node hnode) (Nat.le_trans (Node.depth_le (h node hnode)) ?_)
  exact (sublist_intercalate _ (List.mem_map_of_mem hnode)).countP_le

/-! ## Texts -/

variable {f : Fragment} {node : Node}

theorem isUnquoted_operator {operator : String} (h : IsPlainOperator operator) :
    IsUnquoted operator.toList := fun c hc => ⟨(h.chars c hc).1, (h.chars c hc).2.1⟩

/-- A column, a blank and an operator, and what follows the operator. -/
theorem cuts_column {mark column operator : String} (hmark : Identifier.IsStandardMark mark)
    (hoperator : IsPlainOperator operator) {cs : List Char} {values : List Value} {ls : List Lexeme}
    (hapart : IsApart cs) (hcs : Cuts cs values ls) :
    Cuts ((Identifier.quoteName mark column).toList ++ ' ' :: (operator.toList ++ cs)) values
      (nameLexemes column ++ (lexemesOf operator.toList ++ ls)) := by
  have hwords := (cuts_unquoted (isUnquoted_operator hoperator)).append hapart hcs
  exact (cuts_quoteName hmark column).append (.cons (by decide) _)
    (Cuts.cons (c := ' ') (by decide) (by decide) hwords)

theorem isGlue_comma : IsGlue [',', ' '] [.symbol ','] := by
  refine ⟨⟨',', [' '], rfl, by decide⟩, fun ds more => ?_⟩
  rw [List.cons_append, scan_separator (by decide)]
  exact congrArg _ (scan_separator (c := ' ') (by decide) ds _)

theorem isGlue_and : IsGlue " AND ".toList [Connective.and.lexeme] :=
  ⟨⟨' ', _, rfl, by decide⟩, fun _ _ => rfl⟩

/-- Slots with commas between them take a value each. -/
theorem cuts_slots (values : List Value) :
    Cuts (", ".intercalate (values.map fun _ => "?")).toList values (slotLexemes values) := by
  have hslots := Cuts.intercalate isGlue_comma (fun value : Value => [value])
    (fun value => [.slot (some value)]) (List.forall₂_map_right_iff.2
      (List.forall₂_same.2 fun value (_ : value ∈ values) => Cuts.nil.cons_slot value))
  have hchars : (values.map fun _ => "?").map String.toList = values.map fun _ => ['?'] := by simp
  have hvalues : values.flatMap (fun value => [value]) = values := by simp
  rw [hvalues] at hslots
  rw [String.toList_intercalate, hchars]
  exact hslots

/-! ## Words with blanks between them -/

/-- Words that have certain lexemes together, and take certain values for them. -/
inductive CutsWords : List String → List Value → List Lexeme → Prop
  | nil : CutsWords [] [] []
  | cons {word : String} {words : List String} {values more : List Value} {ls ms : List Lexeme}
      (hword : Cuts word.toList values ls) (hwords : CutsWords words more ms) :
      CutsWords (word :: words) (values ++ more) (ls ++ ms)

namespace CutsWords

variable {words more : List String} {values us : List Value} {ls ms : List Lexeme}

theorem single {word : String} (h : Cuts word.toList values ls) : CutsWords [word] values ls := by
  simpa using cons h nil

theorem append (h : CutsWords words values ls) (hmore : CutsWords more us ms) :
    CutsWords (words ++ more) (values ++ us) (ls ++ ms) := by
  induction h with
  | nil => exact hmore
  | cons hword _ ih =>
      rw [List.append_assoc, List.append_assoc]
      exact .cons hword ih

/-- Groups of words with a word between them. -/
theorem intercalate {α : Type} {glue : String} {between : List Lexeme} (hglue : Cuts glue.toList [] between)
    {valuesOf : α → List Value} {lexemesOf : α → List Lexeme} {items : List α} {groups : List (List String)}
    (h : List.Forall₂ (fun a words => CutsWords words (valuesOf a) (lexemesOf a)) items groups) :
    CutsWords ([glue].intercalate groups) (items.flatMap valuesOf)
      (between.intercalate (items.map lexemesOf)) := by
  induction h with
  | nil => exact nil
  | @cons a words items groups hwords hrest ih =>
      cases hrest with
      | nil => simpa using hwords
      | @cons b next items groups _ _ =>
          rw [List.intercalate_cons_cons, List.map_cons, List.map_cons, List.intercalate_cons_cons,
            List.flatMap_cons, List.append_assoc, List.append_assoc]
          have hnext := cons hglue ih
          rw [List.nil_append] at hnext
          exact hwords.append hnext

/-- The text of the words. -/
theorem cuts (h : CutsWords words values ls) : Cuts (" ".intercalate words).toList values ls := by
  induction h with
  | nil => exact .nil
  | @cons word words values more ls ms hword hwords ih =>
      cases hwords with
      | nil => simpa using hword
      | @cons next words _ _ _ _ hnext hrest =>
          rw [String.toList_intercalate] at ih ⊢
          rw [List.map_cons, List.map_cons, List.intercalate_cons_cons, List.append_assoc]
          exact hword.append (.cons (by decide) _) (Cuts.cons (c := ' ') (by decide) (by decide) ih)

end CutsWords

theorem cutsWords_comparison {e : Entry} {c : Comparison} (h : e.WrittenAs c)
    (hoperator : IsPlainOperator e.operator) : CutsWords c.words [e.value] e.lexemes := by
  obtain ⟨mark, hmark, rfl⟩ := h
  have hslot : Cuts [' ', '?'] [e.value] [.slot (some e.value)] :=
    Cuts.cons (c := ' ') (by decide) (by decide) (Cuts.nil.cons_slot e.value)
  have hcompared := (cuts_unquoted (isUnquoted_operator hoperator)).append (.cons (by decide) _) hslot
  refine CutsWords.cons (cuts_quoteName hmark e.column) (.single ?_)
  rw [String.toList_append]
  exact hcompared

theorem values_eq {group : List Entry} {written : List Comparison}
    (h : List.Forall₂ Entry.WrittenAs group written) : group.map (·.value) = written.map (·.value) := by
  induction h with
  | nil => rfl
  | cons hfirst _ ih =>
      obtain ⟨mark, -, rfl⟩ := hfirst
      rw [List.map_cons, List.map_cons, ih]

theorem cutsWords_group {group : List Entry} {written : List Comparison}
    (h : List.Forall₂ Entry.WrittenAs group written) (hplain : ∀ e ∈ group, IsPlainOperator e.operator) :
    CutsWords (Fragment.groupWords written) (group.map (·.value)) (groupLexemes group) := by
  have hand : Cuts "AND".toList [] [Connective.and.lexeme] :=
    cuts_unquoted (show IsUnquoted "AND".toList by decide)
  have hwords : List.Forall₂ (fun (e : Entry) words => CutsWords words [e.value] e.lexemes) group
      (written.map Comparison.words) := by
    rw [List.forall₂_map_right_iff]
    refine ((List.forall₂_and_left group written).2 ⟨hplain, h⟩).imp fun e c hc => ?_
    exact cutsWords_comparison hc.2 hc.1
  rw [List.map_eq_flatMap]
  exact CutsWords.intercalate hand hwords

/-- Groups with the ends of parentheses between them are groups in parentheses. -/
theorem enclosed_intercalate (l : Lexeme) {pieces : List (List Lexeme)} (h : pieces ≠ []) :
    enclosed ([.closing, l, .opening].intercalate pieces) = [l].intercalate (pieces.map enclosed) := by
  induction pieces with
  | nil => exact absurd rfl h
  | cons piece pieces ih =>
      cases pieces with
      | nil => simp
      | cons next pieces =>
          have hrest := ih (by simp)
          simp only [List.map_cons, List.intercalate_cons_cons] at hrest ⊢
          rw [← hrest]
          simp [enclosed]

/-- The text of a condition has the lexemes of the condition, whatever marks it is written with. -/
theorem Node.cuts (h : node.WrittenAs f) (hplain : node.IsPlain) :
    ∃ s, f.text = .text s ∧ f.values = node.values ∧ Cuts s.toList node.values node.lexemes := by
  cases node with
  | comparison e =>
      obtain ⟨c, ⟨mark, hmark, rfl⟩, rfl⟩ := h
      refine ⟨_, rfl, rfl, ?_⟩
      have hslot : Cuts [' ', '?'] [e.value] [.slot (some e.value)] :=
        Cuts.cons (c := ' ') (by decide) (by decide) (Cuts.nil.cons_slot e.value)
      have hwhole : Cuts _ (Node.comparison e).values (Node.comparison e).lexemes :=
        cuts_column hmark hplain (.cons (by decide) _) hslot
      simpa using hwhole
  | membership column operator values =>
      obtain ⟨mark, hmark, rfl⟩ := h
      refine ⟨_, rfl, ?_, ?_⟩
      · simp [Fragment.membership, Placeholders.ofTerms, Term.value?, Function.comp_def, Node.values]
      · have hclosed : Cuts [')'] [] [.closing] := Cuts.cons (c := ')') (by decide) (by decide) .nil
        have hlist := (cuts_slots values).append (.cons (by decide) _) hclosed
        rw [List.append_nil] at hlist
        have hwhole : Cuts _ (Node.membership column operator values).values
            (Node.membership column operator values).lexemes :=
          cuts_column hmark hplain (.cons (by decide) _) (Cuts.cons (c := ' ') (by decide) (by decide)
            (Cuts.cons (c := '(') (by decide) (by decide) hlist))
        simpa [Placeholders.ofTerms, Function.comp_def, Term.text] using hwhole
  | check column operator =>
      obtain ⟨mark, hmark, rfl⟩ := h
      have hwhole : Cuts _ [] (nameLexemes column ++ (lexemesOf operator.toList ++ [])) :=
        cuts_column hmark hplain isApart_nil .nil
      rw [List.append_nil, List.append_nil] at hwhole
      refine ⟨_, rfl, rfl, ?_⟩
      show Cuts _ [] (nameLexemes column ++ lexemesOf operator.toList)
      simpa using hwhole
  | anyOf groups =>
      obtain ⟨written, hwritten, rfl⟩ := h
      obtain ⟨hne, hgroups⟩ := hplain
      have hopening : CutsWords ["(("] [] [.opening, .opening] := .single fun _ _ _ => rfl
      have hclosing : CutsWords ["))"] [] [.closing, .closing] := .single fun _ _ _ => rfl
      have hor : Cuts ") OR (".toList [] [.closing, Connective.or.lexeme, .opening] := fun _ _ _ => rfl
      have hall : List.Forall₂ (fun (group : List Entry) words =>
          CutsWords words (group.map (·.value)) (groupLexemes group)) groups
          (written.map Fragment.groupWords) := by
        rw [List.forall₂_map_right_iff]
        refine ((List.forall₂_and_left groups written).2 ⟨hgroups, hwritten⟩).imp fun group c hc => ?_
        exact cutsWords_group hc.2 hc.1.2
      have hwhole := ((hopening.append (CutsWords.intercalate hor hall)).append hclosing).cuts
      have hlexemes : Node.lexemes (.anyOf groups) = [.opening, .opening] ++
          [.closing, Connective.or.lexeme, .opening].intercalate (groups.map groupLexemes) ++
          [.closing, .closing] := by
        have hpieces : (groups.map fun group => enclosed (groupLexemes group)) =
            (groups.map groupLexemes).map enclosed := by simp
        rw [Node.lexemes, hpieces, ← enclosed_intercalate _ (by simpa using hne)]
        simp [enclosed]
      refine ⟨_, rfl, ?_, ?_⟩
      · exact (values_eq (List.rel_flatten hwritten)).symm
      · rw [hlexemes]
        simpa [Node.values, List.map_flatten, List.flatMap_def] using hwhole

/-! ## Values -/

theorem values_intercalate {glue : List Lexeme} (hglue : glue.flatMap Lexeme.values = [])
    (pieces : List (List Lexeme)) :
    (glue.intercalate pieces).flatMap Lexeme.values = pieces.flatMap (·.flatMap Lexeme.values) := by
  induction pieces with
  | nil => rfl
  | cons piece pieces ih =>
      cases pieces with
      | nil => simp
      | cons next pieces =>
          rw [List.intercalate_cons_cons, List.flatMap_append, List.flatMap_append, hglue, ih]
          simp

theorem values_nameLexemes (name : String) : (nameLexemes name).flatMap Lexeme.values = [] := by
  rw [nameLexemes, values_intercalate rfl, List.flatMap_map]
  refine List.flatMap_eq_nil_iff.2 fun part _ => ?_
  unfold partLexeme
  split <;> rfl

theorem values_lexemesOf {operator : String} (h : IsPlainOperator operator) :
    (lexemesOf operator.toList).flatMap Lexeme.values = [] :=
  List.flatMap_eq_nil_iff.2 fun _ hl => (mem_lexemesOf h hl).2.2

theorem values_slotLexemes (values : List Value) : (slotLexemes values).flatMap Lexeme.values = values := by
  rw [slotLexemes, values_intercalate rfl, List.flatMap_map]
  simp [Lexeme.values]

namespace Node

/-- The slots of a condition take its values, in order. -/
theorem values_tree (h : node.IsPlain) : node.tree.values = node.values := by
  have hentry : ∀ e : Entry, IsPlainOperator e.operator → e.tree.values = [e.value] := by
    intro e he
    simp [Entry.tree, Entry.lexemes, values_nameLexemes, values_lexemesOf he, Lexeme.values]
  cases node with
  | comparison e => exact hentry e h
  | membership column operator values =>
      simp [tree, lexemes, enclosed, values_nameLexemes, values_lexemesOf h, values_slotLexemes,
        Lexeme.values, Lexeme.opening, Lexeme.closing, Node.values]
  | check column operator => simp [tree, lexemes, values_nameLexemes, values_lexemesOf h, Node.values]
  | anyOf groups =>
      have hgroup : ∀ group ∈ groups,
          (Tree.connected .and (group.map Entry.tree)).values = group.map (·.value) := by
        intro group hgroup
        rw [Tree.values_connected, List.flatMap_map, List.map_eq_flatMap]
        exact List.flatMap_congr fun e he => hentry e ((h.2 group hgroup).2 e he)
      rw [tree, Tree.values_connected, List.flatMap_map, Node.values, List.map_flatten, List.flatMap_def]
      exact congrArg List.flatten (List.map_congr_left hgroup)

end Node

/-! ## The clause -/

/-- The texts of conditions and their values, one by one. -/
theorem cuts_conditions {nodes : List Node} {fragments : List Fragment}
    (hplain : ∀ node ∈ nodes, node.IsPlain)
    (h : List.Forall₂ (fun node f => node.WrittenAs f) nodes fragments) :
    ∃ texts, Query.fragmentTexts fragments = .ok texts ∧
      Query.boundValues fragments = nodes.flatMap Node.values ∧
      List.Forall₂ (fun node text => Cuts text.toList node.values node.lexemes) nodes texts := by
  induction h with
  | nil => exact ⟨[], rfl, rfl, .nil⟩
  | @cons node f nodes fragments hfirst _ ih =>
      obtain ⟨s, htext, hvalues, hcuts⟩ := Node.cuts hfirst (hplain node List.mem_cons_self)
      obtain ⟨texts, htexts, hmore, hrest⟩ := ih fun n hn => hplain n (List.mem_cons_of_mem _ hn)
      refine ⟨s :: texts, ?_, ?_, .cons hcuts hrest⟩
      · unfold Query.fragmentTexts Piece.texts? at htexts ⊢
        rw [List.map_cons, List.mapM_cons, htexts, htext]
        rfl
      · rw [Query.boundValues, List.flatMap_cons, hvalues, List.flatMap_cons]
        exact congrArg _ hmore

/-- **A condition clause means the conjunction of its conditions,** and its slots take their values in
order. -/
theorem read_conditionClause {nodes : List Node} {q : Query} (kind : ConditionKind) (hne : nodes ≠ [])
    (hplain : ∀ node ∈ nodes, node.IsPlain)
    (h : List.Forall₂ (fun node f => node.WrittenAs f) nodes (q.conditions kind)) :
    ∃ text, q.conditionClause kind = .ok (kind.keyword ++ " " ++ text) ∧
      read (lexemes text (Query.boundValues (q.conditions kind))) =
        .connected .and (nodes.map Node.tree) ∧
      (Tree.connected .and (nodes.map Node.tree)).values = Query.boundValues (q.conditions kind) := by
  obtain ⟨texts, htexts, hvalues, hcuts⟩ := cuts_conditions hplain h
  have htext : (" AND ".intercalate texts).toList =
      " AND ".toList.intercalate (texts.map String.toList) := String.toList_intercalate
  have hwhole := Cuts.intercalate isGlue_and _ _ (List.forall₂_map_right_iff.2 hcuts)
  rw [← htext, ← hvalues] at hwhole
  refine ⟨" AND ".intercalate texts, ?_, ?_, ?_⟩
  · have hsome : texts.isEmpty = false := by
      obtain ⟨node, nodes, rfl⟩ := List.exists_cons_of_ne_nil hne
      obtain ⟨text, rest, -, -, rfl⟩ := List.forall₂_cons_left_iff.1 hcuts
      rfl
    rw [Query.conditionClause, htexts]
    show Except.ok (Query.listClause kind.keyword " AND " texts) = _
    rw [Query.listClause, if_neg (by simp [hsome])]
  · rw [lexemes, hwhole.scan_eq, read_conjunction hne hplain]
  · rw [Tree.values_connected, List.flatMap_map, hvalues]
    exact List.flatMap_congr fun node hnode => Node.values_tree (hplain node hnode)

end FluentSql.Search
