import FluentSql.Proofs.Condition.Lexemes
/-
# FluentSql.Proofs.Condition.Precedence — how SQL reads a condition.

The lexemes of a condition are read with the precedence of SQL: parentheses bind strongest, then AND, then
OR. Parentheses that do not enclose a whole operand, such as those around a list of values, belong to the
operand.

A connective is found only outside parentheses, so lexemes whose parentheses match can be passed over
without looking at them (`parts_append`, `untilClosed_append`). Operands that are put together with AND or
OR between them are found again (`disjunction_and`, `disjunction_or`), in parentheses as well
(`Reads.enclose`).
-/

namespace FluentSql.Search

/-! ## Parentheses -/

namespace Lexeme

/-- The opening parenthesis. -/
def opening : Lexeme := .symbol '('

/-- The closing parenthesis. -/
def closing : Lexeme := .symbol ')'

/-- Whether the lexeme is the opening parenthesis. -/
def isOpening : Lexeme → Bool
  | .symbol c => c == '('
  | _ => false

/-- Whether the lexeme is the closing parenthesis. -/
def isClosing : Lexeme → Bool
  | .symbol c => c == ')'
  | _ => false

/-- How many parentheses are open behind the lexeme, by how many are before it. -/
def depthAfter (depth : Nat) (l : Lexeme) : Nat :=
  if l.isOpening then depth + 1 else if l.isClosing then depth - 1 else depth

/-- The values of a slot. -/
def values : Lexeme → List Value
  | .slot value => value.toList
  | _ => []

end Lexeme

/-! ## Precedence -/

/-- The words that connect conditions. -/
inductive Connective where
  | and
  | or
  deriving Repr, DecidableEq

/-- The letters of the connective. -/
def Connective.letters : Connective → List Char
  | .and => ['A', 'N', 'D']
  | .or => ['O', 'R']

/-- Whether a word is the connective. Case does not matter. -/
def Connective.isWord (c : Connective) (cs : List Char) : Bool := cs.map Char.toUpper == c.letters

/-- Whether a lexeme is the connective. -/
def Connective.isLexeme (c : Connective) : Lexeme → Bool
  | .word cs => c.isWord cs
  | _ => false

/-- The connective as it is written. -/
def Connective.lexeme (c : Connective) : Lexeme := .word c.letters

/-- The pieces between the connectives that stand outside parentheses, with so many of them open. -/
def parts (c : Connective) : Nat → List Lexeme → List (List Lexeme)
  | _, [] => [[]]
  | depth, l :: ls =>
    if depth = 0 ∧ c.isLexeme l then [] :: parts c 0 ls
    else (parts c (l.depthAfter depth) ls).modifyHead (l :: ·)

/-- What stands before the parenthesis that closes one more than are open, if nothing is behind it. -/
def untilClosed : Nat → List Lexeme → Option (List Lexeme)
  | _, [] => none
  | depth, l :: ls =>
    if depth = 0 ∧ l.isClosing then if ls.isEmpty then some [] else none
    else (untilClosed (l.depthAfter depth) ls).map (l :: ·)

/-- What stands inside the parentheses, if one pair of them encloses everything. -/
def enclosed? : List Lexeme → Option (List Lexeme)
  | [] => none
  | l :: ls => if l.isOpening then untilClosed 0 ls else none

/-- What a condition means. -/
inductive Tree where
  /-- A comparison, or whatever else has no connective. -/
  | leaf (ls : List Lexeme)
  | all (trees : List Tree)
  | any (trees : List Tree)
  deriving Repr, Inhabited

/-- Several conditions connected; one stands for itself. -/
def Tree.connected (c : Connective) : List Tree → Tree
  | [tree] => tree
  | trees =>
    match c with
    | .and => .all trees
    | .or => .any trees

/-- An operand, by what is known of what its parentheses enclose. -/
def operand (inside : List Lexeme → Tree) (ls : List Lexeme) : Tree :=
  match enclosed? ls with
  | some mid => inside mid
  | none => .leaf ls

/-- A condition, by what is known of what its parentheses enclose. -/
def disjunction (inside : List Lexeme → Tree) (ls : List Lexeme) : Tree :=
  .connected .or ((parts .or 0 ls).map fun part =>
    .connected .and ((parts .and 0 part).map (operand inside)))

/-- What parentheses enclose, with parentheses in it opened up to a depth. -/
def opened : Nat → List Lexeme → Tree
  | 0 => .leaf
  | depth + 1 => disjunction (opened depth)

/-- A condition as SQL reads it. Parentheses are nested no deeper than there are opening ones. -/
def read (ls : List Lexeme) : Tree := disjunction (opened (ls.countP Lexeme.isOpening)) ls

mutual

/-- The values of the slots, in reading order. -/
def Tree.values : Tree → List Value
  | .leaf ls => ls.flatMap Lexeme.values
  | .all trees => valuesOfAll trees
  | .any trees => valuesOfAll trees

/-- The values of the slots of several conditions. -/
def valuesOfAll : List Tree → List Value
  | [] => []
  | tree :: trees => tree.values ++ valuesOfAll trees

end

theorem valuesOfAll_eq (trees : List Tree) : valuesOfAll trees = trees.flatMap Tree.values := by
  induction trees with
  | nil => rfl
  | cons tree trees ih => rw [valuesOfAll, ih, List.flatMap_cons]

@[simp] theorem Tree.values_leaf (ls : List Lexeme) : (Tree.leaf ls).values = ls.flatMap Lexeme.values := by
  rw [Tree.values]

@[simp] theorem Tree.values_connected (c : Connective) (trees : List Tree) :
    (Tree.connected c trees).values = trees.flatMap Tree.values := by
  unfold Tree.connected
  split
  · simp
  · cases c <;> simp only [Tree.values, valuesOfAll_eq]

/-! ## Passing over matching parentheses -/

/-- Lexemes whose parentheses match, and which have a property where they stand outside parentheses. -/
inductive Level : (Lexeme → Prop) → List Lexeme → Prop
  | nil {p : Lexeme → Prop} : Level p []
  | cons {p : Lexeme → Prop} {l : Lexeme} {ls : List Lexeme} (hopening : l.isOpening = false)
      (hclosing : l.isClosing = false) (hp : p l) (hls : Level p ls) : Level p (l :: ls)
  | group {p : Lexeme → Prop} {inner ls : List Lexeme} (hinner : Level (fun _ => True) inner)
      (hls : Level p ls) : Level p (.opening :: (inner ++ .closing :: ls))

namespace Level

variable {p q : Lexeme → Prop} {ls ms rest : List Lexeme} {c : Connective} {depth : Nat}

theorem append (hls : Level p ls) (hms : Level p ms) : Level p (ls ++ ms) := by
  induction hls with
  | nil => exact hms
  | cons hopening hclosing hp _ ih => exact .cons hopening hclosing hp (ih hms)
  | group hinner _ _ ih =>
      rw [List.cons_append, List.append_assoc, List.cons_append]
      exact .group hinner (ih hms)

theorem mono (hls : Level p ls) (hpq : ∀ l, p l → q l) : Level q ls := by
  induction hls with
  | nil => exact .nil
  | cons hopening hclosing hp _ ih => exact .cons hopening hclosing (hpq _ hp) (ih hpq)
  | group hinner _ _ ih => exact .group hinner (ih hpq)

theorem any (hls : Level p ls) : Level (fun _ => True) ls := hls.mono fun _ _ => trivial

/-- Lexemes in parentheses. -/
theorem enclose (hls : Level p ls) : Level q (.opening :: (ls ++ [.closing])) := .group hls.any .nil

/-- Lexemes without parentheses. -/
theorem of_forall (h : ∀ l ∈ ls, l.isOpening = false ∧ l.isClosing = false ∧ p l) : Level p ls := by
  induction ls with
  | nil => exact .nil
  | cons l ls ih =>
      obtain ⟨hopening, hclosing, hp⟩ := h l List.mem_cons_self
      exact .cons hopening hclosing hp (ih fun m hm => h m (List.mem_cons_of_mem _ hm))

end Level

variable {p : Lexeme → Prop} {ls rest : List Lexeme} {c : Connective}

theorem parts_ne_nil (c : Connective) (depth : Nat) (ls : List Lexeme) : parts c depth ls ≠ [] := by
  cases ls with
  | nil => simp [parts]
  | cons l ls =>
      rw [parts]
      split
      · simp
      · simpa using parts_ne_nil c _ ls

theorem depthAfter_of_not {l : Lexeme} (hopening : l.isOpening = false) (hclosing : l.isClosing = false)
    (depth : Nat) : l.depthAfter depth = depth := by
  simp [Lexeme.depthAfter, hopening, hclosing]

/-- A connective is found neither inside parentheses nor where no lexeme is one. -/
theorem parts_append (hls : Level p ls) {depth : Nat} (hp : depth = 0 → ∀ l, p l → c.isLexeme l = false) :
    parts c depth (ls ++ rest) = (parts c depth rest).modifyHead (ls ++ ·) := by
  induction hls generalizing depth rest with
  | nil =>
      obtain ⟨part, more, hparts⟩ := List.exists_cons_of_ne_nil (parts_ne_nil c depth rest)
      simp [hparts]
  | @cons p l ls hopening hclosing hl hls ih =>
      have hnone : ¬(depth = 0 ∧ c.isLexeme l) := fun ⟨hdepth, hlexeme⟩ => by
        simp [hp hdepth l hl] at hlexeme
      rw [List.cons_append, parts, if_neg hnone, depthAfter_of_not hopening hclosing, ih hp,
        List.modifyHead_modifyHead]
      rfl
  | @group p inner ls hinner hls ihinner ihls =>
      -- The connectives of the group are deeper, and behind it the depth is the same as before.
      have hopened : ¬(depth = 0 ∧ c.isLexeme .opening) := by simp [Connective.isLexeme, Lexeme.opening]
      have hclosed : ¬(depth + 1 = 0 ∧ c.isLexeme .closing) := by simp
      rw [List.cons_append, parts, if_neg hopened]
      show (parts c (depth + 1) _).modifyHead _ = _
      rw [List.append_assoc, ihinner (by simp), List.cons_append, parts, if_neg hclosed]
      show (List.modifyHead _ ((parts c depth _).modifyHead _)).modifyHead _ = _
      rw [ihls hp]
      simp only [List.modifyHead_modifyHead]
      congr 1
      funext part
      simp

/-- Pieces without the connective are found again between the connectives. -/
theorem parts_intercalate {pieces : List (List Lexeme)} (hne : pieces ≠ [])
    (h : ∀ piece ∈ pieces, Level (fun l => c.isLexeme l = false) piece) :
    parts c 0 ([c.lexeme].intercalate pieces) = pieces := by
  induction pieces with
  | nil => exact absurd rfl hne
  | cons piece pieces ih =>
      have hpiece := h piece List.mem_cons_self
      cases pieces with
      | nil =>
          have halone : parts c 0 (piece ++ []) = (parts c 0 []).modifyHead (piece ++ ·) :=
            parts_append hpiece fun _ _ hl => hl
          simpa [parts] using halone
      | cons next pieces =>
          have hconnective : c.isLexeme c.lexeme = true := by cases c <;> decide
          rw [List.intercalate_cons_cons, List.append_assoc, parts_append hpiece fun _ _ hl => hl,
            List.singleton_append, parts, if_pos ⟨rfl, hconnective⟩,
            ih (by simp) fun piece hp => h piece (List.mem_cons_of_mem _ hp)]
          simp

theorem untilClosed_append (hls : Level p ls) (depth : Nat) :
    untilClosed depth (ls ++ rest) = (untilClosed depth rest).map (ls ++ ·) := by
  induction hls generalizing depth rest with
  | nil => simp
  | @cons p l ls hopening hclosing hl hls ih =>
      rw [List.cons_append, untilClosed, if_neg (by simp [hclosing]), depthAfter_of_not hopening hclosing,
        ih, Option.map_map]
      rfl
  | @group p inner ls hinner hls ihinner ihls =>
      rw [List.cons_append, untilClosed, if_neg (by simp [Lexeme.isClosing, Lexeme.opening])]
      show (untilClosed (depth + 1) _).map _ = _
      rw [List.append_assoc, ihinner, List.cons_append, untilClosed, if_neg (by simp)]
      show (((untilClosed depth _).map _).map _).map _ = _
      rw [ihls]
      simp only [Option.map_map]
      congr 1
      funext mid
      simp

/-- What was put in parentheses is found in them. -/
theorem enclosed?_enclose (hls : Level p ls) :
    enclosed? (.opening :: (ls ++ [.closing])) = some ls := by
  have hclosed : untilClosed 0 [.closing] = some [] := rfl
  show untilClosed 0 (ls ++ [.closing]) = _
  rw [untilClosed_append hls, hclosed]
  simp

theorem operand_enclose (inside : List Lexeme → Tree) (hls : Level p ls) :
    operand inside (.opening :: (ls ++ [.closing])) = inside ls := by
  rw [operand, enclosed?_enclose hls]

/-- What does not start with a parenthesis is an operand as it is. -/
theorem operand_leaf (inside : List Lexeme → Tree) (h : ∀ l ∈ ls.head?, l.isOpening = false) :
    operand inside ls = .leaf ls := by
  have hnone : enclosed? ls = none := by
    cases ls with
    | nil => rfl
    | cons l ls => simp [enclosed?, h l (by simp)]
  rw [operand, hnone]

/-! ## Reading what was put together -/

/-- The lexeme is no connective. -/
def IsPlain (l : Lexeme) : Prop := Connective.and.isLexeme l = false ∧ Connective.or.isLexeme l = false

instance : DecidablePred IsPlain := fun l =>
  inferInstanceAs (Decidable (Connective.and.isLexeme l = false ∧ Connective.or.isLexeme l = false))

/-- What can stand between connectives: its parentheses match, and outside of them there is none. -/
def IsOperand (ls : List Lexeme) : Prop := Level IsPlain ls

theorem IsOperand.lacks (h : IsOperand ls) (c : Connective) : Level (fun l => c.isLexeme l = false) ls :=
  h.mono fun _ hl => by
    cases c
    · exact hl.1
    · exact hl.2

theorem Level.intercalate {glue : List Lexeme} (hglue : Level p glue) {pieces : List (List Lexeme)}
    (h : ∀ piece ∈ pieces, Level p piece) : Level p (glue.intercalate pieces) := by
  induction pieces with
  | nil => exact .nil
  | cons piece pieces ih =>
      have hpiece := h piece List.mem_cons_self
      cases pieces with
      | nil => simpa using hpiece
      | cons next pieces =>
          have hrest := ih fun piece hp => h piece (List.mem_cons_of_mem _ hp)
          rw [List.intercalate_cons_cons]
          exact (hpiece.append hglue).append hrest

variable {inside : List Lexeme → Tree} {pieces : List (List Lexeme)}

/-- Operands with AND between them read as their conjunction. -/
theorem disjunction_and (hne : pieces ≠ []) (h : ∀ piece ∈ pieces, IsOperand piece) :
    disjunction inside ([Connective.and.lexeme].intercalate pieces) =
      .connected .and (pieces.map (operand inside)) := by
  have hand : Level (fun l => Connective.or.isLexeme l = false) [Connective.and.lexeme] :=
    .of_forall (by decide)
  have hwhole := hand.intercalate fun piece hp => (h piece hp).lacks .or
  have hor : parts .or 0 ([Connective.or.lexeme].intercalate [[Connective.and.lexeme].intercalate pieces]) =
      [[Connective.and.lexeme].intercalate pieces] :=
    parts_intercalate (by simp) fun piece hp => List.mem_singleton.1 hp ▸ hwhole
  rw [List.intercalate_singleton] at hor
  rw [disjunction, hor, List.map_singleton, parts_intercalate hne fun piece hp => (h piece hp).lacks .and]
  rfl

/-- Operands with OR between them read as their disjunction. -/
theorem disjunction_or (hne : pieces ≠ []) (h : ∀ piece ∈ pieces, IsOperand piece) :
    disjunction inside ([Connective.or.lexeme].intercalate pieces) =
      .connected .or (pieces.map (operand inside)) := by
  rw [disjunction, parts_intercalate hne fun piece hp => (h piece hp).lacks .or]
  congr 1
  refine List.map_congr_left fun piece hp => ?_
  -- An operand has no AND either, so it is the only one of its part.
  have hand : parts .and 0 ([Connective.and.lexeme].intercalate [piece]) = [piece] :=
    parts_intercalate (by simp) fun piece' hp' => List.mem_singleton.1 hp' ▸ (h piece hp).lacks .and
  rw [List.intercalate_singleton] at hand
  rw [hand]
  rfl

end FluentSql.Search
