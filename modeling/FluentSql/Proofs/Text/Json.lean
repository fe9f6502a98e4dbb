import FluentSql.Text.Json
import Mathlib.Algebra.GroupWithZero.Nat
import Mathlib.Data.List.Basic
/-
# FluentSql.Proofs.Text.Json — JSON texts can be told apart, also behind other texts.

A code writes things as texts. It is prefix-free if what was written can be told from what comes behind it,
whatever that is. Writing things one after the other, up to a character that none of them starts with, is
prefix-free again, with or without separators between them. A JSON text is read off the front of whatever it stands in
front of, so arrays and objects that are written alike hold the same texts.

Behind a colon in an array or object no other array or object begins that ends where the first one does:
`Place` follows a reader that is outside of the strings at the end of the first, and inside of one at the
end of the second (`not_isDocument_of_append_colon`).
-/

namespace FluentSql.Text

/-! ## Codes that can be read off the front -/

section

variable {α β : Type}

/-- Nothing that is written goes on as something else that is written. -/
def IsPrefixFree (code : α → List Char) : Prop :=
  ∀ a b rest more, code a ++ rest = code b ++ more → a = b ∧ rest = more

/-- Nothing that is written starts with the character, and nothing is written as the empty text. -/
def Avoids (code : α → List Char) (c : Char) : Prop := ∀ a rest more, code a ++ rest ≠ c :: more

theorem intercalate_map_cons (glue : List Char) (code : α → List Char) (a : α) (items : List α) :
    glue.intercalate ((a :: items).map code) = code a ++ items.flatMap fun b => glue ++ code b := by
  induction items generalizing a with
  | nil => simp
  | cons b items ih =>
      rw [List.map_cons, List.map_cons, List.intercalate_cons_cons, ← List.map_cons, ih,
        List.flatMap_cons, List.append_assoc, List.append_assoc]

namespace IsPrefixFree

variable {code : α → List Char}

theorem injective (h : IsPrefixFree code) : Function.Injective code := by
  intro a b hab
  exact (h a b [] [] (by rw [hab])).1

/-- A fixed text in front. -/
theorem prefixed (h : IsPrefixFree code) (front : List Char) :
    IsPrefixFree fun a => front ++ code a := by
  intro a b rest more heq
  simp only [List.append_assoc] at heq
  exact h a b rest more (List.append_cancel_left heq)

/-- One word behind another, with a fixed text between them. -/
theorem pair (h : IsPrefixFree code) {code' : β → List Char} (h' : IsPrefixFree code')
    (glue : List Char) : IsPrefixFree fun e : α × β => code e.1 ++ (glue ++ code' e.2) := by
  rintro ⟨a, b⟩ ⟨c, d⟩ rest more heq
  simp only [List.append_assoc] at heq
  obtain ⟨rfl, hbehind⟩ := h a c _ _ heq
  obtain ⟨rfl, hrest⟩ := h' b d _ _ (List.append_cancel_left hbehind)
  exact ⟨rfl, hrest⟩

/-- Words one after the other, up to a character that no word starts with. -/
theorem flatMap (h : IsPrefixFree code) {close : Char} (hclose : Avoids code close) :
    IsPrefixFree fun items : List α => items.flatMap code ++ [close] := by
  intro items others rest more
  simp only [List.append_assoc, List.singleton_append]
  -- The words are compared one by one from the front.
  induction items generalizing others with
  | nil =>
      cases others with
      | nil => simp
      | cons other others =>
          intro heq
          simp only [List.flatMap_nil, List.nil_append, List.flatMap_cons, List.append_assoc] at heq
          exact absurd heq.symm (hclose other _ _)
  | cons item items ih =>
      cases others with
      | nil =>
          intro heq
          simp only [List.flatMap_nil, List.nil_append, List.flatMap_cons, List.append_assoc] at heq
          exact absurd heq (hclose item _ _)
      | cons other others =>
          intro heq
          simp only [List.flatMap_cons, List.append_assoc] at heq
          obtain ⟨rfl, hbehind⟩ := h item other _ _ heq
          obtain ⟨rfl, hrest⟩ := ih others hbehind
          exact ⟨rfl, hrest⟩

/-- Words with separators between them, up to a character that no word and no separator starts with. -/
theorem intercalate (h : IsPrefixFree code) {close comma : Char} (hclose : Avoids code close)
    (hcomma : comma ≠ close) (blanks : List Char) :
    IsPrefixFree fun items : List α => (comma :: blanks).intercalate (items.map code) ++ [close] := by
  -- Behind the first word each word has a separator in front.
  have hrest : IsPrefixFree fun items : List α =>
      items.flatMap (fun a => (comma :: blanks) ++ code a) ++ [close] := by
    refine (h.prefixed (comma :: blanks)).flatMap fun a rest more heq => ?_
    exact hcomma (List.head_eq_of_cons_eq heq)
  intro items others rest more heq
  simp only [List.append_assoc, List.singleton_append] at heq
  match items, others with
  | [], [] => exact ⟨rfl, List.tail_eq_of_cons_eq heq⟩
  | [], other :: others =>
      rw [intercalate_map_cons, List.append_assoc] at heq
      exact absurd heq.symm (hclose other _ _)
  | item :: items, [] =>
      rw [intercalate_map_cons, List.append_assoc] at heq
      exact absurd heq (hclose item _ _)
  | item :: items, other :: others =>
      rw [intercalate_map_cons, intercalate_map_cons, List.append_assoc, List.append_assoc] at heq
      obtain ⟨rfl, hbehind⟩ := h item other _ _ heq
      obtain ⟨rfl, hend⟩ := hrest items others rest more (by simpa using hbehind)
      exact ⟨rfl, hend⟩

end IsPrefixFree

end

/-! ## Hexadecimal digits -/

theorem eq_of_hexDigit_eq : ∀ n < 16, ∀ m < 16, hexDigit n = hexDigit m → n = m := by decide

theorem hexDigit_ne : ∀ n < 16, hexDigit n ≠ '\x22' ∧ hexDigit n ≠ '\x5c' := by decide

theorem eq_of_hexDigits_eq {width n m : Nat} (hn : n < 16 ^ width) (hm : m < 16 ^ width)
    (h : hexDigits width n = hexDigits width m) : n = m := by
  induction width generalizing n m with
  | zero => omega
  | succ width ih =>
      rw [Nat.pow_succ] at hn hm
      obtain ⟨hfront, hlast⟩ := List.append_inj' h rfl
      have hhigh : n / 16 = m / 16 := ih (by omega) (by omega) hfront
      have hlow : n % 16 = m % 16 :=
        eq_of_hexDigit_eq _ (Nat.mod_lt _ (by decide)) _ (Nat.mod_lt _ (by decide))
          (List.head_eq_of_cons_eq hlast)
      omega

namespace Json

/-! ## Characters -/

/-- The escape of a 16-bit unit. -/
def escapeUnit (unit : Nat) : List Char := '\x5c' :: 'u' :: hexDigits 4 unit

/-- The characters that are escaped by a letter, with their letters. -/
def letterEscapes : List (Char × Char) :=
  [('\x22', '\x22'), ('\x5c', '\x5c'), ('\n', 'n'), ('\r', 'r'), ('\t', 't'), ('\x08', 'b'),
    ('\x0c', 'f')]

theorem escapeChar_cases (c : Char) :
    (escapeChar c = [c] ∧ c ≠ '\x22' ∧ c ≠ '\x5c') ∨
      (∃ letter, (c, letter) ∈ letterEscapes ∧ escapeChar c = ['\x5c', letter]) ∨
      escapeChar c = (units c.toNat).flatMap escapeUnit := by
  by_cases hquote : c = '\x22'
  · subst hquote
    exact .inr (.inl ⟨'\x22', by decide, by decide⟩)
  by_cases hbackslash : c = '\x5c'
  · subst hbackslash
    exact .inr (.inl ⟨'\x5c', by decide, by decide⟩)
  by_cases hletter : c = '\n' ∨ c = '\r' ∨ c = '\t' ∨ c = '\x08' ∨ c = '\x0c'
  · refine .inr (.inl ?_)
    rcases hletter with rfl | rfl | rfl | rfl | rfl
    · exact ⟨'n', by decide, by decide⟩
    · exact ⟨'r', by decide, by decide⟩
    · exact ⟨'t', by decide, by decide⟩
    · exact ⟨'b', by decide, by decide⟩
    · exact ⟨'f', by decide, by decide⟩
  · simp only [not_or] at hletter
    by_cases hshown : 0x20 ≤ c.toNat ∧ c.toNat < 0x7F
    · refine .inl ⟨?_, hquote, hbackslash⟩
      simp [escapeChar, hquote, hbackslash, hletter, hshown]
    · have hunits : escapeChar c =
          (units c.toNat).flatMap fun unit => '\x5c' :: 'u' :: hexDigits 4 unit := by
        simp [escapeChar, hquote, hbackslash, hletter, hshown]
      exact .inr (.inr hunits)

theorem letterEscapes_inj :
    ∀ e ∈ letterEscapes, ∀ f ∈ letterEscapes, e.2 = f.2 → e.1 = f.1 := by decide

theorem letterEscapes_letter : ∀ e ∈ letterEscapes, e.2 ≠ 'u' ∧ e.2 ≠ ':' := by decide

theorem isPrefixFree_escapeUnit {n m : Nat} (hn : n < 0x10000) (hm : m < 0x10000)
    {rest more : List Char} (h : escapeUnit n ++ rest = escapeUnit m ++ more) :
    n = m ∧ rest = more := by
  simp only [escapeUnit, List.cons_append] at h
  have hdigits := List.tail_eq_of_cons_eq (List.tail_eq_of_cons_eq h)
  obtain ⟨hunit, hrest⟩ :=
    List.append_inj hdigits ((length_hexDigits 4 n).trans (length_hexDigits 4 m).symm)
  exact ⟨eq_of_hexDigits_eq hn hm hunit, hrest⟩

/-- A code point is no surrogate half. -/
theorem toNat_valid (c : Char) : c.toNat < 0xD800 ∨ 0xDFFF < c.toNat ∧ c.toNat < 0x110000 := c.valid

theorem eq_of_units_append {c d : Char} {rest more : List Char}
    (h : (units c.toNat).flatMap escapeUnit ++ rest = (units d.toNat).flatMap escapeUnit ++ more) :
    c = d ∧ rest = more := by
  have hc := toNat_valid c
  have hd := toNat_valid d
  have hchar : c.toNat = d.toNat → c = d := fun heq => Char.ext (UInt32.toNat_inj.1 heq)
  by_cases hlowc : c.toNat < 0x10000 <;> by_cases hlowd : d.toNat < 0x10000 <;>
    simp only [units, hlowc, hlowd, if_true, if_false, List.flatMap_cons, List.flatMap_nil,
      List.append_nil, List.append_assoc] at h
  · obtain ⟨hunit, hrest⟩ := isPrefixFree_escapeUnit hlowc hlowd h
    exact ⟨hchar hunit, hrest⟩
  · -- The first half of a pair is the code of no character.
    obtain ⟨hunit, -⟩ := isPrefixFree_escapeUnit hlowc (by omega) h
    omega
  · obtain ⟨hunit, -⟩ := isPrefixFree_escapeUnit (by omega) hlowd h
    omega
  · obtain ⟨hhigh, hbehind⟩ := isPrefixFree_escapeUnit (by omega) (by omega) h
    obtain ⟨hlow, hrest⟩ := isPrefixFree_escapeUnit (by omega) (by omega) hbehind
    exact ⟨hchar (by omega), hrest⟩

theorem units_flatMap_eq_cons (n : Nat) :
    ∃ rest, (units n).flatMap escapeUnit = '\x5c' :: 'u' :: rest := by
  unfold units
  split
  · exact ⟨_, rfl⟩
  · exact ⟨_, rfl⟩

theorem isPrefixFree_escapeChar : IsPrefixFree escapeChar := by
  intro c d rest more h
  rcases escapeChar_cases c with ⟨hc, -, hbackslash⟩ | ⟨letter, hletter, hc⟩ | hc <;>
    rcases escapeChar_cases d with ⟨hd, -, hbackslash'⟩ | ⟨letter', hletter', hd⟩ | hd <;>
    rw [hc, hd] at h
  · exact ⟨List.head_eq_of_cons_eq h, List.tail_eq_of_cons_eq h⟩
  · exact absurd (List.head_eq_of_cons_eq h) hbackslash
  · obtain ⟨tail, htail⟩ := units_flatMap_eq_cons d.toNat
    rw [htail] at h
    exact absurd (List.head_eq_of_cons_eq h) hbackslash
  · exact absurd (List.head_eq_of_cons_eq h).symm hbackslash'
  · have hbehind := List.tail_eq_of_cons_eq h
    refine ⟨?_, List.tail_eq_of_cons_eq hbehind⟩
    exact letterEscapes_inj _ hletter _ hletter' (List.head_eq_of_cons_eq hbehind)
  · obtain ⟨tail, htail⟩ := units_flatMap_eq_cons d.toNat
    rw [htail] at h
    exact absurd (List.head_eq_of_cons_eq (List.tail_eq_of_cons_eq h))
      (letterEscapes_letter _ hletter).1
  · obtain ⟨tail, htail⟩ := units_flatMap_eq_cons c.toNat
    rw [htail] at h
    exact absurd (List.head_eq_of_cons_eq h).symm hbackslash'
  · obtain ⟨tail, htail⟩ := units_flatMap_eq_cons c.toNat
    rw [htail] at h
    exact absurd (List.head_eq_of_cons_eq (List.tail_eq_of_cons_eq h)).symm
      (letterEscapes_letter _ hletter').1
  · exact eq_of_units_append h

theorem avoids_escapeChar : Avoids escapeChar '\x22' := by
  intro c rest more h
  rcases escapeChar_cases c with ⟨hc, hquote, -⟩ | ⟨letter, -, hc⟩ | hc
  · rw [hc] at h
    exact hquote (List.head_eq_of_cons_eq h)
  · rw [hc] at h
    exact absurd (List.head_eq_of_cons_eq h) (by decide)
  · obtain ⟨tail, htail⟩ := units_flatMap_eq_cons c.toNat
    rw [hc, htail] at h
    exact absurd (List.head_eq_of_cons_eq h) (by decide)

/-! ## Texts, arrays and objects -/

theorem isPrefixFree_string : IsPrefixFree string := by
  intro s t rest more h
  have hchars : IsPrefixFree fun cs : List Char => '\x22' :: (cs.flatMap escapeChar ++ ['\x22']) :=
    (isPrefixFree_escapeChar.flatMap avoids_escapeChar).prefixed ['\x22']
  obtain ⟨hlist, hrest⟩ := hchars s.toList t.toList rest more h
  exact ⟨String.toList_inj.1 hlist, hrest⟩

theorem avoids_string {c : Char} (hc : c ≠ '\x22') : Avoids string c :=
  fun _ _ _ h => hc (List.head_eq_of_cons_eq h).symm

/-- An entry of an object. -/
def entry (e : String × String) : List Char := string e.1 ++ ':' :: ' ' :: string e.2

theorem array_injective : Function.Injective array :=
  ((isPrefixFree_string.intercalate (avoids_string (by decide)) (by decide) [' ']).prefixed
    ['[']).injective

theorem object_injective : Function.Injective object := by
  have hentry : IsPrefixFree entry := isPrefixFree_string.pair isPrefixFree_string [':', ' ']
  have havoids : Avoids entry '\x7d' := by
    intro e rest more h
    rw [entry, List.append_assoc] at h
    exact avoids_string (by decide) _ _ _ h
  exact ((hentry.intercalate havoids (by decide) [' ']).prefixed ['\x7b']).injective

theorem array_ne_object (items : List String) (entries : List (String × String)) :
    array items ≠ object entries :=
  fun h => absurd (List.head_eq_of_cons_eq h) (by decide)

/-! ## Where a reader is -/

/-- Where a reader of a document is. -/
inductive Place where
  | outside
  /-- Outside, behind a colon. -/
  | colon
  | inside
  /-- Inside, behind a backslash. -/
  | escape
  deriving DecidableEq

/-- Where a character leads, if a document can have it there. -/
def Place.next? (p : Place) (c : Char) : Option Place :=
  match p with
  | .outside =>
    if c = '\x22' then some .inside else if c = '\x5c' then none
    else if c = ':' then some .colon else some .outside
  | .colon => if c = ' ' then some .outside else none
  | .inside => if c = '\x22' then some .outside else if c = '\x5c' then some .escape else some .inside
  | .escape => if c = ':' then none else some .inside

/-- Where a text leads. -/
def Place.after? (p : Place) (cs : List Char) : Option Place := cs.foldlM Place.next? p

theorem Place.after?_append (p : Place) (cs ds : List Char) :
    p.after? (cs ++ ds) = (p.after? cs).bind fun q => q.after? ds := List.foldlM_append

theorem Place.after?_cons (p : Place) (c : Char) (cs : List Char) :
    p.after? (c :: cs) = (p.next? c).bind fun q => q.after? cs := List.foldlM_cons

/-- The text leads from outside to outside. -/
def IsClosed (cs : List Char) : Prop := Place.outside.after? cs = some .outside

/-- For a reader that is inside, the text leads nowhere else. -/
def StaysInside (cs : List Char) : Prop :=
  Place.inside.after? cs = none ∨ Place.inside.after? cs = some .inside

theorem IsClosed.append {cs ds : List Char} (hcs : IsClosed cs) (hds : IsClosed ds) :
    IsClosed (cs ++ ds) := by
  rw [IsClosed, Place.after?_append, hcs]
  exact hds

theorem StaysInside.append {cs ds : List Char} (hcs : StaysInside cs) (hds : StaysInside ds) :
    StaysInside (cs ++ ds) := by
  rw [StaysInside, Place.after?_append]
  rcases hcs with hnone | hinside
  · rw [hnone]
    exact .inl rfl
  · rw [hinside]
    exact hds

theorem after?_hexDigits (width n : Nat) : Place.inside.after? (hexDigits width n) = some .inside := by
  induction width generalizing n with
  | zero => rfl
  | succ width ih =>
      obtain ⟨hquote, hbackslash⟩ := hexDigit_ne (n % 16) (Nat.mod_lt _ (by decide))
      rw [hexDigits, Place.after?_append, ih]
      simp [Place.after?, Place.next?, hquote, hbackslash]

theorem after?_escapeUnits (units : List Nat) :
    Place.inside.after? (units.flatMap escapeUnit) = some .inside := by
  induction units with
  | nil => rfl
  | cons unit units ih =>
      have hunit : Place.inside.after? (escapeUnit unit) = some .inside := after?_hexDigits 4 unit
      rw [List.flatMap_cons, Place.after?_append, hunit]
      exact ih

/-- An escaped character keeps a reader inside. -/
theorem after?_escapeChar (c : Char) : Place.inside.after? (escapeChar c) = some .inside := by
  rcases escapeChar_cases c with ⟨hc, hquote, hbackslash⟩ | ⟨letter, hletter, hc⟩ | hc
  · rw [hc]
    simp [Place.after?, Place.next?, hquote, hbackslash]
  · have hcolon := (letterEscapes_letter _ hletter).2
    rw [hc]
    simp [Place.after?, Place.next?, hcolon]
  · rw [hc]
    exact after?_escapeUnits _

theorem isClosed_string (s : String) : IsClosed (string s) := by
  have hchars : ∀ cs : List Char, Place.inside.after? (cs.flatMap escapeChar) = some .inside := by
    intro cs
    induction cs with
    | nil => rfl
    | cons c cs ih =>
        rw [List.flatMap_cons, Place.after?_append, after?_escapeChar]
        exact ih
  rw [IsClosed, string, Place.after?_cons]
  show Place.inside.after? _ = _
  rw [Place.after?_append, hchars]
  rfl

/-- What a reader that is outside finds in an escaped character does not lead inside. -/
theorem after?_escapeChar_of_outside {p : Place} (hp : p = .outside ∨ p = .colon) (c : Char) :
    p.after? (escapeChar c) = none ∨ p.after? (escapeChar c) = some .outside ∨
      p.after? (escapeChar c) = some .colon := by
  have hescaped : ∀ rest, p.after? ('\x5c' :: rest) = none := by
    intro rest
    rcases hp with rfl | rfl <;> rfl
  rcases escapeChar_cases c with ⟨hc, hquote, hbackslash⟩ | ⟨letter, -, hc⟩ | hc
  · rw [hc]
    rcases hp with rfl | rfl
    · by_cases hcolon : c = ':' <;> simp [Place.after?, Place.next?, hquote, hbackslash, hcolon]
    · by_cases hblank : c = ' ' <;> simp [Place.after?, Place.next?, hblank]
  · rw [hc]
    exact .inl (hescaped _)
  · obtain ⟨rest, hrest⟩ := units_flatMap_eq_cons c.toNat
    rw [hc, hrest]
    exact .inl (hescaped _)

/-- A reader that is inside takes the quotes of a text for the ends of others, and is inside again behind
them. -/
theorem staysInside_string (s : String) : StaysInside (string s) := by
  have hchars : ∀ (cs : List Char) (p : Place), p = .outside ∨ p = .colon →
      p.after? (cs.flatMap escapeChar ++ ['\x22']) = none ∨
        p.after? (cs.flatMap escapeChar ++ ['\x22']) = some .inside := by
    intro cs
    induction cs with
    | nil =>
        rintro p (rfl | rfl)
        · exact .inr rfl
        · exact .inl rfl
    | cons c cs ih =>
        intro p hp
        rw [List.flatMap_cons, List.append_assoc, Place.after?_append]
        rcases after?_escapeChar_of_outside hp c with hc | hc | hc <;> rw [hc]
        · exact .inl rfl
        · exact ih .outside (.inl rfl)
        · exact ih .colon (.inr rfl)
  rw [StaysInside, string, Place.after?_cons]
  exact hchars s.toList .outside (.inl rfl)

/-! ## Documents -/

/-- An array or an object. A reader that comes from outside ends outside, and one that comes from inside
ends inside. -/
structure IsDocument (cs : List Char) : Prop where
  isClosed : IsClosed cs
  staysInside : StaysInside cs
  opens : ∃ rest, cs = '[' :: rest ∨ cs = '\x7b' :: rest

/-- Behind a colon in a document no document begins that ends with it. -/
theorem not_isDocument_of_append_colon {front cs : List Char}
    (h : IsDocument (front ++ ':' :: cs)) : ¬ IsDocument cs := by
  intro hcs
  have hclosed := h.isClosed
  rw [IsClosed, Place.after?_append] at hclosed
  obtain ⟨p, -, hp⟩ := Option.bind_eq_some_iff.1 hclosed
  cases p with
  | outside =>
      -- This colon is followed by a blank, so no document begins behind it.
      obtain ⟨rest, rfl | rfl⟩ := hcs.opens <;> exact absurd hp (by simp [Place.after?, Place.next?])
  | colon => exact absurd hp (by simp [Place.after?, Place.next?])
  | escape => exact absurd hp (by simp [Place.after?, Place.next?])
  | inside =>
      have hinside : Place.inside.after? cs = some .outside := hp
      rcases hcs.staysInside with hnone | hstays
      · rw [hnone] at hinside
        cases hinside
      · rw [hstays] at hinside
        cases hinside

/-- Words with separators between them, in brackets. -/
theorem isDocument_enclosed {α : Type} {code : α → List Char} (hclosed : ∀ a, IsClosed (code a))
    (hinside : ∀ a, StaysInside (code a)) (items : List α) {left right : Char}
    (hleft : left = '[' ∨ left = '\x7b') (hright : right = ']' ∨ right = '\x7d') :
    IsDocument (left :: ([',', ' '].intercalate (items.map code) ++ [right])) := by
  have hleftClosed : IsClosed [left] := by rcases hleft with rfl | rfl <;> rfl
  have hrightClosed : IsClosed [right] := by rcases hright with rfl | rfl <;> rfl
  have hleftInside : StaysInside [left] := by rcases hleft with rfl | rfl <;> exact .inr rfl
  have hrightInside : StaysInside [right] := by rcases hright with rfl | rfl <;> exact .inr rfl
  have hitems : IsClosed ([',', ' '].intercalate (items.map code)) ∧
      StaysInside ([',', ' '].intercalate (items.map code)) := by
    cases items with
    | nil => exact ⟨rfl, .inr rfl⟩
    | cons item items =>
        rw [intercalate_map_cons]
        suffices hrest : IsClosed (items.flatMap fun b => [',', ' '] ++ code b) ∧
            StaysInside (items.flatMap fun b => [',', ' '] ++ code b) from
          ⟨(hclosed item).append hrest.1, (hinside item).append hrest.2⟩
        have hglueClosed : IsClosed [',', ' '] := rfl
        have hglueInside : StaysInside [',', ' '] := .inr rfl
        induction items with
        | nil => exact ⟨rfl, .inr rfl⟩
        | cons next items ih =>
            rw [List.flatMap_cons]
            exact ⟨(hglueClosed.append (hclosed next)).append ih.1,
              (hglueInside.append (hinside next)).append ih.2⟩
  refine ⟨hleftClosed.append (hitems.1.append hrightClosed),
    hleftInside.append (hitems.2.append hrightInside), ?_⟩
  rcases hleft with rfl | rfl
  · exact ⟨_, .inl rfl⟩
  · exact ⟨_, .inr rfl⟩

theorem isDocument_array (items : List String) : IsDocument (array items) :=
  isDocument_enclosed isClosed_string staysInside_string items (.inl rfl) (.inl rfl)

theorem isDocument_object (entries : List (String × String)) : IsDocument (object entries) := by
  have hglueClosed : IsClosed [':', ' '] := rfl
  have hglueInside : StaysInside [':', ' '] := .inr rfl
  have hclosed : ∀ e, IsClosed (entry e) := fun e =>
    (isClosed_string e.1).append (hglueClosed.append (isClosed_string e.2))
  have hinside : ∀ e, StaysInside (entry e) := fun e =>
    (staysInside_string e.1).append (hglueInside.append (staysInside_string e.2))
  exact isDocument_enclosed hclosed hinside entries (.inr rfl) (.inr rfl)

/-- A text with a colon and a document behind it can be taken apart in one way only. -/
theorem append_colon_inj {front front' cs ds : List Char} (hcs : IsDocument cs) (hds : IsDocument ds)
    (h : front ++ ':' :: cs = front' ++ ':' :: ds) : front = front' ∧ cs = ds := by
  -- Otherwise one of the documents would stand behind a colon in the other.
  rcases List.append_eq_append_iff.1 h with ⟨between, hfront, hbetween⟩ | ⟨between, hfront, hbetween⟩
  · cases between with
    | nil => exact ⟨by simpa using hfront.symm, List.tail_eq_of_cons_eq hbetween⟩
    | cons c between =>
        have htail : cs = between ++ ':' :: ds := List.tail_eq_of_cons_eq hbetween
        rw [htail] at hcs
        exact absurd hds (not_isDocument_of_append_colon hcs)
  · cases between with
    | nil => exact ⟨by simpa using hfront, (List.tail_eq_of_cons_eq hbetween).symm⟩
    | cons c between =>
        have htail : ds = between ++ ':' :: cs := List.tail_eq_of_cons_eq hbetween
        rw [htail] at hds
        exact absurd hcs (not_isDocument_of_append_colon hds)

end Json

end FluentSql.Text
