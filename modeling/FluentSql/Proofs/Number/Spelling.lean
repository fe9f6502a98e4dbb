import Mathlib.Tactic.FieldSimp
import Mathlib.Tactic.Ring
import FluentSql.Number.Numeral
import FluentSql.Proofs.Number.Rounding
import FluentSql.Proofs.Text.Slots
/-
# FluentSql.Proofs.Number.Spelling — numbers as they are written, and how they are read.

A number is written with an optional sign, digits, an optional point with digits behind it and an optional exponent, and
blanks may surround it (`Spelling`). Reading such a text gives its value (`read?_spelling`). A text that is read as an
integer is read as a number of the same value (`read?_of_readInteger?`).
-/

namespace FluentSql.Number

open Binary64 (decimalValue signed)
open Text (dropEndWhile dropEndWhile_append)

/-! ## Digits -/

theorem ofAscii_cons (c : Char) (cs : List Char) : ofAscii (c :: cs) = asciiDigit c * 10 ^ cs.length + ofAscii cs := by
  have hfold : ∀ (ds : List Nat) (n : Nat), ds.foldl (fun n d => n * 10 + d) n =
      n * 10 ^ ds.length + ds.foldl (fun n d => n * 10 + d) 0 := by
    intro ds
    induction ds with
    | nil => intro n; simp
    | cons d ds ih =>
        intro n
        rw [List.foldl_cons, List.foldl_cons, ih, ih (0 * 10 + d), List.length_cons, pow_succ]
        ring
  rw [ofAscii, ofAscii, ofDigits_eq_foldl, ofDigits_eq_foldl, List.map_cons, List.foldl_cons, hfold, List.length_map,
    Nat.zero_mul, Nat.zero_add]

/-- Digits behind others move them up by as many places. -/
theorem ofAscii_append (cs ds : List Char) : ofAscii (cs ++ ds) = ofAscii cs * 10 ^ ds.length + ofAscii ds := by
  induction cs with
  | nil =>
      have hnone : ofAscii [] = 0 := rfl
      rw [hnone, Nat.zero_mul, Nat.zero_add, List.nil_append]
  | cons c cs ih =>
      rw [List.cons_append, ofAscii_cons, ofAscii_cons, ih, List.length_append, pow_add]
      ring

theorem toNat_of_isDigit {c : Char} (h : c.isDigit = true) : 0x30 ≤ c.toNat ∧ c.toNat ≤ 0x39 := by
  simp only [Char.isDigit, Bool.and_eq_true, decide_eq_true_eq, ge_iff_le, UInt32.le_iff_toNat_le] at h
  exact h

/-! ## Characters of numerals -/

/-- A character that a number is written with. -/
def isWritten (c : Char) : Bool := c.isDigit || ['+', '-', '.', 'e', 'E'].contains c

theorem isWritten_of_isDigit {c : Char} (h : c.isDigit = true) : isWritten c = true := by rw [isWritten, h, Bool.true_or]

/-- It is an ASCII character other than a blank and the underscore. -/
theorem of_isWritten {c : Char} (h : isWritten c = true) :
    c.toNat < 0x7F ∧ isNumeralBlank c = false ∧ c ≠ '_' := by
  rcases Bool.or_eq_true_iff.1 h with hdigit | hother
  · obtain ⟨hlow, hhigh⟩ := toNat_of_isDigit hdigit
    refine ⟨by omega, ?_, ?_⟩
    · have hspace : c ≠ ' ' := by
        rintro rfl
        cases hdigit
      simp only [isNumeralBlank, Bool.or_eq_false_iff, Bool.and_eq_false_iff, decide_eq_false_iff_not, beq_eq_false_iff_ne]
      exact ⟨.inr (by omega), hspace⟩
    · rintro rfl
      cases hdigit
  · simp only [List.contains_eq_mem, decide_eq_true_eq, List.mem_cons, List.not_mem_nil, or_false] at hother
    rcases hother with rfl | rfl | rfl | rfl | rfl <;> decide

theorem lt_of_isNumeralBlank {c : Char} (h : isNumeralBlank c = true) : c.toNat < 0x7F := by
  simp only [isNumeralBlank, Bool.or_eq_true, Bool.and_eq_true, decide_eq_true_eq, beq_iff_eq] at h
  rcases h with ⟨-, hhigh⟩ | rfl
  · omega
  · decide

theorem dropEndWhile_of_all {p : Char → Bool} {cs : List Char} (h : ∀ c ∈ cs, p c = true) : dropEndWhile p cs = [] := by
  induction cs with
  | nil => rfl
  | cons c cs ih =>
      rw [dropEndWhile, ih fun d hd => h d (List.mem_cons_of_mem _ hd)]
      exact if_pos (h c List.mem_cons_self)

theorem dropEndWhile_of_none {p : Char → Bool} {cs : List Char} (h : ∀ c ∈ cs, p c = false) : dropEndWhile p cs = cs := by
  induction cs with
  | nil => rfl
  | cons c cs ih =>
      rw [dropEndWhile, ih fun d hd => h d (List.mem_cons_of_mem _ hd)]
      cases cs with
      | nil => exact if_neg (by rw [h c List.mem_cons_self]; exact Bool.false_ne_true)
      | cons d ds => rfl

/-- Blanks around a number are skipped, and nothing of it is changed. -/
theorem numeralChars_of_isWritten {before cs after : List Char} (hbefore : ∀ c ∈ before, isNumeralBlank c = true)
    (hcs : ∀ c ∈ cs, isWritten c = true) (hafter : ∀ c ∈ after, isNumeralBlank c = true) :
    numeralChars (String.ofList (before ++ cs ++ after)) = cs := by
  have hascii : (before ++ cs ++ after).map asciiForm = before ++ cs ++ after := by
    refine (List.map_congr_left fun c hc => ?_).trans (List.map_id _)
    have hlt : c.toNat < 0x7F := by
      rcases List.mem_append.1 hc with hc | hc
      · rcases List.mem_append.1 hc with hc | hc
        · exact lt_of_isNumeralBlank (hbefore c hc)
        · exact (of_isWritten (hcs c hc)).1
      · exact lt_of_isNumeralBlank (hafter c hc)
    exact if_pos hlt
  have hfront : (before ++ cs ++ after).dropWhile isNumeralBlank = (cs ++ after).dropWhile isNumeralBlank := by
    rw [List.append_assoc, List.dropWhile_append_of_pos hbefore]
  rw [numeralChars, String.toList_ofList, hascii, hfront]
  cases cs with
  | nil =>
      rw [List.nil_append, ← List.append_nil after, List.dropWhile_append_of_pos hafter]
      rfl
  | cons c cs =>
      have hblank : ¬isNumeralBlank c = true := by
        rw [(of_isWritten (hcs c List.mem_cons_self)).2.1]
        exact Bool.false_ne_true
      rw [List.cons_append, List.dropWhile_cons_of_neg hblank, ← List.cons_append, dropEndWhile_append,
        if_pos (dropEndWhile_of_all hafter), dropEndWhile_of_none fun d hd => (of_isWritten (hcs d hd)).2.1]

/-- There is no underscore to remove. -/
theorem dropUnderscores?_of_isWritten {cs : List Char} (h : ∀ c ∈ cs, isWritten c = true) (afterDigit : Bool) :
    dropUnderscores? afterDigit cs = some cs := by
  induction cs generalizing afterDigit with
  | nil => rfl
  | cons c cs ih =>
      rw [dropUnderscores?, if_neg (of_isWritten (h c List.mem_cons_self)).2.2,
        ih fun d hd => h d (List.mem_cons_of_mem _ hd)]
      rfl

/-! ## Parts of numerals -/

/-- A text that starts with a digit or a point. -/
def StartsPlain (cs : List Char) : Prop := ∃ c rest, cs = c :: rest ∧ (c.isDigit = true ∨ c = '.')

theorem startsPlain_of_digits {cs : List Char} (hne : cs ≠ []) (h : ∀ c ∈ cs, c.isDigit = true) (rest : List Char) :
    StartsPlain (cs ++ rest) := by
  obtain ⟨c, ds, rfl⟩ := List.exists_cons_of_ne_nil hne
  exact ⟨c, ds ++ rest, rfl, .inl (h c List.mem_cons_self)⟩

/-- The sign in front, where `some true` is a minus. -/
def signChars : Option Bool → List Char
  | none => []
  | some true => ['-']
  | some false => ['+']

theorem takeSign_signChars (sign : Option Bool) {cs : List Char} (h : StartsPlain cs) :
    takeSign (signChars sign ++ cs) = (sign == some true, cs) := by
  obtain ⟨c, rest, rfl, hc⟩ := h
  have hminus : c ≠ '-' := by
    rintro rfl
    rcases hc with hc | hc <;> cases hc
  have hplus : c ≠ '+' := by
    rintro rfl
    rcases hc with hc | hc <;> cases hc
  match sign with
  | none => simp [signChars, takeSign, hminus, hplus]
  | some true => rfl
  | some false => rfl

/-- A number that starts with a digit or a point is none of the words. -/
theorem ofChars?_of_startsPlain {cs body : List Char} {negative : Bool} (hsign : takeSign cs = (negative, body))
    (h : StartsPlain body) : Numeral.ofChars? cs = Numeral.readDecimal? negative body := by
  obtain ⟨c, rest, rfl, hc⟩ := h
  have hlow : c.toNat < 0x41 := by
    rcases hc with hc | rfl
    · exact Nat.lt_of_le_of_lt (toNat_of_isDigit hc).2 (by decide)
    · decide
  have hlower : c.toLower = c := by
    refine dif_neg fun hupper => ?_
    have hle := UInt32.le_iff_toNat_le.1 hupper.1
    exact absurd hle (Nat.not_le_of_lt hlow)
  have hword : ∀ d ds, 0x41 ≤ d.toNat → (String.ofList ((c :: rest).map Char.toLower) == String.ofList (d :: ds)) = false := by
    intro d ds hd
    rw [beq_eq_false_iff_ne]
    intro heq
    obtain rfl : c = d := hlower.symm.trans (List.cons.inj (String.ofList_inj.1 heq)).1
    omega
  have hinf := hword 'i' "nf".toList (by decide)
  have hinfinity := hword 'i' "nfinity".toList (by decide)
  have hnan := hword 'n' "an".toList (by decide)
  simp only [Numeral.ofChars?, hsign]
  rw [if_neg, if_neg]
  · exact ne_true_of_eq_false hnan
  · rw [Bool.or_eq_true, not_or]
    exact ⟨ne_true_of_eq_false hinf, ne_true_of_eq_false hinfinity⟩

/-- An exponent: the letter, whether it is a capital one, a sign and digits. -/
abbrev ExponentPart := Bool × Option Bool × List Char

/-- The characters of an exponent. -/
def exponentChars : Option ExponentPart → List Char
  | none => []
  | some (capital, sign, ds) => (if capital then 'E' else 'e') :: (signChars sign ++ ds)

/-- The power of ten that an exponent stands for. -/
def exponentValue : Option ExponentPart → Int
  | none => 0
  | some (_, sign, ds) => if sign == some true then -(ofAscii ds : Int) else ofAscii ds

theorem readExponent?_exponentChars {exponent : Option ExponentPart}
    (h : ∀ e ∈ exponent, e.2.2 ≠ [] ∧ ∀ c ∈ e.2.2, c.isDigit = true) :
    Numeral.readExponent? (exponentChars exponent) = some (exponentValue exponent) := by
  match exponent with
  | none => rfl
  | some (capital, sign, ds) =>
      obtain ⟨hne, hdigits⟩ := h _ rfl
      have hsign := takeSign_signChars sign (List.append_nil ds ▸ startsPlain_of_digits hne hdigits [])
      have hall : ds.all Char.isDigit = true := List.all_eq_true.2 hdigits
      cases capital <;> simp [exponentChars, exponentValue, Numeral.readExponent?, hsign, hall, hne]

theorem exponentChars_eq_cons {exponent : Option ExponentPart} {c : Char} {rest : List Char}
    (h : exponentChars exponent = c :: rest) : c = 'e' ∨ c = 'E' := by
  match exponent, h with
  | some (true, sign, ds), h => exact .inr (List.cons.inj h).1.symm
  | some (false, sign, ds), h => exact .inl (List.cons.inj h).1.symm

/-- The characters of a point with digits behind it. -/
def fractionChars : Option (List Char) → List Char
  | none => []
  | some ds => '.' :: ds

/-- Digits are taken up to where something else starts. -/
theorem span_digits {cs rest : List Char} (hcs : ∀ c ∈ cs, c.isDigit = true)
    (hrest : ∀ c ds, rest = c :: ds → c.isDigit = false) :
    (cs ++ rest).takeWhile Char.isDigit = cs ∧ (cs ++ rest).dropWhile Char.isDigit = rest := by
  rw [List.takeWhile_append_of_pos hcs, List.dropWhile_append_of_pos hcs]
  match rest with
  | [] => exact ⟨List.append_nil cs, rfl⟩
  | c :: ds =>
      have hc : ¬c.isDigit = true := by
        rw [hrest c ds rfl]
        exact Bool.false_ne_true
      rw [List.takeWhile_cons_of_neg hc, List.dropWhile_cons_of_neg hc]
      exact ⟨List.append_nil cs, rfl⟩

theorem isWritten_signChars (sign : Option Bool) : ∀ c ∈ signChars sign, isWritten c = true := by
  match sign with
  | none => exact fun c hc => absurd hc List.not_mem_nil
  | some true => simp [signChars, isWritten]
  | some false => simp [signChars, isWritten]

theorem isWritten_fractionChars {fraction : Option (List Char)} (h : ∀ c ∈ fraction.getD [], c.isDigit = true) :
    ∀ c ∈ fractionChars fraction, isWritten c = true := by
  match fraction, h with
  | none, _ => exact fun c hc => absurd hc List.not_mem_nil
  | some ds, h =>
      intro c hc
      rcases List.mem_cons.1 hc with rfl | hc
      · decide
      · exact isWritten_of_isDigit (h c hc)

theorem isWritten_exponentChars {exponent : Option ExponentPart}
    (h : ∀ e ∈ exponent, e.2.2 ≠ [] ∧ ∀ c ∈ e.2.2, c.isDigit = true) :
    ∀ c ∈ exponentChars exponent, isWritten c = true := by
  match exponent, h with
  | none, _ => exact fun c hc => absurd hc List.not_mem_nil
  | some (capital, sign, ds), h =>
      intro c hc
      rcases List.mem_cons.1 hc with rfl | hc
      · cases capital <;> decide
      · rcases List.mem_append.1 hc with hc | hc
        · exact isWritten_signChars sign c hc
        · exact isWritten_of_isDigit ((h _ rfl).2 c hc)

/-- What stands behind the digits before the point: a point with its digits, and the exponent. -/
theorem readDecimal?_of_span {negative : Bool} {cs whole fraction tail : List Char} {rest : List Char} {exponent : Int}
    (hspan : cs.takeWhile Char.isDigit = whole ∧ cs.dropWhile Char.isDigit = rest)
    (hrest : (rest = '.' :: (fraction ++ tail) ∧ (fraction ++ tail).takeWhile Char.isDigit = fraction ∧
        (fraction ++ tail).dropWhile Char.isDigit = tail) ∨
      (fraction = [] ∧ rest = tail ∧ ∀ more, rest ≠ '.' :: more))
    (hne : whole ++ fraction ≠ []) (hexponent : Numeral.readExponent? tail = some exponent) :
    Numeral.readDecimal? negative cs =
      some (.decimal negative (ofAscii (whole ++ fraction)) (exponent - fraction.length)) := by
  have hempty : (whole.isEmpty && fraction.isEmpty) = false := by simpa using hne
  rw [Numeral.readDecimal?, hspan.1, hspan.2]
  rcases hrest with ⟨rfl, hfraction, htail⟩ | ⟨rfl, rfl, hpoint⟩
  · simp only [hfraction, htail, hempty, hexponent]
    rfl
  · split
    next hpair =>
      split at hpair
      next more => exact absurd rfl (hpoint more)
      next =>
        cases hpair
        simp only [hempty, hexponent]
        rfl

/-! ## Whole numerals -/

/-- How a number is written: blanks, a sign, digits before and behind a point, an exponent and blanks again. There is a
digit before or behind the point. -/
structure Spelling where
  before : List Char
  sign : Option Bool
  whole : List Char
  fraction : Option (List Char)
  exponent : Option ExponentPart
  after : List Char
  blanks : ∀ c ∈ before ++ after, isNumeralBlank c = true
  digits : ∀ c ∈ whole ++ fraction.getD [], c.isDigit = true
  spelled : whole ++ fraction.getD [] ≠ []
  exponentDigits : ∀ e ∈ exponent, e.2.2 ≠ [] ∧ ∀ c ∈ e.2.2, c.isDigit = true

namespace Spelling

variable (sp : Spelling)

/-- The number without its sign and the blanks around it. -/
def body : List Char := sp.whole ++ (fractionChars sp.fraction ++ exponentChars sp.exponent)

/-- The text of the number. -/
def text : String := String.ofList (sp.before ++ (signChars sp.sign ++ sp.body) ++ sp.after)

/-- The number: its digits before the point as an integer, those behind it as a fraction, times a power of ten. -/
def value : ℚ :=
  signed (sp.sign == some true)
    ((ofAscii sp.whole + (ofAscii (sp.fraction.getD []) : ℚ) / 10 ^ (sp.fraction.getD []).length) *
      10 ^ exponentValue sp.exponent)

theorem startsPlain_body : StartsPlain sp.body := by
  cases hwhole : sp.whole with
  | cons c rest =>
      exact ⟨c, rest ++ _, by rw [body, hwhole, List.cons_append],
        .inl (sp.digits c (List.mem_append_left _ (hwhole ▸ List.mem_cons_self)))⟩
  | nil =>
      cases hfraction : sp.fraction with
      | none =>
          have hspelled := sp.spelled
          rw [hwhole, hfraction] at hspelled
          exact absurd rfl hspelled
      | some ds => exact ⟨'.', ds ++ exponentChars sp.exponent, by rw [body, hwhole, hfraction]; rfl, .inr rfl⟩

theorem isWritten_of_mem {c : Char} (hc : c ∈ signChars sp.sign ++ sp.body) : isWritten c = true := by
  rcases List.mem_append.1 hc with hc | hc
  · exact isWritten_signChars sp.sign c hc
  · rcases List.mem_append.1 hc with hc | hc
    · exact isWritten_of_isDigit (sp.digits c (List.mem_append_left _ hc))
    · rcases List.mem_append.1 hc with hc | hc
      · exact isWritten_fractionChars (fun d hd => sp.digits d (List.mem_append_right _ hd)) c hc
      · exact isWritten_exponentChars sp.exponentDigits c hc

/-- Its digits without the point, and the power of ten that the point and the exponent stand for. -/
theorem readDecimal?_body (negative : Bool) : Numeral.readDecimal? negative sp.body =
    some (.decimal negative (ofAscii (sp.whole ++ sp.fraction.getD []))
      (exponentValue sp.exponent - (sp.fraction.getD []).length)) := by
  have hwhole : ∀ c ∈ sp.whole, c.isDigit = true := fun c hc => sp.digits c (List.mem_append_left _ hc)
  have hletter : ∀ c ds, exponentChars sp.exponent = c :: ds → c.isDigit = false := by
    intro c ds h
    rcases exponentChars_eq_cons h with rfl | rfl <;> rfl
  have hexponent := readExponent?_exponentChars sp.exponentDigits
  have hspelled := sp.spelled
  have hdigits := sp.digits
  rw [body]
  cases hfraction : sp.fraction with
  | none =>
      rw [hfraction] at hspelled
      refine readDecimal?_of_span (span_digits hwhole hletter) (.inr ⟨rfl, rfl, fun more h => ?_⟩) hspelled hexponent
      rcases exponentChars_eq_cons h with h | h <;> cases h
  | some ds =>
      rw [hfraction] at hspelled hdigits
      have hpoint : ∀ c rest, '.' :: ds ++ exponentChars sp.exponent = c :: rest → c.isDigit = false := by
        intro c rest h
        rw [← (List.cons.inj h).1]
        rfl
      have hfollow := span_digits (fun c hc => hdigits c (List.mem_append_right _ hc)) hletter
      exact readDecimal?_of_span (span_digits hwhole hpoint) (.inl ⟨rfl, hfollow⟩) hspelled hexponent

theorem decimalValue_eq_value (negative : Bool) :
    decimalValue negative (ofAscii (sp.whole ++ sp.fraction.getD []))
      (exponentValue sp.exponent - (sp.fraction.getD []).length) =
    signed negative ((ofAscii sp.whole + (ofAscii (sp.fraction.getD []) : ℚ) / 10 ^ (sp.fraction.getD []).length) *
      10 ^ exponentValue sp.exponent) := by
  have hten : (10 : ℚ) ≠ 0 := by norm_num
  rw [decimalValue, ofAscii_append, zpow_sub₀ hten, zpow_natCast]
  congr 1
  push_cast
  field_simp

/-- **A spelled number is read as what it is.** -/
theorem read?_text : ∃ c e, Numeral.read? sp.text = some (.decimal (sp.sign == some true) c e) ∧
    decimalValue (sp.sign == some true) c e = sp.value := by
  refine ⟨_, _, ?_, sp.decimalValue_eq_value _⟩
  have hchars : numeralChars sp.text = signChars sp.sign ++ sp.body :=
    numeralChars_of_isWritten (fun c hc => sp.blanks c (List.mem_append_left _ hc)) (fun c hc => sp.isWritten_of_mem hc)
      fun c hc => sp.blanks c (List.mem_append_right _ hc)
  rw [Numeral.read?, hchars, dropUnderscores?_of_isWritten fun c hc => sp.isWritten_of_mem hc]
  exact (ofChars?_of_startsPlain (takeSign_signChars sp.sign sp.startsPlain_body) sp.startsPlain_body).trans
    (sp.readDecimal?_body _)

end Spelling

/-- A text that is read as an integer is read as a number of that value. -/
theorem read?_of_readInteger? {s : String} {n : Int} (h : readInteger? s = some n) :
    ∃ negative c, Numeral.read? s = some (.decimal negative c 0) ∧ decimalValue negative c 0 = n := by
  obtain ⟨cs, hcs, hread⟩ := Option.bind_eq_some_iff.1 h
  generalize hsign : takeSign cs = taken at hread
  obtain ⟨negative, ds⟩ := taken
  simp only [Option.ite_none_left_eq_some, Bool.or_eq_true, Bool.not_eq_true', decide_eq_true_eq, not_or,
    Option.some_inj] at hread
  obtain ⟨⟨⟨hempty, hall⟩, -⟩, hvalue⟩ := hread
  have hne : ds ++ [] ≠ [] := by simpa using hempty
  have hdigits : ∀ c ∈ ds, c.isDigit = true := List.all_eq_true.1 (Bool.eq_true_of_not_eq_false hall)
  have hstarts : StartsPlain ds := List.append_nil ds ▸ startsPlain_of_digits (by simpa using hempty) hdigits []
  have hspan : (ds ++ []).takeWhile Char.isDigit = ds ∧ (ds ++ []).dropWhile Char.isDigit = [] :=
    span_digits hdigits fun c rest hnil => by cases hnil
  refine ⟨negative, ofAscii ds, ?_, ?_⟩
  · rw [Numeral.read?, hcs, Option.bind_eq_bind, Option.bind_some, ofChars?_of_startsPlain hsign hstarts]
    rw [List.append_nil] at hspan
    exact (readDecimal?_of_span hspan (.inr ⟨rfl, rfl, fun more h => by cases h⟩) hne rfl).trans
      (by rw [List.append_nil]; rfl)
  · rw [decimalValue, zpow_zero, mul_one, Binary64.signed_natCast_eq_intCast]
    exact hvalue

end FluentSql.Number
