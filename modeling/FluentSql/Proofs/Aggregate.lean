import FluentSql.Aggregate
import FluentSql.Proofs.Number.Spelling
/-
# FluentSql.Proofs.Aggregate — when an integral aggregate is exact.

Drivers report the same integer as an integer, as a decimal or as a text that spells a number (`Denotes`). Integers, and
texts that are read as integers, become that integer. All else goes through a double: it becomes the integer if and only if
a double has that value (`coerce_eq_int_iff`).
-/

namespace FluentSql.Aggregate

open Number (Numeral Spelling readInteger?)
open Number.Binary64 (IsDouble decimalValue toInteger?_ofDecimal)

/-- The value is equal to an integer: as an integer, as a finite decimal, or as a text that spells a finite number. -/
inductive Denotes : Value → Int → Prop where
  | int (n : Int) : Denotes (.int n) n
  | decimal {negative : Bool} {c : Nat} {e n : Int} : decimalValue negative c e = n →
      Denotes (.decimal (.finite negative c e)) n
  | text {s : String} {negative : Bool} {c : Nat} {e n : Int} : Numeral.read? s = some (.decimal negative c e) →
      decimalValue negative c e = n → Denotes (.text s) n

/-- A text that spells an integer, with a sign, blanks, a point or an exponent, is equal to it. -/
theorem denotes_spelling (sp : Spelling) {n : Int} (h : sp.value = n) : Denotes (.text sp.text) n := by
  obtain ⟨c, e, hread, hvalue⟩ := sp.read?_text
  exact .text hread (hvalue.trans h)

/-- What is read as an integer is equal to no other one. -/
theorem Denotes.readInteger? {s : String} {m n : Int} (h : Denotes (.text s) n) (hread : readInteger? s = some m) :
    m = n := by
  obtain ⟨negative, c, hsame, hm⟩ := Number.read?_of_readInteger? hread
  cases h with
  | text hnumber hn =>
      rw [hsame] at hnumber
      cases hnumber
      exact_mod_cast hm.symm.trans hn

/-- A double that stands for an integral result becomes the integer if it has the value. -/
theorem ofBinary64_ofDecimal {v : Value} (hv : ∀ n, v ≠ .int n) {negative : Bool} {c : Nat} {e n : Int}
    (h : decimalValue negative c e = n) :
    ofBinary64 v (.ofDecimal negative c e) = .int n ↔ IsDouble n.natAbs := by
  rw [← toInteger?_ofDecimal h]
  cases hx : Number.Binary64.ofDecimal negative c e with
  | nan | infinity => exact iff_of_false (hv n) fun hnone => by cases hnone
  | finite sign m k =>
      have hfinite : (Number.Binary64.finite sign m k).isFinite = true := rfl
      rw [ofBinary64, if_pos hfinite]
      cases hinteger : (Number.Binary64.finite sign m k).toInteger? with
      | none => exact iff_of_false (fun hfloat => by cases hfloat) fun hnone => by cases hnone
      | some z => simp

/-- **An integral result becomes that integer if and only if it is one already, is a text read as an integer, or is a value
that a double has.** -/
theorem coerce_eq_int_iff {v : Value} {n : Int} (h : Denotes v n) :
    coerce v = .int n ↔
      (∃ m, v = .int m) ∨ (∃ s m, v = .text s ∧ readInteger? s = some m) ∨ IsDouble n.natAbs := by
  cases h with
  | int n => exact iff_of_true rfl (.inl ⟨n, rfl⟩)
  | @decimal negative c e n hvalue =>
      refine (ofBinary64_ofDecimal (fun m h => by cases h) hvalue).trans ?_
      simp
  | @text s negative c e n hnumber hvalue =>
      cases hread : readInteger? s with
      | some m =>
          have hsame : m = n := Denotes.readInteger? (.text hnumber hvalue) hread
          refine iff_of_true ?_ (.inr (.inl ⟨s, m, rfl, hread⟩))
          simp [coerce, hread, hsame]
      | none =>
          have hdouble : Number.Binary64.read? s = some (.ofDecimal negative c e) := by
            rw [Number.Binary64.read?, hnumber]
            rfl
          have hcoerce : coerce (.text s) = ofBinary64 (.text s) (.ofDecimal negative c e) := by
            simp only [coerce, hread, hdouble]
          rw [hcoerce, ofBinary64_ofDecimal (fun m h => by cases h) hvalue]
          simp [hread]

/-- The first integer that no double has. -/
def unrepresentable : Value := .decimal (.finite false 9007199254740993 0)

theorem denotes_unrepresentable : Denotes unrepresentable 9007199254740993 := by
  refine .decimal ?_
  norm_num [decimalValue, Number.Binary64.signed]

theorem coerce_unrepresentable_iff :
    Denotes unrepresentable 9007199254740993 ∧
      (coerce unrepresentable = .int 9007199254740993 ↔
        (∃ m, unrepresentable = .int m) ∨ (∃ s m, unrepresentable = .text s ∧ readInteger? s = some m) ∨
          IsDouble (9007199254740993 : Int).natAbs) :=
  ⟨denotes_unrepresentable, coerce_eq_int_iff denotes_unrepresentable⟩

/-- A decimal that is an integral result loses its last digit. -/
theorem coerce_unrepresentable :
    Denotes unrepresentable 9007199254740993 ∧ coerce unrepresentable = .int 9007199254740992 ∧
      ¬∀ v n, Denotes v n → coerce v = .int n := by
  have hcoerce : coerce unrepresentable = .int 9007199254740992 := by rfl
  refine ⟨denotes_unrepresentable, hcoerce, fun hexact => ?_⟩
  have hwrong := hexact _ _ denotes_unrepresentable
  rw [hcoerce] at hwrong
  cases hwrong

end FluentSql.Aggregate
