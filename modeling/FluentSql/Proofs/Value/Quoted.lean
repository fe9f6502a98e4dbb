import FluentSql.Proofs.Text.Json
import FluentSql.Text.Quoted
import FluentSql.Value.Text
import Mathlib.Data.List.Basic
/-
# FluentSql.Proofs.Value.Quoted — what shows by its quoted form.

Quoted forms show which text or which bytes they are of. Characters are escaped so that each can be read off the front
of what follows, and none looks like the quote in use. The quote is the first character of the form, so it is known
before the rest is read.

Null, truth values, integers, texts and bytes are known by their quoted forms, among all values that are
data. The kinds of values differ in the first character, but for integers and doubles, and the text of a
double has a point, an exponent or letters in it.
-/

namespace FluentSql.Text

/-- The quotes that go around texts. -/
def IsQuote (quote : Char) : Prop := quote = '\x27' ∨ quote = '\x22'

theorem isQuote_chooseQuote (cs : List Char) : IsQuote (chooseQuote cs) := by
  unfold chooseQuote
  split
  · exact .inr rfl
  · exact .inl rfl

/-- The characters that are escaped by one character between such quotes, with these. -/
def markEscapes (quote : Char) : List (Char × Char) :=
  [(quote, quote), ('\x5c', '\x5c'), ('\n', 'n'), ('\r', 'r'), ('\t', 't')]

theorem quoteChar_cases (shown : Char → Bool) (quote c : Char) :
    (quoteChar shown quote c = [c] ∧ c ≠ quote ∧ c ≠ '\x5c') ∨
      (∃ mark, (c, mark) ∈ markEscapes quote ∧ quoteChar shown quote c = ['\x5c', mark]) ∨
      quoteChar shown quote c = codeEscape c.toNat := by
  by_cases hquote : c = quote
  · subst hquote
    exact .inr (.inl ⟨c, List.mem_cons_self, by simp [quoteChar]⟩)
  cases hletter : letterEscape? c with
  | some letter =>
      refine .inr (.inl ⟨letter, ?_, by simp [quoteChar, hquote, hletter]⟩)
      refine List.mem_cons_of_mem _ ?_
      unfold letterEscape? at hletter
      split_ifs at hletter with hbackslash hn hr ht <;> cases hletter <;> simp_all
  | none =>
      have hbackslash : c ≠ '\x5c' := by
        rintro rfl
        exact absurd hletter (by decide)
      by_cases hshown : shown c = true
      · exact .inl ⟨by simp [quoteChar, hquote, hletter, hshown], hquote, hbackslash⟩
      · exact .inr (.inr (by simp [quoteChar, hquote, hletter, hshown]))

theorem markEscapes_inj {quote : Char} (h : IsQuote quote) :
    ∀ e ∈ markEscapes quote, ∀ f ∈ markEscapes quote, e.2 = f.2 → e.1 = f.1 := by
  rcases h with rfl | rfl <;> decide

theorem markEscapes_mark {quote : Char} (h : IsQuote quote) :
    ∀ e ∈ markEscapes quote, e.2 ∉ ['x', 'u', 'U'] := by
  rcases h with rfl | rfl <;> decide

theorem codeEscape_eq_cons (n : Nat) :
    ∃ mark rest, codeEscape n = '\x5c' :: mark :: rest ∧ mark ∈ ['x', 'u', 'U'] := by
  unfold codeEscape
  split
  · exact ⟨_, _, rfl, by decide⟩
  · split
    · exact ⟨_, _, rfl, by decide⟩
    · exact ⟨_, _, rfl, by decide⟩

theorem eq_of_codeEscape_append {n m : Nat} (hn : n < 0x110000) (hm : m < 0x110000)
    {rest more : List Char} (h : codeEscape n ++ rest = codeEscape m ++ more) :
    n = m ∧ rest = more := by
  have hwidth : ∀ (width : Nat) {mark : Char}, n < 16 ^ width → m < 16 ^ width →
      '\x5c' :: mark :: hexDigits width n ++ rest = '\x5c' :: mark :: hexDigits width m ++ more →
      n = m ∧ rest = more := by
    intro width mark hn hm heq
    have hdigits := List.tail_eq_of_cons_eq (List.tail_eq_of_cons_eq heq)
    obtain ⟨hcode, hrest⟩ :=
      List.append_inj hdigits ((length_hexDigits width n).trans (length_hexDigits width m).symm)
    exact ⟨eq_of_hexDigits_eq hn hm hcode, hrest⟩
  have hmark : ∀ {mark mark' : Char} {cs ds : List Char}, mark ≠ mark' →
      '\x5c' :: mark :: cs = '\x5c' :: mark' :: ds → n = m ∧ rest = more := fun hne heq =>
    absurd (List.head_eq_of_cons_eq (List.tail_eq_of_cons_eq heq)) hne
  unfold codeEscape at h
  -- The mark behind the backslash shows how many digits follow.
  split_ifs at h with hn2 hm2 hm4 hn4 hm2 hm4 hm2 hm4
  · exact hwidth 2 hn2 hm2 h
  · exact hmark (by decide) h
  · exact hmark (by decide) h
  · exact hmark (by decide) h
  · exact hwidth 4 hn4 hm4 h
  · exact hmark (by decide) h
  · exact hmark (by decide) h
  · exact hmark (by decide) h
  · exact hwidth 8 (by omega) (by omega) h

variable {shown : Char → Bool} {quote : Char}

theorem isPrefixFree_quoteChar (hquote : IsQuote quote) : IsPrefixFree (quoteChar shown quote) := by
  intro c d rest more h
  have hcode : ∀ c : Char, c.toNat < 0x110000 := by
    intro c
    have hc := Json.toNat_valid c
    omega
  rcases quoteChar_cases shown quote c with ⟨hc, -, hbackslash⟩ | ⟨mark, hmark, hc⟩ | hc <;>
    rcases quoteChar_cases shown quote d with ⟨hd, -, hbackslash'⟩ | ⟨mark', hmark', hd⟩ | hd <;>
    rw [hc, hd] at h
  · exact ⟨List.head_eq_of_cons_eq h, List.tail_eq_of_cons_eq h⟩
  · exact absurd (List.head_eq_of_cons_eq h) hbackslash
  · obtain ⟨mark', tail, htail, -⟩ := codeEscape_eq_cons d.toNat
    rw [htail] at h
    exact absurd (List.head_eq_of_cons_eq h) hbackslash
  · exact absurd (List.head_eq_of_cons_eq h).symm hbackslash'
  · have hbehind := List.tail_eq_of_cons_eq h
    exact ⟨markEscapes_inj hquote _ hmark _ hmark' (List.head_eq_of_cons_eq hbehind),
      List.tail_eq_of_cons_eq hbehind⟩
  · obtain ⟨mark', tail, htail, hmem⟩ := codeEscape_eq_cons d.toNat
    rw [htail] at h
    have hsame : mark = mark' := List.head_eq_of_cons_eq (List.tail_eq_of_cons_eq h)
    exact absurd (hsame ▸ hmem) (markEscapes_mark hquote _ hmark)
  · obtain ⟨mark, tail, htail, -⟩ := codeEscape_eq_cons c.toNat
    rw [htail] at h
    exact absurd (List.head_eq_of_cons_eq h).symm hbackslash'
  · obtain ⟨mark, tail, htail, hmem⟩ := codeEscape_eq_cons c.toNat
    rw [htail] at h
    have hsame : mark = mark' := List.head_eq_of_cons_eq (List.tail_eq_of_cons_eq h)
    exact absurd (hsame ▸ hmem) (markEscapes_mark hquote _ hmark')
  · obtain ⟨hnum, hrest⟩ := eq_of_codeEscape_append (hcode c) (hcode d) h
    exact ⟨Char.ext (UInt32.toNat_inj.1 hnum), hrest⟩

theorem avoids_quoteChar (hquote : IsQuote quote) : Avoids (quoteChar shown quote) quote := by
  have hbackslash : '\x5c' ≠ quote := by rcases hquote with rfl | rfl <;> decide
  intro c rest more h
  rcases quoteChar_cases shown quote c with ⟨hc, hne, -⟩ | ⟨mark, -, hc⟩ | hc
  · rw [hc] at h
    exact hne (List.head_eq_of_cons_eq h)
  · rw [hc] at h
    exact hbackslash (List.head_eq_of_cons_eq h)
  · obtain ⟨mark, tail, htail, -⟩ := codeEscape_eq_cons c.toNat
    rw [hc, htail] at h
    exact hbackslash (List.head_eq_of_cons_eq h)

theorem quoteWith_injective : Function.Injective (quoteWith shown) := by
  intro cs ds h
  have hsame : chooseQuote cs = chooseQuote ds := List.head_eq_of_cons_eq h
  have hbody := List.tail_eq_of_cons_eq h
  rw [hsame] at hbody
  have hquote := isQuote_chooseQuote ds
  exact ((isPrefixFree_quoteChar hquote).flatMap (avoids_quoteChar hquote)).injective hbody

theorem quoted_injective : Function.Injective quoted :=
  fun _ _ h => String.toList_inj.1 (quoteWith_injective (String.ofList_inj.1 h))

theorem quotedBytes_injective : Function.Injective quotedBytes := by
  intro bs cs h
  have hchars := quoteWith_injective (String.ofList_inj.1 ((String.append_right_inj _).1 h))
  refine List.map_injective_iff.2 ?_ hchars
  intro b c hbc
  have hchar : ∀ b : UInt8, (Char.ofNat b.toNat).toNat = b.toNat := by
    intro b
    have hvalid : b.toNat.isValidChar := .inl (by have hlt := b.toNat_lt; omega)
    rw [Char.ofNat, dif_pos hvalid]
    rfl
  have hnat : (Char.ofNat b.toNat).toNat = (Char.ofNat c.toNat).toNat := congrArg Char.toNat hbc
  rw [hchar, hchar] at hnat
  exact UInt8.toNat_inj.1 hnat

end FluentSql.Text

namespace FluentSql

/-! ## Numbers -/

theorem Text.mem_of_mem_dropEndWhile {p : Char → Bool} {cs : List Char} {c : Char}
    (h : c ∈ dropEndWhile p cs) : c ∈ cs := by
  induction cs with
  | nil => exact h
  | cons d cs ih =>
      unfold dropEndWhile at h
      split at h
      · split at h
        · cases h
        · exact List.mem_cons.2 (.inl (List.mem_singleton.1 h))
      · rcases List.mem_cons.1 h with rfl | h
        · exact List.mem_cons_self
        · exact List.mem_cons_of_mem _ (ih h)

namespace Number

theorem isDigit_of_mem_digits {n : Nat} {c : Char} (h : c ∈ digits n) : c.isDigit = true :=
  Nat.isDigit_of_mem_toDigits (by decide) (by decide) h

theorem digits_ne_nil (n : Nat) : digits n ≠ [] := Nat.toDigits_ne_nil

theorem digits_injective : Function.Injective digits := by
  intro n m h
  have hread : ∀ k, Nat.ofDigitChars 10 (digits k) 0 = k := fun k =>
    Nat.ofDigitChars_toDigits (by decide) (by decide)
  rw [← hread n, ← hread m, h]

theorem digits_ne_cons {n : Nat} {c : Char} (hc : c.isDigit = false) (cs : List Char) :
    digits n ≠ c :: cs := by
  intro h
  have hdigit := isDigit_of_mem_digits (n := n) (c := c) (by rw [h]; exact List.mem_cons_self)
  rw [hc] at hdigit
  cases hdigit

theorem integerText_injective : Function.Injective integerText := by
  intro n m h
  cases n with
  | ofNat n =>
      cases m with
      | ofNat m => rw [digits_injective (String.ofList_inj.1 h)]
      | negSucc m => exact absurd (String.ofList_inj.1 h) (digits_ne_cons (by decide) _)
  | negSucc n =>
      cases m with
      | ofNat m => exact absurd (String.ofList_inj.1 h).symm (digits_ne_cons (by decide) _)
      | negSucc m =>
          have hdigits := digits_injective (List.tail_eq_of_cons_eq (String.ofList_inj.1 h))
          rw [Nat.succ.inj hdigits]

/-- The text of an integer has a digit, and nothing else but a sign. -/
theorem toList_integerText (n : Int) :
    (∃ c ∈ (integerText n).toList, c.isDigit = true) ∧
      ∀ c ∈ (integerText n).toList, c.isDigit = true ∨ c = '-' := by
  have hdigit : ∀ n, ∃ c ∈ digits n, c.isDigit = true := by
    intro n
    obtain ⟨c, hc⟩ := List.exists_mem_of_ne_nil _ (digits_ne_nil n)
    exact ⟨c, hc, isDigit_of_mem_digits hc⟩
  cases n with
  | ofNat n =>
      simp only [integerText, String.toList_ofList]
      exact ⟨hdigit n, fun c hc => .inl (isDigit_of_mem_digits hc)⟩
  | negSucc n =>
      simp only [integerText, String.toList_ofList, List.mem_cons]
      obtain ⟨c, hc, hisDigit⟩ := hdigit (n + 1)
      refine ⟨⟨c, .inr hc, hisDigit⟩, ?_⟩
      rintro c (rfl | hc)
      · exact .inr rfl
      · exact .inl (isDigit_of_mem_digits hc)

/-- The digits of a double have a point or an exponent among them, if there are any. -/
theorem Binary64.layout_cases (ds : List Char) (point : Int) :
    layout ds point = [] ∨ '.' ∈ layout ds point ∨ 'e' ∈ layout ds point := by
  unfold layout
  dsimp only
  split
  · refine .inr (.inl ?_)
    split
    · simp
    · split <;> simp
  · split
    · exact .inl rfl
    · exact .inr (.inr (by simp))
    · exact .inr (.inl (by simp))

theorem Binary64.text_ne_integerText (x : Binary64) (n : Int) : x.text ≠ integerText n := by
  intro h
  obtain ⟨⟨digit, hdigit, hisDigit⟩, hall⟩ := toList_integerText n
  rw [← h] at hdigit hall
  have hforeign : ∀ c ∈ x.text.toList, c = '.' ∨ c = 'e' ∨ c = 'n' → False := by
    intro c hc hforeign
    rcases hall c hc with hd | rfl
    · rcases hforeign with rfl | rfl | rfl <;> exact absurd hd (by decide)
    · rcases hforeign with h | h | h <;> exact absurd h (by decide)
  cases x with
  | nan => exact hforeign 'n' (by decide) (by decide)
  | infinity negative => cases negative <;> exact hforeign 'n' (by decide) (by decide)
  | finite negative mantissa exponent =>
      -- Whatever the digits are, a point or an exponent is among them, or there are none at all.
      obtain ⟨body, htext, hbody⟩ : ∃ body,
          (Binary64.finite negative mantissa exponent).text =
            String.ofList (if negative then '-' :: body else body) ∧
          (body = [] ∨ '.' ∈ body ∨ 'e' ∈ body) := by
        by_cases hzero : mantissa = 0
        · exact ⟨['0', '.', '0'], by simp [text, hzero], .inr (.inl (by decide))⟩
        · refine ⟨layout (shortest mantissa exponent).digits (shortest mantissa exponent).point, ?_,
            layout_cases _ _⟩
          simp only [text, if_neg hzero]
      rw [htext, String.toList_ofList] at hdigit hforeign
      have hmem : ∀ c ∈ body, c ∈ (if negative then '-' :: body else body) := by
        intro c hc
        split
        · exact List.mem_cons_of_mem _ hc
        · exact hc
      rcases hbody with rfl | hpoint | hexponent
      · -- Without digits there is nothing but a sign.
        have hsign : digit = '-' := by
          cases negative <;> simp at hdigit
          exact hdigit
        rw [hsign] at hisDigit
        exact absurd hisDigit (by decide)
      · exact hforeign '.' (hmem _ hpoint) (by decide)
      · exact hforeign 'e' (hmem _ hexponent) (by decide)

/-- The characters in the text of a finite double. -/
def IsNumeric (c : Char) : Prop := c.isDigit = true ∨ c ∈ ['.', 'e', '+', '-']

theorem isNumeric_of_mem_digits {n : Nat} {c : Char} (h : c ∈ digits n) : IsNumeric c :=
  .inl (isDigit_of_mem_digits h)

theorem isNumeric_of_mem_zeros {n : Nat} {c : Char} (h : c ∈ List.replicate n '0') :
    IsNumeric c := by
  rw [List.eq_of_mem_replicate h]
  exact .inl (by decide)

namespace Binary64

theorem isNumeric_of_mem_exponentText {e : Int} {c : Char} (h : c ∈ exponentText e) :
    IsNumeric c := by
  rcases List.mem_cons.1 h with rfl | h
  · exact .inr (by split <;> decide)
  · split at h
    · rcases List.mem_cons.1 h with rfl | h
      · exact .inl (by decide)
      · exact isNumeric_of_mem_digits h
    · exact isNumeric_of_mem_digits h

theorem isNumeric_of_mem_layout {ds : List Char} {point : Int} {c : Char}
    (hds : ∀ d ∈ ds, IsNumeric d) (h : c ∈ layout ds point) : IsNumeric c := by
  have hzero : IsNumeric '0' := .inl (by decide)
  have hpoint : IsNumeric '.' := .inr (by decide)
  have hexponent : IsNumeric 'e' := .inr (by decide)
  unfold layout at h
  dsimp only at h
  split at h
  · split at h
    · simp only [List.mem_cons, List.mem_append] at h
      rcases h with rfl | rfl | h | h
      exacts [hzero, hpoint, isNumeric_of_mem_zeros h, hds c h]
    · split at h
      · simp only [List.mem_append, List.mem_cons, List.not_mem_nil, or_false] at h
        rcases h with (h | h) | rfl | rfl
        exacts [hds c h, isNumeric_of_mem_zeros h, hpoint, hzero]
      · simp only [List.mem_append, List.mem_cons] at h
        rcases h with h | rfl | h
        exacts [hds c (List.mem_of_mem_take h), hpoint, hds c (List.mem_of_mem_drop h)]
  · split at h
    · cases h
    · simp only [List.mem_cons] at h
      rcases h with rfl | rfl | h
      exacts [hds _ List.mem_cons_self, hexponent, isNumeric_of_mem_exponentText h]
    · simp only [List.mem_cons, List.mem_append] at h
      rcases h with rfl | rfl | h | rfl | h
      exacts [hds _ List.mem_cons_self, hpoint, hds c (List.mem_cons_of_mem _ h), hexponent,
        isNumeric_of_mem_exponentText h]

theorem DecimalForm.isNumeric_of_mem_digits {form : DecimalForm} {c : Char} (h : c ∈ form.digits) :
    IsNumeric c :=
  Number.isNumeric_of_mem_digits (Text.mem_of_mem_dropEndWhile h)

end Binary64

end Number

/-! ## Values -/

namespace Value

/-- The value is known by its content, and is no sequence that is gone through once. -/
def isData : Value → Bool
  | .stream _ | .object _ | .ref _ | .tupleAt _ _ => false
  | _ => true

/-- Null, a truth value, an integer, a text or bytes. -/
def isAtom : Value → Bool
  | .null | .bool _ | .int _ | .text _ | .bytes _ => true
  | _ => false

/-- The kinds of quoted forms, but for those of numbers, as their first characters tell them. -/
inductive Lead where
  | null
  | bool
  | number
  | decimal
  | text
  | style
  | bytes
  | list
  | tuple
  | map
  deriving DecidableEq

/-- What a first character tells. All numbers look alike. -/
def Lead.ofChar (c : Char) : Lead :=
  if c = 'N' then .null else if c = 'T' ∨ c = 'F' then .bool else if c = 'D' then .decimal
  else if c = '\x27' ∨ c = '\x22' then .text else if c = '<' then .style else if c = 'b' then .bytes
  else if c = '[' then .list else if c = '(' then .tuple else if c = '\x7b' then .map
  else .number

/-- What a text tells by its first character. -/
def Lead.ofText (s : String) : Lead := (s.toList.head?.map ofChar).getD .number

/-- What the quoted form of a value tells. -/
def lead : Value → Lead
  | .null => .null
  | .bool _ => .bool
  | .int _ | .float _ => .number
  | .decimal _ => .decimal
  | .text _ => .text
  | .style _ => .style
  | .bytes _ => .bytes
  | .list _ => .list
  | .tuple _ => .tuple
  | .map _ => .map
  | .stream _ | .object _ | .ref _ | .tupleAt _ _ => .style

theorem Lead.ofText_cons (c : Char) (cs : List Char) :
    ofText (String.ofList (c :: cs)) = ofChar c := by
  simp [ofText]

theorem Lead.ofText_append {s : String} (hs : s.toList ≠ []) (t : String) :
    ofText (s ++ t) = ofText s := by
  simp only [ofText, String.toList_append, List.head?_append_of_ne_nil _ hs]

theorem Lead.ofChar_digit {c : Char} (h : c.isDigit = true) : ofChar c = .number := by
  have hne : ∀ d : Char, d.isDigit = false → c ≠ d := by
    rintro d hd rfl
    rw [h] at hd
    cases hd
  simp [ofChar, hne 'N', hne 'T', hne 'F', hne 'D', hne '\x27', hne '\x22', hne '<', hne 'b', hne '[',
    hne '(', hne '\x7b']

theorem Lead.ofChar_of_isNumeric {c : Char} (h : Number.IsNumeric c) : ofChar c = .number := by
  rcases h with h | h
  · exact ofChar_digit h
  · simp only [List.mem_cons, List.not_mem_nil, or_false] at h
    rcases h with rfl | rfl | rfl | rfl <;> decide

/-- A text of which every character could be in a number tells no more than that. -/
theorem Lead.ofText_of_isNumeric {cs : List Char} (h : ∀ c ∈ cs, Number.IsNumeric c) :
    ofText (String.ofList cs) = .number := by
  cases cs with
  | nil => rfl
  | cons c cs => exact (ofText_cons c cs).trans (ofChar_of_isNumeric (h c List.mem_cons_self))

theorem Lead.ofText_integerText (n : Int) : ofText (Number.integerText n) = .number := by
  rw [← String.ofList_toList (s := Number.integerText n)]
  refine ofText_of_isNumeric fun c hc => ?_
  rcases (Number.toList_integerText n).2 c hc with h | rfl
  · exact .inl h
  · exact .inr (by decide)

theorem Lead.ofText_double (x : Number.Binary64) : ofText x.text = .number := by
  cases x with
  | nan => decide
  | infinity negative => cases negative <;> decide
  | finite negative mantissa exponent =>
      refine ofText_of_isNumeric fun c hc => ?_
      have hbody : ∀ d, d ∈ (if mantissa = 0 then ['0', '.', '0']
          else Number.Binary64.layout (Number.Binary64.shortest mantissa exponent).digits
            (Number.Binary64.shortest mantissa exponent).point) → Number.IsNumeric d := by
        intro d hd
        split at hd
        · simp only [List.mem_cons, List.not_mem_nil, or_false] at hd
          rcases hd with rfl | rfl | rfl
          exacts [.inl (by decide), .inr (by decide), .inl (by decide)]
        · exact Number.Binary64.isNumeric_of_mem_layout
            (fun _ => Number.Binary64.DecimalForm.isNumeric_of_mem_digits) hd
      split at hc
      · rcases List.mem_cons.1 hc with rfl | hc
        · exact .inr (by decide)
        · exact hbody c hc
      · exact hbody c hc

theorem Lead.ofText_quoted (s : String) : ofText (Text.quoted s) = .text := by
  rw [Text.quoted, Text.quoteWith, ofText_cons]
  rcases Text.isQuote_chooseQuote s.toList with h | h <;> rw [h] <;> decide

theorem Lead.ofText_enclose {left : String} (hleft : left.toList ≠ []) (right : String)
    (items : List String) : ofText (enclose left right items) = ofText left := by
  rw [enclose, String.append_assoc, ofText_append hleft]

/-- The quoted form of data tells what kind of value it is of, but does not tell the kinds of numbers apart. -/
theorem Lead.ofText_quoted_value {v : Value} (hv : v.isData = true) : ofText v.quoted = v.lead := by
  cases v with
  | null => decide
  | bool b => cases b <;> decide
  | int n => exact ofText_integerText n
  | float x => exact ofText_double x
  | decimal d => rw [quoted, String.append_assoc, ofText_append (by decide)]; rfl
  | text s => exact ofText_quoted s
  | style s => rw [quoted]; simp only [String.append_assoc]; rw [ofText_append (by decide)]; rfl
  | bytes bs => rw [quoted, Text.quotedBytes, ofText_append (by decide)]; rfl
  | list items => rw [quoted, ofText_enclose (by decide)]; rfl
  | tuple items =>
      rw [quoted]
      split
      · rw [String.append_assoc, ofText_append (by decide)]; rfl
      · rw [ofText_enclose (by decide)]; rfl
  | map entries => rw [quoted, ofText_enclose (by decide)]; rfl
  | stream items => cases hv
  | object label => cases hv
  | ref id => cases hv
  | tupleAt id items => cases hv

/-- Null, truth values, integers, texts and bytes are known by their quoted forms among all data. -/
theorem eq_of_quoted_eq {v w : Value} (hv : v.isAtom = true) (hw : w.isData = true)
    (h : v.quoted = w.quoted) : v = w := by
  have hdata : v.isData = true := by cases v <;> first | rfl | cases hv
  have hlead : v.lead = w.lead := by
    rw [← Lead.ofText_quoted_value hdata, ← Lead.ofText_quoted_value hw, h]
  cases v with
  | null =>
      cases w with
      | null => rfl
      | _ => cases hlead
  | bool b =>
      cases w with
      | bool c => cases b <;> cases c <;> first | rfl | exact absurd h (by decide)
      | _ => cases hlead
  | int n =>
      cases w with
      | int m => rw [Number.integerText_injective h]
      | float x => exact absurd h.symm (Number.Binary64.text_ne_integerText x n)
      | _ => cases hlead
  | text s =>
      cases w with
      | text t => rw [Text.quoted_injective h]
      | _ => cases hlead
  | bytes bs =>
      cases w with
      | bytes cs => rw [Text.quotedBytes_injective h]
      | _ => cases hlead
  | _ => cases hv

end Value

end FluentSql
