import FluentSql.Identifier
import FluentSql.Proofs.Identifier.Inert
/-
# FluentSql.Proofs.Identifier.Reading — quoted names are read back as what they were.

A reader of quoted names goes by the mark alone: a part is the star, or runs from a mark to the next one that is not
doubled; behind a part comes a point with another part or the end of the name, behind a name a comma with another name
or the end of the list. As long as the mark is none of these characters, such a reader has no choice wherever it
stands (`IsUnambiguous`), and what it finds are the parts of the names (`quote?_reads_back`).
-/

namespace FluentSql.Identifier

/-! ## Readers -/

/-- What a reader finds at the front of a text, and where it stops, is settled as long as none of some characters
follows. -/
def IsUnambiguous {α : Type} (reads : List Char → α → Prop) (stops : List Char) : Prop :=
  ∀ text text' a a' rest rest', reads text a → reads text' a' →
    (∀ c ∈ rest.head?, c ∉ stops) → (∀ c ∈ rest'.head?, c ∉ stops) → text ++ rest = text' ++ rest' →
      a = a' ∧ rest = rest'

/-- Things that are read one after the other, with glue between them. -/
inductive ReadsJoined {α : Type} (reads : List Char → α → Prop) (glue : List Char) : List Char → List α → Prop where
  | last {text a} (h : reads text a) : ReadsJoined reads glue text [a]
  | next {text a more others} (h : reads text a) (hmore : ReadsJoined reads glue more others) :
      ReadsJoined reads glue (text ++ glue ++ more) (a :: others)

/-- Characters between marks, in which the mark itself is doubled. -/
inductive ReadsDoubled (mark : Char) : List Char → List Char → Prop where
  | nil : ReadsDoubled mark [] []
  | char {c text content} (hc : c ≠ mark) (h : ReadsDoubled mark text content) :
      ReadsDoubled mark (c :: text) (c :: content)
  | doubled {text content} (h : ReadsDoubled mark text content) :
      ReadsDoubled mark (mark :: mark :: text) (mark :: content)

/-- A part of a name: the star, or what is between marks. -/
inductive ReadsPart (mark : Char) : List Char → List Char → Prop where
  | star : ReadsPart mark ['*'] ['*']
  | quoted {text content} (h : ReadsDoubled mark text content) : ReadsPart mark (mark :: (text ++ [mark])) content

/-- A name: its parts, with points between them. -/
abbrev ReadsName (mark : Char) : List Char → List (List Char) → Prop := ReadsJoined (ReadsPart mark) ['.']

/-- A list of names, with commas between them. -/
def ReadsNames (mark : Char) (text : List Char) (names : List (List (List Char))) : Prop :=
  (text = [] ∧ names = []) ∨ ReadsJoined (ReadsName mark) [',', ' '] text names

variable {mark : Char}

/-! ## Readers have no choice -/

theorem IsUnambiguous.eq {α : Type} {reads : List Char → α → Prop} {stops : List Char}
    (h : IsUnambiguous reads stops) {text : List Char} {a a' : α} (ha : reads text a) (ha' : reads text a') : a = a' :=
  (h text text a a' [] [] ha ha' (by simp) (by simp) rfl).1

/-- Where the glue starts with a character that does not stop a thing, several of them are told apart as well, if that
character does not follow. -/
theorem IsUnambiguous.joined {α : Type} {reads : List Char → α → Prop} {stops : List Char}
    (h : IsUnambiguous reads stops) {first : Char} (hfirst : first ∉ stops) (glue : List Char) :
    IsUnambiguous (ReadsJoined reads (first :: glue)) (first :: stops) := by
  intro text text' all all' rest rest' hall hall' hrest hrest' htexts
  have hends : ∀ {rest : List Char}, (∀ c ∈ rest.head?, c ∉ first :: stops) → ∀ c ∈ rest.head?, c ∉ stops :=
    fun hrest c hc hmem => hrest c hc (List.mem_cons_of_mem _ hmem)
  have hgoesOn : ∀ more : List Char, ∀ c ∈ (first :: more).head?, c ∉ stops := by
    rintro more _ ⟨⟩
    exact hfirst
  have hdiffers : ∀ {rest more : List Char}, (∀ c ∈ rest.head?, c ∉ first :: stops) → rest ≠ first :: more := by
    rintro _ more hrest rfl
    exact hrest first rfl List.mem_cons_self
  induction hall generalizing text' all' with
  | last ha =>
      cases hall' with
      | last ha' =>
          obtain ⟨rfl, rfl⟩ := h _ _ _ _ _ _ ha ha' (hends hrest) (hends hrest') htexts
          exact ⟨rfl, rfl⟩
      | next ha' hmore' =>
          simp only [List.append_assoc, List.cons_append] at htexts
          obtain ⟨-, hbehind⟩ := h _ _ _ _ _ _ ha ha' (hends hrest) (hgoesOn _) htexts
          exact absurd hbehind (hdiffers hrest)
  | next ha hmore ih =>
      cases hall' with
      | last ha' =>
          simp only [List.append_assoc, List.cons_append] at htexts
          obtain ⟨-, hbehind⟩ := h _ _ _ _ _ _ ha ha' (hgoesOn _) (hends hrest') htexts
          exact absurd hbehind.symm (hdiffers hrest')
      | next ha' hmore' =>
          simp only [List.append_assoc, List.cons_append] at htexts
          obtain ⟨rfl, hbehind⟩ := h _ _ _ _ _ _ ha ha' (hgoesOn _) (hgoesOn _) htexts
          obtain ⟨rfl, rfl⟩ := ih _ _ hmore' (List.append_cancel_left (List.tail_eq_of_cons_eq hbehind))
          exact ⟨rfl, rfl⟩

/-- A mark that is not doubled ends what is between marks. -/
theorem ReadsDoubled.eq {text text' content content' rest rest' : List Char} (h : ReadsDoubled mark text content)
    (h' : ReadsDoubled mark text' content') (hrest : rest.head? ≠ some mark) (hrest' : rest'.head? ≠ some mark)
    (htexts : text ++ mark :: rest = text' ++ mark :: rest') : content = content' ∧ rest = rest' := by
  induction h generalizing text' content' with
  | nil =>
      cases h' with
      | nil => exact ⟨rfl, List.tail_eq_of_cons_eq htexts⟩
      | char hc h' => exact absurd (List.head_eq_of_cons_eq htexts).symm hc
      | doubled h' => exact absurd (congrArg List.head? (List.tail_eq_of_cons_eq htexts)) hrest
  | char hc h ih =>
      cases h' with
      | nil => exact absurd (List.head_eq_of_cons_eq htexts) hc
      | doubled h' => exact absurd (List.head_eq_of_cons_eq htexts) hc
      | char hc' h' =>
          obtain ⟨rfl, hbehind⟩ := List.cons.inj htexts
          obtain ⟨rfl, rfl⟩ := ih h' hbehind
          exact ⟨rfl, rfl⟩
  | doubled h ih =>
      cases h' with
      | nil => exact absurd (congrArg List.head? (List.tail_eq_of_cons_eq htexts)).symm hrest'
      | char hc h' => exact absurd (List.head_eq_of_cons_eq htexts).symm hc
      | doubled h' =>
          obtain ⟨rfl, rfl⟩ := ih h' (List.tail_eq_of_cons_eq (List.tail_eq_of_cons_eq htexts))
          exact ⟨rfl, rfl⟩

theorem isUnambiguous_part (hstar : mark ≠ '*') : IsUnambiguous (ReadsPart mark) [mark] := by
  intro text text' part part' rest rest' hpart hpart' hrest hrest' htexts
  have hends : ∀ {rest : List Char}, (∀ c ∈ rest.head?, c ∉ [mark]) → rest.head? ≠ some mark :=
    fun hrest hmark => hrest mark hmark List.mem_cons_self
  cases hpart with
  | star =>
      cases hpart' with
      | star => exact ⟨rfl, List.tail_eq_of_cons_eq htexts⟩
      | quoted h' => exact absurd (List.head_eq_of_cons_eq htexts).symm hstar
  | quoted h =>
      cases hpart' with
      | star => exact absurd (List.head_eq_of_cons_eq htexts) hstar
      | quoted h' =>
          refine h.eq h' (hends hrest) (hends hrest') ?_
          simpa using htexts

theorem isUnambiguous_name (hstar : mark ≠ '*') (hpoint : mark ≠ '.') :
    IsUnambiguous (ReadsName mark) ['.', mark] :=
  (isUnambiguous_part hstar).joined (by simpa using hpoint.symm) []

theorem ReadsJoined.ne_nil {α : Type} {reads : List Char → α → Prop} {glue text : List Char} {all : List α}
    (h : ReadsJoined reads glue text all) (hreads : ∀ text a, reads text a → text ≠ []) : text ≠ [] := by
  cases h with
  | last ha => exact hreads _ _ ha
  | next ha hmore => simp [hreads _ _ ha]

theorem ReadsName.ne_nil {text : List Char} {parts : List (List Char)} (h : ReadsName mark text parts) : text ≠ [] :=
  ReadsJoined.ne_nil h fun _ _ hpart => by cases hpart <;> simp

theorem ReadsNames.eq (hmark : mark ∉ ['.', '*', ',', ' ']) {text : List Char} {names others : List (List (List Char))}
    (h : ReadsNames mark text names) (h' : ReadsNames mark text others) : names = others := by
  have hstar : mark ≠ '*' := fun h => hmark (by simp [h])
  have hpoint : mark ≠ '.' := fun h => hmark (by simp [h])
  have hcomma : ',' ∉ ['.', mark] := by
    have hne : ',' ≠ mark := fun h => hmark (by simp [← h])
    simp [hne]
  have hjoined := (isUnambiguous_name hstar hpoint).joined hcomma [' ']
  rcases h with ⟨rfl, rfl⟩ | h
  · rcases h' with ⟨-, rfl⟩ | h'
    · rfl
    · exact absurd rfl (h'.ne_nil fun _ _ => ReadsName.ne_nil)
  · rcases h' with ⟨rfl, rfl⟩ | h'
    · exact absurd rfl (h.ne_nil fun _ _ => ReadsName.ne_nil)
    · exact hjoined.eq h h'

/-! ## What is quoted is read -/

theorem readsDoubled_replaceAll (mark : Char) (part : List Char) :
    ReadsDoubled mark (Text.replaceAll [mark] [mark, mark] part) part := by
  induction part with
  | nil =>
      rw [Text.replaceAll_singleton_nil]
      exact .nil
  | cons c part ih =>
      rw [Text.replaceAll_singleton_cons]
      by_cases hc : mark = c
      · rw [if_pos hc, ← hc]
        exact .doubled ih
      · rw [if_neg hc]
        exact .char (Ne.symm hc) ih

theorem readsPart_quotePart (mark : Char) (part : List Char) : ReadsPart mark (quotePart [mark] part) part := by
  unfold quotePart
  split
  · rename_i hstar
    rw [hstar]
    exact .star
  · exact .quoted (readsDoubled_replaceAll mark part)

theorem readsJoined_intercalate {α β : Type} {reads : List Char → α → Prop} (glue : List Char) {f : β → List Char}
    {g : β → α} {items : List β} (hne : items ≠ []) (h : ∀ b ∈ items, reads (f b) (g b)) :
    ReadsJoined reads glue (glue.intercalate (items.map f)) (items.map g) := by
  induction items with
  | nil => exact absurd rfl hne
  | cons b items ih =>
      obtain ⟨hb, hitems⟩ := List.forall_mem_cons.1 h
      cases items with
      | nil => simpa using ReadsJoined.last hb
      | cons next items =>
          rw [List.map_cons, List.map_cons, List.intercalate_cons_cons, ← List.map_cons]
          exact .next hb (ih (List.cons_ne_nil _ _) hitems)

theorem readsName_quoteChars (mark : Char) (name : List Char) :
    ReadsName mark (quoteChars [mark] name) (Text.splitOn ['.'] name) := by
  have hparts : ReadsJoined (ReadsPart mark) ['.'] (quoteChars [mark] name) ((Text.splitOn ['.'] name).map id) :=
    readsJoined_intercalate ['.'] (Text.splitOn_ne_nil ['.'] name) fun part _ => readsPart_quotePart mark part
  rwa [List.map_id] at hparts

theorem readsNames_quoteNames (mark : Char) (names : List String) :
    ReadsNames mark (quoteNames (String.singleton mark) names).toList
      (names.map fun name => Text.splitOn ['.'] name.toList) := by
  cases names with
  | nil => exact .inl ⟨rfl, rfl⟩
  | cons name names =>
      have hname : ∀ other ∈ name :: names,
          ReadsName mark (quoteChars [mark] other.toList) (Text.splitOn ['.'] other.toList) :=
        fun other _ => readsName_quoteChars mark other.toList
      have hnames := readsJoined_intercalate [',', ' '] (List.cons_ne_nil name names) hname
      have htext : (quoteNames (String.singleton mark) (name :: names)).toList =
          [',', ' '].intercalate ((name :: names).map fun name => quoteChars [mark] name.toList) := by
        rw [quoteNames, String.toList_intercalate, List.map_map]
        simp [quoteName, Function.comp_def]
      rw [htext]
      exact .inr hnames

/-! ## Names and lists of names -/

/-- **Quoted names are read back as what they were, and no part of a name ends its quotes early.** Between marks that
are no point, star, comma or blank, every name and every list of names has one reading, which gives the parts of the
names between their points. So different names and different lists of names are quoted differently; and whatever is
read at the front of a quoted part, with no mark behind it, is that part and ends where it ends. -/
theorem quote?_reads_back (hmark : mark ∉ ['.', '*', ',', ' ']) :
    let quoted (names : Value) := quote? (String.singleton mark) names
    (∀ name : String, ∃ written, quoted (.text name) = .ok written ∧
        ∀ parts, ReadsName mark written.toList parts ↔ parts = Text.splitOn ['.'] name.toList) ∧
      (∀ names : List String, ∃ written, quoted (.list (names.map .text)) = .ok written ∧
        ∀ all, ReadsNames mark written.toList all ↔ all = names.map fun name => Text.splitOn ['.'] name.toList) ∧
      (∀ name other : String, quoted (.text name) = quoted (.text other) → name = other) ∧
      (∀ names others : List String,
        quoted (.list (names.map .text)) = quoted (.list (others.map .text)) → names = others) ∧
      ∀ part rest text read more, rest.head? ≠ some mark → more.head? ≠ some mark → ReadsPart mark text read →
        quotePart [mark] part ++ rest = text ++ more → read = part ∧ more = rest := by
  intro quoted
  have hstar : mark ≠ '*' := fun h => hmark (by simp [h])
  have hpoint : mark ≠ '.' := fun h => hmark (by simp [h])
  have hsplit : ∀ name other : String, Text.splitOn ['.'] name.toList = Text.splitOn ['.'] other.toList →
      name = other := by
    intro name other hparts
    rw [← String.toList_inj, ← Text.intercalate_splitOn ['.'] name.toList, hparts, Text.intercalate_splitOn]
  have hname : ∀ name : String, ReadsName mark (quoteName (String.singleton mark) name).toList
      (Text.splitOn ['.'] name.toList) := by
    intro name
    rw [quoteName, String.toList_ofList, String.toList_singleton]
    exact readsName_quoteChars mark name.toList
  refine ⟨fun name => ⟨_, rfl, fun parts => ?_⟩, fun names => ⟨_, quote?_list _ names, fun all => ?_⟩, ?_, ?_, ?_⟩
  · constructor
    · exact fun h => (isUnambiguous_name hstar hpoint).eq h (hname name)
    · rintro rfl
      exact hname name
  · constructor
    · exact fun h => h.eq hmark (readsNames_quoteNames mark names)
    · rintro rfl
      exact readsNames_quoteNames mark names
  · intro name other hsame
    have hread := hname name
    rw [Except.ok.inj hsame] at hread
    exact hsplit name other ((isUnambiguous_name hstar hpoint).eq hread (hname other))
  · intro names others hsame
    have hread := readsNames_quoteNames mark names
    simp only [quoted, quote?_list] at hsame
    rw [Except.ok.inj hsame] at hread
    refine List.map_injective_iff.2 (fun name other => hsplit name other) ?_
    exact hread.eq hmark (readsNames_quoteNames mark others)
  · intro part rest text read more hrest hmore hread htexts
    have hends : ∀ {rest : List Char}, rest.head? ≠ some mark → ∀ c ∈ rest.head?, c ∉ [mark] := by
      rintro rest hrest c hc hmem
      rw [List.mem_singleton.1 hmem] at hc
      exact hrest hc
    obtain ⟨rfl, rfl⟩ := isUnambiguous_part hstar _ _ _ _ _ _ (readsPart_quotePart mark part) hread (hends hrest)
      (hends hmore) htexts
    exact ⟨rfl, rfl⟩

/-- Names that hold the mark, points, commas and stars, and a name of no characters. -/
theorem quote?_reads_back_hostile :
    ∃ written, quote? "\x22" (.list [.text "id\x22, \x22pin", .text "", .text "o\x22.*.\x22"]) = .ok written ∧
      ∀ all, ReadsNames '\x22' written.toList all ↔
        all = [["id\x22, \x22pin".toList], [[]], ["o\x22".toList, ['*'], ['\x22']]] := by
  have hmark : '\x22' ∉ ['.', '*', ',', ' '] := by decide
  obtain ⟨-, hnames, -⟩ := quote?_reads_back hmark
  obtain ⟨written, hquoted, hread⟩ := hnames ["id\x22, \x22pin", "", "o\x22.*.\x22"]
  refine ⟨written, hquoted, fun all => ?_⟩
  have hparts : (["id\x22, \x22pin", "", "o\x22.*.\x22"].map fun name => Text.splitOn ['.'] name.toList) =
      [["id\x22, \x22pin".toList], [[]], ["o\x22".toList, ['*'], ['\x22']]] := by
    simp [Text.splitOn_singleton_cons, Text.splitOn, Text.consFirst]
  rw [hread, hparts]

end FluentSql.Identifier
