import FluentSql.Proofs.Text.Slots
/-
# FluentSql.Proofs.Text.Joining — joining texts without the blank ones.

What is joined are the pieces of which trimming leaves something (`solidPieces`). They are solid, so what is joined from
them is solid as well, whatever the glue is, and trimming leaves it alone. It makes no difference, then, whether pieces
are joined at once or in groups first (`joinNonBlank_flatten`).
-/

namespace FluentSql.Text

/-! ## Trimmed texts -/

theorem dropEndWhile_eq_nil_iff {p : Char → Bool} {cs : List Char} :
    dropEndWhile p cs = [] ↔ ∀ c ∈ cs, p c = true := by
  induction cs with
  | nil => simp [dropEndWhile]
  | cons c cs ih =>
      by_cases hrest : dropEndWhile p cs = []
      · simp [dropEndWhile, hrest, ← ih]
      · simp [dropEndWhile_cons_of_ne_nil c hrest, ← ih, hrest]

theorem getLast?_dropEndWhile {p : Char → Bool} {cs : List Char} {c : Char}
    (h : (dropEndWhile p cs).getLast? = some c) : p c = false := by
  induction cs with
  | nil => cases h
  | cons d cs ih =>
      by_cases hrest : dropEndWhile p cs = []
      · by_cases hd : p d = true
        · simp [dropEndWhile, hrest, hd] at h
        · simp only [dropEndWhile, hrest, if_neg hd, List.getLast?_singleton, Option.some.injEq] at h
          rw [← h]
          simpa using hd
      · rw [dropEndWhile_cons_of_ne_nil d hrest, List.getLast?_cons, Option.some.injEq] at h
        refine ih ?_
        rw [← h, List.getLast?_eq_some_getLast hrest]
        rfl

theorem head?_dropEndWhile {p : Char → Bool} {cs : List Char} (h : dropEndWhile p cs ≠ []) :
    (dropEndWhile p cs).head? = cs.head? := by
  cases cs with
  | nil => rfl
  | cons c cs =>
      by_cases hrest : dropEndWhile p cs = []
      · by_cases hc : p c = true
        · exact absurd (by simp [dropEndWhile, hrest, hc]) h
        · simp [dropEndWhile, hrest, hc]
      · rw [dropEndWhile_cons_of_ne_nil c hrest, List.head?_cons, List.head?_cons]

/-- Nothing is left of a text exactly if all of it is blank. -/
theorem trimChars_eq_nil_iff {cs : List Char} : trimChars cs = [] ↔ ∀ c ∈ cs, isBlank c = true := by
  rw [trimChars, dropEndWhile_eq_nil_iff]
  induction cs with
  | nil => simp
  | cons c cs ih =>
      by_cases hc : isBlank c = true
      · simp [List.dropWhile_cons_of_pos hc, ih, hc]
      · simp [List.dropWhile_cons_of_neg hc]

/-- What is left of a text is solid. -/
theorem isSolid_trimChars {cs : List Char} (h : trimChars cs ≠ []) : IsSolid (trimChars cs) := by
  refine ⟨h, fun c hc => ?_, fun c hc => getLast?_dropEndWhile hc⟩
  rw [trimChars, head?_dropEndWhile h] at hc
  have hfirst := List.head?_dropWhile_not isBlank cs
  rw [hc] at hfirst
  exact hfirst

/-! ## Solid texts put together -/

theorem IsSolid.append {cs ds : List Char} (hcs : IsSolid cs) (hds : IsSolid ds) (middle : List Char) :
    IsSolid (cs ++ middle ++ ds) := by
  obtain ⟨c, cs, rfl⟩ := List.exists_cons_of_ne_nil hcs.ne_nil
  refine ⟨by simp, fun d hd => hcs.head d (by simpa using hd), fun d hd => hds.last d ?_⟩
  rw [List.getLast?_append, List.getLast?_eq_some_getLast hds.ne_nil] at hd
  rwa [List.getLast?_eq_some_getLast hds.ne_nil]

theorem isSolid_intercalate (glue : List Char) {pieces : List (List Char)} (hne : pieces ≠ [])
    (h : ∀ piece ∈ pieces, IsSolid piece) : IsSolid (glue.intercalate pieces) := by
  induction pieces with
  | nil => exact absurd rfl hne
  | cons piece pieces ih =>
      cases pieces with
      | nil => simpa using h piece List.mem_cons_self
      | cons next pieces =>
          rw [List.intercalate_cons_cons]
          exact (h piece List.mem_cons_self).append
            (ih (by simp) fun p hp => h p (List.mem_cons_of_mem _ hp)) glue

/-! ## Pieces -/

/-- The pieces that are joined: trimmed, and without those of which nothing is left. -/
def solidPieces (pieces : List String) : List String := (pieces.map trim).filter fun piece => !piece.isEmpty

theorem joinNonBlank_eq (glue : String) (pieces : List String) :
    joinNonBlank glue pieces = glue.intercalate (solidPieces pieces) := rfl

@[simp] theorem solidPieces_nil : solidPieces [] = [] := rfl

@[simp] theorem solidPieces_append (pieces more : List String) :
    solidPieces (pieces ++ more) = solidPieces pieces ++ solidPieces more := by
  simp [solidPieces]

theorem trim_eq_empty_iff {s : String} : trim s = "" ↔ ∀ c ∈ s.toList, isBlank c = true := by
  rw [← trimChars_eq_nil_iff, trim, ← String.toList_eq_nil_iff, String.toList_ofList]

theorem trim_of_isSolid {s : String} (h : IsSolid s.toList) : trim s = s := by
  rw [trim, h.trimChars_eq, String.ofList_toList]

theorem solidPieces_cons_of_blank {piece : String} (h : ∀ c ∈ piece.toList, isBlank c = true) (pieces : List String) :
    solidPieces (piece :: pieces) = solidPieces pieces := by
  simp [solidPieces, trim_eq_empty_iff.2 h]

theorem solidPieces_cons_of_isSolid {piece : String} (h : IsSolid piece.toList) (pieces : List String) :
    solidPieces (piece :: pieces) = piece :: solidPieces pieces := by
  have hne : piece ≠ "" := fun hempty => h.ne_nil (String.toList_eq_nil_iff.2 hempty)
  simp [solidPieces, trim_of_isSolid h, hne]

theorem solidPieces_eq_nil_iff {pieces : List String} :
    solidPieces pieces = [] ↔ ∀ piece ∈ pieces, ∀ c ∈ piece.toList, isBlank c = true := by
  simp [solidPieces, List.filter_eq_nil_iff, ← trim_eq_empty_iff]

theorem isSolid_of_mem_solidPieces {pieces : List String} {piece : String} (h : piece ∈ solidPieces pieces) :
    IsSolid piece.toList := by
  obtain ⟨htrimmed, hne⟩ := List.mem_filter.1 h
  obtain ⟨s, -, rfl⟩ := List.mem_map.1 htrimmed
  have hleft : trimChars s.toList ≠ [] := by
    rintro hnil
    simp [trim, hnil] at hne
  rw [trim, String.toList_ofList]
  exact isSolid_trimChars hleft

/-! ## Joining -/

variable {glue : String} {pieces : List String}

/-- What is joined from any piece at all is solid. -/
theorem isSolid_joinNonBlank (h : solidPieces pieces ≠ []) : IsSolid (joinNonBlank glue pieces).toList := by
  rw [joinNonBlank_eq, String.toList_intercalate]
  refine isSolid_intercalate _ (by simpa using h) fun cs hcs => ?_
  obtain ⟨piece, hpiece, rfl⟩ := List.mem_map.1 hcs
  exact isSolid_of_mem_solidPieces hpiece

theorem joinNonBlank_eq_empty_iff : joinNonBlank glue pieces = "" ↔ solidPieces pieces = [] := by
  constructor
  · intro hempty
    by_cases hnil : solidPieces pieces = []
    · exact hnil
    · exact absurd (String.toList_eq_nil_iff.2 hempty) (isSolid_joinNonBlank hnil).ne_nil
  · intro hnil
    rw [joinNonBlank_eq, hnil, String.intercalate_nil]

/-- What is joined from a group is one piece, if it is anything. -/
theorem solidPieces_joinNonBlank_cons (group : List String) (more : List String) :
    solidPieces (joinNonBlank glue group :: more) =
      if solidPieces group = [] then solidPieces more else joinNonBlank glue group :: solidPieces more := by
  split
  · rename_i hnil
    refine solidPieces_cons_of_blank ?_ more
    simp [joinNonBlank_eq_empty_iff.2 hnil]
  · rename_i hne
    exact solidPieces_cons_of_isSolid (isSolid_joinNonBlank hne) more

/-- A solid piece behind others is joined to what they are joined to. -/
theorem joinNonBlank_concat {last : String} (hne : solidPieces pieces ≠ []) (hlast : IsSolid last.toList) :
    joinNonBlank glue (pieces ++ [last]) = joinNonBlank glue pieces ++ glue ++ last := by
  rw [joinNonBlank_eq, solidPieces_append, solidPieces_cons_of_isSolid hlast, solidPieces_nil,
    String.intercalate_append_of_ne_nil hne (by simp), String.intercalate_singleton, joinNonBlank_eq]

/-- **Joining groups of pieces, and then what they were joined to, is joining all pieces.** -/
theorem joinNonBlank_flatten (glue : String) (groups : List (List String)) :
    joinNonBlank glue (groups.map (joinNonBlank glue)) = joinNonBlank glue groups.flatten := by
  -- Groups without a solid piece are left out on both sides, so no glue is left over for them.
  have hnil : ∀ groups : List (List String), solidPieces (groups.map (joinNonBlank glue)) = [] ↔
      solidPieces groups.flatten = [] := by
    intro groups
    induction groups with
    | nil => simp
    | cons group groups ih =>
        rw [List.map_cons, solidPieces_joinNonBlank_cons, List.flatten_cons, solidPieces_append, List.append_eq_nil_iff]
        split <;> simp_all
  induction groups with
  | nil => rfl
  | cons group groups ih =>
      rw [joinNonBlank_eq, joinNonBlank_eq] at ih ⊢
      rw [List.map_cons, solidPieces_joinNonBlank_cons, List.flatten_cons, solidPieces_append]
      by_cases hgroup : solidPieces group = []
      · rw [if_pos hgroup, ih, hgroup, List.nil_append]
      rw [if_neg hgroup]
      by_cases hrest : solidPieces groups.flatten = []
      · rw [(hnil groups).2 hrest, hrest, List.append_nil, String.intercalate_singleton, joinNonBlank_eq]
      · rw [String.intercalate_cons_of_ne_nil (mt (hnil groups).1 hrest), ih,
          String.intercalate_append_of_ne_nil hgroup hrest, joinNonBlank_eq]

/-- **Clauses are joined as lists are appended.** What is joined in two parts is joined to the same as all pieces at once,
whatever the glue is. It is empty exactly if every piece is blank, and else neither starts nor ends with a blank. Blank
pieces may stand anywhere among the others and change nothing. -/
theorem joinNonBlank_append (glue : String) (pieces more : List String) :
    joinNonBlank glue [joinNonBlank glue pieces, joinNonBlank glue more] = joinNonBlank glue (pieces ++ more) ∧
      (joinNonBlank glue pieces = "" ↔ ∀ piece ∈ pieces, ∀ c ∈ piece.toList, isBlank c = true) ∧
      (joinNonBlank glue pieces ≠ "" → IsSolid (joinNonBlank glue pieces).toList) ∧
      ∀ blanks : List String, (∀ blank ∈ blanks, ∀ c ∈ blank.toList, isBlank c = true) →
        joinNonBlank glue (pieces ++ (blanks ++ more)) = joinNonBlank glue (pieces ++ more) := by
  have hjoined := joinNonBlank_flatten glue [pieces, more]
  refine ⟨by simpa using hjoined, joinNonBlank_eq_empty_iff.trans solidPieces_eq_nil_iff, ?_, ?_⟩
  · intro hne
    exact isSolid_joinNonBlank (mt joinNonBlank_eq_empty_iff.2 hne)
  · intro blanks hblanks
    rw [joinNonBlank_eq, joinNonBlank_eq, solidPieces_append, solidPieces_append, solidPieces_append,
      solidPieces_eq_nil_iff.2 hblanks, List.nil_append]

end FluentSql.Text
