import FluentSql.Cache.Key
import FluentSql.Proofs.Value.Quoted
import Mathlib.Data.List.Forall2
import Mathlib.Data.List.Nodup
/-
# FluentSql.Proofs.Cache.KeyText — which reads are kept under one key.

Two reads have the same key text exactly if they are of the same statement and their parameters have the same
quoted forms, in the same positions or under the same names (`keyText_eq_iff`). The order in which
parameters were named does not count, as they are sorted before they are written.
-/

namespace FluentSql

/-! ## Entries whose keys are all different -/

namespace Entries

variable {κ α β : Type} [BEq κ]

theorem get?_eq_some_iff [LawfulBEq κ] {entries : Entries κ α} (h : (keys entries).Nodup) (key : κ)
    (value : α) : get? key entries = some value ↔ (key, value) ∈ entries := by
  induction entries with
  | nil => simp
  | cons e rest ih =>
      obtain ⟨other, old⟩ := e
      obtain ⟨hother, hrest⟩ := List.nodup_cons.1 h
      by_cases hsame : other = key
      · subst hsame
        have habsent : (other, value) ∉ rest := fun hmem => hother (List.mem_map.2 ⟨_, hmem, rfl⟩)
        simp [get?, habsent, eq_comm]
      · have hne : (key, value) ≠ (other, old) := fun heq => hsame (congrArg Prod.fst heq).symm
        have hget : get? key ((other, old) :: rest) = get? key rest := by simp [get?, hsame]
        rw [hget, ih hrest, List.mem_cons, or_iff_right hne]

/-- Entries in another order have the same values under the same keys, and the other way round. -/
theorem perm_iff_get?_eq [LawfulBEq κ] {entries others : Entries κ α} (h : (keys entries).Nodup)
    (h' : (keys others).Nodup) :
    List.Perm entries others ↔ ∀ key, get? key entries = get? key others := by
  rw [List.perm_ext_iff_of_nodup (List.Nodup.of_map _ h) (List.Nodup.of_map _ h')]
  constructor
  · intro hmem key
    refine Option.ext fun value => ?_
    rw [get?_eq_some_iff h, get?_eq_some_iff h', hmem]
  · rintro hget ⟨key, value⟩
    rw [← get?_eq_some_iff h, ← get?_eq_some_iff h', hget]

theorem nodup_keys_putAll [LawfulBEq κ] {entries : Entries κ α} (h : (keys entries).Nodup)
    (updates : Entries κ α) : (keys (putAll entries updates)).Nodup := by
  induction updates generalizing entries with
  | nil => exact h
  | cons e updates ih => exact ih (nodup_keys_put h e.1 e.2)

theorem nodup_keys_ofPairs [LawfulBEq κ] (pairs : List (κ × α)) : (keys (ofPairs pairs)).Nodup := by
  have hnone : (keys ([] : Entries κ α)).Nodup := List.nodup_nil
  exact nodup_keys_putAll hnone pairs

theorem put_of_not_mem [LawfulBEq κ] {key : κ} {entries : Entries κ α} (h : key ∉ keys entries)
    (value : α) : put key value entries = entries ++ [(key, value)] := by
  induction entries with
  | nil => rfl
  | cons e rest ih =>
      obtain ⟨hne, hrest⟩ := not_or.1 (mt List.mem_cons.2 h)
      have hother : (e.1 == key) = false := beq_eq_false_iff_ne.2 (Ne.symm hne)
      rw [put, hother, if_neg Bool.false_ne_true, ih hrest, List.cons_append]

/-- Writing pairs whose keys are all different leaves these pairs. -/
theorem ofPairs_of_nodup [LawfulBEq κ] {pairs : List (κ × α)} (h : (keys pairs).Nodup) :
    ofPairs pairs = pairs := by
  suffices main : ∀ entries : Entries κ α, (keys (entries ++ pairs)).Nodup →
      putAll entries pairs = entries ++ pairs from main [] h
  clear h
  induction pairs with
  | nil => simp [putAll]
  | cons e pairs ih =>
      intro entries hnodup
      have hnew : e.1 ∉ keys entries := by
        intro hmem
        rw [keys, List.map_append, List.map_cons] at hnodup
        exact (List.nodup_append.1 hnodup).2.2 _ hmem _ List.mem_cons_self rfl
      have hcons : putAll entries (e :: pairs) = putAll (put e.1 e.2 entries) pairs := rfl
      rw [hcons, put_of_not_mem hnew, ih _ (by simpa using hnodup), List.append_assoc]
      rfl

theorem get?_map (f : α → β) (key : κ) (entries : Entries κ α) :
    get? key (entries.map fun e => (e.1, f e.2)) = (get? key entries).map f := by
  induction entries with
  | nil => rfl
  | cons e rest ih =>
      rw [List.map_cons, get?, get?, ih]
      split <;> rfl

end Entries

namespace Cache

/-- The order of sorted texts. -/
theorem pairwise_sorted (entries : List (String × String)) :
    (sorted entries).Pairwise fun e f => e.1 ≤ f.1 := by
  have hsorted : (sorted entries).Pairwise fun e f => decide (e.1 ≤ f.1) = true := by
    refine List.pairwise_mergeSort ?_ ?_ entries
    · intro e f g h h'
      simpa using String.le_trans (by simpa using h) (by simpa using h')
    · intro e f
      simpa using String.le_total e.1 f.1
  simpa using hsorted

/-- Texts under different names look the same when they are sorted exactly if they are the same, name by
name. -/
theorem sorted_eq_iff {entries others : Entries String String} (h : (Entries.keys entries).Nodup)
    (h' : (Entries.keys others).Nodup) :
    sorted entries = sorted others ↔ ∀ name, Entries.get? name entries = Entries.get? name others := by
  rw [← Entries.perm_iff_get?_eq h h']
  have hperm := List.mergeSort_perm entries fun e f => e.1 ≤ f.1
  have hperm' := List.mergeSort_perm others fun e f => e.1 ≤ f.1
  constructor
  · intro heq
    exact (hperm.symm.trans (.of_eq heq)).trans hperm'
  · intro hentries
    refine List.Perm.eq_of_pairwise ?_ (pairwise_sorted entries) (pairwise_sorted others)
      ((hperm.trans hentries).trans hperm'.symm)
    -- Entries of one name are the same entry, as no name is there twice.
    intro e f he hf hef hfe
    have hname : e.1 = f.1 := String.le_antisymm hef hfe
    have hmem : f ∈ entries := hentries.mem_iff.2 (hperm'.mem_iff.1 hf)
    exact List.inj_on_of_nodup_map h (hperm.mem_iff.1 he) hmem hname

end Cache

/-! ## Parameters that look alike -/

/-- The quoted forms of named parameters, under the plain texts of their names. -/
def Params.quotedByName (entries : Row) : Entries String String :=
  Entries.ofPairs (entries.map fun e => (e.1.display, e.2.quoted))

/-- The parameters have the same quoted forms, position by position or name by name. -/
def Params.LooksLike : Params → Params → Prop
  | .positional values, .positional others => values.map Value.quoted = others.map Value.quoted
  | .named entries, .named others =>
    ∀ name, Entries.get? name (quotedByName entries) = Entries.get? name (quotedByName others)
  | _, _ => False

namespace Cache

theorem isDocument_encodeParams (params : Params) :
    Text.Json.IsDocument (encodeParams params).toList := by
  cases params with
  | named entries =>
      rw [encodeParams, String.toList_ofList]
      exact Text.Json.isDocument_object _
  | positional values =>
      rw [encodeParams, String.toList_ofList]
      exact Text.Json.isDocument_array _

theorem encodeParams_eq_iff (params params' : Params) :
    encodeParams params = encodeParams params' ↔ params.LooksLike params' := by
  cases params with
  | named entries =>
      cases params' with
      | named others =>
          have hiff := sorted_eq_iff (Entries.nodup_keys_ofPairs (entries.map fun e => (e.1.display, e.2.quoted)))
            (Entries.nodup_keys_ofPairs (others.map fun e => (e.1.display, e.2.quoted)))
          refine Iff.trans ?_ hiff
          exact String.ofList_inj.trans Text.Json.object_injective.eq_iff
      | positional values =>
          refine iff_of_false (fun h => ?_) id
          exact Text.Json.array_ne_object _ _ (String.ofList_inj.1 h).symm
  | positional values =>
      cases params' with
      | named entries =>
          refine iff_of_false (fun h => ?_) id
          exact Text.Json.array_ne_object _ _ (String.ofList_inj.1 h)
      | positional others => exact String.ofList_inj.trans Text.Json.array_injective.eq_iff

/-- Two reads have the same key text exactly if they are of the same statement and their parameters look
alike. -/
theorem keyText_eq_iff (query query' : String) (params params' : Params) :
    keyText query params = keyText query' params' ↔ query = query' ∧ params.LooksLike params' := by
  rw [← encodeParams_eq_iff]
  constructor
  · intro h
    have hlists : query.toList ++ ':' :: (encodeParams params).toList =
        query'.toList ++ ':' :: (encodeParams params').toList := by
      simpa [keyText, String.append_assoc] using congrArg String.toList h
    obtain ⟨hquery, hparams⟩ := Text.Json.append_colon_inj (isDocument_encodeParams params)
      (isDocument_encodeParams params') hlists
    exact ⟨String.toList_inj.1 hquery, String.toList_inj.1 hparams⟩
  · rintro ⟨rfl, hparams⟩
    rw [keyText, keyText, hparams]

end Cache

/-! ## What the key text tells about data -/

/-- Parameters that are data, by position or under names that are all different. -/
inductive Params.IsGiven : Params → Prop
  | positional {values : List Value} (hdata : ∀ v ∈ values, v.isData = true) :
    IsGiven (.positional values)
  | named {entries : Entries String Value} (hnames : (Entries.keys entries).Nodup)
    (hdata : ∀ v ∈ Entries.values entries, v.isData = true) :
    IsGiven (.named (Value.keyedByText entries))

/-- Both are lists or both have names, and what stands in the same position or under the same name is
related. -/
inductive Params.Corresponds (R : Value → Value → Prop) : Params → Params → Prop
  | positional {values others : List Value} (h : List.Forall₂ R values others) :
    Corresponds R (.positional values) (.positional others)
  | named {entries others : Entries String Value}
    (h : ∀ name, Option.Rel R (Entries.get? name entries) (Entries.get? name others)) :
    Corresponds R (.named (Value.keyedByText entries)) (.named (Value.keyedByText others))

/-- The values have the same quoted form, and are the same if one of them is null, a truth value, an
integer, a text or bytes. -/
def Value.Resembles (v w : Value) : Prop :=
  v.quoted = w.quoted ∧ (v.isAtom = true ∨ w.isAtom = true → v = w)

theorem Value.resembles_of_quoted_eq {v w : Value} (hv : v.isData = true) (hw : w.isData = true)
    (h : v.quoted = w.quoted) : v.Resembles w := by
  refine ⟨h, ?_⟩
  rintro (hatom | hatom)
  · exact eq_of_quoted_eq hatom hw h
  · exact (eq_of_quoted_eq hatom hv h.symm).symm

theorem Value.forall₂_resembles {values others : List Value} (hdata : ∀ v ∈ values, v.isData = true)
    (hdata' : ∀ v ∈ others, v.isData = true)
    (h : values.map Value.quoted = others.map Value.quoted) :
    List.Forall₂ Value.Resembles values others := by
  induction values generalizing others with
  | nil =>
      cases others with
      | nil => exact .nil
      | cons w others => cases h
  | cons v values ih =>
      cases others with
      | nil => cases h
      | cons w others =>
          obtain ⟨hv, hvalues⟩ := List.forall_mem_cons.1 hdata
          obtain ⟨hw, hothers⟩ := List.forall_mem_cons.1 hdata'
          obtain ⟨hquoted, hrest⟩ := List.cons_eq_cons.1 h
          exact .cons (resembles_of_quoted_eq hv hw hquoted) (ih hvalues hothers hrest)

theorem Value.rel_resembles {found found' : Option Value} (hdata : ∀ v, found = some v → v.isData = true)
    (hdata' : ∀ v, found' = some v → v.isData = true)
    (h : found.map Value.quoted = found'.map Value.quoted) : Option.Rel Value.Resembles found found' := by
  cases found with
  | none =>
      cases found' with
      | none => exact .none
      | some w => cases h
  | some v =>
      cases found' with
      | none => cases h
      | some w => exact .some (resembles_of_quoted_eq (hdata v rfl) (hdata' w rfl) (Option.some.inj h))

namespace Cache

theorem get?_quotedByName {entries : Entries String Value} (h : (Entries.keys entries).Nodup)
    (name : String) :
    Entries.get? name (Params.quotedByName (Value.keyedByText entries)) =
      (Entries.get? name entries).map Value.quoted := by
  have hpairs : (Value.keyedByText entries).map (fun e => (e.1.display, e.2.quoted)) =
      entries.map fun e => (e.1, e.2.quoted) := by
    rw [Value.keyedByText, List.map_map]
    rfl
  have hnodup : (Entries.keys (entries.map fun e => (e.1, e.2.quoted))).Nodup := by
    rw [Entries.keys, List.map_map]
    exact h
  rw [Params.quotedByName, hpairs, Entries.ofPairs_of_nodup hnodup, Entries.get?_map]

/-- **Two reads with one key text are the same read.** The statements are equal, and so are the parameters in
the same positions or under the same names, as far as quoted forms tell. -/
theorem same_read_of_keyText_eq {query query' : String} {params params' : Params}
    (hgiven : params.IsGiven) (hgiven' : params'.IsGiven)
    (h : keyText query params = keyText query' params') :
    query = query' ∧ params.Corresponds Value.Resembles params' := by
  obtain ⟨hquery, halike⟩ := (keyText_eq_iff query query' params params').1 h
  refine ⟨hquery, ?_⟩
  cases hgiven with
  | positional hdata =>
      cases hgiven' with
      | positional hdata' => exact .positional (Value.forall₂_resembles hdata hdata' halike)
      | named hnames' hdata' => exact halike.elim
  | named hnames hdata =>
      cases hgiven' with
      | positional hdata' => exact halike.elim
      | named hnames' hdata' =>
          refine .named fun name => ?_
          have hname := halike name
          rw [get?_quotedByName hnames, get?_quotedByName hnames'] at hname
          refine Value.rel_resembles (fun v hv => hdata v ?_) (fun w hw => hdata' w ?_) hname
          · exact List.mem_map.2 ⟨_, (Entries.get?_eq_some_iff hnames name v).1 hv, rfl⟩
          · exact List.mem_map.2 ⟨_, (Entries.get?_eq_some_iff hnames' name w).1 hw, rfl⟩

/-- Parameters that were named in another order belong to the same read. -/
theorem same_read_of_other_order :
    let query := "SELECT ':[' FROM t WHERE a = :a AND \"b:\" = :b"
    let entries : Entries String Value := [("b", .text "'\\"), ("a", .list [.null, .float .nan])]
    let others : Entries String Value := [("a", .list [.null, .float .nan]), ("b", .text "'\\")]
    keyText query (.named (Value.keyedByText entries)) = keyText query (.named (Value.keyedByText others)) ∧
      Params.Corresponds Value.Resembles (.named (Value.keyedByText entries))
        (.named (Value.keyedByText others)) := by
  intro query entries others
  have halike : (Params.named (Value.keyedByText entries)).LooksLike
      (.named (Value.keyedByText others)) :=
    (Entries.perm_iff_get?_eq (Entries.nodup_keys_ofPairs _) (Entries.nodup_keys_ofPairs _)).1
      (List.Perm.swap ("a", "[None, nan]") ("b", "\"'\\\\\"") [])
  have hkey := (keyText_eq_iff query query _ _).2 ⟨rfl, halike⟩
  exact ⟨hkey, (same_read_of_keyText_eq (.named (by decide) (by decide)) (.named (by decide) (by decide))
    hkey).2⟩

end Cache

end FluentSql
