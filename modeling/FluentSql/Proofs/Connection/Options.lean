import FluentSql.Proofs.Heap.Drains
import FluentSql.Settings
/-
# FluentSql.Proofs.Connection.Options — what the options of a connection have in common.

An option is found by its name, looks into values without changing more than streams, and writes its own part of
the settings. In particular most options have nothing to do with the functions that are configured for the operations
of a cache.
-/

namespace FluentSql

open Step (Keeps)

/-! ## Functions for the operations of a cache -/

/-- The functions of the caller for the operations of a cache, where they are configured. -/
structure CacheHooks where
  createKey : Option Hook := none
  checkCache : Option Hook := none
  storeResult : Option Hook := none
  clearCache : Option Hook := none

/-- Whether there is any. -/
def CacheHooks.isAny (hooks : CacheHooks) : Bool :=
  hooks.createKey.isSome || hooks.checkCache.isSome || hooks.storeResult.isSome || hooks.clearCache.isSome

namespace Settings

/-- The settings with other functions for the operations of a cache. -/
def withCacheHooks (hooks : CacheHooks) (s : Settings) : Settings :=
  { s with
    createKey := hooks.createKey
    checkCache := hooks.checkCache
    storeResult := hooks.storeResult
    clearCache := hooks.clearCache }

theorem withCacheHooks_withCacheHooks (hooks others : CacheHooks) (s : Settings) :
    (s.withCacheHooks hooks).withCacheHooks others = s.withCacheHooks others := rfl

/-- Settings without such functions are what they are without any. -/
theorem withCacheHooks_eq_self {s : Settings} (h : s.hasCacheHooks = false) : s.withCacheHooks {} = s := by
  simp only [hasCacheHooks, Bool.or_eq_false_iff, Option.isSome_eq_false_iff, Option.isNone_iff_eq_none] at h
  obtain ⟨⟨⟨hcreate, hcheck⟩, hstore⟩, hclear⟩ := h
  cases s
  simp_all [withCacheHooks]

theorem hasCacheHooks_withCacheHooks (hooks : CacheHooks) (s : Settings) :
    (s.withCacheHooks hooks).hasCacheHooks = hooks.isAny := rfl

end Settings

namespace Setting

/-- The options that are functions for the operations of a cache. -/
def cacheHookNames : List String := ["create_cache_key", "check_query_cache", "cache_query_result", "clear_cache"]

/-! ## Finding options -/

/-- An option that is named is among all options, under the name that it is called by. -/
theorem named?_eq_ok {h : Heap} {connection : String} {key : Value} {setting : Setting}
    (hnamed : named? h connection key = .ok setting) :
    setting ∈ all ∧ key.asText?.getD "" = setting.name := by
  unfold named? at hnamed
  split at hnamed
  · rename_i found hfound
    cases hnamed
    obtain ⟨name, hname, hof⟩ := Option.bind_eq_some_iff.1 hfound
    have hfind : all.find? (fun s => s.name == name) = some setting := hof
    have hsame := List.find?_some hfind
    exact ⟨List.mem_of_find?_eq_some hfind, hname ▸ (eq_of_beq hsame).symm⟩
  · cases hnamed

/-! ## Looking into values -/

theorem keeps_examineKey (h : Heap) (v : Value) : Keeps h.Drains (examineKey v) := by
  refine Keeps.bind Keeps.get fun current => ?_
  split
  · exact Keeps.pure _
  · exact Keeps.pure _
  · exact Keeps.pure _
  · exact Keeps.pure _
  · split
    · exact Keeps.bind (Heap.keeps_items h v) fun _ => Keeps.pure _
    · exact Keeps.pure _

theorem keeps_examineKeys (h : Heap) (v : Value) : Keeps h.Drains (examineKeys v) := by
  refine Keeps.bind Keeps.get fun current => ?_
  split
  · refine Keeps.bind (Keeps.mapM fun e _ => ?_) fun _ => Keeps.pure _
    exact Keeps.bind (keeps_examineKey h e.2) fun _ => Keeps.pure _
  · exact Keeps.pure _

/-- However an option looks into a value, it goes through it at most. -/
theorem keeps_examine {setting : Setting} (hsetting : setting ∈ all) (h : Heap) (v : Value) :
    Keeps h.Drains (setting.examine v) := by
  simp only [all, List.mem_cons, List.not_mem_nil, or_false] at hsetting
  rcases hsetting with rfl | rfl | rfl | rfl | rfl | rfl | rfl | rfl | rfl | rfl | rfl | rfl | rfl | rfl
  case inr.inr.inr.inl => exact keeps_examineKey h v
  case inr.inr.inr.inr.inl => exact keeps_examineKeys h v
  all_goals exact Keeps.bind Keeps.get fun _ => Keeps.pure _

/-! ## Writing settings -/

theorem write_plain {α : Type} {name : String} {read? : Value → Option α} {read : Settings → Value}
    {write : α → Settings → Settings} {given : SettingValue} {s changed : Settings}
    (h : (plain name read? read write).write? given s = some changed) : ∃ a, changed = write a s := by
  cases given with
  | value v =>
      obtain ⟨a, -, ha⟩ := Option.map_eq_some_iff.1 h
      exact ⟨a, ha.symm⟩
  | hook hook => cases h

theorem write_function {name : String} {read : Settings → Option Hook}
    {write : Option Hook → Settings → Settings} {given : SettingValue} {s changed : Settings}
    (h : (function name read write).write? given s = some changed) : ∃ hook, changed = write hook s := by
  match given with
  | .hook hook => exact ⟨some hook, (Option.some.inj h).symm⟩
  | .value .null => exact ⟨none, (Option.some.inj h).symm⟩

/-- Only the option of the mark changes the mark, and only that of the limit style changes the style. -/
theorem spares_of_write {setting : Setting} (hsetting : setting ∈ all) {given : SettingValue}
    {s changed : Settings} (h : setting.write? given s = some changed) :
    (setting.name ≠ "identifier_quote_character" → changed.quoteMark = s.quoteMark) ∧
      (setting.name ≠ "limit_clause_style" → changed.limitStyle = s.limitStyle) := by
  simp only [all, List.mem_cons, List.not_mem_nil, or_false] at hsetting
  rcases hsetting with rfl | rfl | rfl | rfl | rfl | rfl | rfl | rfl | rfl | rfl | rfl | rfl | rfl | rfl
  all_goals
    try dsimp only at h
    first
    | obtain ⟨a, rfl⟩ := write_plain h
    | obtain ⟨a, rfl⟩ := write_function h
    refine ⟨fun hne => ?_, fun hne => ?_⟩
  all_goals first | rfl | exact absurd rfl hne

/-- What is kept of a shared value is no mark and no limit style. -/
theorem spares_of_keepShared {setting : Setting} (hsetting : setting ∈ all) (v : Value) (s : Settings) :
    (setting.keepShared v s).quoteMark = s.quoteMark ∧ (setting.keepShared v s).limitStyle = s.limitStyle := by
  simp only [all, List.mem_cons, List.not_mem_nil, or_false] at hsetting
  rcases hsetting with rfl | rfl | rfl | rfl | rfl | rfl | rfl | rfl | rfl | rfl | rfl | rfl | rfl | rfl
  all_goals exact ⟨rfl, rfl⟩

/-- Every other option reads and writes past the functions for the operations of a cache. -/
theorem ignores_cacheHooks {setting : Setting} (hsetting : setting ∈ all) (hname : setting.name ∉ cacheHookNames)
    (hooks : CacheHooks) (s : Settings) :
    setting.read (s.withCacheHooks hooks) = setting.read s ∧
      (∀ given, setting.write? given (s.withCacheHooks hooks) =
        (setting.write? given s).map (Settings.withCacheHooks hooks)) ∧
      ∀ v, setting.keepShared v (s.withCacheHooks hooks) = (setting.keepShared v s).withCacheHooks hooks := by
  simp only [all, List.mem_cons, List.not_mem_nil, or_false] at hsetting
  rcases hsetting with rfl | rfl | rfl | rfl | rfl | rfl | rfl | rfl | rfl | rfl | rfl | rfl | rfl | rfl
  case inr.inr.inr.inr.inr.inr.inl =>
    refine ⟨rfl, fun given => ?_, fun _ => rfl⟩
    match given with
    | .hook hook => rfl
    | .value v => cases v <;> rfl
  case inr.inr.inr.inr.inr.inr.inr.inr.inr.inl => exact absurd (by decide) hname
  case inr.inr.inr.inr.inr.inr.inr.inr.inr.inr.inl => exact absurd (by decide) hname
  case inr.inr.inr.inr.inr.inr.inr.inr.inr.inr.inr.inl => exact absurd (by decide) hname
  case inr.inr.inr.inr.inr.inr.inr.inr.inr.inr.inr.inr.inl => exact absurd (by decide) hname
  all_goals
    refine ⟨rfl, fun given => ?_, fun _ => rfl⟩
    cases given with
    | value v =>
        simp only [plain, Option.map_map]
        rfl
    | hook hook => rfl

end Setting

end FluentSql
