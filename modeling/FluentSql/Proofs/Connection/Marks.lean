import FluentSql.Proofs.Connection.Steps
/-
# FluentSql.Proofs.Connection.Marks — which identifier marks a connection can get.

The mark of a connection is the one configured, the one of its dialect, or the one of a dialect that is
made for it. If all these have a property, then so has every mark that identifiers are quoted with, and
quoting one gives no chance for another (`keeps_quoteMark`). Looking for a driver leaves the heap as it
is, and the only thing that happens outside is that a connection is opened.
-/

namespace FluentSql

namespace Entries

variable {κ α : Type} [BEq κ]

theorem mem_put [LawfulBEq κ] {key : κ} {value : α} {entries : Entries κ α} {e : κ × α}
    (h : e ∈ put key value entries) : e = (key, value) ∨ e ∈ entries := by
  induction entries with
  | nil => exact .inl (List.mem_singleton.1 h)
  | cons first rest ih =>
      by_cases hfirst : first.1 == key
      · have hkey : first.1 = key := eq_of_beq hfirst
        rw [put, if_pos hfirst, hkey, List.mem_cons] at h
        rcases h with h | h
        · exact .inl h
        · exact .inr (List.mem_cons_of_mem _ h)
      · rw [put, if_neg hfirst, List.mem_cons] at h
        rcases h with h | h
        · exact .inr (h ▸ List.mem_cons_self)
        · exact (ih h).imp_right (List.mem_cons_of_mem _)

theorem mem_erase {key : κ} {entries : Entries κ α} {e : κ × α} (h : e ∈ erase key entries) :
    e ∈ entries := by
  induction entries with
  | nil => exact h
  | cons first rest ih =>
      by_cases hfirst : first.1 == key
      · rw [erase, if_pos hfirst] at h
        exact List.mem_cons_of_mem _ h
      · rw [erase, if_neg hfirst, List.mem_cons] at h
        rcases h with h | h
        · exact h ▸ List.mem_cons_self
        · exact List.mem_cons_of_mem _ (ih h)

theorem mem_of_get? [LawfulBEq κ] {key : κ} {value : α} {entries : Entries κ α}
    (h : get? key entries = some value) : (key, value) ∈ entries := by
  induction entries with
  | nil => cases h
  | cons first rest ih =>
      by_cases hfirst : first.1 == key
      · have hkey : first.1 = key := eq_of_beq hfirst
        rw [get?, if_pos hfirst] at h
        cases h
        exact hkey ▸ List.mem_cons_self
      · rw [get?, if_neg hfirst] at h
        exact List.mem_cons_of_mem _ (ih h)

theorem mem_values_of_get? {key : κ} {value : α} {entries : Entries κ α}
    (h : get? key entries = some value) : value ∈ values entries := by
  induction entries with
  | nil => cases h
  | cons first rest ih =>
      by_cases hfirst : first.1 == key
      · rw [get?, if_pos hfirst] at h
        cases h
        exact List.mem_cons_self
      · rw [get?, if_neg hfirst] at h
        exact List.mem_cons_of_mem _ (ih h)

end Entries

/-- Every mark that a connection can get has a property, if it takes that of its dialect where none is
configured. An empty mark that is configured counts as none. -/
structure Session.TakesMarks (P : String → Prop) (connection : String) (s : Session) : Prop where
  settings : ∀ mark, (s.settingsOf connection).quoteMark = some mark → mark.isEmpty = false → P mark
  dialects : ∀ made, (connection, made) ∈ s.dialects → P made.dialect.quoteMark
  known : ∀ e ∈ s.knownDialects, ∀ mark, e.2.quoteMark = some mark → P mark
  generic : P "\x60"

theorem Dialects.mem_register {names : List String} {spec : DialectSpec} {dialects : Dialects}
    {e : String × DialectSpec} (h : e ∈ register names spec dialects) : e.2 = spec ∨ e ∈ dialects := by
  unfold register at h
  generalize (if names.isEmpty then spec.driverNames else names) = names at h
  induction names generalizing dialects with
  | nil => exact .inr h
  | cons name names ih =>
      rcases ih h with hspec | hput
      · exact .inl hspec
      · rcases Entries.mem_put hput with rfl | hold
        · exact .inl rfl
        · exact .inr hold

/-- The table of dialects holds the standard specifications and no others. -/
theorem Dialects.mem_standard {e : String × DialectSpec} (h : e ∈ standard) : e.2 ∈ standardSpecs := by
  suffices main : ∀ (specs : List DialectSpec) (dialects : Dialects),
      e ∈ specs.foldl (fun acc spec => register [] spec acc) dialects →
      e.2 ∈ specs ∨ e ∈ dialects from (main standardSpecs [] h).resolve_right (by simp)
  intro specs
  induction specs with
  | nil => exact fun _ h => .inr h
  | cons spec specs ih =>
      intro dialects h
      rcases ih _ h with hspec | hmem
      · exact .inl (List.mem_cons_of_mem _ hspec)
      · rcases mem_register hmem with rfl | hold
        · exact .inl List.mem_cons_self
        · exact .inr hold

/-- The standard marks are the backtick and the double quote. -/
theorem Dialects.quoteMark_of_standard :
    ∀ spec ∈ standardSpecs, spec.quoteMark = some "\x60" ∨ spec.quoteMark = some "\x22" := by decide

/-- Every mark that a connection quotes with has a property: it is configured, or can be taken. -/
def Session.HasMarks (P : String → Prop) (connection : String) (s : Session) : Prop :=
  (∃ mark, (s.settingsOf connection).quoteMark = some mark ∧ mark.isEmpty = false ∧ P mark) ∨
    s.TakesMarks P connection

/-- As long as no other dialects are known and none was made, only the marks of the standard dialects
and the one that is configured can come about. -/
theorem Session.hasMarks_of_standard {P : String → Prop} {connection : String} {s : Session}
    (hbacktick : P "\x60") (hquote : P "\x22") (hknown : s.knownDialects = .standard)
    (hdialects : s.dialects = [])
    (hsettings : ∀ mark, (s.settingsOf connection).quoteMark = some mark → P mark) :
    s.HasMarks P connection := by
  refine .inr ⟨?_, ?_, ?_, hbacktick⟩
  · intro mark hmark _
    exact hsettings mark hmark
  · intro made hmade
    simp [hdialects] at hmade
  · intro e he mark hmark
    rw [hknown] at he
    rcases Dialects.quoteMark_of_standard e.2 (Dialects.mem_standard he) with heq | heq
    · rw [heq] at hmark
      cases hmark
      exact hbacktick
    · rw [heq] at hmark
      cases hmark
      exact hquote

namespace Connection

open Step (Keeps Triple)
open Session (current change outside inHeap)

variable {E : Environment}

/-- One session comes from another by looking for drivers: a mark that is configured stays, and so do
the keys of tables. -/
structure Follows (s s' : Session) : Prop where
  quoteMark : ∀ connection mark, (s.settingsOf connection).quoteMark = some mark →
    (s'.settingsOf connection).quoteMark = some mark
  keyOf : ∀ connection h table,
    (s'.settingsOf connection).keyOf h table = (s.settingsOf connection).keyOf h table

theorem Follows.refl (s : Session) : Follows s s := ⟨fun _ _ h => h, fun _ _ _ => rfl⟩

theorem Follows.trans {s s' s'' : Session} (h : Follows s s') (h' : Follows s' s'') :
    Follows s s'' := by
  refine ⟨?_, ?_⟩
  · intro connection mark hmark
    exact h'.quoteMark connection mark (h.quoteMark connection mark hmark)
  · intro connection heap table
    exact (h'.keyOf connection heap table).trans (h.keyOf connection heap table)

/-- One world comes from another by looking for the driver of a connection: the heap is the same, and
the outside has every property that opening connections keeps. -/
structure Opens (w w' : World E.State) : Prop where
  heap : w'.heap = w.heap
  outside : ∀ J : E.State → Prop, (∀ opening s, J s → J (E.connect opening s).2) →
    J w.outside → J w'.outside
  session : Follows w.session w'.session

/-- A world that comes from another one and whose marks have a property. -/
structure OpensTaking (P : String → Prop) (connection : String) (w w' : World E.State) : Prop
    extends Opens w w' where
  marks : w'.session.TakesMarks P connection

variable {P : String → Prop} {connection : String} {w : World E.State}

theorem OpensTaking.withSession {w' : World E.State} (h : OpensTaking P connection w w')
    {session : Session} (hfollows : Follows w'.session session)
    (hmarks : session.TakesMarks P connection) : OpensTaking P connection w { w' with session } :=
  ⟨⟨h.heap, h.outside, h.session.trans hfollows⟩, hmarks⟩

/-! ## Making dialects -/

theorem create_quoteMark {s : Session} (h : s.TakesMarks P connection) {driverName : String}
    {dialect : Dialect} (hcreate : s.knownDialects.create driverName = .ok dialect) :
    P dialect.quoteMark := by
  unfold Dialects.create at hcreate
  cases hget : Entries.get? (Text.lower driverName) s.knownDialects with
  | none =>
      simp only [hget] at hcreate
      cases hcreate
      exact h.generic
  | some spec =>
      simp only [hget, DialectSpec.dialect?] at hcreate
      have hmem := Entries.mem_of_get? hget
      split at hcreate
      · rename_i name mark hname hmark
        cases hcreate
        exact h.known _ hmem _ hmark
      · cases hcreate

theorem triple_makeDialect (driver : Driver) :
    Triple (OpensTaking P connection w) (makeDialect connection driver)
      (fun made w' => OpensTaking P connection w w' ∧ P made.dialect.quoteMark)
      (OpensTaking P connection w) := by
  refine Session.triple_bindCurrent fun w' hw' => ?_
  refine Triple.bindKnown (I := (· = w')) (R := fun dialect => P dialect.quoteMark) (Triple.lift ?_ ?_)
    fun dialect hmark => ?_
  · intro dialect hcreate s hs
    exact ⟨hs, create_quoteMark hw'.marks hcreate⟩
  · intro failure _ s hs
    exact hs ▸ hw'
  · refine Triple.bind (R := fun _ => OpensTaking P connection w) (Session.triple_change ?_)
      fun _ => Triple.pure fun _ hs => ⟨hs, hmark⟩
    rintro s rfl
    refine hw'.withSession ⟨fun _ _ h => h, fun _ _ _ => rfl⟩ { hw'.marks with dialects := ?_ }
    intro made hmade
    rcases Entries.mem_put hmade with heq | hold
    · cases heq
      exact hmark
    · exact hw'.marks.dialects made hold

/-! ## Looking for the driver -/

/-- Settings that only get a mark where none was configured keep everything that sessions follow. -/
theorem follows_put {s : Session} {settings : Settings}
    (hmark : ∀ mark, (s.settingsOf connection).quoteMark = some mark → settings.quoteMark = some mark)
    (hkeyOf : ∀ h table, settings.keyOf h table = (s.settingsOf connection).keyOf h table) :
    Follows s { s with settings := Entries.put connection settings s.settings } := by
  have hother : ∀ other, other ≠ connection →
      Session.settingsOf other { s with settings := Entries.put connection settings s.settings } =
        s.settingsOf other := by
    intro other hne
    simp only [Session.settingsOf, Entries.get?_put_of_ne (beq_false_of_ne hne)]
  have hself : Session.settingsOf connection
      { s with settings := Entries.put connection settings s.settings } = settings := by
    simp only [Session.settingsOf, Entries.get?_put_self, Option.getD_some]
  refine ⟨?_, ?_⟩
  · intro other mark h
    by_cases hother' : other = connection
    · subst hother'
      rw [hself]
      exact hmark mark h
    · rwa [hother other hother']
  · intro other h table
    by_cases hother' : other = connection
    · subst hother'
      rw [hself]
      exact hkeyOf h table
    · rw [hother other hother']

theorem keeps_registerDriver (driver : Driver) :
    Keeps (OpensTaking P connection w) (registerDriver connection driver) := by
  refine Triple.bind (R := fun _ => OpensTaking P connection w) (Session.triple_change ?_) fun _ => ?_
  · intro w' hw'
    refine hw'.withSession ⟨fun _ _ h => h, fun _ _ _ => rfl⟩ { hw'.marks with dialects := ?_ }
    exact fun made hmade => hw'.marks.dialects made (Entries.mem_erase hmade)
  · refine Triple.bindKnown (triple_makeDialect driver) fun made hmark => ?_
    refine triple_bindSettings fun w' hw' => Session.triple_change ?_
    rintro w' rfl
    refine hw'.withSession (follows_put ?_ fun _ _ => rfl) { hw'.marks with settings := ?_ }
    · intro mark h
      simp only [h]
      rfl
    · -- The mark is the one that was configured, or else that of the new dialect.
      intro mark h hne
      simp only [Session.settingsOf, Entries.get?_put_self, Option.getD_some] at h
      cases hown : (w'.session.settingsOf connection).quoteMark with
      | none =>
          simp only [Session.settingsOf] at hown
          simp only [hown] at h
          cases h
          exact hmark
      | some own =>
          have hconfigured := hown
          simp only [Session.settingsOf] at hown
          simp only [hown] at h
          cases h
          exact hw'.marks.settings _ hconfigured hne

theorem keeps_connect (opening : Opening) :
    Keeps (OpensTaking P connection w) (outside (E.connect opening)) := by
  have step : ∀ w' s, OpensTaking P connection w w' → (E.connect opening w'.outside).2 = s →
      OpensTaking P connection w { w' with outside := s } := by
    rintro w' s hw' rfl
    exact ⟨⟨hw'.heap, fun J hconnect hJ => hconnect _ _ (hw'.outside J hconnect hJ), hw'.session⟩,
      hw'.marks⟩
  refine Session.triple_outside ?_ ?_
  · intro w' opened s hw' hrun
    exact step w' s hw' (by rw [hrun])
  · intro w' failure s hw' hrun
    exact step w' s hw' (by rw [hrun])

theorem keeps_driver : Keeps (OpensTaking P connection w) (driver connection : Action E Driver) := by
  refine Session.triple_bindCurrent fun w' hw' => ?_
  split
  · exact Triple.pure fun _ hs => hs ▸ hw'
  · refine Triple.pre ?_ fun s (hs : s = w') => hs ▸ hw'
    refine triple_bindSettings fun w'' hw'' => ?_
    refine Triple.pre ?_ fun s (hs : s = w'') => hs ▸ hw''
    refine Keeps.bind (keeps_connect _) fun opened => ?_
    exact Keeps.bind (keeps_registerDriver _) fun _ => Keeps.pure _

/-! ## The mark of a connection -/

theorem triple_madeDialect :
    Triple (OpensTaking P connection w) (madeDialect connection : Action E MadeDialect)
      (fun made w' => OpensTaking P connection w w' ∧ P made.dialect.quoteMark)
      (OpensTaking P connection w) := by
  refine Session.triple_bindCurrent fun w' hw' => ?_
  split
  · rename_i made hmade
    refine Triple.pure fun s hs => ?_
    exact ⟨hs ▸ hw', hw'.marks.dialects made (Entries.mem_of_get? hmade)⟩
  · refine Triple.pre ?_ fun s (hs : s = w') => hs ▸ hw'
    exact Triple.bind keeps_driver triple_makeDialect

theorem triple_dialect :
    Triple (OpensTaking P connection w) (dialect connection : Action E Dialect)
      (fun dialect w' => OpensTaking P connection w w' ∧ P dialect.quoteMark)
      (OpensTaking P connection w) :=
  Triple.bind triple_madeDialect fun _ => Triple.pure fun _ hs => hs

theorem triple_quoteMark_of_taking :
    Triple (OpensTaking P connection w) (quoteMark connection : Action E String)
      (fun mark w' => OpensTaking P connection w w' ∧ P mark) (OpensTaking P connection w) :=
  triple_quoteMark_of (fun _ hw _ => hw) keeps_driver
    (fun _ mark hw hmark hne => ⟨hw, hw.marks.settings mark hmark hne⟩) (triple_dialect.pre fun _ hw => hw.1)

/-! ## Configured marks -/

/-- A world that comes from another one and whose connection quotes with marks that have a property. -/
structure OpensWith (P : String → Prop) (connection : String) (w w' : World E.State) : Prop
    extends Opens w w' where
  marks : w'.session.HasMarks P connection

theorem OpensWith.refl (h : w.session.HasMarks P connection) : OpensWith P connection w w :=
  ⟨⟨rfl, fun _ _ hJ => hJ, .refl _⟩, h⟩

theorem OpensTaking.opensWith {w' : World E.State} (h : OpensTaking P connection w w') :
    OpensWith P connection w w' :=
  ⟨h.toOpens, .inr h.marks⟩

theorem Opens.taking {w' : World E.State} (h : Opens w w') :
    OpensTaking (fun _ => True) connection w w' :=
  ⟨h, ⟨fun _ _ _ => trivial, fun _ _ => trivial, fun _ _ _ _ => trivial, trivial⟩⟩

/-- A connection with a configured mark takes that one. -/
theorem triple_quoteMark_of_configured {mark : String}
    (hmark : (w.session.settingsOf connection).quoteMark = some mark) (hne : mark.isEmpty = false) :
    Triple (· = w) (quoteMark connection : Action E String) (fun taken w' => w' = w ∧ taken = mark)
      (fun _ => False) := by
  refine triple_bindSettings ?_
  rintro w rfl
  rw [if_neg (by simp [hmark])]
  refine triple_bindSettings ?_
  rintro w rfl
  simp only [hmark, hne]
  exact Triple.pure fun _ hs => ⟨hs, rfl⟩

/-- **The identifier mark of a connection has the property of all marks that it can get.** -/
theorem triple_quoteMark :
    Triple (OpensWith P connection w) (quoteMark connection : Action E String)
      (fun mark w' => OpensWith P connection w w' ∧ P mark) (OpensWith P connection w) := by
  refine Triple.of_states fun w' hw' => ?_
  rcases hw'.marks with ⟨mark, hmark, hne, hP⟩ | htaking
  · refine (triple_quoteMark_of_configured hmark hne).consequence (fun _ hs => hs) ?_ fun _ => False.elim
    rintro _ _ ⟨rfl, rfl⟩
    exact ⟨hw', hP⟩
  · -- None is configured, so it is a mark that the connection can take.
    have hfrom : OpensTaking P connection w w' := ⟨hw'.toOpens, htaking⟩
    refine (triple_quoteMark_of_taking (P := P) (w := w)).consequence ?_ ?_ fun _ h => h.opensWith
    · rintro w' rfl
      exact hfrom
    · exact fun mark w'' hw'' => ⟨hw''.1.opensWith, hw''.2⟩

theorem keeps_dialect : Keeps (OpensWith P connection w) (dialect connection : Action E Dialect) := by
  refine Triple.of_states fun w' hw' => ?_
  rcases hw'.marks with ⟨mark, hmark, hne, hP⟩ | htaking
  · -- The mark that is configured stays, whatever dialect is found.
    have hopens : Triple (OpensTaking (fun _ => True) connection w')
        (dialect connection : Action E Dialect) (fun _ => Opens w') (Opens w') :=
      triple_dialect.consequence (fun _ hs => hs) (fun _ _ hs => hs.1.toOpens) fun _ hs => hs.toOpens
    have hback : ∀ w'', Opens w' w'' → OpensWith P connection w w'' := by
      intro w'' h
      refine ⟨⟨h.heap.trans hw'.heap, fun J hconnect hJ => h.outside J hconnect ?_,
        hw'.session.trans h.session⟩, .inl ⟨mark, h.session.quoteMark _ _ hmark, hne, hP⟩⟩
      exact hw'.outside J hconnect hJ
    refine hopens.consequence ?_ (fun _ => hback) hback
    rintro w' rfl
    exact Opens.taking ⟨rfl, fun _ _ hJ => hJ, .refl _⟩
  · have hfrom : OpensTaking P connection w w' := ⟨hw'.toOpens, htaking⟩
    refine (triple_dialect (P := P) (w := w)).consequence ?_ (fun _ _ h => h.1.opensWith)
      fun _ h => h.opensWith
    rintro w' rfl
    exact hfrom

/-- A name is quoted with such a mark, and the heap stays as it is. -/
theorem triple_quote_text (name : String) :
    Triple (OpensWith P connection w) (quote connection (.text name) : Action E String)
      (fun quoted w' => OpensWith P connection w w' ∧
        ∃ mark, P mark ∧ quoted = Identifier.quoteName mark name)
      (OpensWith P connection w) := by
  refine Triple.bindKnown triple_quoteMark fun mark hmark => ?_
  refine Triple.of_states fun w' hw' => ?_
  refine Triple.bindKnown (I := (· = w')) (R := fun v => v = .text name)
    (Session.triple_inHeap w' rfl (Heap.triple_identifier_text _ name) ?_ fun _ => False.elim) ?_
  · rintro v h ⟨rfl, hv⟩
    exact ⟨rfl, hv⟩
  · rintro _ rfl
    refine Triple.lift ?_ ?_
    · rintro quoted ⟨⟩ _ rfl
      exact ⟨hw', mark, hmark, rfl⟩
    · rintro failure ⟨⟩

theorem triple_rendering :
    Triple (OpensWith P connection w) (rendering connection : Action E Rendering)
      (fun r w' => OpensWith P connection w w' ∧ P r.mark) (OpensWith P connection w) := by
  refine Triple.bind keeps_dialect fun dialect => ?_
  refine Triple.bindKnown triple_quoteMark fun mark hmark => ?_
  refine triple_bindSettings fun w' hw' => ?_
  exact Triple.pure fun _ hs => ⟨hs ▸ hw', hmark⟩

end Connection

end FluentSql
