import FluentSql.Proofs.Query.Clause
import FluentSql.Proofs.Record.Conditions
/-
# FluentSql.Proofs.Record.Balance — which conditions have one value for each of their slots.

Where nothing that a condition is written from has a question mark, every condition that a call adds is
balanced, with one exception: the items of a list or a tuple that a column is compared with count as so
many values, but there is one slot for all of them. So a comparison is balanced exactly if its value
counts as one (`balanced_iff_bindsOne`).
-/

namespace FluentSql

open Text (slotCount slotCount_eq_zero_iff)

/-- Marks, names and letters without question marks. -/
def Vocabulary.slotFree : Vocabulary where
  marks mark := '?' ∉ mark.toList
  names name := '?' ∉ name.toList
  letters c := c ≠ '?'
  ordinary _ hc _ := hc

/-- In a text that is spelled without question marks, every one of them is a slot. -/
theorem Vocabulary.Spells.slotCount_eq {cs : List Char} {n : Nat}
    (h : Vocabulary.slotFree.Spells cs n) : slotCount cs = n := by
  obtain ⟨ts, rfl, rfl, hts⟩ := h
  induction ts with
  | nil => rfl
  | cons t ts ih =>
      have hrest := ih fun u hu => hts u (List.mem_cons_of_mem _ hu)
      have hfirst : slotCount t.chars = if t.isSlot then 1 else 0 := by
        have hin := hts t List.mem_cons_self
        cases t with
        | letter c =>
            have hne : c ≠ '?' := hin
            have hc : '?' ∉ [c] := by simpa [eq_comm] using hne
            exact slotCount_eq_zero_iff.2 hc
        | name mark text =>
            have hquoted := Identifier.not_mem_quoteName (by decide) hin.1 hin.2
            rw [Identifier.quoteName, String.toList_ofList] at hquoted
            exact slotCount_eq_zero_iff.2 hquoted
        | slot => rfl
      simp only [Template.text, Template.slots] at hrest ⊢
      rw [List.flatMap_cons, Text.slotCount_append, hrest, hfirst, List.countP_cons, Nat.add_comm]

theorem Fragment.IsSpelled.isBalanced {f : Fragment} (h : f.IsSpelled .slotFree) : f.IsBalanced := by
  obtain ⟨s, htext, hspells⟩ := h
  exact ⟨s, htext, hspells.slotCount_eq.symm⟩

/-- An outside that has nothing to tell. -/
def Environment.quiet : Environment where
  State := Unit
  digest text := text
  connect _ s := (.ok ⟨⟨0⟩, "mysql", "format"⟩, s)
  execute _ _ _ s := (.ok ⟨0, none, 0, .null⟩, s)
  fetch _ _ s := (.ok [], s)
  insertId _ s := (.ok .null, s)
  call _ _ := pure .null

namespace Heap

/-- The value is a list or a tuple. -/
def IsSequence (h : Heap) (v : Value) : Prop :=
  (∃ items, h.content v = .list items) ∨ ∃ items, h.content v = .tuple items

theorem asItems_of_not_isSequence {h : Heap} {v : Value} (hv : ¬ h.IsSequence v) :
    h.asItems v = [v] := by
  unfold asItems
  split
  · rename_i items heq
    exact absurd (.inl ⟨items, heq⟩) hv
  · rename_i items heq
    exact absurd (.inr ⟨items, heq⟩) hv
  · rfl

end Heap

namespace ConditionCall

variable {voc : Vocabulary} {h : Heap} {source : String} {q : Query} {call : ConditionCall}
  {e : Value × Value} {fragment : Fragment}

/-- The call compares columns with values. -/
def IsComparison : ConditionCall → Prop
  | .compare _ _ _ => True
  | _ => False

/-- What the second of two related items has, all the second ones have. -/
theorem forall_of_forall₂ {α β : Type} {R : α → β → Prop} {P : β → Prop} {as : List α} {bs : List β}
    (h : List.Forall₂ R as bs) (hP : ∀ a b, R a b → P b) : ∀ b ∈ bs, P b := by
  induction h with
  | nil => simp
  | cons hab _ ih =>
      intro b hb
      rcases List.mem_cons.1 hb with rfl | hb
      · exact hP _ _ hab
      · exact ih b hb

/-- Comparing with the value of a subject binds one value: it is no list or tuple, or has one item. -/
def BindsOne (h : Heap) : ConditionCall → Value × Value → Prop
  | .compare _ _ _, e => (h.asItems e.2).length = 1
  | _, _ => True

theorem Quotes.spells {column : Value} {written : String} (hq : Quotes voc column written) :
    voc.Spells written.toList 0 := by
  obtain ⟨name, mark, -, hname, hmark, rfl⟩ := hq
  exact Vocabulary.spells_quoteName hmark hname

theorem spells_comparedName (hsource : voc.names source) {name mark : String} (hname : voc.names name)
    (hmark : voc.marks mark) :
    voc.Spells (Identifier.quoteName mark (q.comparedName source name)).toList 0 := by
  unfold Query.comparedName
  split
  · exact Vocabulary.spells_quoteName hmark hname
  · rw [Identifier.quoteName_append_point]
    have hfront := (Vocabulary.spells_quoteName hmark hsource).append
      (voc.spells_ordinary "." (by decide))
    simpa using hfront.append (Vocabulary.spells_quoteName hmark hname)

/-- What a call writes is spelled with its vocabulary, one slot for each value, if it binds one value
where it compares. -/
theorem Writes.isSpelled (hwrites : call.Writes voc h source q e fragment)
    (hspeaks : call.SpeaksIn voc h) (hsource : voc.names source) (hone : call.BindsOne h e) :
    fragment.IsSpelled voc := by
  cases call with
  | verbatim text values => exact hwrites.elim
  | compare operator column value =>
      obtain ⟨name, mark, -, hname, hmark, rfl⟩ := hwrites
      have hlength : (h.asItems e.2).length = 1 := hone
      refine ⟨_, rfl, ?_⟩
      rw [Fragment.comparison, hlength]
      exact Fragment.spells_comparison_text (spells_comparedName hsource hname hmark) hspeaks.1
  | among operator column values inlined =>
      obtain ⟨written, fields, -, -, hquotes, -, -, rfl⟩ := hwrites
      have hspelled := Fragment.isSpelled_membership hquotes.spells hspeaks.1 (fields.map (·.2))
      rwa [List.map_map] at hspelled
  | check operator column =>
      obtain ⟨written, hquotes, rfl⟩ := hwrites
      exact Fragment.isSpelled_check hquotes.spells hspeaks.1
  | anyOf groups operator =>
      obtain ⟨all, written, -, hgroups, rfl⟩ := hwrites
      refine Fragment.isSpelled_anyOf (forall_of_forall₂ hgroups ?_)
      rintro group comparisons ⟨entries, -, hentries⟩
      refine forall_of_forall₂ hentries ?_
      rintro e c ⟨hquotes, hword, -⟩
      exact ⟨hquotes.spells, hword⟩

/-- Where no question mark is about, a condition is balanced exactly if it binds one value where it
compares. -/
theorem Writes.isBalanced_iff (hwrites : call.Writes .slotFree h source q e fragment)
    (hspeaks : call.SpeaksIn .slotFree h) (hsource : '?' ∉ source.toList) :
    fragment.IsBalanced ↔ call.BindsOne h e := by
  constructor
  · intro hbalanced
    -- Only a comparison can have another number of values than slots: its one slot is always there.
    cases call with
    | compare operator column value =>
        obtain ⟨name, mark, -, hname, hmark, rfl⟩ := hwrites
        obtain ⟨s, htext, hlength⟩ := hbalanced
        cases htext
        have hcolumn : Vocabulary.slotFree.Spells
            (Identifier.quoteName mark (q.comparedName source name)).toList 0 :=
          spells_comparedName hsource hname hmark
        exact hlength.trans (Fragment.spells_comparison_text hcolumn hspeaks.1).slotCount_eq
    | _ => trivial
  · intro hone
    exact (hwrites.isSpelled hspeaks hsource hone).isBalanced

/-- What is no list or tuple is bound as it was given. -/
theorem Writes.values_eq (hwrites : call.Writes voc h source q e fragment) (hcall : call.IsComparison)
    (hvalue : ¬ h.IsSequence e.2) : fragment.values = [e.2] := by
  cases call with
  | compare operator column value =>
      obtain ⟨name, mark, -, -, -, rfl⟩ := hwrites
      exact Heap.asItems_of_not_isSequence hvalue
  | _ => exact hcall.elim

end ConditionCall

namespace Record

variable {E : Environment}

/-- **Every condition that is added has one value for each of its slots, unless a column is compared
with a list or a tuple.** Such a comparison binds the items, and any other comparison exactly the value
that it was given. -/
theorem balanced_iff_bindsOne (kind : ConditionKind) (call : ConditionCall) (s : Scope E)
    (source : String) (hsource : s.record.query.source = .text source) (hfree : '?' ∉ source.toList)
    (hmarks : s.world.session.HasMarks (fun mark => '?' ∉ mark.toList) s.record.connection)
    (hspeaks : call.SpeaksIn .slotFree s.published.heap) :
    ∃ done added,
      done <+: call.subjects s.published.heap ∧
      (((condition kind call).perform s).1 = .ok () → done = call.subjects s.published.heap) ∧
      ((condition kind call).perform s).2.record = s.record.withConditions kind added ∧
      List.Forall₂ (fun e fragment =>
        call.Writes .slotFree s.published.heap source s.record.query e fragment ∧
          (fragment.IsBalanced ↔ call.BindsOne s.published.heap e) ∧
          (call.IsComparison → ¬ s.published.heap.IsSequence e.2 → fragment.values = [e.2]))
        done added := by
  have hcondition := @triple_condition E .slotFree s kind source call hsource hmarks hspeaks s rfl
  -- What is said of each condition does not depend on how many were added.
  have judged : ∀ {done added}, List.Forall₂
      (call.Writes .slotFree s.published.heap source s.record.query) done added →
      List.Forall₂ (fun e fragment =>
        call.Writes .slotFree s.published.heap source s.record.query e fragment ∧
          (fragment.IsBalanced ↔ call.BindsOne s.published.heap e) ∧
          (call.IsComparison → ¬ s.published.heap.IsSequence e.2 → fragment.values = [e.2]))
        done added := by
    intro done added hwrites
    refine hwrites.imp fun e fragment hw => ?_
    exact ⟨hw, hw.isBalanced_iff hspeaks hfree, hw.values_eq⟩
  rcases hrun : (condition kind call).perform s with ⟨result, s'⟩
  rw [hrun] at hcondition
  cases result with
  | ok _ =>
      obtain ⟨added, hholds, hwrites⟩ := hcondition
      exact ⟨_, added, List.prefix_rfl, fun _ => rfl, hholds.record, judged hwrites⟩
  | error failure =>
      obtain ⟨done, hdone, added, hholds, hwrites⟩ := hcondition
      exact ⟨done, added, hdone, by simp, hholds.record, judged hwrites⟩

/-- A record whose connection quotes with backticks, on an outside that has nothing to tell. -/
def onQuietDesk : Scope .quiet where
  record := onTable "orders" "default"
  world := { session := { settings := [("default", { quoteMark := some "\x60" })] }, outside := () }

theorem balanced_iff_bindsOne_onQuietDesk :
    ∃ fragment,
      ((condition .whereClause (.compare "=" (.text "note") (.text "why?"))).perform
        onQuietDesk).2.record.query.wheres = [fragment] ∧
      fragment.values = [.text "why?"] ∧ fragment.IsBalanced := by
  have hmarks : onQuietDesk.world.session.HasMarks (fun mark => '?' ∉ mark.toList) "default" := by
    refine Session.hasMarks_of_standard (by decide) (by decide) rfl rfl fun mark hmark => ?_
    cases hmark
    decide
  have hspeaks : (ConditionCall.compare "=" (.text "note") (.text "why?")).SpeaksIn .slotFree
      onQuietDesk.published.heap := by
    refine ⟨Vocabulary.slotFree.words_ordinary "=" (by decide), ?_⟩
    intro e he
    rw [List.mem_singleton.1 he]
    exact ⟨"note", rfl, show '?' ∉ "note".toList by decide⟩
  obtain ⟨done, added, -, hdone, hrecord, hjudged⟩ := balanced_iff_bindsOne .whereClause
    (.compare "=" (.text "note") (.text "why?")) onQuietDesk "orders" rfl (by decide) hmarks hspeaks
  have hsubjects : done = [(.text "note", .text "why?")] := hdone rfl
  subst hsubjects
  obtain _ | ⟨⟨-, hbalanced, hvalues⟩, hnil⟩ := hjudged
  obtain ⟨⟩ := hnil
  have hscalar : ¬ onQuietDesk.published.heap.IsSequence (.text "why?") := by
    rintro (⟨items, hitems⟩ | ⟨items, hitems⟩) <;> cases hitems
  refine ⟨_, ?_, hvalues trivial hscalar, hbalanced.2 rfl⟩
  rw [hrecord]
  rfl

/-- A list that a column is compared with brings a value for each of its items to the one slot. -/
theorem not_isBalanced_of_list_onQuietDesk :
    ((condition .whereClause (.compare "=" (.text "id") (.list [.int 1, .int 2]))).perform
        onQuietDesk).1 = .ok () ∧
      ((condition .whereClause (.compare "=" (.text "id") (.list [.int 1, .int 2]))).perform
        onQuietDesk).2.record.query.wheres = [⟨.text "\x60id\x60 = ?", [.int 1, .int 2]⟩] ∧
      ¬ Fragment.IsBalanced ⟨.text "\x60id\x60 = ?", [.int 1, .int 2]⟩ := by
  have hquoted : Identifier.quoteName "\x60" "id" = "\x60id\x60" := by decide +kernel
  refine ⟨rfl, ?_, ?_⟩
  · show [Fragment.comparison (Identifier.quoteName "\x60" "id") "=" [.int 1, .int 2]] = _
    rw [hquoted]
    rfl
  · rintro ⟨s, htext, hlength⟩
    cases htext
    exact absurd hlength (by decide)

end Record

end FluentSql
