import Cardfile.Proofs.Query.Sentences
import Cardfile.Proofs.Store.Scan
import Mathlib
/-!
# Stores — queries joined by `AND`

Two texts that are compiled can be joined by `AND`, in either order: a
sentence may go on after its last literal, and whatever gap the texts
have around them only widens the one around the word. So the conditions
of the one are followed by those of the other, and where both queries can
be answered their conjunction selects what both of them select
(`scan_joined`).
-/

namespace Cardfile

namespace Query

variable {schema : Schema}

/-! ## Joined texts -/

/-- **A sentence may follow another** after the word. -/
theorem Sentence.append {gap : List Char → Prop} {first second : List Condition}
    {text g word g' more : List Char} (h : Sentence gap schema first text) (hg : gap g)
    (hword : IsAnd word) (hg' : gap g') (hne : g' ≠ []) (hmore : Sentence gap schema second more) :
    Sentence gap schema (first ++ second) (text ++ (g ++ (word ++ (g' ++ more)))) := by
  induction h with
  | single hspelled => exact .join hspelled hg hword hg' hne hmore
  | join hspelled hg₁ hword₁ hg₂ hne₂ _ ih =>
    have hjoined := Sentence.join hspelled hg₁ hword₁ hg₂ hne₂ ih
    simpa only [List.cons_append, List.append_assoc] using hjoined

/-- What stands around two texts becomes part of the gaps between them. -/
theorem Spelled.append {first second : List Condition} {text more : List Char}
    (h : Spelled Filler schema first text) (hmore : Spelled Filler schema second more) :
    Spelled Filler schema (first ++ second) (text ++ (" AND ".toList ++ more)) := by
  obtain ⟨g₁, sentence, g₂, hg₁, hsentence, hg₂, rfl⟩ := h
  obtain ⟨g₃, sentence', g₄, hg₃, hsentence', hg₄, rfl⟩ := hmore
  have hspace : Filler [' '] := .of_isSpace isSpace_space
  -- one gap is what follows the first sentence, the other what is before the second
  have hjoined := hsentence.append (hg₂.append hspace) isAnd_conjunctionWord
    (hspace.append hg₃) (by simp) hsentence'
  refine ⟨g₁, _, g₄, hg₁, hjoined, hg₄, ?_⟩
  simp [conjunctionWord]

/-- **Joined texts are compiled to the conditions of both.** -/
theorem compile_joined {first second : String} {q q' : Query} (hschema : schema.Registered)
    (h : compile schema first = .ok q) (h' : compile schema second = .ok q') :
    compile schema (first ++ " AND " ++ second) = .ok ⟨q.conditions ++ q'.conditions⟩ := by
  rw [compile_eq_ok_iff hschema] at h h' ⊢
  rw [String.toList_append, String.toList_append, List.append_assoc]
  exact h.append h'

end Query

namespace Store

open Query

variable {s : Store}

/-! ## Joined scans -/

/-- **Conditions that can be asked one after the other** select what both
select. -/
theorem scan_append {first second : List Condition} {selected selected' : List Record}
    (h : s.scan (accepts first) = .ok selected) (h' : s.scan (accepts second) = .ok selected') :
    s.scan (accepts (first ++ second)) =
      .ok (s.records.toList.filter fun r => r ∈ selected ∧ r ∈ selected') := by
  obtain ⟨p, hp, rfl⟩ := Record.select_eq_ok_iff.1 h
  obtain ⟨p', hp', rfl⟩ := Record.select_eq_ok_iff.1 h'
  refine Record.select_eq_ok fun r hr => ?_
  rw [accepts_append, hp r hr]
  cases haccepted : p r with
  | false => simp [hr, haccepted, bind, Except.bind, pure, Except.pure]
  | true => simp [hr, haccepted, hp' r hr, bind, Except.bind]

/-- **`AND` is concatenation and intersection.** Two texts that are
compiled can be joined by the word, and spell the conditions of the first
and then those of the second. Where both are answered, joined in either
order they select the records that both select, in the order of the
store. -/
theorem scan_joined {hash : String → UInt64} {columns : List Column} {schema : Schema}
    {first second : String} {q q' : Query}
    (hschema : Schema.ofColumnsWith hash columns = .ok schema)
    (h : compile schema first = .ok q) (h' : compile schema second = .ok q') :
    compile schema (first ++ " AND " ++ second) = .ok ⟨q.conditions ++ q'.conditions⟩ ∧
    compile schema (second ++ " AND " ++ first) = .ok ⟨q'.conditions ++ q.conditions⟩ ∧
    ∀ (s : Store) (selected selected' : List Record),
      s.scan (accepts q.conditions) = .ok selected →
      s.scan (accepts q'.conditions) = .ok selected' →
        s.scan (accepts (q.conditions ++ q'.conditions)) =
            .ok (s.records.toList.filter fun r => r ∈ selected ∧ r ∈ selected') ∧
          s.scan (accepts (q'.conditions ++ q.conditions)) =
            .ok (s.records.toList.filter fun r => r ∈ selected ∧ r ∈ selected') := by
  have hregistered := Schema.registered_ofColumnsWith hschema
  refine ⟨compile_joined hregistered h h', compile_joined hregistered h' h, ?_⟩
  intro s selected selected' hscan hscan'
  refine ⟨scan_append hscan hscan', ?_⟩
  rw [scan_append hscan' hscan]
  simp only [and_comm]

/-- Texts with gaps at their ends, one with an empty pair of quotes. -/
theorem scan_joined_of_gaps :
    compile keyAndNumber "n>\"0\" \"\" AND k LIKE \"*\"\u2003" =
        .ok ⟨[⟨1, .greater, "0"⟩, ⟨0, .like, "*"⟩]⟩ ∧
      twoRecords.scan (accepts [⟨0, .like, "*"⟩, ⟨1, .greater, "0"⟩]) =
        .ok [⟨["a", "1"]⟩, ⟨["b", "2"]⟩] := by
  have hfirst : compile keyAndNumber "n>\"0\" \"\"" = .ok ⟨[⟨1, .greater, "0"⟩]⟩ := by
    decide +kernel
  have hsecond : compile keyAndNumber "k LIKE \"*\"\u2003" = .ok ⟨[⟨0, .like, "*"⟩]⟩ := by
    decide +kernel
  obtain ⟨hjoined, -, hscan⟩ := scan_joined ofColumnsWith_keyAndNumber hfirst hsecond
  refine ⟨hjoined, ?_⟩
  refine (hscan twoRecords _ _ (by rfl) (by rfl)).2.trans ?_
  decide +kernel

end Store

end Cardfile
