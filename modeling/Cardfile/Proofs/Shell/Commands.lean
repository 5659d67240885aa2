import Cardfile.Command
import Cardfile.Proofs.Outcome
import Cardfile.Proofs.Text.Pieces
import Mathlib
/-!
# Commands — expressions and answers

A command sees of its expression what is left without the white space at
either end, and nothing of an expression that is not given or blank. Its
answer in a listing is a text, and whatever it fails with has a message.
-/

namespace Cardfile

/-- **Every fault has a message.** -/
theorem CommandFault.exists_message (fault : CommandFault) :
    ∃ message, fault.report.message = some message := by
  cases fault with
  | badUse => exact ⟨_, rfl⟩
  | query fault => cases fault <;> exact ⟨_, rfl⟩
  | evaluation fault => cases fault <;> exact ⟨_, rfl⟩

namespace Command

/-- The characters of an expression that a command sees. -/
def seen (expression : Option String) : List Char := Text.trim (expression.getD "").toList

/-- A command requires that there are any. -/
theorem requireExpression_eq (expression : Option String) (expected : String) :
    requireExpression expression expected =
      if seen expression = [] then .error (.badUse expected)
      else .ok (String.ofList (seen expression)) := by
  cases expression with
  | none => rfl
  | some text => simp only [requireExpression, List.isEmpty_iff]; rfl

/-- **What a listing needs of a command**: it goes by what it sees of the
expression, and answers with a text. -/
structure Listed (command : Store → Option String → Format → Except CommandFault Answer) :
    Prop where
  congr : ∀ {store e e'}, seen e = seen e' → command store e .table = command store e' .table
  text : ∀ {store e a}, command store e .table = .ok a → ∃ shown, a = .text shown

theorem listed_query : Listed query where
  congr := by
    intro store e e' h
    simp only [query, requireExpression_eq, h]
  text := by
    intro store e a h
    obtain ⟨_, -, h⟩ := bind_eq_ok.1 h
    obtain ⟨_, -, h⟩ := bind_eq_ok.1 h
    obtain ⟨selection, -, h⟩ := bind_eq_ok.1 h
    cases h
    exact ⟨selectionText selection, rfl⟩

theorem listed_indexQuery : Listed indexQuery where
  congr := by
    intro store e e' h
    simp only [indexQuery, requireExpression_eq, h]
  text := by
    intro store e a h
    obtain ⟨_, -, h⟩ := bind_eq_ok.1 h
    obtain ⟨q, -, h⟩ := bind_eq_ok.1 h
    cases hkey : q.indexKey? with
    | none =>
      rw [hkey] at h
      cases h
    | some key =>
      rw [hkey] at h
      simp only at h
      split_ifs at h <;> cases h <;> exact ⟨_, rfl⟩

end Command

end Cardfile
