import Cardfile.Text.Class
/-!
# Text — cutting and trimming

A text is a list of characters where its parts matter. `pieces` cuts at
every separator and `cutAt` at the first; joined again with the separator
they give back what was cut (`join_pieces`, `cutAt_eq_some`). `trim`
drops white space from both ends.
-/

namespace Cardfile

namespace Text

variable {α : Type} [DecidableEq α]

/-- The pieces between the separators, in order. A list without a
separator is one piece, and so is the empty list. -/
def pieces (sep : α) : List α → List (List α)
  | [] => [[]]
  | x :: rest =>
    if x = sep then [] :: pieces sep rest
    else match pieces sep rest with
      | [] => [[x]]
      | piece :: more => (x :: piece) :: more

/-- What stands before and after the first element that satisfies the
predicate, if there is one. -/
def cutAt (p : α → Bool) : List α → Option (List α × List α)
  | [] => none
  | x :: rest =>
    if p x then some ([], rest)
    else (cutAt p rest).map fun cut => (x :: cut.1, cut.2)

/-- The list without its white space at the front. -/
def trimFront (s : List Char) : List Char := s.dropWhile isBlank

/-- The text without the white space at either end. -/
def trim (s : List Char) : List Char := (trimFront (trimFront s).reverse).reverse

/-- The string without the white space at either end. -/
def trimmed (s : String) : String := String.ofList (trim s.toList)

/-- The text without one last element equal to `x`. -/
def dropLastIf (x : α) (s : List α) : List α :=
  if s.getLast? = some x then s.dropLast else s

/-- There is always a first piece. -/
theorem pieces_ne_nil (sep : α) (s : List α) : pieces sep s ≠ [] := by
  cases s with
  | nil => simp [pieces]
  | cons x rest =>
    simp only [pieces]
    split
    · simp
    · split <;> simp

/-- **Joining the pieces restores the list.** -/
theorem join_pieces (sep : α) (s : List α) : [sep].intercalate (pieces sep s) = s := by
  induction s with
  | nil => simp [pieces]
  | cons x rest ih =>
    simp only [pieces]
    split
    · next h =>
      cases hp : pieces sep rest with
      | nil => exact absurd hp (pieces_ne_nil sep rest)
      | cons piece more =>
        rw [hp] at ih
        simp [h, ih]
    · split
      · next hp => exact absurd hp (pieces_ne_nil sep rest)
      · next piece more hp =>
        rw [hp] at ih
        cases more with
        | nil => simpa using ih
        | cons => simpa using ih

omit [DecidableEq α] in
/-- **A cut loses only the element it was made at**, and leaves none like
it before. -/
theorem cutAt_eq_some {p : α → Bool} {s before after : List α}
    (h : cutAt p s = some (before, after)) :
    ∃ x, p x = true ∧ s = before ++ x :: after ∧ ∀ y ∈ before, p y = false := by
  induction s generalizing before with
  | nil => simp [cutAt] at h
  | cons x rest ih =>
    simp only [cutAt] at h
    split at h
    · next hx =>
      simp only [Option.some.injEq, Prod.mk.injEq] at h
      obtain ⟨rfl, rfl⟩ := h
      exact ⟨x, hx, rfl, by simp⟩
    · next hx =>
      obtain ⟨cut, hcut, heq⟩ := Option.map_eq_some_iff.1 h
      obtain ⟨rfl, rfl⟩ := Prod.mk.inj heq
      obtain ⟨y, hy, rfl, hall⟩ := ih hcut
      refine ⟨y, hy, rfl, fun z hz => ?_⟩
      rcases List.mem_cons.1 hz with rfl | hz
      · simpa using hx
      · exact hall z hz

end Text

end Cardfile
