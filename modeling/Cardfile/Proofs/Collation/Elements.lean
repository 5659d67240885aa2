import Cardfile.Collation.Order
import Mathlib
/-!
# Collation — the elements of a text in parts

The elements of a text are found from the left, two characters at a time
where these are one letter. So the first characters decide the first
element (`exists_elements_cons`), and a text may be cut wherever the
characters on either side of the cut are no letter together: its elements
are those of the parts, one after the other (`elements_append`).
-/

namespace Cardfile

namespace Collation

open Text

variable {c d : Char} {u v : List Char} {e : Element}

/-- Only letters of the alphabet have a weight as such. -/
theorem letterWeight?_eq_none {letter : List Char} :
    letterWeight? letter = none ↔ letter ∉ alphabet := by
  rw [letterWeight?, Option.map_eq_none_iff, place?, List.idxOf?_eq_none_iff]

/-- **The letters of two characters**, in either case. -/
theorem pair?_eq_none_iff :
    pair? c d = none ↔ (lower c, lower d) ∉ [('d', 'ž'), ('l', 'j'), ('n', 'j')] := by
  have hletters : [lower c, lower d] ∈ alphabet ↔
      (lower c, lower d) ∈ [('d', 'ž'), ('l', 'j'), ('n', 'j')] := by
    simp [alphabet]
  rw [pair?, Option.map_eq_none_iff, letterWeight?_eq_none, hletters]

/-- They are these three. -/
theorem mem_of_pair (h : pair? c d = some e) :
    (lower c, lower d) ∈ [('d', 'ž'), ('l', 'j'), ('n', 'j')] := by
  by_contra hnot
  rw [pair?_eq_none_iff.2 hnot] at h
  cases h

theorem pair_cases (h : pair? c d = some e) :
    lower c = 'd' ∧ lower d = 'ž' ∨ lower c = 'l' ∧ lower d = 'j' ∨
      lower c = 'n' ∧ lower d = 'j' := by
  simpa only [List.mem_cons, Prod.mk.injEq, List.not_mem_nil, or_false] using mem_of_pair h

/-- Both are letters of the alphabet on their own. -/
theorem mem_alphabet_of_pair (h : pair? c d = some e) :
    [lower c] ∈ alphabet ∧ [lower d] ∈ alphabet := by
  rcases pair_cases h with ⟨hc, hd⟩ | ⟨hc, hd⟩ | ⟨hc, hd⟩ <;> rw [hc, hd] <;> decide

/-- **Letters of two characters do not overlap**: what begins one does not
end another. -/
theorem pair?_eq_none_of_pair (h : pair? c d = some e) (b : Char) : pair? b c = none := by
  rw [pair?_eq_none_iff]
  rcases pair_cases h with ⟨hc, -⟩ | ⟨hc, -⟩ | ⟨hc, -⟩ <;> rw [hc] <;> simp

/-- The first two characters decide. -/
theorem elements_cons_cons (c d : Char) (u : List Char) :
    elements (c :: d :: u) =
      match pair? c d with
      | some e => e :: elements u
      | none => single c :: elements (d :: u) := by
  rfl

/-- They are one letter. -/
theorem elements_of_pair (h : pair? c d = some e) : elements (c :: d :: u) = e :: elements u := by
  rw [elements_cons_cons, h]

/-- They are no letter together. -/
theorem elements_of_unpaired (h : pair? c d = none) :
    elements (c :: d :: u) = single c :: elements (d :: u) := by
  rw [elements_cons_cons, h]

/-- The first character is a letter of its own, as far as the next one
tells. -/
theorem elements_of_single (h : ∀ d ∈ v.head?, pair? c d = none) :
    elements (c :: v) = single c :: elements v := by
  cases v with
  | nil => rfl
  | cons d v => exact elements_of_unpaired (h d rfl)

/-- **The first element** is that of the first character, or of the first
two. -/
theorem exists_elements_cons (c : Char) (u : List Char) :
    ∃ e es, elements (c :: u) = e :: es ∧ (e = single c ∨ ∃ d, pair? c d = some e) := by
  cases u with
  | nil => exact ⟨_, _, rfl, .inl rfl⟩
  | cons d u =>
    cases hpair : pair? c d with
    | none => exact ⟨_, _, elements_of_unpaired hpair, .inl rfl⟩
    | some e => exact ⟨_, _, elements_of_pair hpair, .inr ⟨d, hpair⟩⟩

/-- **A seam**: the characters on either side are no letter together. -/
def Seam (u v : List Char) : Prop := ∀ c ∈ u.getLast?, ∀ d ∈ v.head?, pair? c d = none

/-- **A text may be cut at a seam.** Its elements are those of the two
parts. -/
theorem elements_append (h : Seam u v) : elements (u ++ v) = elements u ++ elements v := by
  induction u using elements.induct with
  | case1 => rfl
  | case2 c => exact elements_of_single (h c rfl)
  | case3 c d rest e hpair ih =>
    have hrest : Seam rest v := by
      cases rest with
      | nil => exact nofun
      | cons x rest => exact h
    rw [List.cons_append, List.cons_append, elements_of_pair hpair, elements_of_pair hpair,
      ih hrest, List.cons_append]
  | case4 c d rest hpair ih =>
    rw [List.cons_append, List.cons_append, elements_of_unpaired hpair,
      elements_of_unpaired hpair, ← List.cons_append (a := d), ih h, List.cons_append]

/-- **Where two texts meet** there is a seam, or else the last character of
the first and the first one of the second are one letter, and the cut
falls within it. -/
theorem elements_append_cases (u v : List Char) :
    Seam u v ∨ ∃ u' c d v' e, u = u' ++ [c] ∧ v = d :: v' ∧ pair? c d = some e ∧
      elements u = elements u' ++ [single c] ∧
      elements (u ++ v) = elements u' ++ e :: elements v' := by
  by_cases hseam : Seam u v
  · exact .inl hseam
  · rw [Seam] at hseam
    push Not at hseam
    obtain ⟨c, hc, d, hd, hne⟩ := hseam
    obtain ⟨e, hpair⟩ := Option.ne_none_iff_exists'.1 hne
    obtain ⟨u', rfl⟩ := List.getLast?_eq_some_iff.1 hc
    obtain ⟨v', rfl⟩ := List.head?_eq_some_iff.1 hd
    -- what goes before the letter is cut off from it
    have hbefore : ∀ w, Seam u' (c :: w) := by
      rintro w b - _ ⟨⟩
      exact pair?_eq_none_of_pair hpair b
    refine .inr ⟨u', c, d, v', e, rfl, rfl, hpair, elements_append (hbefore []), ?_⟩
    rw [List.append_assoc, List.singleton_append, elements_append (hbefore (d :: v')),
      elements_of_pair hpair]

end Collation

end Cardfile
