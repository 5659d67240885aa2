import Cardfile.Text.Pieces
import Cardfile.Proofs.Query.Characters
import Mathlib
/-!
# Text — pieces and trimmed texts

What `pieces` cuts a list into is told without it: parts without a
separator that make up the list again when they are joined
(`pieces_eq_iff`), and one cut by what stands in front of it
(`cutAt_append`). In the same way a text is what was trimmed with white
space on either side of it (`exists_trim`, `trim_append`), and white space
put there is trimmed again (`trim_space_append`, `trim_append_space`).
-/

namespace Cardfile

namespace Text

section Pieces

variable {α : Type} [DecidableEq α] {sep : α}

/-- What stands in front of the first separator is put in front of the
first piece. -/
theorem exists_pieces_append {front : List α} (h : sep ∉ front) (rest : List α) :
    ∃ piece more, pieces sep rest = piece :: more ∧
      pieces sep (front ++ rest) = (front ++ piece) :: more := by
  induction front with
  | nil =>
    obtain ⟨piece, more, hpieces⟩ := List.exists_cons_of_ne_nil (pieces_ne_nil sep rest)
    exact ⟨piece, more, hpieces, hpieces⟩
  | cons x front ih =>
    obtain ⟨hx, hfront⟩ := not_or.1 (List.mem_cons.not.1 h)
    obtain ⟨piece, more, hrest, hpieces⟩ := ih hfront
    refine ⟨piece, more, hrest, ?_⟩
    rw [List.cons_append, pieces, if_neg (Ne.symm hx), hpieces]
    rfl

/-- **The list is made of these parts**, with a separator between one and
the next and no other. -/
structure Separated (sep : α) (parts : List (List α)) (s : List α) : Prop where
  ne_nil : parts ≠ []
  not_mem : ∀ part ∈ parts, sep ∉ part
  join : [sep].intercalate parts = s

/-- No piece has a separator. -/
theorem not_mem_of_mem_pieces (s : List α) : ∀ piece ∈ pieces sep s, sep ∉ piece := by
  induction s with
  | nil => simp [pieces]
  | cons x rest ih =>
    rw [pieces]
    split_ifs with hx
    · exact List.forall_mem_cons.2 ⟨List.not_mem_nil, ih⟩
    · cases hpieces : pieces sep rest with
      | nil => exact absurd hpieces (pieces_ne_nil sep rest)
      | cons piece more =>
        rw [hpieces] at ih
        obtain ⟨hpiece, hmore⟩ := List.forall_mem_cons.1 ih
        refine List.forall_mem_cons.2 ⟨fun hmem => ?_, hmore⟩
        exact (List.mem_cons.1 hmem).elim (fun heq => hx heq.symm) hpiece

/-- What stands after the last separator goes to the last piece. -/
theorem exists_pieces_concat {x : α} (hx : x ≠ sep) (s : List α) :
    ∃ front last, pieces sep s = front ++ [last] ∧
      pieces sep (s ++ [x]) = front ++ [last ++ [x]] := by
  induction s with
  | nil => exact ⟨[], [], rfl, by simp [pieces, hx]⟩
  | cons y s ih =>
    obtain ⟨front, last, hpieces, hpieces'⟩ := ih
    rw [List.cons_append, pieces, pieces, hpieces, hpieces']
    by_cases hy : y = sep
    · exact ⟨[] :: front, last, by simp [hy], by simp [hy]⟩
    · cases front with
      | nil => exact ⟨[], y :: last, by simp [hy], by simp [hy]⟩
      | cons first front => exact ⟨(y :: first) :: front, last, by simp [hy], by simp [hy]⟩

/-- **A list has one such making**, and `pieces` finds it. -/
theorem pieces_eq_iff {s : List α} {parts : List (List α)} :
    pieces sep s = parts ↔ Separated sep parts s := by
  constructor
  · rintro rfl
    exact ⟨pieces_ne_nil sep s, not_mem_of_mem_pieces s, join_pieces sep s⟩
  · rintro ⟨hne, hnot, rfl⟩
    induction parts with
    | nil => exact absurd rfl hne
    | cons part parts ih =>
      obtain ⟨hpart, hparts⟩ := List.forall_mem_cons.1 hnot
      cases parts with
      | nil =>
        obtain ⟨piece, more, hnil, hpieces⟩ := exists_pieces_append hpart []
        obtain ⟨rfl, rfl⟩ := List.cons.inj hnil
        simpa using hpieces
      | cons next parts =>
        have hjoin : [sep].intercalate (part :: next :: parts) =
            part ++ sep :: [sep].intercalate (next :: parts) := by simp
        -- the part stands in front of a separator, so the piece it is put before is empty
        obtain ⟨piece, more, hfront, hpieces⟩ :=
          exists_pieces_append hpart (sep :: [sep].intercalate (next :: parts))
        rw [pieces, if_pos rfl, ih (List.cons_ne_nil _ _) hparts] at hfront
        obtain ⟨rfl, rfl⟩ := List.cons.inj hfront
        rw [hjoin, hpieces, List.append_nil]

end Pieces

section Join

variable {α : Type} {sep : α}

theorem intercalate_concat (front : List (List α)) (last : List α) :
    [sep].intercalate (front ++ [last]) = front.flatMap (· ++ [sep]) ++ last := by
  induction front with
  | nil => simp
  | cons part front ih =>
    rw [List.cons_append, List.intercalate_cons_of_ne_nil (by simp), ih, List.flatMap_cons,
      List.append_assoc, List.append_assoc, List.append_assoc]

/-- What is joined ends as its last part does, or with a separator. -/
theorem getLast?_intercalate {front : List (List α)} {last : List α} {x : α} (hx : x ≠ sep)
    (h : ([sep].intercalate (front ++ [last])).getLast? = some x) : last.getLast? = some x := by
  rw [intercalate_concat, List.getLast?_append] at h
  rcases last.eq_nil_or_concat with rfl | ⟨last, y, rfl⟩
  · rcases front.eq_nil_or_concat with rfl | ⟨front, part, rfl⟩
    · cases h
    · simp [Ne.symm hx] at h
  · simpa using h

end Join

section Cut

variable {α : Type} {p : α → Bool}

/-- A list is not cut if nothing in it satisfies the predicate. -/
theorem cutAt_of_forall {s : List α} (h : ∀ x ∈ s, p x = false) : cutAt p s = none := by
  induction s with
  | nil => rfl
  | cons x rest ih =>
    obtain ⟨hx, hrest⟩ := List.forall_mem_cons.1 h
    simp [cutAt, hx, ih hrest]

/-- It is cut at the first element that does. -/
theorem cutAt_append {front back : List α} {x : α} (hfront : ∀ y ∈ front, p y = false)
    (hx : p x = true) : cutAt p (front ++ x :: back) = some (front, back) := by
  induction front with
  | nil => simp [cutAt, hx]
  | cons y front ih =>
    obtain ⟨hy, hfront⟩ := List.forall_mem_cons.1 hfront
    simp [cutAt, hy, ih hfront]

end Cut

section Trim

open Query

variable {w w' text : List Char}

/-- What is trimmed at the front is still to be trimmed at the end. -/
theorem exists_trimFront (text : List Char) : ∃ w, IsSpace w ∧ trimFront text = trim text ++ w := by
  obtain ⟨v, hv, hback⟩ := exists_isSpace_append (trimFront text).reverse
  refine ⟨v.reverse, fun c hc => hv c (List.mem_reverse.1 hc), ?_⟩
  rw [trim, ← List.reverse_append, ← hback, List.reverse_reverse]

/-- Trimming takes white space from either side. -/
theorem exists_trim (text : List Char) :
    ∃ w w', IsSpace w ∧ IsSpace w' ∧ text = w ++ (trim text ++ w') := by
  obtain ⟨w, hw, htext⟩ := exists_isSpace_append text
  obtain ⟨w', hw', hfront⟩ := exists_trimFront text
  exact ⟨w, w', hw, hw', by rw [← hfront, ← htext]⟩

/-- **And all of it**, up to a text that neither begins nor ends with
white space. -/
theorem trim_append (hw : IsSpace w) (hw' : IsSpace w') (hne : text ≠ [])
    (hfront : Stops isBlank text) (hback : Stops isBlank text.reverse) :
    trim (w ++ (text ++ w')) = text := by
  have hstop : Stops isBlank (text ++ w') := hfront.append fun hnil => absurd hnil hne
  have hspace : IsSpace w'.reverse := fun c hc => hw' c (List.mem_reverse.1 hc)
  rw [trim, trimFront_append hw hstop, List.reverse_append, trimFront_append hspace hback,
    List.reverse_reverse]

/-- So a text without white space is what is left. -/
theorem trim_append_of_forall (hw : IsSpace w) (hw' : IsSpace w') (hne : text ≠ [])
    (h : ∀ c ∈ text, isBlank c = false) : trim (w ++ (text ++ w')) = text := by
  refine trim_append hw hw' hne (fun c hc => h c (List.mem_of_mem_head? hc)) fun c hc => ?_
  exact h c (List.mem_reverse.1 (List.mem_of_mem_head? hc))

/-- White space at the front is trimmed with what is blank after it. -/
theorem trim_space_append (hw : IsSpace w) (text : List Char) : trim (w ++ text) = trim text := by
  simp only [trim, trimFront, List.dropWhile_append_of_pos hw]

/-- And white space at the end with what is blank before it. -/
theorem trim_append_space (hw : IsSpace w) (text : List Char) : trim (text ++ w) = trim text := by
  have hspace : ∀ c ∈ w.reverse, isBlank c = true := fun c hc => hw c (List.mem_reverse.1 hc)
  rw [trim, trim]
  simp only [trimFront]
  rw [List.dropWhile_append]
  split_ifs with hempty
  · rw [List.isEmpty_iff.1 hempty, List.dropWhile_eq_nil_iff.2 hw]
  · rw [List.reverse_append, List.dropWhile_append_of_pos hspace]

theorem trim_append_return (s : List Char) : trim (s ++ ['\r']) = trim s :=
  trim_append_space (by decide) s

/-- Nothing is left of white space alone. -/
theorem trim_eq_nil_iff : trim text = [] ↔ IsSpace text := by
  constructor
  · intro h
    obtain ⟨w, w', hw, hw', htext⟩ := exists_trim text
    rw [h, List.nil_append] at htext
    rw [htext]
    exact hw.append hw'
  · intro h
    have hnil := trim_space_append h []
    rwa [List.append_nil] at hnil

/-- **A trimmed text is not trimmed again.** -/
theorem trim_trim (text : List Char) : trim (trim text) = trim text := by
  obtain ⟨w, w', hw, hw', htext⟩ := exists_trim text
  conv_rhs => rw [htext, trim_space_append hw, trim_append_space hw']

end Trim

section Drop

variable {α : Type} [DecidableEq α] {x : α} {s : List α}

/-- One last element is dropped, or none. -/
theorem dropLastIf_concat (x y : α) (s : List α) :
    dropLastIf x (s ++ [y]) = if y = x then s else s ++ [y] := by
  simp only [dropLastIf, List.getLast?_concat, Option.some.injEq, List.dropLast_concat]

/-- Of two at the end one is dropped after the other. -/
theorem exists_dropLastIf (h : [x, x] <:+ s) :
    ∃ front, dropLastIf x s = front ++ [x] ∧ dropLastIf x (dropLastIf x s) = front := by
  obtain ⟨front, rfl⟩ := h
  have hone : dropLastIf x (front ++ [x, x]) = front ++ [x] := by
    rw [List.append_cons, dropLastIf_concat, if_pos rfl]
  exact ⟨front, hone, by rw [hone, dropLastIf_concat, if_pos rfl]⟩

/-- **Dropping again changes nothing** unless there are two at the end. -/
theorem dropLastIf_dropLastIf (h : ¬ [x, x] <:+ s) :
    dropLastIf x (dropLastIf x s) = dropLastIf x s := by
  rcases s.eq_nil_or_concat with rfl | ⟨front, y, rfl⟩
  · rfl
  rw [List.concat_eq_append] at h ⊢
  rw [dropLastIf_concat]
  split_ifs with hy
  · rcases front.eq_nil_or_concat with rfl | ⟨front, z, rfl⟩
    · rfl
    rw [List.concat_eq_append] at h ⊢
    rw [dropLastIf_concat, if_neg]
    rintro rfl
    exact h ⟨front, by rw [hy, List.append_cons]⟩
  · rw [dropLastIf_concat, if_neg hy]

end Drop

end Text

end Cardfile
