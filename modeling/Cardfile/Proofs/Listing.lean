import Cardfile.Listing
import Cardfile.Proofs.Text.Pieces
import Mathlib
/-!
# Listings — columns that line up

A border and a row are ruled lines: a ruler, and after it one part for each
column that ends with the ruler again and is three characters longer than
the column is wide (`Ruled`). So the parts of one column begin at the same
place in every line (`Ruled.drop_eq`), whichever function made the line.
A column is as wide as its longest value (`isGreatest_widths`), so each
value fits, and what is cut out of its cell is the value with spaces after
it (`Aligned.value`).
-/

namespace Cardfile

namespace Listing

variable {x : Char} {ws : List ℕ} {parts : List (List Char)} {records : List Record} {j w : ℕ}

/-! ## Ruled lines -/

/-- How many characters stand in front of column `j`. -/
def offset (ws : List ℕ) (j : ℕ) : ℕ := ((ws.take j).map (· + 3)).sum

/-- **The parts of a ruled line**, one for each column: two characters
around as many as the column is wide, and the ruler. -/
def Ruled (x : Char) : List ℕ → List (List Char) → Prop :=
  List.Forall₂ fun w part => part.length = w + 3 ∧ part.getLast? = some x

namespace Ruled

theorem length_eq (h : Ruled x ws parts) :
    (x :: parts.flatten).length = 1 + (ws.map (· + 3)).sum := by
  induction h with
  | nil => rfl
  | cons hpart _ ih =>
    rw [List.length_cons] at ih
    rw [List.length_cons, List.flatten_cons, List.length_append, hpart.1, List.map_cons,
      List.sum_cons]
    omega

theorem getLast?_eq (h : Ruled x ws parts) : (x :: parts.flatten).getLast? = some x := by
  induction h with
  | nil => rfl
  | cons hpart _ ih =>
    obtain ⟨front, rfl⟩ := List.getLast?_eq_some_iff.1 hpart.2
    rw [List.flatten_cons, List.append_assoc, ← List.cons_append, List.singleton_append,
      List.getLast?_append, ih]
    rfl

/-- **A part begins where its column does**, behind a ruler. -/
theorem drop_eq (h : Ruled x ws parts) (j : ℕ) :
    (x :: parts.flatten).drop (offset ws j) = x :: (parts.drop j).flatten := by
  induction h generalizing j with
  | nil => simp [offset]
  | @cons w part ws parts hpart _ ih =>
    cases j with
    | zero => rfl
    | succ j =>
      obtain ⟨front, rfl⟩ := List.getLast?_eq_some_iff.1 hpart.2
      have hoffset : offset (w :: ws) (j + 1) = (x :: front).length + offset ws j := by
        have hlength := hpart.1
        rw [List.length_append, List.length_singleton] at hlength
        rw [offset, List.take_succ_cons, List.map_cons, List.sum_cons, List.length_cons, offset]
        omega
      rw [hoffset, ← List.drop_drop, List.flatten_cons, List.append_assoc, ← List.cons_append,
        List.drop_left, List.singleton_append, ih, List.drop_succ_cons]

/-- So it is what stands there. -/
theorem prefix_drop (h : Ruled x ws parts) {part : List Char} (hpart : parts[j]? = some part) :
    x :: part <+: (x :: parts.flatten).drop (offset ws j) := by
  obtain ⟨hlt, rfl⟩ := List.getElem?_eq_some_iff.1 hpart
  rw [h.drop_eq, List.drop_eq_getElem_cons hlt, List.flatten_cons, ← List.cons_append]
  exact List.prefix_append _ _

end Ruled

/-- The part of a border for a column. -/
def borderPart (w : ℕ) : List Char := List.replicate (w + 2) '=' ++ ['+']

/-- **A border is ruled.** -/
theorem ruled_border (ws : List ℕ) : Ruled '+' ws (ws.map borderPart) := by
  rw [Ruled, List.forall₂_map_right_iff, List.forall₂_same]
  intro w _
  exact ⟨by simp [borderPart], List.getLast?_concat⟩

theorem border_eq (ws : List ℕ) : border ws = '+' :: (ws.map borderPart).flatten := by
  rw [border, List.flatMap_def]
  rfl

/-- The cells of a row. -/
def cells (ws : List ℕ) (values : List String) : List (List Char) :=
  (values.zip ws).map fun p => cell p.1 p.2

/-- **A row is ruled** if its values fit. -/
theorem ruled_row {values : List String}
    (h : List.Forall₂ (fun value w => value.length ≤ w) values ws) :
    Ruled '|' ws (cells ws values) := by
  induction h with
  | nil => exact .nil
  | @cons value w values ws hvalue _ ih =>
    refine .cons ⟨?_, ?_⟩ ih
    · simp only [cell, List.length_cons, List.length_append, String.length_toList,
        List.length_replicate, List.length_nil]
      omega
    · simp [cell, List.getLast?_cons]

theorem row_eq (ws : List ℕ) (values : List String) :
    row ws values = '|' :: (cells ws values).flatten := by
  rw [row, List.flatMap_def]
  rfl

/-! ## Widths -/

/-- A column takes the longer of its width and the value. -/
theorem getElem?_widen (ws : List ℕ) (values : List String) (j : ℕ) :
    (widen ws values)[j]? =
      match ws[j]?, values[j]? with
      | some w, some value => some (max w value.length)
      | width?, _ => width? := by
  induction ws generalizing values j with
  | nil => rfl
  | cons w ws ih =>
    cases values with
    | nil =>
      rw [widen]
      · cases (w :: ws)[j]? <;> rfl
      · nofun
    | cons value values =>
      cases j with
      | zero => rfl
      | succ j => exact ih values j

theorem length_widen (ws : List ℕ) (values : List String) :
    (widen ws values).length = ws.length := by
  induction ws generalizing values with
  | nil => rfl
  | cons w ws ih =>
    cases values with
    | nil => rfl
    | cons value values => simp [widen, ih]

/-- The lengths of the values in column `j`. -/
def lengths (records : List Record) (j : ℕ) : Set ℕ :=
  {n | ∃ r ∈ records, ∃ value, r.values[j]? = some value ∧ value.length = n}

theorem lengths_cons {r : Record} {value : String} (hvalue : r.values[j]? = some value)
    (records : List Record) :
    lengths (r :: records) j = insert value.length (lengths records j) := by
  ext n
  simp [lengths, hvalue, eq_comm]

/-- Record by record a column becomes as wide as its longest value, if it
was not wider before. -/
theorem exists_foldl_widen (hlength : ∀ r ∈ records, r.values.length = ws.length)
    (hw : ws[j]? = some w) :
    ∃ w', (records.foldl (fun ws r => widen ws r.values) ws)[j]? = some w' ∧
      IsGreatest (insert w (lengths records j)) w' := by
  induction records generalizing ws w with
  | nil =>
    have hnone : lengths [] j = ∅ := by simp [lengths]
    refine ⟨w, hw, ?_⟩
    rw [hnone, insert_empty_eq]
    exact isGreatest_singleton
  | cons r records ih =>
    obtain ⟨hr, hrecords⟩ := List.forall_mem_cons.1 hlength
    have hj : j < r.values.length := hr ▸ (List.getElem?_eq_some_iff.1 hw).1
    have hvalue : r.values[j]? = some r.values[j] := List.getElem?_eq_getElem hj
    have hwidened : (widen ws r.values)[j]? = some (max w r.values[j].length) := by
      rw [getElem?_widen, hw, hvalue]
    obtain ⟨w', hw', hmem, hbound⟩ :=
      ih (fun r' hr' => by rw [length_widen]; exact hrecords r' hr') hwidened
    rw [upperBounds_insert, Set.mem_inter_iff, Set.mem_Ici, max_le_iff] at hbound
    refine ⟨w', hw', ?_, ?_⟩
    · rw [lengths_cons hvalue]
      rcases hmem with rfl | hmem
      · rcases max_choice w r.values[j].length with hmax | hmax
        · exact .inl hmax
        · exact .inr (.inl hmax)
      · exact .inr (.inr hmem)
    · rw [lengths_cons hvalue, upperBounds_insert, upperBounds_insert]
      exact ⟨hbound.1.1, hbound.1.2, hbound.2⟩

theorem length_foldl_widen (records : List Record) (ws : List ℕ) :
    (records.foldl (fun ws r => widen ws r.values) ws).length = ws.length := by
  induction records generalizing ws with
  | nil => rfl
  | cons r records ih => exact (ih _).trans (length_widen _ _)

/-- **A column is as wide as its longest value.** -/
theorem isGreatest_widths {m : ℕ} (hne : records ≠ [])
    (hlength : ∀ r ∈ records, r.values.length = m) :
    (widths records).length = m ∧
      ∀ j w, (widths records)[j]? = some w → IsGreatest (lengths records j) w := by
  obtain ⟨first, rest, rfl⟩ := List.exists_cons_of_ne_nil hne
  have hzeros : (first.values.map fun _ => 0).length = m := by
    rw [List.length_map]
    exact hlength first List.mem_cons_self
  have hm : (widths (first :: rest)).length = m := (length_foldl_widen _ _).trans hzeros
  refine ⟨hm, fun j w hw => ?_⟩
  have hj : j < m := hm ▸ (List.getElem?_eq_some_iff.1 hw).1
  have hlengths : ∀ r ∈ first :: rest, r.values.length = (first.values.map fun _ => 0).length :=
    fun r hr => (hlength r hr).trans hzeros.symm
  have hzero : (first.values.map fun _ => 0)[j]? = some 0 := by
    rw [List.getElem?_eq_getElem (hzeros ▸ hj), List.getElem_map]
  obtain ⟨w', hw', hmem, hbound⟩ := exists_foldl_widen hlengths hzero
  obtain rfl : w = w' := Option.some.inj (hw.symm.trans hw')
  rw [upperBounds_insert] at hbound
  refine ⟨?_, hbound.2⟩
  -- a width of zero is that of the first record too
  rcases hmem with rfl | hmem
  · have hlt : j < first.values.length := (hlength first List.mem_cons_self).symm ▸ hj
    have hmem : first.values[j].length ∈ lengths (first :: rest) j :=
      ⟨first, List.mem_cons_self, _, List.getElem?_eq_getElem hlt, rfl⟩
    have hle := hbound.2 hmem
    rwa [Nat.le_zero.1 hle] at hmem
  · exact hmem

/-- So every value fits. -/
theorem fits_widths {m : ℕ} (hlength : ∀ r ∈ records, r.values.length = m) {r : Record}
    (hr : r ∈ records) :
    List.Forall₂ (fun value w => value.length ≤ w) r.values (widths records) := by
  obtain ⟨hm, hgreatest⟩ := isGreatest_widths (List.ne_nil_of_mem hr) hlength
  rw [List.forall₂_iff_get]
  refine ⟨(hlength r hr).trans hm.symm, fun j hj hj' => ?_⟩
  exact (hgreatest j _ (List.getElem?_eq_getElem hj')).2
    ⟨r, hr, _, List.getElem?_eq_getElem hj, rfl⟩

/-! ## Lines -/

/-- A text without the spaces at its end. -/
def withoutSpaces (text : List Char) : List Char := text.rdropWhile (· = ' ')

theorem withoutSpaces_append (text : List Char) (n : ℕ) :
    withoutSpaces (text ++ List.replicate n ' ') = withoutSpaces text := by
  have hspaces : ∀ c ∈ (List.replicate n ' ').reverse, decide (c = ' ') = true := by
    simp +contextual
  rw [withoutSpaces, List.rdropWhile, List.reverse_append,
    List.dropWhile_append_of_pos hspaces]
  rfl

/-- The value with spaces up to the width. -/
def padded (value : String) (w : ℕ) : List Char :=
  value.toList ++ List.replicate (w - value.length) ' '

theorem length_padded {value : String} (h : value.length ≤ w) : (padded value w).length = w := by
  rw [padded, List.length_append, String.length_toList, List.length_replicate]
  omega

/-- **Border and rows line up**, and the rows hold what the records do. -/
structure Aligned (records : List Record) (ws : List ℕ) (edge : List Char)
    (rows : List (List Char)) : Prop where
  /-- A column is as wide as its longest value. -/
  width : ∀ {j w : ℕ}, ws[j]? = some w → IsGreatest (lengths records j) w
  /-- There is a row for each record. -/
  length_rows : rows.length = records.length
  /-- Border and rows are equally long. -/
  length_line : ∀ line ∈ edge :: rows, line.length = 1 + (ws.map (· + 3)).sum
  /-- A row ends with a ruler. -/
  getLast?_row : ∀ line ∈ rows, line.getLast? = some '|'
  /-- The border of a column begins where the column does. -/
  edge_column : ∀ {j w : ℕ}, ws[j]? = some w →
    '+' :: List.replicate (w + 2) '=' ++ ['+'] <+: edge.drop (offset ws j)
  /-- So does the cell: a ruler, a space, the value with spaces up to the
  width, one more space, and the next ruler. -/
  cell_column : ∀ {i : ℕ} {r : Record} {line : List Char},
    records[i]? = some r → rows[i]? = some line →
      ∀ {j : ℕ} {value : String} {w : ℕ}, r.values[j]? = some value → ws[j]? = some w →
        '|' :: ' ' :: padded value w ++ [' ', '|'] <+: line.drop (offset ws j)
  /-- The value is read back from its cell, up to spaces at its end. -/
  read_back : ∀ {i : ℕ} {r : Record} {line : List Char},
    records[i]? = some r → rows[i]? = some line →
      ∀ {j : ℕ} {value : String} {w : ℕ}, r.values[j]? = some value → ws[j]? = some w →
        withoutSpaces ((line.drop (offset ws j + 2)).take w) = withoutSpaces value.toList

/-- **The rows of the records line up** under a border of their widths. -/
theorem aligned_widths {m : ℕ} (hne : records ≠ [])
    (hlength : ∀ r ∈ records, r.values.length = m) :
    Aligned records (widths records) (border (widths records))
      (records.map fun r => row (widths records) r.values) := by
  obtain ⟨ws, hws⟩ : ∃ ws, ws = widths records := ⟨_, rfl⟩
  have hgreatest := (isGreatest_widths hne hlength).2
  have hfits : ∀ r ∈ records, List.Forall₂ (fun value w => value.length ≤ w) r.values ws :=
    fun r hr => hws ▸ fits_widths hlength hr
  rw [← hws] at hgreatest ⊢
  have hcell : ∀ {i : ℕ} {r : Record} {line : List Char}, records[i]? = some r →
      (records.map fun r => row ws r.values)[i]? = some line →
      ∀ {j : ℕ} {value : String} {w : ℕ}, r.values[j]? = some value → ws[j]? = some w →
        '|' :: ' ' :: padded value w ++ [' ', '|'] <+: line.drop (offset ws j) := by
    intro i r line hr hline j value w hvalue hw
    rw [List.getElem?_map, hr, Option.map_some, Option.some.injEq] at hline
    have hpart : (cells ws r.values)[j]? = some (cell value w) := by
      rw [cells, List.getElem?_map, List.getElem?_zip_eq_some (z := (value, w)) |>.2 ⟨hvalue, hw⟩]
      rfl
    rw [← hline, row_eq]
    exact (ruled_row (hfits r (List.mem_of_getElem? hr))).prefix_drop hpart
  exact {
    width := hgreatest _ _
    length_rows := List.length_map _
    length_line := by
      refine List.forall_mem_cons.2 ⟨?_, List.forall_mem_map.2 fun r hr => ?_⟩
      · rw [border_eq]
        exact (ruled_border ws).length_eq
      · rw [row_eq]
        exact (ruled_row (hfits r hr)).length_eq
    getLast?_row := by
      refine List.forall_mem_map.2 fun r hr => ?_
      rw [row_eq]
      exact (ruled_row (hfits r hr)).getLast?_eq
    edge_column := by
      intro j w hw
      rw [border_eq]
      refine (ruled_border ws).prefix_drop ?_
      rw [List.getElem?_map, hw]
      rfl
    cell_column := hcell
    read_back := by
      intro i r line hr hline j value w hvalue hw
      obtain ⟨rest, hrest⟩ := hcell hr hline hvalue hw
      have hle : value.length ≤ w :=
        (hgreatest j w hw).2 ⟨r, List.mem_of_getElem? hr, value, hvalue, rfl⟩
      rw [← List.drop_drop, ← hrest]
      show withoutSpaces ((padded value w ++ [' ', '|'] ++ rest).take w) = _
      rw [List.append_assoc, List.take_left' (length_padded hle), padded, withoutSpaces_append] }

theorem map_toList_lines (hne : records ≠ []) :
    (lines records).map String.toList =
      border (widths records) :: (records.map fun r => row (widths records) r.values) ++
        [border (widths records), (countLine records.length).toList] := by
  obtain ⟨first, rest, rfl⟩ := List.exists_cons_of_ne_nil hne
  simp only [lines, List.map_append, List.map_cons, List.map_map, Function.comp_def,
    String.toList_ofList, List.map_nil, List.cons_append, List.nil_append]

/-! ## No line is broken -/

theorem newline_not_mem_border (ws : List ℕ) : '\n' ∉ border ws := by
  simp [border, List.mem_replicate]

theorem newline_not_mem_row {values : List String}
    (h : ∀ value ∈ values, '\n' ∉ value.toList) (ws : List ℕ) : '\n' ∉ row ws values := by
  rw [row, List.mem_cons, List.mem_flatMap]
  rintro (hruler | ⟨⟨value, w⟩, hmem, hcell⟩)
  · exact absurd hruler (by decide)
  · have hvalue := h value (List.of_mem_zip hmem).1
    simp [cell, List.mem_replicate, hvalue] at hcell

theorem newline_not_mem_countLine (count : ℕ) : '\n' ∉ (countLine count).toList := by
  have htext : (countLine count).toList = "Records selected: ".toList ++ (toString count).toList :=
    String.toList_append
  have hdigits : (toString count).toList = Nat.toDigits 10 count := String.toList_ofList
  rw [htext, hdigits, List.mem_append, not_or]
  refine ⟨by decide, fun hcount => ?_⟩
  have hdigit := Nat.isDigit_of_mem_toDigits (by decide) (by decide) hcount
  exact absurd hdigit (by decide)

/-- **The lines are told apart again** by the line feeds between them. -/
theorem pieces_render (hne : records ≠ [])
    (hlines : ∀ r ∈ records, ∀ value ∈ r.values, '\n' ∉ value.toList) :
    Text.pieces '\n' (render records).toList =
      border (widths records) :: (records.map fun r => row (widths records) r.values) ++
        [border (widths records), (countLine records.length).toList] := by
  have hborder := newline_not_mem_border (widths records)
  rw [← map_toList_lines hne, Text.pieces_eq_iff]
  refine ⟨?_, ?_, ?_⟩
  · rw [map_toList_lines hne]
    exact List.cons_ne_nil _ _
  · rw [map_toList_lines hne, List.cons_append, List.forall_mem_cons, List.forall_mem_append,
      List.forall_mem_map]
    refine ⟨hborder, fun r hr => newline_not_mem_row (hlines r hr) _, ?_⟩
    exact List.forall_mem_cons.2 ⟨hborder, List.forall_mem_singleton.2
      (newline_not_mem_countLine _)⟩
  · rw [render, String.toList_intercalate]
    rfl

/-- **The listing of records lines up.** It has a line for each record in
their order, between two borders that are alike, and the number of records
below. All lines but the last are equally long, the columns begin at the
same places in each of them, and every value stands in its cell. -/
theorem render_aligned {m : ℕ} (hne : records ≠ [])
    (hlength : ∀ r ∈ records, r.values.length = m)
    (hlines : ∀ r ∈ records, ∀ value ∈ r.values, '\n' ∉ value.toList) :
    ∃ ws edge rows, ws.length = m ∧
      Text.pieces '\n' (render records).toList =
        edge :: rows ++ [edge, ("Records selected: " ++ toString records.length).toList] ∧
      (Text.pieces '\n' (render records).toList).length = records.length + 3 ∧
      Aligned records ws edge rows := by
  refine ⟨_, _, _, (isGreatest_widths hne hlength).1, pieces_render hne hlines, ?_,
    aligned_widths hne hlength⟩
  rw [pieces_render hne hlines]
  simp

/-- Two records, with a space at the end of a value, letters outside ASCII,
and nothing in the second column. -/
def ragged : List Record := [⟨["Božić ", "", "4"]⟩, ⟨["Š", "", "15"]⟩]

/-- A letter outside ASCII takes the place of one character, and a column
without values has a width. -/
theorem render_aligned_of_ragged :
    Text.pieces '\n' (render ragged).toList =
      ["+========+==+====+".toList, "| Božić  |  | 4  |".toList, "| Š      |  | 15 |".toList,
        "+========+==+====+".toList, "Records selected: 2".toList] ∧
      ∃ ws edge rows, ws.length = 3 ∧
        Text.pieces '\n' (render ragged).toList =
          edge :: rows ++ [edge, ("Records selected: " ++ toString 2).toList] ∧
        (Text.pieces '\n' (render ragged).toList).length = 5 ∧ Aligned ragged ws edge rows :=
  ⟨by decide +kernel, render_aligned (by decide) (by decide) (by decide)⟩

end Listing

end Cardfile
