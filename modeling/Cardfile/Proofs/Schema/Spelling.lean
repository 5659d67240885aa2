import Cardfile.Schema.Columns
import Cardfile.Proofs.Schema.Accepted
import Cardfile.Proofs.Text.Pieces
/-!
# Schemas — the spelling of columns

Columns can be spelled in many ways: with white space around each of them
and after its name, and with the kind of a text left out or not. Whatever
the way, a schema is read from every spelling of its columns and from no
other text (`read_eq_ok_iff`), for no name has a comma, a colon or white
space in it. The written form of a schema is one of the spellings, so what
is written is read again as it was (`read_text`).
-/

namespace Cardfile

open Text Query

namespace Column

variable {c : Column} {written : List Char}

/-! ## One column -/

/-- **The kind after a name**, which a text need not have. -/
inductive KindSpelled : ColumnKind → List Char → Prop
  | bare : KindSpelled .text []
  | text : KindSpelled .text (':' :: "text".toList)
  | integer : KindSpelled .integer (':' :: "int".toList)

/-- **The text of a column**: its name and its kind, with white space around
the two and between them. -/
def Spelled (c : Column) (written : List Char) : Prop :=
  ∃ w w' kind w'', IsSpace w ∧ IsSpace w' ∧ KindSpelled c.kind kind ∧ IsSpace w'' ∧
    written = w ++ (c.name.toList ++ (w' ++ kind) ++ w'')

/-- No character of a word is white space, a comma or a colon. -/
theorem of_mem_word {word : List Char} (h : isWord word = true) :
    ∀ d ∈ word, isBlank d = false ∧ d ≠ ',' ∧ d ≠ ':' := by
  have hpart : ∀ d ∈ word, isNamePart d = true := by
    cases word with
    | nil => exact List.forall_mem_nil _
    | cons d word =>
      rw [isWord, Bool.and_eq_true, List.all_eq_true] at h
      exact List.forall_mem_cons.2 ⟨isNamePart_of_isNameStart h.1, h.2⟩
  intro d hd
  refine ⟨isBlank_of_isNamePart (hpart d hd), ?_, ?_⟩ <;> rintro rfl <;>
    exact absurd (hpart _ hd) (by decide +kernel)

theorem readKind_eq_ok {kind : List Char} {k : ColumnKind} :
    readKind (String.ofList kind) = .ok k ↔ KindSpelled k (':' :: kind) := by
  have heq {s : String} : String.ofList kind = s ↔ kind = s.toList := by
    rw [← String.toList_inj, String.toList_ofList]
  simp only [readKind, heq]
  constructor
  · intro h
    split_ifs at h with htext hinteger <;> cases h
    · rw [htext]
      exact .text
    · rw [hinteger]
      exact .integer
  · intro h
    generalize hmark : ':' :: kind = mark at h
    cases h <;> cases hmark <;> rfl

/-- A kind is left out, or it follows a colon and ends in no white space. -/
theorem KindSpelled.cases_mark {k : ColumnKind} {mark : List Char} (h : KindSpelled k mark) :
    (k = .text ∧ mark = []) ∨
      ∃ kind, mark = ':' :: kind ∧ readKind (String.ofList kind) = .ok k ∧
        Stops isBlank (':' :: kind).reverse := by
  cases h with
  | bare => exact .inl ⟨rfl, rfl⟩
  | text | integer => exact .inr ⟨_, rfl, rfl, stops_cons.2 (by decide +kernel)⟩

/-- **A column is read from its spellings.** -/
theorem read_of_spelled (hword : isWord c.name.toList = true) (h : c.Spelled written) :
    read written = .ok c := by
  obtain ⟨w, w', mark, w'', hw, hw', hmark, hw'', rfl⟩ := h
  obtain ⟨name, k⟩ := c
  simp only at hword hmark ⊢
  have hname := of_mem_word hword
  have hne : name.toList ≠ [] := by
    intro hnil
    rw [hnil] at hword
    cases hword
  have htrim {v : List Char} (hv : IsSpace v) : trim (name.toList ++ v) = name.toList :=
    trim_append_of_forall isSpace_nil hv hne fun d hd => (hname d hd).1
  have hcolon : ∀ d ∈ name.toList, (d == ':') = false := fun d hd => by simp [(hname d hd).2.2]
  rw [read, trim_space_append hw, trim_append_space hw'']
  obtain ⟨rfl, rfl⟩ | ⟨kind, rfl, hkind, hback⟩ := hmark.cases_mark
  · simp only [List.append_nil, htrim hw', cutAt_of_forall hcolon, String.ofList_toList]
  · -- neither end of name and kind is white space
    have hfront : Stops isBlank (name.toList ++ (w' ++ ':' :: kind)) :=
      Stops.append (fun d hd => (hname d (List.mem_of_mem_head? hd)).1) fun hnil => absurd hnil hne
    have hends : Stops isBlank (name.toList ++ (w' ++ ':' :: kind)).reverse := by
      rw [← List.append_assoc, List.reverse_append]
      exact hback.append fun hnil => absurd hnil (by simp)
    have hwhole :
        trim (name.toList ++ (w' ++ ':' :: kind)) = name.toList ++ (w' ++ ':' :: kind) := by
      have := trim_append isSpace_nil isSpace_nil (by simp) hfront hends
      rwa [List.append_nil] at this
    have hcut : cutAt (· == ':') (name.toList ++ (w' ++ ':' :: kind)) =
        some (name.toList ++ w', kind) := by
      rw [← List.append_assoc]
      refine cutAt_append (List.forall_mem_append.2 ⟨hcolon, fun d hd => ?_⟩) (beq_self_eq_true _)
      rw [beq_eq_false_iff_ne]
      rintro rfl
      exact absurd (hw' _ hd) (by decide +kernel)
    simp only [hwhole, hcut, hkind, htrim hw', String.ofList_toList]
    rfl

/-- **And from nothing else.** -/
theorem spelled_of_read (h : read written = .ok c) : c.Spelled written := by
  obtain ⟨w, w'', hw, hw'', hwritten⟩ := exists_trim written
  rw [read] at h
  cases hcut : cutAt (· == ':') (trim written) with
  | none =>
    simp only [hcut, Except.ok.injEq] at h
    subst h
    exact ⟨w, [], [], w'', hw, isSpace_nil, .bare, hw'', by simpa using hwritten⟩
  | some cut =>
    obtain ⟨front, kind⟩ := cut
    simp only [hcut] at h
    obtain ⟨k, hkind, h⟩ := bind_eq_ok.1 h
    cases h
    obtain ⟨x, hx, htrim, -⟩ := cutAt_eq_some hcut
    obtain rfl := beq_iff_eq.1 hx
    obtain ⟨v, v', hv, hv', hfront⟩ := exists_trim front
    refine ⟨w ++ v, v', ':' :: kind, w'', hw.append hv, hv', readKind_eq_ok.1 hkind, hw'', ?_⟩
    rw [String.toList_ofList]
    calc
      written = w ++ (trim written ++ w'') := hwritten
      _ = w ++ ((v ++ (trim front ++ v')) ++ ':' :: kind ++ w'') := by rw [htrim, ← hfront]
      _ = w ++ v ++ (trim front ++ (v' ++ ':' :: kind) ++ w'') := by simp

/-- The written form of a column is one of its spellings. -/
theorem spelled_text (c : Column) : c.Spelled c.text.toList := by
  obtain ⟨name, k⟩ := c
  cases k with
  | text => exact ⟨[], [], [], [], isSpace_nil, isSpace_nil, .bare, isSpace_nil, by simp [text]⟩
  | integer =>
    exact ⟨[], [], _, [], isSpace_nil, isSpace_nil, .integer, isSpace_nil, by simp [text]⟩

/-- There is no comma in it. -/
theorem comma_not_mem_text (hword : isWord c.name.toList = true) : ',' ∉ c.text.toList := by
  have hname : ',' ∉ c.name.toList := fun hmem => (of_mem_word hword _ hmem).2.1 rfl
  rw [text]
  cases c.kind with
  | text => exact hname
  | integer => simpa using hname

/-- Columns are read one by one. -/
theorem readAll_eq_ok {parts : List (List Char)} {columns : List Column} :
    readAll parts = .ok columns ↔ List.Forall₂ (fun part c => read part = .ok c) parts columns := by
  have hmapM : readAll parts = parts.mapM read := by
    induction parts with
    | nil => rfl
    | cons part parts ih => rw [readAll, ih, List.mapM_cons]
  rw [hmapM, mapM_eq_ok]

end Column

namespace Schema

variable {hash : String → UInt64} {columns : List Column} {s : Schema} {written : String}

/-! ## All columns -/

/-- **The text spells the columns**, with commas between them. -/
def Spells (columns : List Column) (written : String) : Prop :=
  ∃ parts, Separated ',' parts written.toList ∧ List.Forall₂ Column.Spelled columns parts

/-- The names of a schema that was made are words. -/
theorem isWord_of_ofColumnsWith (h : ofColumnsWith hash columns = .ok s) :
    ∀ c ∈ columns, isWord c.name.toList = true := fun c hc =>
  (standsAlone_iff.1 ((exists_ofColumnsWith_iff.1 ⟨s, h⟩).2.2.2 c hc)).1

/-- **A schema is read from every spelling of its columns**, and from
nothing else. -/
theorem read_eq_ok_iff :
    read written = .ok s ↔ ofColumns s.columns = .ok s ∧ Spells s.columns written := by
  rw [read, bind_eq_ok]
  constructor
  · rintro ⟨columns, hread, hmade⟩
    rw [columns_ofColumnsWith hmade]
    refine ⟨hmade, _, pieces_eq_iff.1 rfl, ?_⟩
    exact ((Column.readAll_eq_ok.1 hread).imp fun _ _ => Column.spelled_of_read).flip
  · rintro ⟨hmade, parts, hparts, hspelled⟩
    refine ⟨s.columns, ?_, hmade⟩
    rw [pieces_eq_iff.2 hparts, Column.readAll_eq_ok]
    have hwords := (List.forall₂_and_left _ _).2 ⟨isWord_of_ofColumnsWith hmade, hspelled⟩
    exact (hwords.imp fun _ _ h => Column.read_of_spelled h.1 h.2).flip

/-- **The written form of a schema** is one of the spellings. -/
theorem spells_text (h : ofColumnsWith hash columns = .ok s) : Spells s.columns s.text := by
  have hcolumns := columns_ofColumnsWith h
  have hne : columns ≠ [] := (exists_ofColumnsWith_iff.1 ⟨s, h⟩).1
  refine ⟨s.columns.map fun c => c.text.toList, ⟨?_, ?_, ?_⟩, ?_⟩
  · rwa [hcolumns, ne_eq, List.map_eq_nil_iff]
  · rw [hcolumns]
    exact List.forall_mem_map.2 fun c hc =>
      Column.comma_not_mem_text (isWord_of_ofColumnsWith h c hc)
  · rw [text, String.toList_intercalate, List.map_map]
    rfl
  · exact List.forall₂_map_right_iff.2 (List.forall₂_same.2 fun c _ => c.spelled_text)

/-- So it is read. -/
theorem read_text_of_ofColumns (h : ofColumns columns = .ok s) : read s.text = .ok s :=
  read_eq_ok_iff.2 ⟨by rwa [columns_ofColumnsWith h], spells_text h⟩

/-- **What is written is read again.** A schema that is made is read from
its written form, with the same columns, and it is the same schema. So a
schema that is read is read from its written form too, as from every other
spelling of its columns, and to read and write a text again changes nothing
more. -/
theorem read_text :
    (∀ hash columns s, ofColumnsWith hash columns = .ok s →
      ∃ s', read s.text = .ok s' ∧ s'.columns = s.columns) ∧
    (∀ columns s, ofColumns columns = .ok s → read s.text = .ok s) ∧
    (∀ written s, read written = .ok s →
      read s.text = .ok s ∧ ∀ written', Spells s.columns written' → read written' = .ok s) ∧
    ∀ written written', (read written).map text = .ok written' →
      (read written').map text = .ok written' := by
  have hread {written s} (h : read written = .ok s) : read s.text = .ok s := by
    obtain ⟨columns, -, hmade⟩ := bind_eq_ok.1 h
    exact read_text_of_ofColumns hmade
  refine ⟨fun hash columns s h => ?_, fun _ _ => read_text_of_ofColumns, fun written s h => ?_,
    fun written written' h => ?_⟩
  · -- which columns make a schema does not depend on the hash function
    have hmade : ∃ s', ofColumns columns = .ok s' :=
      exists_ofColumnsWith_iff.2 (exists_ofColumnsWith_iff.1 ⟨s, h⟩)
    obtain ⟨s', hs'⟩ := hmade
    have hcolumns : s'.columns = s.columns :=
      (columns_ofColumnsWith hs').trans (columns_ofColumnsWith h).symm
    have htext : s'.text = s.text := by rw [text, text, hcolumns]
    exact ⟨s', htext ▸ read_text_of_ofColumns hs', hcolumns⟩
  · exact ⟨hread h, fun written' hspells => read_eq_ok_iff.2 ⟨(read_eq_ok_iff.1 h).1, hspells⟩⟩
  · obtain ⟨s, hs, rfl⟩ := map_eq_ok.1 h
    rw [hread hs]
    rfl

/-- White space of several kinds, and the kind of a text written out. -/
theorem read_text_of_spaces :
    ofColumnsWith Hashing.constant keyAndNumber.columns = .ok keyAndNumber ∧
      (read "\tk :text\u2003, n:int").map text = .ok "k,n:int" ∧
      (read "k,n:int").map text = .ok "k,n:int" ∧
      ∃ s, read "k,n:int" = .ok s ∧ s.columns = keyAndNumber.columns ∧
        read "k, n :int" = .ok s := by
  obtain ⟨hmade, -, hread, hagain⟩ := read_text
  have hwritten : (read "\tk :text\u2003, n:int").map text = .ok "k,n:int" := by cbv
  obtain ⟨s, hs, htext⟩ := map_eq_ok.1 hwritten
  obtain ⟨hsame, hspelled⟩ := hread _ s hs
  rw [htext] at hsame
  -- the registry of the other schema is another one, and so is its hash function
  obtain ⟨s', hs', hcolumns⟩ := hmade _ _ _ ofColumnsWith_keyAndNumber
  have hkey : keyAndNumber.text = "k,n:int" := by decide
  rw [hkey, hsame] at hs'
  cases hs'
  refine ⟨ofColumnsWith_keyAndNumber, hwritten, hagain _ _ hwritten, s, hsame, hcolumns,
    hspelled _ ⟨["k".toList, " n :int".toList], pieces_eq_iff.1 (by decide), ?_⟩⟩
  rw [hcolumns]
  have hk : Column.Spelled ⟨"k", .text⟩ "k".toList := Column.spelled_text ⟨"k", .text⟩
  have hn : Column.Spelled ⟨"n", .integer⟩ " n :int".toList :=
    ⟨[' '], [' '], _, [], isSpace_space, isSpace_space, .integer, isSpace_nil, rfl⟩
  exact .cons hk (.cons hn .nil)

end Schema

end Cardfile
