import Cardfile.Store.Load
import Cardfile.Proofs.Text.Utf8
import Cardfile.Proofs.Store.Stops
import Cardfile.Proofs.Store.Returns
import Mathlib
/-!
# Stores — the ends of lines in a record file

A store can be built from the pieces of a text between line feeds, and it
can be loaded from a file with the octets of the text. One carriage
return at the end of a line is no part of it. Building drops it when it
reads the piece. Loading drops it with the line feed and builds from what
is left, so it drops a second one if there are two (`ofOctets_toUTF8`).

`load_told_iff` says when that shows. The lines with a second carriage
return are `Doubled`, and they are `Hidden` if there are none or if what
is told of the outcome, the records or the failure, is not about them.
`load_of_double_return` is a file of which another record is loaded.
-/

namespace Cardfile

open Text

namespace Store

variable {schema : Schema}

/-! ## Pieces of a text -/

/-- The pieces, each but the last without one carriage return at its end. -/
def withoutReturns : List String → List String
  | [] => []
  | [last] => [last]
  | piece :: next :: pieces =>
    String.ofList (dropLastIf '\r' piece.toList) :: withoutReturns (next :: pieces)

/-- **The piece with this number ends in two carriage returns**, and it is
not the last one. -/
def Doubled (pieces : List String) (n : ℕ) : Prop :=
  ∃ front piece next back, pieces = front ++ piece :: next :: back ∧ n = front.length + 1 ∧
    ['\r', '\r'] <:+ piece.toList

theorem doubled_append (front : List String) (piece next : String) (back : List String) :
    Doubled (front ++ piece :: next :: back) (front.length + 1) ↔
      ['\r', '\r'] <:+ piece.toList := by
  constructor
  · rintro ⟨front', piece', next', back', heq, hlength, hsuffix⟩
    obtain ⟨-, hrest⟩ := List.append_inj heq (Nat.succ.inj hlength)
    rwa [(List.cons.inj hrest).1]
  · intro hsuffix
    exact ⟨front, piece, next, back, rfl, rfl, hsuffix⟩

theorem not_doubled_last {front : List String} {last : String} :
    ¬ Doubled (front ++ [last]) (front.length + 1) := by
  rintro ⟨front', piece', next', back', heq, hlength, -⟩
  obtain ⟨-, hrest⟩ := List.append_inj heq (Nat.succ.inj hlength)
  cases hrest

theorem recordLines_cons (n : ℕ) (piece : String) (pieces : List String) :
    recordLines n (piece :: pieces) =
      if dropLastIf '\r' piece.toList = [] then recordLines (n + 1) pieces
      else (n, dropLastIf '\r' piece.toList) :: recordLines (n + 1) pieces :=
  rfl

/-- **Without the carriage returns** the lines that had two of them have
none. -/
theorem shortened_recordLines (front pieces : List String) :
    Shortened (Doubled (front ++ pieces)) (recordLines (front.length + 1) pieces)
      (recordLines (front.length + 1) (withoutReturns pieces)) := by
  induction pieces using withoutReturns.induct generalizing front with
  | case1 => exact .nil
  | case2 last =>
    rw [withoutReturns, recordLines, recordLines]
    split_ifs
    · exact .nil
    · exact .same not_doubled_last .nil
  | case3 piece next pieces ih =>
    have hrest := ih (front ++ [piece])
    rw [List.append_assoc, List.singleton_append, List.length_append, List.length_singleton]
      at hrest
    rw [withoutReturns, recordLines_cons _ piece, recordLines_cons _ (String.ofList _),
      String.toList_ofList]
    by_cases hdoubled : ['\r', '\r'] <:+ piece.toList
    · obtain ⟨line, hone, htwo⟩ := exists_dropLastIf hdoubled
      have hd := (doubled_append front piece next pieces).2 hdoubled
      rw [hone, if_neg (by simp)]
      rw [hone] at htwo
      rw [htwo]
      split_ifs with hnil
      · rw [hnil]
        exact .gone hd hrest
      · exact .short hd hrest
    · have hd := (doubled_append front piece next pieces).not.2 hdoubled
      rw [dropLastIf_dropLastIf hdoubled]
      split_ifs
      · exact hrest
      · exact .same hd hrest

theorem shortened_withoutReturns (pieces : List String) :
    Shortened (Doubled pieces) (recordLines 1 pieces) (recordLines 1 (withoutReturns pieces)) :=
  shortened_recordLines [] pieces

/-! ## When nothing is told of it -/

/-- **Nothing is told of the second carriage returns**: there are none, or
they stand in no line that loading tells of. -/
inductive Hidden (schema : Schema) (pieces : List String) : Prop
  /-- There are none. -/
  | absent : (∀ n, ¬ Doubled pieces n) → Hidden schema pieces
  /-- The first malformed line does not have them. -/
  | malformed {before : List (ℕ × List Char)} {n : ℕ} {line : List Char}
      {after : List (ℕ × List Char)} :
      recordLines 1 pieces = before ++ (n, line) :: after → (∀ e ∈ before, Readable schema e.2) →
      ¬ Readable schema line → ¬ Doubled pieces n → Hidden schema pieces
  /-- All lines can be read, and they are trimmed from integers. -/
  | trimmed : (∀ e ∈ recordLines 1 pieces, Readable schema e.2) → EndsInInteger schema →
      Hidden schema pieces
  /-- All lines can be read, and the first clash of keys is the same with them and without. -/
  | clash {n : ℕ} {key : String} :
      (∀ e ∈ recordLines 1 pieces, Readable schema e.2) →
      FirstClash schema (recordLines 1 pieces) n key →
      FirstClash schema (recordLines 1 (withoutReturns pieces)) n key → Hidden schema pieces

/-- **What is told of an outcome**: the records, or the kind, the message
and the line of the failure. -/
def told (outcome : Except Report Store) : Except (Kind × Option String × Option ℕ) (List Record) :=
  (outcome.map fun s => s.records.toList).mapError fun r => (r.kind, r.message, r.line)

section Told

variable {hash : String → UInt64} {pieces : List String}

theorem ofLinesWith_congr {lines lines' : List String}
    (h : recordLines 1 lines = recordLines 1 lines') :
    ofLinesWith hash schema lines = ofLinesWith hash schema lines' := by
  rw [ofLinesWith, ofLinesWith, h]

/-- What is told of a bad line tells its number and its message. -/
theorem told_error_inj {b b' : BadLine}
    (h : told (.error b.report) = told (.error b'.report)) :
    b.line = b'.line ∧ b.fault.report.message = b'.fault.report.message := by
  have htold := Except.error.inj h
  simp only [Prod.mk.injEq, BadLine.report, Option.some.injEq] at htold
  exact ⟨htold.2.2, htold.2.1⟩

/-- What is told of a key tells the key. -/
theorem key_of_message {keyName key key' : String}
    (h : (LineFault.ofKey keyName key).report.message =
      (LineFault.ofKey keyName key').report.message) : key = key' := by
  -- the two messages begin differently
  have hne (k : String) : "empty primary key (" ++ keyName ++ ")" ≠ "duplicate primary key: " ++ k := by
    intro heq
    have hfirst := congrArg (fun s => s.toList.head?) heq
    simp at hfirst
  rw [LineFault.ofKey, LineFault.ofKey] at h
  split_ifs at h with hkey hkey' hkey'
  · rw [hkey, hkey']
  · exact absurd (Option.some.inj h) (hne key')
  · exact absurd (Option.some.inj h).symm (hne key)
  · exact (String.append_right_inj _).1 (Option.some.inj h)

/-- **Where nothing is told of them the outcome is the same.** -/
theorem Hidden.ofLinesWith_eq (h : Hidden schema pieces) :
    ofLinesWith hash schema (withoutReturns pieces) = ofLinesWith hash schema pieces := by
  have hshort := shortened_withoutReturns pieces
  cases h with
  | absent hnot => exact ofLinesWith_congr (hshort.eq_of_forall_not hnot).symm
  | malformed hlines hbefore hline hnot =>
    obtain ⟨fault, hfault⟩ := exists_error_of_not_readable hline
    rw [hlines] at hshort
    obtain ⟨front, back, hrest, hfront, hback⟩ := hshort.exists_append
    cases hback with
    | same =>
      rw [ofLinesWith_of_stops (.malformed hlines hbefore hfault),
        ofLinesWith_of_stops (.malformed hrest (hfront.readable hbefore) hfault)]
    | short hd | gone hd => exact absurd hd hnot
  | trimmed hall hinteger =>
    rw [ofLinesWith, ofLinesWith, hshort.readLines_eq hinteger hall]
  | clash hall hclash hclash' =>
    rw [ofLinesWith_of_stops (.clash hall hclash),
      ofLinesWith_of_stops (.clash (hshort.readable hall) hclash')]

/-- The numbers of lines are different. -/
theorem nodup_recordLines (n : ℕ) (lines : List String) :
    ((recordLines n lines).map Prod.fst).Nodup := by
  have hsublist : ((recordLines n lines).map Prod.fst).Sublist (List.range' n lines.length) := by
    induction lines generalizing n with
    | nil => exact .slnil
    | cons line lines ih =>
      rw [recordLines_cons, List.length_cons, List.range'_succ]
      split_ifs
      · exact (ih (n + 1)).cons _
      · exact (ih (n + 1)).cons_cons _
  exact hsublist.nodup List.nodup_range'

/-- A line with two carriage returns at its end is not empty without one. -/
theorem mem_recordLines_of_doubled {n : ℕ} (h : Doubled pieces n) :
    ∃ line, (n, line) ∈ recordLines 1 pieces := by
  obtain ⟨front, piece, next, back, rfl, rfl, hdoubled⟩ := h
  obtain ⟨line, hone, -⟩ := exists_dropLastIf hdoubled
  refine ⟨line ++ ['\r'], ?_⟩
  rw [recordLines_append, recordLines_cons _ piece, hone, if_neg (by simp), Nat.add_comm]
  exact List.mem_append_right _ List.mem_cons_self

/-- **If all lines can be read** and the same is told of both, the second
carriage returns are hidden. -/
theorem hidden_of_readable (hall : ∀ e ∈ recordLines 1 pieces, Readable schema e.2)
    (h : told ((ofLinesWith hash schema (withoutReturns pieces)).mapError BadLine.report) =
      told ((ofLinesWith hash schema pieces).mapError BadLine.report)) : Hidden schema pieces := by
  have hshort := shortened_withoutReturns pieces
  cases hload : ofLinesWith hash schema pieces with
  | ok s =>
    cases hload' : ofLinesWith hash schema (withoutReturns pieces) with
    | error bad =>
      rw [hload, hload'] at h
      cases h
    | ok s' =>
      rw [hload, hload'] at h
      by_cases hinteger : EndsInInteger schema
      · exact .trimmed hall hinteger
      have hrecords := (forall₂_of_ofLinesWith hload).2
      have hrecords' := (forall₂_of_ofLinesWith hload').2
      have hsame : s'.records.toList = s.records.toList := Except.ok.inj h
      rw [hsame] at hrecords'
      rw [← map_snd_recordLines 1, List.forall₂_map_left_iff] at hrecords hrecords'
      have hnot := hshort.not_of_records_eq hinteger hrecords hrecords'
      refine .absent fun n hdoubled => ?_
      obtain ⟨line, hmem⟩ := mem_recordLines_of_doubled hdoubled
      exact hnot _ hmem hdoubled
  | error bad =>
    cases hload' : ofLinesWith hash schema (withoutReturns pieces) with
    | ok s' =>
      rw [hload, hload'] at h
      cases h
    | error bad' =>
      rw [hload, hload'] at h
      obtain ⟨n, fault⟩ := bad
      obtain ⟨n', fault'⟩ := bad'
      obtain ⟨rfl, hmessage⟩ : n' = n ∧ _ := told_error_inj h
      obtain ⟨key, rfl, hclash⟩ := (ofLinesWith_eq_error_iff.1 hload).exists_clash hall
      obtain ⟨key', rfl, hclash'⟩ :=
        (ofLinesWith_eq_error_iff.1 hload').exists_clash (hshort.readable hall)
      obtain rfl := key_of_message hmessage
      exact .clash hall hclash hclash'

/-- **If a line is malformed** and the same is told of both, the first one
has no second carriage return. -/
theorem not_doubled_of_malformed {before after : List (ℕ × List Char)} {n : ℕ} {line : List Char}
    {fault : LineFault} (hlines : recordLines 1 pieces = before ++ (n, line) :: after)
    (hbefore : ∀ e ∈ before, Readable schema e.2) (hfault : readLine schema line = .error fault)
    (h : told ((ofLinesWith hash schema (withoutReturns pieces)).mapError BadLine.report) =
      told ((ofLinesWith hash schema pieces).mapError BadLine.report)) : ¬ Doubled pieces n := by
  intro hdoubled
  have hload : ofLinesWith hash schema pieces = .error ⟨n, fault⟩ :=
    ofLinesWith_of_stops (.malformed hlines hbefore hfault)
  have hshort := shortened_withoutReturns pieces
  have hnodup := nodup_recordLines 1 pieces
  rw [hlines] at hshort hnodup
  obtain ⟨front, back, hrest, hfront, hback⟩ := hshort.exists_append
  cases hback with
  | same hnot => exact hnot hdoubled
  | short =>
    -- the line is still malformed, and the message has it without its carriage return
    obtain ⟨fault', hfault', hne⟩ := exists_readLine_error_of_return hfault
    have hload' : ofLinesWith hash schema (withoutReturns pieces) = .error ⟨n, fault'⟩ :=
      ofLinesWith_of_stops (.malformed hrest (hfront.readable hbefore) hfault')
    rw [hload, hload'] at h
    exact hne (told_error_inj h).2.symm
  | gone _ hafter =>
    -- the line is left out, so another one is named or none
    cases hload' : ofLinesWith hash schema (withoutReturns pieces) with
    | ok s' =>
      rw [hload, hload'] at h
      cases h
    | error bad' =>
      rw [hload, hload'] at h
      have hmem := (ofLinesWith_eq_error_iff.1 hload').mem
      rw [(told_error_inj h).1, hrest, List.map_append, List.mem_append] at hmem
      rw [List.map_append, List.map_cons, List.nodup_middle] at hnodup
      refine (List.nodup_cons.1 hnodup).1 (List.mem_append.2 (hmem.imp ?_ ?_))
      · exact fun hmem => hfront.sublist.subset hmem
      · exact fun hmem => hafter.sublist.subset hmem

/-- **Where something is told of them the outcome is another one.** -/
theorem hidden_of_told_eq
    (h : told ((ofLinesWith hash schema (withoutReturns pieces)).mapError BadLine.report) =
      told ((ofLinesWith hash schema pieces).mapError BadLine.report)) : Hidden schema pieces := by
  by_cases hall : ∀ e ∈ recordLines 1 pieces, Readable schema e.2
  · exact hidden_of_readable hall h
  · obtain ⟨before, n, line, after, fault, hlines, hbefore, hfault⟩ := exists_malformed hall
    refine .malformed hlines hbefore ?_ (not_doubled_of_malformed hlines hbefore hfault h)
    rintro ⟨r, hr⟩
    rw [hfault] at hr
    cases hr

end Told

/-! ## Loading -/

/-- **The lines of the octets** of pieces are the pieces without a carriage
return, as far as they hold records. -/
theorem exists_decodeLines (n : ℕ) (parts : List (List Char)) :
    ∃ lines, decodeLines n (linesOfPieces (parts.map Utf8.encode)) = .ok lines ∧
      ∀ k, recordLines k lines = recordLines k (withoutReturns (parts.map String.ofList)) := by
  have hcons (n : ℕ) (part : List Char) {rest : List (List UInt8)} {lines : List String}
      (hrest : decodeLines (n + 1) rest = .ok lines) :
      decodeLines n (Utf8.encode part :: rest) = .ok (String.ofList part :: lines) := by
    rw [decodeLines, Utf8.decode_encode, hrest]
    rfl
  induction parts generalizing n with
  | nil => exact ⟨[], rfl, fun _ => rfl⟩
  | cons part parts ih =>
    cases parts with
    | nil =>
      rw [List.map_singleton, List.map_singleton, linesOfPieces, withoutReturns]
      split_ifs with hempty
      · -- nothing after the last line feed
        exact ⟨[], rfl, fun _ => by rw [Utf8.encode_eq_nil.1 hempty]; rfl⟩
      · exact ⟨[String.ofList part], hcons n part rfl, fun _ => rfl⟩
    | cons next parts =>
      obtain ⟨lines, hlines, hsame⟩ := ih (n + 1)
      have hpieces : linesOfPieces ((part :: next :: parts).map Utf8.encode) =
          Utf8.encode (dropLastIf '\r' part) :: linesOfPieces ((next :: parts).map Utf8.encode) := by
        rw [← Utf8.dropLastIf_encode]
        rfl
      refine ⟨_, by rw [hpieces]; exact hcons n _ hlines, fun k => ?_⟩
      have hwithout : withoutReturns ((part :: next :: parts).map String.ofList) =
          String.ofList (dropLastIf '\r' part) ::
            withoutReturns ((next :: parts).map String.ofList) := by
        rw [List.map_cons, List.map_cons, withoutReturns, String.toList_ofList]
      rw [hwithout, recordLines_cons, recordLines_cons, hsame]

/-- The pieces of a text between line feeds. -/
def piecesOf (text : String) : List String := (pieces '\n' text.toList).map String.ofList

/-- **A file is loaded** as its pieces are when a carriage return was taken
from each. -/
theorem ofOctets_toUTF8 (text : String) :
    ofOctets schema text.toUTF8.data.toList =
      (ofLines schema (withoutReturns (piecesOf text))).mapError .badLine := by
  obtain ⟨lines, hlines, hsame⟩ := exists_decodeLines 1 (pieces '\n' text.toList)
  rw [ofOctets, Text.lines, Utf8.toUTF8_eq_encode, Utf8.pieces_encode, hlines]
  exact congrArg (Except.mapError LoadFault.badLine) (ofLinesWith_congr (hsame 1))

/-- What is told of a file that was loaded or not is told of its lines. -/
theorem told_load (path : String) (text : String) :
    told ((load schema (.ok text.toUTF8.data.toList)).mapError (·.reportAt path)) =
      told ((ofLines schema (withoutReturns (piecesOf text))).mapError BadLine.report) := by
  have hload : load schema (.ok text.toUTF8.data.toList) = ofOctets schema text.toUTF8.data.toList :=
    rfl
  rw [hload, ofOctets_toUTF8]
  cases ofLines schema (withoutReturns (piecesOf text)) <;> rfl

/-- **Loading a file agrees with building from its pieces** exactly if no
second carriage return shows: the records are the same, or the kind, the
message and the line of the failure are. -/
theorem load_told_iff (schema : Schema) (path text : String) :
    told ((load schema (.ok text.toUTF8.data.toList)).mapError (·.reportAt path)) =
      told ((ofLines schema (piecesOf text)).mapError BadLine.report) ↔
        Hidden schema (piecesOf text) := by
  rw [told_load]
  refine ⟨hidden_of_told_eq, fun h => ?_⟩
  exact congrArg (fun outcome => told (outcome.mapError BadLine.report)) h.ofLinesWith_eq

/-- **A line with two carriage returns** is loaded without them, and its
piece keeps one. -/
theorem load_of_double_return :
    told ((load keysOnly (.ok "a\r\r\n".toUTF8.data.toList)).mapError (·.reportAt "f")) =
        .ok [⟨["a"]⟩] ∧
      told ((ofLines keysOnly (piecesOf "a\r\r\n")).mapError BadLine.report) =
        .ok [⟨["a\r"]⟩] := by
  rw [told_load]
  refine ⟨by cbv, by cbv⟩

end Store

end Cardfile
