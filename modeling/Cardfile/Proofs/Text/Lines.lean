import Cardfile.Text.Lines
import Cardfile.Proofs.Text.Pieces
import Mathlib
/-!
# Text — the lines of an input

Lines are told without cutting: octets are lines if each of them has no
line feed and is followed by its end, a line feed or a carriage return
and a line feed, and the last may have none (`Lined`). Octets are lines
in one way, and `lines` finds it (`lines_eq_iff`).
-/

namespace Cardfile

namespace Text

/-- **The octets are these lines**, each with its end. -/
inductive Lined : List UInt8 → List (List UInt8) → Prop
  /-- No octets are no lines. -/
  | none : Lined [] []
  /-- The last line may have no end, if it has octets. -/
  | last {line : List UInt8} : line ≠ [] → lineFeed ∉ line → Lined line [line]
  /-- A line feed ends a line. -/
  | feed {line octets : List UInt8} {rest : List (List UInt8)} :
      lineFeed ∉ line → line.getLast? ≠ some carriageReturn → Lined octets rest →
      Lined (line ++ lineFeed :: octets) (line :: rest)
  /-- So does a carriage return in front of one, which is no part of the
  line. -/
  | returnFeed {line octets : List UInt8} {rest : List (List UInt8)} :
      lineFeed ∉ line → Lined octets rest →
      Lined (line ++ carriageReturn :: lineFeed :: octets) (line :: rest)

variable {line octets : List UInt8}

/-- What stands in front of a line feed is a line, without a carriage
return at its end. -/
theorem lines_append_feed (h : lineFeed ∉ line) (octets : List UInt8) :
    lines (line ++ lineFeed :: octets) = dropLastIf carriageReturn line :: lines octets := by
  obtain ⟨piece, more, hfeed, hpieces⟩ := exists_pieces_append h (lineFeed :: octets)
  rw [pieces, if_pos rfl] at hfeed
  obtain ⟨rfl, rfl⟩ := List.cons.inj hfeed
  obtain ⟨next, rest, hoctets⟩ := List.exists_cons_of_ne_nil (pieces_ne_nil lineFeed octets)
  rw [lines, lines, hpieces, hoctets, linesOfPieces, List.append_nil]
  exact List.cons_ne_nil next rest

/-- What has no line feed is a line if it is anything. -/
theorem lines_of_not_mem (h : lineFeed ∉ octets) :
    lines octets = if octets = [] then [] else [octets] := by
  obtain ⟨piece, more, hnil, hpieces⟩ := exists_pieces_append h []
  obtain ⟨rfl, rfl⟩ := List.cons.inj hnil
  rw [List.append_nil] at hpieces
  rw [lines, hpieces, linesOfPieces]

/-- The lines make up the octets. -/
theorem lined_lines (octets : List UInt8) : Lined octets (lines octets) := by
  induction h : octets.length using Nat.strong_induction_on generalizing octets with
  | _ n ih =>
    subst h
    by_cases hmem : lineFeed ∈ octets
    · obtain ⟨line, rest, rfl, hline⟩ := List.eq_append_cons_of_mem hmem
      have hrest : Lined rest (lines rest) := by
        refine ih rest.length ?_ rest rfl
        simp only [List.length_append, List.length_cons]
        omega
      rw [lines_append_feed hline]
      -- the carriage return belongs to the end, if the line has one
      by_cases hlast : line.getLast? = some carriageReturn
      · obtain ⟨front, rfl⟩ := List.getLast?_eq_some_iff.1 hlast
        rw [dropLastIf_concat, if_pos rfl, List.append_assoc]
        exact .returnFeed (fun hfront => hline (List.mem_append_left _ hfront)) hrest
      · rw [dropLastIf, if_neg hlast]
        exact .feed hline hlast hrest
    · rw [lines_of_not_mem hmem]
      split_ifs with hnil
      · rw [hnil]
        exact .none
      · exact .last hnil hmem

/-- **Octets are lines in one way**, and `lines` finds it. -/
theorem lines_eq_iff {ls : List (List UInt8)} : lines octets = ls ↔ Lined octets ls := by
  constructor
  · rintro rfl
    exact lined_lines octets
  · intro h
    induction h with
    | none => rfl
    | last hne hline => rw [lines_of_not_mem hline, if_neg hne]
    | feed hline hlast _ ih => rw [lines_append_feed hline, dropLastIf, if_neg hlast, ih]
    | @returnFeed line octets _ hline _ ih =>
      have hreturn : lineFeed ∉ line ++ [carriageReturn] := by
        simpa [hline] using (by decide : lineFeed ≠ carriageReturn)
      rw [List.append_cons, lines_append_feed hreturn, dropLastIf_concat, if_pos rfl, ih]

end Text

end Cardfile
