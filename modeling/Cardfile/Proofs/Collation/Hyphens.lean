import Cardfile.Proofs.Collation.Levels
/-!
# Collation — hyphens

A hyphen within a text is one more element, without a first weight and
with the highest rank at the second level (`elements_insert`). So it never
outranks a letter: a text with a hyphen comes after the text without it,
and wherever the first level decides it does not matter at all
(`order_insert_hyphen`).
-/

namespace Cardfile

namespace Collation

open Text

variable {x : Char} {e : Element} {es : List Element} {u v : List Char}

/-! ## A hyphen among characters -/

/-- **A hyphen is part of no letter**, whatever stands before and after
it. -/
theorem seam_hyphen (hx : isHyphen x = true) (u v : List Char) :
    Seam u (x :: v) ∧ Seam [x] v := by
  have hletters : lower x ∉ ['d', 'ž', 'l', 'j', 'n'] := by
    rw [(of_isHyphen hx).1]
    rw [isHyphen, Bool.or_eq_true, beq_iff_eq, beq_iff_eq] at hx
    rcases hx with rfl | rfl <;> decide
  simp only [List.mem_cons, List.not_mem_nil, or_false, not_or] at hletters
  constructor
  · rintro c - _ ⟨⟩
    rw [pair?_eq_none_iff]
    simp [hletters]
  · intro c hc d _
    obtain rfl : x = c := Option.some.inj hc
    rw [pair?_eq_none_iff]
    simp [hletters]

/-- **A hyphen is one more element**, and the others are those of the texts
before and after it. -/
theorem elements_insert (hx : isHyphen x = true) (u v : List Char) :
    elements (u ++ x :: v) = elements u ++ hyphen :: elements v := by
  obtain ⟨hbefore, hafter⟩ := seam_hyphen hx u v
  have hone : elements [x] = [hyphen] := congrArg (fun e => [e]) (of_isHyphen hx).2
  rw [elements_append hbefore, ← List.singleton_append, elements_append hafter, hone,
    List.singleton_append]

/-! ## A hyphen among elements -/

/-- **No accent has a higher rank** than a hyphen. -/
theorem secondary_le_hyphenRank (he : e ∈ elements u) : e.secondary ≤ hyphenRank := by
  obtain ⟨c, -, rfl⟩ | ⟨c, -, d, -, hpair⟩ := mem_elements he
  · cases hletter : letter? (lower c) with
    | some weights =>
      rw [single_of_letter? hletter]
      exact (accent_lt_hyphenRank hletter).le
    | none =>
      unfold single
      rw [hletter]
      simp only
      split_ifs
      · exact le_rfl
      all_goals exact Nat.zero_le _
  · obtain ⟨w, -, rfl⟩ := Option.map_eq_some_iff.1 hpair
    exact Nat.zero_le _

/-- A list comes before itself with a greatest entry in front, however many
such entries it begins with. -/
theorem compare_cons_greatest {l : List ℕ} {n : ℕ} (h : ∀ k ∈ l, k ≤ n) :
    compare l (n :: l) = .lt := by
  induction l with
  | nil => rfl
  | cons k l ih =>
    obtain ⟨hk, hl⟩ := List.forall_mem_cons.1 h
    rw [List.compare_cons_cons]
    rcases hk.lt_or_eq with hlt | rfl
    · rw [compare_lt_iff_lt.2 hlt]
      rfl
    · rw [compare_eq_iff_eq.2 rfl]
      exact ih hl

/-- **Elements come before themselves with a hyphen in front**: the first
level finds no difference, and the second one puts the hyphen last. -/
theorem elementOrder_hyphen_cons (h : ∀ e ∈ es, e.secondary ≤ hyphenRank) :
    elementOrder es (hyphen :: es) = .lt := by
  have hfirst : primaries (hyphen :: es) = primaries es := by
    rw [primaries_cons]
    rfl
  have hsecond : compare (secondaries es) (secondaries (hyphen :: es)) = .lt :=
    compare_cons_greatest (List.forall_mem_map.2 h)
  rw [elementOrder, hfirst, hsecond, Std.compare_eq_iff_eq.2 rfl]
  rfl

/-! ## Texts -/

/-- **A hyphen never outranks a letter.** Where two texts meet without
making a letter of two characters, a hyphen between them puts the whole
after what it is without, and changes nothing in how it compares with any
text that differs from it at the first level. -/
theorem order_insert_hyphen {u v : String}
    (h : ∀ c ∈ u.toList.getLast?, ∀ d ∈ v.toList.head?,
      (lower c, lower d) ∉ [('d', 'ž'), ('l', 'j'), ('n', 'j')]) :
    ∀ x ∈ ["-", "\u00AD"],
      order (u ++ v) (u ++ x ++ v) = .lt ∧
      ∀ b : String, primaries (elements b.toList) ≠ primaries (elements (u ++ v).toList) →
        order (u ++ x ++ v) b = order (u ++ v) b := by
  intro x hx
  obtain ⟨c, hc, hlist⟩ : ∃ c, isHyphen c = true ∧ x.toList = [c] := by
    rw [List.mem_pair] at hx
    rcases hx with rfl | rfl
    · exact ⟨'-', by decide, rfl⟩
    · exact ⟨'\u00AD', by decide, rfl⟩
  have hseam : Seam u.toList v.toList := fun c hc d hd => pair?_eq_none_iff.2 (h c hc d hd)
  have hwithout : elements (u ++ v).toList = elements u.toList ++ elements v.toList := by
    rw [String.toList_append, elements_append hseam]
  have hwith : elements (u ++ x ++ v).toList =
      elements u.toList ++ hyphen :: elements v.toList := by
    rw [String.toList_append, String.toList_append, hlist, List.append_assoc,
      List.singleton_append, elements_insert hc]
  constructor
  · rw [order, hwithout, hwith, elementOrder_append_left]
    exact elementOrder_hyphen_cons fun e he => secondary_le_hyphenRank he
  · intro b hb
    -- the hyphen is not seen at the level that decides
    have hfirst : primaries (elements (u ++ x ++ v).toList) =
        primaries (elements (u ++ v).toList) := by
      rw [hwith, hwithout, primaries_append, primaries_append, primaries_cons]
      rfl
    rw [order, order, elementOrder_of_primaries hb.symm, elementOrder_of_primaries, hfirst]
    exact hfirst ▸ hb.symm

/-- A soft hyphen in front of others, and after a letter whose second
half does not follow. -/
theorem order_insert_hyphen_of_run :
    order "Lj--j" "Lj\u00AD--j" = .lt ∧ order "Lj\u00AD--j" "Ljk" = order "Lj--j" "Ljk" := by
  have hne : primaries (elements "Ljk".toList) ≠ primaries (elements ("Lj" ++ "--j").toList) := by
    decide +kernel
  have hapart : ∀ c ∈ "Lj".toList.getLast?, ∀ d ∈ "--j".toList.head?,
      (lower c, lower d) ∉ [('d', 'ž'), ('l', 'j'), ('n', 'j')] := by
    rintro _ ⟨⟩ _ ⟨⟩
    decide +kernel
  obtain ⟨hlt, hsame⟩ := order_insert_hyphen hapart "\u00AD" (by decide)
  exact ⟨hlt, hsame "Ljk" hne⟩

end Collation

end Cardfile
