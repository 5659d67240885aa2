import Cardfile.Proofs.Collation.Classes
/-!
# Collation — the levels together

The first level leaves hyphens out, so its weights do not tell which
elements they belong to. The second level tells: hyphens have a rank of
their own there. Where these two levels find no difference, the elements
have the same first weights one by one (`map_primary_eq`), and where no
level does, they are the same elements (`elementOrder_eq_iff`). What two
lists begin with alike plays no part at any level
(`elementOrder_append_left`).
-/

namespace Cardfile

namespace Collation

open Text

variable {c d : Char} {e : Element} {es fs : List Element} {u : List Char}

/-! ## The elements of a text -/

/-- **An element is that of a character, or of two.** -/
theorem mem_elements (he : e ∈ elements u) :
    (∃ c ∈ u, e = single c) ∨ ∃ c ∈ u, ∃ d ∈ u, pair? c d = some e := by
  induction u using elements.induct with
  | case1 => cases he
  | case2 c =>
    obtain rfl := List.mem_singleton.1 he
    exact .inl ⟨c, List.mem_cons_self, rfl⟩
  | case3 c d rest e' hpair ih =>
    rw [elements_of_pair hpair] at he
    rcases List.mem_cons.1 he with rfl | he
    · exact .inr ⟨c, List.mem_cons_self, d, List.mem_cons_of_mem _ List.mem_cons_self, hpair⟩
    · have hsub : rest ⊆ c :: d :: rest := fun x hx =>
        List.mem_cons_of_mem _ (List.mem_cons_of_mem _ hx)
      obtain ⟨x, hx, hxe⟩ | ⟨x, hx, y, hy, hxy⟩ := ih he
      · exact .inl ⟨x, hsub hx, hxe⟩
      · exact .inr ⟨x, hsub hx, y, hsub hy, hxy⟩
  | case4 c d rest hpair ih =>
    rw [elements_of_unpaired hpair] at he
    rcases List.mem_cons.1 he with rfl | he
    · exact .inl ⟨c, List.mem_cons_self, rfl⟩
    · obtain ⟨x, hx, hxe⟩ | ⟨x, hx, y, hy, hxy⟩ := ih he
      · exact .inl ⟨x, List.mem_cons_of_mem _ hx, hxe⟩
      · exact .inr ⟨x, List.mem_cons_of_mem _ hx, y, List.mem_cons_of_mem _ hy, hxy⟩

/-- The element of a letter. -/
theorem single_of_letter? {w accent : ℕ} (h : letter? (lower c) = some (w, accent)) :
    single c = { primary := w, secondary := accent, tertiary := 3 * caseBit c } := by
  unfold single
  rw [h]

/-- The element of a hyphen. -/
def hyphen : Element := { primary := 0, secondary := hyphenRank, tertiary := 0 }

/-- Hyphens have no case, and one element for both of them. -/
theorem of_isHyphen (h : isHyphen c = true) : lower c = c ∧ single c = hyphen := by
  rw [isHyphen, Bool.or_eq_true, beq_iff_eq, beq_iff_eq] at h
  rcases h with rfl | rfl <;> decide +kernel

/-- **The element counts for nothing at first exactly if it has the rank
of a hyphen.** -/
def Element.IsProper (e : Element) : Prop := e.primary = 0 ↔ e.secondary = hyphenRank

/-- The accent of a letter is below a hyphen. -/
theorem accent_lt_hyphenRank {w accent : ℕ} (h : letter? c = some (w, accent)) :
    accent < hyphenRank := by
  have hrank : ∀ a : Accent, a.rank < hyphenRank := by
    intro a
    cases a <;> decide
  rw [letter?] at h
  split at h
  · cases h
    decide
  · simp only [bind, Option.bind_eq_some_iff, Option.some.injEq, Prod.mk.injEq] at h
    obtain ⟨⟨_, a⟩, _, _, _, -, rfl⟩ := h
    exact hrank a

theorem isProper_single (c : Char) : (single c).IsProper := by
  cases hletter : letter? (lower c) with
  | some weights =>
    obtain ⟨w, accent⟩ := weights
    have hpos := (letter?_bounds hletter).1
    have hlt := accent_lt_hyphenRank hletter
    simp only [letterBase] at hpos
    rw [single_of_letter? hletter]
    exact iff_of_false (fun h : w = 0 => by omega) fun h : accent = hyphenRank => by omega
  | none =>
    unfold Element.IsProper single
    rw [hletter]
    split_ifs <;> simp [digitBase, punctuationBase, otherBase, hyphenRank]

theorem isProper_of_pair (h : pair? c d = some e) : e.IsProper := by
  obtain ⟨w, hw, rfl⟩ := Option.map_eq_some_iff.1 h
  have hpos := (letterWeight?_bounds hw).1
  simp only [letterBase] at hpos
  have hsecond : (0 : ℕ) ≠ hyphenRank := by decide
  exact iff_of_false (fun h : w = 0 => by omega) hsecond

/-- The elements of a text are such. -/
theorem isProper_of_mem_elements (he : e ∈ elements u) : e.IsProper := by
  obtain ⟨c, -, rfl⟩ | ⟨c, -, d, -, hpair⟩ := mem_elements he
  · exact isProper_single c
  · exact isProper_of_pair hpair

/-! ## Level by level -/

theorem primaries_cons (e : Element) (es : List Element) :
    primaries (e :: es) = if e.primary = 0 then primaries es else e.primary :: primaries es := by
  rw [primaries, List.map_cons, List.filter_cons]
  by_cases h : e.primary = 0 <;> simp [h, primaries]

theorem primaries_append (es fs : List Element) :
    primaries (es ++ fs) = primaries es ++ primaries fs := by
  rw [primaries, List.map_append, List.filter_append]
  rfl

/-- **The second level tells which elements have a first weight.** -/
theorem map_primary_eq (hes : ∀ e ∈ es, e.IsProper) (hfs : ∀ f ∈ fs, f.IsProper)
    (hp : primaries es = primaries fs) (hs : secondaries es = secondaries fs) :
    es.map Element.primary = fs.map Element.primary := by
  induction es generalizing fs with
  | nil =>
    obtain rfl := List.map_eq_nil_iff.1 hs.symm
    rfl
  | cons e es ih =>
    cases fs with
    | nil => cases hs
    | cons f fs =>
      obtain ⟨he, hes⟩ := List.forall_mem_cons.1 hes
      obtain ⟨hf, hfs⟩ := List.forall_mem_cons.1 hfs
      obtain ⟨hsecond, hs⟩ := List.cons.inj hs
      have hzero : e.primary = 0 ↔ f.primary = 0 := by
        rw [Element.IsProper] at he hf
        rw [he, hf, hsecond]
      rw [primaries_cons, primaries_cons] at hp
      rw [List.map_cons, List.map_cons]
      by_cases h : e.primary = 0
      · rw [if_pos h, if_pos (hzero.1 h)] at hp
        rw [h, hzero.1 h, ih hes hfs hp hs]
      · rw [if_neg h, if_neg (hzero.not.1 h)] at hp
        obtain ⟨hfirst, hp⟩ := List.cons.inj hp
        rw [hfirst, ih hes hfs hp hs]

/-- Elements are told by their three weights. -/
theorem eq_of_map_eq (hp : es.map Element.primary = fs.map Element.primary)
    (hs : secondaries es = secondaries fs) (ht : tertiaries es = tertiaries fs) : es = fs := by
  induction es generalizing fs with
  | nil => exact (List.map_eq_nil_iff.1 hp.symm).symm
  | cons e es ih =>
    cases fs with
    | nil => cases hp
    | cons f fs =>
      obtain ⟨hfirst, hp⟩ := List.cons.inj hp
      obtain ⟨hsecond, hs⟩ := List.cons.inj hs
      obtain ⟨hthird, ht⟩ := List.cons.inj ht
      have hef : e = f := by
        cases e
        cases f
        cases hfirst
        cases hsecond
        cases hthird
        rfl
      rw [hef, ih hp hs ht]

theorem elementOrder_eq_eq : elementOrder es fs = .eq ↔
    primaries es = primaries fs ∧ secondaries es = secondaries fs ∧
      tertiaries es = tertiaries fs := by
  rw [elementOrder, Ordering.then_eq_eq, Ordering.then_eq_eq, Std.compare_eq_iff_eq,
    Std.compare_eq_iff_eq, Std.compare_eq_iff_eq]

/-- A difference at the first level decides. -/
theorem elementOrder_of_primaries (h : primaries es ≠ primaries fs) :
    elementOrder es fs = compare (primaries es) (primaries fs) := by
  rw [elementOrder]
  cases hfirst : compare (primaries es) (primaries fs) with
  | eq => exact absurd (Std.compare_eq_iff_eq.1 hfirst) h
  | lt => rfl
  | gt => rfl

/-- **No level finds a difference between the same elements only.** -/
theorem elementOrder_eq_iff (hes : ∀ e ∈ es, e.IsProper) (hfs : ∀ f ∈ fs, f.IsProper) :
    elementOrder es fs = .eq ↔ es = fs := by
  rw [elementOrder_eq_eq]
  constructor
  · rintro ⟨hp, hs, ht⟩
    exact eq_of_map_eq (map_primary_eq hes hfs hp hs) hs ht
  · rintro rfl
    exact ⟨rfl, rfl, rfl⟩

/-! ## What lists begin with -/

/-- What lists begin with alike does not decide their order. -/
theorem compare_append_left (l a b : List ℕ) : compare (l ++ a) (l ++ b) = compare a b := by
  induction l with
  | nil => rfl
  | cons x l ih =>
    rw [List.cons_append, List.cons_append, List.compare_cons_cons, compare_eq_iff_eq.2 rfl, ih]
    rfl

/-- **Nor does it at any level.** -/
theorem elementOrder_append_left (es fs gs : List Element) :
    elementOrder (es ++ fs) (es ++ gs) = elementOrder fs gs := by
  simp only [elementOrder, primaries_append, secondaries, tertiaries, List.map_append,
    compare_append_left]

end Collation

end Cardfile
