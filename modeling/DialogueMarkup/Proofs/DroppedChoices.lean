import DialogueMarkup.Proofs.Choices

/-! The index of a choice that is dropped. It falls to the number of choices left in front of that
choice, and so to the next choice that is left; only when there is none behind does it name no
choice at all. -/
namespace DialogueMarkup
open Text

/-- In an increasing list those that are less than a number, which is none of them, are followed by
the least that is greater. -/
theorem getElem?_countP_lt_iff {xs : List Nat} (hsorted : xs.Pairwise (· < ·)) {i : Nat}
    (hi : i ∉ xs) (l : Nat) : xs[xs.countP fun m => decide (m < i)]? = some l ↔
      l ∈ xs ∧ i < l ∧ ∀ m ∈ xs, i < m → l ≤ m := by
  induction xs with
  | nil => simp
  | cons x xs ih =>
    obtain ⟨hfirst, hrest⟩ := List.pairwise_cons.mp hsorted
    obtain ⟨hix, hixs⟩ : i ≠ x ∧ i ∉ xs := by simpa using hi
    by_cases hlt : x < i
    · -- the first member is passed over on both sides
      rw [List.countP_cons_of_pos (by simpa using hlt), List.getElem?_cons_succ, ih hrest hixs]
      constructor
      · rintro ⟨hl, hil, hleast⟩
        refine ⟨List.mem_cons_of_mem _ hl, hil, List.forall_mem_cons.mpr ⟨?_, hleast⟩⟩
        omega
      · rintro ⟨hl, hil, hleast⟩
        refine ⟨(List.mem_cons.mp hl).resolve_left (by omega), hil, ?_⟩
        exact (List.forall_mem_cons.mp hleast).2
    · -- the first member is greater, and the least of all
      have hnone : ((x :: xs).countP fun m => decide (m < i)) = 0 := by
        apply List.countP_eq_zero.mpr
        intro m hm
        simp only [decide_eq_true_eq]
        rcases List.mem_cons.mp hm with rfl | hm
        · exact hlt
        · have hxm : x < m := hfirst m hm
          omega
      rw [hnone, List.getElem?_cons_zero]
      constructor
      · intro h
        obtain rfl : x = l := Option.some.inj h
        refine ⟨List.mem_cons_self, by omega, List.forall_mem_cons.mpr ⟨?_, ?_⟩⟩
        · exact fun _ => Nat.le_refl x
        · exact fun m hm _ => Nat.le_of_lt (hfirst m hm)
      · rintro ⟨hl, -, hleast⟩
        have hlx : l ≤ x := hleast x List.mem_cons_self (by omega)
        rcases List.mem_cons.mp hl with rfl | hl
        · rfl
        · have hxl : x < l := hfirst l hl
          omega

/-- An index names one of the choices that are left. -/
def ChoiceFilter.Names (r : ChoiceFilter) (j : Int) : Prop := ∃ k < r.choices.length, j = (k : Int)

/-- What the index of a place falls to when the choice there is dropped: past all choices left in
front of it, to the first that is left behind it. -/
structure ChoiceFilter.FallsTo (r : ChoiceFilter) (i : Nat) (j : Int) : Prop where
  count : j = r.branches.countP fun m => decide (m < i)
  names_iff : r.Names j ↔ ∃ l ∈ r.branches, i < l
  next : ∀ k l : Nat, j = k →
    (r.branches[k]? = some l ↔ l ∈ r.branches ∧ i < l ∧ ∀ m ∈ r.branches, i < m → l ≤ m)

/-- Not all members are less than a number that is none of them if and only if one is greater. -/
theorem countP_lt_length_iff {xs : List Nat} {i : Nat} (hi : i ∉ xs) :
    (xs.countP fun m => decide (m < i)) < xs.length ↔ ∃ l ∈ xs, i < l := by
  have hall : (xs.countP fun m => decide (m < i)) = xs.length ↔ ∀ m ∈ xs, m < i := by
    rw [List.countP_eq_length]
    simp only [decide_eq_true_eq]
  have hle : (xs.countP fun m => decide (m < i)) ≤ xs.length := List.countP_le_length
  constructor
  · intro hlt
    by_cases hsome : ∃ l ∈ xs, i < l
    · exact hsome
    · exfalso
      have hbelow : ∀ m ∈ xs, m < i := by
        intro m hm
        have hne : m ≠ i := ne_of_mem_of_not_mem hm hi
        have hle : ¬ i < m := fun him => hsome ⟨m, hm, him⟩
        omega
      exact Nat.ne_of_lt hlt (hall.mpr hbelow)
  · rintro ⟨l, hl, hil⟩
    apply Nat.lt_of_le_of_ne hle
    intro heq
    have hli : l < i := hall.mp heq l hl
    omega

namespace Engine
variable {e : Engine} {scope : Option Scope} {choices : List (List Char)}

theorem fallsTo_moved {r : ChoiceFilter} (hbranches : r.branches = e.keptPlaces scope choices)
    (hlength : r.choices.length = r.branches.length) {i : Nat} (hi : i < choices.length)
    (hdropped : i ∉ r.branches) : r.FallsTo i (moved choices.length r.branches i) := by
  have hsorted : r.branches.Pairwise (· < ·) := by
    rw [hbranches]
    exact List.pairwise_lt_range.filter _
  have hcount : moved choices.length r.branches i =
      r.branches.countP fun m => decide (m < i) := by
    rw [hbranches]
    exact moved_eq_countP (Nat.le_of_lt hi)
  refine ⟨hcount, ?_, fun k l hk => ?_⟩
  · rw [← countP_lt_length_iff hdropped, ← hlength, hcount]
    constructor
    · rintro ⟨k, hk, heq⟩
      omega
    · exact fun hlt => ⟨_, hlt, rfl⟩
  · obtain rfl : (r.branches.countP fun m => decide (m < i)) = k := by omega
    exact getElem?_countP_lt_iff hsorted hdropped l

/-- If all choices expand, the index of a choice that is dropped counts the choices left in front of
it. It names a choice if and only if one behind is left, and then the first of those. -/
theorem filterChoices_dropped (e : Engine) (scope : Option Scope) {choices : List (List Char)}
    (h : ∀ s ∈ choices, ∃ t, e.expand scope s = .ok t) (cancel default : Int) :
    ∃ r, e.filterChoices scope choices cancel default = .ok r ∧
      (∀ i, i ∈ r.branches ↔ ∃ s, choices[i]? = some s ∧ e.Shows scope s) ∧
      r.choices.map some = r.branches.map (choices[·]?) ∧
      (∀ i : Nat, cancel = i → i < choices.length → i ∉ r.branches → r.FallsTo i r.cancel) ∧
      ∀ i : Nat, default = i → i < choices.length → i ∉ r.branches → r.FallsTo i r.default := by
  have hfound : (choices.filter (e.shows scope)).map some =
      (e.keptPlaces scope choices).map (choices[·]?) := map_some_filter (e.shows scope) choices
  have hlength := congrArg List.length hfound
  simp only [List.length_map] at hlength
  refine ⟨_, filterChoices_eq_ok h cancel default, fun i => mem_keptPlaces, hfound, ?_, ?_⟩
  · rintro i rfl hi hdropped
    exact fallsTo_moved rfl hlength hi hdropped
  · rintro i rfl hi hdropped
    exact fallsTo_moved rfl hlength hi hdropped

/-- Of three choices only the second is left: the index of the first falls to it, that of the third
to none. -/
theorem filterChoices_dropped_ends :
    (∀ s ∈ ["\\ON[1]\x7ba\x7d".toList, "b".toList, " \\ON[1]\x7bc\x7d".toList],
      ∃ t, (Engine.open {} {}).expand none s = .ok t) ∧
    ∃ r, (Engine.open {} {}).filterChoices none
        ["\\ON[1]\x7ba\x7d".toList, "b".toList, " \\ON[1]\x7bc\x7d".toList] 0 2 = .ok r ∧
      r = ⟨["b".toList], [1], 0, 1⟩ ∧ r.FallsTo 0 r.cancel ∧ r.FallsTo 2 r.default := by
  have hall : ∀ s ∈ ["\\ON[1]\x7ba\x7d".toList, "b".toList, " \\ON[1]\x7bc\x7d".toList],
      ∃ t, (Engine.open {} {}).expand none s = .ok t :=
    List.forall_mem_cons.mpr ⟨⟨[], rfl⟩, List.forall_mem_cons.mpr ⟨⟨['b'], rfl⟩,
      List.forall_mem_singleton.mpr ⟨[' '], rfl⟩⟩⟩
  have hvalue : (Engine.open {} {}).filterChoices none
      ["\\ON[1]\x7ba\x7d".toList, "b".toList, " \\ON[1]\x7bc\x7d".toList] 0 2 =
        .ok ⟨["b".toList], [1], 0, 1⟩ := rfl
  obtain ⟨r, hr, -, -, hcancel, hdefault⟩ :=
    filterChoices_dropped (Engine.open {} {}) none hall 0 2
  obtain rfl : (⟨["b".toList], [1], 0, 1⟩ : ChoiceFilter) = r :=
    Except.ok.inj (hvalue.symm.trans hr)
  exact ⟨hall, _, hr, rfl, hcancel 0 rfl (by decide) (by decide),
    hdefault 2 rfl (by decide) (by decide)⟩

/-- The index of a hidden choice can come to name another choice. -/
theorem not_filterChoices_dropped :
    ¬ ∀ (e : Engine) (scope : Option Scope) (choices : List (List Char)) (cancel default : Int)
      (r : ChoiceFilter), (∀ s ∈ choices, ∃ t, e.expand scope s = .ok t) →
        e.filterChoices scope choices cancel default = .ok r →
        ∀ i < choices.length, i ∉ r.branches →
          (cancel = i → ¬ r.Names r.cancel) ∧ (default = i → ¬ r.Names r.default) := by
  intro h
  have hall : ∀ s ∈ ["\\ON[1]\x7ba\x7d".toList, "b".toList],
      ∃ t, (Engine.open {} {}).expand none s = .ok t :=
    List.forall_mem_cons.mpr ⟨⟨[], rfl⟩, List.forall_mem_singleton.mpr ⟨['b'], rfl⟩⟩
  have hvalue : (Engine.open {} {}).filterChoices none
      ["\\ON[1]\x7ba\x7d".toList, "b".toList] 0 1 = .ok ⟨["b".toList], [1], 0, 0⟩ := rfl
  have hcancel := (h _ _ _ _ _ _ hall hvalue 0 (by decide) (by decide)).1 rfl
  exact hcancel ⟨0, by decide, rfl⟩

end Engine
end DialogueMarkup
