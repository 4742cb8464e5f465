import DialogueMarkup.Engine
import DialogueMarkup.Proofs.Pieces

/-! Choices that are left of a dialogue. Those stay that expand to more than blanks, each with its
text and with the place that it had; an index moves down by the places that are dropped below it,
so the index of a choice that stays becomes the place that the choice has now. -/
namespace DialogueMarkup
open Text

/-! Places in a list, and indices after the removal of some of them. -/

/-- The places, of the first `n`, that lie below an index and are not kept. -/
def droppedBelow (n : Nat) (kept : List Nat) (j : Int) : Nat :=
  (List.range n).countP fun (i : Nat) => decide ((i : Int) < j ∧ i ∉ kept)

/-- An index moved down by the places, of the first `n`, that are dropped below it. -/
def moved (n : Nat) (kept : List Nat) (j : Int) : Int := j - droppedBelow n kept j

/-- In an increasing list a member stands behind as many as are less. -/
theorem countP_lt_of_getElem? {xs : List Nat} (hsorted : xs.Pairwise (· < ·)) {k i : Nat}
    (h : xs[k]? = some i) : (xs.countP fun m => decide (m < i)) = k := by
  induction xs generalizing k with
  | nil => simp at h
  | cons x xs ih =>
    obtain ⟨hfirst, hrest⟩ := List.pairwise_cons.mp hsorted
    cases k with
    | zero =>
      obtain rfl : x = i := by simpa using h
      apply List.countP_eq_zero.mpr
      intro m hm
      rcases List.mem_cons.mp hm with rfl | hm
      · simp
      · have hlt : x < m := hfirst m hm
        simp only [decide_eq_true_eq]
        omega
    | succ k =>
      rw [List.getElem?_cons_succ] at h
      have hlt : x < i := hfirst i (List.mem_of_getElem? h)
      rw [List.countP_cons_of_pos (by simpa using hlt), ih hrest h]

section
variable {n : Nat} {p : Nat → Bool}

theorem droppedBelow_filter (j : Int) : droppedBelow n ((List.range n).filter p) j =
    (List.range n).countP fun (i : Nat) => decide ((i : Int) < j) && !p i := by
  apply List.countP_congr
  intro i hi
  simp [hi]

/-- Below its end a list has as many places as it has, kept and dropped ones together. -/
theorem droppedBelow_add_length : droppedBelow n ((List.range n).filter p) n +
    ((List.range n).filter p).length = n := by
  have hbelow : ((List.range n).countP fun (i : Nat) => decide ((i : Int) < n) && !p i) =
      (List.range n).countP fun i => !p i := by
    apply List.countP_congr
    intro i hi
    have hlt : i < n := List.mem_range.mp hi
    simp [hlt]
  have hboth := List.length_eq_countP_add_countP p (l := List.range n)
  rw [droppedBelow_filter, hbelow, ← List.countP_eq_length_filter]
  simp only [List.length_range, Bool.decide_eq_false, Bool.not_eq_true] at hboth
  omega

/-- An index within the list moves to the number of places that are kept below it. -/
theorem moved_eq_countP {j : Nat} (hj : j ≤ n) : moved n ((List.range n).filter p) j =
    ((List.range n).filter p).countP fun m => decide (m < j) := by
  have hbelow : ((List.range n).countP fun m => decide (m < j)) = j := by
    obtain ⟨k, rfl⟩ := Nat.exists_eq_add_of_le hj
    have hfront : ((List.range j).countP fun m => decide (m < j)) = j := by
      rw [List.countP_eq_length.mpr (by simp), List.length_range]
    have hback : (((List.range k).map (j + ·)).countP fun m => decide (m < j)) = 0 :=
      List.countP_eq_zero.mpr (by simp)
    rw [List.range_add, List.countP_append, hfront, hback, Nat.add_zero]
  have hsplit := List.countP_eq_countP_filter_add (List.range n) (fun m => decide (m < j)) p
  have hdropped : droppedBelow n ((List.range n).filter p) j =
      ((List.range n).filter fun i => !p i).countP fun m => decide (m < j) := by
    rw [droppedBelow_filter, List.countP_filter]
    simp
  rw [moved, hdropped]
  omega

/-- A place that is kept moves to where it stands among those that are kept. -/
theorem moved_of_kept {k i : Nat} (h : ((List.range n).filter p)[k]? = some i) :
    moved n ((List.range n).filter p) i = k := by
  have hlt : i < n := List.mem_range.mp (List.mem_filter.mp (List.mem_of_getElem? h)).1
  have hsorted : ((List.range n).filter p).Pairwise (· < ·) := List.pairwise_lt_range.filter p
  rw [moved_eq_countP (Nat.le_of_lt hlt), countP_lt_of_getElem? hsorted h]

/-- So places that are kept stay in their order. -/
theorem moved_lt_moved {i j : Nat} (hi : i ∈ (List.range n).filter p)
    (hj : j ∈ (List.range n).filter p) (hlt : i < j) :
    moved n ((List.range n).filter p) i < moved n ((List.range n).filter p) j := by
  obtain ⟨k, hk, hgetk⟩ := List.getElem_of_mem hi
  obtain ⟨l, hl, hgetl⟩ := List.getElem_of_mem hj
  have hsorted : ((List.range n).filter p).Pairwise (· < ·) := List.pairwise_lt_range.filter p
  rw [moved_of_kept (List.getElem?_eq_some_iff.mpr ⟨hk, hgetk⟩),
    moved_of_kept (List.getElem?_eq_some_iff.mpr ⟨hl, hgetl⟩)]
  rcases Nat.lt_trichotomy k l with hkl | hkl | hlk
  · exact Int.ofNat_lt.mpr hkl
  · subst hkl
    omega
  · have hji : j < i := hgetl ▸ hgetk ▸ List.pairwise_iff_getElem.mp hsorted l k hl hk hlk
    omega

/-- An index below the first place stays as it is. -/
theorem moved_of_neg {kept : List Nat} {j : Int} (h : j < 0) : moved n kept j = j := by
  have hnone : droppedBelow n kept j = 0 := by
    apply List.countP_eq_zero.mpr
    intro i _
    have hle : ¬ (i : Int) < j := by omega
    simp [hle]
  rw [moved, hnone]
  omega

end

/-- The places of the members that pass a test, as numbering and picking them gives them. -/
theorem map_snd_filter_zipIdx {α : Type} (q : α → Bool) (xs : List α) :
    (xs.zipIdx.filter fun e => q e.1).map Prod.snd =
      (List.range xs.length).filter fun i => xs[i]?.any q := by
  have hrange : List.range xs.length = xs.zipIdx.map Prod.snd := by
    rw [List.zipIdx_map_snd, List.range_eq_range']
  rw [hrange, List.filter_map]
  congr 1
  apply List.filter_congr
  rintro ⟨x, i⟩ hmem
  have hget : xs[i]? = some x := List.mk_mem_zipIdx_iff_getElem?.mp hmem
  simp [hget]

/-- Numbering does not change which members pass. -/
theorem map_fst_filter_zipIdx {α : Type} (q : α → Bool) (xs : List α) :
    (xs.zipIdx.filter fun e => q e.1).map Prod.fst = xs.filter q := by
  calc (xs.zipIdx.filter fun e => q e.1).map Prod.fst
    _ = (xs.zipIdx.map Prod.fst).filter q := List.filter_map.symm
    _ = xs.filter q := by rw [List.zipIdx_map_fst]

/-- The members that pass are found in the list at the places where one passes. -/
theorem map_some_filter {α : Type} (q : α → Bool) (xs : List α) :
    (xs.filter q).map some =
      ((List.range xs.length).filter fun i => xs[i]?.any q).map (xs[·]?) := by
  rw [← map_snd_filter_zipIdx, ← map_fst_filter_zipIdx, List.map_map, List.map_map]
  apply List.map_congr_left
  rintro ⟨x, i⟩ hmem
  exact (List.mk_mem_zipIdx_iff_getElem?.mp (List.mem_filter.mp hmem).1).symm

/-! A list gone through to its end, or up to the first member that fails. -/

theorem mapM_eq_ok {ε α β : Type} {f : α → Except ε β} {g : α → β} {xs : List α}
    (h : ∀ x ∈ xs, f x = .ok (g x)) : xs.mapM f = .ok (xs.map g) := by
  induction xs with
  | nil => rfl
  | cons x xs ih =>
    obtain ⟨hx, hxs⟩ := List.forall_mem_cons.mp h
    rw [List.mapM_cons, hx, ih hxs]
    rfl

/-- The first member of a list at which a computation fails. -/
theorem exists_first_error {ε α β : Type} {f : α → Except ε β} {xs : List α}
    (h : ∃ x ∈ xs, ∃ error, f x = .error error) : ∃ before x after error,
      xs = before ++ x :: after ∧ (∀ y ∈ before, ∃ r, f y = .ok r) ∧ f x = .error error := by
  induction xs with
  | nil =>
    obtain ⟨x, hx, -⟩ := h
    cases hx
  | cons x xs ih =>
    cases hx : f x with
    | error error => exact ⟨[], x, xs, error, rfl, by simp, hx⟩
    | ok r =>
      have hrest : ∃ y ∈ xs, ∃ error, f y = .error error := by
        obtain ⟨y, hy, error, herror⟩ := h
        rcases List.mem_cons.mp hy with rfl | hy
        · rw [hx] at herror
          cases herror
        · exact ⟨y, hy, error, herror⟩
      obtain ⟨before, y, after, error, rfl, hbefore, hy⟩ := ih hrest
      exact ⟨x :: before, y, after, error, rfl,
        List.forall_mem_cons.mpr ⟨⟨r, hx⟩, hbefore⟩, hy⟩

theorem mapM_eq_error {ε α β : Type} {f : α → Except ε β} {before after : List α} {x : α}
    {error : ε} (hbefore : ∀ y ∈ before, ∃ r, f y = .ok r) (hx : f x = .error error) :
    (before ++ x :: after).mapM f = .error error := by
  induction before with
  | nil =>
    rw [List.nil_append, List.mapM_cons, hx]
    rfl
  | cons y before ih =>
    obtain ⟨⟨r, hy⟩, hrest⟩ := List.forall_mem_cons.mp hbefore
    rw [List.cons_append, List.mapM_cons, hy]
    exact congrArg (· >>= fun rs => pure (r :: rs)) (ih hrest)

namespace Engine
variable {e : Engine} {scope : Option Scope} {choices : List (List Char)}

/-- A text expands to more than blanks. -/
def Shows (e : Engine) (scope : Option Scope) (s : List Char) : Prop :=
  ∃ t, e.expand scope s = .ok t ∧ ∃ c ∈ t, isBlank c = false

/-- The same, as it is computed. -/
def shows (e : Engine) (scope : Option Scope) (s : List Char) : Bool :=
  match e.expand scope s with
  | .ok t => !isBlankText t
  | .error _ => false

theorem shows_iff {s : List Char} : e.shows scope s = true ↔ e.Shows scope s := by
  cases h : e.expand scope s with
  | error fault => simp [shows, Shows, h]
  | ok t => simp [shows, Shows, h, isBlankText]

/-- The places of the choices that stay. -/
def keptPlaces (e : Engine) (scope : Option Scope) (choices : List (List Char)) : List Nat :=
  (List.range choices.length).filter fun i => choices[i]?.any (e.shows scope)

theorem mem_keptPlaces {i : Nat} :
    i ∈ e.keptPlaces scope choices ↔ ∃ s, choices[i]? = some s ∧ e.Shows scope s := by
  rw [keptPlaces, List.mem_filter, List.mem_range, Option.any_eq_true]
  simp only [shows_iff]
  constructor
  · rintro ⟨-, h⟩
    exact h
  · rintro ⟨s, hs, hshows⟩
    exact ⟨(List.getElem?_eq_some_iff.mp hs).1, s, hs, hshows⟩

/-- Moving an index by the numbered choices that are empty moves it by the places dropped. -/
theorem shift_removed (j : Int) :
    shift ((choices.zipIdx.filter fun p => !e.shows scope p.1).map Prod.snd) j =
      moved choices.length (e.keptPlaces scope choices) j := by
  rw [shift, moved, keptPlaces, droppedBelow_filter,
    map_snd_filter_zipIdx (fun s => !e.shows scope s), List.countP_filter]
  congr 2
  apply List.countP_congr
  intro i hi
  obtain ⟨s, hs⟩ : ∃ s, choices[i]? = some s :=
    ⟨_, List.getElem?_eq_getElem (List.mem_range.mp hi)⟩
  simp [hs]

theorem judge_eq_ok {s t : List Char} (h : e.expand scope s = .ok t) :
    (do return (s, ← e.isEmpty scope s) : Except Fault (List Char × Bool)) =
      .ok (s, !e.shows scope s) := by
  simp only [isEmpty, shows, h, Bool.not_not]
  rfl

theorem judge_eq_error {s : List Char} {fault : Fault} (h : e.expand scope s = .error fault) :
    (do return (s, ← e.isEmpty scope s) : Except Fault (List Char × Bool)) = .error fault := by
  rw [isEmpty, h]
  rfl

/-- If every choice expands, those that show something are left, under the places they had. -/
theorem filterChoices_eq_ok (h : ∀ s ∈ choices, ∃ t, e.expand scope s = .ok t)
    (cancel default : Int) : e.filterChoices scope choices cancel default =
      .ok ⟨choices.filter (e.shows scope), e.keptPlaces scope choices,
        moved choices.length (e.keptPlaces scope choices) cancel,
        moved choices.length (e.keptPlaces scope choices) default⟩ := by
  have hjudge : ∀ s ∈ choices, (do return (s, ← e.isEmpty scope s) : Except Fault _) =
      .ok (s, !e.shows scope s) := by
    intro s hs
    obtain ⟨t, ht⟩ := h s hs
    exact judge_eq_ok ht
  have hkept : (((choices.map fun s => (s, !e.shows scope s)).zipIdx.filter fun p => !p.1.2).map
      (·.1.1)) = choices.filter (e.shows scope) := by
    rw [← map_fst_filter_zipIdx (e.shows scope), List.zipIdx_map, List.filter_map, List.map_map]
    simp [Function.comp_def]
  have hplaces : (((choices.map fun s => (s, !e.shows scope s)).zipIdx.filter fun p => !p.1.2).map
      Prod.snd) = e.keptPlaces scope choices := by
    rw [keptPlaces, ← map_snd_filter_zipIdx, List.zipIdx_map, List.filter_map, List.map_map]
    simp [Function.comp_def]
  have hremoved : (((choices.map fun s => (s, !e.shows scope s)).zipIdx.filter fun p => p.1.2).map
      Prod.snd) = (choices.zipIdx.filter fun p => !e.shows scope p.1).map Prod.snd := by
    rw [List.zipIdx_map, List.filter_map, List.map_map]
    simp [Function.comp_def]
  rw [filterChoices, mapM_eq_ok hjudge]
  simp only [bind, Except.bind, pure, Except.pure, hkept, hplaces, hremoved, shift_removed]

/-- The first choice that does not expand decides the outcome. -/
theorem filterChoices_eq_error {before after : List (List Char)} {s : List Char} {fault : Fault}
    (hbefore : ∀ s ∈ before, ∃ t, e.expand scope s = .ok t) (h : e.expand scope s = .error fault)
    (cancel default : Int) :
    e.filterChoices scope (before ++ s :: after) cancel default = .error fault := by
  have hjudge : ∀ s ∈ before, ∃ r,
      (do return (s, ← e.isEmpty scope s) : Except Fault (List Char × Bool)) = .ok r := by
    intro s hs
    obtain ⟨t, ht⟩ := hbefore s hs
    exact ⟨_, judge_eq_ok ht⟩
  rw [filterChoices, mapM_eq_error hjudge (judge_eq_error h)]
  rfl

/-- The choices left of a dialogue. If all of them expand, the places left are those of the choices
that show something, in increasing order, and at these places the choices left are found; both
indices move down by the places dropped below them. So the index of a place that is left becomes the
place it has among those left, a negative index stays, the end of the choices becomes the end of
those left, and the places left keep their order. If some choice does not expand, the first one that
does not decides the fault. -/
theorem filterChoices_places (e : Engine) (scope : Option Scope) (choices : List (List Char))
    (cancel default : Int) :
    ((∀ s ∈ choices, ∃ t, e.expand scope s = .ok t) →
      ∃ r, e.filterChoices scope choices cancel default = .ok r ∧
        r.branches.Pairwise (· < ·) ∧
        (∀ i, i ∈ r.branches ↔ ∃ s, choices[i]? = some s ∧ e.Shows scope s) ∧
        r.choices.map some = r.branches.map (choices[·]?) ∧
        r.cancel = moved choices.length r.branches cancel ∧
        r.default = moved choices.length r.branches default ∧
        (∀ (k i : Nat), r.branches[k]? = some i → moved choices.length r.branches i = k) ∧
        (∀ j < 0, moved choices.length r.branches j = j) ∧
        moved choices.length r.branches choices.length = r.choices.length ∧
        ∀ i ∈ r.branches, ∀ j ∈ r.branches, i < j →
          moved choices.length r.branches i < moved choices.length r.branches j) ∧
    ((∃ s ∈ choices, ∃ fault, e.expand scope s = .error fault) →
      ∃ before s after fault, choices = before ++ s :: after ∧
        (∀ s ∈ before, ∃ t, e.expand scope s = .ok t) ∧ e.expand scope s = .error fault ∧
        e.filterChoices scope choices cancel default = .error fault) := by
  refine ⟨fun hall => ?_, fun hfails => ?_⟩
  · have hfound : (choices.filter (e.shows scope)).map some =
        (e.keptPlaces scope choices).map (choices[·]?) := map_some_filter (e.shows scope) choices
    refine ⟨_, filterChoices_eq_ok hall cancel default, List.pairwise_lt_range.filter _,
      fun i => mem_keptPlaces, hfound, rfl, rfl, fun k i => moved_of_kept, fun j => moved_of_neg,
      ?_, fun i hi j hj => moved_lt_moved hi hj⟩
    -- as many choices are left as places, and the dropped ones all lie below the end
    have hlength := congrArg List.length hfound
    have hend := droppedBelow_add_length (n := choices.length)
      (p := fun i => choices[i]?.any (e.shows scope))
    simp only [List.length_map, keptPlaces] at hlength
    simp only [moved, keptPlaces, hlength]
    omega
  · obtain ⟨before, s, after, fault, rfl, hbefore, hs⟩ := exists_first_error hfails
    exact ⟨before, s, after, fault, rfl, hbefore, hs,
      filterChoices_eq_error hbefore hs cancel default⟩

/-- The second of three choices is hidden by a switch that is off, so the third moves to its place.
If it asks for a switch that does not exist, nothing is returned. -/
theorem filterChoices_places_cases :
    (∃ r, (Engine.open {} {}).filterChoices none
        ["a".toList, "\\ON[1]\x7bc\x7d".toList, "b".toList] 2 (-1) = .ok r ∧
      (∀ i, i ∈ r.branches ↔ ∃ s,
        ["a".toList, "\\ON[1]\x7bc\x7d".toList, "b".toList][i]? = some s ∧
          (Engine.open {} {}).Shows none s) ∧
      r.cancel = moved 3 r.branches 2 ∧ r.default = -1 ∧
      moved 3 r.branches 3 = r.choices.length) ∧
    ∃ before s after fault,
      ["a".toList, "\\ON[Z]\x7bc\x7d".toList, "b".toList] = before ++ s :: after ∧
      (∀ s ∈ before, ∃ t, (Engine.open {} {}).expand none s = .ok t) ∧
      (Engine.open {} {}).expand none s = .error fault ∧
      (Engine.open {} {}).filterChoices none
        ["a".toList, "\\ON[Z]\x7bc\x7d".toList, "b".toList] 2 (-1) = .error fault := by
  have ha : (Engine.open {} {}).expand none "a".toList = .ok ['a'] := by rfl
  have hb : (Engine.open {} {}).expand none "b".toList = .ok ['b'] := by rfl
  have hhidden : (Engine.open {} {}).expand none "\\ON[1]\x7bc\x7d".toList = .ok [] := by rfl
  have hunnamed : (Engine.open {} {}).expand none "\\ON[Z]\x7bc\x7d".toList =
    .error (.malformed .switchReference ['Z']) := by rfl
  refine ⟨?_, (filterChoices_places (Engine.open {} {}) none _ 2 (-1)).2
    ⟨_, List.mem_cons_of_mem _ List.mem_cons_self, _, hunnamed⟩⟩
  have hall : ∀ s ∈ ["a".toList, "\\ON[1]\x7bc\x7d".toList, "b".toList],
      ∃ t, (Engine.open {} {}).expand none s = .ok t :=
    List.forall_mem_cons.mpr ⟨⟨_, ha⟩, List.forall_mem_cons.mpr ⟨⟨_, hhidden⟩,
      List.forall_mem_singleton.mpr ⟨_, hb⟩⟩⟩
  obtain ⟨r, hr, -, hplaces, -, hcancel, hdefault, -, hneg, hend, -⟩ :=
    (filterChoices_places (Engine.open {} {}) none _ 2 (-1)).1 hall
  exact ⟨r, hr, hplaces, hcancel, hdefault.trans (hneg (-1) (by decide)), hend⟩

end Engine
end DialogueMarkup
