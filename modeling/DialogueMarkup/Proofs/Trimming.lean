import DialogueMarkup.Text.Blank

/-! Texts cut where a class of characters ends, and texts without the blanks around them. A
character that is no blank keeps its place when blanks are trimmed: what is in front of it is
trimmed on the left, and what is behind it on the right. -/
namespace DialogueMarkup.Text

section
variable {α : Type} {p : α → Bool}

theorem of_mem_takeWhile (p : α → Bool) (xs : List α) : ∀ x ∈ xs.takeWhile p, p x = true :=
  List.all_eq_true.mp List.all_takeWhile

/-- A run of a class goes as far as the first member that is not of the class. -/
theorem span_append {xs ys : List α} (hxs : ∀ x ∈ xs, p x = true)
    (hys : ∀ y ∈ ys.head?, p y = false) :
    (xs ++ ys).takeWhile p = xs ∧ (xs ++ ys).dropWhile p = ys := by
  rw [List.takeWhile_append_of_pos hxs, List.dropWhile_append_of_pos hxs]
  cases ys with
  | nil => simp
  | cons y ys =>
    have hy : p y = false := hys y rfl
    simp [hy]

/-- What the members of a run share and the head of the rest has is true of the head of both. -/
theorem head?_append {P : α → Prop} {xs ys : List α} (hxs : ∀ x ∈ xs, P x)
    (hys : ∀ y ∈ ys.head?, P y) : ∀ z ∈ (xs ++ ys).head?, P z := by
  cases xs with
  | nil => exact hys
  | cons x xs =>
    intro z hz
    obtain rfl : x = z := Option.some.inj hz
    exact hxs x List.mem_cons_self

theorem head?_append_of_ne_nil {P : α → Prop} {xs : List α} (hne : xs ≠ [])
    (hxs : ∀ x ∈ xs, P x) (ys : List α) : ∀ z ∈ (xs ++ ys).head?, P z := by
  obtain ⟨x, behind, rfl⟩ := List.exists_cons_of_ne_nil hne
  intro z hz
  obtain rfl : x = z := Option.some.inj hz
  exact hxs x List.mem_cons_self

theorem dropWhile_append_cons (xs : List α) {y : α} (hy : p y = false) (ys : List α) :
    (xs ++ y :: ys).dropWhile p = xs.dropWhile p ++ y :: ys := by
  rw [List.dropWhile_append, List.dropWhile_cons_of_neg (by simp [hy])]
  split
  · rename_i hnil
    rw [List.isEmpty_iff.mp hnil, List.nil_append]
  · rfl

theorem dropWhile_dropWhile (xs : List α) : (xs.dropWhile p).dropWhile p = xs.dropWhile p := by
  cases h : xs.dropWhile p with
  | nil => rfl
  | cons x rest =>
    have hx := List.head_dropWhile_not p (l := xs) (by simp [h])
    simp only [h, List.head_cons] at hx
    simp [hx]

end

/-- A text without the blanks behind it. -/
def trimRight (s : List Char) : List Char := (s.reverse.dropWhile isBlank).reverse

theorem trimLeft_suffix (s : List Char) : trimLeft s <:+ s := List.dropWhile_suffix _

theorem trim_isInfix (s : List Char) : trim s <:+: s := by
  have hend : trim s <+: s.dropWhile isBlank := by
    have h := List.dropWhile_suffix (l := (s.dropWhile isBlank).reverse) isBlank
    simpa [trim, trimOf] using List.reverse_prefix.mpr h
  exact hend.isInfix.trans (List.dropWhile_suffix _).isInfix

theorem trimLeft_trimLeft (s : List Char) : trimLeft (trimLeft s) = trimLeft s :=
  dropWhile_dropWhile s

theorem trimRight_trimRight (s : List Char) : trimRight (trimRight s) = trimRight s := by
  rw [trimRight, trimRight, List.reverse_reverse, dropWhile_dropWhile]

theorem trim_append_cons (s : List Char) {c : Char} (hc : isBlank c = false) (t : List Char) :
    trim (s ++ c :: t) = trimLeft s ++ c :: trimRight t := by
  have hback : (trimLeft s ++ c :: t).reverse = t.reverse ++ c :: (trimLeft s).reverse := by simp
  calc trim (s ++ c :: t)
      = ((trimLeft s ++ c :: t).reverse.dropWhile isBlank).reverse := by
        rw [trim, trimOf, dropWhile_append_cons s hc, trimLeft]
    _ = (t.reverse.dropWhile isBlank ++ c :: (trimLeft s).reverse).reverse := by
        rw [hback, dropWhile_append_cons _ hc]
    _ = trimLeft s ++ c :: trimRight t := by simp [trimRight]

/-- Behind a text without blanks only the right is trimmed. -/
theorem trim_append {s : List Char} (hne : s ≠ []) (hs : ∀ c ∈ s, isBlank c = false)
    (t : List Char) : trim (s ++ t) = s ++ trimRight t := by
  obtain ⟨a, c, rfl⟩ : ∃ a c, s = a ++ [c] := ⟨_, _, (List.dropLast_concat_getLast hne).symm⟩
  have hc : isBlank c = false := hs c (by simp)
  have ha : trimLeft a = a := by
    cases a with
    | nil => rfl
    | cons d a => simp [trimLeft, hs d (by simp)]
  rw [List.append_assoc, List.singleton_append, trim_append_cons a hc, ha]
  simp

theorem trimRight_prefix (s : List Char) : trimRight s <+: s := by
  have hsuffix := List.dropWhile_suffix (l := s.reverse) isBlank
  simpa [trimRight] using List.reverse_prefix.mpr hsuffix

section
variable {s : List Char}

/-- A text is blank or can be cut at a character that stays. -/
theorem blank_or_eq_append_cons (s : List Char) : (∀ c ∈ s, isBlank c = true) ∨
    ∃ a c b, s = a ++ c :: b ∧ isBlank c = false := by
  cases h : s.all isBlank with
  | true => exact Or.inl (List.all_eq_true.mp h)
  | false =>
    obtain ⟨c, hmem, hc⟩ := List.all_eq_false.mp h
    obtain ⟨a, b, rfl⟩ := List.append_of_mem hmem
    exact Or.inr ⟨a, c, b, rfl, Bool.eq_false_iff.mpr hc⟩

theorem trimLeft_of_blank (h : ∀ c ∈ s, isBlank c = true) : trimLeft s = [] := by
  have hspan : (s ++ []).takeWhile isBlank = s ∧ (s ++ []).dropWhile isBlank = [] :=
    span_append h (by simp)
  simpa [trimLeft] using hspan.2

theorem trimRight_of_blank (h : ∀ c ∈ s, isBlank c = true) : trimRight s = [] := by
  have hreverse : trimLeft s.reverse = [] :=
    trimLeft_of_blank fun c hc => h c (List.mem_reverse.mp hc)
  simpa [trimRight, trimLeft] using hreverse

theorem trim_of_blank (h : ∀ c ∈ s, isBlank c = true) : trim s = [] := by
  have hleft : s.dropWhile isBlank = [] := trimLeft_of_blank h
  rw [trim, trimOf, hleft]
  rfl

@[simp]
theorem trim_trimLeft (s : List Char) : trim (trimLeft s) = trim s := by
  rw [trim, trimOf, trimLeft, dropWhile_dropWhile, trim, trimOf]

@[simp]
theorem trim_trimRight (s : List Char) : trim (trimRight s) = trim s := by
  rcases blank_or_eq_append_cons s with h | ⟨a, c, b, rfl, hc⟩
  · rw [trimRight_of_blank h, trim_of_blank h]
    rfl
  · have hright : trimRight (a ++ c :: b) = a ++ c :: trimRight b := by
      rw [trimRight, List.reverse_append, List.reverse_cons, List.append_assoc,
        List.singleton_append, dropWhile_append_cons _ hc]
      simp [trimRight]
    rw [hright, trim_append_cons _ hc, trim_append_cons _ hc, trimRight_trimRight]

/-- The blanks around a text without blanks are what is trimmed. -/
theorem trim_append_blank {before after : List Char} (hbefore : ∀ c ∈ before, isBlank c = true)
    (hs : ∀ c ∈ s, isBlank c = false) (hafter : ∀ c ∈ after, isBlank c = true) :
    trim (before ++ (s ++ after)) = s := by
  by_cases hne : s = []
  · rw [hne, List.nil_append, trim_of_blank (List.forall_mem_append.mpr ⟨hbefore, hafter⟩)]
  · have hhead : ∀ c ∈ (s ++ after).head?, isBlank c = false :=
      head?_append_of_ne_nil hne hs after
    have hlast : ∀ c ∈ s.reverse.head?, isBlank c = false := fun c hc =>
      hs c (List.mem_reverse.mp (List.mem_of_mem_head? hc))
    have hbehind : ∀ c ∈ after.reverse, isBlank c = true := fun c hc =>
      hafter c (List.mem_reverse.mp hc)
    rw [trim, trimOf, (span_append hbefore hhead).2, List.reverse_append,
      (span_append hbehind hlast).2, List.reverse_reverse]

theorem trim_of_not_blank (hs : ∀ c ∈ s, isBlank c = false) : trim s = s := by
  have htrim : trim ([] ++ (s ++ [])) = s := trim_append_blank (by simp) hs (by simp)
  simpa using htrim

/-- A character that is no blank is not trimmed away. -/
theorem mem_trim_iff {c : Char} (hc : isBlank c = false) : c ∈ trim s ↔ c ∈ s := by
  constructor
  · exact fun h => (trim_isInfix s).subset h
  · intro h
    obtain ⟨a, b, rfl⟩ := List.append_of_mem h
    rw [trim_append_cons a hc]
    exact List.mem_append_right _ List.mem_cons_self

/-- What is trimmed has nothing more around it to be trimmed. -/
@[simp]
theorem trim_trim (s : List Char) : trim (trim s) = trim s := by
  rcases blank_or_eq_append_cons s with h | ⟨a, c, b, rfl, hc⟩
  · rw [trim_of_blank h]
    rfl
  · rw [trim_append_cons _ hc, trim_append_cons _ hc, trimLeft_trimLeft, trimRight_trimRight]

end

end DialogueMarkup.Text
