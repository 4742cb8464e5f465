import DialogueMarkup.Text.Piece

/-! Texts cut by a reader, followed from the front: what one cut does to the marks, to a
replacement and to a replacement that may fail. -/
namespace DialogueMarkup.Text

/-- What a test of the whole list finds holds of every member. -/
theorem forall_mem_of_all {α : Type} {p : α → Prop} [DecidablePred p] {xs : List α}
    (h : xs.all (fun x => decide (p x)) = true) : ∀ x ∈ xs, p x := by
  simpa using h

/-! Computations that may fail. -/

section
variable {ε α β : Type} {x : Except ε α}

/-- One computation after another goes through if both do. -/
theorem bind_eq_ok {f : α → Except ε β} {b : β} (h : x >>= f = .ok b) :
    ∃ a, x = .ok a ∧ f a = .ok b := by
  cases x with
  | error e => cases h
  | ok a => exact ⟨a, rfl, h⟩

/-- What every step of a traversal keeps, a traversal that goes through keeps. -/
theorem foldlM_preserves {P : α → Prop} {f : α → β → Except ε α}
    (hf : ∀ a b a', P a → f a b = .ok a' → P a') {bs : List β} {a a' : α} (ha : P a)
    (h : bs.foldlM f a = .ok a') : P a' := by
  induction bs generalizing a with
  | nil =>
    cases h
    exact ha
  | cons b bs ih =>
    rw [List.foldlM_cons] at h
    obtain ⟨next, hnext, hrest⟩ := bind_eq_ok h
    exact ih (hf a b next ha hnext) hrest

/-- A list that is gone through to its end is passed member by member. -/
theorem map_eq_of_mapM_eq_ok {f : α → Except ε β} {xs : List α} {ys : List β}
    (h : xs.mapM f = .ok ys) : xs.map f = ys.map .ok := by
  induction xs generalizing ys with
  | nil =>
    cases h
    rfl
  | cons x xs ih =>
    rw [List.mapM_cons] at h
    obtain ⟨y, hy, hrest⟩ := bind_eq_ok h
    obtain ⟨zs, hzs, hcons⟩ := bind_eq_ok hrest
    cases hcons
    rw [List.map_cons, List.map_cons, hy, ih hzs]

variable {f : α → β}

/-- What is made of a value fails as that value does. -/
theorem map_eq_ok {b : β} (h : x.map f = .ok b) : ∃ a, x = .ok a ∧ f a = b := by
  cases x with
  | error e => cases h
  | ok a =>
    cases h
    exact ⟨a, rfl, rfl⟩

theorem map_eq_error {e : ε} (h : x.map f = .error e) : x = .error e := by
  cases x with
  | error e' =>
    cases h
    rfl
  | ok a => cases h

theorem toOption_eq_some {a : α} : x.toOption = some a ↔ x = .ok a := by
  cases x <;> simp [Except.toOption]

/-- The error of a computation, if it fails. -/
def errorOf? : Except ε α → Option ε
  | .ok _ => none
  | .error e => some e

theorem errorOf?_eq_some {e : ε} : errorOf? x = some e ↔ x = .error e := by
  cases x <;> simp [errorOf?]

theorem mapError_eq_ok {ε' : Type} {k : ε → ε'} {a : α} (h : x.mapError k = .ok a) : x = .ok a := by
  cases x with
  | error e => cases h
  | ok a' =>
    cases h
    rfl

end

section
variable {α : Type}

/-- The marks among pieces. -/
def marksOf (ps : List (Piece α)) : List α :=
  ps.filterMap fun
    | .char _ => none
    | .mark a => some a

/-- Pieces with a text in the place of every mark. -/
def textOf (f : α → List Char) (ps : List (Piece α)) : List Char :=
  ps.flatMap fun
    | .char c => [c]
    | .mark a => f a

theorem marks_eq (read : Reader α) (s : List Char) : marks read s = marksOf (pieces read s) := rfl

theorem replaceMarks_eq (read : Reader α) (f : α → List Char) (s : List Char) :
    replaceMarks read f s = textOf f (pieces read s) := rfl

section
variable (f : α → List Char) (ps qs : List (Piece α))

@[simp]
theorem marksOf_char (c : Char) : marksOf (.char c :: ps) = marksOf ps := rfl

@[simp]
theorem marksOf_mark (a : α) : marksOf (.mark a :: ps) = a :: marksOf ps := rfl

@[simp]
theorem marksOf_append : marksOf (ps ++ qs) = marksOf ps ++ marksOf qs :=
  List.filterMap_append

@[simp]
theorem marksOf_chars (xs : List Char) : marksOf (xs.map (Piece.char (α := α))) = [] := by
  induction xs with
  | nil => rfl
  | cons c xs ih => exact ih

@[simp]
theorem textOf_char (c : Char) : textOf f (.char c :: ps) = c :: textOf f ps := rfl

@[simp]
theorem textOf_mark (a : α) : textOf f (.mark a :: ps) = f a ++ textOf f ps := rfl

@[simp]
theorem textOf_append : textOf f (ps ++ qs) = textOf f ps ++ textOf f qs :=
  List.flatMap_append

@[simp]
theorem textOf_chars (xs : List Char) : textOf f (xs.map .char) = xs := by
  induction xs with
  | nil => rfl
  | cons c xs ih => rw [List.map_cons, textOf_char, ih]

end

end

section
variable {α : Type} {read : Reader α}

/-- A text is followed cut by cut: one character where the reader finds nothing, else a mark. -/
theorem Reader.Consumes.induction (h : read.Consumes) {P : List Char → Prop} (nil : P [])
    (char : ∀ c s, read (c :: s) = none → P s → P (c :: s))
    (mark : ∀ s a rest, read s = some (a, rest) → P rest → P s) (s : List Char) : P s := by
  -- on the length, since a mark may take any number of characters
  induction hn : s.length using Nat.strongRecOn generalizing s with
  | ind n ih =>
    match s with
    | [] => exact nil
    | c :: s =>
      have hlt : s.length < n := by simp [← hn]
      cases hr : read (c :: s) with
      | none => exact char c s hr (ih s.length hlt s rfl)
      | some r =>
        have hrest : r.2.length < n := hn ▸ h _ r.1 r.2 hr
        exact mark _ r.1 r.2 hr (ih r.2.length hrest r.2 rfl)

/-- A reader that consumes finds nothing in the empty text. -/
theorem Reader.Consumes.nil (h : read.Consumes) : read [] = none := by
  cases hr : read [] with
  | none => rfl
  | some r => exact absurd (h _ r.1 r.2 hr) (Nat.not_lt_zero _)

theorem pieces_of_some (h : read.Consumes) {s rest : List Char} {a : α}
    (hr : read s = some (a, rest)) : pieces read s = .mark a :: pieces read rest := by
  match s with
  | [] => rw [h.nil] at hr; cases hr
  | c :: s => exact pieces_cons_of_some h hr

/-- Characters at which the reader finds nothing are cut off one by one. -/
theorem pieces_append_of_none {xs s : List Char}
    (h : ∀ c ∈ xs, ∀ t, read (c :: t) = none) :
    pieces read (xs ++ s) = xs.map .char ++ pieces read s := by
  induction xs with
  | nil => rfl
  | cons c xs ih =>
    have hxs : ∀ d ∈ xs, ∀ t, read (d :: t) = none := fun d hd => h d (List.mem_cons_of_mem c hd)
    rw [List.cons_append, pieces_cons_of_none (h c List.mem_cons_self _), ih hxs]
    rfl

@[simp]
theorem marks_nil (read : Reader α) : marks read [] = [] := rfl

theorem marks_cons_of_none {c : Char} {s : List Char} (hr : read (c :: s) = none) :
    marks read (c :: s) = marks read s := by
  rw [marks_eq, pieces_cons_of_none hr, marksOf_char, marks_eq]

theorem marks_of_some (h : read.Consumes) {s rest : List Char} {a : α}
    (hr : read s = some (a, rest)) : marks read s = a :: marks read rest := by
  rw [marks_eq, pieces_of_some h hr, marksOf_mark, marks_eq]

theorem marks_cons_eq_nil_iff {c : Char} {s : List Char} :
    marks read (c :: s) = [] ↔ read (c :: s) = none ∧ marks read s = [] := by
  cases hr : read (c :: s) with
  | none => simp [marks_cons_of_none hr]
  | some r => simp [marks_eq, pieces, cuts, hr]

/-- A text without marks begins with none. -/
theorem read_eq_none_of_marks (h : read.Consumes) {s : List Char} (hs : marks read s = []) :
    read s = none := by
  cases hr : read s with
  | none => rfl
  | some r =>
    rw [marks_of_some h hr] at hs
    exact absurd hs (List.cons_ne_nil _ _)

/-- Nor do marks come up in what is left of a text without marks. -/
theorem marks_eq_nil_of_append (h : read.Consumes) (xs : List Char) {s : List Char}
    (hs : marks read (xs ++ s) = []) : marks read s = [] := by
  induction xs with
  | nil => exact hs
  | cons c xs ih =>
    have hr : read (c :: (xs ++ s)) = none := read_eq_none_of_marks h hs
    rw [List.cons_append, marks_cons_of_none hr] at hs
    exact ih hs

theorem replaceMarks_of_none {f : α → List Char} {c : Char} {s : List Char}
    (hr : read (c :: s) = none) :
    replaceMarks read f (c :: s) = c :: replaceMarks read f s := by
  rw [replaceMarks_eq, pieces_cons_of_none hr, textOf_char, replaceMarks_eq]

theorem replaceMarks_of_some (h : read.Consumes) {f : α → List Char} {s rest : List Char} {a : α}
    (hr : read s = some (a, rest)) :
    replaceMarks read f s = f a ++ replaceMarks read f rest := by
  rw [replaceMarks_eq, pieces_of_some h hr, textOf_mark, replaceMarks_eq]

theorem replaceMarksM_of_none {ε : Type} {f : α → Except ε (List Char)} {c : Char} {s : List Char}
    (hr : read (c :: s) = none) :
    replaceMarksM read f (c :: s) = (replaceMarksM read f s).map (c :: ·) := by
  simp only [replaceMarksM, pieces_cons_of_none hr, List.mapM_cons, pure_bind]
  generalize @List.mapM (Except ε) _ _ _ _ (pieces read s) = parts
  cases parts <;> rfl

theorem replaceMarksM_of_some (h : read.Consumes) {ε : Type} {f : α → Except ε (List Char)}
    {s rest : List Char} {a : α} (hr : read s = some (a, rest)) :
    replaceMarksM read f s =
      (do let part ← f a; (replaceMarksM read f rest).map (part ++ ·)) := by
  simp only [replaceMarksM, pieces_of_some h hr, List.mapM_cons]
  cases f a with
  | error e => rfl
  | ok part =>
    generalize @List.mapM (Except ε) _ _ _ _ (pieces read rest) = parts
    cases parts <;> rfl

theorem replaceMarksM_cons_eq_ok {ε : Type} {f : α → Except ε (List Char)} {c : Char}
    {s t : List Char} (hr : read (c :: s) = none) (ht : replaceMarksM read f (c :: s) = .ok t) :
    ∃ u, replaceMarksM read f s = .ok u ∧ t = c :: u := by
  rw [replaceMarksM_of_none hr] at ht
  obtain ⟨u, hu, rfl⟩ := map_eq_ok ht
  exact ⟨u, hu, rfl⟩

theorem replaceMarksM_mark_eq_ok (h : read.Consumes) {ε : Type} {f : α → Except ε (List Char)}
    {s rest t : List Char} {a : α} (hr : read s = some (a, rest))
    (ht : replaceMarksM read f s = .ok t) :
    ∃ part u, f a = .ok part ∧ replaceMarksM read f rest = .ok u ∧ t = part ++ u := by
  rw [replaceMarksM_of_some h hr] at ht
  cases ha : f a with
  | error e =>
    rw [ha] at ht
    cases ht
  | ok part =>
    rw [ha] at ht
    obtain ⟨u, hu, rfl⟩ := map_eq_ok ht
    exact ⟨part, u, rfl, hu, rfl⟩

/-- A replacement that checks every mark before it writes fails with the first check that fails,
and otherwise writes what a replacement without checks would write. -/
theorem replaceMarksM_checked (h : read.Consumes) {ε : Type} (check : α → Except ε Unit)
    (write : α → List Char) (s : List Char) :
    replaceMarksM read (fun a => (check a).map fun _ => write a) s =
      (forM (marks read s) check).map fun _ => replaceMarks read write s := by
  induction s using h.induction with
  | nil => rfl
  | char c s hr ih =>
    rw [replaceMarksM_of_none hr, replaceMarks_of_none hr, marks_cons_of_none hr, ih]
    cases forM (marks read s) check <;> rfl
  | mark s a rest hr ih =>
    rw [replaceMarksM_of_some h hr, replaceMarks_of_some h hr, marks_of_some h hr, ih,
      List.forM_cons]
    cases check a with
    | error e => rfl
    | ok u => cases forM (marks read rest) check <;> rfl

/-- A replacement that fails does so at one of the marks. -/
theorem exists_mark_of_replaceMarksM_error (h : read.Consumes) {ε : Type}
    {f : α → Except ε (List Char)} {s : List Char} {e : ε}
    (he : replaceMarksM read f s = .error e) : ∃ a ∈ marks read s, f a = .error e := by
  induction s using h.induction with
  | nil => cases he
  | char c s hr ih =>
    rw [replaceMarksM_of_none hr] at he
    rw [marks_cons_of_none hr]
    exact ih (map_eq_error he)
  | mark s a rest hr ih =>
    rw [replaceMarksM_of_some h hr] at he
    rw [marks_of_some h hr]
    cases ha : f a with
    | error e' =>
      rw [ha] at he
      cases he
      exact ⟨a, List.mem_cons_self, ha⟩
    | ok part =>
      rw [ha] at he
      obtain ⟨b, hb, hfb⟩ := ih (map_eq_error he)
      exact ⟨b, List.mem_cons_of_mem a hb, hfb⟩

/-- Every mark is read at some place of the text, if what is left after a mark ends the text. -/
theorem exists_read_of_mem_marks (h : read.Consumes)
    (hend : ∀ s a rest, read s = some (a, rest) → rest <:+ s) {s : List Char} {a : α}
    (ha : a ∈ marks read s) : ∃ t rest, t <:+ s ∧ read t = some (a, rest) := by
  induction s using h.induction with
  | nil => cases ha
  | char c s hr ih =>
    rw [marks_cons_of_none hr] at ha
    obtain ⟨t, rest, ht, hread⟩ := ih ha
    exact ⟨t, rest, ht.trans (List.suffix_cons c s), hread⟩
  | mark s b rest hr ih =>
    rw [marks_of_some h hr] at ha
    rcases List.mem_cons.mp ha with rfl | hmem
    · exact ⟨s, rest, List.suffix_refl s, hr⟩
    · obtain ⟨t, rest', ht, hread⟩ := ih hmem
      exact ⟨t, rest', ht.trans (hend s b rest hr), hread⟩

/-- A text is long enough for all its marks, if each of them takes `n` characters or more. -/
theorem mul_length_marks_le (h : read.Consumes) {n : Nat}
    (hn : ∀ s a rest, read s = some (a, rest) → rest.length + n ≤ s.length) (s : List Char) :
    n * (marks read s).length ≤ s.length := by
  induction s using h.induction with
  | nil => simp
  | char c s hr ih =>
    rw [marks_cons_of_none hr, List.length_cons]
    omega
  | mark s a rest hr ih =>
    have hlen := hn s a rest hr
    rw [marks_of_some h hr, List.length_cons, Nat.mul_add, Nat.mul_one]
    omega

/-- Whatever is counted over a text: if every mark loses `n` of it or more, so does the text, once
for every mark. -/
theorem measure_of_replaceMarksM (h : read.Consumes) {ε : Type} {f : α → Except ε (List Char)}
    {μ : List Char → Nat} (hμ : ∀ s t, μ (s ++ t) = μ s + μ t) {n : Nat}
    (hf : ∀ s a rest part, read s = some (a, rest) → f a = .ok part →
      μ part + μ rest + n ≤ μ s) {s t : List Char}
    (ht : replaceMarksM read f s = .ok t) : μ t + n * (marks read s).length ≤ μ s := by
  induction s using h.induction generalizing t with
  | nil => cases ht; simp
  | char c s hr ih =>
    obtain ⟨u, hu, rfl⟩ := replaceMarksM_cons_eq_ok hr ht
    have hlen := ih hu
    have hs := hμ [c] s
    have hc := hμ [c] u
    simp only [List.singleton_append] at hs hc
    rw [marks_cons_of_none hr]
    omega
  | mark s a rest hr ih =>
    obtain ⟨part, u, ha, hu, rfl⟩ := replaceMarksM_mark_eq_ok h hr ht
    have hlen := ih hu
    have hpart := hf s a rest part hr ha
    rw [marks_of_some h hr, hμ, List.length_cons, Nat.mul_add, Nat.mul_one]
    omega

/-! Texts without marks. -/

section
variable {s : List Char} (hs : marks read s = [])
include hs

theorem pieces_of_marks_eq_nil : pieces read s = s.map .char := by
  induction s with
  | nil => rfl
  | cons c s ih =>
    obtain ⟨hr, hrest⟩ := marks_cons_eq_nil_iff.mp hs
    rw [pieces_cons_of_none hr, ih hrest, List.map_cons]

theorem replaceMarks_of_marks_eq_nil (f : α → List Char) : replaceMarks read f s = s := by
  rw [replaceMarks_eq, pieces_of_marks_eq_nil hs, textOf_chars]

theorem replaceMarksM_of_marks_eq_nil {ε : Type} (f : α → Except ε (List Char)) :
    replaceMarksM read f s = .ok s := by
  induction s with
  | nil => rfl
  | cons c s ih =>
    obtain ⟨hr, hrest⟩ := marks_cons_eq_nil_iff.mp hs
    rw [replaceMarksM_of_none hr, ih hrest]
    rfl

end

/-- Where one reader finds something, another one does. -/
def Reader.CoveredBy {β : Type} (read : Reader α) (other : Reader β) : Prop :=
  ∀ s, other s = none → read s = none

/-- A text without marks of the one reader has none of a reader that it covers. -/
theorem Reader.CoveredBy.marks_eq_nil {β : Type} {other : Reader β} (h : read.CoveredBy other)
    {s : List Char} (hs : marks other s = []) : marks read s = [] := by
  induction s with
  | nil => rfl
  | cons c s ih =>
    obtain ⟨hother, hrest⟩ := marks_cons_eq_nil_iff.mp hs
    exact marks_cons_eq_nil_iff.mpr ⟨h _ hother, ih hrest⟩

/-- What is read in two steps is covered by the first of them. -/
theorem Reader.coveredBy_bind {β : Type} (read : Reader α)
    (next : α × List Char → Option (β × List Char)) :
    Reader.CoveredBy (fun s => read s >>= next) read := by
  intro s hs
  show (read s >>= next) = none
  rw [hs]
  rfl

/-- A replacement without checks is one that never fails. -/
theorem replaceMarksM_ok (h : read.Consumes) {ε : Type} (f : α → List Char) (s : List Char) :
    replaceMarksM read (fun a => (.ok (f a) : Except ε (List Char))) s =
      .ok (replaceMarks read f s) := by
  induction s using h.induction with
  | nil => rfl
  | char c s hr ih =>
    rw [replaceMarksM_of_none hr, replaceMarks_of_none hr, ih]
    rfl
  | mark s a rest hr ih =>
    rw [replaceMarksM_of_some h hr, replaceMarks_of_some h hr, ih]
    rfl

/-- A replacement writes one text for another, whatever follows. -/
def Rewrites (read : Reader α) {ε : Type} (f : α → Except ε (List Char)) (s t : List Char) : Prop :=
  ∀ rest, replaceMarksM read f (s ++ rest) = (replaceMarksM read f rest).map (t ++ ·)

namespace Rewrites
variable {ε : Type} {f : α → Except ε (List Char)} {s s' t t' : List Char}

theorem nil : Rewrites read f [] [] := by
  intro rest
  cases h : replaceMarksM read f rest <;> simp [h, Except.map]

theorem append (h : Rewrites read f s t) (h' : Rewrites read f s' t') :
    Rewrites read f (s ++ s') (t ++ t') := by
  intro rest
  rw [List.append_assoc, h, h']
  cases replaceMarksM read f rest <;> simp [Except.map]

/-- A character stays where no mark can begin. -/
theorem cons {c : Char} (hc : ∀ rest, read (c :: (s ++ rest)) = none) (h : Rewrites read f s t) :
    Rewrites read f (c :: s) (c :: t) := by
  intro rest
  rw [List.cons_append, replaceMarksM_of_none (hc rest), h]
  cases replaceMarksM read f rest <;> rfl

/-- So does a text of such characters. -/
theorem same (h : ∀ c ∈ s, ∀ rest, read (c :: rest) = none) : Rewrites read f s s := by
  induction s with
  | nil => exact nil
  | cons c s ih =>
    obtain ⟨hc, hs⟩ := List.forall_mem_cons.mp h
    exact cons (fun rest => hc _) (ih hs)

theorem mark (hread : read.Consumes) {a : α} (hr : ∀ rest, read (s ++ rest) = some (a, rest))
    (ha : f a = .ok t) : Rewrites read f s t := by
  intro rest
  rw [replaceMarksM_of_some hread (hr rest), ha]
  rfl

theorem eq_ok (h : Rewrites read f s t) : replaceMarksM read f s = .ok t := by
  have hs := h []
  have hnil : replaceMarksM read f [] = .ok [] := rfl
  rw [List.append_nil, hnil] at hs
  simpa [Except.map] using hs

end Rewrites

/-- What a replacement without checks writes. -/
theorem Rewrites.eq (hread : read.Consumes) {ε : Type} {f : α → List Char} {s t : List Char}
    (h : Rewrites read (fun a => (.ok (f a) : Except ε (List Char))) s t) :
    replaceMarks read f s = t := by
  have hs := h.eq_ok
  rw [replaceMarksM_ok hread] at hs
  exact Except.ok.inj hs

end

end DialogueMarkup.Text
