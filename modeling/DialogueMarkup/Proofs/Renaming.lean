import DialogueMarkup.Proofs.Settling
import DialogueMarkup.Text.Alphabetic

/-! Texts with their signs renamed. Ten characters may serve as the escape character and mean
nothing else to any reader; a renaming moves them among themselves. A class that holds all of them
or none does not notice, so what a reader finds in a renamed text is what it finds in the text,
renamed. -/
namespace DialogueMarkup
open Text Markup

/-- The characters that can be the escape character and have no other use. -/
def escapeSigns : List Char := ['\\', '#', '~', '$', '%', '&', '*', '|', '/', '?']

/-- A map of characters that moves signs among themselves and nothing else. -/
structure Renaming (φ : Char → Char) : Prop where
  sign : ∀ c ∈ escapeSigns, φ c ∈ escapeSigns
  other : ∀ c, c ∉ escapeSigns → φ c = c

/-- What is said of every member of a list is decided member by member, also where all characters
could be gone through. -/
instance (priority := high) decidableForallMem {α : Type} (xs : List α) (p : α → Prop)
    [DecidablePred p] : Decidable (∀ c ∈ xs, p c) :=
  List.decidableBAll p xs

/-- A sign has no case. -/
theorem caseless_of_mem_escapeSigns {x : Char} (hx : x ∈ escapeSigns) : Caseless x := by
  have hkey : ∀ x ∈ escapeSigns, caseKey x = x := by decide
  have hsmall : ∀ x ∈ escapeSigns, x.toNat < 97 ∨ 122 < x.toNat := by decide
  have hzero : ∀ x ∈ escapeSigns, x ≠ '\x00' := by decide
  have hshared : ∀ p ∈ sharedCapitals, ∀ x ∈ escapeSigns, p.2 ≠ x.toNat :=
    forall_mem_of_all (by decide)
  have hreached : ∀ r ∈ smallRuns, ∀ x ∈ escapeSigns,
      x.toNat < r.target ∨ r.target + (r.last - r.first) < x.toNat :=
    forall_mem_of_all (by decide)
  have hascii : ∀ n ∈ List.range 128, ∀ x ∈ escapeSigns,
      (Char.ofNat n).toUpper = x → Char.ofNat n = x := forall_mem_of_all (by decide)
  have hlong : ∀ p ∈ longCapitals, ∀ x ∈ escapeSigns, x.toNat ∉ p.2 :=
    forall_mem_of_all (by decide)
  have hrun : ∀ r ∈ capitalRuns, ∀ x ∈ escapeSigns,
      x.toNat < r.target ∨ r.target + (r.last - r.first) < x.toNat :=
    forall_mem_of_all (by decide)
  have hdot : ∀ x ∈ escapeSigns, x ≠ '\u0307' := by decide
  exact ⟨⟨hkey x hx, hsmall x hx, hzero x hx, fun p hp => hshared p hp x hx,
      fun r hr => hreached r hr x hx⟩,
    fun n hn => hascii n hn x hx, fun p hp => hlong p hp x hx, fun r hr => hrun r hr x hx,
    hdot x hx⟩

theorem escapeSigns_alone {x c : Char} (hx : x ∈ escapeSigns) (h : sameLetter x c = true) : c = x :=
  (caseless_of_mem_escapeSigns hx).alone c h

namespace Renaming
variable {φ : Char → Char} (hφ : Renaming φ)
include hφ

/-- What is the same for all signs is the same for a character and the one it is renamed to. -/
theorem class_eq {α : Type} {p : Char → α} (h : ∀ c ∈ escapeSigns, p c = p '\\') (c : Char) :
    p (φ c) = p c := by
  by_cases hc : c ∈ escapeSigns
  · rw [h _ (hφ.sign c hc), h c hc]
  · rw [hφ.other c hc]

/-- A renamed character is one that is no sign only if it was that one before. -/
theorem eq_iff {d : Char} (hd : d ∉ escapeSigns) (c : Char) : φ c = d ↔ c = d := by
  have hclass : decide (φ c = d) = decide (c = d) := by
    apply hφ.class_eq (p := fun c => decide (c = d))
    intro x hx
    have hne : x ≠ d := fun h => hd (h ▸ hx)
    have hne' : '\\' ≠ d := fun h => hd (h ▸ by decide)
    simp [hne, hne']
  exact decide_eq_decide.mp hclass

section
variable {p : Char → Bool} (hp : ∀ c ∈ escapeSigns, p c = p '\\') (s : List Char)
include hp

theorem takeWhile_map : (s.map φ).takeWhile p = (s.takeWhile p).map φ := by
  rw [List.takeWhile_map]
  congr 1
  exact congrArg (fun q => s.takeWhile q) (funext fun c => hφ.class_eq hp c)

theorem dropWhile_map : (s.map φ).dropWhile p = (s.dropWhile p).map φ := by
  rw [List.dropWhile_map]
  congr 1
  exact congrArg (fun q => s.dropWhile q) (funext fun c => hφ.class_eq hp c)

theorem all_map : (s.map φ).all p = s.all p := by
  rw [List.all_map]
  exact congrArg (fun q => s.all q) (funext fun c => hφ.class_eq hp c)

theorem head?_any_map : (s.map φ).head?.any p = s.head?.any p := by
  cases s with
  | nil => rfl
  | cons c s => exact hφ.class_eq hp c

theorem filter_map : (s.map φ).filter p = (s.filter p).map φ := by
  rw [List.filter_map]
  congr 1
  exact congrArg (fun q => s.filter q) (funext fun c => hφ.class_eq hp c)

end

theorem filterMap_map {α : Type} {f : Char → Option α} (hf : ∀ c ∈ escapeSigns, f c = f '\\')
    (s : List Char) : (s.map φ).filterMap f = s.filterMap f := by
  rw [List.filterMap_map]
  exact congrArg (fun g => s.filterMap g) (funext fun c => hφ.class_eq hf c)

/-- A text without signs is not renamed. -/
theorem map_eq_self {s : List Char} (h : ∀ c ∈ s, c ∉ escapeSigns) : s.map φ = s := by
  rw [List.map_congr_left fun c hc => hφ.other c (h c hc), List.map_id']

/-- Nor is a text of a class that holds no sign. -/
theorem map_eq_self_of_all {p : Char → Bool} (hp : ∀ c ∈ escapeSigns, p c = false) {s : List Char}
    (h : ∀ c ∈ s, p c = true) : s.map φ = s := by
  apply hφ.map_eq_self
  intro c hc hsign
  have hfalse := hp c hsign
  rw [h c hc] at hfalse
  cases hfalse

/-- Nor is a numeral, or a word for a number. -/
theorem map_eq_self_of_isNumeric {s : List Char} (h : English.isNumeric s = true) :
    s.map φ = s :=
  hφ.map_eq_self_of_all (p := fun c => c.isAlphanum || c == '-') (by decide)
    (List.all_eq_true.mp (Bool.and_eq_true_iff.mp h).2)

theorem trimLeft_map (s : List Char) : trimLeft (s.map φ) = (trimLeft s).map φ :=
  hφ.dropWhile_map (by decide) s

theorem trim_map (s : List Char) : trim (s.map φ) = (trim s).map φ := by
  have hblank : ∀ c ∈ escapeSigns, isBlank c = isBlank '\\' := by decide
  simp only [trim, trimOf, hφ.dropWhile_map hblank, ← List.map_reverse]

/-! Folding the case of a renamed text. -/

/-- A character that folds into no sign folds alike when it is renamed. -/
theorem fold_eq {fold : Char → List Char} (hsign : ∀ x ∈ escapeSigns, fold x = [x])
    (hother : ∀ x ∈ escapeSigns, ∀ c, x ∈ fold c → c = x) (c : Char) :
    fold (φ c) = (fold c).map φ := by
  by_cases hc : c ∈ escapeSigns
  · rw [hsign _ (hφ.sign c hc), hsign c hc]
    rfl
  · -- a sign among what the character folds into would be the character itself
    rw [hφ.other c hc]
    refine (hφ.map_eq_self fun x hx hxsign => hc ?_).symm
    rw [hother x hxsign c hx]
    exact hxsign

theorem upperChar_eq (c : Char) : upperChar (φ c) = (upperChar c).map φ :=
  hφ.fold_eq (by decide) (fun _ hx _ h => (caseless_of_mem_escapeSigns hx).eq_of_mem_upperChar h) c

theorem lowerChar_eq (c : Char) : lowerChar (φ c) = (lowerChar c).map φ :=
  hφ.fold_eq (by decide) (fun _ hx _ h => (caseless_of_mem_escapeSigns hx).eq_of_mem_lowerChar h) c

theorem upper_map (s : List Char) : upper (s.map φ) = (upper s).map φ := by
  simp only [upper, List.flatMap_map, hφ.upperChar_eq, List.map_flatMap]

theorem meetsCased_map (s : List Char) : meetsCased (s.map φ) = meetsCased s := by
  rw [meetsCased, hφ.dropWhile_map (by decide), meetsCased]
  cases s.dropWhile isCaseIgnorable with
  | nil => rfl
  | cons c s => exact hφ.class_eq (p := isCased) (by decide) c

theorem lowerAfter_map (before s : List Char) :
    lowerAfter (before.map φ) (s.map φ) = (lowerAfter before s).map φ := by
  induction s generalizing before with
  | nil => rfl
  | cons c s ih =>
    have hrest := ih (c :: before)
    rw [List.map_cons] at hrest
    have hfinal : isFinalSigma (before.map φ) (s.map φ) = isFinalSigma before s := by
      rw [isFinalSigma, hφ.meetsCased_map, hφ.meetsCased_map, isFinalSigma]
    simp only [List.map_cons, lowerAfter, hrest, hfinal, hφ.eq_iff (d := 'Σ') (by decide),
      List.map_append]
    congr 1
    split
    · -- both small sigmas are no signs
      split
      · exact congrArg List.singleton (hφ.other 'ς' (by decide)).symm
      · exact congrArg List.singleton (hφ.other 'σ' (by decide)).symm
    · exact hφ.lowerChar_eq c

theorem lower_map (s : List Char) : lower (s.map φ) = (lower s).map φ := hφ.lowerAfter_map [] s

end Renaming

/-! Words, which hold no sign. -/

/-- A word none of whose letters is the same as a sign. -/
def Signless (word : List Char) : Prop := ∀ w ∈ word, ∀ x ∈ escapeSigns, sameLetter w x = false

instance (word : List Char) : Decidable (Signless word) :=
  inferInstanceAs (Decidable (∀ w ∈ word, ∀ x ∈ escapeSigns, sameLetter w x = false))

/-- What is split off a text, renamed, with the rest. -/
def renamedRead {α β : Type} (φ : Char → Char) (g : α → β) (r : α × List Char) : β × List Char :=
  (g r.1, r.2.map φ)

namespace Renaming
variable {φ : Char → Char} (hφ : Renaming φ)
include hφ

theorem readWord_map {word : List Char} (hword : Signless word) (s : List Char) :
    readWord word (s.map φ) = (readWord word s).map (renamedRead φ (List.map φ)) := by
  induction word generalizing s with
  | nil => simp [readWord, renamedRead]
  | cons w word ih =>
    obtain ⟨hw, hword⟩ := List.forall_mem_cons.mp hword
    cases s with
    | nil => rfl
    | cons c s =>
      have hsame : sameLetter w (φ c) = sameLetter w c :=
        hφ.class_eq (p := sameLetter w) (fun x hx => by rw [hw x hx, hw '\\' (by decide)]) c
      rw [List.map_cons, readWord, readWord, hsame, ih hword s]
      split
      · rw [Option.map_map, Option.map_map]
        rfl
      · rfl

end Renaming

namespace Text
variable {α β γ ε : Type} {φ : Char → Char} {g : α → β} {read : Reader α} {read' : Reader β}

/-- A reader finds in a renamed text what another one finds in the text, renamed. -/
def Reader.Renamed (φ : Char → Char) (g : α → β) (read : Reader α) (read' : Reader β) : Prop :=
  ∀ s, read' (s.map φ) = (read s).map (renamedRead φ g)

/-- A piece of a text, renamed. -/
def Piece.renamed (φ : Char → Char) (g : α → β) : Piece α → Piece β
  | .char c => .char (φ c)
  | .mark a => .mark (g a)

/-- One computation after another, each of which does on what is renamed what it did. -/
theorem bind_renamed {δ : Type} {x : Option α} {x' : Option β} {f : α → Option γ}
    {f' : β → Option δ} {h : γ → δ} (hx : x' = x.map g) (hf : ∀ a, f' (g a) = (f a).map h) :
    x'.bind f' = (x.bind f).map h := by
  subst hx
  cases x with
  | none => rfl
  | some a => exact hf a

/-- The first of two answers. -/
theorem orElse_renamed {x y : Option α} {x' y' : Option β} (hx : x' = x.map g)
    (hy : y' = y.map g) : (x' <|> y') = (x <|> y).map g := by
  subst hx hy
  cases x <;> rfl

/-- The first answer of many. -/
theorem findSome?_renamed {names : List γ} {f : γ → Option α} {f' : γ → Option β}
    (h : ∀ name ∈ names, f' name = (f name).map g) :
    names.findSome? f' = (names.findSome? f).map g := by
  induction names with
  | nil => rfl
  | cons name names ih =>
    obtain ⟨hname, h⟩ := List.forall_mem_cons.mp h
    rw [List.findSome?_cons, List.findSome?_cons, hname]
    cases f name with
    | none => exact ih h
    | some a => rfl

section
variable (h : Reader.Renamed φ g read read')
include h

theorem Reader.Renamed.cuts_eq (n : Nat) (s : List Char) :
    cuts read' n (s.map φ) = (cuts read n s).map (Piece.renamed φ g) := by
  -- along the cuts: the text behind a mark is renamed like the text behind a character
  induction n generalizing s with
  | zero => cases s <;> rfl
  | succ n ih =>
    cases s with
    | nil => rfl
    | cons c s =>
      have hfront := h (c :: s)
      rw [List.map_cons] at hfront
      rw [List.map_cons, cuts, cuts, hfront]
      cases read (c :: s) with
      | none => exact congrArg (Piece.char (φ c) :: ·) (ih s)
      | some r => exact congrArg (Piece.mark (g r.1) :: ·) (ih r.2)

theorem Reader.Renamed.pieces_eq (s : List Char) :
    pieces read' (s.map φ) = (pieces read s).map (Piece.renamed φ g) := by
  rw [pieces, List.length_map, h.cuts_eq, pieces]

theorem Reader.Renamed.marks_eq (s : List Char) :
    marks read' (s.map φ) = (marks read s).map g := by
  rw [marks, h.pieces_eq, marks, List.filterMap_map, List.map_filterMap]
  congr 1
  funext p
  cases p <;> rfl

theorem Reader.Renamed.replaceMarks_eq {f : α → List Char} {f' : β → List Char}
    (hf : ∀ a, f' (g a) = (f a).map φ) (s : List Char) :
    replaceMarks read' f' (s.map φ) = (replaceMarks read f s).map φ := by
  rw [replaceMarks, h.pieces_eq, replaceMarks, List.flatMap_map, List.map_flatMap]
  congr 1
  funext p
  cases p with
  | char c => rfl
  | mark a => exact hf a

end

/-- An outcome with its text and its fault renamed. -/
def renamedOutcome {ε' : Type} (k : ε → ε') (g : α → β) : Except ε α → Except ε' β
  | .ok a => .ok (g a)
  | .error fault => .error (k fault)

theorem bind_renamedOutcome {ε' δ : Type} {k : ε → ε'} {h : γ → δ} {x : Except ε α}
    {x' : Except ε' β} {f : α → Except ε γ} {f' : β → Except ε' δ}
    (hx : x' = renamedOutcome k g x) (hf : ∀ a, x = .ok a → f' (g a) = renamedOutcome k h (f a)) :
    (x' >>= f') = renamedOutcome k h (x >>= f) := by
  subst hx
  cases x with
  | error fault => rfl
  | ok a => exact hf a rfl

theorem mapM_renamedOutcome {ε' δ : Type} {k : ε → ε'} {h : γ → δ} {f : α → Except ε γ}
    {f' : β → Except ε' δ} (hf : ∀ a, f' (g a) = renamedOutcome k h (f a)) (xs : List α) :
    (xs.map g).mapM f' = renamedOutcome k (List.map h) (xs.mapM f) := by
  induction xs with
  | nil => rfl
  | cons a xs ih =>
    rw [List.map_cons, List.mapM_cons, List.mapM_cons]
    refine bind_renamedOutcome (hf a) fun y _ => ?_
    exact bind_renamedOutcome ih fun ys _ => rfl

theorem Reader.Renamed.replaceMarksM_eq {ε' : Type} {k : ε → ε'}
    (h : Reader.Renamed φ g read read') {f : α → Except ε (List Char)}
    {f' : β → Except ε' (List Char)}
    (hf : ∀ a, f' (g a) = renamedOutcome k (List.map φ) (f a)) (s : List Char) :
    replaceMarksM read' f' (s.map φ) =
      renamedOutcome k (List.map φ) (replaceMarksM read f s) := by
  rw [replaceMarksM, h.pieces_eq, replaceMarksM]
  refine bind_renamedOutcome (mapM_renamedOutcome (h := List.map φ) (fun p => ?_) _)
    fun parts _ => ?_
  · cases p with
    | char c => rfl
    | mark a => exact hf a
  · exact congrArg Except.ok List.map_flatten.symm

end Text
end DialogueMarkup
