import DialogueMarkup.English.Article
import DialogueMarkup.Proofs.Casing
import DialogueMarkup.Proofs.Trimming

/-! The judgement on the beginning of a word goes no further than a character at which words break:
whatever stands behind that one, and which of these characters it is, makes no difference. -/
namespace DialogueMarkup.English
open Text

/-- A character at which words break: no digit, comma or letter, and none across which a sigma is
judged. -/
structure Break (x : Char) : Prop where
  not_decimal : isDecimal x = false
  ne_comma : x ≠ ','
  not_uppercase : isUppercase x = false
  not_alphabetic : isAlphabetic x = false
  not_cased : isCased x = false
  not_ignorable : isCaseIgnorable x = false
  ne_sigma : x ≠ 'Σ'
  small : lowerChar x = [x]

theorem break_of_isMark {x : Char} (h : isMark x = true) : Break x := by
  rcases isMark_iff.mp h with rfl | rfl | rfl
  all_goals exact ⟨by decide, by decide, by decide, by decide, by decide, by decide, by decide,
    by decide⟩

/-! What is spoken of a word. -/

theorem spokenPart_of_not_blank {w : List Char} (h : ∀ c ∈ w, isBlank c = false) :
    spokenPart w = w.dropWhile fun c => !isWordCharacter c :=
  trim_of_not_blank fun c hc => h c ((List.dropWhile_suffix _).subset hc)

/-- A word that begins with a letter or a digit is spoken from its beginning. -/
theorem spokenPart_append {c : Char} {v : List Char} (hc : isWordCharacter c = true)
    (hv : ∀ d ∈ c :: v, isBlank d = false) (rest : List Char) :
    spokenPart (c :: v ++ rest) = c :: v ++ trimRight rest := by
  have hfirst : (c :: v ++ rest).dropWhile (fun d => !isWordCharacter d) = c :: v ++ rest := by
    simp [hc]
  rw [spokenPart, hfirst, trim_append (List.cons_ne_nil c v) hv]

/-! Words in front of a break. -/

theorem takeWhile_append_of_neg {p : Char → Bool} {x : Char} (hx : p x = false) (v r : List Char) :
    (v ++ x :: r).takeWhile p = v.takeWhile p := by
  induction v with
  | nil => simp [hx]
  | cons c v ih => simp only [List.cons_append, List.takeWhile_cons, ih]

theorem isPrefixOf_append_of_not_mem {x : Char} {w : List Char} (hx : x ∉ w) (v r : List Char) :
    w.isPrefixOf (v ++ x :: r) = w.isPrefixOf v := by
  induction w generalizing v with
  | nil => simp
  | cons a w ih =>
    simp only [List.mem_cons, not_or] at hx
    cases v with
    | nil => simp [List.isPrefixOf, Ne.symm hx.1]
    | cons b v => simp [List.isPrefixOf, ih hx.2]

section
variable {x : Char} (hx : isAlphabetic x = false)
include hx

theorem beginsWith_append (beginning : String) (h : beginning.toList.all isAlphabetic = true)
    (v r : List Char) : beginsWith beginning (v ++ x :: r) = beginsWith beginning v := by
  apply isPrefixOf_append_of_not_mem
  intro hmem
  have halphabetic := List.all_eq_true.mp h x hmem
  rw [hx] at halphabetic
  cases halphabetic

theorem any_beginsWith_append (beginnings : List String)
    (h : (beginnings.all fun b => b.toList.all isAlphabetic) = true) (v r : List Char) :
    (beginnings.any fun b => beginsWith b (v ++ x :: r)) =
      beginnings.any fun b => beginsWith b v := by
  induction beginnings with
  | nil => rfl
  | cons b beginnings ih =>
    rw [List.all_cons, Bool.and_eq_true] at h
    rw [List.any_cons, List.any_cons, beginsWith_append hx b h.1, ih h.2]

theorem not_small_of_not_alphabetic : (decide ('a' ≤ x) && decide (x ≤ 'z')) = false := by
  rw [Bool.eq_false_iff]
  intro hsmall
  simp only [Bool.and_eq_true, decide_eq_true_eq, Char.le_def, UInt32.le_iff_toNat_le] at hsmall
  have hbounds : 97 ≤ x.toNat ∧ x.toNat ≤ 122 := hsmall
  have hall : ∀ n ∈ List.range' 97 26, isAlphabetic (Char.ofNat n) = true := by decide
  have hmem : x.toNat ∈ List.range' 97 26 := by
    rw [List.mem_range'_1]
    omega
  have hletter := hall _ hmem
  rw [Char.ofNat_toNat, hx] at hletter
  cases hletter

end

section
variable {x : Char} (hx : Break x)
include hx

theorem Break.meetsCased (u r : List Char) :
    Text.meetsCased (u ++ x :: r) = Text.meetsCased u := by
  induction u with
  | nil => simp [Text.meetsCased, hx.not_ignorable, hx.not_cased]
  | cons c u ih =>
    unfold Text.meetsCased at ih ⊢
    cases hc : isCaseIgnorable c with
    | true => simpa [hc] using ih
    | false => simp [hc]

/-- Small forms in front of a break do not depend on what stands behind it. -/
theorem Break.lowerAfter (before u r : List Char) :
    ∃ t, Text.lowerAfter before (u ++ x :: r) = Text.lowerAfter before u ++ x :: t := by
  induction u generalizing before with
  | nil =>
    refine ⟨Text.lowerAfter (x :: before) r, ?_⟩
    simp [Text.lowerAfter, hx.ne_sigma, hx.small]
  | cons c u ih =>
    obtain ⟨t, ht⟩ := ih (c :: before)
    refine ⟨t, ?_⟩
    have hsigma : isFinalSigma before (u ++ x :: r) = isFinalSigma before u := by
      rw [isFinalSigma, hx.meetsCased, isFinalSigma]
    simp [Text.lowerAfter, ht, hsigma]

end

theorem lower_ne_nil (c : Char) (s : List Char) : lower (c :: s) ≠ [] := by
  intro hnil
  have h := folded_lowerAfter [] (c :: s)
  rw [show lowerAfter [] (c :: s) = [] from hnil] at h
  generalize ht : ([] : List Char) = t at h
  obtain @⟨⟩ | @⟨_, xs, _, t, hc, -⟩ := h
  exact hc.ne_nil (List.append_eq_nil_iff.mp ht.symm).1

/-! The judgement. -/

theorem spellingBeginsWithVowel_cons (c : Char) (s : List Char) :
    spellingBeginsWithVowel (c :: s) =
      if c = 'a' ∨ c = 'e' ∨ c = 'i' then true
      else if c = 'o' then
        (c :: s).takeWhile (fun c => 'a' ≤ c && c ≤ 'z') != "one".toList &&
          !beginsWith "oui" (c :: s)
      else if c = 'u' then
        beginsWith "unidentif" (c :: s) || !yooBeginnings.any (beginsWith · (c :: s))
      else if c = 'y' then s.head?.any fun d => isAlphabetic d && !"aeiou".toList.contains d
      else if c = 'h' then silentAitchBeginnings.any (beginsWith · (c :: s))
      else false := by
  unfold spellingBeginsWithVowel
  cases s with
  | nil => split <;> simp_all
  | cons d s => split <;> simp_all

theorem spokenBeginsWithVowel_cons_cons (c d : Char) (s : List Char) :
    spokenBeginsWithVowel (c :: d :: s) =
      if isDecimal c then
        numeralBeginsWithVowel
          ((c :: (d :: s).takeWhile fun d => isDecimal d || d == ',').filter (· != ','))
      else if isUppercase d then letterBeginsWithVowel c
      else spellingBeginsWithVowel (lower (c :: d :: s)) := rfl

/-- A word that begins with a digit is judged by its digits, commas between them left out. -/
theorem spokenBeginsWithVowel_of_isDecimal {c : Char} (hc : isDecimal c = true) (s : List Char) :
    spokenBeginsWithVowel (c :: s) = numeralBeginsWithVowel
      ((c :: s.takeWhile fun d => isDecimal d || d == ',').filter (· != ',')) := by
  cases s with
  | nil => simp [spokenBeginsWithVowel, hc]
  | cons d s => rw [spokenBeginsWithVowel_cons_cons, if_pos hc]

/-- A word is judged by its spelling up to the first character that is no letter. -/
theorem spellingBeginsWithVowel_append {x : Char} (hx : isAlphabetic x = false) {v : List Char}
    (hv : v ≠ []) (r : List Char) :
    spellingBeginsWithVowel (v ++ x :: r) = spellingBeginsWithVowel v := by
  have hletters := takeWhile_append_of_neg (p := fun c => 'a' ≤ c && c ≤ 'z')
    (not_small_of_not_alphabetic hx) v r
  have houi := beginsWith_append hx "oui" (by decide) v r
  have hunidentif := beginsWith_append hx "unidentif" (by decide) v r
  have hyoo := any_beginsWith_append hx yooBeginnings (by decide) v r
  have hsilent := any_beginsWith_append hx silentAitchBeginnings (by decide) v r
  obtain ⟨c, v, rfl⟩ := List.exists_cons_of_ne_nil hv
  have hnext : ((v ++ x :: r).head?.any fun d => isAlphabetic d && !"aeiou".toList.contains d) =
      v.head?.any fun d => isAlphabetic d && !"aeiou".toList.contains d := by
    cases v with
    | nil => simp [hx]
    | cons d v => rfl
  rw [List.cons_append] at hletters houi hunidentif hyoo hsilent ⊢
  rw [spellingBeginsWithVowel_cons, spellingBeginsWithVowel_cons, hletters, houi, hunidentif, hyoo,
    hsilent, hnext]

section
variable {x : Char} (hx : Break x)
include hx

/-- What is judged is what stands in front of the break. -/
theorem Break.spoken (c : Char) (p r : List Char) :
    spokenBeginsWithVowel (c :: (p ++ x :: r)) =
      if isDecimal c then
        numeralBeginsWithVowel
          ((c :: p.takeWhile fun d => isDecimal d || d == ',').filter (· != ','))
      else if p.head?.any isUppercase then letterBeginsWithVowel c
      else spellingBeginsWithVowel (lower (c :: p)) := by
  have hdigits : (p ++ x :: r).takeWhile (fun d => isDecimal d || d == ',') =
      p.takeWhile fun d => isDecimal d || d == ',' :=
    takeWhile_append_of_neg (by simp [hx.not_decimal, hx.ne_comma]) p r
  have hsmall : spellingBeginsWithVowel (lower (c :: (p ++ x :: r))) =
      spellingBeginsWithVowel (lower (c :: p)) := by
    obtain ⟨t, ht⟩ := hx.lowerAfter [] (c :: p) r
    have hlower : lower (c :: (p ++ x :: r)) = lower (c :: p) ++ x :: t := ht
    rw [hlower, spellingBeginsWithVowel_append hx.not_alphabetic (lower_ne_nil c p)]
  cases p with
  | nil =>
    rw [List.nil_append] at hdigits hsmall ⊢
    rw [spokenBeginsWithVowel_cons_cons, hdigits, hsmall, hx.not_uppercase]
    rfl
  | cons d p =>
    rw [List.cons_append] at hdigits hsmall ⊢
    rw [spokenBeginsWithVowel_cons_cons, hdigits, hsmall]
    rfl

end

end DialogueMarkup.English
