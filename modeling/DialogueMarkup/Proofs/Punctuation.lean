import DialogueMarkup.Proofs.PlainAscii
import DialogueMarkup.Proofs.Vowels

/-! Punctuation around a word. Marks in front of a word are not spoken. Marks behind it make no
difference to the judgement on a number, an abbreviation or a word of two letters and more. But a
letter that stands alone is judged by its name, and with a mark behind it no longer stands alone:
then it is judged by its spelling, with another result for nine letters. -/
namespace DialogueMarkup.English
open Text Markup

/-- Marks that stand in front of words and behind them. -/
def punctuation : List Char :=
  ['.', ',', ';', ':', '!', '?', ')', '(', ']', '[', '\x27', '\x22', '-']

/-- Capitals of the letters on which name and spelling do not agree. -/
def misleadingLetters : List Char := "FHLMNRSUX".toList

theorem punctuation_facts : ∀ x ∈ punctuation, x.toNat < 128 ∧ isWordCharacter x = false ∧
    isBlank x = false ∧ isDecimal x = false ∧ isUppercase x = false ∧ isAlphabetic x = false ∧
    x.toLower = x := by decide

section
variable {c : Char} (hc : c.isAlphanum = true)
include hc

theorem toNat_lt_of_isAlphanum : c.toNat < 128 := by
  rcases Bool.or_eq_true_iff.mp hc with halpha | hdigit
  · have hrange := toNat_of_isAlpha halpha
    omega
  · have hrange := Numeral.toNat_of_isDigit hdigit
    omega

theorem isWordCharacter_of_isAlphanum : isWordCharacter c = true ∧ isBlank c = false :=
  of_ascii (p := fun c => c.isAlphanum = true → isWordCharacter c = true ∧ isBlank c = false)
    (toNat_lt_of_isAlphanum hc) (forall_mem_of_all (by decide)) hc

end

/-- The letters on which name and spelling do not agree. -/
theorem spellingBeginsWithVowel_eq_iff {c : Char} (hc : c.isAlphanum = true)
    (hletter : isDecimal c = false) :
    spellingBeginsWithVowel [c.toLower] = letterBeginsWithVowel c ↔
      c.toUpper ∉ misleadingLetters :=
  of_ascii (p := fun c => c.isAlphanum = true → isDecimal c = false →
      (spellingBeginsWithVowel [c.toLower] = letterBeginsWithVowel c ↔
        c.toUpper ∉ misleadingLetters))
    (toNat_lt_of_isAlphanum hc) (forall_mem_of_all (by decide)) hc hletter

/-! The parts of the judgement. -/

/-- Marks in front of a word are not spoken. -/
theorem spokenPart_punctuated {p w q : List Char} (hw : w ≠ [])
    (hletters : ∀ c ∈ w, c.isAlphanum = true) (hp : ∀ x ∈ p, x ∈ punctuation)
    (hq : ∀ x ∈ q, x ∈ punctuation) : spokenPart (p ++ (w ++ q)) = w ++ q := by
  have hblank : ∀ c ∈ p ++ (w ++ q), isBlank c = false := by
    simp only [List.mem_append]
    rintro c (hc | hc | hc)
    · exact (punctuation_facts c (hp c hc)).2.2.1
    · exact (isWordCharacter_of_isAlphanum (hletters c hc)).2
    · exact (punctuation_facts c (hq c hc)).2.2.1
  have hmarks : ∀ x ∈ p, (!isWordCharacter x) = true := by
    intro x hx
    rw [(punctuation_facts x (hp x hx)).2.1, Bool.not_false]
  obtain ⟨c, v, rfl⟩ := List.exists_cons_of_ne_nil hw
  have hfirst := (isWordCharacter_of_isAlphanum (hletters c List.mem_cons_self)).1
  rw [spokenPart_of_not_blank hblank, List.dropWhile_append_of_pos hmarks, List.cons_append,
    List.dropWhile_cons_of_neg (by rw [hfirst]; decide)]

/-- Commas behind the digits of a number do not count. -/
theorem filter_takeWhile_append {q : List Char} (hq : ∀ x ∈ q, isDecimal x = false)
    (v : List Char) :
    ((v ++ q).takeWhile fun d => isDecimal d || d == ',').filter (· != ',') =
      (v.takeWhile fun d => isDecimal d || d == ',').filter (· != ',') := by
  induction v with
  | nil =>
    rw [List.nil_append, List.takeWhile_nil, List.filter_nil, List.filter_eq_nil_iff]
    intro x hx
    have hclass := of_mem_takeWhile (fun d => isDecimal d || d == ',') q x hx
    rw [hq x ((List.takeWhile_sublist _).subset hx), Bool.false_or, beq_iff_eq] at hclass
    simp [hclass]
  | cons c v ih =>
    rw [List.cons_append, List.takeWhile_cons, List.takeWhile_cons]
    split
    · rw [List.filter_cons, List.filter_cons, ih]
    · rfl

section
variable {w : List Char} (hletters : ∀ c ∈ w, c.isAlphanum = true) {x : Char} {r : List Char}
  (hq : ∀ y ∈ x :: r, y ∈ punctuation)
include hletters hq

/-- A word is judged by its spelling as if no marks stood behind it. -/
theorem spellingBeginsWithVowel_punctuated (hw : w ≠ []) :
    spellingBeginsWithVowel (lower (w ++ x :: r)) = spellingBeginsWithVowel (lower w) := by
  have hword : ∀ c ∈ w, c.toNat < 128 := fun c hc => toNat_lt_of_isAlphanum (hletters c hc)
  have hmarks : ∀ c ∈ x :: r, c.toNat < 128 := fun c hc => (punctuation_facts c (hq c hc)).1
  obtain ⟨-, -, -, -, -, halphabetic, hsmall⟩ := punctuation_facts x (hq x List.mem_cons_self)
  calc spellingBeginsWithVowel (lower (w ++ x :: r))
      = spellingBeginsWithVowel (w.map Char.toLower ++ x :: r.map Char.toLower) := by
        rw [lower_of_ascii (List.forall_mem_append.mpr ⟨hword, hmarks⟩), List.map_append,
          List.map_cons, hsmall]
    _ = spellingBeginsWithVowel (lower w) := by
        rw [spellingBeginsWithVowel_append halphabetic (by simpa using hw), lower_of_ascii hword]

/-- With marks behind it a word is judged as without them, unless it is a letter that stands
alone. -/
theorem spokenBeginsWithVowel_punctuated (hw : w ≠ []) :
    spokenBeginsWithVowel (w ++ x :: r) = spokenBeginsWithVowel w ↔
      ∀ c, w = [c] → c.toUpper ∉ misleadingLetters := by
  have hspelling := spellingBeginsWithVowel_punctuated hletters hq hw
  have hdecimal : ∀ y ∈ x :: r, isDecimal y = false :=
    fun y hy => (punctuation_facts y (hq y hy)).2.2.2.1
  obtain ⟨-, -, -, -, hcapital, -⟩ := punctuation_facts x (hq x List.mem_cons_self)
  obtain ⟨c, v, rfl⟩ := List.exists_cons_of_ne_nil hw
  have hc := hletters c List.mem_cons_self
  rw [List.cons_append] at hspelling ⊢
  cases hdigit : isDecimal c with
  | true =>
    -- a number is judged by its digits
    have hsame : spokenBeginsWithVowel (c :: (v ++ x :: r)) = spokenBeginsWithVowel (c :: v) := by
      rw [spokenBeginsWithVowel_of_isDecimal hdigit, spokenBeginsWithVowel_of_isDecimal hdigit,
        List.filter_cons, List.filter_cons, filter_takeWhile_append hdecimal]
    have hname : c.toUpper ∉ misleadingLetters :=
      of_ascii (p := fun c => isDecimal c = true → c.toUpper ∉ misleadingLetters)
        (toNat_lt_of_isAlphanum hc) (forall_mem_of_all (by decide)) hdigit
    refine iff_of_true hsame ?_
    intro d hd
    rwa [← (List.cons.inj hd).1]
  | false =>
    cases v with
    | nil =>
      -- the mark is the second character, so that the letter is taken for the first one of a word
      have hfirst : spokenBeginsWithVowel [c] = letterBeginsWithVowel c := by
        simp [spokenBeginsWithVowel, hdigit]
      have hlower : lower [c] = [c.toLower] :=
        lower_of_ascii (by simpa using toNat_lt_of_isAlphanum hc)
      rw [List.nil_append] at hspelling ⊢
      rw [spokenBeginsWithVowel_cons_cons, hdigit, hcapital, hspelling, hlower, hfirst,
        if_neg Bool.false_ne_true, if_neg Bool.false_ne_true,
        spellingBeginsWithVowel_eq_iff hc hdigit]
      simp
    | cons d v =>
      -- the second character is the same with the marks and without them
      rw [List.cons_append] at hspelling ⊢
      refine iff_of_true ?_ (by simp)
      rw [spokenBeginsWithVowel_cons_cons, spokenBeginsWithVowel_cons_cons, hdigit, hspelling]
      rfl

end

/-! The judgement. -/

/-- A word with marks around it is judged as the word alone, but for marks behind one of nine
letters that stand alone. -/
theorem beginsWithVowelSound_punctuated {p w q : List Char} (hw : w ≠ [])
    (hletters : ∀ c ∈ w, c.isAlphanum = true) (hp : ∀ x ∈ p, x ∈ punctuation)
    (hq : ∀ x ∈ q, x ∈ punctuation) :
    beginsWithVowelSound (p ++ (w ++ q)) = beginsWithVowelSound w ↔
      q = [] ∨ ∀ c, w = [c] → c.toUpper ∉ misleadingLetters := by
  have halone : spokenPart w = w := by
    simpa using spokenPart_punctuated (p := []) (q := []) hw hletters (by simp) (by simp)
  rw [beginsWithVowelSound, beginsWithVowelSound, spokenPart_punctuated hw hletters hp hq, halone]
  cases q with
  | nil => simp
  | cons x r =>
    rw [spokenBeginsWithVowel_punctuated hletters hq hw]
    simp

theorem beginsWithVowelSound_punctuated_hour :
    beginsWithVowelSound "(\x22hour\x22),".toList = beginsWithVowelSound "hour".toList :=
  (beginsWithVowelSound_punctuated (p := "(\x22".toList) (w := "hour".toList)
    (q := "\x22),".toList) (by decide) (by decide) (by decide) (by decide)).mpr
    (Or.inr (by simp))

theorem not_beginsWithVowelSound_punctuated :
    ¬ ∀ p w q : List Char, w ≠ [] → (∀ c ∈ w, c.isAlphanum = true) →
      (∀ x ∈ p, x ∈ punctuation) → (∀ x ∈ q, x ∈ punctuation) →
      beginsWithVowelSound (p ++ (w ++ q)) = beginsWithVowelSound w := by
  intro h
  have hmark : beginsWithVowelSound "F.".toList = beginsWithVowelSound "F".toList :=
    h [] "F".toList ".".toList (by decide) (by decide) (by decide) (by decide)
  exact absurd hmark (by decide)

end DialogueMarkup.English
