import DialogueMarkup.Markup.Brace
import DialogueMarkup.Markup.CaseSpan
import DialogueMarkup.Markup.Directive
import DialogueMarkup.Proofs.Pieces

/-! Escape characters that stand for nothing but themselves, spellings of names in any case, and
what the readers of the markup find at the one and at the other. -/
namespace DialogueMarkup.Markup
open Text

/-- A character that is the same letter as no other one, and neither a brace nor a bracket. -/
structure Escape where
  char : Char
  alone : ∀ c, sameLetter char c = true → c = char
  ne_brace : char ≠ '{' ∧ char ≠ '}'
  ne_bracket : char ≠ '[' ∧ char ≠ ']'

/-- A character that no table of cases leads to. -/
structure Uncased (c : Char) : Prop where
  key : caseKey c = c
  not_small : c.toNat < 97 ∨ 122 < c.toNat
  ne_zero : c ≠ '\x00'
  not_shared : ∀ p ∈ sharedCapitals, p.2 ≠ c.toNat
  not_reached : ∀ r ∈ smallRuns, c.toNat < r.target ∨ r.target + (r.last - r.first) < c.toNat

theorem toLower_eq_or (c : Char) :
    c.toLower = c ∨ 97 ≤ c.toLower.toNat ∧ c.toLower.toNat ≤ 122 := by
  unfold Char.toLower
  split
  · rename_i hupper
    right
    simp [UInt32.le_iff_toNat_le] at hupper ⊢
    omega
  · exact Or.inl rfl

/-- Numbers that are no characters stand for zero. -/
theorem eq_toNat_of_ofNat_eq {c : Char} (hc : c ≠ '\x00') {n : Nat} (hn : Char.ofNat n = c) :
    n = c.toNat := by
  by_cases hvalid : n.isValidChar
  · rw [← hn, Char.ofNat, dif_pos hvalid]
    rfl
  · rw [Char.ofNat, dif_neg hvalid] at hn
    exact absurd hn.symm hc

/-- What has a small form that no run of letters leads to is that form, or is ASCII, or has an
`i` for it. -/
theorem cases_of_lowerSimple_eq {c d : Char} (hd : lowerSimple c = d) (hzero : d ≠ '\x00')
    (hreached : ∀ r ∈ smallRuns, d.toNat < r.target ∨ r.target + (r.last - r.first) < d.toNat) :
    c = d ∨ (c.toNat < 128 ∧ c.toLower = d) ∨ d = 'i' := by
  unfold lowerSimple at hd
  split at hd
  · exact Or.inr (Or.inl ⟨‹_›, hd⟩)
  split at hd
  · exact Or.inr (Or.inr hd.symm)
  left
  cases hfind : smallRuns.findSome? (·.image? c.toNat) with
  | none =>
    rw [hfind, Option.getD_none, Char.ofNat_toNat] at hd
    exact hd
  | some n =>
    obtain ⟨r, hr, himage⟩ := List.exists_of_findSome?_eq_some hfind
    have hout := hreached r hr
    rw [hfind, Option.getD_some] at hd
    have hn : n = d.toNat := eq_toNat_of_ofNat_eq hzero hd
    unfold CaseRun.image? at himage
    split at himage
    · have htarget : r.target + (c.toNat - r.first) = n := Option.some.inj himage
      omega
    · cases himage

namespace Uncased
variable {c : Char} (h : Uncased c)
include h

theorem eq_of_lowerSimple_eq {d : Char} (hd : lowerSimple d = c) : d = c := by
  have hnot := h.not_small
  rcases cases_of_lowerSimple_eq hd h.ne_zero h.not_reached with hsame | ⟨-, hlower⟩ | rfl
  · exact hsame
  · rcases toLower_eq_or d with hsame | hsmall
    · exact hsame.symm.trans hlower
    · rw [hlower] at hsmall
      omega
  · exact absurd hnot (by decide)

theorem alone (d : Char) (hd : sameLetter c d = true) : d = c := by
  have hkey : caseKey d = c := by
    rw [sameLetter, beq_iff_eq, h.key] at hd
    exact hd.symm
  dsimp only [caseKey] at hkey
  split at hkey
  · rename_i first hlookup
    obtain ⟨xs, ys, hsplit, -⟩ := List.lookup_eq_some_iff.mp hlookup
    have hmem : ((lowerSimple d).toNat, first) ∈ sharedCapitals := by simp [hsplit]
    exact absurd (eq_toNat_of_ofNat_eq h.ne_zero hkey) (h.not_shared _ hmem)
  · exact h.eq_of_lowerSimple_eq hkey

end Uncased

theorem uncased_backslash : Uncased '\\' :=
  ⟨by decide, by decide, by decide, forall_mem_of_all (by decide), forall_mem_of_all (by decide)⟩

/-- The escape character that markup has by default. -/
def Escape.backslash : Escape := ⟨'\\', uncased_backslash.alone, by decide, by decide⟩

/-- A word spelled in some case. -/
structure Spelling (word : List Char) where
  letters : List Char
  spells : letters.map caseKey = word.map caseKey

/-- A word spelled as it stands. -/
def Spelling.plain (word : List Char) : Spelling word := ⟨word, rfl⟩

/-- A reader that finds nothing where the escape character does not stand. -/
def Escape.Opens (e : Escape) {α : Type} (read : Reader α) : Prop :=
  ∀ c, c ≠ e.char → ∀ s, read (c :: s) = none

section
variable {word : List Char}

theorem readWord_spelling (spelling : Spelling word) (s : List Char) :
    readWord word (spelling.letters ++ s) = some (spelling.letters, s) := by
  obtain ⟨letters, h⟩ := spelling
  induction word generalizing letters with
  | nil =>
    have hnil : letters = [] := by simpa using h
    simp [readWord, hnil]
  | cons w word ih =>
    cases letters with
    | nil => simp at h
    | cons c letters =>
      simp only [List.map_cons, List.cons.injEq] at h
      have hsame : sameLetter w c = true := by simp [sameLetter, h.1]
      have htail := ih letters h.2
      dsimp only at htail
      simp [readWord, hsame, htail]

/-- Two words differ, in more than case, before the end of either. -/
def clash : List Char → List Char → Bool
  | w :: word, v :: other => !sameLetter w v || clash word other
  | _, _ => false

theorem readWord_of_clash {other : List Char} (spelling : Spelling other)
    (h : clash word other = true) (s : List Char) :
    readWord word (spelling.letters ++ s) = none := by
  obtain ⟨letters, hl⟩ := spelling
  induction word generalizing other letters with
  | nil => cases other <;> cases h
  | cons w word ih =>
    cases other with
    | nil => cases h
    | cons v other =>
      cases letters with
      | nil => simp at hl
      | cons c letters =>
        simp only [List.map_cons, List.cons.injEq] at hl
        simp only [List.cons_append, readWord]
        split
        · rename_i hsame
          have hv : sameLetter w v = true := by simpa [sameLetter, ← hl.1] using hsame
          have htail : clash word other = true := by simpa [clash, hv] using h
          have hnone := ih htail letters hl.2
          dsimp only at hnone
          rw [hnone]
          rfl
        · rfl

/-- The capitals that names are made of. -/
def capitals : List Char := "ABCDEFGHIJKLMNOPQRSTUVWXYZ".toList

theorem isLatinLetter_of_mem_spelling (spelling : Spelling word) (hw : ∀ w ∈ word, w ∈ capitals)
    {c : Char} (hc : c ∈ spelling.letters) : isLatinLetter c = true := by
  have hkey : caseKey c ∈ word.map caseKey := spelling.spells ▸ List.mem_map_of_mem hc
  obtain ⟨w, hmem, hwc⟩ := List.mem_map.mp hkey
  have hall : ∀ w ∈ capitals, isLatinLetter w = true := forall_mem_of_all (by decide)
  have hlatin := hall w (hw w hmem)
  simpa only [isLatinLetter, hwc] using hlatin

end

/-- A character that is the same letter as no other one is no Latin letter. -/
theorem isLatinLetter_of_alone {e : Char} (alone : ∀ c, sameLetter e c = true → c = e) :
    isLatinLetter e = false := by
  cases hlatin : isLatinLetter e with
  | false => rfl
  | true =>
    -- a Latin letter has two cases, and the character would have to be both
    exfalso
    have hall : ∀ n ∈ List.range' 97 26, caseKey (Char.ofNat n) = Char.ofNat n ∧
        caseKey (Char.ofNat n).toUpper = Char.ofNat n ∧
        Char.ofNat n ≠ (Char.ofNat n).toUpper := by decide
    have hbounds : 97 ≤ (caseKey e).toNat ∧ (caseKey e).toNat ≤ 122 := by
      simpa [isLatinLetter, Char.le_def, UInt32.le_iff_toNat_le] using hlatin
    have hmem : (caseKey e).toNat ∈ List.range' 97 26 := by
      rw [List.mem_range'_1]
      omega
    obtain ⟨hsmall, hcapital, hne⟩ := hall _ hmem
    rw [Char.ofNat_toNat] at hsmall hcapital hne
    have h1 := alone _ (beq_iff_eq.mpr hsmall.symm)
    have h2 := alone _ (beq_iff_eq.mpr hcapital.symm)
    exact hne (h1.trans h2.symm)

namespace Escape
variable (e : Escape)

theorem isLatinLetter_char : isLatinLetter e.char = false := isLatinLetter_of_alone e.alone

theorem ne_of_isLatinLetter {c : Char} (h : isLatinLetter c = true) : c ≠ e.char := by
  rintro rfl
  rw [e.isLatinLetter_char] at h
  cases h

theorem readEscape_self (s : List Char) : readEscape e.char (e.char :: s) = some (e.char, s) := by
  simp [readEscape, sameLetter]

theorem readEscape_of_ne {c : Char} (h : c ≠ e.char) (s : List Char) :
    readEscape e.char (c :: s) = none := by
  have hsame : ¬ sameLetter e.char c = true := fun hs => h (e.alone c hs)
  simp [readEscape, hsame]

theorem opens_readHead : e.Opens (readHead e.char) := by
  intro c hc s
  simp [readHead, e.readEscape_of_ne hc]

theorem opens_readDirective : e.Opens (readDirective e.char) := by
  intro c hc s
  simp [readDirective, e.opens_readHead c hc]

theorem opens_readBare (name : List Char) : e.Opens (readBare e.char name) := by
  intro c hc s
  simp [readBare, readCode, e.readEscape_of_ne hc]

theorem opens_readSpanOpening : e.Opens (readSpanOpening e.char) := by
  intro c hc s
  simp [readSpanOpening, readCode, e.readEscape_of_ne hc]

variable {α : Type} {read : Reader α}

theorem pieces_append_of_opens (hread : e.Opens read) {xs : List Char}
    (hxs : ∀ c ∈ xs, c ≠ e.char) (s : List Char) :
    pieces read (xs ++ s) = xs.map .char ++ pieces read s :=
  pieces_append_of_none fun c hc t => hread c (hxs c hc) t

/-- A code that the reader does not know is cut into its characters. -/
theorem pieces_code_of_none (hread : e.Opens read) {word : List Char} (spelling : Spelling word)
    (hw : ∀ w ∈ word, w ∈ capitals) {s : List Char}
    (h : read (e.char :: (spelling.letters ++ s)) = none) :
    pieces read (e.char :: (spelling.letters ++ s)) =
      (e.char :: spelling.letters).map .char ++ pieces read s := by
  have hletters : ∀ c ∈ spelling.letters, c ≠ e.char := fun c hc =>
    e.ne_of_isLatinLetter (isLatinLetter_of_mem_spelling spelling hw hc)
  rw [pieces_cons_of_none h, e.pieces_append_of_opens hread hletters]
  rfl

end Escape

end DialogueMarkup.Markup
