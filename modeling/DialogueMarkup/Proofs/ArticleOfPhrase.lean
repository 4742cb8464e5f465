import DialogueMarkup.Proofs.Phrase
import DialogueMarkup.Proofs.PlainAscii

/-! An article in front of a phrase. Numbers, spans and single characters are all written out before
the article is, so that it belongs to the first word of what the phrase means, at any depth. A fold
directly in front of the article decides on its capital. -/
namespace DialogueMarkup.Grammar
open Text Markup

/-! The word of an article. -/

/-- The first word of a text: in front of it there are only blanks, there is none in it, and it goes
up to the next one. The first word of a blank text is empty. -/
def IsFirstWord (s w : List Char) : Prop :=
  ∃ before after, s = before ++ (w ++ after) ∧ (∀ c ∈ before, isBlank c = true) ∧
    (∀ c ∈ w, isBlank c = false) ∧ (∀ c ∈ after.head?, isBlank c = true) ∧ (w = [] → after = [])

/-- There is one first word. -/
theorem isFirstWord_iff {s w : List Char} : IsFirstWord s w ↔ w = nextWord s := by
  constructor
  · rintro ⟨before, after, rfl, hbefore, hw, hafter, hempty⟩
    have hhead : ∀ c ∈ (w ++ after).head?, isBlank c = false := by
      by_cases hne : w = []
      · simp [hne, hempty hne]
      · exact head?_append_of_ne_nil hne hw after
    have hword : ∀ c ∈ w, (!isBlank c) = true := by simpa using hw
    have hend : ∀ c ∈ after.head?, (!isBlank c) = false := by simpa using hafter
    rw [nextWord, trimLeft, (span_append hbefore hhead).2, (span_append hword hend).1]
  · rintro rfl
    refine ⟨s.takeWhile isBlank, (trimLeft s).dropWhile fun c => !isBlank c, ?_, ?_, ?_, ?_, ?_⟩
    · rw [nextWord, List.takeWhile_append_dropWhile, trimLeft, List.takeWhile_append_dropWhile]
    · exact of_mem_takeWhile isBlank s
    · intro c hc
      simpa using of_mem_takeWhile (fun c => !isBlank c) (trimLeft s) c hc
    · intro c hc
      have h := List.head?_dropWhile_not (fun c => !isBlank c) (trimLeft s)
      rw [Option.mem_def.mp hc] at h
      simpa using h
    · intro hnil
      -- the text behind its blanks begins with its word
      cases htrim : trimLeft s with
      | nil => rfl
      | cons c t =>
        have hfirst := List.head?_dropWhile_not isBlank s
        rw [show s.dropWhile isBlank = c :: t from htrim] at hfirst
        have hc : isBlank c = false := by simpa using hfirst
        rw [nextWord, htrim, List.takeWhile_cons_of_pos (by rw [hc]; rfl)] at hnil
        cases hnil

/-! The code of an article. -/

/-- The four ways to spell the code of an article. -/
theorem mem_of_spelling (spelling : Spelling ['A', 'N']) :
    spelling.letters ∈ [['a', 'n'], ['a', 'N'], ['A', 'n'], ['A', 'N']] := by
  have hkeys : ∀ w ∈ ['A', 'N'], (caseKey w).toNat ∈ codeKeys := mem_codeKeys (by decide)
  have hascii : ∀ n ∈ List.range 128, ∀ w ∈ ['A', 'N'],
      caseKey (Char.ofNat n) = caseKey w → Char.ofNat n ∈ [w.toLower, w] :=
    forall_mem_of_all (by decide)
  have hcase (w : Char) (hw : w ∈ ['A', 'N']) (c : Char) (hc : caseKey c = caseKey w) :
      c ∈ [w.toLower, w] := by
    have hlt : c.toNat < 128 := toNat_lt_of_caseKey (hc ▸ hkeys w hw)
    exact of_ascii (p := fun c => ∀ w ∈ ['A', 'N'], caseKey c = caseKey w → c ∈ [w.toLower, w])
      hlt hascii w hw hc
  have hall : ∀ a ∈ ['A'.toLower, 'A'], ∀ n ∈ ['N'.toLower, 'N'],
      [a, n] ∈ [['a', 'n'], ['a', 'N'], ['A', 'n'], ['A', 'N']] := by decide
  obtain ⟨letters, hspells⟩ := spelling
  obtain ⟨a, letters, rfl, ha, hspells⟩ := List.map_eq_cons_iff.mp hspells
  obtain ⟨n, letters, rfl, hn, hspells⟩ := List.map_eq_cons_iff.mp hspells
  obtain rfl := List.map_eq_nil_iff.mp hspells
  exact hall a (hcase 'A' (by decide) a ha) n (hcase 'N' (by decide) n hn)

/-- The code of an article in the case of a fold. -/
def foldedArticle (fold : Fold) : Spelling ['A', 'N'] where
  letters := fold.apply ['A', 'N']
  spells := by cases fold <;> decide

/-- Whatever the case of an article, a fold makes it the same. -/
theorem apply_letters (fold : Fold) (spelling : Spelling ['A', 'N']) :
    fold.apply spelling.letters = (foldedArticle fold).letters := by
  have hmem := mem_of_spelling spelling
  simp only [List.mem_cons, List.not_mem_nil, or_false] at hmem
  rcases hmem with h | h | h | h
  all_goals rw [h]; cases fold <;> rfl

theorem isUpper_foldedArticle (fold : Fold) :
    (foldedArticle fold).letters.head?.any Char.isUpper = decide (fold = .up) := by
  cases fold <;> rfl

section
variable (spelling : Spelling ['A', 'N']) (s : List Char)

theorem readFold_article : readFold '\\' ('\\' :: (spelling.letters ++ s)) = none := by
  have hup : readCode '\\' ['U', 'P'] ('\\' :: (spelling.letters ++ s)) = none :=
    readCode_of_readWord (readWord_of_clash spelling (by decide) s)
  have hlow : readCode '\\' ['L', 'O', 'W'] ('\\' :: (spelling.letters ++ s)) = none :=
    readCode_of_readWord (readWord_of_clash spelling (by decide) s)
  rw [readFold, hup, hlow]
  rfl

theorem readArticle_space : readArticle '\\' ('\\' :: (spelling.letters ++ ' ' :: s)) =
    some (('\\', spelling.letters), ' ' :: s) := by
  have hspace : startsWithLetter (' ' :: s) = false := by
    show isLatinLetter ' ' = false
    decide
  rw [readArticle_spelling, hspace]
  rfl

/-- An article is written with the first word behind it. -/
theorem articles_space : articles '\\' ('\\' :: (spelling.letters ++ ' ' :: s)) =
    English.article (nextWord s) (spelling.letters.head?.any Char.isUpper) ++
      ' ' :: articles '\\' s := by
  have hblank : isBlank ' ' = true := by decide
  have hword : nextWord (' ' :: s) = nextWord s := by
    rw [nextWord, trimLeft, List.dropWhile_cons_of_pos hblank, nextWord, trimLeft]
  have hread : readArticleFor '\\' ('\\' :: (spelling.letters ++ ' ' :: s)) =
      some ((spelling.letters.head?.any Char.isUpper, nextWord s), ' ' :: s) := by
    simp [readArticleFor, readArticle_space, hword]
  have hspace : readArticleFor '\\' (' ' :: s) = none :=
    pays_articleFor.eq_none_of_ne (by decide) s
  rw [articles, replaceMarks_of_some pays_articleFor.consumes hread, replaceMarks_of_none hspace]
  rfl

end

/-! The whole writing. -/

namespace Phrase
variable (p : Phrase) (spelling : Spelling ['A', 'N'])

/-- A phrase with a space in front of it. -/
def spaced : Phrase := .char ' ' (by decide) p

theorem numbers_article : numbers '\\' ('\\' :: (spelling.letters ++ p.source)) =
    .ok ('\\' :: (spelling.letters ++ p.print [] 0)) := by
  refine numbers_code spelling (by decide) (fun kind => ?_) p.numbers_source
  cases kind <;> decide

/-- Spans and single characters are folded before the article in front of them is written. -/
theorem articles_folded {rounds : Nat} (h : (p.spaced.print [] 0).length ≤ rounds) :
    articles '\\' (foldChars '\\'
        (foldSpans '\\' rounds ('\\' :: (spelling.letters ++ p.spaced.print [] 0)))) =
      English.article (nextWord p.value) (spelling.letters.head?.any Char.isUpper) ++
        ' ' :: p.value := by
  have hletters := (unmarked_letters (by decide) spelling).not_mem
  -- the code of an article is no fold, so both stages of the folds pass over it
  have hspans : ∀ n, readFoldedSpan '\\'
      ('\\' :: (spelling.letters ++ p.spaced.print [] n)) = none := by
    intro n
    rw [readFoldedSpan, readFold_article]
    rfl
  have hchar : readFoldedChar '\\' ('\\' :: (spelling.letters ++ p.spaced.value)) = none := by
    rw [readFoldedChar, readFold_article]
    rfl
  have hchars : foldChars '\\' ('\\' :: (spelling.letters ++ p.spaced.value)) =
      '\\' :: (spelling.letters ++ ' ' :: p.value) := by
    rw [foldChars, pays_foldedChar.replaceMarks_code hletters hchar,
      pays_foldedChar.replaceMarks_of_not_mem p.spaced.unmarked_value.not_mem]
    rfl
  have hvalue : articles '\\' p.value = p.value :=
    pays_articleFor.replaceMarks_of_not_mem p.unmarked_value.not_mem
  rw [p.spaced.foldSpans_code hletters hspans h, hchars, articles_space, hvalue]

theorem apply_article_source :
    apply '\\' ('\\' :: (spelling.letters ++ ' ' :: p.source)) =
      .ok (English.article (nextWord p.value) (spelling.letters.head?.any Char.isUpper) ++
        ' ' :: p.value) := by
  have hletters := (unmarked_letters (by decide) spelling).not_mem
  have hread : readFoldedArticle '\\'
      ('\\' :: (spelling.letters ++ p.spaced.print [] 0)) = none := by
    rw [readFoldedArticle, readFold_article]
    rfl
  have hfolds := p.spaced.foldArticles_code hletters hread
  have hnumbers : numbers '\\' ('\\' :: (spelling.letters ++ ' ' :: p.source)) = _ :=
    p.spaced.numbers_article spelling
  rw [apply_of_numbers hnumbers, folds, hfolds, p.articles_folded spelling]
  simp only [List.length_cons, List.length_append]
  omega

/-- A fold in front of an article sets its case before anything else is folded. -/
theorem apply_folded_article_source {fold : Fold} (folding : Spelling (foldName fold)) :
    apply '\\' ('\\' :: (folding.letters ++ '\\' :: (spelling.letters ++ ' ' :: p.source))) =
      .ok (English.article (nextWord p.value) (decide (fold = .up)) ++ ' ' :: p.value) := by
  -- the fold is read together with the article, so that the stages after it find the article alone
  have hread : readFoldedArticle '\\'
      ('\\' :: (folding.letters ++ '\\' :: (spelling.letters ++ p.spaced.print [] 0))) =
        some ((fold, '\\', spelling.letters), p.spaced.print [] 0) := by
    have harticle := readArticle_space spelling (p.print [] 0)
    simp [readFoldedArticle, readFold_foldName, spaced, print, harticle]
  have hfolds : foldArticles '\\'
      ('\\' :: (folding.letters ++ '\\' :: (spelling.letters ++ p.spaced.print [] 0))) =
        '\\' :: ((foldedArticle fold).letters ++ p.spaced.print [] 0) := by
    have hrest := p.spaced.foldArticles_print
    rw [foldArticles] at hrest
    rw [foldArticles, replaceMarks_of_some pays_foldedArticle.consumes hread, hrest,
      apply_letters, List.cons_append]
  have hnumbers : numbers '\\'
      ('\\' :: (folding.letters ++ '\\' :: (spelling.letters ++ ' ' :: p.source))) = _ :=
    numbers_code folding (foldName_mem fold) (fun kind => clash_foldName kind fold)
      (p.spaced.numbers_article spelling)
  rw [apply_of_numbers hnumbers, folds, hfolds, p.articles_folded (foldedArticle fold),
    isUpper_foldedArticle]
  simp only [List.length_cons, List.length_append]
  omega

end Phrase

/-- An article in front of a phrase is that of the first word of the phrase's value. It has a
capital if its code begins with one, or as the fold directly in front of it says. -/
theorem apply_article_phrase (p : Phrase) : apply '\\' p.source = .ok p.value ∧
    ∃ w, IsFirstWord p.value w ∧ ∀ spelling : Spelling ['A', 'N'],
      apply '\\' ('\\' :: (spelling.letters ++ ' ' :: p.source)) =
        .ok (English.article w (spelling.letters.head?.any Char.isUpper) ++ ' ' :: p.value) ∧
      ∀ (fold : Fold) (folding : Spelling (foldName fold)),
        apply '\\'
            ('\\' :: (folding.letters ++ '\\' :: (spelling.letters ++ ' ' :: p.source))) =
          .ok (English.article w (decide (fold = .up)) ++ ' ' :: p.value) := by
  refine ⟨p.apply_source, nextWord p.value, isFirstWord_iff.mpr rfl, fun spelling => ⟨?_, ?_⟩⟩
  · exact p.apply_article_source spelling
  · intro fold folding
    exact p.apply_folded_article_source spelling folding

example : apply '\\' "\\Low\\AN \\up\x7bh\\low\x7bO\x7dur\x7d \\numword[8]".toList =
    .ok "an HOUR eight".toList := rfl

end DialogueMarkup.Grammar
