import DialogueMarkup.Proofs.Phrase
import DialogueMarkup.Proofs.RespelledConditions
import DialogueMarkup.Proofs.Respelling
import DialogueMarkup.Proofs.Vowels

/-! Grammar codes of a respelled text. Signs are no letters and no digits: they have no case, a
numeral with a sign in it is none, and an article is judged by a word whose signs make no
difference. So what is written for a respelled code is what was written for the code, respelled. -/
namespace DialogueMarkup
open Text Markup

/-! The judgement on a word. -/

section
variable {φ : Char → Char} (hφ : Renaming φ)
include hφ

theorem isPrefixOf_map {w : List Char} (hw : ∀ c ∈ w, c ∉ escapeSigns) (s : List Char) :
    w.isPrefixOf (s.map φ) = w.isPrefixOf s := by
  induction w generalizing s with
  | nil => simp
  | cons a w ih =>
    obtain ⟨ha, hw⟩ := List.forall_mem_cons.mp hw
    cases s with
    | nil => rfl
    | cons c s =>
      have hclass : (a == φ c) = (a == c) := by
        rw [Bool.eq_iff_iff, beq_iff_eq, beq_iff_eq, eq_comm, hφ.eq_iff ha, eq_comm]
      rw [List.map_cons, List.isPrefixOf, List.isPrefixOf, hclass, ih hw]

theorem any_isPrefixOf_map (beginnings : List String)
    (h : ∀ b ∈ beginnings, ∀ c ∈ b.toList, c ∉ escapeSigns) (s : List Char) :
    (beginnings.any fun b => English.beginsWith b (s.map φ)) =
      beginnings.any fun b => English.beginsWith b s := by
  induction beginnings with
  | nil => rfl
  | cons b beginnings ih =>
    obtain ⟨hb, h⟩ := List.forall_mem_cons.mp h
    rw [List.any_cons, List.any_cons, ih h, English.beginsWith, isPrefixOf_map hφ hb,
      English.beginsWith]

namespace English

theorem numeralBeginsWithVowel_map (digits : List Char) :
    numeralBeginsWithVowel (digits.map φ) = numeralBeginsWithVowel digits := by
  have height := isPrefixOf_map hφ (w := "8".toList) (by decide) digits
  have heleven := isPrefixOf_map hφ (w := "11".toList) (by decide) digits
  have heighteen := isPrefixOf_map hφ (w := "18".toList) (by decide) digits
  simp only [numeralBeginsWithVowel, beginsWith, height, heleven, heighteen, List.length_map]

theorem spellingBeginsWithVowel_map (word : List Char) :
    spellingBeginsWithVowel (word.map φ) = spellingBeginsWithVowel word := by
  cases word with
  | nil => rfl
  | cons c s =>
    have hsmall : ∀ c ∈ escapeSigns, ('a' ≤ c && c ≤ 'z') = ('a' ≤ '\\' && '\\' ≤ 'z') := by
      decide
    have hplain : ∀ c ∈ escapeSigns, ('a' ≤ c && c ≤ 'z') = false := by decide
    have hone : ((c :: s).map φ).takeWhile (fun c => 'a' ≤ c && c ≤ 'z') =
        (c :: s).takeWhile (fun c => 'a' ≤ c && c ≤ 'z') := by
      rw [hφ.takeWhile_map hsmall]
      exact hφ.map_eq_self_of_all hplain (List.all_eq_true.mp List.all_takeWhile)
    have houi := isPrefixOf_map hφ (w := "oui".toList) (by decide) (c :: s)
    have hunidentif := isPrefixOf_map hφ (w := "unidentif".toList) (by decide) (c :: s)
    have hyoo := any_isPrefixOf_map hφ yooBeginnings (by decide) (c :: s)
    have hsilent := any_isPrefixOf_map hφ silentAitchBeginnings (by decide) (c :: s)
    have hvowel : ∀ d ∈ escapeSigns, (isAlphabetic d && !"aeiou".toList.contains d) =
        (isAlphabetic '\\' && !"aeiou".toList.contains '\\') := by decide
    have hnext := hφ.head?_any_map hvowel s
    rw [List.map_cons] at hone houi hunidentif hyoo hsilent ⊢
    simp only [beginsWith] at hyoo hsilent
    simp only [spellingBeginsWithVowel_cons, hone, hnext, beginsWith, houi, hunidentif, hyoo,
      hsilent, hφ.eq_iff (d := 'a') (by decide), hφ.eq_iff (d := 'e') (by decide),
      hφ.eq_iff (d := 'i') (by decide), hφ.eq_iff (d := 'o') (by decide),
      hφ.eq_iff (d := 'u') (by decide), hφ.eq_iff (d := 'y') (by decide),
      hφ.eq_iff (d := 'h') (by decide)]

theorem spokenBeginsWithVowel_map (word : List Char) :
    spokenBeginsWithVowel (word.map φ) = spokenBeginsWithVowel word := by
  have hnumeral : ∀ c ∈ escapeSigns,
      (isDecimal c || c == ',') = (isDecimal '\\' || '\\' == ',') := by decide
  have hcomma : ∀ c ∈ escapeSigns, (c != ',') = ('\\' != ',') := by decide
  have hletter := hφ.class_eq (p := letterBeginsWithVowel) (by decide)
  have hdecimal := hφ.class_eq (p := isDecimal) (by decide)
  have hdigits (c : Char) (s : List Char) :
      numeralBeginsWithVowel
          ((φ c :: (s.map φ).takeWhile fun d => isDecimal d || d == ',').filter (· != ',')) =
        numeralBeginsWithVowel
          ((c :: s.takeWhile fun d => isDecimal d || d == ',').filter (· != ',')) := by
    rw [hφ.takeWhile_map hnumeral, ← List.map_cons, hφ.filter_map hcomma,
      numeralBeginsWithVowel_map hφ]
  match word with
  | [] => rfl
  | [c] =>
    have hc := hdigits c []
    simp only [spokenBeginsWithVowel, List.map_cons, List.map_nil, hdecimal, hletter] at hc ⊢
    rw [hc]
  | c :: d :: s =>
    have hlower := hφ.lower_map (c :: d :: s)
    have hcase := hφ.class_eq (p := isUppercase) (by decide) d
    have hcs := hdigits c (d :: s)
    simp only [List.map_cons] at hlower hcs ⊢
    rw [spokenBeginsWithVowel_cons_cons, spokenBeginsWithVowel_cons_cons, hdecimal, hcs, hcase,
      hletter, hlower, spellingBeginsWithVowel_map hφ]

/-- The article of a word is that of the word, renamed. -/
theorem article_map (word : List Char) (capital : Bool) :
    article (word.map φ) capital = article word capital := by
  have hspeech : ∀ c ∈ escapeSigns, (!isWordCharacter c) = !isWordCharacter '\\' := by decide
  rw [article, beginsWithVowelSound, spokenPart, hφ.dropWhile_map hspeech, hφ.trim_map,
    spokenBeginsWithVowel_map hφ]
  rfl

end English

/-! What the codes write. -/

namespace Grammar

theorem apply_map (fold : Fold) (s : List Char) :
    fold.apply (s.map φ) = (fold.apply s).map φ := by
  cases fold with
  | up => exact hφ.upper_map s
  | low => exact hφ.lower_map s

theorem writeNumber_map {f : Int → List Char} (hf : ∀ n, English.isNumeric (f n) = true)
    (argument : List Char) : writeNumber f (argument.map φ) =
      renamedOutcome id (List.map φ) (writeNumber f argument) := by
  rw [writeNumber, readPlain_map hφ, writeNumber]
  cases Numeral.readPlain argument with
  | none => exact congrArg Except.ok (hφ.trim_map argument)
  | some n =>
    cases n with
    | error fault => rfl
    | ok n => exact congrArg Except.ok (hφ.map_eq_self_of_isNumeric (hf n)).symm

theorem startsWithLetter_map (s : List Char) :
    startsWithLetter (s.map φ) = startsWithLetter s := by
  cases s with
  | nil => rfl
  | cons c s => exact hφ.class_eq (p := isLatinLetter) (by decide) c

theorem nextWord_map (s : List Char) : nextWord (s.map φ) = (nextWord s).map φ := by
  rw [nextWord, hφ.trimLeft_map, hφ.takeWhile_map (by decide), nextWord]

end Grammar

end

namespace Respelling
open Grammar
variable (ρ : Respelling)

theorem readNumberCode_renamed {name : List Char} (hname : Signless name) :
    Reader.Renamed ρ.map (List.map ρ.map) (readNumberCode ρ.before name)
      (readNumberCode ρ.after name) := by
  intro s
  refine bind_renamed (ρ.readCode_renamed hname s) fun ⟨code, t⟩ => ?_
  exact readArgument_renamed ρ.moves t

/-- A fold has no text of its own. -/
theorem readFold_renamed :
    Reader.Renamed ρ.map id (readFold ρ.before) (readFold ρ.after) := by
  intro s
  rw [readFold, ρ.readCode_renamed (by decide) s, ρ.readCode_renamed (by decide) s, readFold]
  cases readCode ρ.before ['U', 'P'] s with
  | some r => rfl
  | none => cases readCode ρ.before ['L', 'O', 'W'] s <;> rfl

/-- The escape character of an article's code and the spelling of its name. -/
theorem readArticle_renamed :
    Reader.Renamed ρ.map (fun code : Char × List Char => (ρ.map code.1, code.2.map ρ.map))
      (readArticle ρ.before) (readArticle ρ.after) := by
  intro s
  refine bind_renamed (ρ.readCode_renamed (by decide) s) fun ⟨code, t⟩ => ?_
  simp only [renamedRead, startsWithLetter_map ρ.moves]
  split
  · rfl
  · rfl

theorem readFoldedArticle_renamed :
    Reader.Renamed ρ.map
      (fun m : Fold × Char × List Char => (m.1, ρ.map m.2.1, m.2.2.map ρ.map))
      (readFoldedArticle ρ.before) (readFoldedArticle ρ.after) := by
  intro s
  refine bind_renamed (ρ.readFold_renamed s) fun ⟨fold, t⟩ => ?_
  exact bind_renamed (ρ.readArticle_renamed t) fun ⟨code, u⟩ => rfl

theorem readFoldedSpan_renamed :
    Reader.Renamed ρ.map (fun m : Fold × List Char => (m.1, m.2.map ρ.map))
      (readFoldedSpan ρ.before) (readFoldedSpan ρ.after) := by
  intro s
  refine bind_renamed (ρ.readFold_renamed s) fun ⟨fold, t⟩ => ?_
  exact bind_renamed (readSpan_renamed ρ.moves t) fun ⟨span, u⟩ => rfl

theorem readFoldedChar_renamed :
    Reader.Renamed ρ.map (fun m : Fold × List Char => (m.1, m.2.map ρ.map))
      (readFoldedChar ρ.before) (readFoldedChar ρ.after) := by
  intro s
  refine bind_renamed (ρ.readFold_renamed s) fun ⟨fold, t⟩ => ?_
  cases t with
  | nil => rfl
  | cons c t =>
    simp only [renamedRead, List.map_cons, ρ.moves.eq_iff (d := '{') (by decide)]
    split <;> rfl

theorem readArticleFor_renamed :
    Reader.Renamed ρ.map (fun m : Bool × List Char => (m.1, m.2.map ρ.map))
      (readArticleFor ρ.before) (readArticleFor ρ.after) := by
  intro s
  refine bind_renamed (ρ.readArticle_renamed s) fun ⟨⟨e, spelling⟩, t⟩ => ?_
  have hupper : ∀ c ∈ escapeSigns, c.isUpper = '\\'.isUpper := by decide
  simp only [renamedRead, ρ.moves.head?_any_map hupper, nextWord_map ρ.moves]
  rfl

/-! The stages. -/

theorem number_map {name : List Char} (hname : Signless name) {f : Int → List Char}
    (hf : ∀ n, English.isNumeric (f n) = true) (s : List Char) :
    replaceMarksM (readNumberCode ρ.after name) (writeNumber f) (s.map ρ.map) =
      renamedOutcome id (List.map ρ.map)
        (replaceMarksM (readNumberCode ρ.before name) (writeNumber f) s) :=
  (ρ.readNumberCode_renamed hname).replaceMarksM_eq (writeNumber_map ρ.moves hf) s

theorem foldArticles_map (s : List Char) :
    foldArticles ρ.after (s.map ρ.map) = (foldArticles ρ.before s).map ρ.map := by
  refine ρ.readFoldedArticle_renamed.replaceMarks_eq (fun m => ?_) s
  exact congrArg (ρ.map m.2.1 :: ·) (apply_map ρ.moves m.1 m.2.2)

theorem foldSpans_map (rounds : Nat) (s : List Char) :
    foldSpans ρ.after rounds (s.map ρ.map) = (foldSpans ρ.before rounds s).map ρ.map := by
  have honce (s : List Char) :
      foldSpansOnce ρ.after (s.map ρ.map) = (foldSpansOnce ρ.before s).map ρ.map :=
    ρ.readFoldedSpan_renamed.replaceMarks_eq (fun m => apply_map ρ.moves m.1 m.2) s
  -- texts that differ may be respelled alike, so the rounds are not stopped at a text that stays
  rw [foldSpans_eq_iterate, foldSpans_eq_iterate]
  induction rounds generalizing s with
  | zero => rfl
  | succ rounds ih => rw [Function.iterate_succ_apply, honce, ih, Function.iterate_succ_apply]

theorem folds_map (s : List Char) :
    folds ρ.after (s.map ρ.map) = (folds ρ.before s).map ρ.map := by
  have hchars (s : List Char) :
      foldChars ρ.after (s.map ρ.map) = (foldChars ρ.before s).map ρ.map :=
    ρ.readFoldedChar_renamed.replaceMarks_eq (fun m => apply_map ρ.moves m.1 m.2) s
  simp only [folds, ρ.foldArticles_map, List.length_map, ρ.foldSpans_map, hchars]

theorem articles_map (s : List Char) :
    articles ρ.after (s.map ρ.map) = (articles ρ.before s).map ρ.map := by
  refine ρ.readArticleFor_renamed.replaceMarks_eq (fun m => ?_) s
  rw [English.article_map ρ.moves]
  exact (ρ.moves.map_eq_self_of_isNumeric (English.isNumeric_article m.2 m.1)).symm

/-- Grammar codes are written out in a respelled text as in the text. -/
theorem grammar_map (s : List Char) : Grammar.apply ρ.after (s.map ρ.map) =
    renamedOutcome id (List.map ρ.map) (Grammar.apply ρ.before s) := by
  refine bind_renamedOutcome (ρ.number_map (by decide) English.isNumeric_cardinal s) fun t _ => ?_
  refine bind_renamedOutcome (g := List.map ρ.map) ?_ fun u _ => ?_
  · refine bind_renamedOutcome (ρ.number_map (by decide) English.isNumeric_ordinalInWords t)
      fun u _ => ?_
    exact ρ.number_map (by decide) English.isNumeric_ordinal u
  · rw [ρ.folds_map, ρ.articles_map]
    rfl

end Respelling
end DialogueMarkup
