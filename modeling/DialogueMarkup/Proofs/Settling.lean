import DialogueMarkup.Proofs.SpanRounds

/-! Grammar codes are written out in stages. Every stage pays for each code that it writes with the
escape that the code begins with, and brings no escape into the text. So a text with something left
to write loses an escape, and a text with nothing left stays as it is. -/
namespace DialogueMarkup
open Text Markup

/-- The number of escapes in a text. -/
def escapes (s : List Char) : Nat := s.count '\\'

section
variable {s t : List Char}

theorem escapes_append (s t : List Char) : escapes (s ++ t) = escapes s + escapes t :=
  List.count_append

theorem escapes_eq_zero (h : '\\' ∉ s) : escapes s = 0 := List.count_eq_zero.mpr h

theorem escapes_le_of_isInfix (h : s <:+: t) : escapes s ≤ escapes t := h.sublist.count_le '\\'

end

/-- Folding the case of a text brings no escape into it. -/
theorem escapes_le_of_folded {s t : List Char} (h : Folded s t) : escapes t ≤ escapes s := by
  induction h with
  | nil => exact Nat.le_refl _
  | @cons c xs s t hc _ ih =>
    -- an escape is only folded from an escape, and then it is all that is written
    have hhead : escapes xs ≤ escapes [c] := by
      by_cases hmem : '\\' ∈ xs
      · obtain rfl := hc.mark _ hmem rfl
        exact Nat.le_of_eq (congrArg escapes (hc.escape rfl))
      · rw [escapes_eq_zero hmem]
        exact Nat.zero_le _
    have hsum : escapes (c :: s) = escapes [c] + escapes s := escapes_append [c] s
    rw [escapes_append, hsum]
    exact Nat.add_le_add hhead ih

/-! Numbers and articles. -/

namespace English

/-- Letters, digits and signs, at least one of them. -/
def isNumeric (s : List Char) : Bool := !s.isEmpty && s.all fun c => c.isAlphanum || c == '-'

section
variable {s t : List Char}

theorem isNumeric_append (hs : isNumeric s = true) (ht : isNumeric t = true) :
    isNumeric (s ++ t) = true := by
  simp only [isNumeric, Bool.and_eq_true, Bool.not_eq_true', List.isEmpty_eq_false_iff] at hs ht ⊢
  refine ⟨by simp [hs.1], ?_⟩
  rw [List.all_append, hs.2, ht.2]
  rfl

theorem not_mem_of_isNumeric {c : Char} (hc : (c.isAlphanum || c == '-') = false)
    (h : isNumeric s = true) : c ∉ s := by
  intro hmem
  rw [List.all_eq_true.mp (Bool.and_eq_true_iff.mp h).2 c hmem] at hc
  cases hc

end

theorem isNumeric_writeNat (n : Nat) : isNumeric (Numeral.writeNat n) = true := by
  have hne : Numeral.writeNat n ≠ [] := Nat.toDigits_ne_nil
  have hall : (Numeral.writeNat n).all (fun c => c.isAlphanum || c == '-') = true := by
    refine List.all_eq_true.mpr fun c hc => ?_
    have hdigit := Nat.isDigit_of_mem_toDigits (by decide) (by decide) hc
    simp [Char.isAlphanum, hdigit]
  simp [isNumeric, hne, hall]

theorem isNumeric_write (n : Int) : isNumeric (Numeral.write n) = true := by
  have hdigits := isNumeric_writeNat n.natAbs
  unfold Numeral.write
  split
  · exact isNumeric_append (s := ['-']) rfl hdigits
  · exact hdigits

theorem isNumeric_ordinal (n : Int) : isNumeric (ordinal n) = true := by
  have hsuffix : isNumeric (ordinalSuffix n) = true := by
    unfold ordinalSuffix
    split
    · rfl
    · split <;> rfl
  exact isNumeric_append (isNumeric_write n) hsuffix

theorem isNumeric_wordOf {words : List String}
    (hwords : (words.all fun w => isNumeric w.toList) = true) {s : List Char}
    (hs : isNumeric s = true) (n : Int) : isNumeric ((wordOf? words n).getD s) = true := by
  unfold wordOf?
  split
  · cases hget : words[n.toNat - 1]? with
    | none => exact hs
    | some w => exact List.all_eq_true.mp hwords w (List.mem_of_getElem? hget)
  · exact hs

theorem isNumeric_cardinal (n : Int) : isNumeric (cardinal n) = true :=
  isNumeric_wordOf (by decide) (isNumeric_write n) n

theorem isNumeric_ordinalInWords (n : Int) : isNumeric (ordinalInWords n) = true :=
  isNumeric_wordOf (by decide) (isNumeric_ordinal n) n

theorem isNumeric_article (word : List Char) (capital : Bool) :
    isNumeric (article word capital) = true := by
  unfold article
  cases capital <;> cases beginsWithVowelSound word <;> rfl

end English

namespace Grammar

/-! Readers. -/

section
variable {s rest : List Char}

theorem readCode_backslash {name : List Char} {code : Char × List Char}
    (h : readCode '\\' name s = some (code, rest)) :
    ∃ spelling : Spelling name, code = ('\\', spelling.letters) ∧
      s = '\\' :: (spelling.letters ++ rest) := by
  obtain ⟨e, letters⟩ := code
  obtain ⟨he, spelling, rfl⟩ := exists_spelling_of_readCode h
  obtain rfl : e = '\\' := uncased_backslash.alone e he
  exact ⟨spelling, rfl, readCode_eq_some h⟩

theorem exists_letters_of_spanCode {code : List Char} (h : SpanCode '\\' code) :
    ∃ letters, code = '\\' :: letters := by
  obtain ⟨e, he, letters, rfl, -⟩ := h.exists_letters
  obtain rfl := uncased_backslash.alone e he
  exact ⟨letters, rfl⟩

theorem readFold_backslash {fold : Fold} (h : readFold '\\' s = some (fold, rest)) :
    ∃ letters, s = '\\' :: (letters ++ rest) := by
  obtain ⟨code, hcode, rfl⟩ := readFold_eq_some h
  obtain ⟨letters, rfl⟩ := exists_letters_of_spanCode hcode
  exact ⟨letters, rfl⟩

theorem readArticle_backslash {code : Char × List Char}
    (h : readArticle '\\' s = some (code, rest)) :
    ∃ spelling : Spelling ['A', 'N'], code = ('\\', spelling.letters) ∧
      s = '\\' :: (spelling.letters ++ rest) := by
  simp only [readArticle, Option.bind_eq_bind, Option.bind_eq_some_iff] at h
  obtain ⟨⟨code', t⟩, hcode, h⟩ := h
  split at h
  · cases h
  · cases h
    exact readCode_backslash hcode

theorem readNumberCode_backslash {name argument : List Char}
    (h : readNumberCode '\\' name s = some (argument, rest)) :
    ∃ letters, s = '\\' :: (letters ++ (argumentSource argument ++ rest)) := by
  simp only [readNumberCode, Option.bind_eq_bind, Option.bind_eq_some_iff] at h
  obtain ⟨⟨code, t⟩, hcode, hargument⟩ := h
  obtain ⟨spelling, -, rfl⟩ := readCode_backslash hcode
  exact ⟨spelling.letters, by rw [← readArgument_eq_some hargument]⟩

theorem readFoldedArticle_backslash {m : Fold × Char × List Char}
    (h : readFoldedArticle '\\' s = some (m, rest)) :
    ∃ letters, ∃ spelling : Spelling ['A', 'N'], m.2 = ('\\', spelling.letters) ∧
      s = '\\' :: (letters ++ '\\' :: (spelling.letters ++ rest)) := by
  simp only [readFoldedArticle, Option.bind_eq_bind, Option.bind_eq_some_iff, Option.pure_def,
    Option.some.injEq, Prod.mk.injEq] at h
  obtain ⟨⟨fold, t⟩, hfold, ⟨code, u⟩, hcode, rfl, rfl⟩ := h
  obtain ⟨letters, rfl⟩ := readFold_backslash hfold
  obtain ⟨spelling, hspelling, ht⟩ := readArticle_backslash hcode
  exact ⟨letters, spelling, hspelling, by rw [← ht]⟩

theorem readFoldedSpan_backslash {m : Fold × List Char}
    (h : readFoldedSpan '\\' s = some (m, rest)) :
    ∃ letters, s = '\\' :: (letters ++ (spanSource m.2 ++ rest)) := by
  obtain ⟨code, hcode, -, rfl⟩ := readFoldedSpan_eq_some h
  obtain ⟨letters, rfl⟩ := exists_letters_of_spanCode hcode
  exact ⟨letters, rfl⟩

theorem readFoldedChar_backslash {m : Fold × List Char}
    (h : readFoldedChar '\\' s = some (m, rest)) :
    ∃ letters, s = '\\' :: (letters ++ (m.2 ++ rest)) := by
  simp only [readFoldedChar, Option.bind_eq_bind, Option.bind_eq_some_iff] at h
  obtain ⟨⟨fold, t⟩, hfold, h⟩ := h
  obtain ⟨letters, rfl⟩ := readFold_backslash hfold
  cases t with
  | nil =>
    cases h
    exact ⟨letters, rfl⟩
  | cons c t =>
    dsimp only at h
    split at h
    · cases h
    · cases h
      exact ⟨letters, rfl⟩

theorem readArticleFor_backslash {m : Bool × List Char}
    (h : readArticleFor '\\' s = some (m, rest)) :
    ∃ spelling : Spelling ['A', 'N'], s = '\\' :: (spelling.letters ++ rest) := by
  simp only [readArticleFor, Option.bind_eq_bind, Option.bind_eq_some_iff, Option.pure_def,
    Option.some.injEq, Prod.mk.injEq] at h
  obtain ⟨⟨code, t⟩, hcode, rfl, rfl⟩ := h
  obtain ⟨spelling, -, hs⟩ := readArticle_backslash hcode
  exact ⟨spelling, hs⟩

end

/-- Every mark of a reader begins with the escape, and what is written in its place has no more
escapes than what follows that one in the mark. -/
structure Pays {α : Type} (read : Reader α) (write : α → Except NumeralFault (List Char)) :
    Prop where
  code : ∀ s a rest, read s = some (a, rest) → ∃ code, s = '\\' :: (code ++ rest) ∧
    ∀ part, write a = .ok part → escapes part ≤ escapes code

theorem Pays.consumes {α : Type} {read : Reader α} {write : α → Except NumeralFault (List Char)}
    (h : Pays read write) : read.Consumes := by
  intro s a rest hr
  obtain ⟨code, rfl, -⟩ := h.code s a rest hr
  simp only [List.length_cons, List.length_append]
  omega

theorem pays_number (name : List Char) {f : Int → List Char}
    (hf : ∀ n, English.isNumeric (f n) = true) :
    Pays (readNumberCode '\\' name) (writeNumber f) := by
  refine ⟨fun s argument rest h => ?_⟩
  obtain ⟨letters, rfl⟩ := readNumberCode_backslash h
  refine ⟨letters ++ argumentSource argument, by simp, fun part hpart => ?_⟩
  have hin : escapes argument ≤ escapes (letters ++ argumentSource argument) :=
    escapes_le_of_isInfix ⟨letters ++ ['['], [']'], by simp [argumentSource]⟩
  unfold writeNumber at hpart
  split at hpart
  · cases hpart
    exact Nat.le_trans (escapes_le_of_isInfix (trim_isInfix argument)) hin
  · rename_i n hn
    cases n with
    | error fault => cases hpart
    | ok n =>
      cases hpart
      rw [escapes_eq_zero (English.not_mem_of_isNumeric rfl (hf n))]
      exact Nat.zero_le _

theorem pays_foldedArticle :
    Pays (readFoldedArticle '\\') (fun m => .ok (m.2.1 :: m.1.apply m.2.2)) := by
  refine ⟨fun s ⟨fold, code⟩ rest h => ?_⟩
  obtain ⟨letters, spelling, hcode, rfl⟩ := readFoldedArticle_backslash h
  obtain rfl : code = ('\\', spelling.letters) := hcode
  refine ⟨letters ++ '\\' :: spelling.letters, by simp, ?_⟩
  rintro part ⟨⟩
  calc escapes ('\\' :: fold.apply spelling.letters)
      = 1 + escapes (fold.apply spelling.letters) := escapes_append ['\\'] _
    _ ≤ 1 + escapes spelling.letters :=
      Nat.add_le_add_left (escapes_le_of_folded (folded_apply fold _)) 1
    _ = escapes ('\\' :: spelling.letters) := (escapes_append ['\\'] _).symm
    _ ≤ escapes (letters ++ '\\' :: spelling.letters) :=
      escapes_le_of_isInfix (List.suffix_append letters _).isInfix

theorem pays_foldedSpan : Pays (readFoldedSpan '\\') (fun m => .ok (m.1.apply m.2)) := by
  refine ⟨fun s ⟨fold, span⟩ rest h => ?_⟩
  obtain ⟨letters, rfl⟩ := readFoldedSpan_backslash h
  refine ⟨letters ++ spanSource span, by simp, ?_⟩
  rintro part ⟨⟩
  exact Nat.le_trans (escapes_le_of_folded (folded_apply fold span))
    (escapes_le_of_isInfix ⟨letters ++ ['\x7b'], ['\x7d'], by simp [spanSource]⟩)

theorem pays_foldedChar : Pays (readFoldedChar '\\') (fun m => .ok (m.1.apply m.2)) := by
  refine ⟨fun s ⟨fold, chars⟩ rest h => ?_⟩
  obtain ⟨letters, rfl⟩ := readFoldedChar_backslash h
  refine ⟨letters ++ chars, by simp, ?_⟩
  rintro part ⟨⟩
  exact Nat.le_trans (escapes_le_of_folded (folded_apply fold chars))
    (escapes_le_of_isInfix (List.suffix_append letters chars).isInfix)

theorem pays_articleFor :
    Pays (readArticleFor '\\') (fun m => .ok (English.article m.2 m.1)) := by
  refine ⟨fun s m rest h => ?_⟩
  obtain ⟨spelling, rfl⟩ := readArticleFor_backslash h
  refine ⟨spelling.letters, rfl, ?_⟩
  rintro part ⟨⟩
  rw [escapes_eq_zero (English.not_mem_of_isNumeric rfl (English.isNumeric_article _ _))]
  exact Nat.zero_le _

/-! Stages. -/

/-- The stages of the numbers come first, those of the folds and the articles after them. -/
theorem apply_eq_ok {escape : Char} {s cardinals words numbers : List Char}
    (hcardinals : numberWords escape s = .ok cardinals)
    (hwords : replaceMarksM (readNumberCode escape "ORDWORD".toList)
      (writeNumber English.ordinalInWords) cardinals = .ok words)
    (hnumbers : replaceMarksM (readNumberCode escape "ORD".toList)
      (writeNumber English.ordinal) words = .ok numbers) :
    apply escape s = .ok (articles escape (folds escape numbers)) := by
  have hordinals : ordinals escape cardinals = .ok numbers := by
    rw [ordinals, hwords]
    exact hnumbers
  rw [apply, hcardinals]
  show (ordinals escape cardinals >>= _) = _
  rw [hordinals]
  rfl

/-- A stage of the writing: a text with nothing for it to write stays as it is, and any other text
loses an escape; without an escape there is nothing to write. -/
structure Settling (stage : List Char → Except NumeralFault (List Char))
    (written : List Char → Prop) : Prop where
  bare : ∀ s, escapes s = 0 → written s
  same : ∀ s, written s → stage s = .ok s
  fewer : ∀ s t, stage s = .ok t → ¬ written s → escapes t < escapes s

/-- A stage, a number of times. -/
def times (stage : List Char → Except NumeralFault (List Char)) :
    Nat → List Char → Except NumeralFault (List Char)
  | 0, s => .ok s
  | n + 1, s => stage s >>= times stage n

namespace Settling
variable {stage next : List Char → Except NumeralFault (List Char)}
  {written written' : List Char → Prop} {s t : List Char}

theorem eq_or_fewer (h : Settling stage written) (hs : stage s = .ok t) :
    written s ∧ t = s ∨ escapes t < escapes s := by
  by_cases hw : written s
  · left
    rw [h.same s hw] at hs
    exact ⟨hw, (Except.ok.inj hs).symm⟩
  · exact Or.inr (h.fewer s t hs hw)

theorem eq_self_iff (h : Settling stage written) : stage s = .ok s ↔ written s := by
  refine ⟨fun hs => ?_, h.same s⟩
  rcases h.eq_or_fewer hs with ⟨hw, -⟩ | hlt
  · exact hw
  · exact absurd hlt (Nat.lt_irrefl _)

theorem congr (h : Settling stage written) (hstage : ∀ s, next s = stage s)
    (hwritten : ∀ s, written' s ↔ written s) : Settling next written' := by
  obtain rfl : next = stage := funext hstage
  obtain rfl : written' = written := funext fun s => propext (hwritten s)
  exact h

/-- One stage after another. -/
theorem bind (h : Settling stage written) (h' : Settling next written') :
    Settling (fun s => stage s >>= next) (fun s => written s ∧ written' s) := by
  refine ⟨fun s hs => ⟨h.bare s hs, h'.bare s hs⟩, fun s hw => ?_, fun s t ht hnot => ?_⟩
  · rw [h.same s hw.1]
    exact h'.same s hw.2
  · obtain ⟨u, hu, hnext⟩ := bind_eq_ok ht
    rcases h.eq_or_fewer hu with ⟨hw, rfl⟩ | hlt <;>
      rcases h'.eq_or_fewer hnext with ⟨hw', rfl⟩ | hlt'
    · exact absurd ⟨hw, hw'⟩ hnot
    · exact hlt'
    · exact hlt
    · exact Nat.lt_trans hlt' hlt

theorem times_of_written (h : Settling stage written) (n : Nat) (hw : written s) :
    times stage n s = .ok s := by
  induction n with
  | zero => rfl
  | succ n ih =>
    rw [times, h.same s hw]
    exact ih

/-- As many times as a text has escapes are enough to have everything written. -/
theorem written_of_times (h : Settling stage written) {n : Nat} {s t : List Char}
    (hn : escapes s ≤ n) (ht : times stage n s = .ok t) : written t := by
  induction n generalizing s with
  | zero =>
    cases ht
    exact h.bare _ (Nat.le_zero.mp hn)
  | succ n ih =>
    obtain ⟨u, hu, hrest⟩ := bind_eq_ok ht
    rcases h.eq_or_fewer hu with ⟨hw, rfl⟩ | hlt
    · -- nothing changes any more in the rounds that are left
      have hsame := Except.ok.inj ((h.times_of_written n hw).symm.trans hrest)
      exact hsame ▸ hw
    · exact ih (by omega) hrest

end Settling

section
variable {α : Type} {read : Reader α} {write : α → Except NumeralFault (List Char)}

theorem Pays.settling (h : Pays read write) :
    Settling (replaceMarksM read write) (fun s => marks read s = []) := by
  refine ⟨fun s hs => ?_, fun s hs => replaceMarksM_of_marks_eq_nil hs write,
    fun s t ht hnot => ?_⟩
  · induction s with
    | nil => rfl
    | cons c s ih =>
      have hsum : escapes (c :: s) = escapes [c] + escapes s := escapes_append [c] s
      have hr : read (c :: s) = none := by
        cases hr : read (c :: s) with
        | none => rfl
        | some r =>
          obtain ⟨code, hcode, -⟩ := h.code _ _ _ hr
          cases hcode
          simp [escapes] at hs
      rw [marks_cons_of_none hr]
      exact ih (by omega)
  · have hcount := measure_of_replaceMarksM h.consumes escapes_append (n := 1) ?_ ht
    · have hpos := List.length_pos_iff.mpr hnot
      omega
    · intro u a rest part hr ha
      obtain ⟨code, rfl, hpart⟩ := h.code u a rest hr
      have hle := hpart part ha
      have hsum : escapes ('\\' :: (code ++ rest)) = 1 + (escapes code + escapes rest) := by
        rw [← escapes_append]
        exact escapes_append ['\\'] _
      omega

theorem Pays.settling_replaceMarks {f : α → List Char} (h : Pays read (fun a => .ok (f a))) :
    Settling (fun s => .ok (replaceMarks read f s)) (fun s => marks read s = []) := by
  have hsettling := h.settling
  rwa [funext (replaceMarksM_ok h.consumes f)] at hsettling

end

theorem escapes_foldSpans_le (rounds : Nat) (s : List Char) :
    escapes (foldSpans '\\' rounds s) ≤ escapes s := by
  induction rounds generalizing s with
  | zero => exact Nat.le_refl _
  | succ rounds ih =>
    simp only [foldSpans]
    split
    · exact Nat.le_refl _
    · rename_i hne
      rcases pays_foldedSpan.settling_replaceMarks.eq_or_fewer rfl with ⟨-, hsame⟩ | hlt
      · exact absurd hsame hne
      · exact Nat.le_trans (ih _) (Nat.le_of_lt hlt)

theorem settling_foldSpans : Settling (fun s => .ok (foldSpans '\\' (s.length + 1) s))
    (fun s => marks (readFoldedSpan '\\') s = []) := by
  have honce := pays_foldedSpan.settling_replaceMarks
  refine ⟨honce.bare, fun s hw => ?_, ?_⟩
  · have hsame : foldSpansOnce '\\' s = s := Except.ok.inj (honce.same s hw)
    simp [foldSpans, hsame]
  · rintro s t ⟨⟩ hnot
    have hlt : escapes (foldSpansOnce '\\' s) < escapes s := honce.fewer s _ rfl hnot
    have hne : foldSpansOnce '\\' s ≠ s := by
      intro hsame
      rw [hsame] at hlt
      exact Nat.lt_irrefl _ hlt
    simp only [foldSpans, if_neg hne]
    exact Nat.lt_of_le_of_lt (escapes_foldSpans_le _ _) hlt

/-- A text without grammar codes. -/
structure Written (escape : Char) (s : List Char) : Prop where
  cardinals : marks (readNumberCode escape "NUMWORD".toList) s = []
  ordinalWords : marks (readNumberCode escape "ORDWORD".toList) s = []
  ordinals : marks (readNumberCode escape "ORD".toList) s = []
  foldedArticles : marks (readFoldedArticle escape) s = []
  foldedSpans : marks (readFoldedSpan escape) s = []
  foldedChars : marks (readFoldedChar escape) s = []
  articles : marks (readArticleFor escape) s = []

namespace Written
variable {escape : Char} {s : List Char} (h : Written escape s)
include h

theorem folds_eq_self : folds escape s = s := by
  have harticles : foldArticles escape s = s := replaceMarks_of_marks_eq_nil h.foldedArticles _
  have honce : foldSpansOnce escape s = s := replaceMarks_of_marks_eq_nil h.foldedSpans _
  have hspans : foldSpans escape (s.length + 1) s = s := by simp [foldSpans, honce]
  rw [folds, harticles, hspans]
  exact replaceMarks_of_marks_eq_nil h.foldedChars _

theorem apply_eq_ok : apply escape s = .ok s := by
  have harticles : Grammar.articles escape s = s := replaceMarks_of_marks_eq_nil h.articles _
  rw [Grammar.apply_eq_ok (replaceMarksM_of_marks_eq_nil h.cardinals _)
    (replaceMarksM_of_marks_eq_nil h.ordinalWords _)
    (replaceMarksM_of_marks_eq_nil h.ordinals _), h.folds_eq_self, harticles]

end Written

theorem settling_apply : Settling (apply '\\') (Written '\\') := by
  have hnumbers := (pays_number "NUMWORD".toList English.isNumeric_cardinal).settling.bind
    ((pays_number "ORDWORD".toList English.isNumeric_ordinalInWords).settling.bind
      (pays_number "ORD".toList English.isNumeric_ordinal).settling)
  have hfolds := pays_foldedArticle.settling_replaceMarks.bind
    (settling_foldSpans.bind pays_foldedChar.settling_replaceMarks)
  have hall := hnumbers.bind (hfolds.bind pays_articleFor.settling_replaceMarks)
  refine hall.congr (fun s => ?_) fun s => ⟨fun h => ?_, fun h => ?_⟩
  · simp only [apply, numberWords, ordinals, bind_assoc]
    rfl
  · exact ⟨⟨h.cardinals, h.ordinalWords, h.ordinals⟩,
      ⟨h.foldedArticles, h.foldedSpans, h.foldedChars⟩, h.articles⟩
  · obtain ⟨⟨hcardinals, hordinalWords, hordinals⟩, ⟨harticles, hspans, hchars⟩, hfinal⟩ := h
    exact ⟨hcardinals, hordinalWords, hordinals, harticles, hspans, hchars, hfinal⟩

end Grammar

end DialogueMarkup
