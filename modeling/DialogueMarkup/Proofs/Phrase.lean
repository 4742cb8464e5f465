import DialogueMarkup.Proofs.Idempotence
import DialogueMarkup.Proofs.Numerals
import DialogueMarkup.Proofs.Tree

/-! Phrases: characters, number codes and case spans, and spans of such sequences. A phrase has a
value that its parts determine. The stages of the writing reach it by way of texts in which some
number codes and the higher spans still stand as codes. -/
namespace DialogueMarkup
open Text Markup

namespace Markup

/-- What a number code writes for an integer. -/
def NumberCode.write : NumberCode → Int → List Char
  | cardinal => English.cardinal
  | ordinal => English.ordinal
  | ordinalInWords => English.ordinalInWords

theorem NumberCode.isNumeric_write (kind : NumberCode) (n : Int) :
    English.isNumeric (kind.write n) = true := by
  cases kind with
  | cardinal => exact English.isNumeric_cardinal n
  | ordinal => exact English.isNumeric_ordinal n
  | ordinalInWords => exact English.isNumeric_ordinalInWords n

end Markup

namespace Grammar

/-! Quantities. -/

/-- What may stand in the brackets of a number code: an integer of no more digits than can be read,
or a text that is no integer. -/
inductive Quantity
  | integer (i : Numeral.Figure) (short : i.digits.length ≤ Numeral.maxDigits)
  | other (text : List Char) (unmarked : Unmarked text) (no_bracket : ']' ∉ text)
    (not_integer : ∀ i : Numeral.Figure, i.text ≠ text)

namespace Quantity

def text : Quantity → List Char
  | integer i _ => i.text
  | other text _ _ _ => text

/-- What a number code writes in the place of a quantity. -/
def written (kind : NumberCode) : Quantity → List Char
  | integer i _ => kind.write i.value
  | other text _ _ _ => trim text

/-- An integer is written with blanks, digits and a minus. -/
theorem not_mem_figure {c : Char} (hc : isBlank c = false ∧ isDecimal c = false ∧ c ≠ '-')
    (i : Numeral.Figure) : c ∉ i.text := by
  obtain ⟨hblank, hdecimal, hminus⟩ := hc
  intro hmem
  simp only [Numeral.Figure.text, List.mem_append] at hmem
  rcases hmem with hmem | hmem | hmem | hmem
  · rw [i.blank_before c hmem] at hblank
    cases hblank
  · unfold Numeral.signOf at hmem
    split at hmem
    · exact hminus (List.mem_singleton.mp hmem)
    · cases hmem
  · rw [i.decimal c hmem] at hdecimal
    cases hdecimal
  · rw [i.blank_after c hmem] at hblank
    cases hblank

theorem unmarked_text (q : Quantity) : Unmarked q.text := by
  cases q with
  | integer i short =>
    intro c hc
    cases hmark : isMark c with
    | false => rfl
    | true =>
      refine absurd hc (not_mem_figure ?_ i)
      rcases isMark_iff.mp hmark with rfl | rfl | rfl <;> decide
  | other text unmarked _ _ => exact unmarked

theorem not_mem_text (q : Quantity) : ']' ∉ q.text := by
  cases q with
  | integer i short => exact not_mem_figure (by decide) i
  | other text _ no_bracket _ => exact no_bracket

theorem unmarked_written (kind : NumberCode) (q : Quantity) : Unmarked (q.written kind) := by
  cases q with
  | integer i short => exact unmarked_of_isNumeric (kind.isNumeric_write i.value)
  | other text unmarked _ _ => exact fun c hc => unmarked c ((trim_isInfix text).subset hc)

theorem writeNumber_text (kind : NumberCode) (q : Quantity) :
    writeNumber kind.write q.text = .ok (q.written kind) := by
  cases q with
  | integer i short => simp [writeNumber, text, written, i.readPlain_text short, Except.map]
  | other text unmarked no_bracket not_integer =>
    have hnone : Numeral.readPlain text = none := by
      cases hread : Numeral.readPlain text with
      | none => rfl
      | some x =>
        obtain ⟨i, hi⟩ := Numeral.exists_figure_of_readPlain hread
        exact absurd hi (not_integer i)
    simp [writeNumber, Quantity.text, written, hnone]

end Quantity

/-! Phrases. -/

/-- A sequence of characters, number codes and case spans; every constructor but the first holds
what follows. -/
inductive Phrase
  | nil
  | char (c : Char) (unmarked : isMark c = false) (rest : Phrase)
  | number (kind : NumberCode) (spelling : Spelling kind.name) (quantity : Quantity)
    (rest : Phrase)
  | span (fold : Fold) (spelling : Spelling (foldName fold)) (body rest : Phrase)

/-- Folds the first character of a text. -/
def Fold.first (fold : Fold) : List Char → List Char
  | [] => []
  | c :: s => fold.apply [c] ++ s

namespace Phrase

/-- A phrase as it is written. -/
def source : Phrase → List Char
  | nil => []
  | char c _ rest => c :: rest.source
  | number _ spelling quantity rest =>
    '\\' :: (spelling.letters ++ (argumentSource quantity.text ++ rest.source))
  | span _ spelling body rest =>
    '\\' :: (spelling.letters ++ (spanSource body.source ++ rest.source))

/-- The text that a phrase means: a span folds the whole value of its body. -/
def value : Phrase → List Char
  | nil => []
  | char c _ rest => c :: rest.value
  | number kind _ quantity rest => quantity.written kind ++ rest.value
  | span fold _ body rest => fold.apply body.value ++ rest.value

/-- How deep spans are nested. -/
def height : Phrase → Nat
  | nil => 0
  | char _ _ rest | number _ _ _ rest => rest.height
  | span _ _ body rest => max (body.height + 1) rest.height

/-- A phrase on its way: number codes of the kinds that are pending are still codes, and so are the
spans of bodies of height `n` and more. -/
def print (pending : List NumberCode) (n : Nat) : Phrase → List Char
  | nil => []
  | char c _ rest => c :: rest.print pending n
  | number kind spelling quantity rest =>
    (if kind ∈ pending then '\\' :: (spelling.letters ++ argumentSource quantity.text)
      else quantity.written kind) ++ rest.print pending n
  | span fold spelling body rest =>
    (if body.height < n then fold.apply body.value
      else '\\' :: (spelling.letters ++ spanSource (body.print pending n))) ++ rest.print pending n

section
variable (p : Phrase)

theorem print_eq_source : p.print [.cardinal, .ordinalInWords, .ordinal] 0 = p.source := by
  induction p with
  | nil => rfl
  | char c unmarked rest ih => rw [print, source, ih]
  | number kind spelling quantity rest ih => cases kind <;> simp [print, source, ih]
  | span fold spelling body rest ihb ih => simp [print, source, ihb, ih]

theorem print_eq_value {n : Nat} (h : p.height ≤ n) : p.print [] n = p.value := by
  induction p with
  | nil => rfl
  | char c unmarked rest ih => rw [print, value, ih h]
  | number kind spelling quantity rest ih => simp [print, value, ih h]
  | span fold spelling body rest ihb ih =>
    simp only [height, Nat.max_le] at h
    rw [print, value, if_pos (Nat.lt_of_succ_le h.1), ih h.2]

theorem unmarked_value : Unmarked p.value := by
  induction p with
  | nil => simp [Unmarked, value]
  | char c unmarked rest ih => exact List.forall_mem_cons.mpr ⟨unmarked, ih⟩
  | number kind spelling quantity rest ih =>
    exact List.forall_mem_append.mpr ⟨quantity.unmarked_written kind, ih⟩
  | span fold spelling body rest ihb ih =>
    exact List.forall_mem_append.mpr ⟨ihb.folded (folded_apply fold body.value), ih⟩

/-- A phrase is long enough for its spans. -/
theorem height_le_length : p.height ≤ (p.print [] 0).length := by
  induction p with
  | nil => exact Nat.le_refl _
  | char c unmarked rest ih => exact Nat.le_succ_of_le ih
  | number kind spelling quantity rest ih =>
    rw [print, List.length_append]
    exact Nat.le_add_left_of_le ih
  | span fold spelling body rest ihb ih =>
    simp only [print, height, Nat.not_lt_zero, if_false, spanSource, List.length_append,
      List.length_cons]
    omega

end

end Phrase

/-! Readers at the codes of a phrase. -/

theorem ne_escape_of_unmarked {c : Char} (h : isMark c = false) : c ≠ '\\' := by
  rintro rfl
  exact absurd h (by decide)

theorem readFold_foldName (fold : Fold) (spelling : Spelling (foldName fold)) (rest : List Char) :
    readFold '\\' ('\\' :: (spelling.letters ++ rest)) = some (fold, rest) := by
  have hread := readCode_spelling spelling rest
  cases fold with
  | up => simp only [readFold, foldName] at hread ⊢; rw [hread]
  | low =>
    have hup : readCode '\\' ['U', 'P'] ('\\' :: (spelling.letters ++ rest)) = none :=
      readCode_of_readWord (readWord_of_clash spelling (by decide) rest)
    simp only [readFold, foldName] at hread ⊢
    rw [hup, hread]
    rfl

theorem foldName_mem (fold : Fold) : foldName fold ∈ codeNames := by cases fold <;> decide

theorem numberName_mem (kind : NumberCode) : kind.name ∈ codeNames := by cases kind <;> decide

theorem clash_foldName (kind : NumberCode) (fold : Fold) :
    clash kind.name (foldName fold) = true := by
  cases kind <;> cases fold <;> decide

/-- A code by another name is not the code of a number. -/
theorem readNumberCode_of_clash {name other : List Char} (spelling : Spelling other)
    (h : clash name other = true) (rest : List Char) :
    readNumberCode '\\' name ('\\' :: (spelling.letters ++ rest)) = none := by
  have hnone := readCode_of_readWord (readWord_of_clash spelling h rest)
  simp [readNumberCode, hnone]

/-! Stages at the codes of a phrase. -/

section
variable {α : Type} {read : Reader α} {write : α → Except NumeralFault (List Char)}
  (h : Pays read write) {letters s t : List Char}
include h

/-- A stage leaves a text without escapes as it is, whatever follows. -/
theorem Pays.rewrites_same (hs : '\\' ∉ s) : Rewrites read write s s := by
  refine .same fun c hc rest => h.eq_none_of_ne ?_ rest
  rintro rfl
  exact hs hc

theorem Pays.rewrites_char {c : Char} (hc : isMark c = false) (hs : Rewrites read write s t) :
    Rewrites read write (c :: s) (c :: t) :=
  .cons (fun _ => h.eq_none_of_ne (ne_escape_of_unmarked hc) _) hs

/-- A code that a stage passes over stays in front of what the stage makes of the rest. -/
theorem Pays.rewrites_code (hletters : '\\' ∉ letters)
    (hread : ∀ rest, read ('\\' :: (letters ++ (s ++ rest))) = none)
    (hs : Rewrites read write s t) :
    Rewrites read write ('\\' :: (letters ++ s)) ('\\' :: (letters ++ t)) := by
  refine .cons (fun rest => ?_) ((h.rewrites_same hletters).append hs)
  rw [List.append_assoc]
  exact hread rest

theorem Pays.rewrites_span (hs : Rewrites read write s t) :
    Rewrites read write (spanSource s) (spanSource t) := by
  have hopen : Rewrites read write ['\x7b'] ['\x7b'] := h.rewrites_same (by decide)
  have hclose : Rewrites read write ['\x7d'] ['\x7d'] := h.rewrites_same (by decide)
  exact hopen.append (hs.append hclose)

/-- A fold in front of a text is passed over if it is not read. -/
theorem Pays.replaceMarksM_code (hletters : '\\' ∉ letters)
    (hread : read ('\\' :: (letters ++ s)) = none) (hs : replaceMarksM read write s = .ok t) :
    replaceMarksM read write ('\\' :: (letters ++ s)) = .ok ('\\' :: (letters ++ t)) := by
  rw [replaceMarksM_of_none hread, h.rewrites_same hletters s, hs]
  rfl

end

section
variable {α : Type} {read : Reader α} {f : α → List Char} (h : Pays read fun a => .ok (f a))
  {s : List Char}
include h

theorem Pays.replaceMarks_of_not_mem (hs : '\\' ∉ s) : replaceMarks read f s = s :=
  (h.rewrites_same hs).eq h.consumes

theorem Pays.replaceMarks_code {letters : List Char} (hletters : '\\' ∉ letters)
    (hread : read ('\\' :: (letters ++ s)) = none) :
    replaceMarks read f ('\\' :: (letters ++ s)) = '\\' :: (letters ++ replaceMarks read f s) := by
  have hs := h.replaceMarksM_code hletters hread (replaceMarksM_ok h.consumes f s)
  rw [replaceMarksM_ok h.consumes] at hs
  exact Except.ok.inj hs

end

namespace Phrase

/-! Stages on a phrase. -/

/-- A number code is written in the stage of its kind; the other codes stay. -/
theorem rewrites_number (kind : NumberCode) {later : List NumberCode}
    (hlater : ∀ k ∈ later, clash kind.name (k.name ++ ['[']) = true) (p : Phrase) :
    Rewrites (readNumberCode '\\' kind.name) (writeNumber kind.write)
      (p.print (kind :: later) 0) (p.print later 0) := by
  have hstage := pays_number kind.name kind.isNumeric_write
  have hnot : kind ∉ later := by
    intro hmem
    have hclash := hlater kind hmem
    revert hclash
    cases kind <;> decide
  -- what becomes of a code never depends on what follows it, so the parts are written one by one
  induction p with
  | nil => exact .nil
  | char c unmarked rest ih => exact hstage.rewrites_char unmarked ih
  | number other spelling quantity rest ih =>
    refine .append ?_ ih
    have hletters := (unmarked_letters (numberName_mem other) spelling).not_mem
    have hargument : '\\' ∉ argumentSource quantity.text := by
      simp [argumentSource, quantity.unmarked_text.not_mem]
    -- a code of this stage, of a later one, or the text that an earlier stage wrote
    by_cases hown : other = kind
    · subst hown
      rw [if_pos List.mem_cons_self, if_neg hnot]
      refine .mark hstage.consumes (fun rest => ?_) (quantity.writeNumber_text other)
      simp [readNumberCode, readCode_spelling, readArgument_argumentSource quantity.not_mem_text]
    · by_cases hmem : other ∈ later
      · rw [if_pos (List.mem_cons_of_mem kind hmem), if_pos hmem]
        refine hstage.rewrites_code hletters (fun rest => ?_) (hstage.rewrites_same hargument)
        have hnone := readCode_of_clash_bracket spelling (hlater other hmem) quantity.text rest
        simp [readNumberCode, hnone]
      · rw [if_neg (by simp [hown, hmem]), if_neg hmem]
        exact hstage.rewrites_same (quantity.unmarked_written other).not_mem
  | span fold spelling body rest ihb ih =>
    refine .append ?_ ih
    have hletters := (unmarked_letters (foldName_mem fold) spelling).not_mem
    rw [if_neg (Nat.not_lt_zero _), if_neg (Nat.not_lt_zero _)]
    exact hstage.rewrites_code hletters
      (fun _ => readNumberCode_of_clash spelling (clash_foldName kind fold) _)
      (hstage.rewrites_span ihb)

/-- No fold in a phrase is that of an article. -/
theorem rewrites_foldArticles (p : Phrase) :
    Rewrites (readFoldedArticle '\\')
      (fun m => (.ok (m.2.1 :: m.1.apply m.2.2) : Except NumeralFault (List Char)))
      (p.print [] 0) (p.print [] 0) := by
  have hstage := pays_foldedArticle
  induction p with
  | nil => exact .nil
  | char c unmarked rest ih => exact hstage.rewrites_char unmarked ih
  | number kind spelling quantity rest ih =>
    exact .append (hstage.rewrites_same (quantity.unmarked_written kind).not_mem) ih
  | span fold spelling body rest ihb ih =>
    refine .append ?_ ih
    have hletters := (unmarked_letters (foldName_mem fold) spelling).not_mem
    have hother : sameLetter '\\' '\x7b' = false := by decide
    rw [if_neg (Nat.not_lt_zero _)]
    refine hstage.rewrites_code hletters (fun rest => ?_) (hstage.rewrites_span ihb)
    simp [readFoldedArticle, readFold_foldName, readArticle, readCode, spanSource, readEscape,
      hother]

/-- In a phrase with a span that is still a code the first brace opens one. -/
theorem head?_braces_print {p : Phrase} {n : Nat} (h : n < p.height) :
    (braces (p.print [] n)).head? = some '\x7b' := by
  induction p with
  | nil => exact absurd h (Nat.not_lt_zero n)
  | char c unmarked rest ih =>
    have hhead : Unmarked [c] := by simpa [Unmarked] using unmarked
    have hc : braces [c] = [] := braces_eq_nil hhead.isNoBrace
    rw [print, ← List.singleton_append, braces_append, hc]
    exact ih h
  | number kind spelling quantity rest ih =>
    have hwritten := braces_eq_nil (quantity.unmarked_written kind).isNoBrace
    simp only [print, List.not_mem_nil, if_false]
    rw [braces_append, hwritten]
    exact ih h
  | span fold spelling body rest ihb ih =>
    rw [print, braces_append]
    split
    · rename_i hlt
      have hfolded := body.unmarked_value.folded (folded_apply fold body.value)
      rw [braces_eq_nil hfolded.isNoBrace]
      apply ih
      simp only [height] at h
      omega
    · have hletters := unmarked_letters (foldName_mem fold) spelling
      have hcode : braces ('\\' :: spelling.letters) = [] := by
        refine braces_eq_nil fun c hc => ?_
        rcases List.mem_cons.mp hc with rfl | hc
        · decide
        · exact hletters.isNoBrace c hc
      rw [← List.cons_append, braces_append, hcode]
      rfl

/-- A round folds the spans of bodies of one height. -/
theorem rewrites_foldSpansOnce (n : Nat) (p : Phrase) :
    Rewrites (readFoldedSpan '\\')
      (fun m => (.ok (m.1.apply m.2) : Except NumeralFault (List Char)))
      (p.print [] n) (p.print [] (n + 1)) := by
  have hstage := pays_foldedSpan
  induction p with
  | nil => exact .nil
  | char c unmarked rest ih => exact hstage.rewrites_char unmarked ih
  | number kind spelling quantity rest ih =>
    exact .append (hstage.rewrites_same (quantity.unmarked_written kind).not_mem) ih
  | span fold spelling body rest ihb ih =>
    refine .append ?_ ih
    -- folded in an earlier round, to be folded in this one, or with a span that comes before it
    rcases Nat.lt_trichotomy body.height n with hlt | heq | hgt
    · have hfolded := body.unmarked_value.folded (folded_apply fold body.value)
      rw [if_pos hlt, if_pos (Nat.lt_succ_of_lt hlt)]
      exact hstage.rewrites_same hfolded.not_mem
    · rw [if_neg (by omega), if_pos (by omega), print_eq_value body (Nat.le_of_eq heq)]
      refine .mark hstage.consumes (a := (fold, body.value)) (fun rest => ?_) rfl
      simp [readFoldedSpan, readFold_foldName, readSpan_spanSource body.unmarked_value.isNoBrace]
    · have hletters := (unmarked_letters (foldName_mem fold) spelling).not_mem
      rw [if_neg (by omega), if_neg (by omega)]
      refine hstage.rewrites_code hletters (fun rest => ?_) (hstage.rewrites_span ihb)
      have hunclosed : unclosed (spanSource (body.print [] n) ++ rest) = true := by
        refine unclosed_iff.mpr ⟨body.print [] n ++ '\x7d' :: rest, by simp [spanSource], ?_⟩
        rw [braces_append, List.head?_append, head?_braces_print hgt]
        simp
      have hspan : readSpan (spanSource (body.print [] n) ++ rest) = none := by
        simpa using (Bool.and_eq_true_iff.mp hunclosed).2
      simp [readFoldedSpan, readFold_foldName, hspan]

theorem foldSpansOnce_print (n : Nat) (p : Phrase) :
    foldSpansOnce '\\' (p.print [] n) = p.print [] (n + 1) :=
  (p.rewrites_foldSpansOnce n).eq pays_foldedSpan.consumes

end Phrase

/-! A fold in front of a phrase. -/

/-- What a fold of a single character may stand in front of: no article and no opening brace. -/
def Foldable (s : List Char) : Prop := readArticle '\\' s = none ∧ s.head? ≠ some '\x7b'

theorem foldable_nil : Foldable [] := ⟨rfl, by simp⟩

theorem Foldable.append {xs s : List Char} (hxs : Unmarked xs) (hs : Foldable s) :
    Foldable (xs ++ s) := by
  cases xs with
  | nil => exact hs
  | cons c xs =>
    have hc := hxs c List.mem_cons_self
    have hescape := Escape.backslash.readEscape_of_ne (ne_escape_of_unmarked hc) (xs ++ s)
    constructor
    · simp only [readArticle, readCode, List.cons_append]
      rw [show readEscape '\\' (c :: (xs ++ s)) = none from hescape]
      rfl
    · rw [List.cons_append, List.head?_cons, ne_eq, Option.some.injEq]
      rintro rfl
      exact absurd hc (by decide)

theorem foldable_foldName {fold : Fold} (spelling : Spelling (foldName fold)) (s : List Char) :
    Foldable ('\\' :: (spelling.letters ++ s)) := by
  have hclash : clash ['A', 'N'] (foldName fold) = true := by cases fold <;> decide
  have hread := readCode_of_readWord (readWord_of_clash spelling hclash s)
  exact ⟨by simp [readArticle, hread], by simp⟩

theorem Phrase.foldable_print (n : Nat) (p : Phrase) : Foldable (p.print [] n) := by
  induction p with
  | nil => exact foldable_nil
  | char c unmarked rest ih =>
    have hhead : Unmarked [c] := by simpa [Unmarked] using unmarked
    exact ih.append hhead
  | number kind spelling quantity rest ih => exact ih.append (quantity.unmarked_written kind)
  | span fold spelling body rest _ ih =>
    rw [print]
    split
    · exact ih.append (body.unmarked_value.folded (folded_apply fold body.value))
    · rw [List.cons_append, List.append_assoc]
      exact foldable_foldName spelling _

section
variable {fold : Fold} (spelling : Spelling (foldName fold)) {s : List Char} (hs : Foldable s)
include hs

theorem Foldable.readFoldedArticle :
    readFoldedArticle '\\' ('\\' :: (spelling.letters ++ s)) = none := by
  simp [Grammar.readFoldedArticle, readFold_foldName, hs.1]

theorem Foldable.readFoldedSpan :
    readFoldedSpan '\\' ('\\' :: (spelling.letters ++ s)) = none := by
  have hspan : readSpan s = none := by
    cases s with
    | nil => rfl
    | cons c s =>
      have hc : c ≠ '\x7b' := by simpa using hs.2
      simp [readSpan, readChar, hc]
  simp [Grammar.readFoldedSpan, readFold_foldName, hspan]

end

theorem unmarked_first (fold : Fold) {s : List Char} (hs : Unmarked s) :
    Unmarked (fold.first s) := by
  cases s with
  | nil => exact hs
  | cons c s =>
    obtain ⟨hc, hs⟩ := List.forall_mem_cons.mp hs
    have hhead : Unmarked [c] := by simpa [Unmarked] using hc
    exact List.forall_mem_append.mpr ⟨hhead.folded (folded_apply fold [c]), hs⟩

/-- A fold in front of a text without codes folds its first character. -/
theorem foldChars_unmarked (fold : Fold) (spelling : Spelling (foldName fold)) {s : List Char}
    (hs : Unmarked s) : foldChars '\\' ('\\' :: (spelling.letters ++ s)) = fold.first s := by
  have hstage := pays_foldedChar
  cases s with
  | nil =>
    have hread : readFoldedChar '\\' ('\\' :: (spelling.letters ++ [])) =
        some ((fold, []), []) := by
      simp only [readFoldedChar, readFold_foldName]
      rfl
    rw [foldChars, replaceMarks_of_some hstage.consumes hread]
    cases fold <;> rfl
  | cons c s =>
    obtain ⟨hc, hs⟩ := List.forall_mem_cons.mp hs
    have hopen : c ≠ '\x7b' := by
      rintro rfl
      exact absurd hc (by decide)
    have hread : readFoldedChar '\\' ('\\' :: (spelling.letters ++ c :: s)) =
        some ((fold, [c]), s) := by
      simp [readFoldedChar, readFold_foldName, hopen]
    rw [foldChars, replaceMarks_of_some hstage.consumes hread,
      hstage.replaceMarks_of_not_mem (Unmarked.not_mem hs)]
    rfl

/-! The whole writing. -/

/-- Writes out the number codes. -/
def numbers (escape : Char) (s : List Char) : Except NumeralFault (List Char) :=
  numberWords escape s >>= ordinals escape

theorem apply_of_numbers {escape : Char} {s t : List Char} (h : numbers escape s = .ok t) :
    apply escape s = .ok (articles escape (folds escape t)) := by
  obtain ⟨cardinals, hcardinals, hordinals⟩ := bind_eq_ok h
  obtain ⟨words, hwords, hnumbers⟩ := bind_eq_ok hordinals
  exact apply_eq_ok hcardinals hwords hnumbers

/-- The stages of the numbers pass over a code by another name. -/
theorem numbers_code {name : List Char} (spelling : Spelling name) (hname : name ∈ codeNames)
    (hclash : ∀ kind : NumberCode, clash kind.name name = true) {s t : List Char}
    (h : numbers '\\' s = .ok t) :
    numbers '\\' ('\\' :: (spelling.letters ++ s)) = .ok ('\\' :: (spelling.letters ++ t)) := by
  have hletters := (unmarked_letters hname spelling).not_mem
  have hpass (kind : NumberCode) {u v : List Char}
      (hu : replaceMarksM (readNumberCode '\\' kind.name) (writeNumber kind.write) u = .ok v) :=
    (pays_number kind.name kind.isNumeric_write).replaceMarksM_code hletters
      (readNumberCode_of_clash spelling (hclash kind) u) hu
  obtain ⟨cardinals, hcardinals, hordinals⟩ := bind_eq_ok h
  obtain ⟨words, hwords, hnumbers⟩ := bind_eq_ok hordinals
  have hcode : ordinals '\\' ('\\' :: (spelling.letters ++ cardinals)) =
      .ok ('\\' :: (spelling.letters ++ t)) :=
    (congrArg (· >>= _) (hpass .ordinalInWords hwords)).trans (hpass .ordinal hnumbers)
  exact (congrArg (· >>= ordinals '\\') (hpass .cardinal hcardinals)).trans hcode

namespace Phrase
variable (p : Phrase)

/-- The stages of the numbers write out the number codes of a phrase, one kind after the other. -/
theorem numbers_source : numbers '\\' p.source = .ok (p.print [] 0) := by
  have hcardinals : numberWords '\\' p.source = .ok (p.print [.ordinalInWords, .ordinal] 0) := by
    rw [← p.print_eq_source]
    exact (p.rewrites_number .cardinal (by decide)).eq_ok
  have hwords : replaceMarksM _ _ (p.print [.ordinalInWords, .ordinal] 0) =
      .ok (p.print [.ordinal] 0) := (p.rewrites_number .ordinalInWords (by decide)).eq_ok
  have hnumbers : replaceMarksM _ _ (p.print [.ordinal] 0) = .ok (p.print [] 0) :=
    (p.rewrites_number .ordinal (by decide)).eq_ok
  have hordinals : ordinals '\\' (p.print [.ordinalInWords, .ordinal] 0) = .ok (p.print [] 0) :=
    (congrArg (· >>= _) hwords).trans hnumbers
  exact (congrArg (· >>= ordinals '\\') hcardinals).trans hordinals

theorem foldArticles_print : foldArticles '\\' (p.print [] 0) = p.print [] 0 :=
  p.rewrites_foldArticles.eq pays_foldedArticle.consumes

theorem iterate_foldSpansOnce (n : Nat) :
    (foldSpansOnce '\\')^[n] (p.print [] 0) = p.print [] n := by
  induction n with
  | zero => rfl
  | succ n ih => rw [Function.iterate_succ_apply', ih, foldSpansOnce_print]

/-- The spans of a phrase are folded from the inside out until its value is left. -/
theorem foldSpans_print {rounds : Nat} (h : (p.print [] 0).length ≤ rounds) :
    foldSpans '\\' rounds (p.print [] 0) = p.value := by
  rw [foldSpans_eq_iterate, iterate_foldSpansOnce]
  exact p.print_eq_value (Nat.le_trans p.height_le_length h)

theorem apply_source : apply '\\' p.source = .ok p.value := by
  have hvalue := p.unmarked_value.not_mem
  have hfolds : folds '\\' (p.print [] 0) = p.value := by
    rw [folds, p.foldArticles_print, p.foldSpans_print (Nat.le_succ _)]
    exact pays_foldedChar.replaceMarks_of_not_mem hvalue
  rw [apply_of_numbers p.numbers_source, hfolds]
  exact congrArg _ (pays_articleFor.replaceMarks_of_not_mem hvalue)

section
variable {letters : List Char} (hletters : '\\' ∉ letters)
include hletters

theorem foldArticles_code
    (hread : readFoldedArticle '\\' ('\\' :: (letters ++ p.print [] 0)) = none) :
    foldArticles '\\' ('\\' :: (letters ++ p.print [] 0)) = '\\' :: (letters ++ p.print [] 0) := by
  rw [foldArticles, pays_foldedArticle.replaceMarks_code hletters hread]
  exact congrArg (fun s => '\\' :: (letters ++ s)) p.foldArticles_print

/-- The spans of a phrase are folded behind a code that is no fold of a span. -/
theorem foldSpans_code
    (hread : ∀ n, readFoldedSpan '\\' ('\\' :: (letters ++ p.print [] n)) = none) {rounds : Nat}
    (h : (p.print [] 0).length ≤ rounds) :
    foldSpans '\\' rounds ('\\' :: (letters ++ p.print [] 0)) = '\\' :: (letters ++ p.value) := by
  have hiterate (n : Nat) : (foldSpansOnce '\\')^[n] ('\\' :: (letters ++ p.print [] 0)) =
      '\\' :: (letters ++ p.print [] n) := by
    induction n with
    | zero => rfl
    | succ n ih =>
      rw [Function.iterate_succ_apply', ih, ← p.foldSpansOnce_print n]
      exact pays_foldedSpan.replaceMarks_code hletters (hread n)
  rw [foldSpans_eq_iterate, hiterate, p.print_eq_value (Nat.le_trans p.height_le_length h)]

end

theorem apply_fold_source {fold : Fold} (spelling : Spelling (foldName fold)) :
    apply '\\' ('\\' :: (spelling.letters ++ p.source)) = .ok (fold.first p.value) := by
  have hletters := (unmarked_letters (foldName_mem fold) spelling).not_mem
  have hnumbers := numbers_code spelling (foldName_mem fold) (fun kind => clash_foldName kind fold)
    p.numbers_source
  -- a phrase begins neither with an article nor with a brace, so the fold is read in the last stage
  have harticles := p.foldArticles_code hletters ((p.foldable_print 0).readFoldedArticle spelling)
  have hrounds : (p.print [] 0).length ≤
      ('\\' :: (spelling.letters ++ p.print [] 0)).length + 1 := by
    simp only [List.length_cons, List.length_append]
    omega
  have hfolds : folds '\\' ('\\' :: (spelling.letters ++ p.print [] 0)) =
      fold.first p.value := by
    rw [folds, harticles, p.foldSpans_code hletters
      (fun n => (p.foldable_print n).readFoldedSpan spelling) hrounds]
    exact foldChars_unmarked fold spelling p.unmarked_value
  have hfirst := unmarked_first fold p.unmarked_value
  rw [apply_of_numbers hnumbers, hfolds]
  exact congrArg _ (pays_articleFor.replaceMarks_of_not_mem hfirst.not_mem)

end Phrase

/-- Writing out the codes of a phrase gives its value, however deep its spans are nested; with a
fold in front of the phrase, the value with its first character folded. -/
theorem apply_phrase (p : Phrase) :
    apply '\\' p.source = .ok p.value ∧
    ∀ (fold : Fold) (spelling : Spelling (foldName fold)),
      apply '\\' ('\\' :: (spelling.letters ++ p.source)) = .ok (fold.first p.value) :=
  ⟨p.apply_source, fun _ spelling => p.apply_fold_source spelling⟩

example : apply '\\' "\\LOW\\Up\x7bNo \\low\x7b\\ordword[ 2 ]\x7d\x7d".toList =
    .ok "nO SECOND".toList := rfl

end Grammar
end DialogueMarkup
