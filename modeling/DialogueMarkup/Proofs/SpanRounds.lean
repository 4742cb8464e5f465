import DialogueMarkup.Proofs.Casing
import Mathlib.Logic.Function.Iterate

/-! The rounds in which the spans of a text are folded from the inside out. A round takes an opening
brace from the text for every span that it folds, and a fold brings none in. So the rounds come to
an end within their bound, at a text in which no span is left, though each of them may make the text
longer. -/
namespace DialogueMarkup
open Text Markup

namespace Grammar

/-! Spans. -/

section
variable {escape : Char} {s rest : List Char}

theorem readFold_eq_some {fold : Fold} (h : readFold escape s = some (fold, rest)) :
    ∃ code, SpanCode escape code ∧ s = code ++ rest := by
  unfold readFold at h
  split at h
  · rename_i hup
    cases h
    exact ⟨_, spanCode_of_readCode (by simp) hup, readCode_eq_some hup⟩
  · obtain ⟨⟨code, t⟩, hlow, heq⟩ := Option.map_eq_some_iff.mp h
    cases heq
    exact ⟨_, spanCode_of_readCode (by simp) hlow, readCode_eq_some hlow⟩

/-- A code of a case span is read as that of a fold, whatever follows. -/
theorem readFold_of_spanCode {code : List Char} (h : SpanCode escape code) (s : List Char) :
    ∃ fold, readFold escape (code ++ s) = some (fold, s) := by
  obtain ⟨r, -, hup | ⟨hup, hlow⟩⟩ := h.readCode_cases s
  · exact ⟨.up, by simp [readFold, hup]⟩
  · exact ⟨.low, by simp [readFold, hup, hlow]⟩

theorem readFoldedSpan_eq_some {m : Fold × List Char}
    (h : readFoldedSpan escape s = some (m, rest)) :
    ∃ code, SpanCode escape code ∧ (∀ c ∈ m.2, isNoBrace c = true) ∧
      s = code ++ (spanSource m.2 ++ rest) := by
  simp only [readFoldedSpan, Option.bind_eq_bind, Option.bind_eq_some_iff, Option.pure_def,
    Option.some.injEq, Prod.mk.injEq] at h
  obtain ⟨⟨fold, t⟩, hfold, ⟨span, u⟩, hspan, rfl, rfl⟩ := h
  obtain ⟨code, hcode, rfl⟩ := readFold_eq_some hfold
  exact ⟨code, hcode, isNoBrace_of_readSpan hspan, by rw [← readSpan_eq_some hspan]⟩

theorem readFoldedSpan_consumes (escape : Char) : (readFoldedSpan escape).Consumes := by
  intro s m rest h
  obtain ⟨code, -, -, rfl⟩ := readFoldedSpan_eq_some h
  simp only [spanSource, List.length_append, List.length_cons]
  omega

/-- Somewhere in a text stands a span to be folded: a code, and braces behind it with none between
them. -/
def HoldsSpan (escape : Char) (s : List Char) : Prop :=
  ∃ before code span after, SpanCode escape code ∧ (∀ c ∈ span, isNoBrace c = true) ∧
    s = before ++ (code ++ (spanSource span ++ after))

theorem not_holdsSpan_iff : ¬ HoldsSpan escape s ↔ marks (readFoldedSpan escape) s = [] := by
  have hconsumes := readFoldedSpan_consumes escape
  constructor
  · intro hnone
    by_contra hmarks
    have hend (s m rest) (h : readFoldedSpan escape s = some (m, rest)) : rest <:+ s := by
      obtain ⟨code, -, -, rfl⟩ := readFoldedSpan_eq_some h
      exact ⟨code ++ spanSource m.2, by simp⟩
    obtain ⟨m, hm⟩ := List.exists_mem_of_ne_nil _ hmarks
    obtain ⟨t, after, ⟨before, rfl⟩, hread⟩ := exists_read_of_mem_marks hconsumes hend hm
    obtain ⟨code, hcode, hspan, rfl⟩ := readFoldedSpan_eq_some hread
    exact hnone ⟨before, code, m.2, after, hcode, hspan, rfl⟩
  · rintro hmarks ⟨before, code, span, after, hcode, hspan, rfl⟩
    obtain ⟨fold, hfold⟩ := readFold_of_spanCode hcode (spanSource span ++ after)
    have hnone := read_eq_none_of_marks hconsumes (marks_eq_nil_of_append hconsumes before hmarks)
    simp [readFoldedSpan, hfold, readSpan_spanSource hspan] at hnone

/-! One round. -/

/-- What a round writes for a span. -/
def foldedSpan (m : Fold × List Char) : Except NumeralFault (List Char) := .ok (m.1.apply m.2)

/-- A round takes an opening brace away for every span. -/
theorem count_foldSpansOnce (escape : Char) (s : List Char) :
    (foldSpansOnce escape s).count '{' + (marks (readFoldedSpan escape) s).length ≤
      s.count '{' := by
  have hconsumes := readFoldedSpan_consumes escape
  have hround : replaceMarksM (readFoldedSpan escape) foldedSpan s =
      .ok (foldSpansOnce escape s) := replaceMarksM_ok hconsumes _ s
  rw [← Nat.one_mul (marks (readFoldedSpan escape) s).length]
  refine measure_of_replaceMarksM hconsumes (fun s t => List.count_append) ?_ hround
  intro t m rest part hread hpart
  obtain ⟨code, -, hspan, rfl⟩ := readFoldedSpan_eq_some hread
  cases hpart
  -- the brace of the span is gone, and no other one is in what the span is folded to
  have hout : '{' ∉ m.1.apply m.2 := by
    intro hmem
    have hbrace := (folded_apply m.1 m.2).isNoBrace hspan _ hmem
    exact absurd hbrace (by decide)
  have hpart : (m.1.apply m.2).count '{' = 0 := List.count_eq_zero.mpr hout
  simp only [spanSource, List.count_append, List.count_cons_self, List.cons_append]
  omega

theorem foldSpansOnce_eq_self_iff : foldSpansOnce escape s = s ↔ ¬ HoldsSpan escape s := by
  rw [not_holdsSpan_iff]
  constructor
  · intro hsame
    have hcount := count_foldSpansOnce escape s
    rw [hsame] at hcount
    exact List.length_eq_zero_iff.mp (by omega)
  · exact fun hmarks => replaceMarks_of_marks_eq_nil hmarks _

theorem count_foldSpansOnce_lt (h : foldSpansOnce escape s ≠ s) :
    (foldSpansOnce escape s).count '{' < s.count '{' := by
  have hmarks : marks (readFoldedSpan escape) s ≠ [] :=
    fun hnil => h (replaceMarks_of_marks_eq_nil hnil _)
  have hpos := List.length_pos_iff.mpr hmarks
  have hcount := count_foldSpansOnce escape s
  omega

end

/-! Round after round. -/

/-- The first `n` rounds over a text change it, and the next one does not. -/
structure Rounds (escape : Char) (n : Nat) (s : List Char) : Prop where
  changes : ∀ k < n,
    foldSpansOnce escape ((foldSpansOnce escape)^[k] s) ≠ (foldSpansOnce escape)^[k] s
  settles : foldSpansOnce escape ((foldSpansOnce escape)^[n] s) = (foldSpansOnce escape)^[n] s

section
variable {escape : Char} {n : Nat} {s : List Char}

theorem Rounds.zero (h : foldSpansOnce escape s = s) : Rounds escape 0 s :=
  ⟨fun _ hk => absurd hk (Nat.not_lt_zero _), h⟩

theorem Rounds.succ (h : foldSpansOnce escape s ≠ s)
    (rest : Rounds escape n (foldSpansOnce escape s)) : Rounds escape (n + 1) s := by
  refine ⟨fun k hk => ?_, rest.settles⟩
  cases k with
  | zero => exact h
  | succ k => exact rest.changes k (Nat.lt_of_succ_lt_succ hk)

/-- No more rounds change a text than it has opening braces. -/
theorem exists_rounds (escape : Char) (s : List Char) :
    ∃ n ≤ s.count '{', Rounds escape n s := by
  -- on the braces, since a round may leave more characters than it found
  induction hcount : s.count '{' using Nat.strongRecOn generalizing s with
  | ind count ih =>
    by_cases h : foldSpansOnce escape s = s
    · exact ⟨0, Nat.zero_le _, .zero h⟩
    · have hlt := count_foldSpansOnce_lt h
      obtain ⟨n, hn, hrounds⟩ := ih _ (hcount ▸ hlt) _ rfl
      exact ⟨n + 1, by omega, .succ h hrounds⟩

theorem Rounds.count_lt (h : Rounds escape n s) {k : Nat} (hk : k < n) :
    ((foldSpansOnce escape)^[k + 1] s).count '{' < ((foldSpansOnce escape)^[k] s).count '{' := by
  rw [Function.iterate_succ_apply']
  exact count_foldSpansOnce_lt (h.changes k hk)

/-- Rounds are repeated whether or not there is anything left to fold. -/
theorem foldSpans_eq_iterate (rounds : Nat) (s : List Char) :
    foldSpans escape rounds s = (foldSpansOnce escape)^[rounds] s := by
  induction rounds generalizing s with
  | zero => rfl
  | succ rounds ih =>
    rw [foldSpans, Function.iterate_succ_apply]
    split
    · rename_i hsame
      rw [hsame, Function.iterate_fixed hsame]
    · exact ih _

/-- A bound that allows all rounds that change a text is not felt. -/
theorem Rounds.foldSpans_eq (h : Rounds escape n s) {rounds : Nat} (hn : n ≤ rounds) :
    foldSpans escape rounds s = (foldSpansOnce escape)^[n] s := by
  obtain ⟨more, rfl⟩ := Nat.exists_eq_add_of_le' hn
  rw [foldSpans_eq_iterate, Function.iterate_add_apply, Function.iterate_fixed h.settles]

/-- As many rounds as a text has opening braces leave no span. -/
theorem not_holdsSpan_foldSpans {rounds : Nat} (h : s.count '{' ≤ rounds) :
    ¬ HoldsSpan escape (foldSpans escape rounds s) := by
  obtain ⟨n, hn, hrounds⟩ := exists_rounds escape s
  rw [hrounds.foldSpans_eq (Nat.le_trans hn h)]
  exact foldSpansOnce_eq_self_iff.mp hrounds.settles

end

/-! Texts that every round makes longer. -/

/-- Letters of which each has three characters for a capital. -/
def longLetters : List Char := ['ΐ', 'ΐ', 'ΐ']

/-- A span around a text and long letters. -/
def stretchable (escape : Char) (s : List Char) : List Char :=
  escape :: 'U' :: 'P' :: spanSource (s ++ longLetters)

section
variable {escape : Char} {s : List Char}

theorem length_iterate_stretchable (n : Nat) (s : List Char) :
    ((stretchable escape)^[n] s).length = s.length + 8 * n := by
  induction n generalizing s with
  | zero => rfl
  | succ n ih =>
    rw [Function.iterate_succ_apply, ih]
    simp only [stretchable, spanSource, longLetters, List.length_cons, List.length_append,
      List.length_nil]
    omega

theorem isNoBrace_append_longLetters (hs : ∀ c ∈ s, isNoBrace c = true) :
    ∀ c ∈ s ++ longLetters, isNoBrace c = true :=
  List.forall_mem_append.mpr ⟨hs, forall_mem_of_all (by decide)⟩

/-- Folded, a span makes more of its long letters than its code and braces took. -/
theorem length_stretchable_lt (s : List Char) :
    (stretchable escape s).length < (upper (s ++ longLetters)).length := by
  have hlong : (upper longLetters).length = 9 := rfl
  have hupper := (folded_upper s).length_le
  have hsplit : upper (s ++ longLetters) = upper s ++ upper longLetters := List.flatMap_append
  have hlength : (stretchable escape s).length = s.length + 8 := length_iterate_stretchable 1 s
  rw [hsplit, List.length_append]
  omega

theorem readFold_up (escape : Char) (s : List Char) :
    readFold escape (escape :: 'U' :: 'P' :: s) = some (.up, s) := by
  have he : sameLetter escape escape = true := beq_iff_eq.mpr rfl
  have hread := readCode_of_spelling he (.plain ['U', 'P']) s
  simp only [Spelling.plain, List.cons_append, List.nil_append] at hread
  simp [readFold, hread]

/-- No name of a fold begins with the second character. -/
theorem readFoldedSpan_of_not_name {c d : Char} (hup : sameLetter 'U' d = false)
    (hlow : sameLetter 'L' d = false) (s : List Char) :
    readFoldedSpan escape (c :: d :: s) = none := by
  have hcode {name : List Char} (hname : readWord name (d :: s) = none) :
      readCode escape name (c :: d :: s) = none := by
    by_cases hc : sameLetter escape c = true <;> simp [readCode, readEscape, hc, hname]
  have hupper : readCode escape ['U', 'P'] (c :: d :: s) = none := hcode (by simp [readWord, hup])
  have hlower : readCode escape ['L', 'O', 'W'] (c :: d :: s) = none :=
    hcode (by simp [readWord, hlow])
  simp [readFoldedSpan, readFold, hupper, hlower]

theorem foldSpansOnce_eq_of_rewrites {t : List Char}
    (h : Rewrites (readFoldedSpan escape) foldedSpan s t) : foldSpansOnce escape s = t :=
  Rewrites.eq (readFoldedSpan_consumes escape) h

variable (hescape : isNoBrace escape = true)
include hescape

theorem readFoldedSpan_of_brace {c : Char} (hc : isNoBrace c = false) (s : List Char) :
    readFoldedSpan escape (c :: s) = none := by
  have hother : sameLetter escape c = false := by
    rw [Bool.eq_false_iff]
    intro hsame
    have hmark : isMark c = true := by simp [isMark, hc]
    have hback : sameLetter c escape = true := beq_iff_eq.mpr (beq_iff_eq.mp hsame).symm
    obtain rfl := (caseless_of_isMark hmark).alone escape hback
    rw [hescape] at hc
    cases hc
  simp [readFoldedSpan, readFold, readCode, readEscape, hother]

/-- The braces of a span do not hold the code of another one as well. -/
theorem readFoldedSpan_of_nested (s : List Char) :
    readFoldedSpan escape (escape :: 'U' :: 'P' :: '{' :: escape :: 'U' :: 'P' :: '{' :: s) =
      none := by
  have hcode : ∀ c ∈ [escape, 'U', 'P'], isNoBrace c = true :=
    List.forall_mem_cons.mpr ⟨hescape, forall_mem_of_all (by decide)⟩
  have hopen : isNoBrace '{' = false := by decide
  have hdrop : (escape :: 'U' :: 'P' :: '{' :: s).dropWhile isNoBrace = '{' :: s := by
    rw [show escape :: 'U' :: 'P' :: '{' :: s = [escape, 'U', 'P'] ++ '{' :: s from rfl,
      List.dropWhile_append_of_pos hcode, List.dropWhile_cons_of_neg (by simp [hopen])]
  simp [readFoldedSpan, readFold_up, readSpan, readChar, hdrop]

/-- What stands behind the text in a span stays. -/
theorem rewrites_longLetters :
    Rewrites (readFoldedSpan escape) foldedSpan (longLetters ++ ['}']) (longLetters ++ ['}']) := by
  have hclose : isNoBrace '}' = false := by decide
  have hother : ∀ d ∈ ['ΐ', '}'], sameLetter 'U' d = false ∧ sameLetter 'L' d = false :=
    forall_mem_of_all (by decide)
  have hnone (d : Char) (hd : d ∈ ['ΐ', '}']) (s : List Char) :
      readFoldedSpan escape ('ΐ' :: d :: s) = none :=
    readFoldedSpan_of_not_name (hother d hd).1 (hother d hd).2 s
  refine .cons (fun rest => hnone 'ΐ' (by simp) _) ?_
  refine .cons (fun rest => hnone 'ΐ' (by simp) _) ?_
  refine .cons (fun rest => hnone '}' (by simp) _) ?_
  exact .cons (fun rest => readFoldedSpan_of_brace hescape hclose _) .nil

/-- A span around another one stays. -/
theorem rewrites_around {t : List Char}
    (h : Rewrites (readFoldedSpan escape) foldedSpan (stretchable escape s) t) :
    Rewrites (readFoldedSpan escape) foldedSpan (stretchable escape (stretchable escape s))
      (stretchable escape t) := by
  have hopen : isNoBrace '{' = false := by decide
  have hother : ∀ d ∈ ['P', '{'], sameLetter 'U' d = false ∧ sameLetter 'L' d = false :=
    forall_mem_of_all (by decide)
  have hnone (c d : Char) (hd : d ∈ ['P', '{']) (s : List Char) :
      readFoldedSpan escape (c :: d :: s) = none :=
    readFoldedSpan_of_not_name (hother d hd).1 (hother d hd).2 s
  have hbody := h.append (rewrites_longLetters hescape)
  rw [← List.append_assoc, ← List.append_assoc] at hbody
  refine .cons (fun rest => readFoldedSpan_of_nested hescape _) ?_
  refine .cons (fun rest => hnone 'U' 'P' (by simp) _) ?_
  refine .cons (fun rest => hnone 'P' '{' (by simp) _) ?_
  exact .cons (fun rest => readFoldedSpan_of_brace hescape hopen _) hbody

/-- A round folds the innermost of the spans around a text. -/
theorem foldSpansOnce_stretchable (hs : ∀ c ∈ s, isNoBrace c = true) (n : Nat) :
    foldSpansOnce escape ((stretchable escape)^[n + 1] s) =
      (stretchable escape)^[n] (upper (s ++ longLetters)) := by
  refine foldSpansOnce_eq_of_rewrites ?_
  induction n with
  | zero =>
    have hconsumes := readFoldedSpan_consumes escape
    refine .mark hconsumes (a := (.up, s ++ longLetters)) (fun rest => ?_) rfl
    have hspan := readSpan_spanSource (isNoBrace_append_longLetters hs) rest
    simp [stretchable, readFoldedSpan, readFold_up, hspan]
  | succ n ih =>
    rw [Function.iterate_succ_apply'] at ih ⊢
    rw [Function.iterate_succ_apply', Function.iterate_succ_apply']
    exact rewrites_around hescape ih

/-- As many rounds as there are spans around a text change it, and each of them makes it longer. -/
theorem rounds_stretchable (n : Nat) (hs : ∀ c ∈ s, isNoBrace c = true) :
    Rounds escape n ((stretchable escape)^[n] s) ∧
    ∀ k < n, ((foldSpansOnce escape)^[k] ((stretchable escape)^[n] s)).length <
      ((foldSpansOnce escape)^[k + 1] ((stretchable escape)^[n] s)).length := by
  induction n generalizing s with
  | zero =>
    have hspan : ¬ HoldsSpan escape s := by
      rintro ⟨before, code, span, after, -, -, rfl⟩
      exact absurd (hs '{' (by simp [spanSource])) (by decide)
    have hround := foldSpansOnce_eq_self_iff.mpr hspan
    exact ⟨.zero hround, fun k hk => absurd hk (Nat.not_lt_zero k)⟩
  | succ n ih =>
    -- the first round leaves one span fewer around another text without braces
    have hround := foldSpansOnce_stretchable hescape hs n
    have hupper := (folded_upper (s ++ longLetters)).isNoBrace (isNoBrace_append_longLetters hs)
    obtain ⟨hrounds, hlonger⟩ := ih hupper
    rw [← hround] at hrounds hlonger
    have hlt : ((stretchable escape)^[n + 1] s).length <
        (foldSpansOnce escape ((stretchable escape)^[n + 1] s)).length := by
      rw [hround, Function.iterate_succ_apply, length_iterate_stretchable,
        length_iterate_stretchable]
      exact Nat.add_lt_add_right (length_stretchable_lt s) _
    refine ⟨.succ (fun hsame => ?_) hrounds, fun k hk => ?_⟩
    · rw [hsame] at hlt
      exact Nat.lt_irrefl _ hlt
    · cases k with
      | zero => exact hlt
      | succ k => exact hlonger k (Nat.lt_of_succ_lt_succ hk)

end

/-- Whatever the text, its spans are folded in rounds that each take an opening brace from it, until
a round within the bound finds nothing to change: no span is left then. There are texts for which
any number of such rounds is needed, each of which makes the text longer. -/
theorem foldSpans_settles {escape : Char} (hescape : isNoBrace escape = true) :
    (∀ s, ∃ n < s.length + 1, Rounds escape n s ∧
      foldSpans escape (s.length + 1) s = (foldSpansOnce escape)^[n] s ∧
      (∀ k < n, ((foldSpansOnce escape)^[k + 1] s).count '{' <
        ((foldSpansOnce escape)^[k] s).count '{') ∧
      ¬ HoldsSpan escape (foldSpans escape (s.length + 1) s)) ∧
    ∀ n, ∃ s, Rounds escape n s ∧ ∀ k < n,
      ((foldSpansOnce escape)^[k] s).length < ((foldSpansOnce escape)^[k + 1] s).length := by
  refine ⟨fun s => ?_, fun n => ⟨_, rounds_stretchable hescape n (s := []) (by simp)⟩⟩
  obtain ⟨n, hn, hrounds⟩ := exists_rounds escape s
  have hbraces : s.count '{' < s.length + 1 := Nat.lt_succ_of_le List.count_le_length
  have hbound : n < s.length + 1 := Nat.lt_of_le_of_lt hn hbraces
  have hfolded := hrounds.foldSpans_eq (Nat.le_of_lt hbound)
  exact ⟨n, hbound, hrounds, hfolded, fun k hk => hrounds.count_lt hk,
    not_holdsSpan_foldSpans (Nat.le_of_lt hbraces)⟩

/-- A round puts a name together that is that of a span for the next one, and a brace without a
partner stays. -/
theorem foldSpans_settles_pieces :
    isNoBrace '\\' = true ∧ Rounds '\\' 2 "\\U\\LOW\x7bP\x7d\x7bΐ\x7d\x7b".toList ∧
    foldSpans '\\' 14 "\\U\\LOW\x7bP\x7d\x7bΐ\x7d\x7b".toList = "\u0399\u0308\u0301\x7b".toList ∧
    ¬ HoldsSpan '\\' "\u0399\u0308\u0301\x7b".toList := by
  have hescape : isNoBrace '\\' = true := by decide
  have hfirst : foldSpansOnce '\\' "\\U\\LOW\x7bP\x7d\x7bΐ\x7d\x7b".toList =
      "\\Up\x7bΐ\x7d\x7b".toList := rfl
  have hsecond : foldSpansOnce '\\' "\\Up\x7bΐ\x7d\x7b".toList =
      "\u0399\u0308\u0301\x7b".toList := rfl
  have hthird : foldSpansOnce '\\' "\u0399\u0308\u0301\x7b".toList =
      "\u0399\u0308\u0301\x7b".toList := rfl
  have hrounds : Rounds '\\' 2 "\\U\\LOW\x7bP\x7d\x7bΐ\x7d\x7b".toList := by
    refine .succ (by rw [hfirst]; decide) ?_
    rw [hfirst]
    refine .succ (by rw [hsecond]; decide) ?_
    rw [hsecond]
    exact .zero hthird
  obtain ⟨n, -, -, -, -, hnone⟩ :=
    (foldSpans_settles hescape).1 "\\U\\LOW\x7bP\x7d\x7bΐ\x7d\x7b".toList
  have hfolded : foldSpans '\\' 14 "\\U\\LOW\x7bP\x7d\x7bΐ\x7d\x7b".toList =
      "\u0399\u0308\u0301\x7b".toList := rfl
  exact ⟨hescape, hrounds, hfolded, hfolded ▸ hnone⟩

end Grammar
end DialogueMarkup
