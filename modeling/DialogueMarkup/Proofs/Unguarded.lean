import DialogueMarkup.Engine
import DialogueMarkup.Proofs.Casing
import DialogueMarkup.Proofs.Decimals
import DialogueMarkup.Proofs.Settling
import DialogueMarkup.Proofs.TreeCodes

/-! Texts without guards. Directives end in a text whose guards are braces again, and nothing that
is done to it afterwards brings a guard in; nor does the wording of a fault, since a guard is not
printed where a text is quoted. -/
namespace DialogueMarkup
open Text Markup

/-- A text that holds no guard of a case span. -/
def Unguarded (s : List Char) : Prop := ∀ c ∈ s, c ≠ guardOpen ∧ c ≠ guardClose

instance (s : List Char) : Decidable (Unguarded s) :=
  inferInstanceAs (Decidable (∀ c ∈ s, c ≠ guardOpen ∧ c ≠ guardClose))

namespace Unguarded
variable {s t : List Char}

theorem append (hs : Unguarded s) (ht : Unguarded t) : Unguarded (s ++ t) :=
  List.forall_mem_append.mpr ⟨hs, ht⟩

theorem cons {c : Char} (hc : c ≠ guardOpen ∧ c ≠ guardClose) (hs : Unguarded s) :
    Unguarded (c :: s) := List.forall_mem_cons.mpr ⟨hc, hs⟩

theorem mono (hs : Unguarded s) (hsub : t ⊆ s) : Unguarded t := fun c hc => hs c (hsub hc)

theorem of_isInfix (hs : Unguarded s) (h : t <:+: s) : Unguarded t := hs.mono h.subset

theorem of_append (h : Unguarded (s ++ t)) : Unguarded s ∧ Unguarded t :=
  List.forall_mem_append.mp h

/-- What an ASCII character is cannot be a guard. -/
theorem of_ascii (h : ∀ c ∈ s, c.toNat < 128) : Unguarded s := by
  intro c hc
  have hlt := h c hc
  constructor
  · rintro rfl
    exact absurd hlt (by decide)
  · rintro rfl
    exact absurd hlt (by decide)

theorem of_isNumeric (h : English.isNumeric s = true) : Unguarded s := by
  intro c hc
  constructor
  · rintro rfl
    exact English.not_mem_of_isNumeric (by decide) h hc
  · rintro rfl
    exact English.not_mem_of_isNumeric (by decide) h hc

/-! Replacements that bring no guards. -/

section
variable {α : Type} {read : Reader α}

/-- What follows a mark ends the text, and what is written for a mark holds no guard if the text
held none. -/
def Safe {ε : Type} (read : Reader α) (f : α → Except ε (List Char)) : Prop :=
  ∀ s a rest, read s = some (a, rest) →
    rest <:+ s ∧ ∀ part, f a = .ok part → Unguarded s → Unguarded part

theorem replaceMarksM (h : read.Consumes) {ε : Type} {f : α → Except ε (List Char)}
    (hf : Safe read f) (hs : Unguarded s) (ht : Text.replaceMarksM read f s = .ok t) :
    Unguarded t := by
  induction s using h.induction generalizing t with
  | nil =>
    cases ht
    exact hs
  | char c s hr ih =>
    obtain ⟨hc, hrest⟩ := List.forall_mem_cons.mp hs
    obtain ⟨u, hu, rfl⟩ := replaceMarksM_cons_eq_ok hr ht
    exact cons hc (ih hrest hu)
  | mark s a rest hr ih =>
    obtain ⟨part, u, ha, hu, rfl⟩ := replaceMarksM_mark_eq_ok h hr ht
    obtain ⟨hrest, hpart⟩ := hf s a rest hr
    exact (hpart part ha hs).append (ih (hs.of_isInfix hrest.isInfix) hu)

theorem replaceMarks (h : read.Consumes) {f : α → List Char}
    (hf : Safe read fun a => (.ok (f a) : Except Unit (List Char))) (hs : Unguarded s) :
    Unguarded (replaceMarks read f s) :=
  hs.replaceMarksM h hf (replaceMarksM_ok h f s)

end
end Unguarded

/-! Braces and grammar codes. -/

theorem Markup.decodeBraces_unguarded (escape : Char) {s : List Char} (hs : Unguarded s) :
    Unguarded (decodeBraces escape s) := by
  have hbrace (name : List Char) {b : Char} (hb : b ≠ guardOpen ∧ b ≠ guardClose) :
      Unguarded.Safe (readBare escape name) fun _ => (.ok [b] : Except Unit (List Char)) := by
    intro s code rest hread
    refine ⟨⟨code, (readBare_eq_some hread).1.symm⟩, ?_⟩
    rintro part ⟨⟩ -
    exact .cons hb fun _ hc => (List.not_mem_nil hc).elim
  have hopened := hs.replaceMarks (readBare_consumes escape _)
    (hbrace ['B', 'O'] (b := '\x7b') (by decide))
  exact hopened.replaceMarks (readBare_consumes escape _)
    (hbrace ['B', 'C'] (b := '\x7d') (by decide))

/-- No letter has a guard for a capital or a small form. -/
theorem caseless_guards : Caseless guardOpen ∧ Caseless guardClose := by
  constructor
  all_goals exact ⟨uncased_of_mem_bounds (by simp [bounds]), forall_mem_of_all (by decide),
    forall_mem_of_all (by decide), forall_mem_of_all (by decide), by decide⟩

namespace Grammar

theorem unguarded_upperChar {c : Char} (hc : c ≠ guardOpen ∧ c ≠ guardClose) :
    Unguarded (upperChar c) := by
  intro d hd
  constructor
  · rintro rfl
    exact hc.1 (caseless_guards.1.eq_of_mem_upperChar hd)
  · rintro rfl
    exact hc.2 (caseless_guards.2.eq_of_mem_upperChar hd)

theorem unguarded_lowerChar {c : Char} (hc : c ≠ guardOpen ∧ c ≠ guardClose) :
    Unguarded (lowerChar c) := by
  intro d hd
  constructor
  · rintro rfl
    exact hc.1 (caseless_guards.1.eq_of_mem_lowerChar hd)
  · rintro rfl
    exact hc.2 (caseless_guards.2.eq_of_mem_lowerChar hd)

theorem unguarded_lowerAfter (before : List Char) {s : List Char} (hs : Unguarded s) :
    Unguarded (lowerAfter before s) := by
  induction s generalizing before with
  | nil => exact hs
  | cons c s ih =>
    obtain ⟨hc, hrest⟩ := List.forall_mem_cons.mp hs
    refine Unguarded.append ?_ (ih (c :: before) hrest)
    split
    · split <;> decide
    · exact unguarded_lowerChar hc

/-- Folding brings no guard into a text. -/
theorem Fold.unguarded_apply (fold : Fold) {s : List Char} (hs : Unguarded s) :
    Unguarded (fold.apply s) := by
  cases fold with
  | up =>
    induction s with
    | nil => exact hs
    | cons c s ih =>
      obtain ⟨hc, hrest⟩ := List.forall_mem_cons.mp hs
      exact (unguarded_upperChar hc).append (ih hrest)
  | low => exact unguarded_lowerAfter [] hs

section
variable {escape : Char} {s rest : List Char}

theorem readArticle_eq_some {code : Char × List Char}
    (h : readArticle escape s = some (code, rest)) : s = code.1 :: (code.2 ++ rest) := by
  simp only [readArticle, Option.bind_eq_bind, Option.bind_eq_some_iff] at h
  obtain ⟨⟨code', t⟩, hcode, h⟩ := h
  split at h
  · cases h
  · cases h
    exact readCode_eq_some hcode

theorem safe_readNumberCode (name : List Char) {f : Int → List Char}
    (hf : ∀ n, English.isNumeric (f n) = true) :
    Unguarded.Safe (readNumberCode escape name) (writeNumber f) := by
  intro s argument rest h
  obtain ⟨code, rfl⟩ := readNumberCode_eq_some h
  refine ⟨⟨code ++ argumentSource argument, by simp⟩, fun part hpart hs => ?_⟩
  have hargument : Unguarded argument :=
    hs.of_isInfix ⟨code ++ ['['], ']' :: rest, by simp [argumentSource]⟩
  unfold writeNumber at hpart
  split at hpart
  · cases hpart
    exact hargument.of_isInfix (trim_isInfix argument)
  · obtain ⟨n, -, rfl⟩ := map_eq_ok hpart
    exact .of_isNumeric (hf n)

theorem readFoldedArticle_eq_some {m : Fold × Char × List Char}
    (h : readFoldedArticle escape s = some (m, rest)) :
    ∃ code, s = code ++ m.2.1 :: (m.2.2 ++ rest) := by
  simp only [readFoldedArticle, Option.bind_eq_bind, Option.bind_eq_some_iff, Option.pure_def,
    Option.some.injEq, Prod.mk.injEq] at h
  obtain ⟨⟨fold, t⟩, hfold, ⟨code, u⟩, hcode, rfl, rfl⟩ := h
  obtain ⟨front, -, rfl⟩ := readFold_eq_some hfold
  exact ⟨front, by rw [← readArticle_eq_some hcode]⟩

theorem readFoldedChar_eq_some {m : Fold × List Char}
    (h : readFoldedChar escape s = some (m, rest)) :
    ∃ code, code ≠ [] ∧ s = code ++ (m.2 ++ rest) := by
  simp only [readFoldedChar, Option.bind_eq_bind, Option.bind_eq_some_iff] at h
  obtain ⟨⟨fold, t⟩, hfold, h⟩ := h
  obtain ⟨front, hfront, rfl⟩ := readFold_eq_some hfold
  cases t with
  | nil =>
    cases h
    exact ⟨front, hfront.ne_nil, rfl⟩
  | cons c t =>
    dsimp only at h
    split at h
    · cases h
    · cases h
      exact ⟨front, hfront.ne_nil, rfl⟩

theorem readArticleFor_eq_some {m : Bool × List Char}
    (h : readArticleFor escape s = some (m, rest)) :
    ∃ c code, s = c :: (code ++ rest) := by
  simp only [readArticleFor, Option.bind_eq_bind, Option.bind_eq_some_iff, Option.pure_def,
    Option.some.injEq, Prod.mk.injEq] at h
  obtain ⟨⟨code, t⟩, hcode, rfl, rfl⟩ := h
  exact ⟨code.1, code.2, readArticle_eq_some hcode⟩

end

section
variable (escape : Char) {s t : List Char} (hs : Unguarded s)
include hs

theorem unguarded_foldArticles : Unguarded (foldArticles escape s) := by
  refine hs.replaceMarks ?_ ?_
  · intro s m rest h
    obtain ⟨code, rfl⟩ := readFoldedArticle_eq_some h
    simp only [List.length_append, List.length_cons]
    omega
  · intro s m rest h
    obtain ⟨code, rfl⟩ := readFoldedArticle_eq_some h
    refine ⟨⟨code ++ m.2.1 :: m.2.2, by simp⟩, ?_⟩
    rintro part ⟨⟩ hs
    obtain ⟨hc, hletters⟩ := List.forall_mem_cons.mp hs.of_append.2
    exact .cons hc (m.1.unguarded_apply (Unguarded.of_append hletters).1)

theorem unguarded_foldSpansOnce : Unguarded (foldSpansOnce escape s) := by
  refine hs.replaceMarks ?_ ?_
  · intro s m rest h
    obtain ⟨code, -, -, rfl⟩ := readFoldedSpan_eq_some h
    simp only [spanSource, List.length_append, List.length_cons]
    omega
  · intro s m rest h
    obtain ⟨code, -, -, rfl⟩ := readFoldedSpan_eq_some h
    refine ⟨⟨code ++ spanSource m.2, by simp⟩, ?_⟩
    rintro part ⟨⟩ hs
    exact m.1.unguarded_apply
      (hs.of_isInfix ⟨code ++ ['\x7b'], '\x7d' :: rest, by simp [spanSource]⟩)

theorem unguarded_foldSpans (rounds : Nat) : Unguarded (foldSpans escape rounds s) := by
  induction rounds generalizing s with
  | zero => exact hs
  | succ rounds ih =>
    rw [foldSpans]
    split
    · exact hs
    · exact ih (unguarded_foldSpansOnce escape hs)

theorem unguarded_foldChars : Unguarded (foldChars escape s) := by
  refine hs.replaceMarks ?_ ?_
  · intro s m rest h
    obtain ⟨code, hne, rfl⟩ := readFoldedChar_eq_some h
    have hpos := List.length_pos_iff.mpr hne
    simp only [List.length_append]
    omega
  · intro s m rest h
    obtain ⟨code, -, rfl⟩ := readFoldedChar_eq_some h
    refine ⟨⟨code ++ m.2, by simp⟩, ?_⟩
    rintro part ⟨⟩ hs
    exact m.1.unguarded_apply (hs.of_isInfix ⟨code, rest, by simp⟩)

theorem unguarded_articles : Unguarded (articles escape s) := by
  refine hs.replaceMarks ?_ ?_
  · intro s m rest h
    obtain ⟨c, code, rfl⟩ := readArticleFor_eq_some h
    simp only [List.length_append, List.length_cons]
    omega
  · intro s m rest h
    obtain ⟨c, code, rfl⟩ := readArticleFor_eq_some h
    refine ⟨⟨c :: code, by simp⟩, ?_⟩
    rintro part ⟨⟩ -
    exact .of_isNumeric (English.isNumeric_article _ _)

/-- Grammar codes that are written out bring no guard in. -/
theorem unguarded_of_apply_eq_ok (h : apply escape s = .ok t) : Unguarded t := by
  rw [apply] at h
  obtain ⟨cardinals, hcardinals, h⟩ := bind_eq_ok h
  obtain ⟨numbers, hnumbers, h⟩ := bind_eq_ok h
  cases h
  rw [ordinals] at hnumbers
  obtain ⟨words, hwords, hnumbers⟩ := bind_eq_ok hnumbers
  have hs := hs.replaceMarksM (readNumberCode_consumes escape _)
    (safe_readNumberCode _ English.isNumeric_cardinal) hcardinals
  have hs := hs.replaceMarksM (readNumberCode_consumes escape _)
    (safe_readNumberCode _ English.isNumeric_ordinalInWords) hwords
  have hs := hs.replaceMarksM (readNumberCode_consumes escape _)
    (safe_readNumberCode _ English.isNumeric_ordinal) hnumbers
  have hs := unguarded_foldSpans escape (unguarded_foldArticles escape hs)
    ((foldArticles escape numbers).length + 1)
  exact unguarded_articles escape (unguarded_foldChars escape hs)

end
end Grammar

/-! What comes out. -/

theorem Expansion.unguarded_of_directives_eq_ok {st : State} {current : Scope} {escape : Char}
    {maxPasses : Option Int} {s t : List Char}
    (h : directives st current escape maxPasses s = .ok t) : Unguarded t := by
  have hrun (left done : Nat) (s : List Char) (h : run st current escape left done s = .ok t) :
      Unguarded t := by
    fun_induction run st current escape left done s with
    | case1 left done s hnone =>
      cases h
      exact ne_of_mem_restoreSpans s
    | case2 done s next hsome => cases h
    | case3 done s left fault hsome => cases h
    | case4 done s left u hsome ih => exact ih h
  exact hrun _ _ _ h

namespace Engine
variable {e : Engine} {scope : Option Scope} {s t : List Char}

theorem unguarded_of_expand_eq_ok (h : e.expand scope s = .ok t) : Unguarded t := by
  obtain ⟨u, hu, rfl⟩ := map_eq_ok h
  exact decodeBraces_unguarded _ (Expansion.unguarded_of_directives_eq_ok hu)

theorem unguarded_of_render_eq_ok (h : e.render scope s = .ok t) : Unguarded t := by
  rw [render] at h
  obtain ⟨u, hu, h⟩ := bind_eq_ok h
  have hunguarded := Expansion.unguarded_of_directives_eq_ok hu
  dsimp only at h
  split at h
  · obtain ⟨v, hv, h⟩ := bind_eq_ok h
    cases h
    have hwritten := Grammar.unguarded_of_apply_eq_ok _ hunguarded (mapError_eq_ok hv)
    exact decodeBraces_unguarded _ hwritten
  · cases h
    exact decodeBraces_unguarded _ hunguarded

end Engine

/-! The wording of faults. -/

namespace Text

theorem exists_digitChar_of_mem_toDigits {b n : Nat} (hb : 1 < b) {c : Char}
    (h : c ∈ Nat.toDigits b n) : ∃ d < b, c = Nat.digitChar d := by
  induction n using Nat.strongRecOn with
  | ind n ih =>
    rw [Nat.toDigits_eq_if hb] at h
    split at h
    · exact ⟨n, ‹_›, List.mem_singleton.mp h⟩
    · next hle =>
      rcases List.mem_append.mp h with h | h
      · exact ih (n / b) (Nat.div_lt_self (by omega) hb) h
      · exact ⟨n % b, Nat.mod_lt n (by omega), List.mem_singleton.mp h⟩

theorem unguarded_hexadecimal (width n : Nat) : Unguarded (hexadecimal width n) := by
  apply Unguarded.of_ascii
  intro c hc
  rcases List.mem_append.mp hc with hzero | hdigit
  · rw [List.eq_of_mem_replicate hzero]
    decide
  · have hdigits : ∀ d ∈ List.range 16, (Nat.digitChar d).toNat < 128 :=
      forall_mem_of_all (by decide)
    obtain ⟨d, hd, rfl⟩ := exists_digitChar_of_mem_toDigits (by decide) hdigit
    exact hdigits d (List.mem_range.mpr hd)

theorem unguarded_quotedChar {mark : Char} (hmark : mark ≠ guardOpen ∧ mark ≠ guardClose)
    (c : Char) : Unguarded (quotedChar mark c) := by
  have hplain {d : Char} (hd : d ≠ guardOpen ∧ d ≠ guardClose) : Unguarded [d] :=
    .cons hd fun _ h => (List.not_mem_nil h).elim
  have hstart {d : Char} {s : List Char} (hd : d ≠ guardOpen ∧ d ≠ guardClose)
      (hs : Unguarded s) : Unguarded ('\\' :: d :: s) := .cons (by decide) (.cons hd hs)
  unfold quotedChar
  split
  · next h =>
    refine .cons (by decide) (hplain ?_)
    rcases h with rfl | rfl
    · exact hmark
    · decide
  split
  · decide
  split
  · decide
  split
  · decide
  split
  · next h =>
    have hblank : isPrintable guardOpen = false ∧ isPrintable guardClose = false := by
      decide +kernel
    apply hplain
    constructor
    · rintro rfl
      exact absurd h (by simp [hblank])
    · rintro rfl
      exact absurd h (by simp [hblank])
  split
  · exact hstart (by decide) (unguarded_hexadecimal 2 _)
  split
  · exact hstart (by decide) (unguarded_hexadecimal 4 _)
  · exact hstart (by decide) (unguarded_hexadecimal 8 _)

/-- A guard in a quoted text is written by its code point. -/
theorem unguarded_quoted (s : List Char) : Unguarded (quoted s) := by
  have hmark : quoteMark s ≠ guardOpen ∧ quoteMark s ≠ guardClose := by
    unfold quoteMark
    split <;> decide
  refine .cons hmark (.append ?_ (.cons hmark fun _ h => (List.not_mem_nil h).elim))
  intro c hc
  obtain ⟨d, -, hd⟩ := List.mem_flatMap.mp hc
  exact unguarded_quotedChar hmark d c hd

end Text

theorem Numeral.unguarded_message (fault : NumeralFault) : Unguarded (message fault) := by
  have hnumber (n : Nat) : Unguarded (writeNat n) := .of_isNumeric (English.isNumeric_writeNat n)
  cases fault with
  | malformed text =>
    exact .append (by decide) ((unguarded_quoted text).mono (List.take_subset _ _))
  | tooLong digits =>
    refine .append (.append (.append (.append ?_ (hnumber _)) ?_) (hnumber _)) ?_ <;> decide

theorem Malformation.unguarded_wording (cause : Malformation) : Unguarded cause.wording := by
  cases cause with
  | empty opcode => cases opcode <;> decide
  | _ => decide

/-- No fault puts a guard into its message. -/
theorem Fault.unguarded_message (fault : Fault) : Unguarded fault.message := by
  have hwording : Unguarded fault.wording := by
    cases fault with
    | malformed cause fragment => exact cause.unguarded_wording
    | unknownOpcode name =>
      change Unguarded "Unknown directive opcode".toList
      decide
    | unresolved kind name fragment =>
      have hkind : Unguarded ("Unknown ".toList ++ kind.word ++ " name ".toList) := by
        cases kind <;> decide
      exact hkind.append (unguarded_quoted name)
    | crossContext fragment =>
      change Unguarded "Cross-context self references are not supported by this host".toList
      decide
    | divergence passes fragment =>
      have hstart : Unguarded "No fixed point after ".toList := by decide
      have hend : Unguarded " expansion passes".toList := by decide
      exact (hstart.append (.of_isNumeric (English.isNumeric_writeNat passes))).append hend
    | numeral fault => exact Numeral.unguarded_message fault
  unfold message
  split
  · exact hwording
  · exact (hwording.append (by decide)).append (unguarded_quoted fault.fragment)

end DialogueMarkup
