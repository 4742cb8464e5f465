import DialogueMarkup.Proofs.Choices
import DialogueMarkup.Proofs.Display
import DialogueMarkup.Proofs.Silence

/-! What is judged empty is displayed empty. The verdict is on the expanded text alone; but nothing
in a blank text is a code, whatever the escape character, so that grammar codes and brace escapes
leave it as it is. -/
namespace DialogueMarkup
open Text Markup

/-! Blank texts hold no markup. -/

/-- No letter that a code name begins with is a blank in another case. -/
theorem not_sameLetter_of_isBlank {w c : Char} (hw : (caseKey w).toNat ∈ codeKeys)
    (hc : isBlank c = true) : sameLetter w c = false := by
  have hblanks : ∀ n ∈ [9, 10, 11, 12, 13, 28, 29, 30, 31, 32],
      (caseKey (Char.ofNat n)).toNat ∉ codeKeys := by decide
  rw [Bool.eq_false_iff]
  intro hsame
  have hkey : caseKey w = caseKey c := beq_iff_eq.mp hsame
  rw [hkey] at hw
  have hlt : c.toNat < 128 := toNat_lt_of_caseKey hw
  have hmem : c.toNat ∈ [9, 10, 11, 12, 13, 28, 29, 30, 31, 32] := by
    simp only [isBlank, hlt, if_true, Bool.or_eq_true, Bool.and_eq_true, decide_eq_true_eq] at hc
    simp only [List.mem_cons, List.not_mem_nil, or_false]
    omega
  have hout := hblanks c.toNat hmem
  rw [Char.ofNat_toNat] at hout
  exact hout hw

section
variable {s : List Char} (h : isBlankText s = true)
include h

theorem readWord_of_isBlankText {w : Char} (hw : (caseKey w).toNat ∈ codeKeys)
    (word : List Char) : readWord (w :: word) s = none := by
  cases s with
  | nil => rfl
  | cons c s =>
    have hc : isBlank c = true := List.all_eq_true.mp h c List.mem_cons_self
    simp [readWord, not_sameLetter_of_isBlank hw hc]

/-- What is read of a blank text after the escape character is read of a blank text. -/
theorem readEscape_bind_of_isBlankText {α : Type} (escape : Char)
    {next : Char × List Char → Option (α × List Char)}
    (hnext : ∀ c rest, isBlankText rest = true → next (c, rest) = none) :
    readEscape escape s >>= next = none := by
  cases he : readEscape escape s with
  | none => rfl
  | some r =>
    obtain ⟨c, rest⟩ := r
    have hs : s = c :: rest := readEscape_eq_some he
    have hrest : isBlankText rest = true := by
      rw [hs, isBlankText, List.all_cons] at h
      exact (Bool.and_eq_true_iff.mp h).2
    exact hnext c rest hrest

theorem readHead_of_isBlankText (escape : Char) : readHead escape s = none := by
  apply readEscape_bind_of_isBlankText h
  intro c rest hrest
  have hopcode : Opcode.read rest = none := by
    have ho (word : List Char) : readWord ('O' :: word) rest = none :=
      readWord_of_isBlankText hrest (by decide) word
    simp [Opcode.read, Opcode.all, Opcode.name, ho]
  simp [hopcode]

theorem readMention_of_isBlankText (escape : Char) : Summary.readMention escape s = none := by
  apply readEscape_bind_of_isBlankText h
  intro c rest hrest
  have hnumbers : ∀ name ∈ ["NUMWORD", "ORDWORD", "ORD"], readWord name.toList rest = none :=
    List.forall_mem_cons.mpr ⟨readWord_of_isBlankText hrest (w := 'N') (by decide) _,
      List.forall_mem_cons.mpr ⟨readWord_of_isBlankText hrest (w := 'O') (by decide) _,
        List.forall_mem_singleton.mpr (readWord_of_isBlankText hrest (w := 'O') (by decide) _)⟩⟩
  have hfolds : ∀ name ∈ ["UP", "LOW"], readWord name.toList rest = none :=
    List.forall_mem_cons.mpr ⟨readWord_of_isBlankText hrest (w := 'U') (by decide) _,
      List.forall_mem_singleton.mpr (readWord_of_isBlankText hrest (w := 'L') (by decide) _)⟩
  have harticle : readWord ['A', 'N'] rest = none :=
    readWord_of_isBlankText hrest (by decide) _
  simp only [Option.orElse_eq_orElse, Option.orElse_eq_or, Option.or_eq_none_iff,
    List.findSome?_eq_none_iff]
  refine ⟨fun name hname => ?_, fun name hname => ?_, ?_⟩
  · rw [hnumbers name hname]
    rfl
  · rw [hfolds name hname]
    rfl
  · rw [harticle]
    rfl

theorem readBare_of_isBlankText (escape w : Char) (hw : (caseKey w).toNat ∈ codeKeys)
    (name : List Char) : readBare escape (w :: name) s = none := by
  have hcode : readCode escape (w :: name) s = none := by
    apply readEscape_bind_of_isBlankText h
    intro c rest hrest
    simp [readWord_of_isBlankText hrest hw name]
  simp [readBare, hcode]

end

/-- A reader that finds nothing in front of blanks finds nothing in a blank text. -/
theorem marks_of_isBlankText {α : Type} {read : Reader α}
    (hread : ∀ s, isBlankText s = true → read s = none) {s : List Char}
    (h : isBlankText s = true) : marks read s = [] := by
  induction s with
  | nil => rfl
  | cons c s ih =>
    have hs : isBlankText s = true := by
      rw [isBlankText, List.all_cons] at h
      exact (Bool.and_eq_true_iff.mp h).2
    exact marks_cons_eq_nil_iff.mpr ⟨hread _ h, ih hs⟩

/-- A blank text is inert, even where the escape character is itself a blank. -/
theorem Inert.of_isBlankText (escape : Char) {s : List Char} (h : isBlankText s = true) :
    Inert escape s := by
  have hescapes : ∀ s, isBlankText s = true → Summary.readBraceEscape escape s = none := by
    intro s hs
    have hcode := readBare_of_isBlankText hs escape 'B' (by decide)
    simp [Summary.readBraceEscape, hcode]
  exact Inert.of_marks_eq_nil
    (marks_of_isBlankText (fun _ hs => readHead_of_isBlankText hs escape) h)
    (marks_of_isBlankText (fun _ hs => readMention_of_isBlankText hs escape) h)
    (marks_of_isBlankText hescapes h)

/-- Marks that are replaced by a character show in the result. -/
theorem marks_eq_nil_of_not_mem {α : Type} {read : Reader α} {x : Char} {s : List Char}
    (h : x ∉ replaceMarks read (fun _ => [x]) s) : marks read s = [] := by
  rw [marks, List.filterMap_eq_nil_iff]
  intro piece hpiece
  cases piece with
  | char c => rfl
  | mark a =>
    exfalso
    apply h
    exact List.mem_flatMap.mpr ⟨.mark a, hpiece, List.mem_singleton.mpr rfl⟩

/-- If braces are decoded to blanks, there were none. -/
theorem decodeBraces_of_isBlankText {escape : Char} {s : List Char}
    (h : isBlankText (decodeBraces escape s) = true) : decodeBraces escape s = s := by
  have hbrace {x : Char} (hx : isBlank x = false) {t : List Char} (ht : isBlankText t = true) :
      x ∉ t := by
    intro hmem
    rw [List.all_eq_true.mp ht x hmem] at hx
    cases hx
  -- from the last replacement back to the first
  have hclosings := marks_eq_nil_of_not_mem (hbrace (x := '\x7d') (by decide) h)
  rw [decodeBraces, replaceMarks_of_marks_eq_nil hclosings] at h
  have hopenings := marks_eq_nil_of_not_mem (hbrace (x := '\x7b') (by decide) h)
  rw [decodeBraces, replaceMarks_of_marks_eq_nil hclosings, replaceMarks_of_marks_eq_nil hopenings]

namespace Engine
variable {e : Engine} {scope : Option Scope} {s t : List Char}

/-- Blanks that a text expands to are what is displayed of it, whatever the settings are. -/
theorem render_of_expand_blank (hexpand : e.expand scope s = .ok t) (ht : isBlankText t = true) :
    e.render scope s = .ok t := by
  obtain ⟨u, hdirectives, hu⟩ := map_eq_ok hexpand
  have hsame : u = t := by
    rw [← hu] at ht
    exact (decodeBraces_of_isBlankText ht).symm.trans hu
  subst hsame
  have hinert : Inert e.settings.escape u := Inert.of_isBlankText _ ht
  rw [render_eq_ok hdirectives hinert.apply_eq_ok, ite_self, hinert.decodeBraces_eq_self]

/-- A text that is judged empty expands to blanks and is displayed as these blanks, whatever has
become of the settings since the engine was opened. So no choice is dropped that would have shown
anything. -/
theorem render_eq_expand_of_isEmpty (e : Engine) (scope : Option Scope) :
    (∀ s, e.isEmpty scope s = .ok true → ∃ t, (∀ c ∈ t, isBlank c = true) ∧
      e.expand scope s = .ok t ∧ e.render scope s = .ok t) ∧
    ∀ choices cancel default r, e.filterChoices scope choices cancel default = .ok r →
      ∀ (i : Nat) (s : List Char), choices[i]? = some s → i ∉ r.branches →
        ∃ t, (∀ c ∈ t, isBlank c = true) ∧ e.expand scope s = .ok t ∧ e.render scope s = .ok t := by
  refine ⟨fun s h => ?_, fun choices cancel default r h i s hs hdropped => ?_⟩
  · obtain ⟨t, ht, hblank⟩ := map_eq_ok h
    exact ⟨t, List.all_eq_true.mp hblank, ht, render_of_expand_blank ht hblank⟩
  · have hall : ∀ s ∈ choices, ∃ t, e.expand scope s = .ok t :=
      fun s hs => exists_expand_of_filterChoices h hs
    obtain rfl := Except.ok.inj ((filterChoices_eq_ok hall cancel default).symm.trans h)
    obtain ⟨t, ht⟩ := hall s (List.mem_of_getElem? hs)
    have hblank : isBlankText t = true := by
      refine List.all_eq_true.mpr fun c hc => ?_
      -- a character that is no blank would have kept the choice
      cases hcb : isBlank c with
      | true => rfl
      | false => exact absurd (mem_keptPlaces.mpr ⟨s, hs, t, ht, c, hc, hcb⟩) hdropped
    exact ⟨t, List.all_eq_true.mp hblank, ht, render_of_expand_blank ht hblank⟩

/-- An engine that was opened with the usual settings and has come to take a blank for the escape
character. -/
theorem render_eq_expand_of_isEmpty_blank :
    Engine.isEmpty ⟨{}, { escape := ' ' }, '\\', none⟩ none "  \\ON[1]\x7b an\x7d\t".toList =
      .ok true ∧
    (∃ t, (∀ c ∈ t, isBlank c = true) ∧
      Engine.expand ⟨{}, { escape := ' ' }, '\\', none⟩ none
        "  \\ON[1]\x7b an\x7d\t".toList = .ok t ∧
      Engine.render ⟨{}, { escape := ' ' }, '\\', none⟩ none
        "  \\ON[1]\x7b an\x7d\t".toList = .ok t) ∧
    Engine.filterChoices ⟨{}, { escape := ' ' }, '\\', none⟩ none
      ["a".toList, "  \\ON[1]\x7b an\x7d\t".toList] 0 0 = .ok ⟨["a".toList], [0], 0, 0⟩ ∧
    ∃ t, (∀ c ∈ t, isBlank c = true) ∧
      Engine.expand ⟨{}, { escape := ' ' }, '\\', none⟩ none
        "  \\ON[1]\x7b an\x7d\t".toList = .ok t ∧
      Engine.render ⟨{}, { escape := ' ' }, '\\', none⟩ none
        "  \\ON[1]\x7b an\x7d\t".toList = .ok t := by
  have hempty : Engine.isEmpty ⟨{}, { escape := ' ' }, '\\', none⟩ none
      "  \\ON[1]\x7b an\x7d\t".toList = .ok true := rfl
  have hchoices : Engine.filterChoices ⟨{}, { escape := ' ' }, '\\', none⟩ none
      ["a".toList, "  \\ON[1]\x7b an\x7d\t".toList] 0 0 = .ok ⟨["a".toList], [0], 0, 0⟩ := rfl
  obtain ⟨htext, hdropped⟩ :=
    render_eq_expand_of_isEmpty ⟨{}, { escape := ' ' }, '\\', none⟩ none
  exact ⟨hempty, htext _ hempty, hchoices, hdropped _ _ _ _ hchoices 1 _ rfl (by decide)⟩

end Engine
end DialogueMarkup
