import DialogueMarkup.Preview.Pane
import DialogueMarkup.Proofs.Decimals
import DialogueMarkup.Proofs.Evaluation
import DialogueMarkup.Proofs.Phrase

/-! What can be evaluated and what can be displayed. A text that cannot be expanded is displayed no
better, and with the same fault. A text that can be expanded can be displayed, unless grammar codes
are written out and one of them meets a numeral that is too long to be read; a text with so many
digits is all that it takes. -/
namespace DialogueMarkup
open Text Markup

/-- A list is gone through to its end only if every member is passed. -/
theorem exists_of_mapM_eq_ok {ε α β : Type} {f : α → Except ε β} {xs : List α} {ys : List β}
    (h : xs.mapM f = .ok ys) {x : α} (hx : x ∈ xs) : ∃ y, f x = .ok y := by
  have hmem : f x ∈ ys.map .ok := map_eq_of_mapM_eq_ok h ▸ List.mem_map_of_mem hx
  obtain ⟨y, -, hy⟩ := List.mem_map.mp hmem
  exact ⟨y, hy.symm⟩

namespace Engine
variable {e : Engine} {scope : Option Scope} {s t : List Char}

theorem render_of_directives_eq_error {fault : Fault} (h : e.directives scope s = .error fault) :
    e.render scope s = .error fault := by
  rw [render, h]
  rfl

/-- What is displayed when a numeral is too long for its code. -/
theorem render_of_apply_eq_error {fault : NumeralFault} (hdirectives : e.directives scope s = .ok t)
    (hgrammar : e.settings.grammar = true)
    (happly : Grammar.apply e.settings.escape t = .error fault) :
    e.render scope s = .error (.numeral fault) := by
  rw [render, hdirectives]
  simp only [bind, Except.bind, hgrammar, if_true, happly]
  rfl

/-- Nothing but a numeral that is too long keeps a text from being displayed once its directives are
resolved. -/
theorem render_of_directives (h : e.directives scope s = .ok t) :
    (∃ d, e.render scope s = .ok d) ∨ e.settings.grammar = true ∧
      ∃ fault, Grammar.TooLong (decimals s) fault ∧
        e.render scope s = .error (.numeral fault) := by
  cases happly : Grammar.apply e.settings.escape t with
  | ok r => exact Or.inl ⟨_, render_eq_ok h happly⟩
  | error fault =>
    cases hgrammar : e.settings.grammar with
    | true =>
      right
      have htooLong := Grammar.tooLong_of_apply_eq_error happly
      exact ⟨rfl, fault, htooLong.mono (Expansion.decimals_of_directives h),
        render_of_apply_eq_error h hgrammar happly⟩
    | false =>
      left
      refine ⟨decodeBraces e.settings.escape t, ?_⟩
      rw [render, h]
      simp only [bind, Except.bind, hgrammar]
      rfl

theorem exists_directives_of_expand {r : List Char} (h : e.expand scope s = .ok r) :
    ∃ t, e.directives scope s = .ok t := by
  obtain ⟨t, ht, -⟩ := map_eq_ok h
  exact ⟨t, ht⟩

/-- Choices are judged by what they expand to. -/
theorem exists_expand_of_filterChoices {choices : List (List Char)} {cancel default : Int}
    {kept : ChoiceFilter} (h : e.filterChoices scope choices cancel default = .ok kept)
    (hs : s ∈ choices) : ∃ r, e.expand scope s = .ok r := by
  obtain ⟨judged, hjudged, -⟩ := bind_eq_ok h
  obtain ⟨verdict, hverdict⟩ := exists_of_mapM_eq_ok hjudged hs
  obtain ⟨empty, hempty, -⟩ := bind_eq_ok hverdict
  obtain ⟨r, hr, -⟩ := map_eq_ok hempty
  exact ⟨r, hr⟩

/-- A text that cannot be expanded is not displayed either, for the same fault. A text that can be
expanded is displayed, unless grammar codes are written out and one of them meets a numeral that is
longer than a numeral may be; the text itself then has as many digits. So a choice that was judged
has a pane, with the same exception. -/
theorem render_of_expand (e : Engine) (scope : Option Scope) (s : List Char) :
    (∀ fault, e.expand scope s = .error fault → e.render scope s = .error fault) ∧
    (∀ r, e.expand scope s = .ok r → (∃ d, e.render scope s = .ok d) ∨
      e.settings.grammar = true ∧ ∃ fault, Grammar.TooLong (decimals s) fault ∧
        e.render scope s = .error (.numeral fault)) ∧
    ∀ choices cancel default kept, e.filterChoices none choices cancel default = .ok kept →
      s ∈ choices → (∃ pane, Preview.Pane.ofText e s = .ok pane) ∨
        e.settings.grammar = true ∧ ∃ fault, Grammar.TooLong (decimals s) fault ∧
          Preview.Pane.ofText e s = .error fault := by
  refine ⟨fun fault h => ?_, fun r h => ?_, fun choices cancel default kept h hs => ?_⟩
  · -- expansion and display begin with the same directives
    exact render_of_directives_eq_error (map_eq_error h)
  · obtain ⟨t, ht⟩ := exists_directives_of_expand h
    exact render_of_directives ht
  · obtain ⟨r, hr⟩ := exists_expand_of_filterChoices h hs
    obtain ⟨t, ht⟩ := exists_directives_of_expand hr
    rcases render_of_directives ht with ⟨d, hd⟩ | ⟨hgrammar, fault, htooLong, hfault⟩
    · left
      rw [Preview.Pane.ofText, hd]
      exact ⟨_, rfl⟩
    · right
      rw [Preview.Pane.ofText, hfault]
      exact ⟨hgrammar, fault, htooLong, rfl⟩

/-- Digits that come together while codes are written out are no harm as long as they are few. -/
theorem render_of_expand_ordinal :
    ((Engine.open {} {}).expand none "\\ON[Z]\x7bx\x7d".toList =
        .error (.malformed .switchReference "Z".toList) ∧
      (Engine.open {} {}).render none "\\ON[Z]\x7bx\x7d".toList =
        .error (.malformed .switchReference "Z".toList)) ∧
    ((Engine.open {} {}).expand none "\\OFF[1]\x7b\\ORD[\\NUMWORD[12]3]\x7d".toList =
        .ok "\\ORD[\\NUMWORD[12]3]".toList ∧
      ∃ d, (Engine.open {} {}).render none
        "\\OFF[1]\x7b\\ORD[\\NUMWORD[12]3]\x7d".toList = .ok d) ∧
    ((Engine.open {} {}).filterChoices none
        ["\\OFF[1]\x7b\\ORD[\\NUMWORD[12]3]\x7d".toList] 0 0 =
        .ok ⟨["\\OFF[1]\x7b\\ORD[\\NUMWORD[12]3]\x7d".toList], [0], 0, 0⟩ ∧
      ∃ pane, Preview.Pane.ofText (Engine.open {} {})
        "\\OFF[1]\x7b\\ORD[\\NUMWORD[12]3]\x7d".toList = .ok pane) := by
  have hfails : (Engine.open {} {}).expand none "\\ON[Z]\x7bx\x7d".toList =
      .error (.malformed .switchReference "Z".toList) := rfl
  have hexpand : (Engine.open {} {}).expand none
      "\\OFF[1]\x7b\\ORD[\\NUMWORD[12]3]\x7d".toList =
        .ok "\\ORD[\\NUMWORD[12]3]".toList := rfl
  have hchoices : (Engine.open {} {}).filterChoices none
      ["\\OFF[1]\x7b\\ORD[\\NUMWORD[12]3]\x7d".toList] 0 0 =
        .ok ⟨["\\OFF[1]\x7b\\ORD[\\NUMWORD[12]3]\x7d".toList], [0], 0, 0⟩ := rfl
  have hdigits : decimals "\\OFF[1]\x7b\\ORD[\\NUMWORD[12]3]\x7d".toList = 4 := by decide
  have hshort {fault : NumeralFault} : ¬ Grammar.TooLong 4 fault := by
    rintro ⟨n, -, hlong, hn⟩
    have hmax : Numeral.maxDigits = 4300 := rfl
    omega
  obtain ⟨hfault, -, -⟩ :=
    render_of_expand (Engine.open {} {}) none "\\ON[Z]\x7bx\x7d".toList
  obtain ⟨-, hvalue, hpane⟩ := render_of_expand (Engine.open {} {}) none
    "\\OFF[1]\x7b\\ORD[\\NUMWORD[12]3]\x7d".toList
  rw [hdigits] at hvalue hpane
  refine ⟨⟨hfails, hfault _ hfails⟩, ⟨hexpand, ?_⟩, hchoices, ?_⟩
  · rcases hvalue _ hexpand with hd | ⟨-, fault, htooLong, -⟩
    · exact hd
    · exact absurd htooLong hshort
  · rcases hpane _ _ _ _ hchoices (List.mem_singleton_self _) with hd | ⟨-, fault, htooLong, -⟩
    · exact hd
    · exact absurd htooLong hshort

/-- The code that writes an integer in words. -/
def inWords (i : Numeral.Figure) : List Char :=
  '\\' :: (NumberCode.cardinal.name ++ argumentSource i.text)

section
variable (i : Numeral.Figure)

/-- No directive is found in the code, whatever the integer. -/
theorem directives_inWords (st : State) (current : Scope) (maxPasses : Option Int) :
    Expansion.directives st current '\\' maxPasses (inWords i) = .ok (inWords i) := by
  have hguards : Escape.backslash.Unguarded := ⟨by decide, by decide⟩
  have hplain : ∀ c ∈ i.text, Escape.backslash.Plain c ∧ c ≠ ']' := by
    intro c hc
    have hne {x : Char} (hx : isBlank x = false ∧ isDecimal x = false ∧ x ≠ '-') : c ≠ x :=
      ne_of_mem_of_not_mem hc (Grammar.Quantity.not_mem_figure hx i)
    exact ⟨⟨hne (by decide), hne (by decide), hne (by decide), hne (by decide), hne (by decide)⟩,
      hne (by decide)⟩
  let t : Tree Escape.backslash := .number .cardinal (Spelling.plain _) ⟨i.text, hplain⟩ .nil
  have hsource : t.source = inWords i := by
    show '\\' :: (NumberCode.cardinal.name ++ (argumentSource i.text ++ [])) = inWords i
    rw [List.append_nil, inWords]
  rw [← hsource]
  exact Expansion.directives_of_flat st current hguards rfl maxPasses

theorem readNumberCode_inWords :
    Grammar.readNumberCode '\\' NumberCode.cardinal.name (inWords i) = some (i.text, []) := by
  have hcode := Grammar.readCode_spelling (Spelling.plain NumberCode.cardinal.name)
    (argumentSource i.text)
  have hargument := readArgument_argumentSource (Grammar.Quantity.not_mem_figure (by decide) i) []
  rw [List.append_nil] at hargument
  simp only [Spelling.plain] at hcode
  simp [Grammar.readNumberCode, inWords, hcode, hargument]

/-- An integer that is too long can be expanded in its code, but not displayed. -/
theorem render_inWords (h : Numeral.maxDigits < i.digits.length) (st : State)
    (scope : Option Scope) : (Engine.open st {}).expand scope (inWords i) =
        .ok (decodeBraces '\\' (inWords i)) ∧
      (Engine.open st {}).render scope (inWords i) =
        .error (.numeral (.tooLong i.digits.length)) := by
  have hdirectives : (Engine.open st {}).directives scope (inWords i) = .ok (inWords i) :=
    directives_inWords i st _ none
  have hwrite : Grammar.writeNumber English.cardinal i.text =
      .error (.tooLong i.digits.length) := by
    rw [Grammar.writeNumber, i.readPlain_text_eq, Numeral.ofDigits, i.length_values, if_pos h]
    rfl
  have hstage : Grammar.numberWords '\\' (inWords i) = .error (.tooLong i.digits.length) := by
    have hconsumes := Grammar.readNumberCode_consumes '\\' NumberCode.cardinal.name
    have hmark := replaceMarksM_of_some hconsumes (f := Grammar.writeNumber English.cardinal)
      (readNumberCode_inWords i)
    rw [hwrite] at hmark
    exact hmark
  have happly : Grammar.apply '\\' (inWords i) = .error (.tooLong i.digits.length) := by
    rw [Grammar.apply, hstage]
    rfl
  refine ⟨?_, render_of_apply_eq_error hdirectives rfl happly⟩
  rw [expand_eq, hdirectives]
  rfl

end

/-- There are integers of every length. -/
theorem exists_figure_of_length {n : Nat} (hn : 0 < n) :
    ∃ i : Numeral.Figure, i.digits.length = n := by
  have hlength : (List.replicate n '1').length = n := List.length_replicate
  have hne : List.replicate n '1' ≠ [] := List.length_pos_iff.mp (by omega)
  have hdecimal : ∀ c ∈ List.replicate n '1', isDecimal c = true := by
    intro c hc
    rw [List.eq_of_mem_replicate hc]
    decide
  exact ⟨⟨[], false, List.replicate n '1', [], by simp, hne, hdecimal, by simp⟩, hlength⟩

/-- A text that can be expanded cannot always be displayed. -/
theorem not_render_of_expand :
    ¬ ∀ (st : State) (s r : List Char), (Engine.open st {}).expand none s = .ok r →
      ∃ d, (Engine.open st {}).render none s = .ok d := by
  intro h
  obtain ⟨i, hi⟩ := exists_figure_of_length (Nat.succ_pos Numeral.maxDigits)
  obtain ⟨hexpand, hrender⟩ := render_inWords i (by omega) {} none
  obtain ⟨d, hd⟩ := h {} _ _ hexpand
  rw [hrender] at hd
  cases hd

end Engine
end DialogueMarkup
