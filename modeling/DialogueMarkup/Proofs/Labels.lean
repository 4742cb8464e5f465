import DialogueMarkup.Proofs.ComparisonGrammar
import DialogueMarkup.Proofs.GuardedFragments
import DialogueMarkup.Summary

/-! Labels of references. The spelling of a self reference says all that it is: read again as an
operand of its own, it is the same slot at the same address. -/
namespace DialogueMarkup
open Text Markup

/-- What a label is when it is read as an operand of its own: if it begins with the sigil of self
variables, the left side of a comparison with zero, else a switch. -/
def SelfRef.IsReadFrom (label : List Char) (ref : SelfRef) : Prop :=
  if lower (label.take 2) = ['s', 'v'] then
    ∀ spelling op, (spelling, op) ∈ Comparison.spellings →
      Operand.parseComparison (label ++ (spelling ++ ['0'])) = .ok (.self ref, op, .constant 0)
  else Operand.parseSwitch label = .ok (.self ref)

/-! What is read does not depend on the text that a complaint would be about. -/

section
variable {text fragment fragment' : List Char}

theorem parseAddress_eq_ok {address : Option (List Char)} {places : Option Place × Option Place}
    (h : parseAddress address fragment = .ok places) :
    parseAddress address fragment' = .ok places := by
  cases address with
  | none => exact h
  | some address =>
    simp only [parseAddress] at h ⊢
    split at h
    · exact h
    · split at h
      · cases h
      · next hcolon =>
        rw [if_neg hcolon]
        exact h

theorem Operand.parseSwitch_trim {a : Operand} (h : parseSwitch text = .ok a) :
    parseSwitch (trim text) = .ok a := by
  simp only [parseSwitch, trim_trim] at h ⊢
  split at h
  · cases h
  · next sigil slot address hread =>
    obtain ⟨places, hplaces, h⟩ := bind_eq_ok h
    have hplaces : parseAddress address (trim text) = .ok places := parseAddress_eq_ok hplaces
    simp only [hplaces, bind, Except.bind]
    split at h
    · exact h
    · split at h
      · next hself =>
        rw [if_pos hself]
        exact h
      · next hself =>
        rw [if_neg hself]
        split at h
        · cases h
        · next haddress =>
          rw [if_neg haddress]
          exact h

namespace VariableToken
variable {token : List Char} {t : VariableToken}

theorem parse_eq_ok (h : parse token fragment = .ok t) : parse token fragment' = .ok t := by
  unfold parse at h ⊢
  split at h
  · cases h
  · dsimp only at h ⊢
    split at h
    · cases h
    · next haddress =>
      rw [if_neg haddress]
      exact h

theorem operand_eq_ok {a : Operand} (h : t.operand fragment = .ok a) :
    t.operand fragment' = .ok a := by
  simp only [operand] at h ⊢
  split at h
  · cases h
  · next hid =>
    rw [if_neg hid]
    split at h
    · next hself =>
      obtain ⟨places, hplaces, h⟩ := bind_eq_ok h
      rw [if_pos hself, parseAddress_eq_ok hplaces]
      exact h
    · next hself =>
      rw [if_neg hself]
      exact h

end VariableToken

end

/-! Sigils. -/

/-- What is split off as the sigil of a self variable is `sv`, in any case. -/
theorem VariableToken.lower_of_parse {token fragment : List Char} {t : VariableToken}
    (h : parse token fragment = .ok t) (hself : t.sigil = .self) :
    lower (token.take 2) = ['s', 'v'] := by
  have hsigil : (readSigil token).1 = .self := by
    rw [parse] at h
    split at h
    · cases h
    · next hparts =>
      simp only [read?, Option.bind_eq_bind, Option.bind_eq_some_iff, Option.pure_def,
        Option.some.injEq, Prod.mk.injEq] at hparts
      obtain ⟨-, -, -, -, hsigil, -⟩ := hparts
      split at h
      · cases h
      · obtain ⟨n, -, h⟩ := bind_eq_ok h
        cases h
        exact hsigil.trans hself
  rw [readSigil] at hsigil
  split at hsigil
  · next spelling rest hword =>
    obtain ⟨rfl, hlength⟩ := readWord_eq_some hword
    have htake : (spelling ++ rest).take 2 = spelling := List.take_left' hlength
    rw [htake]
    by_contra hne
    rw [if_neg hne] at hsigil
    cases hsigil
  · split at hsigil <;> cases hsigil

/-- A small letter in front of a text in small letters comes of the first character, unless that is
one whose small form has two characters or depends on what stands around it. -/
theorem lowerSimple_of_lowerAfter {before s t : List Char} {c e : Char}
    (he : e ≠ 'i' ∧ e ≠ 'ς' ∧ e ≠ 'σ') (h : lowerAfter before (c :: s) = e :: t) :
    lowerSimple c = e ∧ lowerAfter (c :: before) s = t := by
  obtain ⟨hi, hfinal, hsigma⟩ := he
  rw [lowerAfter] at h
  split at h
  · rw [List.singleton_append] at h
    have hhead := (List.cons.inj h).1
    split at hhead
    · exact absurd hhead.symm hfinal
    · exact absurd hhead.symm hsigma
  · rw [lowerChar] at h
    split at h
    · exact absurd (List.cons.inj h).1.symm hi
    · exact List.cons.inj h

theorem caseKey_of_lowerSimple {c e : Char} (h : lowerSimple c = e)
    (he : sharedCapitals.lookup e.toNat = none) : caseKey c = e := by
  simp only [caseKey, h, he]

/-- The letter `v` is no slot of a switch. -/
theorem readSwitchSlot_of_caseKey {c : Char} (h : caseKey c = 'v') (s : List Char) :
    readSwitchSlot (c :: s) = none := by
  have hletter : isSelfLetter c = false := by
    cases hc : isSelfLetter c with
    | false => rfl
    | true =>
      exact absurd h (of_isSelfLetter (p := fun c => caseKey c ≠ 'v') (by decide) hc)
  have hdecimal : isDecimal c = false := by
    cases hc : isDecimal c with
    | false => rfl
    | true =>
      obtain rfl : c = 'v' := (caseKey_of_isDecimal hc).symm.trans h
      exact absurd hc (by decide)
  simp [readSwitchSlot, hletter, hdecimal]

/-- No switch is spelled like a self variable. -/
theorem readSwitch?_of_lower {token : List Char} (h : lower (token.take 2) = ['s', 'v']) :
    readSwitch? token = none := by
  match token with
  | [] => rfl
  | [c] =>
    obtain ⟨-, hrest⟩ := lowerSimple_of_lowerAfter (by decide) h
    cases hrest
  | c :: d :: s =>
    obtain ⟨hc, hrest⟩ := lowerSimple_of_lowerAfter (by decide) h
    obtain ⟨hd, -⟩ := lowerSimple_of_lowerAfter (by decide) hrest
    have hfirst : caseKey c = 's' := caseKey_of_lowerSimple hc (by decide)
    have hsecond : caseKey d = 'v' := caseKey_of_lowerSimple hd (by decide)
    have hs : sameLetter 's' c = true := by
      rw [sameLetter, hfirst]
      decide
    have hv : sameLetter 's' d = false := by
      rw [sameLetter, hsecond]
      decide
    have hsigil : readSwitchSigil (c :: d :: s) = (.global, d :: s) := by
      simp [readSwitchSigil, readWord, hs, hv]
    simp [readSwitch?, hsigil, readSwitchSlot_of_caseKey hsecond]

/-! What is read is read again from its spelling. -/

/-- The references of an operand are read from their own spellings. -/
def Operand.Restated (operand : Operand) : Prop :=
  ∀ ref ∈ operand.refs, ref.IsReadFrom ref.text

theorem Operand.restated_self {ref : SelfRef} (h : ref.IsReadFrom ref.text) :
    (Operand.self ref).Restated := by
  intro r href
  rwa [List.mem_singleton.mp href]

theorem Operand.restated_constant (n : Int) : (Operand.constant n).Restated :=
  fun _ href => (List.not_mem_nil href).elim

theorem Operand.parseSwitch_text {text : List Char} {ref : SelfRef}
    (h : parseSwitch text = .ok (.self ref)) : ref.text = trim text := by
  simp only [parseSwitch] at h
  split at h
  · cases h
  · obtain ⟨places, -, h⟩ := bind_eq_ok h
    split at h
    · cases h
      rfl
    · split at h
      · obtain ⟨n, -, h⟩ := bind_eq_ok h
        cases h
        rfl
      · split at h
        · cases h
        · obtain ⟨n, -, h⟩ := bind_eq_ok h
          cases h

theorem Operand.restated_of_parseSwitch {text : List Char} {a : Operand}
    (h : parseSwitch text = .ok a) : a.Restated := by
  match a with
  | .constant n => exact restated_constant n
  | .global kind id => exact fun _ href => (List.not_mem_nil href).elim
  | .self ref =>
    have hagain := parseSwitch_trim h
    have hswitch : lower ((trim text).take 2) ≠ ['s', 'v'] := by
      intro hlower
      simp [parseSwitch, trim_trim, readSwitch?_of_lower hlower] at hagain
    refine restated_self ?_
    rw [SelfRef.IsReadFrom, parseSwitch_text h, if_neg hswitch]
    exact hagain

namespace VariableToken
variable {token text : List Char} {t : VariableToken}

/-- Only a token with the sigil of self variables is a reference, and it is the label of it. -/
theorem operand_eq_self {ref : SelfRef} (h : t.operand text = .ok (.self ref)) :
    t.sigil = .self ∧ ref.text = t.text := by
  simp only [operand] at h
  split at h
  · cases h
  · split at h
    · next hself =>
      obtain ⟨places, -, h⟩ := bind_eq_ok h
      cases h
      exact ⟨hself, rfl⟩
    · cases h

/-- The token of a self variable is the left side of a comparison. -/
theorem parseComparison_eq_ok (hne : token ≠ []) (htoken : ∀ c ∈ token, isTokenCharacter c = true)
    (hparse : parse token text = .ok t) {ref : SelfRef} (h : t.operand text = .ok (.self ref))
    {spelling : List Char} {op : Comparison} (hspelling : (spelling, op) ∈ Comparison.spellings) :
    Operand.parseComparison (token ++ (spelling ++ ['0'])) =
      .ok (.self ref, op, .constant 0) := by
  let l : ComparisonLayout := {
    start := [], left := token, behindLeft := [], spelling, op, behindOp := [], right := ['0']
    behindRight := [], blank_start := nofun, left_ne_nil := hne, token_left := htoken
    blank_behindLeft := nofun, spelled := hspelling, blank_behindOp := nofun
    right_ne_nil := by simp, token_right := forall_mem_of_all (by decide)
    blank_behindRight := nofun }
  have htext : l.text = token ++ (spelling ++ ['0']) := by
    simp [l, ComparisonLayout.text]
  have hsplit : splitComparison? (token ++ (spelling ++ ['0'])) = some (token, op, ['0']) :=
    htext ▸ l.splitComparison?_text
  have hzero (fragment : List Char) : parse ['0'] fragment = .ok ⟨.bare, 0, none, ['0']⟩ := rfl
  have hself : t.sigil ≠ .bare := by
    rw [(operand_eq_self h).1]
    decide
  simp only [Operand.parseComparison, hsplit, parse_eq_ok hparse, hzero, bind, Except.bind]
  simp [hself, operand_eq_ok h, pure, Except.pure]

theorem restated_of_operand (hne : token ≠ []) (htoken : ∀ c ∈ token, isTokenCharacter c = true)
    (hparse : parse token text = .ok t) {a : Operand} (h : t.operand text = .ok a) :
    a.Restated := by
  match a with
  | .constant n => exact Operand.restated_constant n
  | .global kind id => exact fun _ href => (List.not_mem_nil href).elim
  | .self ref =>
    obtain ⟨hself, htext⟩ := operand_eq_self h
    have hends := parse_text token text
    rw [hparse] at hends
    have hlabel : ref.text = token := htext.trans hends.1
    refine Operand.restated_self ?_
    rw [SelfRef.IsReadFrom, hlabel, if_pos (lower_of_parse hparse hself)]
    exact fun spelling op hspelling => parseComparison_eq_ok hne htoken hparse h hspelling

end VariableToken

/-- What comes of a computation is what it comes to. -/
theorem ends_self {α : Type} (x : Except Fault α) :
    Ends (fun a => x = .ok a) (fun _ => True) x := by
  cases x with
  | error fault => trivial
  | ok a => rfl

theorem Operand.parseComparison_restated (text : List Char) :
    Ends (fun r : Operand × Comparison × Operand => r.1.Restated ∧ r.2.2.Restated)
      (fun _ => True) (Operand.parseComparison text) := by
  dsimp only [Operand.parseComparison]
  split
  · trivial
  · next left op right hsplit =>
    obtain ⟨l, rfl, rfl, rfl, rfl⟩ := ComparisonLayout.exists_of_splitComparison hsplit
    refine ends_bind (ends_self _) fun left hleft => ?_
    refine ends_bind (ends_self _) fun right hright => ?_
    have hleftSide (b : Operand) (hb : b.Restated) :
        Ends (fun r : Operand × Comparison × Operand => r.1.Restated ∧ r.2.2.Restated)
          (fun _ => True)
          (if left.sigil = .bare ∧ right.sigil ≠ .bare then do
            let a ← pure (.constant left.number)
            pure (a, l.op, b)
          else do
            let a ← left.operand l.text
            pure (a, l.op, b)) := by
      split
      · exact ⟨restated_constant _, hb⟩
      · refine ends_bind (ends_self _) fun a ha => ?_
        exact ⟨VariableToken.restated_of_operand l.left_ne_nil l.token_left hleft ha, hb⟩
    split
    · exact hleftSide _ (restated_constant _)
    · refine ends_bind (ends_self _) fun b hb => ?_
      exact hleftSide b
        (VariableToken.restated_of_operand l.right_ne_nil l.token_right hright hb)

namespace Condition
variable {opcode : Opcode} {text : List Char} {c : Condition}

/-- The operands of a condition are that of a switch, or the two of a comparison. -/
theorem operand_of_parse (h : parse opcode text = .ok c) {operand : Operand}
    (hmem : operand ∈ c.operands) : Operand.parseSwitch text = .ok operand ∨
      ∃ a op b, Operand.parseComparison text = .ok (a, op, b) ∧
        (operand = a ∨ operand = b) := by
  have hswitch {negated : Bool}
      (h : (do return Condition.switch (← Operand.parseSwitch text) negated) = .ok c) :
      Operand.parseSwitch text = .ok operand := by
    obtain ⟨a, ha, h⟩ := bind_eq_ok h
    cases h
    obtain rfl : operand = a := List.mem_singleton.mp hmem
    exact ha
  cases opcode <;> simp only [parse] at h <;> split at h
  case on.isTrue | off.isTrue | ov.isTrue | ops.isTrue | opc.isTrue | opl.isTrue | opm.isTrue =>
    cases h
  case on.isFalse | off.isFalse => exact .inl (hswitch h)
  case ov.isFalse =>
    obtain ⟨⟨a, op, b⟩, hparse, h⟩ := bind_eq_ok h
    cases h
    exact .inr ⟨a, op, b, hparse, by simpa [operands] using hmem⟩
  case ops.isFalse | opc.isFalse =>
    -- a condition on the party has no operands
    split at h
    · cases h
    · obtain ⟨n, -, h⟩ := bind_eq_ok h
      cases h
      cases hmem
  case opl.isFalse | opm.isFalse =>
    split at h
    · cases h
    · split at h
      · cases h
      · obtain ⟨n, -, h⟩ := bind_eq_ok h
        cases h
        cases hmem

/-- Every reference in a condition is read from its label, which is its spelling. -/
theorem isReadFrom_label (h : parse opcode text = .ok c) {ref : SelfRef} (href : ref ∈ c.refs) :
    ref.IsReadFrom (Summary.label ref) := by
  obtain ⟨operand, hmem, hin⟩ := List.mem_flatMap.mp href
  have hrestated : operand.Restated := by
    rcases operand_of_parse h hmem with hswitch | ⟨a, op, b, hcompare, hside⟩
    · exact Operand.restated_of_parseSwitch hswitch
    · have hsides := Operand.parseComparison_restated text
      rw [hcompare] at hsides
      rcases hside with rfl | rfl
      · exact hsides.1
      · exact hsides.2
  have hwithin := parse_within opcode text
  rw [h] at hwithin
  have hne : ref.text ≠ [] := (hwithin operand hmem ref hin).1
  have hlabel : Summary.label ref = ref.text := by
    rw [Summary.label, if_neg (by simpa using hne)]
  rw [hlabel]
  exact hrestated ref hin

end Condition

end DialogueMarkup
