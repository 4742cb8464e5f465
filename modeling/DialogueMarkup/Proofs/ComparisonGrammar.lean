import DialogueMarkup.Proofs.OperandGrammar

/-! The grammar of comparisons of variables: two tokens with an operator between them. A token with
a sigil is a variable; a bare number is a constant on the right, and on the left it is a constant
only opposite a variable. What this grammar derives is what is read, and everything else is found
malformed. -/
namespace DialogueMarkup
open Text Markup Numeral

/-- An integer: perhaps a minus, and digits. -/
inductive IntegerSpelled : List Char → Int → Prop
  | plain {row : List Char} (hrow : IsDigitRow row) : IntegerSpelled row (Nat.ofDigitChars 10 row 0)
  | minus {row : List Char} (hrow : IsDigitRow row) :
      IntegerSpelled ('-' :: row) (-(Nat.ofDigitChars 10 row 0 : Int))

namespace Operand

/-- What a token with a sigil names. No variable has a negative id, and an address is for self
variables. -/
inductive VariableSpelled : List Char → Operand → Prop
  | global {spelling s : List Char} {n : Int} (hsigil : Sigil.global.Spelled 'v' spelling)
      (hn : IntegerSpelled s n) (hid : 0 ≤ n) :
      VariableSpelled (spelling ++ s) (.global .variable n)
  | self {spelling s suffix : List Char} {n : Int} {container context : Option Place}
      (hsigil : Sigil.self.Spelled 'v' spelling) (hn : IntegerSpelled s n) (hid : 0 ≤ n)
      (hsuffix : AddressSpelled suffix container context) :
      VariableSpelled (spelling ++ (s ++ suffix))
        (.self ⟨.variable, .number n, container, context, spelling ++ (s ++ suffix)⟩)

/-- What the tokens on both sides mean: the right one decides what a bare number on the left is. -/
inductive SidesSpelled : List Char → List Char → Operand → Operand → Prop
  | prefixed {left right : List Char} {a b : Operand} (ha : VariableSpelled left a)
      (hb : VariableSpelled right b) : SidesSpelled left right a b
  | constantRight {left right : List Char} {a : Operand} {n : Int} (ha : VariableSpelled left a)
      (hn : IntegerSpelled right n) : SidesSpelled left right a (.constant n)
  | constantLeft {left right : List Char} {m : Int} {b : Operand} (hm : IntegerSpelled left m)
      (hb : VariableSpelled right b) : SidesSpelled left right (.constant m) b
  | bare {left right : List Char} {m n : Int} (hm : IntegerSpelled left m) (hid : 0 ≤ m)
      (hn : IntegerSpelled right n) : SidesSpelled left right (.global .variable m) (.constant n)

end Operand

/-- A comparison as it may be written: two tokens, the spelling of an operator between them, and
blanks around all three. -/
structure ComparisonLayout where
  start : List Char
  left : List Char
  behindLeft : List Char
  spelling : List Char
  op : Comparison
  behindOp : List Char
  right : List Char
  behindRight : List Char
  blank_start : ∀ c ∈ start, isBlank c = true
  left_ne_nil : left ≠ []
  token_left : ∀ c ∈ left, isTokenCharacter c = true
  blank_behindLeft : ∀ c ∈ behindLeft, isBlank c = true
  spelled : (spelling, op) ∈ Comparison.spellings
  blank_behindOp : ∀ c ∈ behindOp, isBlank c = true
  right_ne_nil : right ≠ []
  token_right : ∀ c ∈ right, isTokenCharacter c = true
  blank_behindRight : ∀ c ∈ behindRight, isBlank c = true

section
variable {c : Char}

theorem apart_of_isTokenCharacter (h : isTokenCharacter c = true) :
    isBlank c = false ∧ Comparison.isSign c = false := by
  simpa [isTokenCharacter] using h

theorem apart_of_isSign (h : Comparison.isSign c = true) :
    isBlank c = false ∧ isTokenCharacter c = false := by
  have hblank : isBlank c = false := by
    simp only [Comparison.isSign, Bool.or_eq_true, beq_iff_eq] at h
    rcases h with ((rfl | rfl) | rfl) | rfl <;> decide
  exact ⟨hblank, by simp [isTokenCharacter, h]⟩

theorem isSign_of_isDecimal (h : isDecimal c = true) : Comparison.isSign c = false := by
  rw [Bool.eq_false_iff]
  intro hsign
  simp only [Comparison.isSign, Bool.or_eq_true, beq_iff_eq] at hsign
  rcases hsign with ((rfl | rfl) | rfl) | rfl <;> exact absurd h (by decide)

theorem apart_of_isBlank (h : isBlank c = true) :
    isTokenCharacter c = false ∧ Comparison.isSign c = false := by
  refine ⟨by simp [isTokenCharacter, h], ?_⟩
  rw [Bool.eq_false_iff]
  intro hsign
  rw [(apart_of_isSign hsign).1] at h
  cases h

end

namespace Comparison

theorem ofSpelling?_eq_some_iff {s : List Char} {op : Comparison} :
    ofSpelling? s = some op ↔ (s, op) ∈ spellings := by
  constructor
  · intro h
    obtain ⟨xs, ys, hsplit, -⟩ := List.lookup_eq_some_iff.mp h
    simp [hsplit]
  · intro h
    have hall : ∀ e ∈ spellings, ofSpelling? e.1 = some e.2 := by decide
    exact hall (s, op) h

/-- A spelling is a run of operator characters. -/
theorem isSign_of_mem_spellings {s : List Char} {op : Comparison} (h : (s, op) ∈ spellings) :
    s ≠ [] ∧ ∀ c ∈ s, isSign c = true := by
  have hall : ∀ e ∈ spellings, (!e.1.isEmpty && e.1.all isSign) = true := by decide
  simpa using hall (s, op) h

end Comparison

namespace ComparisonLayout
open Comparison
variable (l : ComparisonLayout)

def text : List Char :=
  l.start ++ (l.left ++ (l.behindLeft ++ (l.spelling ++ (l.behindOp ++
    (l.right ++ l.behindRight)))))

/-- All operator characters of a comparison are in the spelling of its operator. -/
theorem filter_isSign_text : l.text.filter Comparison.isSign = l.spelling := by
  have hnone {s : List Char} (h : ∀ c ∈ s, Comparison.isSign c = false) :
      s.filter Comparison.isSign = [] := by
    rw [List.filter_eq_nil_iff]
    intro c hc
    simp [h c hc]
  have hblank {s : List Char} (h : ∀ c ∈ s, isBlank c = true) := hnone fun c hc =>
    (apart_of_isBlank (h c hc)).2
  have htoken {s : List Char} (h : ∀ c ∈ s, isTokenCharacter c = true) := hnone fun c hc =>
    (apart_of_isTokenCharacter (h c hc)).2
  have hspelling : l.spelling.filter Comparison.isSign = l.spelling :=
    List.filter_eq_self.mpr (Comparison.isSign_of_mem_spellings l.spelled).2
  simp only [text, List.filter_append, hblank l.blank_start, htoken l.token_left,
    hblank l.blank_behindLeft, hspelling, hblank l.blank_behindOp, htoken l.token_right,
    hblank l.blank_behindRight, List.nil_append, List.append_nil]

/-- A comparison is split into its parts. -/
theorem splitComparison?_text : splitComparison? l.text = some (l.left, l.op, l.right) := by
  obtain ⟨hspelling, hsigns⟩ := Comparison.isSign_of_mem_spellings l.spelled
  -- the head of a part ends the blanks or the token in front of it
  have hleftHead (s : List Char) : ∀ c ∈ (l.left ++ s).head?, isBlank c = false :=
    head?_append_of_ne_nil l.left_ne_nil
      (fun c hc => (apart_of_isTokenCharacter (l.token_left c hc)).1) s
  have hopHead : ∀ c ∈ (l.spelling ++ (l.behindOp ++ (l.right ++ l.behindRight))).head?,
      isBlank c = false ∧ isTokenCharacter c = false :=
    head?_append_of_ne_nil hspelling (fun c hc => apart_of_isSign (hsigns c hc)) _
  have hrightHead : ∀ c ∈ (l.right ++ l.behindRight).head?,
      isBlank c = false ∧ isSign c = false :=
    head?_append_of_ne_nil l.right_ne_nil
      (fun c hc => apart_of_isTokenCharacter (l.token_right c hc)) _
  have hstart : l.text.dropWhile isBlank = _ := (span_append l.blank_start (hleftHead _)).2
  have hleft := span_append l.token_left
    (head?_append (fun c hc => (apart_of_isBlank (l.blank_behindLeft c hc)).1)
      fun c hc => (hopHead c hc).2)
  have hbehindLeft := span_append l.blank_behindLeft fun c hc => (hopHead c hc).1
  have hop := span_append hsigns
    (head?_append (fun c hc => (apart_of_isBlank (l.blank_behindOp c hc)).2)
      fun c hc => (hrightHead c hc).2)
  have hbehindOp := span_append l.blank_behindOp fun c hc => (hrightHead c hc).1
  have hright := span_append l.token_right fun c hc =>
    (apart_of_isBlank (l.blank_behindRight c (List.mem_of_mem_head? hc))).1
  have hend : isBlankText l.behindRight = true := List.all_eq_true.mpr l.blank_behindRight
  have hread : ofSpelling? l.spelling = some l.op := ofSpelling?_eq_some_iff.mpr l.spelled
  simp only [splitComparison?, trimLeft, hstart, Comparison.read, hleft.1, hleft.2,
    hbehindLeft.2, hop.1, hop.2, hread, Option.map_some, Option.bind_eq_bind, Option.bind_some,
    hbehindOp.2, hright.1, hright.2, hend]
  simp [l.left_ne_nil, l.right_ne_nil]

/-- Whatever is split is a comparison. -/
theorem exists_of_splitComparison {text left right : List Char} {op : Comparison}
    (h : splitComparison? text = some (left, op, right)) :
    ∃ l : ComparisonLayout, l.text = text ∧ l.left = left ∧ l.op = op ∧ l.right = right := by
  simp only [splitComparison?, Option.bind_eq_bind, Option.bind_eq_some_iff] at h
  obtain ⟨_, hread, h⟩ := h
  obtain ⟨op', hspelling, rfl⟩ := Option.map_eq_some_iff.mp hread
  split at h
  · cases h
  · rename_i hends
    cases h
    simp only [Bool.or_eq_true, Bool.not_eq_true', not_or, List.isEmpty_iff,
      Bool.not_eq_false] at hends
    obtain ⟨⟨hleft, hright⟩, hblank⟩ := hends
    let behindLeft := (trimLeft text).dropWhile isTokenCharacter
    let behindOp := (trimLeft behindLeft).dropWhile isSign
    let l : ComparisonLayout := {
      start := text.takeWhile isBlank
      left := (trimLeft text).takeWhile isTokenCharacter
      behindLeft := behindLeft.takeWhile isBlank
      spelling := (trimLeft behindLeft).takeWhile isSign
      op := op'
      behindOp := behindOp.takeWhile isBlank
      right := (trimLeft behindOp).takeWhile isTokenCharacter
      behindRight := (trimLeft behindOp).dropWhile isTokenCharacter
      blank_start := of_mem_takeWhile isBlank text
      left_ne_nil := hleft
      token_left := of_mem_takeWhile isTokenCharacter (trimLeft text)
      blank_behindLeft := of_mem_takeWhile isBlank behindLeft
      spelled := ofSpelling?_eq_some_iff.mp hspelling
      blank_behindOp := of_mem_takeWhile isBlank behindOp
      right_ne_nil := hright
      token_right := of_mem_takeWhile isTokenCharacter (trimLeft behindOp)
      blank_behindRight := List.all_eq_true.mp hblank }
    refine ⟨l, ?_, rfl, rfl, rfl⟩
    simp only [ComparisonLayout.text, l, behindOp, behindLeft, trimLeft,
      List.takeWhile_append_dropWhile]

end ComparisonLayout

/-! Tokens. -/

/-- How a sign and digits are written. -/
def SignedSpelled (x : Bool × List Nat) (s : List Char) : Prop :=
  ∃ row, s = signOf x.1 ++ row ∧ IsDigitRow row ∧ x.2 = row.filterMap decimalValue?

theorem reads_signed : Reads readSigned SignedSpelled where
  written := by
    rintro s rest ⟨negative, values⟩ hs h
    obtain ⟨row, rfl, hne, hdecimal, rfl⟩ := exists_run_of_readSigned h
    refine ⟨signOf negative ++ row, by rw [List.append_assoc], row, rfl, ⟨hne, ?_⟩, rfl⟩
    intro c hc
    rw [← isDecimal_of_ascii (hs c (by simp [hc]))]
    exact hdecimal c hc
  read := by
    rintro _ rest ⟨negative, values⟩ hs ⟨row, rfl, ⟨hne, hdigits⟩, rfl⟩ hrest
    rw [List.append_assoc]
    exact readSigned_append negative hne (fun c hc => isDecimal_of_isDigit (hdigits c hc)) hrest
  head := by
    rintro _ ⟨negative, values⟩ ht ⟨row, rfl, ⟨hne, hdigits⟩, -⟩
    obtain ⟨d, behind, rfl⟩ := List.exists_cons_of_ne_nil hne
    cases negative with
    | false =>
      exact ⟨d, behind, rfl, toLower_ne_of_isDigit (ht d (by simp)) (hdigits d (by simp))⟩
    | true => exact ⟨'-', d :: behind, rfl, by decide, by decide⟩

theorem integerSpelled_iff_signOf {s : List Char} {n : Int} :
    IntegerSpelled s n ↔ ∃ negative row, s = signOf negative ++ row ∧ IsDigitRow row ∧
      n = if negative then -(Nat.ofDigitChars 10 row 0 : Int) else Nat.ofDigitChars 10 row 0 := by
  constructor
  · intro h
    cases h with
    | plain hrow => exact ⟨false, _, rfl, hrow, rfl⟩
    | minus hrow => exact ⟨true, _, rfl, hrow, rfl⟩
  · rintro ⟨negative, row, rfl, hrow, rfl⟩
    cases negative with
    | false => exact .plain hrow
    | true => exact .minus hrow

namespace VariableToken

/-- How a token is written: an integer behind a sigil, and perhaps the address of a self
variable. -/
def Spelled (t : VariableToken) : Prop :=
  ∃ spelling s suffix, t.text = spelling ++ (s ++ suffix) ∧ t.sigil.Spelled 'v' spelling ∧
    IntegerSpelled s t.number ∧ readAddress? suffix = some t.address ∧
      (t.address.isSome → t.sigil = .self)

/-- Behind a token that is no self variable nothing is left. -/
theorem suffix_eq_nil {t : VariableToken} {suffix : List Char}
    (haddress : readAddress? suffix = some t.address)
    (hself : t.address.isSome → t.sigil = .self) (hplain : t.sigil ≠ .self) : suffix = [] := by
  rcases readAddress?_eq_some_iff.mp haddress with ⟨hnil, -⟩ | ⟨a, -, hsome, -⟩
  · exact hnil
  · exact absurd (hself (by rw [hsome]; rfl)) hplain

section
variable {token : List Char} {t : VariableToken} (fragment : List Char) (h : PlainAscii token)
include h

/-- A token is read as the parts that it is written with. -/
theorem parse_eq_ok_iff : parse token fragment = .ok t ↔ t.text = token ∧ t.Spelled := by
  have hread {sigil : Sigil} {x : Bool × List Nat} {address : Option (List Char)} :
      read? token = some (sigil, x, address) ↔ ∃ spelling s suffix,
        token = spelling ++ (s ++ suffix) ∧ sigil.Spelled 'v' spelling ∧ SignedSpelled x s ∧
          readAddress? suffix = some address := by
    rw [read?_eq]
    exact readPartsOf_eq_some_iff reads_signed (Or.inr rfl) h.ascii
  constructor
  · intro hparse
    cases hparts : read? token with
    | none => simp [parse, hparts] at hparse
    | some parts =>
      obtain ⟨sigil, ⟨negative, values⟩, address⟩ := parts
      obtain ⟨spelling, _, suffix, htoken, hspelling, ⟨row, rfl, hrow, rfl⟩, haddress⟩ :=
        hread.mp hparts
      have hascii : PlainAscii row := (htoken ▸ h).right.left.right
      simp only [parse, hparts] at hparse
      rw [hascii.ofDigits_eq negative hrow] at hparse
      by_cases hself : (address.isSome && sigil != .self) = true
      · rw [if_pos hself] at hparse
        cases hparse
      · rw [if_neg hself] at hparse
        cases hparse
        refine ⟨rfl, spelling, signOf negative ++ row, suffix, htoken, hspelling, ?_, haddress, ?_⟩
        · exact integerSpelled_iff_signOf.mpr ⟨negative, row, rfl, hrow, rfl⟩
        · intro hsome
          simpa [hsome] using hself
  · rintro ⟨htext, spelling, s, suffix, htoken, hspelling, hinteger, haddress, hself⟩
    obtain ⟨sigil, number, address, text⟩ := t
    obtain ⟨negative, row, rfl, hrow, rfl⟩ := integerSpelled_iff_signOf.mp hinteger
    obtain rfl : text = token := htext
    change text = _ at htoken
    have hparts : read? text = some (sigil, (negative, row.filterMap decimalValue?), address) :=
      hread.mpr ⟨spelling, _, suffix, htoken, hspelling, ⟨row, rfl, hrow, rfl⟩, haddress⟩
    have hcond : ¬ (address.isSome && sigil != .self) = true := by simpa using hself
    have hascii : PlainAscii row := (htoken ▸ h).right.left.right
    simp only [parse, hparts]
    rw [if_neg hcond, hascii.ofDigits_eq negative hrow]
    rfl

/-- A bare token is an integer. -/
theorem integerSpelled_iff_parse {n : Int} : IntegerSpelled token n ↔
    ∃ t, parse token fragment = .ok t ∧ t.sigil = .bare ∧ t.number = n := by
  constructor
  · intro hn
    refine ⟨⟨.bare, n, none, token⟩, (parse_eq_ok_iff fragment h).mpr ⟨rfl, ?_⟩, rfl, rfl⟩
    exact ⟨[], token, [], by simp, rfl, hn, rfl, by simp⟩
  · rintro ⟨t, hparse, hbare, rfl⟩
    obtain ⟨rfl, spelling, s, suffix, htext, hspelling, hn, haddress, hself⟩ :=
      (parse_eq_ok_iff fragment h).mp hparse
    obtain rfl : suffix = [] := suffix_eq_nil haddress hself (by simp [hbare])
    rw [hbare] at hspelling
    obtain rfl : spelling = [] := List.map_eq_nil_iff.mp hspelling
    rw [List.nil_append, List.append_nil] at htext
    rwa [htext]

/-- A token with a sigil is the variable that it names. -/
theorem variableSpelled_iff_parse {a : Operand} : Operand.VariableSpelled token a ↔
    ∃ t, parse token fragment = .ok t ∧ t.sigil ≠ .bare ∧ t.operand fragment = .ok a := by
  constructor
  · intro ha
    -- from a spelling the parts of the token, and below from the parts a spelling
    cases ha with
    | @global spelling s n hsigil hn hid =>
      refine ⟨⟨.global, n, none, spelling ++ s⟩, (parse_eq_ok_iff fragment h).mpr ⟨rfl, ?_⟩, ?_, ?_⟩
      · exact ⟨spelling, s, [], by simp, hsigil, hn, rfl, by simp⟩
      · simp
      · rw [operand, if_neg (Int.not_lt.mpr hid)]
        rfl
    | @self spelling s suffix n container context hsigil hn hid hsuffix =>
      obtain ⟨address, haddress, hplaces⟩ :=
        (addressSpelled_iff h.right.right fragment).mpr hsuffix
      refine ⟨⟨.self, n, address, spelling ++ (s ++ suffix)⟩,
        (parse_eq_ok_iff fragment h).mpr ⟨rfl, ?_⟩, ?_, ?_⟩
      · exact ⟨spelling, s, suffix, rfl, hsigil, hn, haddress, fun _ => rfl⟩
      · simp
      · rw [operand, if_neg (Int.not_lt.mpr hid)]
        simp only [hplaces]
        rfl
  · rintro ⟨t, hparse, hprefixed, hoperand⟩
    obtain ⟨rfl, spelling, s, suffix, htext, hspelling, hn, haddress, hself⟩ :=
      (parse_eq_ok_iff fragment h).mp hparse
    by_cases hnegative : t.number < 0
    · rw [operand, if_pos hnegative] at hoperand
      cases hoperand
    · rw [operand, if_neg hnegative] at hoperand
      have hid : 0 ≤ t.number := Int.not_lt.mp hnegative
      cases hsigil : t.sigil with
      | bare => exact absurd hsigil hprefixed
      | global =>
        obtain rfl : suffix = [] := suffix_eq_nil haddress hself (by simp [hsigil])
        rw [hsigil] at hspelling hoperand
        cases hoperand
        rw [htext, List.append_nil]
        exact .global hspelling hn hid
      | self =>
        rw [hsigil] at hspelling
        rw [if_pos hsigil] at hoperand
        obtain ⟨⟨container, context⟩, hplaces, heq⟩ := bind_eq_ok hoperand
        cases heq
        have hbehind : PlainAscii suffix := (htext ▸ h).right.right
        have hsuffix : AddressSpelled suffix container context :=
          (addressSpelled_iff hbehind fragment).mp ⟨t.address, haddress, hplaces⟩
        rw [htext]
        exact .self hspelling hn hid hsuffix

end

end VariableToken

namespace Operand
open VariableToken

/-- As a variable a bare number is the global one with that id. -/
theorem operand_of_bare {t : VariableToken} {fragment : List Char} {a : Operand}
    (hbare : t.sigil = .bare) : t.operand fragment = .ok a ↔
      0 ≤ t.number ∧ a = .global .variable t.number := by
  by_cases hnegative : t.number < 0
  · rw [VariableToken.operand, if_pos hnegative]
    constructor
    · intro h
      cases h
    · rintro ⟨hid, -⟩
      omega
  · rw [VariableToken.operand, if_neg hnegative]
    simp only [hbare]
    constructor
    · intro h
      cases h
      exact ⟨Int.not_lt.mp hnegative, rfl⟩
    · rintro ⟨-, rfl⟩
      rfl

section
variable {left right : List Char} {a b : Operand} (fragment : List Char)

/-- The tokens on both sides are read as what they mean there. -/
theorem sidesSpelled_iff (hleft : PlainAscii left) (hright : PlainAscii right) :
    SidesSpelled left right a b ↔ ∃ l r : VariableToken,
      VariableToken.parse left fragment = .ok l ∧ VariableToken.parse right fragment = .ok r ∧
      (if r.sigil = .bare then pure (.constant r.number) else r.operand fragment) = .ok b ∧
      (if l.sigil = .bare ∧ r.sigil ≠ .bare then pure (.constant l.number)
        else l.operand fragment) = .ok a := by
  constructor
  · intro h
    cases h with
    | prefixed ha hb =>
      obtain ⟨l, hl, hlv, hla⟩ := (variableSpelled_iff_parse fragment hleft).mp ha
      obtain ⟨r, hr, hrv, hrb⟩ := (variableSpelled_iff_parse fragment hright).mp hb
      exact ⟨l, r, hl, hr, by rw [if_neg hrv, hrb], by rw [if_neg fun h => hlv h.1, hla]⟩
    | constantRight ha hn =>
      obtain ⟨l, hl, hlv, hla⟩ := (variableSpelled_iff_parse fragment hleft).mp ha
      obtain ⟨r, hr, hrc, rfl⟩ := (integerSpelled_iff_parse fragment hright).mp hn
      exact ⟨l, r, hl, hr, by rw [if_pos hrc]; rfl, by rw [if_neg fun h => hlv h.1, hla]⟩
    | constantLeft hm hb =>
      obtain ⟨l, hl, hlc, rfl⟩ := (integerSpelled_iff_parse fragment hleft).mp hm
      obtain ⟨r, hr, hrv, hrb⟩ := (variableSpelled_iff_parse fragment hright).mp hb
      exact ⟨l, r, hl, hr, by rw [if_neg hrv, hrb], by rw [if_pos ⟨hlc, hrv⟩]; rfl⟩
    | bare hm hid hn =>
      obtain ⟨l, hl, hlc, rfl⟩ := (integerSpelled_iff_parse fragment hleft).mp hm
      obtain ⟨r, hr, hrc, rfl⟩ := (integerSpelled_iff_parse fragment hright).mp hn
      refine ⟨l, r, hl, hr, by rw [if_pos hrc]; rfl, ?_⟩
      rw [if_neg fun h => h.2 hrc]
      exact (operand_of_bare hlc).mpr ⟨hid, rfl⟩
  · rintro ⟨l, r, hl, hr, hb, ha⟩
    -- a bare token on the left is a variable just if the right one is bare too
    by_cases hrc : r.sigil = .bare
    · rw [if_pos hrc] at hb
      cases hb
      rw [if_neg fun h => h.2 hrc] at ha
      have hn := (integerSpelled_iff_parse fragment hright).mpr ⟨r, hr, hrc, rfl⟩
      by_cases hlc : l.sigil = .bare
      · obtain ⟨hid, rfl⟩ := (operand_of_bare hlc).mp ha
        exact .bare ((integerSpelled_iff_parse fragment hleft).mpr ⟨l, hl, hlc, rfl⟩) hid hn
      · exact .constantRight ((variableSpelled_iff_parse fragment hleft).mpr ⟨l, hl, hlc, ha⟩) hn
    · rw [if_neg hrc] at hb
      have hright' := (variableSpelled_iff_parse fragment hright).mpr ⟨r, hr, hrc, hb⟩
      by_cases hlc : l.sigil = .bare
      · rw [if_pos ⟨hlc, hrc⟩] at ha
        cases ha
        exact .constantLeft ((integerSpelled_iff_parse fragment hleft).mpr ⟨l, hl, hlc, rfl⟩) hright'
      · rw [if_neg fun h => hlc h.1] at ha
        exact .prefixed ((variableSpelled_iff_parse fragment hleft).mpr ⟨l, hl, hlc, ha⟩) hright'

end

/-- What a text means as a comparison: its operator is the one that is spelled, and its tokens mean
what they do on their sides of it. -/
def ComparisonSpelled (text : List Char) (r : Operand × Comparison × Operand) : Prop :=
  ∃ l : ComparisonLayout, l.text = text ∧ l.op = r.2.1 ∧ SidesSpelled l.left l.right r.1 r.2.2

section
variable {text : List Char} {r : Operand × Comparison × Operand}

/-- Both tokens are read in front of their operands, and the operand on the right is the first. -/
theorem parseComparison_of_split {left right : List Char} {op : Comparison}
    (hsplit : splitComparison? text = some (left, op, right)) :
    parseComparison text = do
      let l ← VariableToken.parse left text
      let r ← VariableToken.parse right text
      let b ← (if r.sigil = .bare then pure (.constant r.number) else r.operand text)
      let a ← (if l.sigil = .bare ∧ r.sigil ≠ .bare then pure (.constant l.number)
        else l.operand text)
      return (a, op, b) := by
  simp only [parseComparison, hsplit]
  -- both are the same up to where the rest of the block is repeated in the branches
  congr 1
  funext l
  congr 1
  funext r
  by_cases hrc : r.sigil = .bare
  · rw [if_pos hrc, if_pos hrc]
    split <;> rfl
  · rw [if_neg hrc, if_neg hrc]
    congr 1
    funext b
    split <;> rfl

theorem parseComparison_eq_ok_iff (h : PlainAscii text) :
    parseComparison text = .ok r ↔ ComparisonSpelled text r := by
  constructor
  · intro hparse
    cases hsplit : splitComparison? text with
    | none => simp [parseComparison, hsplit] at hparse
    | some parts =>
      obtain ⟨left, op, right⟩ := parts
      obtain ⟨hleft, hright, -⟩ := splitComparison_eq_some hsplit
      rw [parseComparison_of_split hsplit] at hparse
      obtain ⟨lt, hl, hparse⟩ := bind_eq_ok hparse
      obtain ⟨rt, hr, hparse⟩ := bind_eq_ok hparse
      obtain ⟨b, hb, hparse⟩ := bind_eq_ok hparse
      obtain ⟨a, ha, heq⟩ := bind_eq_ok hparse
      cases heq
      obtain ⟨l, rfl, rfl, rfl, rfl⟩ := ComparisonLayout.exists_of_splitComparison hsplit
      exact ⟨l, rfl, rfl, (sidesSpelled_iff l.text (h.of_isInfix hleft) (h.of_isInfix hright)).mpr
        ⟨lt, rt, hl, hr, hb, ha⟩⟩
  · rintro ⟨l, rfl, hop, hboth⟩
    have hsplit := l.splitComparison?_text
    obtain ⟨hleft, hright, -⟩ := splitComparison_eq_some hsplit
    obtain ⟨lt, rt, hl, hr, hb, ha⟩ :=
      (sidesSpelled_iff l.text (h.of_isInfix hleft) (h.of_isInfix hright)).mp hboth
    simp only [parseComparison_of_split hsplit, hl, hr, bind, Except.bind, hb, ha, hop]
    rfl

/-- A comparison is read exactly if the text is derived in the grammar, and as what it is derived
for. Its operator is the one that all the operator characters of the text spell. Every other text is
found malformed. -/
theorem parseComparison_iff_spelled (h : PlainAscii text) :
    (∀ r, parseComparison text = .ok r ↔ ComparisonSpelled text r) ∧
      (∀ a op b, parseComparison text = .ok (a, op, b) →
        (text.filter Comparison.isSign, op) ∈ Comparison.spellings) ∧
      ((¬ ∃ r, ComparisonSpelled text r) →
        ∃ cause, parseComparison text = .error (.malformed cause text)) := by
  refine ⟨fun r => parseComparison_eq_ok_iff h, ?_, fun hno => ?_⟩
  · intro a op b hparse
    obtain ⟨l, rfl, hop, -⟩ := (parseComparison_eq_ok_iff h).mp hparse
    obtain rfl : l.op = op := hop
    rw [l.filter_isSign_text]
    exact l.spelled
  · rcases Fault.ok_or_malformed h.legible (parseComparison_ends text) with ⟨r, hok⟩ | hmalformed
    · exact absurd ⟨r, (parseComparison_eq_ok_iff h).mp hok⟩ hno
    · exact hmalformed

theorem parseComparison_iff_spelled_sides :
    PlainAscii " -5<=SV3@Town:04 ".toList ∧
      ComparisonSpelled " -5<=SV3@Town:04 ".toList (.constant (-5), .le,
        .self ⟨.variable, .number 3, some (.name "Town".toList), some (.id 4),
          "SV3@Town:04".toList⟩) ∧
      ("<=".toList, .le) ∈ Comparison.spellings ∧ PlainAscii "-5 > 3".toList ∧
        ∃ cause, parseComparison "-5 > 3".toList = .error (.malformed cause "-5 > 3".toList) := by
  have hsides : PlainAscii " -5<=SV3@Town:04 ".toList :=
    .of_length_le (forall_mem_of_all (by decide)) (by decide)
  have hbare : PlainAscii "-5 > 3".toList :=
    .of_length_le (forall_mem_of_all (by decide)) (by decide)
  refine ⟨hsides, ((parseComparison_iff_spelled hsides).1 _).mp rfl,
    (parseComparison_iff_spelled hsides).2.1 _ _ _ rfl, hbare,
    (parseComparison_iff_spelled hbare).2.2 ?_⟩
  rintro ⟨r, hspelled⟩
  have hok := ((parseComparison_iff_spelled hbare).1 r).mpr hspelled
  cases hok

end

end Operand

end DialogueMarkup
