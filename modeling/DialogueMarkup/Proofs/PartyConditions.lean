import DialogueMarkup.Proofs.ComparisonGrammar

/-! Conditions on the party: their grammar, and what they say. The size of the party or of its core
is compared with an integer, perhaps behind an operator and a label; an attribute of a member is
named by its beginning. What this grammar derives is decided by the party alone, and everything else
is found malformed. -/
namespace DialogueMarkup
open Text Numeral

/-- The relation of two integers that an operator stands for. -/
def Comparison.Relates : Comparison → Int → Int → Prop
  | eq, a, b => a = b
  | ne, a, b => a ≠ b
  | gt, a, b => a > b
  | ge, a, b => a ≥ b
  | lt, a, b => a < b
  | le, a, b => a ≤ b

theorem Comparison.holds_iff {op : Comparison} {a b : Int} :
    op.holds a b = true ↔ op.Relates a b := by
  cases op <;> simp [holds, Relates]

/-- A label: a letter or an underscore, then letters, underscores and spaces. -/
structure IsLabel (s : List Char) : Prop where
  ne_nil : s ≠ []
  head : ∀ c ∈ s.head?, c.isAlpha = true ∨ c = '_'
  inside : ∀ c ∈ s, c.isAlpha = true ∨ c = '_' ∨ c = ' '

/-- A condition on the size of the party as it may be written: perhaps a label, perhaps an operator,
and an integer, with blanks around all three. -/
structure SizeLayout where
  start : List Char
  label : List Char
  behindLabel : List Char
  spelling : List Char
  op : Comparison
  integer : Figure
  blank_start : ∀ c ∈ start, isBlank c = true
  labelled : label = [] ∨ IsLabel label
  blank_behindLabel : ∀ c ∈ behindLabel, isBlank c = true
  spelled : spelling = [] ∧ op = .eq ∨ (spelling, op) ∈ Comparison.spellings

def SizeLayout.text (l : SizeLayout) : List Char :=
  l.start ++ (l.label ++ (l.behindLabel ++ (l.spelling ++ l.integer.text)))

/-- A condition on a member as it may be written: the beginning of an attribute's name in any case,
an operator and an integer, with blanks around all three. -/
structure MemberLayout where
  start : List Char
  word : List Char
  what : Attribute
  behindWord : List Char
  spelling : List Char
  op : Comparison
  integer : Figure
  blank_start : ∀ c ∈ start, isBlank c = true
  word_ne_nil : word ≠ []
  letters : ∀ c ∈ word, c.isAlpha = true
  names : word.map Char.toLower <+: what.name
  blank_behindWord : ∀ c ∈ behindWord, isBlank c = true
  spelled : (spelling, op) ∈ Comparison.spellings

namespace MemberLayout

def text (l : MemberLayout) : List Char :=
  l.start ++ (l.word ++ (l.behindWord ++ (l.spelling ++ l.integer.text)))

/-- What the condition says of a member; of the states, one has to be as it says. -/
def MetBy (l : MemberLayout) (m : Member) : Prop :=
  match l.what with
  | .actor => l.op.Relates m.actor l.integer.value
  | .role => l.op.Relates m.role l.integer.value
  | .state => ∃ s ∈ m.states, l.op.Relates s l.integer.value

theorem metBy_iff (l : MemberLayout) (m : Member) :
    l.MetBy m ↔ m.satisfies l.what l.op l.integer.value = true := by
  unfold MetBy Member.satisfies
  cases l.what with
  | actor => exact Comparison.holds_iff.symm
  | role => exact Comparison.holds_iff.symm
  | state => simp only [List.any_eq_true, Comparison.holds_iff]

end MemberLayout

/-- No run of digits is longer than a numeral may be. -/
def Numeral.Brief (s : List Char) : Prop :=
  ∀ run, run <:+: s → (∀ c ∈ run, isDecimal c = true) → run.length ≤ maxDigits

section
variable {c : Char}

theorem isLabelCharacter_of_isSign (h : Comparison.isSign c = true) :
    isLabelCharacter c = false := by
  simp only [Comparison.isSign, Bool.or_eq_true, beq_iff_eq] at h
  rcases h with ((rfl | rfl) | rfl) | rfl <;> decide

theorem isLabelCharacter_iff :
    isLabelCharacter c = true ↔ c.isAlpha = true ∨ c = '_' ∨ c = ' ' := by
  simp [isLabelCharacter, or_assoc]

theorem isBlank_of_isAlpha (h : c.isAlpha = true) : isBlank c = false := by
  have hrange := toNat_of_isAlpha h
  have hascii : c.toNat < 128 := by omega
  rw [isBlank, if_pos hascii]
  simp only [Bool.or_eq_false_iff, Bool.and_eq_false_iff, decide_eq_false_iff_not]
  omega

theorem isLabelCharacter_of_isDecimal (h : isDecimal c = true) : isLabelCharacter c = false := by
  rw [Bool.eq_false_iff, ne_eq, isLabelCharacter_iff]
  rintro (halpha | rfl | rfl)
  · have hrange := toNat_of_isAlpha halpha
    have hascii : c.toNat < 128 := by omega
    rw [isDecimal_of_ascii hascii] at h
    have hdigit := toNat_of_isDigit h
    omega
  · exact absurd h (by decide)
  · exact absurd h (by decide)

theorem isAlpha_of_isBlank (h : isBlank c = true) : c.isAlpha = false := by
  rw [Bool.eq_false_iff]
  intro halpha
  rw [isBlank_of_isAlpha halpha] at h
  cases h

theorem isAlpha_of_isSign (h : Comparison.isSign c = true) : c.isAlpha = false := by
  rw [Bool.eq_false_iff]
  intro halpha
  have hlabel := isLabelCharacter_of_isSign h
  rw [isLabelCharacter_iff.mpr (Or.inl halpha)] at hlabel
  cases hlabel

end

/-! An operator and an integer. -/

section
variable {s spelling : List Char} {op : Comparison} {x : Except NumeralFault Int}

namespace Numeral.Figure
variable (i : Figure)

/-- What an integer begins with behind the blanks. -/
theorem head?_unpadded : ∀ c ∈ (signOf i.negative ++ (i.digits ++ i.after)).head?,
    isBlank c = false ∧ Comparison.isSign c = false ∧ isLabelCharacter c = false := by
  have hdigit : ∀ c ∈ i.digits,
      isBlank c = false ∧ Comparison.isSign c = false ∧ isLabelCharacter c = false := by
    intro c hc
    have hdecimal := i.decimal c hc
    exact ⟨isBlank_of_isDecimal hdecimal, isSign_of_isDecimal hdecimal,
      isLabelCharacter_of_isDecimal hdecimal⟩
  apply head?_append
  · intro c hc
    cases hsign : i.negative with
    | false => simp [signOf, hsign] at hc
    | true =>
      obtain rfl : c = '-' := by simpa [signOf, hsign] using hc
      decide
  · exact head?_append_of_ne_nil i.ne_nil hdigit i.after

theorem isSign_head?_text : ∀ c ∈ i.text.head?, Comparison.isSign c = false := by
  apply head?_append
  · exact fun c hc => (apart_of_isBlank (i.blank_before c hc)).2
  · exact fun c hc => (i.head?_unpadded c hc).2.1

theorem digits_isInfix_text : i.digits <:+: i.text :=
  ⟨i.before ++ signOf i.negative, i.after, by simp [text]⟩

/-- The same integer without the blanks in front of it. -/
def unpadded : Figure := { i with before := [], blank_before := by simp }

end Numeral.Figure

theorem readBound?_append (h : (spelling, op) ∈ Comparison.spellings) (i : Figure) :
    readBound? (spelling ++ i.text) = some (op, Numeral.ofDigits i.negative i.values) := by
  have hsigns := (Comparison.isSign_of_mem_spellings h).2
  obtain ⟨htake, hdrop⟩ := span_append hsigns i.isSign_head?_text
  have hop : Comparison.ofSpelling? spelling = some op := Comparison.ofSpelling?_eq_some_iff.mpr h
  simp [readBound?, Comparison.read, htake, hdrop, hop, i.readPlain_text_eq]

theorem exists_of_readBound (h : readBound? s = some (op, x)) :
    ∃ spelling, ∃ i : Figure, (spelling, op) ∈ Comparison.spellings ∧ spelling ++ i.text = s := by
  simp only [readBound?, Option.bind_eq_bind, Option.bind_eq_some_iff] at h
  obtain ⟨⟨op', rest⟩, hop, y, hplain, heq⟩ := h
  cases heq
  obtain ⟨_, hspelling, heq⟩ := Option.map_eq_some_iff.mp hop
  cases heq
  obtain ⟨i, hi⟩ := exists_figure_of_readPlain hplain
  refine ⟨s.takeWhile Comparison.isSign, i, Comparison.ofSpelling?_eq_some_iff.mp hspelling, ?_⟩
  rw [hi, List.takeWhile_append_dropWhile]

end

/-! The size of the party. -/

namespace SizeLayout
variable (l : SizeLayout)

/-- A label and the blanks around it are passed over. -/
theorem trimLeft_behind_label {core : List Char}
    (hcore : ∀ c ∈ core.head?, isBlank c = false ∧ isLabelCharacter c = false)
    {gap : List Char} (hgap : ∀ c ∈ gap, isBlank c = true) (hne : core ≠ []) :
    trimLeft (((l.start ++ (l.label ++ (gap ++ core))).dropWhile isBlank).dropWhile
      isLabelCharacter) = core := by
  obtain ⟨d, rest, rfl⟩ := List.exists_cons_of_ne_nil hne
  obtain ⟨hblank, hlabel⟩ := hcore d rfl
  rcases l.labelled with hnil | hlabelled
  · have hstart : ∀ c ∈ l.start ++ gap, isBlank c = true :=
      List.forall_mem_append.mpr ⟨l.blank_start, hgap⟩
    rw [hnil, List.nil_append, ← List.append_assoc, List.dropWhile_append_of_pos hstart,
      List.dropWhile_cons_of_neg (by simp [hblank]),
      List.dropWhile_cons_of_neg (by simp [hlabel]), trimLeft,
      List.dropWhile_cons_of_neg (by simp [hblank])]
  · have hhead : ∀ c ∈ (l.label ++ (gap ++ d :: rest)).head?, isBlank c = false := by
      obtain ⟨c, behind, hlabel⟩ := List.exists_cons_of_ne_nil hlabelled.ne_nil
      intro c' hc'
      obtain rfl : c = c' := by simpa [hlabel] using hc'
      rcases hlabelled.head c (by simp [hlabel]) with halpha | rfl
      · exact isBlank_of_isAlpha halpha
      · decide
    have hinside : ∀ c ∈ l.label, isLabelCharacter c = true :=
      fun c hc => isLabelCharacter_iff.mpr (hlabelled.inside c hc)
    -- of the blanks behind the label, the spaces in front count as its own
    have hrest : ∀ c ∈ gap.dropWhile isLabelCharacter, isBlank c = true :=
      fun c hc => hgap c ((List.dropWhile_suffix _).subset hc)
    rw [(span_append l.blank_start hhead).2, List.dropWhile_append_of_pos hinside,
      dropWhile_append_cons gap hlabel, trimLeft, List.dropWhile_append_of_pos hrest,
      List.dropWhile_cons_of_neg (by simp [hblank])]

/-- What stands behind the label decides how a condition on the size is read. -/
theorem readPartySize?_of_cons {text rest : List Char} {d : Char}
    (h : trimLeft ((text.dropWhile isBlank).dropWhile isLabelCharacter) = d :: rest) :
    readPartySize? text = if Comparison.isSign d then readBound? (d :: rest)
      else (readPlain (d :: rest)).map fun n => (.eq, n) := by
  simp only [readPartySize?, h]

/-- The operator and the integer of a condition on the size are read where they stand. -/
theorem readPartySize?_text : readPartySize? l.text =
    some (l.op, Numeral.ofDigits l.integer.negative l.integer.values) := by
  rcases l.spelled with ⟨hnil, hop⟩ | hspelled
  · -- without an operator the blanks in front of the integer follow those behind the label
    have hgap : ∀ c ∈ l.behindLabel ++ l.integer.before, isBlank c = true :=
      List.forall_mem_append.mpr ⟨l.blank_behindLabel, l.integer.blank_before⟩
    have hhead := l.integer.head?_unpadded
    have htext : l.text = l.start ++ (l.label ++ ((l.behindLabel ++ l.integer.before) ++
        (signOf l.integer.negative ++ (l.integer.digits ++ l.integer.after)))) := by
      simp [text, hnil, Figure.text]
    have hdrop := l.trimLeft_behind_label
      (fun c hc => ⟨(hhead c hc).1, (hhead c hc).2.2⟩) hgap (by simp [l.integer.ne_nil])
    rw [← htext] at hdrop
    have hplain : readPlain (signOf l.integer.negative ++
        (l.integer.digits ++ l.integer.after)) =
          some (Numeral.ofDigits l.integer.negative l.integer.values) :=
      l.integer.unpadded.readPlain_text_eq
    obtain ⟨d, rest, hcore⟩ : ∃ d rest,
        signOf l.integer.negative ++ (l.integer.digits ++ l.integer.after) = d :: rest :=
      List.exists_cons_of_ne_nil (by simp [l.integer.ne_nil])
    rw [hcore] at hdrop hhead hplain
    have hsign : Comparison.isSign d = false := (hhead d rfl).2.1
    rw [readPartySize?_of_cons hdrop, hsign, hplain, hop]
    rfl
  · obtain ⟨hne, hsigns⟩ := Comparison.isSign_of_mem_spellings hspelled
    have hhead : ∀ c ∈ (l.spelling ++ l.integer.text).head?,
        isBlank c = false ∧ isLabelCharacter c = false :=
      head?_append_of_ne_nil hne (fun c hc => ⟨(apart_of_isSign (hsigns c hc)).1,
        isLabelCharacter_of_isSign (hsigns c hc)⟩) _
    have hdrop := l.trimLeft_behind_label hhead l.blank_behindLabel (by simp [hne])
    rw [← text] at hdrop
    have hbound := readBound?_append hspelled l.integer
    obtain ⟨d, behind, hspelling⟩ := List.exists_cons_of_ne_nil hne
    have hsign : Comparison.isSign d = true := hsigns d (by simp [hspelling])
    rw [hspelling, List.cons_append] at hdrop hbound
    rw [readPartySize?_of_cons hdrop, hsign, if_pos rfl, hbound]

/-- Whatever is read as a condition on the size is one. -/
theorem exists_of_readPartySize {text : List Char} {r : Comparison × Except NumeralFault Int}
    (h : readPartySize? text = some r) : ∃ l : SizeLayout, l.text = text := by
  let labelled := text.dropWhile isBlank
  let behind := labelled.dropWhile isLabelCharacter
  -- the first character behind the blanks is no space
  have hhead : ∀ c ∈ (labelled.takeWhile isLabelCharacter).head?, isBlank c = false := by
    intro c hc
    rw [List.head?_takeWhile] at hc
    have hfirst := List.head?_dropWhile_not isBlank text
    rw [(Option.filter_eq_some_iff.mp hc).1] at hfirst
    exact hfirst
  have hlabelled : labelled.takeWhile isLabelCharacter = [] ∨
      IsLabel (labelled.takeWhile isLabelCharacter) := by
    by_cases hnil : labelled.takeWhile isLabelCharacter = []
    · exact Or.inl hnil
    · refine Or.inr ⟨hnil, ?_, fun c hc => isLabelCharacter_iff.mp (of_mem_takeWhile _ _ c hc)⟩
      intro c hc
      rcases isLabelCharacter_iff.mp (of_mem_takeWhile _ _ c (List.mem_of_mem_head? hc))
        with halpha | rfl | rfl
      · exact Or.inl halpha
      · exact Or.inr rfl
      · exact absurd (hhead ' ' hc) (by decide)
  have htext : text.takeWhile isBlank ++ (labelled.takeWhile isLabelCharacter ++
      (behind.takeWhile isBlank ++ trimLeft behind)) = text := by
    simp only [behind, labelled, trimLeft, List.takeWhile_append_dropWhile]
  obtain ⟨d, rest, hcore⟩ : ∃ d rest, trimLeft behind = d :: rest := by
    cases hcore : trimLeft behind with
    | nil => simp [readPartySize?, behind, labelled, hcore] at h
    | cons d rest => exact ⟨d, rest, rfl⟩
  rw [readPartySize?_of_cons hcore] at h
  -- what is left is an operator and an integer, or an integer alone
  obtain ⟨spelling, op, i, hspelled, hi⟩ : ∃ spelling op, ∃ i : Figure,
      (spelling = [] ∧ op = .eq ∨ (spelling, op) ∈ Comparison.spellings) ∧
        spelling ++ i.text = d :: rest := by
    split at h
    · obtain ⟨op, x⟩ := r
      obtain ⟨spelling, i, hspelled, hi⟩ := exists_of_readBound h
      exact ⟨spelling, op, i, Or.inr hspelled, hi⟩
    · obtain ⟨x, hplain, -⟩ := Option.map_eq_some_iff.mp h
      obtain ⟨i, hi⟩ := exists_figure_of_readPlain hplain
      exact ⟨[], .eq, i, Or.inl ⟨rfl, rfl⟩, hi⟩
  let l : SizeLayout := {
    start := text.takeWhile isBlank
    label := labelled.takeWhile isLabelCharacter
    behindLabel := behind.takeWhile isBlank
    spelling := spelling
    op := op
    integer := i
    blank_start := of_mem_takeWhile isBlank text
    labelled := hlabelled
    blank_behindLabel := of_mem_takeWhile isBlank behind
    spelled := hspelled }
  refine ⟨l, ?_⟩
  rw [SizeLayout.text, hi, ← hcore]
  exact htext

end SizeLayout

/-! An attribute of a member. -/

/-- The attributes have names that begin with different letters. -/
theorem Attribute.eq_of_names {word : List Char} (hne : word ≠ []) {a b : Attribute}
    (ha : word <+: a.name) (hb : word <+: b.name) : a = b := by
  obtain ⟨c, rest, rfl⟩ := List.exists_cons_of_ne_nil hne
  have hhead {a : Attribute} (h : c :: rest <+: a.name) : a.name.head? = some c := by
    obtain ⟨t, ht⟩ := h
    rw [← ht]
    rfl
  have hnames : ∀ a b : Attribute, a.name.head? = b.name.head? → a = b := by
    rintro (_ | _ | _) (_ | _ | _) <;> decide
  exact hnames a b ((hhead ha).trans (hhead hb).symm)

/-- An attribute is found by every beginning of its name. -/
theorem Attribute.ofBeginning?_eq_some_iff {word : List Char} (hne : word ≠ []) {a : Attribute} :
    ofBeginning? word = some a ↔ word.map Char.toLower <+: a.name := by
  have hlower : word.map Char.toLower ≠ [] := by simpa using hne
  have hfind : ofBeginning? word = [actor, role, state].find? fun b =>
      (word.map Char.toLower).isPrefixOf b.name := by
    simp [ofBeginning?, hne]
  have hnames {b : Attribute} (hb : ofBeginning? word = some b) :
      word.map Char.toLower <+: b.name := by
    rw [hfind] at hb
    have hprefix := List.find?_some hb
    exact List.isPrefixOf_iff_prefix.mp hprefix
  constructor
  · exact hnames
  · intro h
    have hmem : a ∈ [actor, role, state] := by cases a <;> decide
    have hsome : (ofBeginning? word).isSome := by
      rw [hfind, List.find?_isSome]
      exact ⟨a, hmem, List.isPrefixOf_iff_prefix.mpr h⟩
    obtain ⟨b, hb⟩ := Option.isSome_iff_exists.mp hsome
    rw [hb, eq_of_names hlower (hnames hb) h]

namespace MemberLayout
variable (l : MemberLayout)

/-- The word, the operator and the integer of a condition on a member are read where they stand. -/
theorem readMember?_text : readMember? l.text =
    some (l.word, l.op, Numeral.ofDigits l.integer.negative l.integer.values) := by
  obtain ⟨hne, hsigns⟩ := Comparison.isSign_of_mem_spellings l.spelled
  -- the head of a part ends the blanks or the word in front of it
  have hwordHead : ∀ c ∈ (l.word ++ (l.behindWord ++ (l.spelling ++ l.integer.text))).head?,
      isBlank c = false :=
    head?_append_of_ne_nil l.word_ne_nil (fun c hc => isBlank_of_isAlpha (l.letters c hc)) _
  have hopHead : ∀ c ∈ (l.spelling ++ l.integer.text).head?,
      isBlank c = false ∧ c.isAlpha = false :=
    head?_append_of_ne_nil hne (fun c hc => ⟨(apart_of_isSign (hsigns c hc)).1,
      isAlpha_of_isSign (hsigns c hc)⟩) _
  have hstart : l.text.dropWhile isBlank = _ := (span_append l.blank_start hwordHead).2
  have hword := span_append l.letters (head?_append
    (fun c hc => isAlpha_of_isBlank (l.blank_behindWord c hc)) fun c hc => (hopHead c hc).2)
  have hbehindWord := span_append l.blank_behindWord fun c hc => (hopHead c hc).1
  have hbound := readBound?_append l.spelled l.integer
  simp only [readMember?, trimLeft, hstart, hword.1, hword.2, hbehindWord.2, hbound]
  simp [l.word_ne_nil]

/-- Whatever is read as a condition on a member is one, if its word begins an attribute's name. -/
theorem exists_of_readMember {text word : List Char} {r : Comparison × Except NumeralFault Int}
    {a : Attribute} (h : readMember? text = some (word, r))
    (ha : Attribute.ofBeginning? word = some a) : ∃ l : MemberLayout, l.text = text := by
  simp only [readMember?, Option.bind_eq_bind] at h
  split at h
  · cases h
  · rename_i hword
    obtain ⟨⟨op, x⟩, hbound, heq⟩ := Option.bind_eq_some_iff.mp h
    cases heq
    obtain ⟨spelling, i, hspelled, hi⟩ := exists_of_readBound hbound
    have hne : (trimLeft text).takeWhile Char.isAlpha ≠ [] := by simpa using hword
    let behind := (trimLeft text).dropWhile Char.isAlpha
    let l : MemberLayout := {
      start := text.takeWhile isBlank
      word := (trimLeft text).takeWhile Char.isAlpha
      what := a
      behindWord := behind.takeWhile isBlank
      spelling := spelling
      op := op
      integer := i
      blank_start := of_mem_takeWhile isBlank text
      word_ne_nil := hne
      letters := of_mem_takeWhile Char.isAlpha (trimLeft text)
      names := (Attribute.ofBeginning?_eq_some_iff hne).mp ha
      blank_behindWord := of_mem_takeWhile isBlank behind
      spelled := hspelled }
    refine ⟨l, ?_⟩
    rw [MemberLayout.text, hi]
    simp only [l, behind, trimLeft, List.takeWhile_append_dropWhile]

end MemberLayout

/-! What conditions on the party say. -/

/-- The opcode that asks for the size of the party or of its core. -/
def Opcode.ofSize (core : Bool) : Opcode := if core then opc else ops

namespace Whom

/-- The opcode that asks some members. -/
def opcode : Whom → Opcode
  | leader => .opl
  | anyMember => .opm

/-- The members that a condition asks. -/
def asked : Whom → List Member → List Member
  | leader, party => party.head?.toList
  | anyMember, party => party

end Whom

namespace Condition
variable {text name : List Char} {opcode : Opcode}

theorem holds_member (st : State) (current : Scope) (whom : Whom) (a : Attribute)
    (op : Comparison) (n : Int) : holds st current (.member whom a op n) =
      .ok ((whom.asked st.party).any (·.satisfies a op n)) := by
  cases whom with
  | anyMember => rfl
  | leader =>
    rw [holds, Whom.asked]
    cases st.party.head? with
    | none => rfl
    | some m => simp [pure, Except.pure]

/-- A text with an integer in it is not blank. -/
theorem isBlankText_of_digits {i : Figure} (h : i.digits <:+: text) : isBlankText text = false := by
  obtain ⟨d, behind, hdigits⟩ := List.exists_cons_of_ne_nil i.ne_nil
  have hmem : d ∈ i.digits := by simp [hdigits]
  rw [isBlankText, List.all_eq_false]
  exact ⟨d, h.subset hmem, by simp [isBlank_of_isDecimal (i.decimal d hmem)]⟩

/-- If every layout of a text decides it and a text without a layout is malformed, the verdict is
that of a layout. -/
theorem evaluate_eq_ok_iff {Layout : Type} {written : Layout → Prop} {verdict : Layout → Bool}
    {st : State} {current : Scope} {b : Bool} (hname : Opcode.ofName? name = some opcode)
    (hdecided : ∀ l, written l → evaluate st current name text = .ok (verdict l))
    (hno : (¬ ∃ l, written l) → ∃ cause, parse opcode text = .error (.malformed cause text)) :
    evaluate st current name text = .ok b ↔ ∃ l, written l ∧ (b = true ↔ verdict l = true) := by
  constructor
  · intro h
    by_cases hl : ∃ l, written l
    · obtain ⟨l, hl⟩ := hl
      rw [hdecided l hl] at h
      exact ⟨l, hl, by rw [Except.ok.inj h]⟩
    · obtain ⟨cause, hparse⟩ := hno hl
      rw [evaluate_of_name hname, hparse] at h
      cases h
  · rintro ⟨l, hl, hb⟩
    rw [hdecided l hl, Bool.eq_iff_iff.mpr hb]

theorem ofDigits_of_brief {i : Figure} (hbrief : Brief text) (h : i.digits <:+: text) :
    Numeral.ofDigits i.negative i.values = .ok i.value :=
  ofDigits_row i.negative (hbrief i.digits h i.decimal)

section
variable (core : Bool)

theorem parse_size (l : SizeLayout) (hbrief : Brief l.text) :
    parse (.ofSize core) l.text = .ok (.partySize l.op l.integer.value core) := by
  have hdigits : l.integer.digits <:+: l.text :=
    l.integer.digits_isInfix_text.trans ⟨l.start ++ (l.label ++ (l.behindLabel ++ l.spelling)), [],
      by simp [SizeLayout.text]⟩
  have hnumber := ofDigits_of_brief hbrief hdigits
  cases core
  all_goals
    simp only [parse, Opcode.ofSize, isBlankText_of_digits hdigits, l.readPartySize?_text, hnumber]
    rfl

theorem parse_eq_malformed_of_no_size (hno : ¬ ∃ l : SizeLayout, l.text = text) :
    ∃ cause, parse (.ofSize core) text = .error (.malformed cause text) := by
  have hnone : readPartySize? text = none := by
    cases hread : readPartySize? text with
    | none => rfl
    | some r => exact absurd (SizeLayout.exists_of_readPartySize hread) hno
  by_cases hblank : isBlankText text = true
  · exact ⟨.empty (.ofSize core), by simp only [parse, hblank]; rfl⟩
  · refine ⟨.partyShape, ?_⟩
    cases core
    all_goals
      simp only [parse, Opcode.ofSize, hblank, hnone]
      rfl

/-- A condition on the size compares the size of the party or of its core. -/
theorem evaluate_size (hname : Opcode.ofName? name = some (.ofSize core)) (hbrief : Brief text)
    (st : State) (current : Scope) (b : Bool) : evaluate st current name text = .ok b ↔
      ∃ l : SizeLayout, l.text = text ∧ (b = true ↔
        l.op.Relates (if core then st.coreSize else st.party.length) l.integer.value) := by
  have hdecided (l : SizeLayout) (hl : l.text = text) : evaluate st current name text =
      .ok (l.op.holds (if core then st.coreSize else st.party.length) l.integer.value) := by
    subst hl
    rw [evaluate_of_name hname, parse_size core l hbrief]
    rfl
  rw [evaluate_eq_ok_iff hname hdecided (parse_eq_malformed_of_no_size core)]
  simp only [Comparison.holds_iff]

end

section
variable (whom : Whom)

theorem parse_member (l : MemberLayout) (hbrief : Brief l.text) :
    parse whom.opcode l.text = .ok (.member whom l.what l.op l.integer.value) := by
  have hdigits : l.integer.digits <:+: l.text :=
    l.integer.digits_isInfix_text.trans ⟨l.start ++ (l.word ++ (l.behindWord ++ l.spelling)), [],
      by simp [MemberLayout.text]⟩
  have hnumber := ofDigits_of_brief hbrief hdigits
  have hattribute := (Attribute.ofBeginning?_eq_some_iff l.word_ne_nil).mpr l.names
  cases whom
  all_goals
    simp only [parse, Whom.opcode, isBlankText_of_digits hdigits, l.readMember?_text, hattribute,
      hnumber]
    rfl

theorem parse_eq_malformed_of_no_member (hno : ¬ ∃ l : MemberLayout, l.text = text) :
    ∃ cause, parse whom.opcode text = .error (.malformed cause text) := by
  by_cases hblank : isBlankText text = true
  · exact ⟨.empty whom.opcode, by simp only [parse, hblank]; rfl⟩
  cases hread : readMember? text with
  | none =>
    refine ⟨.memberShape, ?_⟩
    cases whom
    all_goals
      simp only [parse, Whom.opcode, hblank, hread]
      rfl
  | some r =>
    obtain ⟨word, op, x⟩ := r
    have hattribute : Attribute.ofBeginning? word = none := by
      cases ha : Attribute.ofBeginning? word with
      | none => rfl
      | some a => exact absurd (MemberLayout.exists_of_readMember hread ha) hno
    refine ⟨.memberAttribute, ?_⟩
    cases whom
    all_goals
      simp only [parse, Whom.opcode, hblank, hread, hattribute]
      rfl

/-- A condition on a member is put to the members that are asked. -/
theorem evaluate_member_text (hname : Opcode.ofName? name = some whom.opcode) (l : MemberLayout)
    (hbrief : Brief l.text) (st : State) (current : Scope) : evaluate st current name l.text =
      .ok ((whom.asked st.party).any (·.satisfies l.what l.op l.integer.value)) := by
  rw [evaluate_of_name hname, parse_member whom l hbrief]
  exact holds_member st current whom l.what l.op l.integer.value

/-- A condition on a member holds if it is met by one of the members that are asked. -/
theorem evaluate_member (hname : Opcode.ofName? name = some whom.opcode) (hbrief : Brief text)
    (st : State) (current : Scope) (b : Bool) : evaluate st current name text = .ok b ↔
      ∃ l : MemberLayout, l.text = text ∧ (b = true ↔ ∃ m ∈ whom.asked st.party, l.MetBy m) := by
  have hdecided (l : MemberLayout) (hl : l.text = text) : evaluate st current name text =
      .ok ((whom.asked st.party).any (·.satisfies l.what l.op l.integer.value)) := by
    subst hl
    exact evaluate_member_text whom hname l hbrief st current
  rw [evaluate_eq_ok_iff hname hdecided (parse_eq_malformed_of_no_member whom)]
  simp only [List.any_eq_true, MemberLayout.metBy_iff]

end

/-- What is asked of the leader depends on the first member alone. -/
theorem evaluate_leader_congr (hname : Opcode.ofName? name = some .opl) (hbrief : Brief text)
    {st st' : State} (h : st.party.head? = st'.party.head?) (current current' : Scope) :
    evaluate st current name text = evaluate st' current' name text := by
  by_cases hl : ∃ l : MemberLayout, l.text = text
  · obtain ⟨l, rfl⟩ := hl
    rw [evaluate_member_text .leader hname l hbrief, evaluate_member_text .leader hname l hbrief,
      Whom.asked, Whom.asked, h]
  · obtain ⟨cause, hparse⟩ := parse_eq_malformed_of_no_member .leader hl
    rw [evaluate_of_name hname, evaluate_of_name hname, show parse .opl text = _ from hparse]
    rfl

theorem evaluate_malformed (hname : Opcode.ofName? name = some opcode)
    (hparse : ∃ cause, parse opcode text = .error (.malformed cause text)) :
    ∃ cause, ∀ st current, evaluate st current name text = .error (.malformed cause text) := by
  obtain ⟨cause, hparse⟩ := hparse
  refine ⟨cause, fun st current => ?_⟩
  rw [evaluate_of_name hname, hparse]
  rfl

/-- A condition on the party is decided exactly if its text is derived in the grammar of its opcode.
One on the size compares the size of the party, or of its core; one on the leader says something of
the first member alone, and one on any member says of some member what the other would say if that
member led the party. Every other text is found malformed, whatever the state. -/
theorem evaluate_party (hbrief : Brief text) {size core leader any : List Char}
    (hsize : Opcode.ofName? size = some .ops) (hcore : Opcode.ofName? core = some .opc)
    (hleader : Opcode.ofName? leader = some .opl) (hany : Opcode.ofName? any = some .opm) :
    (∀ st current b, evaluate st current size text = .ok b ↔ ∃ l : SizeLayout, l.text = text ∧
      (b = true ↔ l.op.Relates st.party.length l.integer.value)) ∧
    (∀ st current b, evaluate st current core text = .ok b ↔ ∃ l : SizeLayout, l.text = text ∧
      (b = true ↔ l.op.Relates (st.coreSize?.getD st.party.length) l.integer.value)) ∧
    ((¬ ∃ l : SizeLayout, l.text = text) → ∀ name ∈ [size, core], ∃ cause, ∀ st current,
      evaluate st current name text = .error (.malformed cause text)) ∧
    (∀ st current b, evaluate st current leader text = .ok b ↔ ∃ l : MemberLayout, l.text = text ∧
      (b = true ↔ ∃ m, st.party.head? = some m ∧ l.MetBy m)) ∧
    (∀ st current b, evaluate st current any text = .ok b ↔ ∃ l : MemberLayout, l.text = text ∧
      (b = true ↔ ∃ m ∈ st.party, l.MetBy m)) ∧
    ((¬ ∃ l : MemberLayout, l.text = text) → ∀ name ∈ [leader, any], ∃ cause, ∀ st current,
      evaluate st current name text = .error (.malformed cause text)) ∧
    (∀ st current, evaluate st current any text = .ok true ↔ ∃ m ∈ st.party,
      evaluate { st with party := [m] } current leader text = .ok true) ∧
    (∀ st st' current current', st.party.head? = st'.party.head? →
      evaluate st current leader text = evaluate st' current' leader text) ∧
    (∀ st current, st.party = [] → evaluate st current leader text ≠ .ok true) := by
  have hfirst (st : State) (current : Scope) (b : Bool) : evaluate st current leader text = .ok b ↔
      ∃ l : MemberLayout, l.text = text ∧
        (b = true ↔ ∃ m, st.party.head? = some m ∧ l.MetBy m) := by
    rw [evaluate_member .leader hleader hbrief st current b]
    simp only [Whom.asked, Option.mem_toList]
  have hsome := evaluate_member .anyMember hany hbrief
  refine ⟨?_, ?_, ?_, hfirst, hsome, ?_, ?_, ?_, ?_⟩
  · exact evaluate_size false hsize hbrief
  · exact evaluate_size true hcore hbrief
  · intro hno
    simp only [List.forall_mem_cons, List.not_mem_nil, false_implies, implies_true, and_true]
    exact ⟨evaluate_malformed hsize (parse_eq_malformed_of_no_size false hno),
      evaluate_malformed hcore (parse_eq_malformed_of_no_size true hno)⟩
  · intro hno
    simp only [List.forall_mem_cons, List.not_mem_nil, false_implies, implies_true, and_true]
    exact ⟨evaluate_malformed hleader (parse_eq_malformed_of_no_member .leader hno),
      evaluate_malformed hany (parse_eq_malformed_of_no_member .anyMember hno)⟩
  -- a member that meets the condition leads the party in which it is alone
  · intro st current
    constructor
    · intro h
      obtain ⟨l, hl, hb⟩ := (hsome st current true).mp h
      obtain ⟨m, hm, hmet⟩ := hb.mp rfl
      exact ⟨m, hm, (hfirst _ current true).mpr ⟨l, hl, iff_of_true rfl ⟨m, rfl, hmet⟩⟩⟩
    · rintro ⟨m, hm, h⟩
      obtain ⟨l, hl, hb⟩ := (hfirst _ current true).mp h
      obtain ⟨m', hm', hmet⟩ := hb.mp rfl
      obtain rfl : m = m' := Option.some.inj hm'
      exact (hsome st current true).mpr ⟨l, hl, iff_of_true rfl ⟨m, hm, hmet⟩⟩
  · exact fun st st' current current' h => evaluate_leader_congr hleader hbrief h current current'
  · intro st current hnil h
    obtain ⟨l, -, hb⟩ := (hfirst st current true).mp h
    obtain ⟨m, hm, -⟩ := hb.mp rfl
    rw [hnil] at hm
    cases hm

theorem evaluate_party_states : Brief " Sta >= 5".toList ∧
    Opcode.ofName? "ops".toList = some .ops ∧ Opcode.ofName? "OPC".toList = some .opc ∧
    Opcode.ofName? "opl".toList = some .opl ∧ Opcode.ofName? "Opm".toList = some .opm ∧
    (∃ l : SizeLayout, l.text = " Sta >= 5".toList ∧ ¬ l.op.Relates 2 l.integer.value) ∧
    (∃ l : SizeLayout, l.text = " Sta >= 5".toList ∧ l.op.Relates 7 l.integer.value) ∧
    (∃ l : MemberLayout, l.text = " Sta >= 5".toList ∧ ¬ l.MetBy ⟨1, 2, []⟩) ∧
    (∃ m ∈ [⟨1, 2, []⟩, ⟨4, 2, [3, 5]⟩], evaluate { party := [m] } ⟨1, none⟩ "opl".toList
      " Sta >= 5".toList = .ok true) ∧
    Brief "sta >> 5".toList ∧ ∃ cause, ∀ st current,
      evaluate st current "Opm".toList "sta >> 5".toList =
        .error (.malformed cause "sta >> 5".toList) := by
  have hbrief {s : List Char} (hlength : s.length ≤ maxDigits) : Brief s :=
    fun _ hrun _ => Nat.le_trans hrun.length_le hlength
  have hgood : Brief " Sta >= 5".toList := hbrief (by decide)
  have hbad : Brief "sta >> 5".toList := hbrief (by decide)
  have hsize : Opcode.ofName? "ops".toList = some .ops := rfl
  have hcore : Opcode.ofName? "OPC".toList = some .opc := rfl
  have hleader : Opcode.ofName? "opl".toList = some .opl := rfl
  have hany : Opcode.ofName? "Opm".toList = some .opm := rfl
  let st : State := { party := [⟨1, 2, []⟩, ⟨4, 2, [3, 5]⟩], coreSize? := some 7 }
  obtain ⟨hops, hopc, -, hopl, -, -, hopm, -⟩ := evaluate_party hgood hsize hcore hleader hany
  obtain ⟨-, -, -, -, hopm', hno, -⟩ := evaluate_party hbad hsize hcore hleader hany
  refine ⟨hgood, hsize, hcore, hleader, hany, ?_, ?_, ?_, ?_, hbad, ?_⟩
  · obtain ⟨l, hl, h⟩ := (hops st st.current false).mp rfl
    exact ⟨l, hl, fun hrelates => Bool.false_ne_true (h.mpr hrelates)⟩
  · obtain ⟨l, hl, h⟩ := (hopc st st.current true).mp rfl
    exact ⟨l, hl, h.mp rfl⟩
  · obtain ⟨l, hl, h⟩ := (hopl st st.current false).mp rfl
    exact ⟨l, hl, fun hmet => Bool.false_ne_true (h.mpr ⟨_, rfl, hmet⟩)⟩
  · obtain ⟨m, hm, h⟩ := (hopm { party := st.party } ⟨1, none⟩).mp rfl
    exact ⟨m, hm, h⟩
  · refine hno ?_ "Opm".toList (by simp)
    rintro ⟨l, hl⟩
    have hok := (hopm' {} ⟨1, none⟩ false).mpr ⟨l, hl, by simp⟩
    cases hok

end Condition

end DialogueMarkup
