import DialogueMarkup.Grammar
import DialogueMarkup.Proofs.Escape
import DialogueMarkup.Proofs.Passes

/-! Well-formed texts as trees: plain characters, codes, case spans, and directives whose branches
are well-formed again. A tree is a sequence; every constructor but the first holds what follows. -/
namespace DialogueMarkup.Markup
open Text Grammar

/-- A character that is no markup at all. -/
structure Escape.Plain (e : Escape) (c : Char) : Prop where
  ne_escape : c ≠ e.char
  ne_open : c ≠ '{'
  ne_close : c ≠ '}'
  ne_guardOpen : c ≠ guardOpen
  ne_guardClose : c ≠ guardClose

instance (e : Escape) (c : Char) : Decidable (e.Plain c) :=
  decidable_of_iff (c ≠ e.char ∧ c ≠ '{' ∧ c ≠ '}' ∧ c ≠ guardOpen ∧ c ≠ guardClose)
    ⟨fun ⟨h1, h2, h3, h4, h5⟩ => ⟨h1, h2, h3, h4, h5⟩,
      fun h => ⟨h.ne_escape, h.ne_open, h.ne_close, h.ne_guardOpen, h.ne_guardClose⟩⟩

/-- What may stand in brackets. -/
structure Argument (e : Escape) where
  text : List Char
  plain : ∀ c ∈ text, e.Plain c ∧ c ≠ ']'

/-- The codes without an argument. -/
inductive Code
  | openingBrace
  | closingBrace
  | article
  | fold (f : Fold)
  deriving DecidableEq, Repr

/-- The codes that write a number. -/
inductive NumberCode
  | cardinal
  | ordinal
  | ordinalInWords
  deriving DecidableEq, Repr

def foldName : Fold → List Char
  | .up => ['U', 'P']
  | .low => ['L', 'O', 'W']

def Code.name : Code → List Char
  | openingBrace => ['B', 'O']
  | closingBrace => ['B', 'C']
  | article => ['A', 'N']
  | fold f => foldName f

def NumberCode.name : NumberCode → List Char
  | cardinal => "NUMWORD".toList
  | ordinal => "ORD".toList
  | ordinalInWords => "ORDWORD".toList

/-- An opcode, in some case, and the condition in brackets after it. -/
structure Test (e : Escape) where
  opcode : Opcode
  spelling : Spelling opcode.name
  condition : Argument e

inductive Tree (e : Escape) : Type
  | nil
  | char (c : Char) (plain : e.Plain c) (rest : Tree e)
  | code (kind : Code) (spelling : Spelling kind.name) (rest : Tree e)
  | number (kind : NumberCode) (spelling : Spelling kind.name) (argument : Argument e)
    (rest : Tree e)
  | span (fold : Fold) (spelling : Spelling (foldName fold)) (body rest : Tree e)
  | directive (test : Test e) (whenTrue rest : Tree e)
  | choice (test : Test e) (whenTrue whenFalse rest : Tree e)

variable {e : Escape}

namespace Test

def head (test : Test e) : Head :=
  ⟨e.char, test.spelling.letters, test.opcode, test.condition.text⟩

/-- A test as it is written. -/
def source (test : Test e) : List Char :=
  e.char :: (test.spelling.letters ++ argumentSource test.condition.text)

/-- The directive with the given branches. -/
def directive (test : Test e) (whenTrue : List Char) (whenFalse? : Option (List Char)) :
    Directive :=
  ⟨e.char, test.spelling.letters, test.opcode, test.condition.text, whenTrue, whenFalse?⟩

@[simp]
theorem head_directive (test : Test e) (whenTrue : List Char) (whenFalse? : Option (List Char)) :
    (test.directive whenTrue whenFalse?).head = test.head := rfl

@[simp]
theorem branch_directive (test : Test e) (whenTrue : List Char) (whenFalse? : Option (List Char))
    (holds : Bool) : (test.directive whenTrue whenFalse?).branch holds =
      if holds then whenTrue else whenFalse?.getD [] := rfl

end Test

namespace Tree

/-- The text of a tree, with the given characters around the bodies of case spans. -/
def print (opening closing : Char) : Tree e → List Char
  | nil => []
  | char c _ rest => c :: rest.print opening closing
  | code _ spelling rest => e.char :: (spelling.letters ++ rest.print opening closing)
  | number _ spelling argument rest =>
    e.char :: (spelling.letters ++ (argumentSource argument.text ++ rest.print opening closing))
  | span _ spelling body rest =>
    e.char :: (spelling.letters ++
      opening :: (body.print opening closing ++ closing :: rest.print opening closing))
  | directive test whenTrue rest =>
    test.source ++ (spanSource (whenTrue.print opening closing) ++ rest.print opening closing)
  | choice test whenTrue whenFalse rest =>
    test.source ++ (spanSource (whenTrue.print opening closing) ++
      (spanSource (whenFalse.print opening closing) ++ rest.print opening closing))

/-- A tree as it is written. -/
def source (t : Tree e) : List Char := t.print '{' '}'

/-- A tree as it is written under guard. -/
def guarded (t : Tree e) : List Char := t.print guardOpen guardClose

/-- How deep directives are nested; case spans do not count. -/
def height : Tree e → Nat
  | nil => 0
  | char _ _ rest | code _ _ rest | number _ _ _ rest => rest.height
  | span _ _ body rest => max body.height rest.height
  | directive _ whenTrue rest => max (whenTrue.height + 1) rest.height
  | choice _ whenTrue whenFalse rest =>
    max (max whenTrue.height whenFalse.height + 1) rest.height

/-- The heads of all directives, in the order of the text. -/
def heads : Tree e → List Head
  | nil => []
  | char _ _ rest | code _ _ rest | number _ _ _ rest => rest.heads
  | span _ _ body rest => body.heads ++ rest.heads
  | directive test whenTrue rest => test.head :: (whenTrue.heads ++ rest.heads)
  | choice test whenTrue whenFalse rest =>
    test.head :: (whenTrue.heads ++ (whenFalse.heads ++ rest.heads))

/-- The heads of the directives of one height, in the order of the text. -/
def headsAt (n : Nat) : Tree e → List Head
  | nil => []
  | char _ _ rest | code _ _ rest | number _ _ _ rest => rest.headsAt n
  | span _ _ body rest => body.headsAt n ++ rest.headsAt n
  | directive test whenTrue rest =>
    (if whenTrue.height + 1 = n then [test.head] else []) ++
      (whenTrue.headsAt n ++ rest.headsAt n)
  | choice test whenTrue whenFalse rest =>
    (if max whenTrue.height whenFalse.height + 1 = n then [test.head] else []) ++
      (whenTrue.headsAt n ++ (whenFalse.headsAt n ++ rest.headsAt n))

/-- The heads in the order in which they are decided: the innermost first, each height from left
to right. -/
def agenda (t : Tree e) : List Head := (List.range t.height).flatMap fun n => t.headsAt (n + 1)

/-- What is left of a code, written as given, once braces are decoded. -/
def decoded (text : List Char) : Code → List Char
  | .openingBrace => ['{']
  | .closingBrace => ['}']
  | .article | .fold _ => text

/-- The text that a tree means when it is known which conditions hold: of each directive the branch
taken, braces in the place of their escapes, all other codes as they are written. -/
def value (holds : Head → Bool) : Tree e → List Char
  | nil => []
  | char c _ rest => c :: rest.value holds
  | code kind spelling rest => decoded (e.char :: spelling.letters) kind ++ rest.value holds
  | number _ spelling argument rest =>
    e.char :: (spelling.letters ++ (argumentSource argument.text ++ rest.value holds))
  | span _ spelling body rest =>
    e.char :: (spelling.letters ++ '{' :: (body.value holds ++ '}' :: rest.value holds))
  | directive test whenTrue rest =>
    (if holds test.head then whenTrue.value holds else []) ++ rest.value holds
  | choice test whenTrue whenFalse rest =>
    (if holds test.head then whenTrue.value holds else whenFalse.value holds) ++ rest.value holds

/-- One tree after the other. -/
def append : Tree e → Tree e → Tree e
  | nil, u => u
  | char c plain rest, u => char c plain (rest.append u)
  | code kind spelling rest, u => code kind spelling (rest.append u)
  | number kind spelling argument rest, u => number kind spelling argument (rest.append u)
  | span fold spelling body rest, u => span fold spelling body (rest.append u)
  | directive test whenTrue rest, u => directive test whenTrue (rest.append u)
  | choice test whenTrue whenFalse rest, u => choice test whenTrue whenFalse (rest.append u)

/-- A tree after one pass: the innermost directives have given way to the branches taken. -/
def reduce (holds : Head → Bool) : Tree e → Tree e
  | nil => nil
  | char c plain rest => char c plain (rest.reduce holds)
  | code kind spelling rest => code kind spelling (rest.reduce holds)
  | number kind spelling argument rest => number kind spelling argument (rest.reduce holds)
  | span fold spelling body rest => span fold spelling (body.reduce holds) (rest.reduce holds)
  | directive test whenTrue rest =>
    if whenTrue.height = 0 then
      (if holds test.head then whenTrue else nil).append (rest.reduce holds)
    else directive test (whenTrue.reduce holds) (rest.reduce holds)
  | choice test whenTrue whenFalse rest =>
    if max whenTrue.height whenFalse.height = 0 then
      (if holds test.head then whenTrue else whenFalse).append (rest.reduce holds)
    else choice test (whenTrue.reduce holds) (whenFalse.reduce holds) (rest.reduce holds)

section
variable (holds : Head → Bool) (t u : Tree e) (n : Nat)

theorem print_append (opening closing : Char) :
    (t.append u).print opening closing = t.print opening closing ++ u.print opening closing := by
  induction t with
  | nil => rfl
  | char c plain rest ih => simp [append, print, ih]
  | code kind spelling rest ih => simp [append, print, ih]
  | number kind spelling argument rest ih => simp [append, print, ih]
  | span fold spelling body rest _ ih => simp [append, print, ih]
  | directive test whenTrue rest _ ih => simp [append, print, ih]
  | choice test whenTrue whenFalse rest _ _ ih => simp [append, print, ih]

theorem value_append : (t.append u).value holds = t.value holds ++ u.value holds := by
  induction t with
  | nil => rfl
  | char c plain rest ih => simp [append, value, ih]
  | code kind spelling rest ih => simp [append, value, ih]
  | number kind spelling argument rest ih => simp [append, value, ih]
  | span fold spelling body rest _ ih => simp [append, value, ih]
  | directive test whenTrue rest _ ih => simp [append, value, ih]
  | choice test whenTrue whenFalse rest _ _ ih => simp [append, value, ih]

theorem height_append : (t.append u).height = max t.height u.height := by
  induction t with
  | nil => simp [append, height]
  | char c plain rest ih => simp [append, height, ih]
  | code kind spelling rest ih => simp [append, height, ih]
  | number kind spelling argument rest ih => simp [append, height, ih]
  | span fold spelling body rest _ ih => simp [append, height, ih, Nat.max_assoc]
  | directive test whenTrue rest _ ih => simp [append, height, ih, Nat.max_assoc]
  | choice test whenTrue whenFalse rest _ _ ih => simp [append, height, ih, Nat.max_assoc]

theorem headsAt_append : (t.append u).headsAt n = t.headsAt n ++ u.headsAt n := by
  induction t with
  | nil => rfl
  | char c plain rest ih => simp [append, headsAt, ih]
  | code kind spelling rest ih => simp [append, headsAt, ih]
  | number kind spelling argument rest ih => simp [append, headsAt, ih]
  | span fold spelling body rest _ ih => simp [append, headsAt, ih]
  | directive test whenTrue rest _ ih => simp [append, headsAt, ih]
  | choice test whenTrue whenFalse rest _ _ ih => simp [append, headsAt, ih]

/-- No directive is higher than the tree. -/
theorem headsAt_of_height_lt (h : t.height < n) : t.headsAt n = [] := by
  induction t with
  | nil => rfl
  | char c plain rest ih => exact ih h
  | code kind spelling rest ih => exact ih h
  | number kind spelling argument rest ih => exact ih h
  | span fold spelling body rest ihb ih =>
    simp only [height, Nat.max_lt] at h
    simp [headsAt, ihb h.1, ih h.2]
  | directive test whenTrue rest iht ih =>
    simp only [height, Nat.max_lt] at h
    have hne : ¬ whenTrue.height + 1 = n := by omega
    simp [headsAt, hne, iht (by omega), ih h.2]
  | choice test whenTrue whenFalse rest iht ihf ih =>
    simp only [height, Nat.max_lt] at h
    have hne : ¬ max whenTrue.height whenFalse.height + 1 = n := by omega
    simp [headsAt, hne, iht (by omega), ihf (by omega), ih h.2]

/-- A tree with directives has some that hold none. -/
theorem headsAt_one_eq_nil_iff : t.headsAt 1 = [] ↔ t.height = 0 := by
  induction t with
  | nil => simp [headsAt, height]
  | char c plain rest ih => exact ih
  | code kind spelling rest ih => exact ih
  | number kind spelling argument rest ih => exact ih
  | span fold spelling body rest ihb ih => simp [headsAt, height, ihb, ih]
  | directive test whenTrue rest iht ih =>
    simp only [headsAt, height, List.append_eq_nil_iff, iht, ih]
    split
    · simp
    · omega
  | choice test whenTrue whenFalse rest iht ihf ih =>
    simp only [headsAt, height, List.append_eq_nil_iff, iht, ihf, ih]
    split
    · simp
    · omega

/-- Every directive has a height, and no other than one from one to the height of the tree. -/
theorem mem_heads_iff (h : Head) : h ∈ t.heads ↔ ∃ n, h ∈ t.headsAt (n + 1) := by
  induction t with
  | nil => simp [heads, headsAt]
  | char c plain rest ih => exact ih
  | code kind spelling rest ih => exact ih
  | number kind spelling argument rest ih => exact ih
  | span fold spelling body rest ihb ih =>
    simp [heads, headsAt, ihb, ih, exists_or]
  | directive test whenTrue rest iht ih =>
    simp [heads, headsAt, iht, ih, exists_or]
  | choice test whenTrue whenFalse rest iht ihf ih =>
    simp [heads, headsAt, iht, ihf, ih, exists_or]

theorem mem_agenda_iff (h : Head) : h ∈ t.agenda ↔ h ∈ t.heads := by
  rw [mem_heads_iff]
  simp only [agenda, List.mem_flatMap, List.mem_range]
  constructor
  · rintro ⟨n, -, hn⟩
    exact ⟨n, hn⟩
  · rintro ⟨n, hn⟩
    rcases Nat.lt_or_ge n t.height with hlt | hge
    · exact ⟨n, hlt, hn⟩
    · rw [t.headsAt_of_height_lt (n + 1) (by omega)] at hn
      cases hn

theorem height_reduce : (t.reduce holds).height = t.height - 1 := by
  induction t with
  | nil => rfl
  | char c plain rest ih => exact ih
  | code kind spelling rest ih => exact ih
  | number kind spelling argument rest ih => exact ih
  | span fold spelling body rest ihb ih =>
    simp only [reduce, height, ihb, ih]
    omega
  | directive test whenTrue rest iht ih =>
    simp only [reduce]
    split
    · -- what takes the place of the directive holds none
      rename_i hflat
      have htaken : (if holds test.head then whenTrue else nil).height = 0 := by
        split
        · exact hflat
        · rfl
      rw [height_append, htaken, ih]
      simp only [height, hflat]
      omega
    · simp only [height, iht, ih]
      omega
  | choice test whenTrue whenFalse rest iht ihf ih =>
    simp only [reduce]
    split
    · rename_i hflat
      have htaken : (if holds test.head then whenTrue else whenFalse).height = 0 := by
        split <;> omega
      rw [height_append, htaken, ih]
      simp only [height, hflat]
      omega
    · simp only [height, iht, ihf, ih]
      omega

/-- A pass takes the directives of height one away and lowers all others by one. -/
theorem headsAt_reduce : (t.reduce holds).headsAt (n + 1) = t.headsAt (n + 2) := by
  induction t with
  | nil => rfl
  | char c plain rest ih => exact ih
  | code kind spelling rest ih => exact ih
  | number kind spelling argument rest ih => exact ih
  | span fold spelling body rest ihb ih => simp only [reduce, headsAt, ihb, ih]
  | directive test whenTrue rest iht ih =>
    simp only [reduce]
    split
    · rename_i hflat
      have htaken : (if holds test.head then whenTrue else nil).headsAt (n + 1) = [] := by
        split
        · exact whenTrue.headsAt_of_height_lt (n + 1) (by omega)
        · rfl
      have hnone : whenTrue.headsAt (n + 2) = [] :=
        whenTrue.headsAt_of_height_lt (n + 2) (by omega)
      simp [headsAt_append, headsAt, htaken, hnone, hflat, ih]
    · have hheight : (whenTrue.reduce holds).height + 1 = whenTrue.height := by
        rw [height_reduce]
        omega
      simp only [headsAt, iht, ih, hheight, Nat.add_right_cancel_iff]
  | choice test whenTrue whenFalse rest iht ihf ih =>
    simp only [reduce]
    split
    · rename_i hflat
      have htaken : (if holds test.head then whenTrue else whenFalse).headsAt (n + 1) = [] := by
        split <;> exact headsAt_of_height_lt _ (n + 1) (by omega)
      have hnoneTrue : whenTrue.headsAt (n + 2) = [] :=
        whenTrue.headsAt_of_height_lt (n + 2) (by omega)
      have hnoneFalse : whenFalse.headsAt (n + 2) = [] :=
        whenFalse.headsAt_of_height_lt (n + 2) (by omega)
      simp [headsAt_append, headsAt, htaken, hnoneTrue, hnoneFalse, hflat, ih]
    · have hheight : max (whenTrue.reduce holds).height (whenFalse.reduce holds).height + 1 =
          max whenTrue.height whenFalse.height := by
        rw [height_reduce, height_reduce]
        omega
      simp only [headsAt, iht, ihf, ih, hheight, Nat.add_right_cancel_iff]

/-- A pass keeps the meaning of a tree. -/
theorem value_reduce : (t.reduce holds).value holds = t.value holds := by
  induction t with
  | nil => rfl
  | char c plain rest ih => simp only [reduce, value, ih]
  | code kind spelling rest ih => simp only [reduce, value, ih]
  | number kind spelling argument rest ih => simp only [reduce, value, ih]
  | span fold spelling body rest ihb ih => simp only [reduce, value, ihb, ih]
  | directive test whenTrue rest iht ih =>
    simp only [reduce]
    split
    · rw [value_append, ih]
      cases hh : holds test.head <;> simp [value, hh]
    · simp only [value, iht, ih]
  | choice test whenTrue whenFalse rest iht ihf ih =>
    simp only [reduce]
    split
    · rw [value_append, ih]
      cases hh : holds test.head <;> simp [value, hh]
    · simp only [value, iht, ihf, ih]

/-- A pass decides the heads of height one and leaves the others in their order. -/
theorem agenda_eq (h : t.height ≠ 0) : t.agenda = t.headsAt 1 ++ (t.reduce holds).agenda := by
  obtain ⟨m, hm⟩ := Nat.exists_eq_succ_of_ne_zero h
  have hlower : (t.reduce holds).height = m := by
    rw [height_reduce, hm]
    rfl
  simp only [agenda, hm, hlower, List.range_succ_eq_map, List.flatMap_cons, List.flatMap_map,
    headsAt_reduce]

theorem mem_heads_of_mem_reduce {h : Head} (hmem : h ∈ (t.reduce holds).heads) : h ∈ t.heads := by
  obtain ⟨n, hn⟩ := ((t.reduce holds).mem_heads_iff h).mp hmem
  rw [headsAt_reduce] at hn
  exact (t.mem_heads_iff h).mpr ⟨n + 1, hn⟩

end

/-- A pass depends on the conditions of the tree and on no others. -/
theorem reduce_congr {holds holds' : Head → Bool} {t : Tree e}
    (h : ∀ head ∈ t.heads, holds head = holds' head) : t.reduce holds = t.reduce holds' := by
  induction t with
  | nil => rfl
  | char c plain rest ih => rw [reduce, reduce, ih h]
  | code kind spelling rest ih => rw [reduce, reduce, ih h]
  | number kind spelling argument rest ih => rw [reduce, reduce, ih h]
  | span fold spelling body rest ihb ih =>
    obtain ⟨hbody, hrest⟩ := List.forall_mem_append.mp h
    rw [reduce, reduce, ihb hbody, ih hrest]
  | directive test whenTrue rest iht ih =>
    obtain ⟨htest, hbranches⟩ := List.forall_mem_cons.mp h
    obtain ⟨htrue, hrest⟩ := List.forall_mem_append.mp hbranches
    rw [reduce, reduce, htest, iht htrue, ih hrest]
  | choice test whenTrue whenFalse rest iht ihf ih =>
    obtain ⟨htest, hbranches⟩ := List.forall_mem_cons.mp h
    obtain ⟨htrue, hothers⟩ := List.forall_mem_append.mp hbranches
    obtain ⟨hfalse, hrest⟩ := List.forall_mem_append.mp hothers
    rw [reduce, reduce, htest, iht htrue, ihf hfalse, ih hrest]

end Tree

end DialogueMarkup.Markup
