import Mathlib.Data.List.Forall2
import DialogueMarkup.Proofs.FixedPoint
import DialogueMarkup.Proofs.PlainAscii
import DialogueMarkup.Proofs.TreeText

/-! Where the directives of a text stand. The grammar of a directive is stated at every place of a
text, without a reader; it holds there of one directive at most. The directives that are found are
the leftmost ones of which it holds: each begins behind the one before it, and wherever else the
grammar holds one of them is in the way. -/
namespace DialogueMarkup
open Text Markup

/-! Names of opcodes. -/

namespace Opcode

/-- The capitals in the names of the opcodes. -/
def capitals : List Char := all.flatMap name

/-- A character is written for a capital: that one, its small letter, or a long `s` for an `S`. -/
def WrittenFor (w c : Char) : Prop := c = w ∨ c = w.toLower ∨ w = 'S' ∧ c = 'ſ'

theorem mem_capitals {op : Opcode} {w : Char} (h : w ∈ op.name) : w ∈ capitals :=
  List.mem_flatMap.mpr ⟨op, by cases op <;> decide, h⟩

/-- No capital has a long `s` for its small form. -/
theorem eq_of_lowerSimple_eq_long {c : Char} (h : lowerSimple c = 'ſ') : c = 'ſ' := by
  have hruns : ∀ r ∈ smallRuns, 'ſ'.toNat < r.target ∨ r.target + (r.last - r.first) < 'ſ'.toNat :=
    forall_mem_of_all (by decide)
  have hascii : ∀ n ∈ List.range 128, (Char.ofNat n).toLower ≠ 'ſ' := forall_mem_of_all (by decide)
  rcases cases_of_lowerSimple_eq h (by decide) hruns with hsame | ⟨hlt, hlower⟩ | hdot
  · exact hsame
  · exact absurd hlower (of_ascii (p := fun c => c.toLower ≠ 'ſ') hlt hascii)
  · exact absurd hdot (by decide)

section
variable {w c : Char} (hw : w ∈ capitals)
include hw

theorem caseKey_of_mem_capitals : caseKey w = w.toLower ∧ caseKey w.toLower = w.toLower := by
  have hkeys : ∀ w ∈ capitals, caseKey w = w.toLower ∧ caseKey w.toLower = w.toLower := by decide
  exact hkeys w hw

/-- The small letters of names are those of two characters of ASCII. -/
theorem eq_or_eq_of_lowerSimple_eq (h : lowerSimple c = w.toLower) : c = w ∨ c = w.toLower := by
  have hsmall : ∀ w ∈ capitals, w.toLower ≠ '\x00' ∧ w.toLower ≠ 'i' := by decide
  have hruns : ∀ r ∈ smallRuns, ∀ w ∈ capitals, w.toLower.toNat < r.target ∨
      r.target + (r.last - r.first) < w.toLower.toNat := forall_mem_of_all (by decide)
  have hascii : ∀ n ∈ List.range 128, ∀ w ∈ capitals,
      (Char.ofNat n).toLower = w.toLower → Char.ofNat n = w ∨ Char.ofNat n = w.toLower :=
    forall_mem_of_all (by decide)
  obtain ⟨hzero, hdot⟩ := hsmall w hw
  rcases cases_of_lowerSimple_eq h hzero (fun r hr => hruns r hr w hw) with
    hsame | ⟨hlt, hlower⟩ | hi
  · exact Or.inr hsame
  · exact of_ascii (p := fun c => ∀ w ∈ capitals, c.toLower = w.toLower → c = w ∨ c = w.toLower)
      hlt hascii w hw hlower
  · exact absurd hi hdot

/-- A character is the same letter as a capital of a name, but for its case, if it is written for
it. -/
theorem writtenFor_iff : WrittenFor w c ↔ caseKey c = caseKey w := by
  obtain ⟨hkey, hsmall⟩ := caseKey_of_mem_capitals hw
  constructor
  · rintro (rfl | rfl | ⟨rfl, rfl⟩)
    · rfl
    · rw [hsmall, hkey]
    · decide
  intro h
  rw [hkey] at h
  dsimp only [caseKey] at h
  split at h
  · -- of the small letters that share a capital only the long s shares one in a name
    rename_i first hlookup
    obtain ⟨xs, ys, hsplit, -⟩ := List.lookup_eq_some_iff.mp hlookup
    have hmem : ((lowerSimple c).toNat, first) ∈ sharedCapitals := by simp [hsplit]
    have hshared : ∀ p ∈ sharedCapitals, ∀ w ∈ capitals,
        Char.ofNat p.2 = w.toLower → w = 'S' ∧ p.1 = 'ſ'.toNat := forall_mem_of_all (by decide)
    obtain ⟨rfl, hlong⟩ := hshared _ hmem w hw h
    exact Or.inr (Or.inr ⟨rfl, eq_of_lowerSimple_eq_long (Char.toNat_inj.mp hlong)⟩)
  · rcases eq_or_eq_of_lowerSimple_eq hw h with hcapital | hlower
    · exact Or.inl hcapital
    · exact Or.inr (Or.inl hlower)

end

theorem forall₂_writtenFor_iff {op : Opcode} {letters : List Char} :
    List.Forall₂ WrittenFor op.name letters ↔ letters.map caseKey = op.name.map caseKey := by
  have hcapitals : ∀ w ∈ op.name, w ∈ capitals := fun w hw => mem_capitals hw
  generalize op.name = word at hcapitals
  constructor
  · intro h
    induction h with
    | nil => rfl
    | cons hletter _ ih =>
      obtain ⟨hw, hrest⟩ := List.forall_mem_cons.mp hcapitals
      rw [List.map_cons, List.map_cons, (writtenFor_iff hw).mp hletter, ih hrest]
  · intro h
    induction word generalizing letters with
    | nil =>
      obtain rfl := List.map_eq_nil_iff.mp h
      exact .nil
    | cons w word ih =>
      obtain ⟨c, letters, rfl, hkey, hkeys⟩ := List.map_eq_cons_iff.mp h
      obtain ⟨hw, hrest⟩ := List.forall_mem_cons.mp hcapitals
      exact .cons ((writtenFor_iff hw).mpr hkey) (ih hrest hkeys)

end Opcode

namespace Markup

/-- The grammar of directives holds at a place of a text, of a directive that is written there: the
escape character, the name of an opcode, a condition that ends at the first bracket, a branch
without braces, and then a second one or a character that opens none. -/
structure Occurs (escape : Char) (s : List Char) (i : Nat) (d : Directive) : Prop where
  escape_eq : d.escape = escape
  name : List.Forall₂ Opcode.WrittenFor d.opcode.name d.spelling
  condition : ']' ∉ d.condition
  whenTrue : ∀ c ∈ d.whenTrue, c ≠ '{' ∧ c ≠ '}'
  whenFalse : ∀ branch ∈ d.whenFalse?, ∀ c ∈ branch, c ≠ '{' ∧ c ≠ '}'
  placed : d.source <+: s.drop i
  ends : d.whenFalse? = none → s[i + d.source.length]? ≠ some '{'

/-! Readers and the grammar. -/

theorem forall_isNoBrace_iff {branch : List Char} :
    (∀ c ∈ branch, isNoBrace c = true) ↔ ∀ c ∈ branch, c ≠ '{' ∧ c ≠ '}' :=
  forall₂_congr fun _ _ => isNoBrace_iff

section
variable {e : Escape} {s rest : List Char} {i : Nat} {d : Directive}

theorem readHead_opening (hescape : d.escape = e.char)
    (hname : List.Forall₂ Opcode.WrittenFor d.opcode.name d.spelling)
    (hcondition : ']' ∉ d.condition) (s : List Char) :
    readHead e.char (d.opening ++ s) = some (d.head, s) := by
  have hopcode := Opcode.read_spelling d.opcode ⟨d.spelling, Opcode.forall₂_writtenFor_iff.mp hname⟩
    (argumentSource d.condition ++ s)
  simp [readHead, Directive.opening, Directive.head, hescape, e.readEscape_self, hopcode,
    readArgument_argumentSource hcondition]

/-- What the grammar holds of is read. -/
theorem Occurs.reads (h : Occurs e.char s i d) :
    readDirective e.char (s.drop i) = some (d, s.drop (i + d.source.length)) := by
  obtain ⟨rest, hrest⟩ := h.placed
  have hbehind : s.drop (i + d.source.length) = rest := by
    rw [← List.drop_drop, ← hrest, List.drop_left]
  have hhead := readHead_opening h.escape_eq h.name h.condition
  have htrue := readSpan_spanSource (forall_isNoBrace_iff.mpr h.whenTrue)
  rw [hbehind, ← hrest]
  rcases d.source_eq with ⟨hnone, hsource⟩ | ⟨branch, hsome, hsource⟩
  · -- behind the one branch there is no brace to go on with
    have hends : rest.head? ≠ some '\x7b' := by
      have hnext := h.ends hnone
      rwa [← List.head?_drop, hbehind] at hnext
    rw [hsource, List.append_assoc]
    simp only [readDirective, hhead, htrue, Option.bind_eq_bind, Option.bind_some]
    split
    · exact absurd rfl hends
    · rw [← hnone]
      rfl
  · have hfalse := readSpan_spanSource
      (forall_isNoBrace_iff.mpr (h.whenFalse branch (Option.mem_def.mpr hsome))) rest
    rw [hsource, List.append_assoc, List.append_assoc]
    simp only [readDirective, hhead, htrue, Option.bind_eq_bind, Option.bind_some]
    rw [spanSource_append] at hfalse ⊢
    simp only [hfalse, Option.bind_some]
    rw [← hsome]
    rfl

/-- The grammar holds of what is read. -/
theorem occurs_of_readDirective (h : readDirective e.char (s.drop i) = some (d, rest)) :
    Occurs e.char s i d := by
  have hread := readWith_of_readDirective h
  have hsource := readDirective_eq_some h
  obtain ⟨spelling, hspelling⟩ := hread.spelled
  obtain ⟨t, u, hhead, -, hbranch⟩ := readDirective_cases h
  obtain ⟨v, w, -, -, hcondition⟩ := readHead_cases hhead
  refine ⟨e.alone _ hread.same, ?_, not_mem_of_readArgument hcondition,
    forall_isNoBrace_iff.mp hread.whenTrue, ?_, ⟨rest, hsource.symm⟩, ?_⟩
  · rw [Opcode.forall₂_writtenFor_iff, hspelling]
    exact spelling.spells
  · intro branch hsome
    exact forall_isNoBrace_iff.mp (hread.whenFalse branch (Option.mem_def.mp hsome))
  · intro hnone
    rcases hbranch with ⟨-, -, hends⟩ | ⟨branch, hsome, -⟩
    · have hbehind : s.drop (i + d.source.length) = rest := by
        rw [← List.drop_drop, hsource, List.drop_left]
      rwa [← List.head?_drop, hbehind]
    · rw [hnone] at hsome
      cases hsome

/-- The grammar holds at a place of one directive at most. -/
theorem Occurs.unique {d' : Directive} (h : Occurs e.char s i d) (h' : Occurs e.char s i d') :
    d = d' := by
  have hsame := h.reads.symm.trans h'.reads
  exact congrArg Prod.fst (Option.some.inj hsame)

end

/-! Places of the directives that are found. -/

section
variable {s : List Char} {i : Nat} {d : Directive}

/-- What stands in front of a text moves the places where the grammar holds. -/
theorem occurs_append {escape : Char} (xs : List Char) :
    Occurs escape (xs ++ s) (xs.length + i) d ↔ Occurs escape s i d := by
  have hdrop : (xs ++ s).drop (xs.length + i) = s.drop i := by
    rw [← List.drop_drop, List.drop_left]
  have hbehind : (xs ++ s)[xs.length + i + d.source.length]? = s[i + d.source.length]? := by
    rw [Nat.add_assoc, List.getElem?_append_right (Nat.le_add_right _ _), Nat.add_sub_cancel_left]
  constructor
  · intro h
    exact ⟨h.escape_eq, h.name, h.condition, h.whenTrue, h.whenFalse, hdrop ▸ h.placed,
      hbehind ▸ h.ends⟩
  · intro h
    exact ⟨h.escape_eq, h.name, h.condition, h.whenTrue, h.whenFalse, hdrop ▸ h.placed,
      hbehind ▸ h.ends⟩

theorem Located.start_lt_stop (l : Located) : l.start < l.stop := by
  simp [stop, Directive.source]

end

section
variable (e : Escape) {s : List Char} {start : Nat}

/-- The directives that are found from a place on stand where the grammar holds. -/
theorem occurs_of_mem_locate {l : Located}
    (h : l ∈ locate start (pieces (readDirective e.char) s)) :
    ∃ i, l.start = start + i ∧ Occurs e.char s i l.directive := by
  have hconsumes := readDirective_consumes e.char
  induction s using hconsumes.induction generalizing start with
  | nil => cases h
  | char c s hr ih =>
    rw [pieces_cons_of_none hr, locate] at h
    obtain ⟨i, hstart, hoccurs⟩ := ih h
    exact ⟨[c].length + i, by simp [hstart, Nat.add_assoc], (occurs_append [c]).mpr hoccurs⟩
  | mark s d rest hr ih =>
    rw [pieces_of_some hconsumes hr, locate] at h
    rcases List.mem_cons.mp h with rfl | hmem
    · exact ⟨0, rfl, occurs_of_readDirective hr⟩
    · obtain ⟨i, hstart, hoccurs⟩ := ih hmem
      rw [readDirective_eq_some hr]
      exact ⟨d.source.length + i, by simp [hstart, Nat.add_assoc], (occurs_append _).mpr hoccurs⟩

/-- Each directive that is found begins behind the one before it. -/
theorem pairwise_locate (s : List Char) (start : Nat) :
    (locate start (pieces (readDirective e.char) s)).Pairwise fun l m => l.stop ≤ m.start := by
  have hconsumes := readDirective_consumes e.char
  induction s using hconsumes.induction generalizing start with
  | nil => exact .nil
  | char c s hr ih =>
    rw [pieces_cons_of_none hr, locate]
    exact ih (start + 1)
  | mark s d rest hr ih =>
    rw [pieces_of_some hconsumes hr, locate]
    refine List.pairwise_cons.mpr ⟨?_, ih (start + d.source.length)⟩
    intro m hm
    obtain ⟨i, hstart, -⟩ := occurs_of_mem_locate e hm
    rw [hstart]
    exact Nat.le_add_right _ i

/-- Where the grammar holds a directive that is found begins, or is in the way. -/
theorem exists_mem_locate {i : Nat} {d : Directive} (h : Occurs e.char s i d) (start : Nat) :
    ∃ l ∈ locate start (pieces (readDirective e.char) s),
      l.start ≤ start + i ∧ start + i < l.stop := by
  have hconsumes := readDirective_consumes e.char
  induction s using hconsumes.induction generalizing start i with
  | nil =>
    have hread := h.reads
    rw [List.drop_nil, hconsumes.nil] at hread
    cases hread
  | char c s hr ih =>
    rw [pieces_cons_of_none hr, locate]
    cases i with
    | zero =>
      have hread := h.reads
      rw [List.drop_zero, hr] at hread
      cases hread
    | succ i =>
      rw [Nat.add_comm i 1] at h ⊢
      obtain ⟨l, hl, hle, hlt⟩ := ih ((occurs_append [c]).mp h) (start + 1)
      exact ⟨l, hl, by omega, by omega⟩
  | mark s first rest hr ih =>
    rw [pieces_of_some hconsumes hr, locate]
    by_cases hinside : i < first.source.length
    · exact ⟨⟨start, first⟩, List.mem_cons_self, Nat.le_add_right _ _,
        Nat.add_lt_add_left hinside start⟩
    · obtain ⟨k, rfl⟩ := Nat.exists_eq_add_of_le (Nat.le_of_not_lt hinside)
      rw [readDirective_eq_some hr, occurs_append] at h
      obtain ⟨l, hl, hle, hlt⟩ := ih h (start + first.source.length)
      exact ⟨l, List.mem_cons_of_mem _ hl, by omega, by omega⟩

end

/-- A text of which a part stands at a place, cut out there. -/
theorem drop_take_of_prefix {xs s : List Char} {i : Nat} (h : xs <+: s.drop i) :
    (s.take (i + xs.length)).drop i = xs := by
  rw [List.drop_take, Nat.add_sub_cancel_left]
  exact (List.prefix_iff_eq_take.mp h).symm

/-- The directives that are found in a text are in order and apart from one another. The grammar
holds where each of them begins, of nothing else than it, and wherever else the grammar holds one of
them is in the way. What stands between its ends is what its parts are put together to, with its
second branch or without one; in the latter case it ends in front of a character that opens none. -/
theorem directives_leftmost (e : Escape) (s : List Char) :
    (directives e.char s).Pairwise (fun l m => l.stop ≤ m.start) ∧
    (∀ i d d', Occurs e.char s i d → Occurs e.char s i d' → d = d') ∧
    (∀ i d, Occurs e.char s i d → ∃ l ∈ directives e.char s, l.start ≤ i ∧ i < l.stop) ∧
    ∀ l ∈ directives e.char s,
      l.start < l.stop ∧ Occurs e.char s l.start l.directive ∧
      (s.take l.stop).drop l.start = l.directive.source ∧
      ((l.directive.whenFalse? = none ∧ s[l.stop]? ≠ some '{' ∧
          l.directive.source = l.directive.opening ++ spanSource l.directive.whenTrue) ∨
        ∃ branch, l.directive.whenFalse? = some branch ∧
          l.directive.source =
            l.directive.opening ++ (spanSource l.directive.whenTrue ++ spanSource branch)) := by
  refine ⟨pairwise_locate e s 0, fun i d d' => Occurs.unique, ?_, ?_⟩
  · intro i d h
    simpa [directives] using exists_mem_locate e h 0
  intro l hl
  obtain ⟨i, hstart, hoccurs⟩ := occurs_of_mem_locate e hl
  obtain rfl : l.start = i := hstart.trans (Nat.zero_add i)
  refine ⟨l.start_lt_stop, hoccurs, drop_take_of_prefix hoccurs.placed, ?_⟩
  rcases l.directive.source_eq with ⟨hnone, hsource⟩ | hchoice
  · exact Or.inl ⟨hnone, hoccurs.ends hnone, hsource⟩
  · exact Or.inr hchoice

/-- An unclosed head goes on to the bracket of the next directive, which is then in its way. -/
theorem directives_leftmost_unclosed :
    ∃ d, Occurs '\\' "\\ON[\\OPſ[1]\x7bone\x7d\\oN[2]\x7b\x7d\x7b\x7d".toList 4 d ∧
      d.opcode = .ops ∧
      ∃ l ∈ directives '\\' "\\ON[\\OPſ[1]\x7bone\x7d\\oN[2]\x7b\x7d\x7b\x7d".toList,
        l.start ≤ 4 ∧ 4 < l.stop := by
  let s := "\\ON[\\OPſ[1]\x7bone\x7d\\oN[2]\x7b\x7d\x7b\x7d".toList
  let inner : Directive := ⟨'\\', "OPſ".toList, .ops, "1".toList, "one".toList, none⟩
  obtain ⟨-, -, hcovered, -⟩ := directives_leftmost .backslash s
  have hread : readDirective '\\' (s.drop 4) = some (inner, s.drop 16) := rfl
  have hinner : Occurs '\\' s 4 inner := occurs_of_readDirective (e := .backslash) hread
  exact ⟨inner, hinner, rfl, hcovered 4 inner hinner⟩

end Markup
end DialogueMarkup
