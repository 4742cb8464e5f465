import DialogueMarkup.Proofs.Ceiling
import DialogueMarkup.Proofs.PlainText

/-! Chains: texts that take a given number of passes, whatever the escape character and the state.
The directives of a chain are cut in two, all beginnings in front of all rests. Only in the middle
does a beginning meet a rest; when that directive has given way to nothing, the next ones meet. -/
namespace DialogueMarkup
open Text Markup

namespace Markup

/-- The rests of directives whose beginnings are still to come. -/
def links : Nat → List Char
  | 0 => []
  | n + 1 => 'N' :: '[' :: '1' :: ']' :: '{' :: '}' :: links n

/-- Beginnings of directives in front of as many rests, and some more. -/
def chain (escape : Char) : Nat → Nat → List Char
  | 0, more => links more
  | n + 1, more => escape :: 'O' :: chain escape n (more + 1)

theorem length_chain (escape : Char) (n more : Nat) :
    (chain escape n more).length = 8 * n + 6 * more := by
  have hlinks (k : Nat) : (links k).length = 6 * k := by
    induction k with
    | zero => rfl
    | succ k ih =>
      simp only [links, List.length_cons, ih]
      omega
  induction n generalizing more with
  | zero =>
    rw [chain, hlinks]
    omega
  | succ n ih =>
    simp only [chain, List.length_cons, ih]
    omega

/-- A character that begins neither an opcode nor the name of a fold. -/
def isDull (x : Char) : Bool :=
  !sameLetter 'O' x && !sameLetter 'U' x && !sameLetter 'L' x

section
variable {escape x : Char} {s : List Char}

theorem readEscape_cons (escape c : Char) (s : List Char) :
    readEscape escape (c :: s) = none ∨ readEscape escape (c :: s) = some (c, s) := by
  cases hsame : sameLetter escape c <;> simp [readEscape, hsame]

theorem readDirective_of_opcode (h : Opcode.read s = none) (c : Char) :
    readDirective escape (c :: s) = none := by
  have hhead : readHead escape (c :: s) = none := by
    rcases readEscape_cons escape c s with he | he <;> simp [readHead, he, h]
  simp [readDirective, hhead]

theorem readCode_of_name {name : List Char} (h : readWord name s = none) (c : Char) :
    readCode escape name (c :: s) = none := by
  rcases readEscape_cons escape c s with he | he <;> simp [readCode, he, h]

theorem readSpanOpening_of_names (hup : readWord ['U', 'P'] s = none)
    (hlow : readWord ['L', 'O', 'W'] s = none) (c : Char) :
    readSpanOpening escape (c :: s) = none := by
  simp [readSpanOpening, readCode_of_name hup, readCode_of_name hlow]

/-- Nothing is read in front of a dull character. -/
theorem read_of_isDull (hx : isDull x = true) (escape c : Char) :
    readDirective escape (c :: x :: s) = none ∧ readSpanOpening escape (c :: x :: s) = none := by
  simp only [isDull, Bool.and_eq_true, Bool.not_eq_true'] at hx
  obtain ⟨⟨ho, hu⟩, hl⟩ := hx
  have hopcode : Opcode.read (x :: s) = none := by
    simp [Opcode.read, Opcode.all, Opcode.name, readWord, ho]
  exact ⟨readDirective_of_opcode hopcode c,
    readSpanOpening_of_names (by simp [readWord, hu]) (by simp [readWord, hl]) c⟩

theorem marks_of_isDull (h : ∀ x ∈ s, isDull x = true) (escape c : Char) :
    marks (readDirective escape) (c :: s) = [] ∧ marks (readSpanOpening escape) (c :: s) = [] := by
  -- what is read at a place begins with the character after it
  induction s generalizing c with
  | nil =>
    have hdirective : readDirective escape [c] = none := readDirective_of_opcode rfl c
    have hspan : readSpanOpening escape [c] = none := readSpanOpening_of_names rfl rfl c
    exact ⟨marks_cons_eq_nil_iff.mpr ⟨hdirective, rfl⟩, marks_cons_eq_nil_iff.mpr ⟨hspan, rfl⟩⟩
  | cons x s ih =>
    obtain ⟨hx, hs⟩ := List.forall_mem_cons.mp h
    have hhere := read_of_isDull (s := s) hx escape c
    have hrest := ih hs x
    exact ⟨marks_cons_eq_nil_iff.mpr ⟨hhere.1, hrest.1⟩,
      marks_cons_eq_nil_iff.mpr ⟨hhere.2, hrest.2⟩⟩

theorem isDull_of_mem_links {n : Nat} (hx : x ∈ links n) : isDull x = true := by
  induction n with
  | zero => cases hx
  | succ n ih =>
    simp only [links, List.mem_cons] at hx
    rcases hx with rfl | rfl | rfl | rfl | rfl | rfl | hx
    all_goals first | exact ih hx | decide

theorem marks_links (n : Nat) :
    marks (readDirective escape) (links n) = [] ∧ marks (readSpanOpening escape) (links n) = [] := by
  cases n with
  | zero => exact ⟨rfl, rfl⟩
  | succ n =>
    apply marks_of_isDull
    intro x hx
    exact isDull_of_mem_links (n := n + 1) (List.mem_cons_of_mem _ hx)

end

/-- The directive in the middle of a chain. -/
def chainDirective (escape : Char) : Directive := ⟨escape, ['O', 'N'], .on, ['1'], [], none⟩

theorem readDirective_chain_one (escape : Char) (more : Nat) :
    readDirective escape (chain escape 1 more) = some (chainDirective escape, links more) := by
  cases more <;>
    simp [chain, links, chainDirective, readDirective, readHead, readEscape, sameLetter] <;> rfl

/-- An opcode of two letters is all that is found in front of a second beginning. -/
theorem rest_of_opcode {x : Char} {s spelling rest : List Char} {op : Opcode}
    (h : Opcode.read ('O' :: x :: 'O' :: s) = some ((spelling, op), rest)) : rest = 'O' :: s := by
  obtain ⟨name, -, h⟩ := List.exists_of_findSome?_eq_some h
  obtain ⟨⟨letters, after⟩, hword, heq⟩ := Option.map_eq_some_iff.mp h
  obtain rfl : after = rest := congrArg Prod.snd heq
  have hthird : ∀ w ∈ ['F', 'S', 'C', 'L', 'M'], sameLetter w 'O' = false :=
    forall_mem_of_all (by decide)
  simp only [List.forall_mem_cons] at hthird
  cases name <;> simp_all [Opcode.name, readWord]

/-- In front of another beginning there is no directive, since no bracket follows the opcode. -/
theorem readDirective_beginnings (escape x y : Char) (s : List Char) :
    readDirective escape (y :: 'O' :: x :: 'O' :: s) = none := by
  cases hread : Opcode.read ('O' :: x :: 'O' :: s) with
  | none => exact readDirective_of_opcode hread y
  | some r =>
    obtain ⟨⟨spelling, op⟩, rest⟩ := r
    obtain rfl := rest_of_opcode hread
    have hbracket : readArgument ('O' :: s) = none := by simp [readArgument, readChar]
    have hhead : readHead escape (y :: 'O' :: x :: 'O' :: s) = none := by
      rcases readEscape_cons escape y ('O' :: x :: 'O' :: s) with he | he <;>
        simp [readHead, he, hread, hbracket]
    simp [readDirective, hhead]

/-- Nor is there one in the middle of a beginning. -/
theorem readDirective_between (escape x y : Char) (s : List Char) :
    readDirective escape (y :: x :: 'O' :: s) = none := by
  have hsecond : ∀ w ∈ ['N', 'F', 'V', 'P'], sameLetter w 'O' = false :=
    forall_mem_of_all (by decide)
  simp only [List.forall_mem_cons] at hsecond
  have hopcode : Opcode.read (x :: 'O' :: s) = none := by
    simp [Opcode.read, Opcode.all, Opcode.name, readWord, hsecond]
  exact readDirective_of_opcode hopcode y

section
variable (escape : Char)

/-- No case span opens in a chain. -/
theorem marks_readSpanOpening_chain (n more : Nat) :
    marks (readSpanOpening escape) (chain escape n more) = [] := by
  induction n generalizing more with
  | zero => exact (marks_links more).2
  | succ n ih =>
    have hfirst : readSpanOpening escape (escape :: 'O' :: chain escape n (more + 1)) = none :=
      readSpanOpening_of_names rfl rfl escape
    have hsecond : readSpanOpening escape ('O' :: chain escape n (more + 1)) = none := by
      cases n with
      | zero => exact (read_of_isDull (by decide) escape 'O').2
      | succ n =>
        cases hsame : sameLetter escape 'O' with
        | false => exact opensWith_readSpanOpening escape 'O' hsame _
        | true =>
          -- an escape that is taken for an `O` begins no name of a fold
          have hkey : caseKey escape = caseKey 'O' := beq_iff_eq.mp hsame
          have hup : sameLetter 'U' escape = false := by rw [sameLetter, hkey]; decide
          have hlow : sameLetter 'L' escape = false := by rw [sameLetter, hkey]; decide
          exact readSpanOpening_of_names (by simp [chain, readWord, hup])
            (by simp [chain, readWord, hlow]) 'O'
    exact marks_cons_eq_nil_iff.mpr ⟨hfirst, marks_cons_eq_nil_iff.mpr ⟨hsecond, ih (more + 1)⟩⟩

variable {f : Directive → Except Fault (List Char)} (hf : f (chainDirective escape) = .ok [])
include hf

/-- The directive in the middle of a chain gives way, and the next beginning meets the next rest. -/
theorem replaceMarksM_chain (n more : Nat) :
    replaceMarksM (readDirective escape) f (chain escape (n + 1) more) =
      .ok (chain escape n more) := by
  -- from the outside in: no letter of a beginning is a place for a directive but the last escape
  induction n generalizing more with
  | zero =>
    have hlinks : replaceMarksM (readDirective escape) f (links more) = .ok (links more) :=
      replaceMarksM_of_marks_eq_nil (marks_links more).1 f
    rw [replaceMarksM_of_some (readDirective_consumes escape) (readDirective_chain_one escape more),
      hf, hlinks]
    rfl
  | succ n ih =>
    have hfirst : readDirective escape (escape :: 'O' :: chain escape (n + 1) (more + 1)) = none :=
      readDirective_beginnings escape escape escape _
    have hsecond : readDirective escape ('O' :: chain escape (n + 1) (more + 1)) = none :=
      readDirective_between escape escape 'O' _
    rw [chain, replaceMarksM_of_none hfirst, replaceMarksM_of_none hsecond, ih]
    rfl

end

end Markup

namespace Expansion
variable (st : State) (current : Scope) (escape : Char)

theorem choose_chainDirective : choose st current (chainDirective escape) = .ok [] := by
  obtain ⟨holds, hdecide⟩ : ∃ holds, (chainDirective escape).head.decide st current = .ok holds :=
    ⟨_, rfl⟩
  rw [choose_eq, hdecide]
  cases holds <;> rfl

theorem pass_chain (n : Nat) : pass? st current escape (chain escape (n + 1) 0) =
    some (.ok (chain escape n 0)) := by
  have hreplace := replaceMarksM_chain escape (choose_chainDirective st current escape) n 0
  have hmarks : marks (readDirective escape) (chain escape (n + 1) 0) ≠ [] := by
    intro hnil
    -- a pass that found nothing would leave the text as long as it was
    rw [replaceMarksM_of_marks_eq_nil hnil] at hreplace
    have hlength := congrArg List.length (Except.ok.inj hreplace)
    rw [length_chain, length_chain] at hlength
    omega
  simp [pass?, hmarks, hreplace]

/-- Every link of a chain takes a pass of its own. -/
theorem passes_chain (n : Nat) : Passes st current escape n (chain escape n 0) (.ok []) := by
  induction n with
  | zero => exact .done rfl
  | succ n ih => exact .step (pass_chain st current escape n) ih

/-- A chain is expanded to nothing, under the ceilings that allow as many passes as it has links. -/
theorem expand_chain_iff (maxPasses : Option Int) (n : Nat) (r : List Char) :
    expand st current escape maxPasses (chain escape n 0) = .ok r ↔
      r = [] ∧ ∀ m, maxPasses.map Int.toNat = some m → n ≤ m := by
  have hpasses := passes_chain st current escape n
  have hguards : guardSpans escape (chain escape n 0) = chain escape n 0 :=
    guardSpans_of_marks_eq_nil (marks_readSpanOpening_chain escape n 0)
  have hnil : (.ok [] : Except Fault (List Char)).map (decodeBraces escape) = .ok [] := rfl
  rw [expand, directives, hguards]
  cases maxPasses with
  | none =>
    have hpaid := hpasses.seven_mul_le
    have hle : n ≤ allowance none (chain escape n 0) := by
      simp only [allowance]
      omega
    rw [hpasses.run_eq hle 0, hnil]
    simp [eq_comm]
  | some m =>
    show (run st current escape m.toNat 0 (chain escape n 0)).map _ = _ ↔ _
    by_cases hle : n ≤ m.toNat
    · rw [hpasses.run_eq hle 0, hnil]
      simp [hle, eq_comm]
    · obtain ⟨t, -, hrun⟩ := hpasses.run_eq_divergence (Nat.lt_of_not_le hle) 0
      rw [hrun]
      simp [hle, Except.map]

end Expansion

end DialogueMarkup
