import DialogueMarkup.Text.CaseClass
import DialogueMarkup.Text.Piece

/-!
Codes of the markup: an escape character and a name, both read in any case, then an argument in
brackets or a span in braces. What is split off a text stands, as it is written, in front of the
rest.
-/
namespace DialogueMarkup.Markup
open Text

def readEscape (escape : Char) : List Char → Option (Char × List Char)
  | [] => none
  | c :: s => if sameLetter escape c then some (c, s) else none

def readChar (c : Char) : List Char → Option (List Char)
  | [] => none
  | d :: s => if d = c then some s else none

def readCode (escape : Char) (name : List Char) (s : List Char) :
    Option ((Char × List Char) × List Char) := do
  let (e, s) ← readEscape escape s
  let (spelling, s) ← readWord name s
  return ((e, spelling), s)

/-- Splits off an argument in brackets, which holds no closing bracket. -/
def readArgument (s : List Char) : Option (List Char × List Char) := do
  let s ← readChar '[' s
  let rest ← readChar ']' (s.dropWhile (· != ']'))
  return (s.takeWhile (· != ']'), rest)

def isNoBrace (c : Char) : Bool := c != '{' && c != '}'

/-- Splits off a span in braces, which holds no brace. -/
def readSpan (s : List Char) : Option (List Char × List Char) := do
  let s ← readChar '{' s
  let rest ← readChar '}' (s.dropWhile isNoBrace)
  return (s.takeWhile isNoBrace, rest)

def argumentSource (argument : List Char) : List Char := '[' :: (argument ++ [']'])

def spanSource (span : List Char) : List Char := '{' :: (span ++ ['}'])

theorem readEscape_eq_some {escape c : Char} {s rest : List Char}
    (h : readEscape escape s = some (c, rest)) : s = c :: rest := by
  match s with
  | [] => simp [readEscape] at h
  | d :: s =>
    simp only [readEscape] at h
    split at h <;> simp_all

theorem readChar_eq_some {c : Char} {s rest : List Char} (h : readChar c s = some rest) :
    s = c :: rest := by
  match s with
  | [] => simp [readChar] at h
  | d :: s =>
    simp only [readChar] at h
    split at h <;> simp_all

theorem readArgument_eq_some {s argument rest : List Char}
    (h : readArgument s = some (argument, rest)) : s = argumentSource argument ++ rest := by
  simp only [readArgument, Option.bind_eq_bind, Option.bind_eq_some_iff, Option.pure_def,
    Option.some.injEq, Prod.mk.injEq] at h
  obtain ⟨t, ht, u, hu, rfl, rfl⟩ := h
  rw [readChar_eq_some ht]
  have := List.takeWhile_append_dropWhile (p := (· != ']')) (l := t)
  rw [readChar_eq_some hu] at this
  simp only [argumentSource, List.cons_append, List.append_assoc, List.nil_append]
  rw [this]

theorem not_mem_of_readArgument {s argument rest : List Char}
    (h : readArgument s = some (argument, rest)) : ']' ∉ argument := by
  simp only [readArgument, Option.bind_eq_bind, Option.bind_eq_some_iff, Option.pure_def,
    Option.some.injEq, Prod.mk.injEq] at h
  obtain ⟨t, -, u, -, rfl, rfl⟩ := h
  intro hmem
  have hinside := List.all_eq_true.mp (List.all_takeWhile (p := (· != ']')) (l := t)) _ hmem
  simp at hinside

theorem readArgument_argumentSource {argument : List Char} (h : ']' ∉ argument) (s : List Char) :
    readArgument (argumentSource argument ++ s) = some (argument, s) := by
  have hinside : ∀ c ∈ argument, (c != ']') = true := by
    intro c hc
    simp only [bne_iff_ne]
    rintro rfl
    exact h hc
  have hdrop : (argument ++ ']' :: s).dropWhile (· != ']') = ']' :: s := by
    rw [List.dropWhile_append_of_pos hinside]
    rfl
  have htake : (argument ++ ']' :: s).takeWhile (· != ']') = argument := by
    rw [List.takeWhile_append_of_pos hinside]
    simp
  simp [readArgument, argumentSource, readChar, hdrop, htake]

theorem readSpan_eq_some {s span rest : List Char} (h : readSpan s = some (span, rest)) :
    s = spanSource span ++ rest := by
  simp only [readSpan, Option.bind_eq_bind, Option.bind_eq_some_iff, Option.pure_def,
    Option.some.injEq, Prod.mk.injEq] at h
  obtain ⟨t, ht, u, hu, rfl, rfl⟩ := h
  rw [readChar_eq_some ht]
  have := List.takeWhile_append_dropWhile (p := isNoBrace) (l := t)
  rw [readChar_eq_some hu] at this
  simp only [spanSource, List.cons_append, List.append_assoc, List.nil_append]
  rw [this]

theorem isNoBrace_of_readSpan {s span rest : List Char} (h : readSpan s = some (span, rest)) :
    ∀ c ∈ span, isNoBrace c = true := by
  simp only [readSpan, Option.bind_eq_bind, Option.bind_eq_some_iff, Option.pure_def,
    Option.some.injEq, Prod.mk.injEq] at h
  obtain ⟨t, -, u, -, rfl, rfl⟩ := h
  exact List.all_eq_true.mp (List.all_takeWhile (p := isNoBrace) (l := t))

theorem readSpan_spanSource {span : List Char} (h : ∀ c ∈ span, isNoBrace c = true)
    (rest : List Char) : readSpan (spanSource span ++ rest) = some (span, rest) := by
  have hclose : isNoBrace '\x7d' = false := by decide
  have hdrop : (span ++ '\x7d' :: rest).dropWhile isNoBrace = '\x7d' :: rest := by
    rw [List.dropWhile_append_of_pos h]
    simp [hclose]
  have htake : (span ++ '\x7d' :: rest).takeWhile isNoBrace = span := by
    rw [List.takeWhile_append_of_pos h]
    simp [hclose]
  simp [readSpan, spanSource, readChar, hdrop, htake]

end DialogueMarkup.Markup
