/-!
Texts cut into marks and single characters. A reader looks at the front of a text and answers with
a mark and the text that follows it; marks are taken from left to right and never overlap. The
statements say what is cut off the front of a text: a mark if the reader finds one there, else one
character.
-/
namespace DialogueMarkup.Text

inductive Piece (α : Type) where
  | char (c : Char)
  | mark (a : α)
  deriving Repr

/-- A reader answers with what stands at the front of a text and with the text after it. -/
abbrev Reader (α : Type) := List Char → Option (α × List Char)

/-- Every mark of a reader takes at least one character. -/
def Reader.Consumes {α : Type} (read : Reader α) : Prop :=
  ∀ s a rest, read s = some (a, rest) → rest.length < s.length

def cuts {α : Type} (read : Reader α) : Nat → List Char → List (Piece α)
  | _, [] => []
  | 0, _ => []
  | n + 1, c :: s =>
    match read (c :: s) with
    | none => .char c :: cuts read n s
    | some (a, rest) => .mark a :: cuts read n rest

def pieces {α : Type} (read : Reader α) (s : List Char) : List (Piece α) := cuts read s.length s

def marks {α : Type} (read : Reader α) (s : List Char) : List α :=
  (pieces read s).filterMap fun
    | .char _ => none
    | .mark a => some a

def replaceMarks {α : Type} (read : Reader α) (f : α → List Char) (s : List Char) : List Char :=
  (pieces read s).flatMap fun
    | .char c => [c]
    | .mark a => f a

/-- Puts a text in the place of every mark, from left to right, unless one of them fails. -/
def replaceMarksM {α ε : Type} (read : Reader α) (f : α → Except ε (List Char))
    (s : List Char) : Except ε (List Char) := do
  let parts ← (pieces read s).mapM fun
    | .char c => pure [c]
    | .mark a => f a
  return parts.flatten

/-- More cuts than a text has characters change nothing. -/
theorem cuts_congr {α : Type} {read : Reader α} (h : read.Consumes) :
    ∀ {m n : Nat} {s : List Char}, s.length ≤ m → s.length ≤ n → cuts read m s = cuts read n s
  | _, _, [], _, _ => by simp [cuts]
  | m + 1, n + 1, c :: s, hm, hn => by
    have hm : s.length ≤ m := by simpa using hm
    have hn : s.length ≤ n := by simpa using hn
    simp only [cuts]
    cases hr : read (c :: s) with
    | none => simp [cuts_congr h hm hn]
    | some r =>
      have hlt : r.2.length < (c :: s).length := h _ r.1 r.2 hr
      have hle : r.2.length ≤ s.length := by simpa using Nat.le_of_lt_succ hlt
      simp [cuts_congr h (Nat.le_trans hle hm) (Nat.le_trans hle hn)]

@[simp]
theorem pieces_nil {α : Type} (read : Reader α) : pieces read [] = [] := rfl

theorem pieces_cons_of_none {α : Type} {read : Reader α} {c : Char} {s : List Char}
    (hr : read (c :: s) = none) : pieces read (c :: s) = .char c :: pieces read s := by
  simp [pieces, cuts, hr]

theorem pieces_cons_of_some {α : Type} {read : Reader α} (h : read.Consumes) {c : Char}
    {s rest : List Char} {a : α} (hr : read (c :: s) = some (a, rest)) :
    pieces read (c :: s) = .mark a :: pieces read rest := by
  have hlt : rest.length < (c :: s).length := h _ a rest hr
  have hle : rest.length ≤ s.length := by simpa using Nat.le_of_lt_succ hlt
  simp only [pieces, List.length_cons, cuts, hr]
  rw [cuts_congr h hle (Nat.le_refl _)]

end DialogueMarkup.Text
