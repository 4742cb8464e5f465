import DialogueMarkup.English.Article
import DialogueMarkup.English.Number
import DialogueMarkup.Fault
import DialogueMarkup.Markup.Code

/-!
Grammar codes. `NUMWORD`, `ORD` and `ORDWORD` write the number in their brackets; `UP` and `LOW`
fold the case of a span or of the next character; `AN` is the article of the word that follows.
The codes are written out in that order.
-/
namespace DialogueMarkup.Grammar
open Text Markup

def readNumberCode (escape : Char) (name : List Char) : Reader (List Char) := fun s => do
  let (_, s) ← readCode escape name s
  readArgument s

/-- What a number code writes: an argument that is no integer is only trimmed. -/
def writeNumber (f : Int → List Char) (argument : List Char) : Except NumeralFault (List Char) :=
  match Numeral.readPlain argument with
  | none => .ok (trim argument)
  | some n => n.map f

def numberWords (escape : Char) (s : List Char) : Except NumeralFault (List Char) :=
  replaceMarksM (readNumberCode escape "NUMWORD".toList) (writeNumber English.cardinal) s

/-- Writes out the ordinals, those in words first. -/
def ordinals (escape : Char) (s : List Char) : Except NumeralFault (List Char) := do
  let s ← replaceMarksM (readNumberCode escape "ORDWORD".toList)
    (writeNumber English.ordinalInWords) s
  replaceMarksM (readNumberCode escape "ORD".toList) (writeNumber English.ordinal) s

inductive Fold
  | up
  | low
  deriving DecidableEq, Repr

def Fold.apply : Fold → List Char → List Char
  | up, s => upper s
  | low, s => lower s

def readFold (escape : Char) : Reader Fold := fun s =>
  match readCode escape ['U', 'P'] s with
  | some (_, s) => some (.up, s)
  | none => (readCode escape ['L', 'O', 'W'] s).map fun r => (.low, r.2)

def startsWithLetter : List Char → Bool
  | [] => false
  | c :: _ => isLatinLetter c

/-- Reads the code of an article as it is spelled; a letter may not follow it. -/
def readArticle (escape : Char) : Reader (Char × List Char) := fun s => do
  let (code, s) ← readCode escape ['A', 'N'] s
  if startsWithLetter s then none
  return (code, s)

def readFoldedArticle (escape : Char) : Reader (Fold × Char × List Char) := fun s => do
  let (fold, s) ← readFold escape s
  let (code, s) ← readArticle escape s
  return ((fold, code), s)

def readFoldedSpan (escape : Char) : Reader (Fold × List Char) := fun s => do
  let (fold, s) ← readFold escape s
  let (span, s) ← readSpan s
  return ((fold, span), s)

def readFoldedChar (escape : Char) : Reader (Fold × List Char) := fun s => do
  let (fold, s) ← readFold escape s
  match s with
  | [] => return ((fold, []), [])
  | c :: s => if c = '{' then none else return ((fold, [c]), s)

def foldArticles (escape : Char) (s : List Char) : List Char :=
  replaceMarks (readFoldedArticle escape) (fun m => m.2.1 :: m.1.apply m.2.2) s

def foldSpansOnce (escape : Char) (s : List Char) : List Char :=
  replaceMarks (readFoldedSpan escape) (fun m => m.1.apply m.2) s

/-- Folds spans from the inside out, in at most a number of rounds. -/
def foldSpans (escape : Char) : Nat → List Char → List Char
  | 0, s => s
  | rounds + 1, s =>
    let next := foldSpansOnce escape s
    if next = s then s else foldSpans escape rounds next

def foldChars (escape : Char) (s : List Char) : List Char :=
  replaceMarks (readFoldedChar escape) (fun m => m.1.apply m.2) s

/-- Folds case: of articles first, then of spans, last of single characters. -/
def folds (escape : Char) (s : List Char) : List Char :=
  let s := foldArticles escape s
  foldChars escape (foldSpans escape (s.length + 1) s)

def nextWord (s : List Char) : List Char := (trimLeft s).takeWhile fun c => !isBlank c

/-- Reads an article together with the word that follows, which stays in the text. -/
def readArticleFor (escape : Char) : Reader (Bool × List Char) := fun s => do
  let (code, s) ← readArticle escape s
  return ((code.2.head?.any Char.isUpper, nextWord s), s)

/-- Writes out the articles; a code in capitals gives one with a capital. -/
def articles (escape : Char) (s : List Char) : List Char :=
  replaceMarks (readArticleFor escape) (fun m => English.article m.2 m.1) s

def articleRemarks (escape : Char) (s : List Char) : List (List Char) :=
  (marks (readArticleFor escape) s).filterMap fun m => English.blankWordRemark? m.2

def apply (escape : Char) (s : List Char) : Except NumeralFault (List Char) := do
  let s ← numberWords escape s
  let s ← ordinals escape s
  return articles escape (folds escape s)

end DialogueMarkup.Grammar
