import DialogueMarkup.Text.Casing

/-!
Letters that are the same but for their case. Each character stands for the class of its small
form; the classes are disjoint, so sameness is an equivalence. A word is read in any case, and what
is split off stands in front of the rest.
-/
namespace DialogueMarkup.Text

/-- Small letters that share their capital with an earlier one, beside that one. -/
def sharedCapitals : List (Nat × Nat) := [
  (0x131, 0x69), (0x17F, 0x73), (0x3B9, 0x345), (0x3BC, 0xB5), (0x3C3, 0x3C2), (0x3D0, 0x3B2),
  (0x3D1, 0x3B8), (0x3D5, 0x3C6), (0x3D6, 0x3C0), (0x3F0, 0x3BA), (0x3F1, 0x3C1), (0x3F5, 0x3B5),
  (0x1C80, 0x432), (0x1C81, 0x434), (0x1C82, 0x43E), (0x1C83, 0x441), (0x1C84, 0x442),
  (0x1C85, 0x442), (0x1C86, 0x44A), (0x1C87, 0x463), (0x1E9B, 0x1E61), (0x1FBE, 0x345),
  (0x1FD3, 0x390), (0x1FE3, 0x3B0), (0xA64B, 0x1C88), (0xFB06, 0xFB05)]

def caseKey (c : Char) : Char :=
  let small := lowerSimple c
  match sharedCapitals.lookup small.toNat with
  | some first => Char.ofNat first
  | none => small

def sameLetter (a b : Char) : Bool := caseKey a == caseKey b

/-- A Latin letter in any case: also dotless and dotted `i`, the long `s` and the Kelvin sign. -/
def isLatinLetter (c : Char) : Bool := ('a' ≤ caseKey c && caseKey c ≤ 'z')

def readWord (word : List Char) (s : List Char) : Option (List Char × List Char) :=
  match word, s with
  | [], s => some ([], s)
  | w :: word, c :: s =>
    if sameLetter w c then (readWord word s).map fun (r : List Char × List Char) => (c :: r.1, r.2)
    else none
  | _ :: _, [] => none

theorem readWord_eq_some {word s spelling rest : List Char}
    (h : readWord word s = some (spelling, rest)) :
    s = spelling ++ rest ∧ spelling.length = word.length := by
  induction word generalizing s spelling with
  | nil =>
    simp only [readWord, Option.some.injEq, Prod.mk.injEq] at h
    obtain ⟨rfl, rfl⟩ := h
    simp
  | cons w word ih =>
    match s with
    | [] => simp [readWord] at h
    | c :: s =>
      simp only [readWord] at h
      split at h
      · obtain ⟨⟨t, r⟩, ht, he⟩ := Option.map_eq_some_iff.1 h
        simp only [Prod.mk.injEq] at he
        obtain ⟨rfl, rfl⟩ := he
        obtain ⟨rfl, hl⟩ := ih ht
        simp [hl]
      · simp at h

end DialogueMarkup.Text
