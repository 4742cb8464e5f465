import DialogueMarkup.Proofs.Renaming

/-! Markup respelled with another escape character. Signs are renamed so that what is read as one
escape character before is read as the other one after; every reader then finds in the respelled
text what it found in the text, respelled: escapes and codes, arguments and spans, case spans and
their guards, brace escapes and directives, malformed markup included. -/
namespace DialogueMarkup
open Text Markup

/-- A renaming of signs that takes an escape character, in all that is read as it, to another. -/
structure Respelling where
  map : Char → Char
  before : Char
  after : Char
  moves : Renaming map
  same : ∀ c, sameLetter after (map c) = sameLetter before c

/-- A directive with all of its text respelled. -/
def Markup.Directive.respelled (φ : Char → Char) (d : Directive) : Directive :=
  ⟨φ d.escape, d.spelling.map φ, d.opcode, d.condition.map φ, d.whenTrue.map φ,
    d.whenFalse?.map (List.map φ)⟩

/-- A head with all of its text respelled. -/
def Markup.Head.respelled (φ : Char → Char) (h : Head) : Head :=
  ⟨φ h.escape, h.spelling.map φ, h.opcode, h.condition.map φ⟩

theorem signless_name (op : Opcode) : Signless op.name := by cases op <;> decide

section
variable {φ : Char → Char} (hφ : Renaming φ)
include hφ

theorem readChar_map {d : Char} (hd : d ∉ escapeSigns) (s : List Char) :
    readChar d (s.map φ) = (readChar d s).map (List.map φ) := by
  cases s with
  | nil => rfl
  | cons c s =>
    rw [List.map_cons, readChar, readChar]
    by_cases h : c = d
    · rw [if_pos ((hφ.eq_iff hd c).mpr h), if_pos h]
      rfl
    · rw [if_neg (fun h' => h ((hφ.eq_iff hd c).mp h')), if_neg h]
      rfl

theorem readArgument_renamed : Reader.Renamed φ (List.map φ) readArgument readArgument := by
  have hclass : ∀ c ∈ escapeSigns, (c != ']') = ('\\' != ']') := by decide
  intro s
  refine bind_renamed (readChar_map hφ (by decide) s) fun t => ?_
  rw [hφ.dropWhile_map hclass, hφ.takeWhile_map hclass]
  exact bind_renamed (readChar_map hφ (by decide) _) fun rest => rfl

theorem readSpan_renamed : Reader.Renamed φ (List.map φ) readSpan readSpan := by
  have hclass : ∀ c ∈ escapeSigns, isNoBrace c = isNoBrace '\\' := by decide
  intro s
  refine bind_renamed (readChar_map hφ (by decide) s) fun t => ?_
  rw [hφ.dropWhile_map hclass, hφ.takeWhile_map hclass]
  exact bind_renamed (readChar_map hφ (by decide) _) fun rest => rfl

theorem readOpcode_renamed :
    Reader.Renamed φ (fun r : List Char × Opcode => (r.1.map φ, r.2)) Opcode.read Opcode.read := by
  intro s
  refine findSome?_renamed fun op _ => ?_
  rw [hφ.readWord_map (signless_name op) s]
  cases readWord op.name s <;> rfl

theorem restoreSpans_map (s : List Char) : restoreSpans (s.map φ) = (restoreSpans s).map φ := by
  rw [restoreSpans, restoreSpans, List.map_map, List.map_map]
  apply List.map_congr_left
  intro c _
  simp only [Function.comp_apply, hφ.eq_iff (d := guardOpen) (by decide),
    hφ.eq_iff (d := guardClose) (by decide)]
  split
  · exact (hφ.other '{' (by decide)).symm
  · split
    · exact (hφ.other '}' (by decide)).symm
    · rfl

/-- Guards stand behind codes and in the place of braces, none of which a renaming moves. -/
theorem guardPieces_map (opened : List Bool) (ps : List (Piece (List Char))) :
    guardPieces opened (ps.map (Piece.renamed φ (List.map φ))) =
      (guardPieces opened ps).map φ := by
  induction ps generalizing opened with
  | nil => rfl
  | cons p ps ih =>
    cases p with
    | mark code =>
      have hguard : φ guardOpen = guardOpen := hφ.other guardOpen (by decide)
      simp only [List.map_cons, Piece.renamed, guardPieces, ih, List.map_append, hguard]
    | char c =>
      have hguard : φ guardClose = guardClose := hφ.other guardClose (by decide)
      simp only [List.map_cons, Piece.renamed, guardPieces, hφ.eq_iff (d := '{') (by decide),
        hφ.eq_iff (d := '}') (by decide)]
      split
      · simp only [ih, List.map_cons]
      · split
        · cases opened with
          | nil => simp only [ih, List.map_cons]
          | cons ofSpan opened => cases ofSpan <;> simp [ih, hguard]
        · simp only [ih, List.map_cons]

end

namespace Respelling
variable (ρ : Respelling)

theorem readEscape_renamed :
    Reader.Renamed ρ.map ρ.map (readEscape ρ.before) (readEscape ρ.after) := by
  intro s
  cases s with
  | nil => rfl
  | cons c s =>
    rw [List.map_cons, readEscape, readEscape, ρ.same]
    split <;> rfl

/-- The escape character of a code and the spelling of its name. -/
theorem readCode_renamed {name : List Char} (hname : Signless name) :
    Reader.Renamed ρ.map (fun r : Char × List Char => (ρ.map r.1, r.2.map ρ.map))
      (readCode ρ.before name) (readCode ρ.after name) := by
  intro s
  refine bind_renamed (ρ.readEscape_renamed s) fun ⟨e, t⟩ => ?_
  exact bind_renamed (ρ.moves.readWord_map hname t) fun r => rfl

theorem readBare_renamed {name : List Char} (hname : Signless name) :
    Reader.Renamed ρ.map (List.map ρ.map) (readBare ρ.before name) (readBare ρ.after name) := by
  intro s
  rw [readBare, ρ.readCode_renamed hname s, readBare, Option.map_map, Option.map_map]
  rfl

theorem decodeBraces_map (s : List Char) :
    decodeBraces ρ.after (s.map ρ.map) = (decodeBraces ρ.before s).map ρ.map := by
  have hbrace (c : Char) (hc : c ∉ escapeSigns) : [c] = [c].map ρ.map :=
    congrArg List.singleton (ρ.moves.other c hc).symm
  rw [decodeBraces, (ρ.readBare_renamed (by decide)).replaceMarks_eq
    (fun _ => hbrace '{' (by decide)), (ρ.readBare_renamed (by decide)).replaceMarks_eq
    (fun _ => hbrace '}' (by decide)), decodeBraces]

theorem readSpanOpening_renamed :
    Reader.Renamed ρ.map (List.map ρ.map) (readSpanOpening ρ.before) (readSpanOpening ρ.after) := by
  intro s
  have hup : Signless ['U', 'P'] := by decide
  have hlow : Signless ['L', 'O', 'W'] := by decide
  have hcode := orElse_renamed (ρ.readCode_renamed hup s) (ρ.readCode_renamed hlow s)
  refine bind_renamed hcode fun ⟨⟨e, spelling⟩, t⟩ => ?_
  exact bind_renamed (readChar_map ρ.moves (by decide) t) fun rest => rfl

theorem guardSpans_map (s : List Char) :
    guardSpans ρ.after (s.map ρ.map) = (guardSpans ρ.before s).map ρ.map := by
  rw [guardSpans, ρ.readSpanOpening_renamed.pieces_eq, guardPieces_map ρ.moves, guardSpans]

theorem readHead_renamed :
    Reader.Renamed ρ.map (Head.respelled ρ.map) (readHead ρ.before) (readHead ρ.after) := by
  intro s
  refine bind_renamed (ρ.readEscape_renamed s) fun ⟨e, t⟩ => ?_
  refine bind_renamed (readOpcode_renamed ρ.moves t) fun ⟨⟨spelling, op⟩, u⟩ => ?_
  exact bind_renamed (readArgument_renamed ρ.moves u) fun ⟨condition, v⟩ => rfl

theorem readDirective_renamed :
    Reader.Renamed ρ.map (Directive.respelled ρ.map) (readDirective ρ.before)
      (readDirective ρ.after) := by
  intro s
  refine bind_renamed (ρ.readHead_renamed s) fun ⟨head, t⟩ => ?_
  refine bind_renamed (readSpan_renamed ρ.moves t) fun ⟨whenTrue, u⟩ => ?_
  -- a brace behind the first branch has to open a second one, and no sign is renamed to a brace
  cases u with
  | nil => rfl
  | cons c u =>
    by_cases hbrace : c = '{'
    · subst hbrace
      have hopen : ρ.map '{' = '{' := ρ.moves.other '{' (by decide)
      have hspan := readSpan_renamed ρ.moves ('{' :: u)
      simp only [renamedRead, List.map_cons, hopen] at hspan ⊢
      exact bind_renamed hspan fun ⟨whenFalse, v⟩ => rfl
    · have hopen : ρ.map c ≠ '{' := fun h => hbrace ((ρ.moves.eq_iff (by decide) c).mp h)
      simp only [renamedRead, List.map_cons]
      split
      · next heq => exact absurd (List.cons.inj heq).1 hopen
      · split
        · next heq => exact absurd (List.cons.inj heq).1 hbrace
        · rfl

end Respelling
end DialogueMarkup
