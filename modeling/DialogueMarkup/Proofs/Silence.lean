import DialogueMarkup.Proofs.Complaints
import DialogueMarkup.Proofs.Inert
import DialogueMarkup.Proofs.ReadSet

/-! A summary that reports nothing is the summary of an inert text. The readers of the scan are not
those that rewrite a text: they look for heads without branches and for names without arguments. But
each reader that rewrites begins with something that one of them looks for, so that where the scan
finds nothing there is nothing to rewrite. -/
namespace DialogueMarkup
open Text Markup

namespace Summary

/-! What the scan counts and notes. -/

theorem directiveCount_of_noteHead {m m' : Summary} {head : Head} (h : m.noteHead head = .ok m') :
    m'.directiveCount = m.directiveCount + 1 := by
  simp only [noteHead] at h
  split at h
  · cases h
    exact (noteCondition_report _ head _).1
  · cases h
  · cases h
    rfl

/-- Every head is counted, whether its condition can be read or not. -/
theorem directiveCount_of_foldlM {m m' : Summary} {heads : List Head}
    (h : heads.foldlM noteHead m = .ok m') :
    m'.directiveCount = m.directiveCount + heads.length := by
  induction heads generalizing m with
  | nil =>
    cases h
    rfl
  | cons head heads ih =>
    rw [List.foldlM_cons] at h
    obtain ⟨n, hn, hrest⟩ := bind_eq_ok h
    calc m'.directiveCount
        = n.directiveCount + heads.length := ih hrest
      _ = m.directiveCount + (head :: heads).length := by
        rw [directiveCount_of_noteHead hn, List.length_cons]
        omega

theorem foldl_note_ne_nil {α : Type} [DecidableEq α] {ys : List α} (hne : ys ≠ [])
    (xs : List α) : xs.foldl note ys ≠ [] := by
  induction xs generalizing ys with
  | nil => exact hne
  | cons x xs ih => exact ih (note_ne_nil ys x)

/-- What a scan found, read off its summary. -/
theorem marks_eq_nil_of_ofText {escape : Char} {s : List Char} {m : Summary}
    (h : ofText escape s = .ok m) :
    (m.directiveCount = 0 → marks (readHead escape) s = []) ∧
      (m.grammarCodes = [] → marks (readMention escape) s = []) ∧
      (m.braceEscapes = 0 → marks (readBraceEscape escape) s = []) := by
  simp only [ofText] at h
  obtain ⟨counted, hcounted, hm⟩ := bind_eq_ok h
  cases hm
  refine ⟨fun hzero => ?_, fun hnil => ?_, List.eq_nil_of_length_eq_zero⟩
  · have hzero : counted.directiveCount = 0 := hzero
    have hcount : counted.directiveCount = 0 + (marks (readHead escape) s).length :=
      directiveCount_of_foldlM hcounted
    apply List.eq_nil_of_length_eq_zero
    omega
  · cases hmarks : marks (readMention escape) s with
    | nil => rfl
    | cons name names =>
      rw [hmarks] at hnil
      exact absurd hnil (foldl_note_ne_nil (note_ne_nil [] name) names)

end Summary

/-! What the readers of the scan cover. -/

theorem readDirective_coveredBy (escape : Char) :
    (readDirective escape).CoveredBy (readHead escape) := by
  intro s hs
  simp [readDirective, hs]

theorem readBare_coveredBy (escape : Char) {name : List Char}
    (hname : name = ['B', 'O'] ∨ name = ['B', 'C']) :
    (readBare escape name).CoveredBy (Summary.readBraceEscape escape) := by
  intro s hs
  have hboth : readBare escape ['B', 'O'] s = none ∧ readBare escape ['B', 'C'] s = none := by
    simpa [Summary.readBraceEscape] using hs
  rcases hname with rfl | rfl
  · exact hboth.1
  · exact hboth.2

namespace Grammar

/-- The mention of a code is missed only where no number code, fold or article begins: a number code
up to its bracket is enough, and a fold whatever it folds. -/
theorem codes_of_readMention_eq_none {escape : Char} {s : List Char}
    (h : Summary.readMention escape s = none) :
    (∀ name ∈ ["NUMWORD", "ORDWORD", "ORD"], readNumberCode escape name.toList s = none) ∧
      readFold escape s = none ∧ readArticle escape s = none := by
  cases he : readEscape escape s with
  | none => simp [readNumberCode, readFold, readArticle, readCode, he]
  | some r =>
    obtain ⟨c, t⟩ := r
    simp only [Summary.readMention, he, Option.bind_eq_bind, Option.bind_some,
      Option.orElse_eq_orElse, Option.orElse_eq_or, Option.or_eq_none_iff,
      List.findSome?_eq_none_iff] at h
    obtain ⟨hnumbers, hfolds, harticle⟩ := h
    refine ⟨fun name hname => ?_, ?_, ?_⟩
    · have hnumber := hnumbers name hname
      cases hword : readWord name.toList t with
      | none => simp [readNumberCode, readCode, he, hword]
      | some r =>
        cases hbracket : readChar '[' r.2 with
        | none => simp [readNumberCode, readCode, he, hword, readArgument, hbracket]
        | some u => simp [hword, hbracket] at hnumber
    · have hup : readWord ['U', 'P'] t = none := by simpa using hfolds "UP" (by simp)
      have hlow : readWord ['L', 'O', 'W'] t = none := by simpa using hfolds "LOW" (by simp)
      simp [readFold, readCode, he, hup, hlow]
    · cases hword : readWord ['A', 'N'] t with
      | none => simp [readArticle, readCode, he, hword]
      | some r =>
        have hletter : startsWithLetter r.2 = true := by
          cases hrest : r.2 with
          | nil => simp [hword, hrest] at harticle
          | cons d u => simpa [hword, hrest, startsWithLetter] using harticle
        simp [readArticle, readCode, he, hword, hletter]

theorem codes_of_readFold_eq_none {escape : Char} {s : List Char} (h : readFold escape s = none) :
    readCode escape ['U', 'P'] s = none ∧ readCode escape ['L', 'O', 'W'] s = none := by
  unfold readFold at h
  split at h
  · cases h
  · rename_i hup
    exact ⟨hup, Option.map_eq_none_iff.mp h⟩

section
variable (escape : Char)

theorem readNumberCode_coveredBy {name : String} (hname : name ∈ ["NUMWORD", "ORDWORD", "ORD"]) :
    (readNumberCode escape name.toList).CoveredBy (Summary.readMention escape) :=
  fun _ hs => (codes_of_readMention_eq_none hs).1 name hname

theorem readFold_coveredBy : (readFold escape).CoveredBy (Summary.readMention escape) :=
  fun _ hs => (codes_of_readMention_eq_none hs).2.1

theorem readArticle_coveredBy : (readArticle escape).CoveredBy (Summary.readMention escape) :=
  fun _ hs => (codes_of_readMention_eq_none hs).2.2

/-- The opening of a case span is a fold in front of a brace. -/
theorem readSpanOpening_coveredBy : (readSpanOpening escape).CoveredBy (readFold escape) := by
  intro s hs
  obtain ⟨hup, hlow⟩ := codes_of_readFold_eq_none hs
  simp [readSpanOpening, hup, hlow]

end

end Grammar

/-- A text in which the scan finds no mention of a code has no grammar codes. -/
theorem Grammar.Written.of_marks_eq_nil {escape : Char} {s : List Char}
    (hmentions : marks (Summary.readMention escape) s = []) : Written escape s := by
  have hfolds : marks (readFold escape) s = [] :=
    (readFold_coveredBy escape).marks_eq_nil hmentions
  have harticles : marks (readArticle escape) s = [] :=
    (readArticle_coveredBy escape).marks_eq_nil hmentions
  have hnumber {name : String} (hname : name ∈ ["NUMWORD", "ORDWORD", "ORD"]) :
      marks (readNumberCode escape name.toList) s = [] :=
    (readNumberCode_coveredBy escape hname).marks_eq_nil hmentions
  exact {
    cardinals := hnumber (by simp)
    ordinalWords := hnumber (by simp)
    ordinals := hnumber (by simp)
    foldedArticles := (Reader.coveredBy_bind _ _).marks_eq_nil hfolds
    foldedSpans := (Reader.coveredBy_bind _ _).marks_eq_nil hfolds
    foldedChars := (Reader.coveredBy_bind _ _).marks_eq_nil hfolds
    articles := (Reader.coveredBy_bind _ _).marks_eq_nil harticles }

/-- A text in which the scan finds no head, no mention of a code and no brace escape is inert. -/
theorem Inert.of_marks_eq_nil {escape : Char} {s : List Char}
    (hheads : marks (readHead escape) s = [])
    (hmentions : marks (Summary.readMention escape) s = [])
    (hescapes : marks (Summary.readBraceEscape escape) s = []) : Inert escape s where
  toWritten := .of_marks_eq_nil hmentions
  directives := (readDirective_coveredBy escape).marks_eq_nil hheads
  spans := (Grammar.readSpanOpening_coveredBy escape).marks_eq_nil
    ((Grammar.readFold_coveredBy escape).marks_eq_nil hmentions)
  openings := (readBare_coveredBy escape (Or.inl rfl)).marks_eq_nil hescapes
  closings := (readBare_coveredBy escape (Or.inr rfl)).marks_eq_nil hescapes

/-- A text whose summary reports no directive, no grammar code and no brace escape is inert. -/
theorem Inert.of_ofText {escape : Char} {s : List Char} {m : Summary}
    (h : Summary.ofText escape s = .ok m) (hdirectives : m.directiveCount = 0)
    (hcodes : m.grammarCodes = []) (hbraces : m.braceEscapes = 0) : Inert escape s := by
  obtain ⟨hheads, hmentions, hescapes⟩ := Summary.marks_eq_nil_of_ofText h
  exact Inert.of_marks_eq_nil (hheads hdirectives) (hmentions hcodes) (hescapes hbraces)

/-- A text whose summary reports nothing to resolve, to write out or to decode is expanded and
displayed as it is, in every state and scope and under every ceiling; only the guards must not stand
in it. -/
theorem Engine.outcomes_of_silent (st : State) (settings : Settings) (scope : Option Scope)
    {s : List Char} {m : Summary} (h : Summary.ofText settings.escape s = .ok m)
    (hdirectives : m.directiveCount = 0) (hcodes : m.grammarCodes = [])
    (hbraces : m.braceEscapes = 0) (hopen : guardOpen ∉ s) (hclose : guardClose ∉ s) :
    (Engine.open st settings).expand scope s = .ok s ∧
      (Engine.open st settings).render scope s = .ok s := by
  have hinert : Inert settings.escape s := Inert.of_ofText h hdirectives hcodes hbraces
  exact hinert.outcomes_eq st rfl scope ⟨hopen, hclose⟩

/-- Names that go on as other words, and codes that break off, are no markup. -/
theorem Engine.outcomes_of_silent_unfinished :
    Summary.ofText '\\' "\\Andy \\OFFER[2]\x7by\x7d \\numword \x7d \\ON[1".toList = .ok {} ∧
      (Engine.open {} { maxPasses := some 0 }).expand none
          "\\Andy \\OFFER[2]\x7by\x7d \\numword \x7d \\ON[1".toList =
        .ok "\\Andy \\OFFER[2]\x7by\x7d \\numword \x7d \\ON[1".toList ∧
      (Engine.open {} { maxPasses := some 0 }).render none
          "\\Andy \\OFFER[2]\x7by\x7d \\numword \x7d \\ON[1".toList =
        .ok "\\Andy \\OFFER[2]\x7by\x7d \\numword \x7d \\ON[1".toList := by
  have hscan : Summary.ofText '\\' "\\Andy \\OFFER[2]\x7by\x7d \\numword \x7d \\ON[1".toList =
      .ok { switches := [].mergeSort (· ≤ ·), vars := [].mergeSort (· ≤ ·) } := rfl
  rw [List.mergeSort_nil] at hscan
  exact ⟨hscan, outcomes_of_silent {} { maxPasses := some 0 } none hscan rfl rfl rfl (by decide)
    (by decide)⟩

end DialogueMarkup
