import DialogueMarkup.Proofs.Settling

/-! Codes that stand apart. What follows an escape decides what the stages of the writing make of
it; when a stage is done, an escape that it passed over is followed by what the stage made of all
that followed it. -/
namespace DialogueMarkup
open Text Markup

/-- Every escape of a text is followed by what a condition asks for. -/
def Escaped (P : List Char → Prop) : List Char → Prop
  | [] => True
  | c :: s => (c = '\\' → P s) ∧ Escaped P s

instance Escaped.decidable (P : List Char → Prop) [DecidablePred P] : DecidablePred (Escaped P)
  | [] => isTrue trivial
  | c :: s =>
    have : Decidable (Escaped P s) := Escaped.decidable P s
    inferInstanceAs (Decidable ((c = '\\' → P s) ∧ Escaped P s))

/-- A text without escapes and braces. -/
def Unmarked (s : List Char) : Prop := ∀ c ∈ s, isMark c = false

/-- The braces of a text. -/
def braces (s : List Char) : List Char := s.filter fun c => !isNoBrace c

section
variable {P Q : List Char → Prop} {xs s : List Char}

theorem Unmarked.not_mem (h : Unmarked s) : '\\' ∉ s :=
  fun hmem => absurd (h _ hmem) (by decide)

theorem unmarked_of_isNumeric (h : English.isNumeric s = true) : Unmarked s := by
  intro c hc
  cases hmark : isMark c with
  | false => rfl
  | true =>
    rcases isMark_iff.mp hmark with rfl | rfl | rfl
    all_goals exact absurd hc (English.not_mem_of_isNumeric rfl h)

theorem braces_append (xs s : List Char) : braces (xs ++ s) = braces xs ++ braces s :=
  List.filter_append xs s

theorem braces_eq_nil (h : ∀ c ∈ s, isNoBrace c = true) : braces s = [] :=
  List.filter_eq_nil_iff.mpr fun c hc => by simp [h c hc]

theorem Unmarked.isNoBrace (h : Unmarked s) : ∀ c ∈ s, isNoBrace c = true := by
  intro c hc
  have hmark := h c hc
  simp only [isMark, Bool.or_eq_false_iff, Bool.not_eq_false'] at hmark
  exact hmark.2

theorem Unmarked.folded (h : Unmarked xs) (hfolded : Folded xs s) : Unmarked s := by
  intro c hc
  cases hmark : isMark c with
  | false => rfl
  | true => exact hmark.symm.trans (h c (hfolded.mem_of_isMark hmark hc))

theorem Escaped.and (h : Escaped P s) (h' : Escaped Q s) : Escaped (fun v => P v ∧ Q v) s := by
  induction s with
  | nil => trivial
  | cons c s ih => exact ⟨fun hc => ⟨h.1 hc, h'.1 hc⟩, ih h.2 h'.2⟩

theorem Escaped.mono (h : Escaped P s) (hPQ : ∀ v, P v → Q v) : Escaped Q s := by
  induction s with
  | nil => trivial
  | cons c s ih => exact ⟨fun hc => hPQ s (h.1 hc), ih h.2⟩

theorem Escaped.right (h : Escaped P (xs ++ s)) : Escaped P s := by
  induction xs with
  | nil => exact h
  | cons c xs ih => exact ih h.2

theorem Escaped.append (hxs : '\\' ∉ xs) (h : Escaped P s) : Escaped P (xs ++ s) := by
  induction xs with
  | nil => exact h
  | cons c xs ih =>
    simp only [List.mem_cons, not_or] at hxs
    exact ⟨fun hc => absurd hc.symm hxs.1, ih hxs.2⟩

end

namespace Grammar

/-! What may follow an escape. -/

/-- The names of the codes that stand for braces and articles. -/
def bareNames : List (List Char) := [['B', 'O'], ['B', 'C'], ['A', 'N']]

/-- The names of the folds. -/
def foldNames : List (List Char) := [['U', 'P'], ['L', 'O', 'W']]

/-- The names of the number codes. -/
def numberNames : List (List Char) := ["NUMWORD".toList, "ORDWORD".toList, "ORD".toList]

/-- The names of all codes. -/
def codeNames : List (List Char) := bareNames ++ (foldNames ++ numberNames)

/-- One of some names, in any case, with the rest of the text behind it. -/
def spells (names : List (List Char)) (next : List Char → Bool) (v : List Char) : Bool :=
  names.any fun name => (readWord name v).any fun r => next r.2

/-- The end of the text, or a character of ASCII that no name begins with. -/
def startsOther : List Char → Bool
  | [] => true
  | c :: _ => decide (c.toNat < 128) && !isMark c && codeNames.all fun name => clash name [c]

/-- What no stage before the articles takes for a code. -/
def bare (v : List Char) : Bool := startsOther v || spells bareNames (fun _ => true) v

/-- An argument in brackets: not blank, and without escapes and braces. -/
def clear (v : List Char) : Bool :=
  (readArgument v).any fun r => !(trim r.1).isEmpty && r.1.all fun c => !isMark c

/-- A code that is no fold; `names` are those of the number codes that there may be. -/
def simple (names : List (List Char)) (v : List Char) : Bool := bare v || spells names clear v

/-- What a fold may stand in front of: the end of the text, a code that is no fold, or a character
other than a closing brace. -/
def follows (names : List (List Char)) : List Char → Bool
  | [] => true
  | c :: s => if c = '\\' then simple names s else c != '\x7d'

/-- A code that no stage before its own one changes, nor any that comes later. -/
def apart (names : List (List Char)) (v : List Char) : Bool :=
  simple names v || spells foldNames (follows names) v

/-- A text whose codes all stand apart. -/
def Apart (names : List (List Char)) : List Char → Prop := Escaped fun v => apart names v = true

instance (names : List (List Char)) : DecidablePred (Apart names) :=
  inferInstanceAs (DecidablePred (Escaped fun v => apart names v = true))

section
variable {names : List (List Char)} {next : List Char → Bool} {v : List Char}

theorem spells_iff : spells names next v = true ↔ ∃ name ∈ names, ∃ spelling : Spelling name,
    ∃ rest, v = spelling.letters ++ rest ∧ next rest = true := by
  simp only [spells, List.any_eq_true, Option.any_eq_true]
  constructor
  · rintro ⟨name, hname, ⟨letters, rest⟩, hr, hnext⟩
    obtain ⟨spelling, rfl⟩ := exists_spelling_of_readWord hr
    exact ⟨name, hname, spelling, rest, (readWord_eq_some hr).1, hnext⟩
  · rintro ⟨name, hname, spelling, rest, rfl, hnext⟩
    exact ⟨name, hname, (spelling.letters, rest), readWord_spelling spelling rest, hnext⟩

theorem bare_iff :
    bare v = true ↔ startsOther v = true ∨ spells bareNames (fun _ => true) v = true :=
  Bool.or_eq_true_iff

theorem simple_iff : simple names v = true ↔ bare v = true ∨ spells names clear v = true :=
  Bool.or_eq_true_iff

theorem apart_iff :
    apart names v = true ↔ simple names v = true ∨ spells foldNames (follows names) v = true :=
  Bool.or_eq_true_iff

theorem follows_iff : follows names v = true ↔
    v = [] ∨ (∃ s, v = '\\' :: s ∧ simple names s = true) ∨
      ∃ c s, v = c :: s ∧ c ≠ '\\' ∧ c ≠ '\x7d' := by
  match v with
  | [] => simp [follows]
  | c :: s =>
    by_cases hc : c = '\\'
    · simp [follows, hc]
    · simp [follows, hc]

theorem clear_iff : clear v = true ↔ ∃ argument rest, readArgument v = some (argument, rest) ∧
    trim argument ≠ [] ∧ Unmarked argument := by
  simp [clear, Option.any_eq_true, Unmarked]

theorem startsOther_cons {c : Char} {s : List Char} : startsOther (c :: s) = true ↔
    c.toNat < 128 ∧ isMark c = false ∧ ∀ name ∈ codeNames, clash name [c] = true := by
  simp [startsOther, and_assoc]

end

/-- No name of a code holds an escape or a brace, in any spelling. -/
theorem unmarked_letters {name : List Char} (hname : name ∈ codeNames) (spelling : Spelling name) :
    Unmarked spelling.letters := by
  intro c hc
  have hnames : ∀ w ∈ codeNames.flatten, isMark w = false := forall_mem_of_all (by decide)
  have hkey : caseKey c ∈ name.map caseKey := spelling.spells ▸ List.mem_map_of_mem hc
  obtain ⟨w, hw, hwc⟩ := List.mem_map.mp hkey
  cases hmark : isMark c with
  | false => rfl
  | true =>
    have hsame : sameLetter c w = true := beq_iff_eq.mpr hwc.symm
    obtain rfl := (caseless_of_isMark hmark).alone w hsame
    exact hmark.symm.trans (hnames w (List.mem_flatten.mpr ⟨name, hname, hw⟩))

/-! Readers at an escape. -/

section
variable {name v rest : List Char} {names : List (List Char)} {next : List Char → Bool}

theorem readCode_spelling (spelling : Spelling name) (rest : List Char) :
    readCode '\\' name ('\\' :: (spelling.letters ++ rest)) =
      some (('\\', spelling.letters), rest) :=
  readCode_of_spelling rfl spelling rest

theorem readCode_of_readWord (h : readWord name v = none) :
    readCode '\\' name ('\\' :: v) = none := by
  simp [readCode, readEscape, h]

theorem readCode_of_startsOther (h : startsOther v = true) (hname : name ∈ codeNames) :
    readCode '\\' name ('\\' :: v) = none := by
  apply readCode_of_readWord
  match v with
  | [] =>
    have hnames : ∀ other ∈ codeNames, readWord other [] = none := by decide
    exact hnames name hname
  | c :: s => exact readWord_of_clash (.plain [c]) ((startsOther_cons.mp h).2.2 name hname) s

/-- A code is not read by a name that clashes with its own one. -/
theorem readCode_of_spells (h : spells names next v = true)
    (hclash : ∀ other ∈ names, clash name other = true) :
    readCode '\\' name ('\\' :: v) = none := by
  obtain ⟨other, hother, spelling, rest, rfl, -⟩ := spells_iff.mp h
  exact readCode_of_readWord (readWord_of_clash spelling (hclash other hother) rest)

/-- A number code is not read by a longer name: its own one ends at the bracket. -/
theorem readCode_of_clash_bracket {other : List Char} (spelling : Spelling other)
    (h : clash name (other ++ ['[']) = true) (argument rest : List Char) :
    readCode '\\' name ('\\' :: (spelling.letters ++ (argumentSource argument ++ rest))) = none := by
  -- the bracket is read as one more letter, at which the longer name breaks off
  have hbracket : (spelling.letters ++ ['[']).map caseKey = (other ++ ['[']).map caseKey := by
    simp [spelling.spells]
  have hread := readWord_of_clash ⟨spelling.letters ++ ['['], hbracket⟩ h
    (argument ++ ']' :: rest)
  apply readCode_of_readWord
  simpa [argumentSource] using hread

theorem readCode_of_spells_clear (h : spells names clear v = true)
    (hclash : ∀ other ∈ names, clash name (other ++ ['[']) = true) :
    readCode '\\' name ('\\' :: v) = none := by
  obtain ⟨other, hother, spelling, rest, rfl, hclear⟩ := spells_iff.mp h
  obtain ⟨argument, after, hargument, -⟩ := clear_iff.mp hclear
  rw [readArgument_eq_some hargument]
  exact readCode_of_clash_bracket spelling (hclash other hother) argument after

theorem readCode_of_bare (h : bare v = true) (hname : name ∈ foldNames ++ numberNames) :
    readCode '\\' name ('\\' :: v) = none := by
  rcases bare_iff.mp h with hother | hspells
  · exact readCode_of_startsOther hother (List.mem_append_right bareNames hname)
  · have hclash : ∀ name ∈ foldNames ++ numberNames, ∀ other ∈ bareNames,
        clash name other = true := by decide
    exact readCode_of_spells hspells (hclash name hname)

theorem readFold_of_bare (h : bare v = true) : readFold '\\' ('\\' :: v) = none := by
  have hup : readCode '\\' ['U', 'P'] ('\\' :: v) = none := readCode_of_bare h (by decide)
  have hlow : readCode '\\' ['L', 'O', 'W'] ('\\' :: v) = none := readCode_of_bare h (by decide)
  simp [readFold, hup, hlow]

theorem readFold_spelling (hname : name ∈ foldNames) (spelling : Spelling name) (rest : List Char) :
    ∃ fold, readFold '\\' ('\\' :: (spelling.letters ++ rest)) = some (fold, rest) := by
  have hread := readCode_spelling spelling rest
  simp only [foldNames, List.mem_cons, List.not_mem_nil, or_false] at hname
  rcases hname with rfl | rfl
  · exact ⟨.up, by simp [readFold, hread]⟩
  · have hup : readCode '\\' ['U', 'P'] ('\\' :: (spelling.letters ++ rest)) = none :=
      readCode_of_readWord (readWord_of_clash spelling (by decide) rest)
    exact ⟨.low, by simp [readFold, hread, hup]⟩

theorem simple_nil : simple [] v = bare v := by simp [simple, spells]

end

/-! Stages at an escape. -/

section
variable {α : Type} {read : Reader α} {write : α → Except NumeralFault (List Char)}
  (h : Pays read write)
include h

theorem Pays.eq_none_of_ne {c : Char} (hc : c ≠ '\\') (s : List Char) : read (c :: s) = none := by
  cases hr : read (c :: s) with
  | none => rfl
  | some r =>
    obtain ⟨code, hcode, -⟩ := h.code _ _ _ hr
    cases hcode
    exact absurd rfl hc

/-- A text has no marks if and only if none begins at an escape. -/
theorem Pays.marks_eq_nil_iff {s : List Char} :
    marks read s = [] ↔ Escaped (fun v => read ('\\' :: v) = none) s := by
  induction s with
  | nil => exact iff_of_true rfl trivial
  | cons c s ih =>
    constructor
    · intro hs
      refine ⟨?_, ih.mp (marks_eq_nil_of_append h.consumes [c] hs)⟩
      rintro rfl
      exact read_eq_none_of_marks h.consumes hs
    · intro hs
      have hr : read (c :: s) = none := by
        by_cases hc : c = '\\'
        · subst hc
          exact hs.1 rfl
        · exact h.eq_none_of_ne hc s
      rw [marks_cons_of_none hr, ih.mpr hs.2]

/-- A stage leaves characters that are no escapes as they are. -/
theorem Pays.replaceMarksM_append {xs s t : List Char} (hxs : '\\' ∉ xs)
    (ht : replaceMarksM read write (xs ++ s) = .ok t) :
    ∃ u, replaceMarksM read write s = .ok u ∧ t = xs ++ u := by
  induction xs generalizing t with
  | nil => exact ⟨t, ht, rfl⟩
  | cons c xs ih =>
    simp only [List.mem_cons, not_or] at hxs
    obtain ⟨u, hu, rfl⟩ := replaceMarksM_cons_eq_ok (h.eq_none_of_ne (Ne.symm hxs.1) _) ht
    obtain ⟨w, hw, rfl⟩ := ih hxs.2 hu
    exact ⟨w, hw, rfl⟩

/-- What follows the escapes after a stage: `keep` is for an escape that stays, `put` for what is
written in the place of a mark. -/
theorem Pays.escaped {P Q : List Char → Prop} {s t : List Char} (hs : Escaped P s)
    (ht : replaceMarksM read write s = .ok t)
    (keep : ∀ v w, Escaped P ('\\' :: v) → read ('\\' :: v) = none →
      replaceMarksM read write v = .ok w → Q w)
    (put : ∀ v a rest part u, Escaped P ('\\' :: v) → read ('\\' :: v) = some (a, rest) →
      write a = .ok part → replaceMarksM read write rest = .ok u → Escaped Q u →
      Escaped Q (part ++ u)) : Escaped Q t := by
  induction s using h.consumes.induction generalizing t with
  | nil =>
    cases ht
    trivial
  | char c s hr ih =>
    obtain ⟨u, hu, rfl⟩ := replaceMarksM_cons_eq_ok hr ht
    refine ⟨?_, ih hs.2 hu⟩
    rintro rfl
    exact keep s u hs hr hu
  | mark s a rest hr ih =>
    obtain ⟨part, u, ha, hu, rfl⟩ := replaceMarksM_mark_eq_ok h.consumes hr ht
    obtain ⟨code, rfl, -⟩ := h.code s a rest hr
    -- the code stands between the escape and the rest, which keeps its own escapes
    have hrest : Escaped P rest := hs.2.right
    exact put (code ++ rest) a rest part u hs hr ha hu (ih hrest hu)

/-- A stage keeps the braces of a text if it does so at every mark. -/
theorem Pays.braces_eq {P : List Char → Prop} {s t : List Char} (hs : Escaped P s)
    (ht : replaceMarksM read write s = .ok t)
    (hmark : ∀ code a rest part, P (code ++ rest) →
      read ('\\' :: (code ++ rest)) = some (a, rest) → write a = .ok part →
      braces part = braces code) : braces t = braces s := by
  induction s using h.consumes.induction generalizing t with
  | nil =>
    cases ht
    rfl
  | char c s hr ih =>
    obtain ⟨u, hu, rfl⟩ := replaceMarksM_cons_eq_ok hr ht
    have hcut : ∀ s, braces (c :: s) = braces [c] ++ braces s := braces_append [c]
    rw [hcut u, hcut s, ih hs.2 hu]
  | mark s a rest hr ih =>
    obtain ⟨part, u, ha, hu, rfl⟩ := replaceMarksM_mark_eq_ok h.consumes hr ht
    obtain ⟨code, rfl, -⟩ := h.code s a rest hr
    have hrest : Escaped P rest := hs.2.right
    have hcode := hmark code a rest part (hs.1 rfl) hr ha
    have hescape : braces ('\\' :: (code ++ rest)) = braces (code ++ rest) := rfl
    rw [hescape, braces_append, braces_append, hcode, ih hrest hu]

variable {names : List (List Char)} {v w : List Char}

/-- A code that a stage passes over stays, and the stage goes on behind it. -/
theorem Pays.spells {next next' : List Char → Bool} (hnames : names ⊆ codeNames)
    (hv : spells names next v = true) (hw : replaceMarksM read write v = .ok w)
    (hnext : ∀ rest u, rest <:+ v → next rest = true → replaceMarksM read write rest = .ok u →
      next' u = true) : Grammar.spells names next' w = true := by
  obtain ⟨name, hname, spelling, rest, rfl, hrest⟩ := spells_iff.mp hv
  have hletters := (unmarked_letters (hnames hname) spelling).not_mem
  obtain ⟨u, hu, rfl⟩ := h.replaceMarksM_append hletters hw
  exact spells_iff.mpr ⟨name, hname, spelling, u, rfl,
    hnext rest u (List.suffix_append _ rest) hrest hu⟩

theorem Pays.startsOther (hv : startsOther v = true) (hw : replaceMarksM read write v = .ok w) :
    Grammar.startsOther w = true := by
  match v with
  | [] =>
    cases hw
    rfl
  | c :: s =>
    have hc : '\\' ∉ [c] := by
      rw [List.mem_singleton]
      rintro rfl
      exact absurd (startsOther_cons.mp hv).2.1 (by decide)
    obtain ⟨u, -, rfl⟩ := h.replaceMarksM_append hc hw
    exact startsOther_cons.mpr (startsOther_cons.mp hv)

theorem Pays.bare (hv : bare v = true) (hw : replaceMarksM read write v = .ok w) :
    Grammar.bare w = true := by
  rcases bare_iff.mp hv with hother | hspells
  · exact bare_iff.mpr (.inl (h.startsOther hother hw))
  · exact bare_iff.mpr (.inr (h.spells (by decide) hspells hw fun _ _ _ _ _ => rfl))

theorem Pays.clear (hv : clear v = true) (hw : replaceMarksM read write v = .ok w) :
    Grammar.clear w = true := by
  obtain ⟨argument, rest, hargument, hblank, hunmarked⟩ := clear_iff.mp hv
  obtain rfl := readArgument_eq_some hargument
  have hsource : '\\' ∉ argumentSource argument := by
    simp [argumentSource, hunmarked.not_mem]
  obtain ⟨u, -, rfl⟩ := h.replaceMarksM_append hsource hw
  have hread := readArgument_argumentSource (not_mem_of_readArgument hargument) u
  exact clear_iff.mpr ⟨argument, u, hread, hblank, hunmarked⟩

theorem Pays.simple (hnames : names ⊆ codeNames) (hv : simple names v = true)
    (hw : replaceMarksM read write v = .ok w) : Grammar.simple names w = true := by
  rcases simple_iff.mp hv with hbare | hspells
  · exact simple_iff.mpr (.inl (h.bare hbare hw))
  · exact simple_iff.mpr (.inr (h.spells hnames hspells hw fun _ _ _ => h.clear))

/-- A stage leaves the codes of a text apart. It passes over those that are no folds or writes a
text in their place that is not empty and holds neither escapes nor braces; what it writes in the
place of a fold is `hfold`. -/
theorem Pays.apart {later : List (List Char)} (hlater : later ⊆ codeNames)
    (hsimple : ∀ v, Grammar.simple names v = true →
      read ('\\' :: v) = none ∧ Grammar.simple later v = true ∨
      ∃ a rest, read ('\\' :: v) = some (a, rest) ∧
        ∀ part, write a = .ok part → part ≠ [] ∧ Unmarked part)
    (hfold : ∀ v a rest part u, Grammar.spells foldNames (follows names) v = true →
      Apart names ('\\' :: v) → read ('\\' :: v) = some (a, rest) → write a = .ok part →
      Apart later u → Apart later (part ++ u))
    {s t : List Char} (hs : Apart names s) (ht : replaceMarksM read write s = .ok t) :
    Apart later t := by
  -- a fold that stays has what is left of the code, or what was written for it, behind it
  have hfollows : ∀ v w, follows names v = true → replaceMarksM read write v = .ok w →
      follows later w = true := by
    intro v w hv hw
    rw [follows_iff] at hv ⊢
    rcases hv with rfl | ⟨s, rfl, hs⟩ | ⟨c, s, rfl, hc, hclose⟩
    · cases hw
      exact .inl rfl
    · rcases hsimple s hs with ⟨hr, hs⟩ | ⟨a, rest, hr, hpart⟩
      · obtain ⟨u, hu, rfl⟩ := replaceMarksM_cons_eq_ok hr hw
        exact .inr (.inl ⟨u, rfl, h.simple hlater hs hu⟩)
      · obtain ⟨part, u, ha, -, rfl⟩ := replaceMarksM_mark_eq_ok h.consumes hr hw
        obtain ⟨hne, hunmarked⟩ := hpart part ha
        obtain ⟨c, part, rfl⟩ := List.exists_cons_of_ne_nil hne
        have hc := hunmarked c List.mem_cons_self
        refine .inr (.inr ⟨c, part ++ u, rfl, ?_, ?_⟩)
        all_goals
          rintro rfl
          exact absurd hc (by decide)
    · obtain ⟨u, -, rfl⟩ := replaceMarksM_cons_eq_ok (h.eq_none_of_ne hc s) hw
      exact .inr (.inr ⟨c, u, rfl, hc, hclose⟩)
  refine h.escaped hs ht (fun v w hv hr hw => ?_) fun v a rest part u hv hr ha _ hu => ?_
  · rcases apart_iff.mp (hv.1 rfl) with hv | hv
    · rcases hsimple v hv with ⟨-, hv⟩ | ⟨a, rest, hsome, -⟩
      · exact apart_iff.mpr (.inl (h.simple hlater hv hw))
      · rw [hr] at hsome
        cases hsome
    · exact apart_iff.mpr (.inr (h.spells (by decide) hv hw fun rest u _ => hfollows rest u))
  · rcases apart_iff.mp (hv.1 rfl) with hsimple' | hspells
    · rcases hsimple v hsimple' with ⟨hnone, -⟩ | ⟨a', rest', hsome, hpart⟩
      · rw [hr] at hnone
        cases hnone
      · obtain ⟨rfl, rfl⟩ := Prod.mk.inj (Option.some.inj (hr.symm.trans hsome))
        exact Escaped.append (hpart part ha).2.not_mem hu
    · exact hfold v a rest part u hspells hv hr ha hu

end

end Grammar
end DialogueMarkup
