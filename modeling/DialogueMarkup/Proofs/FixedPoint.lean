import DialogueMarkup.Proofs.Guards

/-! What a second expansion makes of the result of a first. The passes end at a text without
directives, but the result is that text without its guards, and a second expansion guards it anew:
it changes the result if directives come up under the new guards, and only then. They do not when
the passes brought no case span together. -/
namespace DialogueMarkup
open Text Markup

namespace Markup

namespace Directive

/-- A directive as it is written up to its branches. -/
def opening (d : Directive) : List Char :=
  d.escape :: (d.spelling ++ argumentSource d.condition)

/-- A directive as it is read: its code is spelled in some case, and its branches hold no brace. -/
structure ReadWith (escape : Char) (d : Directive) : Prop where
  same : sameLetter escape d.escape = true
  spelled : ∃ spelling : Spelling d.opcode.name, d.spelling = spelling.letters
  whenTrue : ∀ c ∈ d.whenTrue, isNoBrace c = true
  whenFalse : ∀ span, d.whenFalse? = some span → ∀ c ∈ span, isNoBrace c = true

/-- A directive is its opening and one span or two. -/
theorem source_eq (d : Directive) :
    d.whenFalse? = none ∧ d.source = d.opening ++ spanSource d.whenTrue ∨
      ∃ span, d.whenFalse? = some span ∧
        d.source = d.opening ++ (spanSource d.whenTrue ++ spanSource span) := by
  cases hf : d.whenFalse? with
  | none =>
    left
    exact ⟨rfl, by simp [source, opening, hf]⟩
  | some span =>
    right
    exact ⟨span, rfl, by simp [source, opening, hf]⟩

end Directive

section
variable {escape : Char} {s rest : List Char} {d : Directive}

theorem readWith_of_readDirective (h : readDirective escape s = some (d, rest)) :
    d.ReadWith escape := by
  obtain ⟨t, u, hhead, htrue, hbranch⟩ := readDirective_cases h
  obtain ⟨v, w, hescape, hopcode, -⟩ := readHead_cases hhead
  refine ⟨same_of_readEscape hescape, ?_, isNoBrace_of_readSpan htrue, ?_⟩
  · obtain ⟨op, -, hop⟩ := List.exists_of_findSome?_eq_some hopcode
    obtain ⟨r, hr, heq⟩ := Option.map_eq_some_iff.mp hop
    simp only [Prod.mk.injEq] at heq
    obtain ⟨⟨hletters, hop⟩, -⟩ := heq
    subst hop
    have hspelling : d.spelling = r.1 := hletters.symm
    rw [hspelling]
    exact exists_spelling_of_readWord hr
  · intro span hspan
    rcases hbranch with ⟨hnone, -⟩ | ⟨branch, hsome, hfalse⟩
    · rw [hnone] at hspan
      cases hspan
    · obtain rfl := Option.some.inj (hsome.symm.trans hspan)
      exact isNoBrace_of_readSpan hfalse

namespace Directive.ReadWith

theorem opening_not_mem_bounds (h : d.ReadWith escape) (hescape : escape ∉ bounds)
    (hcondition : ∀ c ∈ d.condition, c ∉ bounds) : ∀ c ∈ d.opening, c ∉ bounds := by
  obtain ⟨spelling, hspelling⟩ := h.spelled
  have hcapitals : ∀ w ∈ d.opcode.name, w ∈ capitals := by
    cases d.opcode <;> exact forall_mem_of_all (by decide)
  intro c hc
  simp only [opening, argumentSource, List.mem_cons, List.mem_append, List.not_mem_nil,
    or_false] at hc
  rcases hc with rfl | hc | rfl | hc | rfl
  · exact not_mem_bounds_of_sameLetter hescape h.same
  · rw [hspelling] at hc
    exact not_mem_bounds_of_isLatinLetter (isLatinLetter_of_mem_spelling spelling hcapitals hc)
  · decide
  · exact hcondition c hc
  · decide

/-- A directive leaves open what was open, and so does each of its branches. -/
theorem stillOpen_source (hread : d.ReadWith escape) (hopening : ∀ c ∈ d.opening, c ∉ bounds)
    {opened after : List Bool} (hopen : stillOpen opened d.source = some after) :
    after = opened ∧ ∀ holds below, stillOpen below (d.branch holds) = some below := by
  rcases d.source_eq with ⟨hnone, hsource⟩ | ⟨span, hsome, hsource⟩
  · rw [hsource, stillOpen_append, stillOpen_of_not_mem_bounds opened hopening,
      Option.bind_some] at hopen
    obtain ⟨hafter, htrue⟩ := stillOpen_spanSource hread.whenTrue hopen
    refine ⟨hafter, fun holds below => ?_⟩
    cases holds with
    | true => exact htrue below
    | false => simp [branch, hnone]
  · rw [hsource, stillOpen_append, stillOpen_of_not_mem_bounds opened hopening, Option.bind_some,
      stillOpen_append] at hopen
    obtain ⟨middle, hmiddle, hlast⟩ := Option.bind_eq_some_iff.mp hopen
    obtain ⟨rfl, htrue⟩ := stillOpen_spanSource hread.whenTrue hmiddle
    obtain ⟨hafter, hfalse⟩ := stillOpen_spanSource (hread.whenFalse span hsome) hlast
    refine ⟨hafter, fun holds below => ?_⟩
    cases holds with
    | true => exact htrue below
    | false => simpa [branch, hsome] using hfalse below

end Directive.ReadWith

/-- What stands behind, in a branch of and before a directive has its codes to itself. -/
theorem Coded.of_source (hescape : escape ∉ bounds) {before : List Char}
    (h : Coded escape (before ++ (d.source ++ rest))) :
    Coded escape before ∧ (∀ holds, Coded escape (d.branch holds)) ∧ Coded escape rest := by
  have hopen : '{' ∈ bounds := by simp [bounds]
  have hclose : '}' ∈ bounds := by simp [bounds]
  refine ⟨h.left, ?_⟩
  rcases d.source_eq with ⟨hnone, hsource⟩ | ⟨span, hsome, hsource⟩
  · have htrue : Coded escape (d.whenTrue ++ '}' :: rest) := by
      apply Coded.right (s := before ++ d.opening) hescape hopen
      simpa [hsource, spanSource] using h
    refine ⟨?_, htrue.right hescape hclose⟩
    rintro (_ | _)
    · simpa [Directive.branch, hnone] using coded_of_not_mem List.not_mem_nil
    · exact htrue.left
  · have htrue : Coded escape (d.whenTrue ++ '}' :: (spanSource span ++ rest)) := by
      apply Coded.right (s := before ++ d.opening) hescape hopen
      simpa [hsource, spanSource] using h
    have hfalse : Coded escape (span ++ '}' :: rest) := by
      apply Coded.right (s := d.whenTrue ++ ['}']) hescape hopen
      simpa [spanSource] using htrue
    refine ⟨?_, hfalse.right hescape hclose⟩
    rintro (_ | _)
    · simpa [Directive.branch, hsome] using hfalse.left
    · exact htrue.left

end

end Markup

namespace Expansion

/-- A condition that is decided holds neither brace nor guard, if the names in the state hold
none. -/
theorem not_mem_bounds_of_decide {st : State} {current : Scope} {h : Head} {holds : Bool}
    (hnames : ∀ name ∈ st.names, ∀ c ∈ name, c ∉ bounds)
    (hdecide : h.decide st current = .ok holds) : ∀ c ∈ h.condition, c ∉ bounds := by
  have hparse := Condition.parse_readFrom h.opcode h.condition
  rw [Head.decide] at hdecide
  cases hc : Condition.parse h.opcode h.condition with
  | error fault =>
    rw [hc] at hdecide
    cases hdecide
  | ok condition =>
    rw [hc] at hparse hdecide
    have hfound : Ends (fun _ => ∀ name ∈ condition.names, name ∈ st.names)
        (Fault.OfReference st condition.refs) (condition.holds st current) :=
      Condition.holds_ends hparse.normal current
    have hholds : condition.holds st current = .ok holds := hdecide
    rw [hholds] at hfound
    intro c hmem
    rcases hparse.written c hmem with hordinary | ⟨name, hname, hin⟩
    · exact not_mem_bounds_of_isOrdinary hordinary
    · exact hnames name (hfound name hname) c hin

section
variable (st : State) (current : Scope) (escape : Char)

/-- The passes over a guarded text come to an end, without a fault, in another. -/
inductive Settles : List Char → List Char → Prop
  | done {s} (h : pass? st current escape s = none) : Settles s s
  | step {s t u} (h : pass? st current escape s = some (.ok t)) (rest : Settles t u) : Settles s u

end

section
variable {st : State} {current : Scope} {escape : Char} {s t u r : List Char}

theorem exists_settles_of_passes {k : Nat} {o : Except Fault (List Char)}
    (h : Passes st current escape k s o) (ho : o = .ok r) :
    ∃ u, Settles st current escape s u ∧ r = restoreSpans u := by
  induction h with
  | done h =>
    cases ho
    exact ⟨_, .done h, rfl⟩
  | fault h => cases ho
  | step h _ ih =>
    obtain ⟨u, hu, hr⟩ := ih ho
    exact ⟨u, .step h hu, hr⟩

/-- A text comes to one end only. -/
theorem Settles.eq (hu : Settles st current escape s u) (ht : Settles st current escape s t) :
    u = t := by
  induction hu with
  | done h =>
    cases ht with
    | done _ => rfl
    | step h' _ =>
      rw [h] at h'
      cases h'
  | step h _ ih =>
    cases ht with
    | done h' =>
      rw [h] at h'
      cases h'
    | step h' rest =>
      rw [h] at h'
      cases h'
      exact ih rest

theorem exists_settles (h : directives st current escape none s = .ok r) :
    ∃ u, Settles st current escape (guardSpans escape s) u ∧ r = restoreSpans u := by
  obtain ⟨k, o, hpasses⟩ := exists_passes st current escape (guardSpans escape s)
  exact exists_settles_of_passes hpasses (hpasses.directives_eq.symm.trans h)

theorem pass_eq_none_iff :
    pass? st current escape s = none ↔ marks (readDirective escape) s = [] := by
  unfold pass?
  split
  · rename_i hempty
    simpa using hempty
  · rename_i hsome
    simpa using hsome

theorem Settles.marks_eq_nil (h : Settles st current escape s u) :
    marks (readDirective escape) u = [] := by
  induction h with
  | done h => exact pass_eq_none_iff.mp h
  | step _ _ ih => exact ih

/-- Passes shorten a text for every directive that they find in it. -/
theorem Settles.length_le (h : Settles st current escape s u) :
    u.length + 7 * (marks (readDirective escape) s).length ≤ s.length := by
  induction h with
  | done h => simp [pass_eq_none_iff.mp h]
  | step h _ ih =>
    have hlen := length_of_pass h
    omega

/-- A text without guards is its own expansion if and only if it holds no directive under its
guards. -/
theorem directives_eq_self_iff (hs : ∀ c ∈ s, c ≠ guardOpen ∧ c ≠ guardClose) :
    directives st current escape none s = .ok s ↔
      marks (readDirective escape) (guardSpans escape s) = [] := by
  constructor
  · intro h
    obtain ⟨u, hu, hrestored⟩ := exists_settles h
    have hlen := hu.length_le
    have hsame : s.length = u.length := by
      rw [hrestored]
      exact List.length_map _
    rw [length_guardSpans] at hlen
    exact List.length_eq_zero_iff.mp (by omega)
  · intro h
    have hpass : pass? st current escape (guardSpans escape s) = none := pass_eq_none_iff.mpr h
    rw [(Passes.done hpass).directives_eq]
    exact congrArg Except.ok (restoreSpans_guardFrom [] hs)

/-- The branch that takes the place of a directive is one of a condition that is decided. -/
theorem exists_branch_of_choose {d : Directive} {part : List Char}
    (hnames : ∀ name ∈ st.names, ∀ c ∈ name, c ∉ bounds)
    (h : choose st current d = .ok part) :
    (∀ c ∈ d.condition, c ∉ bounds) ∧ ∃ holds, part = d.branch holds := by
  rw [choose_eq] at h
  obtain ⟨holds, hdecide, rfl⟩ := map_eq_ok h
  exact ⟨not_mem_bounds_of_decide hnames hdecide, holds, rfl⟩

section
variable (hescape : escape ∉ bounds) (hnames : ∀ name ∈ st.names, ∀ c ∈ name, c ∉ bounds)
include hescape hnames

theorem stillOpen_of_replaceMarksM {opened after : List Bool}
    (ht : replaceMarksM (readDirective escape) (choose st current) s = .ok t)
    (h : stillOpen opened s = some after) : stillOpen opened t = some after := by
  induction s using (readDirective_consumes escape).induction generalizing t opened with
  | nil =>
    cases ht
    exact h
  | char c s hr ih =>
    obtain ⟨u, hu, rfl⟩ := replaceMarksM_cons_eq_ok hr ht
    obtain ⟨opened', hmeet, hrest⟩ := Option.bind_eq_some_iff.mp h
    rw [stillOpen_cons, hmeet]
    exact ih hu hrest
  | mark s d rest hr ih =>
    obtain ⟨part, u, hpart, hu, rfl⟩ :=
      replaceMarksM_mark_eq_ok (readDirective_consumes escape) hr ht
    obtain ⟨hcondition, holds, rfl⟩ := exists_branch_of_choose hnames hpart
    obtain rfl := readDirective_eq_some hr
    have hread := readWith_of_readDirective hr
    rw [stillOpen_append] at h
    obtain ⟨middle, hmiddle, hrest⟩ := Option.bind_eq_some_iff.mp h
    obtain ⟨rfl, hbranch⟩ :=
      hread.stillOpen_source (hread.opening_not_mem_bounds hescape hcondition) hmiddle
    rw [stillOpen_append, hbranch holds middle]
    exact ih hu hrest

theorem coded_of_replaceMarksM (before : List Char)
    (ht : replaceMarksM (readDirective escape) (choose st current) s = .ok t)
    (h : Coded escape (before ++ s)) : Coded escape (before ++ t) := by
  induction s using (readDirective_consumes escape).induction generalizing t before with
  | nil =>
    cases ht
    exact h
  | char c s hr ih =>
    obtain ⟨u, hu, rfl⟩ := replaceMarksM_cons_eq_ok hr ht
    have hmore := ih (before ++ [c]) hu (by simpa using h)
    simpa using hmore
  | mark s d rest hr ih =>
    obtain ⟨part, u, hpart, hu, rfl⟩ :=
      replaceMarksM_mark_eq_ok (readDirective_consumes escape) hr ht
    obtain ⟨-, holds, rfl⟩ := exists_branch_of_choose hnames hpart
    obtain rfl := readDirective_eq_some hr
    obtain ⟨hbefore, hbranch, hrest⟩ := h.of_source hescape
    exact hbefore.append ((hbranch holds).append (ih [] hu hrest))

/-- The passes keep braces and guards nested and every guard behind its code. -/
theorem Settles.guarded (h : Settles st current escape s u) {opened after : List Bool}
    (hopen : stillOpen opened s = some after) (hcoded : Coded escape s) :
    stillOpen opened u = some after ∧ Coded escape u := by
  induction h with
  | done h => exact ⟨hopen, hcoded⟩
  | step h _ ih =>
    have hpass := pass_eq_some h
    exact ih (stillOpen_of_replaceMarksM hescape hnames hpass hopen)
      (coded_of_replaceMarksM hescape hnames [] hpass hcoded)

/-- If the passes brought no case span together, guarding the result gives the text that they came
to. -/
theorem Settles.guardSpans_restoreSpans (hs : ∀ c ∈ s, c ≠ guardOpen ∧ c ≠ guardClose)
    (h : Settles st current escape (guardSpans escape s) u)
    (hguarded : marks (readSpanOpening escape) u = []) :
    guardSpans escape (restoreSpans u) = u := by
  obtain ⟨after, hopen⟩ := exists_stillOpen_guardFrom hescape [] hs
  obtain ⟨hnested, hcoded⟩ := h.guarded hescape hnames hopen (coded_guardFrom hescape [] hs)
  exact guardFrom_restoreSpans hescape hnested hcoded hguarded

end

/-- The result of an expansion is its own expansion if and only if it holds no directive when its
case spans are guarded anew. That is so if the text that the passes came to opens no case span
besides those that were guarded, provided that neither the text nor the names in the state hold
guards, the names hold no brace, and none of these is the escape character. -/
theorem directives_eq_self_iff_of_eq_ok (st : State) (current : Scope) (escape : Char)
    {s r : List Char} (h : directives st current escape none s = .ok r) :
    (directives st current escape none r = .ok r ↔
      marks (readDirective escape) (guardSpans escape r) = []) ∧
    (∃ u, Settles st current escape (guardSpans escape s) u) ∧
    ∀ u, Settles st current escape (guardSpans escape s) u → r = restoreSpans u ∧
      (escape ∉ bounds → (∀ name ∈ st.names, ∀ c ∈ name, c ∉ bounds) →
        (∀ c ∈ s, c ≠ guardOpen ∧ c ≠ guardClose) → marks (readSpanOpening escape) u = [] →
          directives st current escape none r = .ok r) := by
  obtain ⟨u, hu, rfl⟩ := exists_settles h
  have hplain := ne_of_mem_restoreSpans u
  refine ⟨directives_eq_self_iff hplain, ⟨u, hu⟩, fun t ht => ?_⟩
  obtain rfl := hu.eq ht
  refine ⟨rfl, fun hescape hnames hs hguarded => ?_⟩
  rw [directives_eq_self_iff hplain, hu.guardSpans_restoreSpans hescape hnames hs hguarded]
  exact hu.marks_eq_nil

/-- A directive in a case span leaves nothing to do for a second expansion. -/
theorem directives_eq_self_iff_of_eq_ok_span :
    directives {} ⟨1, none⟩ '\\' none "\\UP\x7b\\ON[1]\x7ba\x7d\x7bb\x7d\x7d".toList =
      .ok "\\UP\x7bb\x7d".toList ∧
    directives {} ⟨1, none⟩ '\\' none "\\UP\x7bb\x7d".toList = .ok "\\UP\x7bb\x7d".toList := by
  have hfirst : directives {} ⟨1, none⟩ '\\' none
      "\\UP\x7b\\ON[1]\x7ba\x7d\x7bb\x7d\x7d".toList = .ok "\\UP\x7bb\x7d".toList := rfl
  obtain ⟨-, -, hsettled⟩ := directives_eq_self_iff_of_eq_ok {} ⟨1, none⟩ '\\' hfirst
  have hsettles : Settles {} ⟨1, none⟩ '\\'
      (guardSpans '\\' "\\UP\x7b\\ON[1]\x7ba\x7d\x7bb\x7d\x7d".toList)
      ('\\' :: 'U' :: 'P' :: guardOpen :: 'b' :: guardClose :: []) := .step rfl (.done rfl)
  refine ⟨hfirst, (hsettled _ hsettles).2 (by decide) ?_ (forall_mem_of_all (by decide)) rfl⟩
  exact fun name hname => (List.not_mem_nil hname).elim

/-- A case span whose code comes together only while directives are resolved keeps a directive
around it from being found; expanded again, the result loses that directive. -/
theorem not_directives_eq_self : ¬ ∀ (st : State) (current : Scope) (s r : List Char),
    directives st current '\\' none s = .ok r → directives st current '\\' none r = .ok r := by
  intro h
  have hfirst : directives {} ⟨1, none⟩ '\\' none
      "\\ON[1]\x7b\\U\\ON[2]\x7bP\x7d\x7bP\x7d\x7bx\x7d\x7d".toList =
      .ok "\\ON[1]\x7b\\UP\x7bx\x7d\x7d".toList := rfl
  have hsecond : directives {} ⟨1, none⟩ '\\' none "\\ON[1]\x7b\\UP\x7bx\x7d\x7d".toList =
      .ok [] := rfl
  have hsame := Except.ok.inj (hsecond.symm.trans (h {} ⟨1, none⟩ _ _ hfirst))
  revert hsame
  decide

end
end Expansion
end DialogueMarkup
