import DialogueMarkup.Proofs.Guards
import DialogueMarkup.Proofs.Tree

/-! What the readers of the markup find in the text of a tree. Each statement is about the text of
a tree in front of any other text, so that it can be used on bodies and branches. -/
namespace DialogueMarkup.Markup
open Text

theorem spanSource_append (s t : List Char) : spanSource s ++ t = '{' :: (s ++ '}' :: t) := by
  simp [spanSource]

/-- A name in capitals that cannot be mistaken for an opcode. -/
structure CodeName (word : List Char) : Prop where
  capital : ∀ w ∈ word, w ∈ capitals
  clash : ∀ op ∈ Opcode.all, clash op.name word = true

theorem Code.codeName (kind : Code) : CodeName kind.name := by
  rcases kind with _ | _ | _ | (_ | _) <;> exact ⟨forall_mem_of_all (by decide), by decide⟩

theorem NumberCode.codeName (kind : NumberCode) : CodeName kind.name := by
  cases kind <;> exact ⟨forall_mem_of_all (by decide), by decide⟩

theorem codeName_fold (fold : Grammar.Fold) : CodeName (foldName fold) := by
  cases fold <;> exact ⟨forall_mem_of_all (by decide), by decide⟩

theorem capital_of_mem_opcode_name (op : Opcode) : ∀ w ∈ op.name, w ∈ capitals := by
  cases op <;> exact forall_mem_of_all (by decide)

theorem Opcode.read_spelling (op : Opcode) (spelling : Spelling op.name) (s : List Char) :
    Opcode.read (spelling.letters ++ s) = some ((spelling.letters, op), s) := by
  have hother (other : Opcode) (h : other ≠ op) :
      readWord other.name (spelling.letters ++ s) = none := by
    refine readWord_of_clash spelling ?_ s
    revert h
    cases other <;> cases op <;> decide
  have hself := readWord_spelling spelling s
  cases op <;> simp [Opcode.read, Opcode.all, hother, hself]

section
variable {word : List Char} (e : Escape) (spelling : Spelling word)

theorem readHead_of_codeName (h : CodeName word) (s : List Char) :
    readHead e.char (e.char :: (spelling.letters ++ s)) = none := by
  have hread : Opcode.read (spelling.letters ++ s) = none := by
    refine List.findSome?_eq_none_iff.mpr fun op hop => ?_
    rw [readWord_of_clash spelling (h.clash op hop) s]
    rfl
  simp [readHead, e.readEscape_self, hread]

theorem readDirective_of_codeName (h : CodeName word) (s : List Char) :
    readDirective e.char (e.char :: (spelling.letters ++ s)) = none := by
  simp [readDirective, readHead_of_codeName e spelling h s]

end

section
variable {e : Escape}

theorem readArgument_source (argument : Argument e) (s : List Char) :
    readArgument (argumentSource argument.text ++ s) = some (argument.text, s) :=
  readArgument_argumentSource (fun hmem => (argument.plain _ hmem).2 rfl) s

theorem readHead_test (test : Test e) (s : List Char) :
    readHead e.char (test.source ++ s) = some (test.head, s) := by
  have hread := Opcode.read_spelling test.opcode test.spelling
    (argumentSource test.condition.text ++ s)
  simp [readHead, Test.source, Test.head, e.readEscape_self, hread, readArgument_source]

theorem plain_of_isLatinLetter {c : Char} (h : isLatinLetter c = true) : e.Plain c := by
  have hbounds := not_mem_bounds_of_isLatinLetter h
  simp only [mem_bounds, not_or] at hbounds
  obtain ⟨hopen, hclose, hguardOpen, hguardClose⟩ := hbounds
  exact ⟨e.ne_of_isLatinLetter h, hopen, hclose, hguardOpen, hguardClose⟩

variable (e) in
theorem plain_of_mem_letters {word : List Char} (spelling : Spelling word)
    (hw : ∀ w ∈ word, w ∈ capitals) : ∀ c ∈ spelling.letters, e.Plain c :=
  fun _ hc => plain_of_isLatinLetter (isLatinLetter_of_mem_spelling spelling hw hc)

theorem plain_of_mem_argument (argument : Argument e) :
    ∀ c ∈ argumentSource argument.text, e.Plain c := by
  intro c hc
  simp only [argumentSource, List.mem_cons, List.mem_append, List.not_mem_nil, or_false] at hc
  rcases hc with rfl | hc | rfl
  · exact ⟨fun h => e.ne_bracket.1 h.symm, by decide, by decide, by decide, by decide⟩
  · exact (argument.plain c hc).1
  · exact ⟨fun h => e.ne_bracket.2 h.symm, by decide, by decide, by decide, by decide⟩

theorem plain_of_mem_test (test : Test e) :
    ∀ c ∈ test.spelling.letters ++ argumentSource test.condition.text, e.Plain c := by
  intro c hc
  rcases List.mem_append.mp hc with hc | hc
  · exact plain_of_mem_letters e test.spelling (capital_of_mem_opcode_name test.opcode) c hc
  · exact plain_of_mem_argument test.condition c hc

/-- An escape that is none of the guards. -/
structure Escape.Unguarded (e : Escape) : Prop where
  ne_guardOpen : e.char ≠ guardOpen
  ne_guardClose : e.char ≠ guardClose

theorem isNoBrace_of_plain {xs : List Char} (h : ∀ c ∈ xs, e.Plain c) :
    ∀ c ∈ xs, isNoBrace c = true :=
  fun c hc => isNoBrace_iff.mpr ⟨(h c hc).ne_open, (h c hc).ne_close⟩

theorem isNoBrace_escape : isNoBrace e.char = true := isNoBrace_iff.mpr e.ne_brace

namespace Tree

/-- The text of a tree does not begin with a brace. -/
theorem head?_print_append (t : Tree e) (opening closing : Char) {s : List Char}
    (hs : s.head? ≠ some '{') : (t.print opening closing ++ s).head? ≠ some '{' := by
  cases t with
  | nil => exact hs
  | char c plain rest => simpa [print] using plain.ne_open
  | code kind spelling rest => simpa [print] using e.ne_brace.1
  | number kind spelling argument rest => simpa [print] using e.ne_brace.1
  | span fold spelling body rest => simpa [print] using e.ne_brace.1
  | directive test whenTrue rest => simpa [print, Test.source] using e.ne_brace.1
  | choice test whenTrue whenFalse rest => simpa [print, Test.source] using e.ne_brace.1

theorem isNoBrace_guards : isNoBrace guardOpen = true ∧ isNoBrace guardClose = true := by decide

/-- A guarded text without directives holds no brace. -/
theorem isNoBrace_of_mem_guarded {t : Tree e} (h : t.height = 0) :
    ∀ c ∈ t.guarded, isNoBrace c = true := by
  unfold guarded
  induction t with
  | nil => simp [print]
  | char c plain rest ih =>
    rw [print, List.forall_mem_cons]
    exact ⟨isNoBrace_iff.mpr ⟨plain.ne_open, plain.ne_close⟩, ih h⟩
  | code kind spelling rest ih =>
    have hletters := plain_of_mem_letters e spelling kind.codeName.capital
    rw [print, List.forall_mem_cons, List.forall_mem_append]
    exact ⟨isNoBrace_escape, isNoBrace_of_plain hletters, ih h⟩
  | number kind spelling argument rest ih =>
    have hletters := plain_of_mem_letters e spelling kind.codeName.capital
    have hargument := plain_of_mem_argument argument
    rw [print, List.forall_mem_cons, List.forall_mem_append, List.forall_mem_append]
    exact ⟨isNoBrace_escape, isNoBrace_of_plain hletters, isNoBrace_of_plain hargument, ih h⟩
  | span fold spelling body rest ihb ih =>
    simp only [height, Nat.max_eq_zero_iff] at h
    have hletters := plain_of_mem_letters e spelling (codeName_fold fold).capital
    rw [print, List.forall_mem_cons, List.forall_mem_append, List.forall_mem_cons,
      List.forall_mem_append, List.forall_mem_cons]
    exact ⟨isNoBrace_escape, isNoBrace_of_plain hletters, isNoBrace_guards.1, ihb h.1,
      isNoBrace_guards.2, ih h.2⟩
  | directive test whenTrue rest _ _ => simp [height] at h
  | choice test whenTrue whenFalse rest _ _ _ => simp [height] at h

/-- The first brace of a guarded text with directives is an opening one. -/
theorem dropWhile_guarded {t : Tree e} (h : t.height ≠ 0) (s : List Char) :
    ∃ after, (t.guarded ++ s).dropWhile isNoBrace = '{' :: after := by
  have htest (test : Test e) (u : List Char) :
      (test.source ++ ('{' :: u)).dropWhile isNoBrace = '{' :: u := by
    have hplain := isNoBrace_of_plain (plain_of_mem_test test)
    rw [Test.source, List.cons_append, List.dropWhile_cons_of_pos isNoBrace_escape,
      List.dropWhile_append_of_pos hplain]
    rfl
  -- heads and guards hold no brace: the first one stands in the first directive
  unfold guarded
  induction t generalizing s with
  | nil => exact absurd rfl h
  | char c plain rest ih =>
    have hc : isNoBrace c = true := isNoBrace_iff.mpr ⟨plain.ne_open, plain.ne_close⟩
    rw [print, List.cons_append, List.dropWhile_cons_of_pos hc]
    exact ih h s
  | code kind spelling rest ih =>
    have hletters := plain_of_mem_letters e spelling kind.codeName.capital
    rw [print, List.cons_append, List.dropWhile_cons_of_pos isNoBrace_escape, List.append_assoc,
      List.dropWhile_append_of_pos (isNoBrace_of_plain hletters)]
    exact ih h s
  | number kind spelling argument rest ih =>
    have hletters := plain_of_mem_letters e spelling kind.codeName.capital
    have hargument := plain_of_mem_argument argument
    rw [print, List.cons_append, List.dropWhile_cons_of_pos isNoBrace_escape, List.append_assoc,
      List.dropWhile_append_of_pos (isNoBrace_of_plain hletters), List.append_assoc,
      List.dropWhile_append_of_pos (isNoBrace_of_plain hargument)]
    exact ih h s
  | span fold spelling body rest ihb ih =>
    have hletters := plain_of_mem_letters e spelling (codeName_fold fold).capital
    rw [print, List.cons_append, List.dropWhile_cons_of_pos isNoBrace_escape, List.append_assoc,
      List.dropWhile_append_of_pos (isNoBrace_of_plain hletters), List.cons_append,
      List.dropWhile_cons_of_pos isNoBrace_guards.1, List.append_assoc]
    by_cases hbody : body.height = 0
    · -- the braces of the span are guarded, so the first one stands behind it
      have hrest : rest.height ≠ 0 := by
        simp only [height, hbody] at h
        omega
      have hinside : ∀ c ∈ body.print guardOpen guardClose, isNoBrace c = true :=
        isNoBrace_of_mem_guarded hbody
      rw [List.dropWhile_append_of_pos hinside, List.cons_append,
        List.dropWhile_cons_of_pos isNoBrace_guards.2]
      exact ih hrest s
    · exact ihb hbody _
  | directive test whenTrue rest _ _ =>
    rw [print, List.append_assoc, List.append_assoc, spanSource_append]
    exact ⟨_, htest test _⟩
  | choice test whenTrue whenFalse rest _ _ _ =>
    rw [print, List.append_assoc, List.append_assoc, spanSource_append]
    exact ⟨_, htest test _⟩

/-- A branch without directives is read as a span. -/
theorem readSpan_of_flat {t : Tree e} (h : t.height = 0) (s : List Char) :
    readSpan (spanSource t.guarded ++ s) = some (t.guarded, s) :=
  readSpan_spanSource (isNoBrace_of_mem_guarded h) s

/-- A branch with directives is not. -/
theorem readSpan_of_deep {t : Tree e} (h : t.height ≠ 0) (s : List Char) :
    readSpan (spanSource t.guarded ++ s) = none := by
  obtain ⟨after, hafter⟩ := dropWhile_guarded h ('}' :: s)
  rw [spanSource_append]
  simp [readSpan, readChar, hafter]

/-- The pieces of a guarded text: a mark for each directive of height one, else characters. -/
def cut : Tree e → List (Piece Directive)
  | nil => []
  | char c _ rest => .char c :: rest.cut
  | code _ spelling rest => (e.char :: spelling.letters).map .char ++ rest.cut
  | number _ spelling argument rest =>
    (e.char :: (spelling.letters ++ argumentSource argument.text)).map .char ++ rest.cut
  | span _ spelling body rest =>
    (e.char :: (spelling.letters ++ [guardOpen])).map .char ++
      (body.cut ++ .char guardClose :: rest.cut)
  | directive test whenTrue rest =>
    if whenTrue.height = 0 then .mark (test.directive whenTrue.guarded none) :: rest.cut
    else (test.source ++ ['{']).map .char ++ (whenTrue.cut ++ .char '}' :: rest.cut)
  | choice test whenTrue whenFalse rest =>
    if max whenTrue.height whenFalse.height = 0 then
      .mark (test.directive whenTrue.guarded (some whenFalse.guarded)) :: rest.cut
    else (test.source ++ ['{']).map .char ++
      (whenTrue.cut ++ (['}', '{'].map .char ++ (whenFalse.cut ++ .char '}' :: rest.cut)))

theorem readDirective_flat (test : Test e) {t : Tree e} (ht : t.height = 0) {s : List Char}
    (hs : s.head? ≠ some '{') :
    readDirective e.char (test.source ++ (spanSource t.guarded ++ s)) =
      some (test.directive t.guarded none, s) := by
  simp only [readDirective, readHead_test, readSpan_of_flat ht, Option.bind_eq_bind,
    Option.bind_some]
  split
  · exact absurd rfl hs
  · rfl

theorem readDirective_flat_choice (test : Test e) {t u : Tree e} (ht : t.height = 0)
    (hu : u.height = 0) (s : List Char) :
    readDirective e.char (test.source ++ (spanSource t.guarded ++ (spanSource u.guarded ++ s))) =
      some (test.directive t.guarded (some u.guarded), s) := by
  have hread := readSpan_of_flat hu s
  simp only [readDirective, readHead_test, readSpan_of_flat ht, Option.bind_eq_bind,
    Option.bind_some]
  rw [spanSource_append] at hread ⊢
  simp [hread, Test.directive, Test.head]

theorem readDirective_deep (test : Test e) {t : Tree e} (ht : t.height ≠ 0) (s : List Char) :
    readDirective e.char (test.source ++ (spanSource t.guarded ++ s)) = none := by
  simp [readDirective, readHead_test, readSpan_of_deep ht]

theorem readDirective_deep_choice (test : Test e) {t u : Tree e} (ht : t.height = 0)
    (hu : u.height ≠ 0) (s : List Char) :
    readDirective e.char (test.source ++ (spanSource t.guarded ++ (spanSource u.guarded ++ s))) =
      none := by
  have hread := readSpan_of_deep hu s
  simp only [readDirective, readHead_test, readSpan_of_flat ht, Option.bind_eq_bind,
    Option.bind_some]
  rw [spanSource_append] at hread ⊢
  simp [hread]

/-- A test whose branches still hold directives is cut into its characters. -/
theorem pieces_test_of_none (test : Test e) {u : List Char}
    (h : readDirective e.char (test.source ++ '{' :: u) = none) :
    pieces (readDirective e.char) (test.source ++ '{' :: u) =
      (test.source ++ ['{']).map .char ++ pieces (readDirective e.char) u := by
  have hplain := plain_of_mem_test test
  have hbrace : pieces (readDirective e.char) ('{' :: u) =
      .char '{' :: pieces (readDirective e.char) u :=
    pieces_cons_of_none (e.opens_readDirective '{' e.ne_brace.1.symm u)
  rw [Test.source, List.cons_append] at h ⊢
  rw [pieces_cons_of_none h,
    e.pieces_append_of_opens e.opens_readDirective fun c hc => (hplain c hc).ne_escape, hbrace]
  simp

/-- Reading directives from a guarded text finds those of height one. Where the tree may end in a
directive without a second branch, what follows must not be taken for one. -/
theorem pieces_guarded (he : e.Unguarded) (t : Tree e) {s : List Char} (hs : s.head? ≠ some '{') :
    pieces (readDirective e.char) (t.guarded ++ s) = t.cut ++ pieces (readDirective e.char) s := by
  have hopens := e.opens_readDirective
  have hconsumes := readDirective_consumes e.char
  have hclose (u : List Char) : pieces (readDirective e.char) ('}' :: u) =
      .char '}' :: pieces (readDirective e.char) u :=
    pieces_cons_of_none (hopens '}' e.ne_brace.2.symm u)
  have hopen (u : List Char) : pieces (readDirective e.char) ('{' :: u) =
      .char '{' :: pieces (readDirective e.char) u :=
    pieces_cons_of_none (hopens '{' e.ne_brace.1.symm u)
  have hend (u : List Char) : ('}' :: u).head? ≠ some '{' := by simp
  -- for any text that may follow, since bodies and branches are followed by their closing braces
  induction t generalizing s with
  | nil => rfl
  | char c plain rest ih =>
    simp only [guarded] at ih ⊢
    rw [print, List.cons_append, pieces_cons_of_none (hopens c plain.ne_escape _), ih hs]
    rfl
  | code kind spelling rest ih =>
    simp only [guarded] at ih ⊢
    rw [print, List.cons_append, List.append_assoc,
      e.pieces_code_of_none hopens spelling kind.codeName.capital
        (readDirective_of_codeName e spelling kind.codeName _), ih hs, cut, List.append_assoc]
  | number kind spelling argument rest ih =>
    simp only [guarded] at ih ⊢
    rw [print, List.cons_append, List.append_assoc,
      e.pieces_code_of_none hopens spelling kind.codeName.capital
        (readDirective_of_codeName e spelling kind.codeName _), List.append_assoc,
      e.pieces_append_of_opens hopens (fun c hc => (plain_of_mem_argument argument c hc).ne_escape),
      ih hs]
    simp [cut]
  | span fold spelling body rest ihb ih =>
    have hguardOpen (u : List Char) : pieces (readDirective e.char) (guardOpen :: u) =
        .char guardOpen :: pieces (readDirective e.char) u :=
      pieces_cons_of_none (hopens guardOpen he.ne_guardOpen.symm u)
    have hguardClose (u : List Char) : pieces (readDirective e.char) (guardClose :: u) =
        .char guardClose :: pieces (readDirective e.char) u :=
      pieces_cons_of_none (hopens guardClose he.ne_guardClose.symm u)
    have hbody := ihb (s := guardClose :: (rest.guarded ++ s)) (by simp [guardClose])
    simp only [guarded] at ih hbody ⊢
    rw [print, List.cons_append, List.append_assoc,
      e.pieces_code_of_none hopens spelling (codeName_fold fold).capital
        (readDirective_of_codeName e spelling (codeName_fold fold) _), List.cons_append,
      hguardOpen, List.append_assoc, List.cons_append, hbody, hguardClose, ih hs]
    simp [cut]
  | directive test whenTrue rest iht ih =>
    have hbranch := iht (hend (rest.guarded ++ s))
    have hrest := ih hs
    have hhead : (rest.guarded ++ s).head? ≠ some '{' := rest.head?_print_append _ _ hs
    have htext : (directive test whenTrue rest).guarded ++ s =
        test.source ++ (spanSource whenTrue.guarded ++ (rest.guarded ++ s)) := by
      simp [guarded, print]
    rw [htext, cut]
    split
    · rename_i hflat
      rw [pieces_of_some hconsumes (readDirective_flat test hflat hhead), hrest]
      rfl
    · -- the branch holds a brace, so the head is passed over and its branch is searched
      rename_i hdeep
      have hnone := readDirective_deep test hdeep (rest.guarded ++ s)
      rw [spanSource_append] at hnone ⊢
      rw [pieces_test_of_none test hnone, hbranch, hclose, hrest]
      simp
  | choice test whenTrue whenFalse rest iht ihf ih =>
    have hbranch := iht (hend ('{' :: (whenFalse.guarded ++ '}' :: (rest.guarded ++ s))))
    have hother := ihf (hend (rest.guarded ++ s))
    have hrest := ih hs
    have htext : (choice test whenTrue whenFalse rest).guarded ++ s = test.source ++
        (spanSource whenTrue.guarded ++ (spanSource whenFalse.guarded ++ (rest.guarded ++ s))) := by
      simp [guarded, print]
    rw [htext, cut]
    split
    · rename_i hflat
      rw [pieces_of_some hconsumes
        (readDirective_flat_choice test (by omega) (by omega) (rest.guarded ++ s)), hrest]
      rfl
    · rename_i hdeep
      have hnone : readDirective e.char (test.source ++ (spanSource whenTrue.guarded ++
          (spanSource whenFalse.guarded ++ (rest.guarded ++ s)))) = none := by
        by_cases htrue : whenTrue.height = 0
        · exact readDirective_deep_choice test htrue (by omega) (rest.guarded ++ s)
        · exact readDirective_deep test htrue _
      rw [spanSource_append, spanSource_append] at hnone ⊢
      rw [pieces_test_of_none test hnone, hbranch, hclose, hopen, hother, hclose, hrest]
      simp

theorem pieces_guarded_eq_cut (he : e.Unguarded) (t : Tree e) :
    pieces (readDirective e.char) t.guarded = t.cut := by
  have hpieces := pieces_guarded he t (s := []) (by simp)
  simpa using hpieces

/-- The directives read from a guarded text are those of height one, from left to right. -/
theorem map_head_marks_guarded (he : e.Unguarded) (t : Tree e) :
    (marks (readDirective e.char) t.guarded).map Directive.head = t.headsAt 1 := by
  rw [marks_eq, pieces_guarded_eq_cut he]
  induction t with
  | nil => rfl
  | char c plain rest ih => simpa [cut, headsAt] using ih
  | code kind spelling rest ih => simpa [cut, headsAt] using ih
  | number kind spelling argument rest ih => simpa [cut, headsAt] using ih
  | span fold spelling body rest ihb ih => simp [cut, headsAt, ihb, ih]
  | directive test whenTrue rest iht ih =>
    by_cases hflat : whenTrue.height = 0
    · have hnone : whenTrue.headsAt 1 = [] := whenTrue.headsAt_of_height_lt 1 (by omega)
      simp [cut, headsAt, hflat, hnone, ih]
    · simp [cut, headsAt, hflat, iht, ih]
  | choice test whenTrue whenFalse rest iht ihf ih =>
    by_cases hflat : max whenTrue.height whenFalse.height = 0
    · have hnoneTrue : whenTrue.headsAt 1 = [] := whenTrue.headsAt_of_height_lt 1 (by omega)
      have hnoneFalse : whenFalse.headsAt 1 = [] := whenFalse.headsAt_of_height_lt 1 (by omega)
      simp [cut, headsAt, hflat, hnoneTrue, hnoneFalse, ih]
    · simp [cut, headsAt, hflat, iht, ihf, ih]

/-- A pass over a guarded text reduces its tree. -/
theorem replaceMarks_guarded (he : e.Unguarded) (holds : Head → Bool) (t : Tree e) :
    replaceMarks (readDirective e.char) (fun d => d.branch (holds d.head)) t.guarded =
      (t.reduce holds).guarded := by
  rw [replaceMarks_eq, pieces_guarded_eq_cut he]
  unfold guarded
  induction t with
  | nil => rfl
  | char c plain rest ih => simp [cut, reduce, print, ih]
  | code kind spelling rest ih => simp [cut, reduce, print, ih]
  | number kind spelling argument rest ih => simp [cut, reduce, print, ih]
  | span fold spelling body rest ihb ih => simp [cut, reduce, print, ihb, ih]
  | directive test whenTrue rest iht ih =>
    by_cases hflat : whenTrue.height = 0
    · simp only [cut, reduce, hflat, if_true, textOf_mark, print_append, ih]
      cases hh : holds test.head <;> simp [hh, print, guarded]
    · simp [cut, reduce, print, hflat, iht, ih, spanSource]
  | choice test whenTrue whenFalse rest iht ihf ih =>
    by_cases hflat : max whenTrue.height whenFalse.height = 0
    · simp only [cut, reduce, hflat, if_true, textOf_mark, print_append, ih]
      cases hh : holds test.head <;> simp [hh, guarded]
    · simp [cut, reduce, print, hflat, iht, ihf, ih, spanSource]

end Tree

end

end DialogueMarkup.Markup
