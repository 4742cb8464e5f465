import DialogueMarkup.Proofs.TreeText

/-! The bodies of case spans under guard and without, the heads that a scan of a tree's text finds,
and its brace escapes decoded. -/
namespace DialogueMarkup.Markup
open Text Grammar

section
variable {word : List Char} (e : Escape) (spelling : Spelling word)

theorem readCode_spelling (s : List Char) :
    readCode e.char word (e.char :: (spelling.letters ++ s)) =
      some ((e.char, spelling.letters), s) :=
  readCode_of_spelling (by simp [sameLetter]) spelling s

theorem readCode_of_clash {name : List Char} (h : clash name word = true) (s : List Char) :
    readCode e.char name (e.char :: (spelling.letters ++ s)) = none := by
  simp [readCode, e.readEscape_self, readWord_of_clash spelling h]

/-- Nothing but the name of a fold begins a case span. -/
theorem readSpanOpening_of_clash (h : ∀ fold, clash (foldName fold) word = true) (s : List Char) :
    readSpanOpening e.char (e.char :: (spelling.letters ++ s)) = none := by
  have hup : readCode e.char ['U', 'P'] (e.char :: (spelling.letters ++ s)) = none :=
    readCode_of_clash e spelling (h .up) s
  have hlow : readCode e.char ['L', 'O', 'W'] (e.char :: (spelling.letters ++ s)) = none :=
    readCode_of_clash e spelling (h .low) s
  simp [readSpanOpening, hup, hlow]

end

section
variable (e : Escape) {fold : Fold} (spelling : Spelling (foldName fold))

theorem readFoldName (s : List Char) :
    ((readCode e.char ['U', 'P'] (e.char :: (spelling.letters ++ s))).orElse fun _ =>
      readCode e.char ['L', 'O', 'W'] (e.char :: (spelling.letters ++ s))) =
      some ((e.char, spelling.letters), s) := by
  cases fold with
  | up =>
    have hup := readCode_spelling e spelling s
    simp only [foldName] at hup
    rw [hup]
    rfl
  | low =>
    have hup : readCode e.char ['U', 'P'] (e.char :: (spelling.letters ++ s)) = none :=
      readCode_of_clash e spelling (by decide) s
    have hlow := readCode_spelling e spelling s
    simp only [foldName] at hlow
    rw [hup]
    exact hlow

theorem readSpanOpening_fold (s : List Char) :
    readSpanOpening e.char (e.char :: (spelling.letters ++ '{' :: s)) =
      some (e.char :: spelling.letters, s) := by
  simp only [readSpanOpening, readFoldName e spelling]
  simp [readChar]

theorem readSpanOpening_bare_fold {s : List Char} (hs : s.head? ≠ some '{') :
    readSpanOpening e.char (e.char :: (spelling.letters ++ s)) = none := by
  simp only [readSpanOpening, readFoldName e spelling]
  cases s with
  | nil => rfl
  | cons c s =>
    have hc : c ≠ '{' := by simpa using hs
    simp [readChar, hc]

end

theorem readSpanOpening_code (e : Escape) (kind : Code) (spelling : Spelling kind.name)
    {s : List Char} (hs : s.head? ≠ some '{') :
    readSpanOpening e.char (e.char :: (spelling.letters ++ s)) = none := by
  cases kind with
  | fold f => exact readSpanOpening_bare_fold e spelling hs
  | openingBrace | closingBrace | article =>
    exact readSpanOpening_of_clash e spelling (by rintro (_ | _) <;> decide) s

theorem readSpanOpening_number (e : Escape) (kind : NumberCode) (spelling : Spelling kind.name)
    (s : List Char) : readSpanOpening e.char (e.char :: (spelling.letters ++ s)) = none :=
  readSpanOpening_of_clash e spelling (by cases kind <;> rintro (_ | _) <;> decide) s

theorem readSpanOpening_test {e : Escape} (test : Test e) (s : List Char) :
    readSpanOpening e.char (test.source ++ s) = none := by
  rw [Test.source, List.cons_append, List.append_assoc]
  refine readSpanOpening_of_clash e test.spelling ?_ _
  cases test.opcode <;> rintro (_ | _) <;> decide

theorem guardPieces_chars {xs : List Char} (h : ∀ c ∈ xs, isNoBrace c = true)
    (opened : List Bool) (ps : List (Piece (List Char))) :
    guardPieces opened (xs.map .char ++ ps) = xs ++ guardPieces opened ps := by
  induction xs with
  | nil => rfl
  | cons c xs ih =>
    obtain ⟨hopen, hclose⟩ := isNoBrace_iff.mp (h c List.mem_cons_self)
    have hxs := ih fun d hd => h d (List.mem_cons_of_mem c hd)
    simp [guardPieces, hopen, hclose, hxs]

section
variable {e : Escape} (opened : List Bool) (s : List Char)

theorem guardFrom_plain {xs : List Char} (h : ∀ c ∈ xs, e.Plain c) :
    guardFrom e.char opened (xs ++ s) = xs ++ guardFrom e.char opened s := by
  rw [guardFrom, e.pieces_append_of_opens e.opens_readSpanOpening fun c hc => (h c hc).ne_escape,
    guardPieces_chars (isNoBrace_of_plain h)]
  rfl

theorem guardFrom_code {word : List Char} (spelling : Spelling word)
    (hw : ∀ w ∈ word, w ∈ capitals)
    (h : readSpanOpening e.char (e.char :: (spelling.letters ++ s)) = none) :
    guardFrom e.char opened (e.char :: (spelling.letters ++ s)) =
      e.char :: (spelling.letters ++ guardFrom e.char opened s) := by
  have hcode : ∀ c ∈ e.char :: spelling.letters, isNoBrace c = true := by
    rw [List.forall_mem_cons]
    exact ⟨isNoBrace_escape, isNoBrace_of_plain (plain_of_mem_letters e spelling hw)⟩
  rw [guardFrom, e.pieces_code_of_none e.opens_readSpanOpening spelling hw h,
    guardPieces_chars hcode]
  rfl

theorem guardFrom_test (test : Test e) :
    guardFrom e.char opened (test.source ++ s) = test.source ++ guardFrom e.char opened s := by
  have hnone := readSpanOpening_test test s
  have hargument := guardFrom_plain opened s (plain_of_mem_argument test.condition)
  rw [Test.source, List.cons_append, List.append_assoc] at hnone ⊢
  rw [guardFrom_code opened _ test.spelling (capital_of_mem_opcode_name test.opcode) hnone,
    hargument]
  simp

theorem guardFrom_fold {fold : Fold} (spelling : Spelling (foldName fold)) :
    guardFrom e.char opened (e.char :: (spelling.letters ++ '{' :: s)) =
      e.char :: (spelling.letters ++ guardOpen :: guardFrom e.char (true :: opened) s) := by
  rw [guardFrom_of_some (readSpanOpening_fold e spelling s)]
  simp

theorem guardFrom_open :
    guardFrom e.char opened ('{' :: s) = '{' :: guardFrom e.char (false :: opened) s := by
  rw [guardFrom, pieces_cons_of_none (e.opens_readSpanOpening '{' e.ne_brace.1.symm s)]
  simp [guardPieces, guardFrom]

theorem guardFrom_close (ofSpan : Bool) :
    guardFrom e.char (ofSpan :: opened) ('}' :: s) =
      (if ofSpan then guardClose else '}') :: guardFrom e.char opened s := by
  rw [guardFrom, pieces_cons_of_none (e.opens_readSpanOpening '}' e.ne_brace.2.symm s)]
  simp [guardPieces, guardFrom]

theorem guardFrom_span (branch guarded : List Char)
    (h : ∀ (opened : List Bool) (u : List Char), u.head? ≠ some '{' →
      guardFrom e.char opened (branch ++ u) = guarded ++ guardFrom e.char opened u) :
    guardFrom e.char opened (spanSource branch ++ s) =
      spanSource guarded ++ guardFrom e.char opened s := by
  have hbody := h (false :: opened) ('}' :: s) (by simp)
  rw [spanSource_append, guardFrom_open, hbody, guardFrom_close, spanSource_append]
  rfl

end

namespace Tree
variable {e : Escape}

theorem guardFrom_source (t : Tree e) (opened : List Bool) (s : List Char)
    (hs : s.head? ≠ some '{') :
    guardFrom e.char opened (t.source ++ s) = t.guarded ++ guardFrom e.char opened s := by
  -- a tree closes all the braces it opens, so the list of open ones is the same behind it
  induction t generalizing opened s with
  | nil => rfl
  | char c plain rest ih =>
    have hplain : ∀ d ∈ [c], e.Plain d := by simpa using plain
    have hc := guardFrom_plain opened (rest.source ++ s) hplain
    rw [ih opened s hs] at hc
    exact hc
  | code kind spelling rest ih =>
    have hhead : (rest.source ++ s).head? ≠ some '{' := rest.head?_print_append _ _ hs
    have hcode := guardFrom_code opened _ spelling kind.codeName.capital
      (readSpanOpening_code e kind spelling hhead)
    rw [ih opened s hs] at hcode
    simpa [source, guarded, print] using hcode
  | number kind spelling argument rest ih =>
    have hcode := guardFrom_code opened (argumentSource argument.text ++ (rest.source ++ s))
      spelling kind.codeName.capital (readSpanOpening_number e kind spelling _)
    rw [guardFrom_plain opened _ (plain_of_mem_argument argument), ih opened s hs] at hcode
    simpa [source, guarded, print] using hcode
  | span fold spelling body rest ihb ih =>
    have hfold := guardFrom_fold (e := e) opened (body.source ++ '}' :: (rest.source ++ s)) spelling
    rw [ihb (true :: opened) _ (by simp), guardFrom_close, ih opened s hs] at hfold
    simpa [source, guarded, print] using hfold
  | directive test whenTrue rest iht ih =>
    have htest := guardFrom_test opened (spanSource whenTrue.source ++ (rest.source ++ s)) test
    rw [guardFrom_span opened _ _ _ iht, ih opened s hs] at htest
    simpa [source, guarded, print] using htest
  | choice test whenTrue whenFalse rest iht ihf ih =>
    have htest := guardFrom_test opened
      (spanSource whenTrue.source ++ (spanSource whenFalse.source ++ (rest.source ++ s))) test
    rw [guardFrom_span opened _ _ _ iht, guardFrom_span opened _ _ _ ihf, ih opened s hs] at htest
    simpa [source, guarded, print] using htest

/-- Guarding a text guards the bodies of its case spans and nothing else. -/
theorem guardSpans_source (t : Tree e) : guardSpans e.char t.source = t.guarded := by
  have h := t.guardFrom_source [] [] (by simp)
  simpa [guardFrom, guardSpans, guardPieces] using h

theorem restoreSpans_plain {xs : List Char} (h : ∀ c ∈ xs, e.Plain c) (s : List Char) :
    restoreSpans (xs ++ s) = xs ++ restoreSpans s := by
  have hplain : ∀ c ∈ xs, c ≠ guardOpen ∧ c ≠ guardClose := fun c hc =>
    ⟨(h c hc).ne_guardOpen, (h c hc).ne_guardClose⟩
  rw [restoreSpans_append, restoreSpans_of_ne hplain]

theorem restoreSpans_guarded (he : e.Unguarded) (t : Tree e) :
    restoreSpans t.guarded = t.source := by
  have hescape (u : List Char) : restoreSpans (e.char :: u) = e.char :: restoreSpans u := by
    simp [restoreSpans, he.ne_guardOpen, he.ne_guardClose]
  have hbrace {c : Char} (hc : c ∈ ['{', '}']) (u : List Char) :
      restoreSpans (c :: u) = c :: restoreSpans u := by
    revert c
    simp [restoreSpans, guardOpen, guardClose]
  have hspan (u v : List Char) : restoreSpans (spanSource u ++ v) =
      spanSource (restoreSpans u) ++ restoreSpans v := by
    rw [spanSource_append, spanSource_append]
    simp [hbrace, restoreSpans_append]
  have htest (test : Test e) (u : List Char) :
      restoreSpans (test.source ++ u) = test.source ++ restoreSpans u := by
    rw [Test.source, List.cons_append, hescape, restoreSpans_plain (plain_of_mem_test test)]
    rfl
  simp only [guarded, source]
  induction t with
  | nil => rfl
  | char c plain rest ih =>
    have hplain : ∀ d ∈ [c], e.Plain d := by simpa using plain
    have hc := restoreSpans_plain hplain
    simp only [List.cons_append, List.nil_append] at hc
    rw [print, print, hc, ih]
  | code kind spelling rest ih =>
    rw [print, print, hescape,
      restoreSpans_plain (plain_of_mem_letters e spelling kind.codeName.capital), ih]
  | number kind spelling argument rest ih =>
    rw [print, print, hescape,
      restoreSpans_plain (plain_of_mem_letters e spelling kind.codeName.capital),
      restoreSpans_plain (plain_of_mem_argument argument), ih]
  | span fold spelling body rest ihb ih =>
    have hopen (u : List Char) : restoreSpans (guardOpen :: u) = '{' :: restoreSpans u := rfl
    have hclose (u : List Char) : restoreSpans (guardClose :: u) = '}' :: restoreSpans u := rfl
    rw [print, print, hescape,
      restoreSpans_plain (plain_of_mem_letters e spelling (codeName_fold fold).capital), hopen,
      restoreSpans_append, hclose, ihb, ih]
  | directive test whenTrue rest iht ih =>
    rw [print, print, htest, hspan, iht, ih]
  | choice test whenTrue whenFalse rest iht ihf ih =>
    rw [print, print, htest, hspan, hspan, iht, ihf, ih]

end Tree

section
variable {word : List Char} (e : Escape) (spelling : Spelling word)

theorem readBare_eq_some {escape : Char} {name s code rest : List Char}
    (h : readBare escape name s = some (code, rest)) : s = code ++ rest ∧ code ≠ [] := by
  obtain ⟨⟨⟨c, letters⟩, u⟩, hu, he⟩ := Option.map_eq_some_iff.mp h
  cases he
  exact ⟨readCode_eq_some hu, by simp⟩

theorem readBare_consumes (escape : Char) (name : List Char) :
    (readBare escape name).Consumes := by
  intro s code rest h
  obtain ⟨hs, hne⟩ := readBare_eq_some h
  have hpos := List.length_pos_iff.mpr hne
  rw [hs, List.length_append]
  omega

theorem readHead_consumes (escape : Char) : (readHead escape).Consumes := by
  intro s head rest h
  rw [readHead_eq_some h]
  simp
  omega

/-! Brace escapes decoded, chunk by chunk: first the opening ones are replaced, then the closing
ones in what that leaves. -/

theorem decodeBraces_append {xs : List Char} (h : ∀ c ∈ xs, c ≠ e.char) (s : List Char) :
    decodeBraces e.char (xs ++ s) = xs ++ decodeBraces e.char s := by
  simp only [decodeBraces, replaceMarks_eq]
  rw [e.pieces_append_of_opens (e.opens_readBare _) h, textOf_append, textOf_chars,
    e.pieces_append_of_opens (e.opens_readBare _) h, textOf_append, textOf_chars]

theorem decodeBraces_opening (spelling : Spelling Code.openingBrace.name) (s : List Char) :
    decodeBraces e.char (e.char :: (spelling.letters ++ s)) = '{' :: decodeBraces e.char s := by
  have hread : readBare e.char ['B', 'O'] (e.char :: (spelling.letters ++ s)) =
      some (e.char :: spelling.letters, s) := by
    have hcode := readCode_spelling e spelling s
    simp only [Code.name] at hcode
    simp [readBare, hcode]
  have hbrace : ∀ c ∈ ['{'], c ≠ e.char := by simpa using e.ne_brace.1.symm
  simp only [decodeBraces, replaceMarks_eq]
  rw [pieces_of_some (readBare_consumes e.char _) hread, textOf_mark,
    e.pieces_append_of_opens (e.opens_readBare _) hbrace, textOf_append, textOf_chars]
  rfl

theorem decodeBraces_closing (spelling : Spelling Code.closingBrace.name) (s : List Char) :
    decodeBraces e.char (e.char :: (spelling.letters ++ s)) = '}' :: decodeBraces e.char s := by
  have hname := Code.closingBrace.codeName.capital
  have hskip : readBare e.char ['B', 'O'] (e.char :: (spelling.letters ++ s)) = none := by
    have hclash : clash ['B', 'O'] Code.closingBrace.name = true := by decide
    simp [readBare, readCode_of_clash e spelling hclash]
  have hread (u : List Char) : readBare e.char ['B', 'C'] (e.char :: (spelling.letters ++ u)) =
      some (e.char :: spelling.letters, u) := by
    have hcode := readCode_spelling e spelling u
    simp only [Code.name] at hcode
    simp [readBare, hcode]
  simp only [decodeBraces, replaceMarks_eq]
  rw [e.pieces_code_of_none (e.opens_readBare _) spelling hname hskip, textOf_append, textOf_chars,
    List.cons_append, pieces_of_some (readBare_consumes e.char _) (hread _), textOf_mark]
  rfl

theorem decodeBraces_code (hw : ∀ w ∈ word, w ∈ capitals)
    (hopening : clash ['B', 'O'] word = true) (hclosing : clash ['B', 'C'] word = true)
    (s : List Char) : decodeBraces e.char (e.char :: (spelling.letters ++ s)) =
      e.char :: (spelling.letters ++ decodeBraces e.char s) := by
  have hskipOpening : readBare e.char ['B', 'O'] (e.char :: (spelling.letters ++ s)) = none := by
    simp [readBare, readCode_of_clash e spelling hopening]
  have hskipClosing (u : List Char) :
      readBare e.char ['B', 'C'] (e.char :: (spelling.letters ++ u)) = none := by
    simp [readBare, readCode_of_clash e spelling hclosing]
  simp only [decodeBraces, replaceMarks_eq]
  rw [e.pieces_code_of_none (e.opens_readBare _) spelling hw hskipOpening, textOf_append,
    textOf_chars, List.cons_append,
    e.pieces_code_of_none (e.opens_readBare _) spelling hw (hskipClosing _), textOf_append,
    textOf_chars]
  rfl

end

namespace Tree
variable {e : Escape}

/-- A scan of a tree's text finds the heads of all its directives, however deep they are. -/
theorem marks_readHead_append (t : Tree e) (s : List Char) :
    marks (readHead e.char) (t.source ++ s) = t.heads ++ marks (readHead e.char) s := by
  have hskip {xs : List Char} (hxs : ∀ c ∈ xs, c ≠ e.char) (u : List Char) :
      marks (readHead e.char) (xs ++ u) = marks (readHead e.char) u := by
    rw [marks_eq, e.pieces_append_of_opens e.opens_readHead hxs, marksOf_append, marksOf_chars]
    rfl
  have hcode {word : List Char} (hword : CodeName word) (spelling : Spelling word)
      (u : List Char) : marks (readHead e.char) (e.char :: (spelling.letters ++ u)) =
        marks (readHead e.char) u := by
    rw [marks_eq, e.pieces_code_of_none e.opens_readHead spelling hword.capital
      (readHead_of_codeName e spelling hword u), marksOf_append, marksOf_chars]
    rfl
  have htest (test : Test e) (u : List Char) : marks (readHead e.char) (test.source ++ u) =
      test.head :: marks (readHead e.char) u :=
    marks_of_some (readHead_consumes e.char) (readHead_test test u)
  have hargument (argument : Argument e) (u : List Char) :
      marks (readHead e.char) (argumentSource argument.text ++ u) = marks (readHead e.char) u :=
    hskip (fun c hc => (plain_of_mem_argument argument c hc).ne_escape) u
  have hopen (u : List Char) : marks (readHead e.char) ('{' :: u) = marks (readHead e.char) u :=
    marks_cons_of_none (e.opens_readHead '{' e.ne_brace.1.symm u)
  have hclose (u : List Char) : marks (readHead e.char) ('}' :: u) = marks (readHead e.char) u :=
    marks_cons_of_none (e.opens_readHead '}' e.ne_brace.2.symm u)
  unfold source
  -- unlike a directive, a head is read whatever stands in its branches
  induction t generalizing s with
  | nil => rfl
  | char c plain rest ih =>
    rw [print, List.cons_append, marks_cons_of_none (e.opens_readHead c plain.ne_escape _), ih,
      heads]
  | code kind spelling rest ih =>
    rw [print, List.cons_append, List.append_assoc, hcode kind.codeName, ih, heads]
  | number kind spelling argument rest ih =>
    rw [print, List.cons_append, List.append_assoc, hcode kind.codeName, List.append_assoc,
      hargument, ih, heads]
  | span fold spelling body rest ihb ih =>
    rw [print, List.cons_append, List.append_assoc, hcode (codeName_fold fold), List.cons_append,
      hopen, List.append_assoc, ihb, List.cons_append, hclose, ih, heads, List.append_assoc]
  | directive test whenTrue rest iht ih =>
    simp [print, spanSource_append, htest, hopen, iht, hclose, ih, heads]
  | choice test whenTrue whenFalse rest iht ihf ih =>
    simp [print, spanSource_append, htest, hopen, iht, ihf, hclose, ih, heads]

theorem marks_readHead_source (t : Tree e) : marks (readHead e.char) t.source = t.heads := by
  have h := t.marks_readHead_append []
  simpa using h

/-- Decoding the braces of a text without directives gives what its tree means. -/
theorem decodeBraces_append_of_flat (holds : Head → Bool) {t : Tree e} (h : t.height = 0)
    (s : List Char) :
    decodeBraces e.char (t.source ++ s) = t.value holds ++ decodeBraces e.char s := by
  have hbrace {c : Char} (hc : c ≠ e.char) (u : List Char) :
      decodeBraces e.char (c :: u) = c :: decodeBraces e.char u := by
    have hne : ∀ d ∈ [c], d ≠ e.char := by simpa using hc
    exact decodeBraces_append e hne u
  unfold source
  induction t generalizing s with
  | nil => rfl
  | char c plain rest ih =>
    rw [print, List.cons_append, hbrace plain.ne_escape, ih h, value]
    rfl
  | code kind spelling rest ih =>
    rw [print, List.cons_append, List.append_assoc, value]
    cases kind with
    | openingBrace => rw [decodeBraces_opening, ih h]; rfl
    | closingBrace => rw [decodeBraces_closing, ih h]; rfl
    | article =>
      rw [decodeBraces_code e spelling Code.article.codeName.capital (by decide) (by decide), ih h]
      simp [decoded]
    | fold f =>
      rw [decodeBraces_code e spelling (codeName_fold f).capital (by cases f <;> decide)
        (by cases f <;> decide), ih h]
      simp [decoded]
  | number kind spelling argument rest ih =>
    have hargument : ∀ c ∈ argumentSource argument.text, c ≠ e.char := fun c hc =>
      (plain_of_mem_argument argument c hc).ne_escape
    rw [print, List.cons_append, List.append_assoc,
      decodeBraces_code e spelling kind.codeName.capital (by cases kind <;> decide)
        (by cases kind <;> decide), List.append_assoc, decodeBraces_append e hargument, ih h, value]
    simp
  | span fold spelling body rest ihb ih =>
    simp only [height, Nat.max_eq_zero_iff] at h
    rw [print, List.cons_append, List.append_assoc,
      decodeBraces_code e spelling (codeName_fold fold).capital (by cases fold <;> decide)
        (by cases fold <;> decide), List.cons_append, hbrace e.ne_brace.1.symm, List.append_assoc,
      ihb h.1, List.cons_append, hbrace e.ne_brace.2.symm, ih h.2, value]
    simp
  | directive test whenTrue rest _ _ => simp [height] at h
  | choice test whenTrue whenFalse rest _ _ _ => simp [height] at h

end Tree

end DialogueMarkup.Markup
