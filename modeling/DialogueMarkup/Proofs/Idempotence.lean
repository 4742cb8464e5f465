import DialogueMarkup.Proofs.Escaped

/-! Grammar codes written out a second time. A text that holds a code is never its own result, one
that holds none always is, and writing the codes out again and again comes to an end; codes that
stand apart are all written out the first time. -/
namespace DialogueMarkup
open Text Markup

namespace Grammar

/-! Folded spans. -/

/-- A name of a code that may stand in a folded span. -/
theorem mem_codeKeys {name : List Char} (hname : name ∈ bareNames ++ foldNames) :
    ∀ w ∈ name, (caseKey w).toNat ∈ codeKeys := by
  have hkeys : ∀ w ∈ (bareNames ++ foldNames).flatten, (caseKey w).toNat ∈ codeKeys :=
    forall_mem_of_all (by decide)
  exact fun w hw => hkeys w (List.mem_flatten.mpr ⟨name, hname, hw⟩)

/-- A character of ASCII that no name begins with stays one in any case. -/
theorem startsOther_of_folds {c : Char} {xs s : List Char} (h : Folds c xs)
    (hc : startsOther (c :: s) = true) (u : List Char) : startsOther (xs ++ u) = true := by
  obtain ⟨hlt, hmark, hclash⟩ := startsOther_cons.mp hc
  obtain ⟨d, rfl, hdlt, hsame⟩ := h.ascii hlt
  refine startsOther_cons.mpr ⟨hdlt, ?_, fun name hname => ?_⟩
  · cases hd : isMark d with
    | false => rfl
    | true =>
      obtain rfl := h.mark d List.mem_cons_self hd
      exact hd.symm.trans hmark
  · have hname := hclash name hname
    cases name with
    | nil => cases hname
    | cons w name => simpa [clash, sameLetter, hsame] using hname

section
variable {span rest t u : List Char} (h : Folded span t)
include h

/-- A code in a span stays that code when the span is folded. -/
theorem spells_of_folded {names : List (List Char)} {next next' : List Char → Bool}
    (hnames : names ⊆ bareNames ++ foldNames)
    (hv : spells names next (span ++ '\x7d' :: rest) = true)
    (hnext : ∀ span' t', Folded span' t' → next (span' ++ '\x7d' :: rest) = true →
      next' (t' ++ u) = true) : spells names next' (t ++ u) = true := by
  obtain ⟨name, hname, spelling, after, heq, hafter⟩ := spells_iff.mp hv
  have hcodes : bareNames ++ foldNames ⊆ codeNames := by decide
  have hmem := hcodes (hnames hname)
  -- the closing brace is no letter, so that the whole code stands in the span
  obtain ⟨span', rfl, rfl⟩ : ∃ span', span = spelling.letters ++ span' ∧
      after = span' ++ '\x7d' :: rest := by
    rcases List.append_eq_append_iff.mp heq with ⟨more, hletters, hmore⟩ | ⟨more, hspan, hmore⟩
    · cases more with
      | nil => exact ⟨[], by simpa using hletters.symm, by simpa using hmore.symm⟩
      | cons c more =>
        obtain ⟨rfl, -⟩ := List.cons.inj hmore
        have hin : '\x7d' ∈ spelling.letters := by simp [hletters]
        exact absurd (unmarked_letters hmem spelling _ hin) (by decide)
    · exact ⟨more, hspan, hmore⟩
  obtain ⟨letters, t', rfl, hletters, ht'⟩ := h.append
  obtain ⟨spelling', rfl⟩ := hletters.spelling (mem_codeKeys (hnames hname))
  refine spells_iff.mpr ⟨name, hname, spelling', t' ++ u, by simp, ?_⟩
  exact hnext span' t' ht' hafter

theorem bare_of_folded (hv : bare (span ++ '\x7d' :: rest) = true) : bare (t ++ u) = true := by
  rcases bare_iff.mp hv with hother | hspells
  · cases h with
    | nil => exact absurd (startsOther_cons.mp hother).2.1 (by decide)
    | cons hc _ =>
      rw [List.append_assoc]
      exact bare_iff.mpr (.inl (startsOther_of_folds hc hother _))
  · exact bare_iff.mpr (.inr (spells_of_folded h (by decide) hspells fun _ _ _ _ => rfl))

theorem follows_of_folded (hv : follows [] (span ++ '\x7d' :: rest) = true) :
    follows [] (t ++ u) = true := by
  rw [follows_iff] at hv ⊢
  cases h with
  | nil => simp at hv
  | @cons c xs span t hc hrest =>
    obtain ⟨d, xs, rfl⟩ := List.exists_cons_of_ne_nil hc.ne_nil
    simp only [List.cons_append, List.cons.injEq] at hv ⊢
    rcases hv with hnil | ⟨s, ⟨rfl, rfl⟩, hs⟩ | ⟨c', s, ⟨rfl, rfl⟩, hescape, hclose⟩
    · cases hnil
    · have hxs := hc.escape rfl
      simp only [List.cons.injEq] at hxs
      obtain ⟨rfl, rfl⟩ := hxs
      rw [simple_nil] at hs
      exact .inr (.inl ⟨t ++ u, by simp, by rw [simple_nil]; exact bare_of_folded hrest hs⟩)
    · have hmark : ∀ x, isMark x = true → x = d → c = x := by
        rintro x hx rfl
        exact hc.mark x List.mem_cons_self hx
      refine .inr (.inr ⟨d, _, ⟨rfl, rfl⟩, ?_, ?_⟩)
      · rintro rfl
        exact hescape (hmark _ (by decide) rfl)
      · rintro rfl
        exact hclose (hmark _ (by decide) rfl)

theorem apart_of_folded (hv : apart [] (span ++ '\x7d' :: rest) = true) :
    apart [] (t ++ u) = true := by
  rw [apart_iff, simple_nil] at hv ⊢
  rcases hv with hbare | hspells
  · exact .inl (bare_of_folded h hbare)
  · exact .inr (spells_of_folded h (by decide) hspells fun _ _ h => follows_of_folded h)

/-- The codes in a span still stand apart when it has been folded. -/
theorem Apart.folded (hs : Apart [] (span ++ '\x7d' :: rest)) (hu : Apart [] u) :
    Apart [] (t ++ u) := by
  induction h with
  | nil => exact hu
  | @cons c xs span t hc hrest ih =>
    rw [List.append_assoc]
    by_cases hmem : '\\' ∈ xs
    · -- an escape is only folded from an escape, whose code is folded with the rest of the span
      obtain rfl := hc.mark _ hmem rfl
      rw [hc.escape rfl]
      have htail : apart [] (t ++ u) = true := apart_of_folded hrest (hs.1 rfl)
      exact ⟨fun _ => htail, ih hs.2⟩
    · exact Escaped.append hmem (ih hs.2)

end

/-! Stages that leave codes apart. -/

/-- The letters of a number, or an argument that is no number. -/
theorem unmarked_of_writeNumber {f : Int → List Char} (hf : ∀ n, English.isNumeric (f n) = true)
    {argument part : List Char} (hblank : trim argument ≠ []) (hargument : Unmarked argument)
    (h : writeNumber f argument = .ok part) : part ≠ [] ∧ Unmarked part := by
  unfold writeNumber at h
  split at h
  · cases h
    exact ⟨hblank, fun c hc => hargument c ((trim_isInfix argument).subset hc)⟩
  · rename_i n _
    cases n with
    | error fault => cases h
    | ok n =>
      cases h
      refine ⟨fun hnil => ?_, unmarked_of_isNumeric (hf n)⟩
      have hn := hf n
      rw [hnil] at hn
      cases hn

theorem apart_number {name : List Char} {later : List (List Char)}
    (hnames : name :: later ⊆ numberNames)
    (hclash : ∀ other ∈ later, clash name (other ++ ['[']) = true) {f : Int → List Char}
    (hf : ∀ n, English.isNumeric (f n) = true) {s t : List Char} (hs : Apart (name :: later) s)
    (ht : replaceMarksM (readNumberCode '\\' name) (writeNumber f) s = .ok t) : Apart later t := by
  obtain ⟨hname, hlater⟩ := List.cons_subset.mp hnames
  have hcodes : ∀ name ∈ numberNames, name ∈ codeNames ∧ name ∈ foldNames ++ numberNames ∧
      ∀ other ∈ foldNames, clash name other = true := by decide
  have hnone : ∀ v, readCode '\\' name ('\\' :: v) = none →
      readNumberCode '\\' name ('\\' :: v) = none := by
    intro v hr
    simp [readNumberCode, hr]
  refine (pays_number name hf).apart (fun other hother => (hcodes other (hlater hother)).1)
    (fun v hv => ?_) (fun v a rest part u hv _ hr _ _ => ?_) hs ht
  · rcases simple_iff.mp hv with hbare | hspells
    · exact .inl ⟨hnone v (readCode_of_bare hbare (hcodes name hname).2.1),
        simple_iff.mpr (.inl hbare)⟩
    · obtain ⟨other, hother, spelling, rest, rfl, hclear⟩ := spells_iff.mp hspells
      rcases List.mem_cons.mp hother with rfl | hother
      · obtain ⟨argument, after, hargument, hblank, hunmarked⟩ := clear_iff.mp hclear
        refine .inr ⟨argument, after, ?_, fun part => unmarked_of_writeNumber hf hblank hunmarked⟩
        simp [readNumberCode, readCode_spelling spelling rest, hargument]
      · have hlater : spells later clear (spelling.letters ++ rest) = true :=
          spells_iff.mpr ⟨other, hother, spelling, rest, rfl, hclear⟩
        exact .inl ⟨hnone _ (readCode_of_spells_clear hlater hclash),
          simple_iff.mpr (.inr hlater)⟩
  · rw [hnone v (readCode_of_spells hv (hcodes name hname).2.2)] at hr
    cases hr

theorem apart_foldArticles {s : List Char} (hs : Apart [] s) : Apart [] (foldArticles '\\' s) := by
  refine pays_foldedArticle.apart (List.nil_subset _) (fun v hv => ?_)
    (fun v ⟨fold, code⟩ rest part u _ _ hr ha hu => ?_) hs
    (replaceMarksM_ok pays_foldedArticle.consumes _ s)
  · rw [simple_nil] at hv
    refine .inl ⟨?_, simple_iff.mpr (.inl hv)⟩
    simp [readFoldedArticle, readFold_of_bare hv]
  · obtain ⟨-, spelling, hcode, -⟩ := readFoldedArticle_backslash hr
    obtain rfl : code = ('\\', spelling.letters) := hcode
    cases ha
    have hfolded := folded_apply fold spelling.letters
    obtain ⟨spelling', hspelling⟩ := hfolded.spelling (mem_codeKeys (by decide))
    have hspells : spells bareNames (fun _ => true) (spelling'.letters ++ u) = true :=
      spells_iff.mpr ⟨_, by decide, spelling', u, rfl, rfl⟩
    have hletters : '\\' ∉ spelling'.letters := (unmarked_letters (by decide) spelling').not_mem
    dsimp only
    rw [hspelling]
    exact ⟨fun _ => apart_iff.mpr (.inl (simple_iff.mpr (.inl (bare_iff.mpr (.inr hspells))))),
      Escaped.append hletters hu⟩

theorem apart_foldSpansOnce {s : List Char} (hs : Apart [] s) :
    Apart [] (foldSpansOnce '\\' s) := by
  refine pays_foldedSpan.apart (List.nil_subset _) (fun v hv => ?_)
    (fun v ⟨fold, span⟩ rest part u _ hv hr ha hu => ?_) hs
    (replaceMarksM_ok pays_foldedSpan.consumes _ s)
  · rw [simple_nil] at hv
    refine .inl ⟨?_, simple_iff.mpr (.inl hv)⟩
    simp [readFoldedSpan, readFold_of_bare hv]
  · obtain ⟨letters, hcode⟩ := readFoldedSpan_backslash hr
    obtain rfl := (List.cons.inj hcode).2
    cases ha
    -- the codes of the span stand in front of its closing brace
    have hspan : '\\' :: (letters ++ (spanSource span ++ rest)) =
        ('\\' :: (letters ++ ['\x7b'])) ++ (span ++ '\x7d' :: rest) := by simp [spanSource]
    rw [hspan] at hv
    exact Apart.folded (folded_apply fold span) hv.right hu

theorem apart_foldSpans (rounds : Nat) {s : List Char} (hs : Apart [] s) :
    Apart [] (foldSpans '\\' rounds s) := by
  induction rounds generalizing s with
  | zero => exact hs
  | succ rounds ih =>
    rw [foldSpans]
    split
    · exact hs
    · exact ih (apart_foldSpansOnce hs)

/-! Stages that leave no codes. -/

/-- An opening brace of no span. -/
def unclosed (v : List Char) : Bool := v.head? == some '\x7b' && (readSpan v).isNone

/-- What follows an escape when case has been folded. -/
def folded (v : List Char) : Bool := bare v || spells foldNames unclosed v

section
variable {v : List Char}

theorem head?_dropWhile_isNoBrace (s : List Char) :
    (s.dropWhile isNoBrace).head? = (braces s).head? := by
  induction s with
  | nil => rfl
  | cons c s ih => cases hc : isNoBrace c <;> simp [braces, hc, ih]

theorem unclosed_iff : unclosed v = true ↔
    ∃ s, v = '\x7b' :: s ∧ (braces s).head? ≠ some '\x7d' := by
  match v with
  | [] => simp [unclosed]
  | c :: s =>
    by_cases hc : c = '\x7b'
    · subst hc
      simp only [List.cons.injEq, true_and, exists_eq_left', ← head?_dropWhile_isNoBrace]
      cases hrest : s.dropWhile isNoBrace with
      | nil => simp [unclosed, readSpan, readChar, hrest]
      | cons d rest => simp [unclosed, readSpan, readChar, hrest]
    · simp [unclosed, hc]

theorem folded_iff : folded v = true ↔ bare v = true ∨ spells foldNames unclosed v = true :=
  Bool.or_eq_true_iff

/-- What the folding of single characters finds when spans have been folded: no mark, or a fold of
a character that is no brace and may be the escape of a code. -/
theorem readFoldedChar_of_apart (hv : apart [] v = true)
    (hspan : readFoldedSpan '\\' ('\\' :: v) = none) :
    folded v = true ∧ readFoldedChar '\\' ('\\' :: v) = none ∨
    ∃ fold chars letters s, readFoldedChar '\\' ('\\' :: v) = some ((fold, chars), s) ∧
      v = letters ++ (chars ++ s) ∧ Unmarked letters ∧ (∀ c ∈ chars, isNoBrace c = true) ∧
      ('\\' ∈ chars → chars = ['\\'] ∧ bare s = true) := by
  rw [apart_iff, simple_nil] at hv
  rcases hv with hbare | hspells
  · exact .inl ⟨folded_iff.mpr (.inl hbare), by simp [readFoldedChar, readFold_of_bare hbare]⟩
  · obtain ⟨name, hname, spelling, rest, rfl, hfollows⟩ := spells_iff.mp hspells
    obtain ⟨fold, hfold⟩ := readFold_spelling hname spelling rest
    have hcode : name ∈ codeNames := List.mem_append_right _ (List.mem_append_left _ hname)
    have hletters := unmarked_letters hcode spelling
    simp only [readFoldedChar, readFoldedSpan, hfold, Option.bind_eq_bind, Option.bind_some]
      at hspan ⊢
    rcases follows_iff.mp hfollows with rfl | ⟨s, rfl, hs⟩ | ⟨c, s, rfl, hescape, hclose⟩
    · exact .inr ⟨fold, [], _, [], rfl, rfl, hletters, by simp, by simp⟩
    · rw [simple_nil] at hs
      exact .inr ⟨fold, ['\\'], _, s, rfl, rfl, hletters, by simp [isNoBrace], fun _ => ⟨rfl, hs⟩⟩
    · by_cases hopen : c = '\x7b'
      · subst hopen
        have hunclosed : unclosed ('\x7b' :: s) = true := by
          cases hread : readSpan ('\x7b' :: s) with
          | none => simp [unclosed, hread]
          | some r =>
            rw [hread] at hspan
            cases hspan
        have hspells := spells_iff.mpr ⟨name, hname, spelling, _, rfl, hunclosed⟩
        exact .inl ⟨folded_iff.mpr (.inr hspells), rfl⟩
      · have hbrace : isNoBrace c = true := isNoBrace_iff.mpr ⟨hopen, hclose⟩
        exact .inr ⟨fold, [c], _, s, if_neg hopen, rfl, hletters, by simpa using hbrace,
          fun hmem => absurd (List.mem_singleton.mp hmem).symm hescape⟩

end

section
variable {α : Type} {read : Reader α} {write : α → Except NumeralFault (List Char)}
  (h : Pays read write) {v w : List Char}
include h

theorem Pays.unclosed (hv : unclosed v = true) (hw : replaceMarksM read write v = .ok w)
    (hbraces : braces w = braces v) : Grammar.unclosed w = true := by
  obtain ⟨s, rfl, hs⟩ := unclosed_iff.mp hv
  obtain ⟨u, -, rfl⟩ := replaceMarksM_cons_eq_ok (h.eq_none_of_ne (by decide) s) hw
  have hcut : ∀ s, braces ('\x7b' :: s) = '\x7b' :: braces s := fun s => rfl
  rw [hcut, hcut, List.cons.injEq] at hbraces
  exact unclosed_iff.mpr ⟨u, rfl, hbraces.2 ▸ hs⟩

theorem Pays.folded {P : List Char → Prop} (hs : Escaped P v) (hv : folded v = true)
    (hw : replaceMarksM read write v = .ok w)
    (hmark : ∀ code a rest part, P (code ++ rest) →
      read ('\\' :: (code ++ rest)) = some (a, rest) → write a = .ok part →
      braces part = braces code) : Grammar.folded w = true := by
  rcases folded_iff.mp hv with hbare | hspells
  · exact folded_iff.mpr (.inl (h.bare hbare hw))
  · refine folded_iff.mpr (.inr (h.spells (by decide) hspells hw ?_))
    intro rest u hrest hunclosed hu
    obtain ⟨letters, rfl⟩ := hrest
    exact h.unclosed hunclosed hu (h.braces_eq hs.right hu hmark)

end

/-- Folding single characters leaves no fold but that of an opening brace of no span. -/
theorem folded_foldChars {s : List Char} (hs : Apart [] s)
    (hspans : marks (readFoldedSpan '\\') s = []) :
    Escaped (fun v => folded v = true) (foldChars '\\' s) := by
  have hmark : ∀ code (m : Fold × List Char) rest part,
      (apart [] (code ++ rest) = true ∧ readFoldedSpan '\\' ('\\' :: (code ++ rest)) = none) →
      readFoldedChar '\\' ('\\' :: (code ++ rest)) = some (m, rest) →
      (Except.ok (m.1.apply m.2) : Except NumeralFault (List Char)) = .ok part →
      braces part = braces code := by
    rintro code ⟨fold, chars⟩ rest part ⟨hv, hspan⟩ hr ⟨⟩
    rcases readFoldedChar_of_apart hv hspan with
      ⟨-, hnone⟩ | ⟨_, _, letters, _, hsome, heq, hletters, hchars, -⟩
    · rw [hr] at hnone
      cases hnone
    · rw [hr] at hsome
      cases hsome
      rw [← List.append_assoc, List.append_left_inj] at heq
      rw [heq, braces_append, braces_eq_nil hletters.isNoBrace, braces_eq_nil hchars]
      exact braces_eq_nil ((folded_apply fold chars).isNoBrace hchars)
  have hboth := Escaped.and hs (pays_foldedSpan.marks_eq_nil_iff.mp hspans)
  refine pays_foldedChar.escaped hboth (replaceMarksM_ok pays_foldedChar.consumes _ s)
    (fun v w hv hr hw => ?_) (fun v m rest part u hv hr ha hrest hu => ?_)
  · obtain ⟨hapart, hspan⟩ := hv.1 rfl
    rcases readFoldedChar_of_apart hapart hspan with ⟨hfolded, -⟩ | ⟨_, _, _, _, hsome, -⟩
    · exact pays_foldedChar.folded hv.2 hfolded hw hmark
    · rw [hr] at hsome
      cases hsome
  · obtain ⟨hapart, hspan⟩ := hv.1 rfl
    rcases readFoldedChar_of_apart hapart hspan with
      ⟨-, hnone⟩ | ⟨fold, chars, _, _, hsome, -, -, -, hescape⟩
    · rw [hr] at hnone
      cases hnone
    · rw [hr] at hsome
      cases hsome
      cases ha
      by_cases hmem : '\\' ∈ chars
      · -- the fold is gone, and the escape it was applied to still has its code behind it
        obtain ⟨rfl, hbare⟩ := hescape hmem
        have hsame : fold.apply ['\\'] = ['\\'] := by cases fold <;> rfl
        dsimp only
        rw [hsame]
        exact ⟨fun _ => folded_iff.mpr (.inl (pays_foldedChar.bare hbare hrest)), hu⟩
      · exact Escaped.append (fun hin => hmem ((folded_apply fold chars).mem_of_isMark rfl hin)) hu

/-! Articles. -/

/-- No article: a code by another name, or one that a letter follows. -/
def noArticle (v : List Char) : Bool :=
  startsOther v || spells (foldNames ++ [['B', 'O'], ['B', 'C']]) (fun _ => true) v ||
    spells [['A', 'N']] startsWithLetter v

section
variable {v : List Char}

theorem noArticle_iff : noArticle v = true ↔ startsOther v = true ∨
    spells (foldNames ++ [['B', 'O'], ['B', 'C']]) (fun _ => true) v = true ∨
    spells [['A', 'N']] startsWithLetter v = true := by
  simp [noArticle, or_assoc]

theorem readArticle_spelling (spelling : Spelling ['A', 'N']) (rest : List Char) :
    readArticle '\\' ('\\' :: (spelling.letters ++ rest)) =
      if startsWithLetter rest then none else some (('\\', spelling.letters), rest) := by
  simp only [readArticle, readCode_spelling, Option.bind_eq_bind, Option.bind_some]
  split <;> rfl

theorem readArticle_of_noArticle (hv : noArticle v = true) :
    readArticle '\\' ('\\' :: v) = none := by
  have hnone : readCode '\\' ['A', 'N'] ('\\' :: v) = none →
      readArticle '\\' ('\\' :: v) = none := by
    intro hr
    simp [readArticle, hr]
  rcases noArticle_iff.mp hv with hother | hspells | hspells
  · exact hnone (readCode_of_startsOther hother (by decide))
  · exact hnone (readCode_of_spells hspells (by decide))
  · obtain ⟨name, hname, spelling, rest, rfl, hletter⟩ := spells_iff.mp hspells
    obtain rfl := List.mem_singleton.mp hname
    rw [readArticle_spelling, if_pos hletter]

theorem noArticle_of_folded (hv : folded v = true) (hr : readArticle '\\' ('\\' :: v) = none) :
    noArticle v = true := by
  rw [noArticle_iff]
  rcases folded_iff.mp hv with hbare | hspells
  · rcases bare_iff.mp hbare with hother | hspells
    · exact .inl hother
    · obtain ⟨name, hname, spelling, rest, rfl, -⟩ := spells_iff.mp hspells
      right
      have hnames : ∀ name ∈ bareNames, name ∈ foldNames ++ [['B', 'O'], ['B', 'C']] ∨
          name = ['A', 'N'] := by decide
      rcases hnames name hname with hother | rfl
      · exact .inl (spells_iff.mpr ⟨name, hother, spelling, rest, rfl, rfl⟩)
      · rw [readArticle_spelling] at hr
        refine .inr (spells_iff.mpr ⟨_, List.mem_singleton_self _, spelling, rest, rfl, ?_⟩)
        cases hletter : startsWithLetter rest with
        | true => rfl
        | false =>
          rw [hletter] at hr
          cases hr
  · obtain ⟨name, hname, spelling, rest, rfl, -⟩ := spells_iff.mp hspells
    exact .inr (.inl (spells_iff.mpr
      ⟨name, List.mem_append_left _ hname, spelling, rest, rfl, rfl⟩))

theorem Pays.noArticle {α : Type} {read : Reader α} {write : α → Except NumeralFault (List Char)}
    (h : Pays read write) {w : List Char} (hv : noArticle v = true)
    (hw : replaceMarksM read write v = .ok w) : Grammar.noArticle w = true := by
  rw [noArticle_iff] at hv ⊢
  rcases hv with hother | hspells | hspells
  · exact .inl (h.startsOther hother hw)
  · exact .inr (.inl (h.spells (by decide) hspells hw fun _ _ _ _ _ => rfl))
  · refine .inr (.inr (h.spells (by decide) hspells hw fun rest u _ hletter hu => ?_))
    match rest with
    | [] => cases hletter
    | c :: rest =>
      have hc : c ≠ '\\' := by
        rintro rfl
        have hletter : isLatinLetter '\\' = true := hletter
        exact absurd hletter (by decide)
      obtain ⟨u, -, rfl⟩ := replaceMarksM_cons_eq_ok (h.eq_none_of_ne hc rest) hu
      exact hletter

end

/-- Writing the articles out leaves no article. -/
theorem noArticle_articles {s : List Char} (hs : Escaped (fun v => folded v = true) s) :
    Escaped (fun v => folded v = true ∧ noArticle v = true) (articles '\\' s) := by
  have hmark : ∀ code (m : Bool × List Char) rest part, folded (code ++ rest) = true →
      readArticleFor '\\' ('\\' :: (code ++ rest)) = some (m, rest) →
      (Except.ok (English.article m.2 m.1) : Except NumeralFault (List Char)) = .ok part →
      braces part = braces code := by
    rintro code m rest part - hr ⟨⟩
    obtain ⟨spelling, heq⟩ := readArticleFor_backslash hr
    rw [List.cons.injEq, List.append_left_inj] at heq
    obtain ⟨-, rfl⟩ := heq
    have harticle := unmarked_of_isNumeric (English.isNumeric_article m.2 m.1)
    rw [braces_eq_nil harticle.isNoBrace,
      braces_eq_nil (unmarked_letters (by decide) spelling).isNoBrace]
  refine pays_articleFor.escaped hs (replaceMarksM_ok pays_articleFor.consumes _ s)
    (fun v w hv hr hw => ?_) (fun v m rest part u hv hr ha hrest hu => ?_)
  · have harticle : readArticle '\\' ('\\' :: v) = none := by
      cases hread : readArticle '\\' ('\\' :: v) with
      | none => rfl
      | some r => simp [readArticleFor, hread] at hr
    exact ⟨pays_articleFor.folded hv.2 (hv.1 rfl) hw hmark,
      pays_articleFor.noArticle (noArticle_of_folded (hv.1 rfl) harticle) hw⟩
  · cases ha
    exact Escaped.append (unmarked_of_isNumeric (English.isNumeric_article m.2 m.1)).not_mem hu

/-! The whole writing. -/

theorem readCode_of_folded {name v : List Char} (hname : name ∈ numberNames)
    (hv : folded v = true) : readCode '\\' name ('\\' :: v) = none := by
  rcases folded_iff.mp hv with hbare | hspells
  · exact readCode_of_bare hbare (List.mem_append_right _ hname)
  · have hclash : ∀ name ∈ numberNames, ∀ other ∈ foldNames, clash name other = true := by decide
    exact readCode_of_spells hspells (hclash name hname)

/-- A fold that is left stands in front of an opening brace of no span. -/
theorem unclosed_of_readFold {v rest : List Char} {fold : Fold} (hv : folded v = true)
    (hr : readFold '\\' ('\\' :: v) = some (fold, rest)) : unclosed rest = true := by
  rcases folded_iff.mp hv with hbare | hspells
  · rw [readFold_of_bare hbare] at hr
    cases hr
  · obtain ⟨name, hname, spelling, after, rfl, hunclosed⟩ := spells_iff.mp hspells
    obtain ⟨fold', hfold⟩ := readFold_spelling hname spelling after
    rw [hfold] at hr
    cases hr
    exact hunclosed

/-- Nothing is left to write where no code is an article and every fold stands in front of an
opening brace of no span. -/
theorem written_of_escaped {s : List Char}
    (hs : Escaped (fun v => folded v = true ∧ noArticle v = true) s) : Written '\\' s := by
  have hnumber : ∀ name ∈ numberNames, ∀ {f : Int → List Char},
      (∀ n, English.isNumeric (f n) = true) → marks (readNumberCode '\\' name) s = [] := by
    intro name hname f hf
    refine (pays_number name hf).marks_eq_nil_iff.mpr (hs.mono fun v hv => ?_)
    simp [readNumberCode, readCode_of_folded hname hv.1]
  have hfold : ∀ v, folded v = true → readFold '\\' ('\\' :: v) = none ∨
      ∃ fold rest, readFold '\\' ('\\' :: v) = some (fold, '\x7b' :: rest) ∧
        readSpan ('\x7b' :: rest) = none := by
    intro v hv
    cases hr : readFold '\\' ('\\' :: v) with
    | none => exact .inl rfl
    | some r =>
      have hunclosed := unclosed_of_readFold hv hr
      obtain ⟨rest, hrest, -⟩ := unclosed_iff.mp hunclosed
      simp only [unclosed, hrest, Bool.and_eq_true, Option.isNone_iff_eq_none] at hunclosed
      exact .inr ⟨r.1, rest, by rw [← hrest], hunclosed.2⟩
  refine ⟨hnumber _ (by decide) English.isNumeric_cardinal,
    hnumber _ (by decide) English.isNumeric_ordinalInWords,
    hnumber _ (by decide) English.isNumeric_ordinal, ?_, ?_, ?_, ?_⟩
  · refine pays_foldedArticle.marks_eq_nil_iff.mpr (hs.mono fun v hv => ?_)
    rcases hfold v hv.1 with hnone | ⟨fold, rest, hsome, -⟩
    · simp [readFoldedArticle, hnone]
    · have hother : sameLetter '\\' '\x7b' = false := by decide
      simp [readFoldedArticle, hsome, readArticle, readCode, readEscape, hother]
  · refine pays_foldedSpan.marks_eq_nil_iff.mpr (hs.mono fun v hv => ?_)
    rcases hfold v hv.1 with hnone | ⟨fold, rest, hsome, hspan⟩
    · simp [readFoldedSpan, hnone]
    · simp [readFoldedSpan, hsome, hspan]
  · refine pays_foldedChar.marks_eq_nil_iff.mpr (hs.mono fun v hv => ?_)
    rcases hfold v hv.1 with hnone | ⟨fold, rest, hsome, -⟩
    · simp [readFoldedChar, hnone]
    · simp [readFoldedChar, hsome]
  · refine pays_articleFor.marks_eq_nil_iff.mpr (hs.mono fun v hv => ?_)
    simp [readArticleFor, readArticle_of_noArticle hv.2]

/-- Codes that stand apart are all written out. -/
theorem written_of_apart {t r : List Char} (ht : Apart numberNames t) (h : apply '\\' t = .ok r) :
    Written '\\' r := by
  obtain ⟨cardinals, hcardinals, h⟩ := bind_eq_ok h
  obtain ⟨numbers, hordinals, hr⟩ := bind_eq_ok h
  obtain ⟨words, hwords, hnumbers⟩ := bind_eq_ok hordinals
  cases hr
  have hfirst := apart_number (by decide) (by decide) English.isNumeric_cardinal ht hcardinals
  have hsecond :=
    apart_number (by decide) (by decide) English.isNumeric_ordinalInWords hfirst hwords
  have hthird := apart_number (by decide) (by decide) English.isNumeric_ordinal hsecond hnumbers
  have hspans :=
    apart_foldSpans ((foldArticles '\\' numbers).length + 1) (apart_foldArticles hthird)
  have hmarks : marks (readFoldedSpan '\\') (foldSpans '\\' _ (foldArticles '\\' numbers)) = [] :=
    not_holdsSpan_iff.mp (not_holdsSpan_foldSpans (Nat.le_succ_of_le List.count_le_length))
  exact written_of_escaped (noArticle_articles (folded_foldChars hspans hmarks))

/-- What is made of a text is its own result if and only if no grammar code is left in it. A text
that is not its own result loses an escape, so that writing the codes out as many times as a text
has escapes makes a text that is; if the codes stand apart, once is enough. -/
theorem apply_eq_self_iff_of_eq_ok {t r : List Char} (h : apply '\\' t = .ok r) :
    (apply '\\' r = .ok r ↔ Written '\\' r) ∧ (r = t ∨ escapes r < escapes t) ∧
    (∀ n s, escapes t ≤ n → times (apply '\\') n t = .ok s → apply '\\' s = .ok s) ∧
    (Apart numberNames t → apply '\\' r = .ok r) := by
  refine ⟨settling_apply.eq_self_iff, ?_, fun n s hn hs => ?_, fun ht => ?_⟩
  · exact (settling_apply.eq_or_fewer h).imp_left And.right
  · exact settling_apply.eq_self_iff.mpr (settling_apply.written_of_times hn hs)
  · exact settling_apply.eq_self_iff.mpr (written_of_apart ht h)

theorem apply_eq_self_iff_of_eq_ok_ogre :
    apply '\\' "\\AN \\UP\x7bogre\x7d has \\NUMWORD[2] clubs".toList =
      .ok "An OGRE has two clubs".toList ∧
    Apart numberNames "\\AN \\UP\x7bogre\x7d has \\NUMWORD[2] clubs".toList ∧
    apply '\\' "An OGRE has two clubs".toList = .ok "An OGRE has two clubs".toList := by
  have hfirst : apply '\\' "\\AN \\UP\x7bogre\x7d has \\NUMWORD[2] clubs".toList =
      .ok "An OGRE has two clubs".toList := rfl
  have hapart : Apart numberNames "\\AN \\UP\x7bogre\x7d has \\NUMWORD[2] clubs".toList := by decide
  exact ⟨hfirst, hapart, (apply_eq_self_iff_of_eq_ok hfirst).2.2.2 hapart⟩

/-- A number code in the argument of another is written out only the second time. -/
theorem not_apply_eq_self : ¬ ∀ t r : List Char,
    apply '\\' t = .ok r → apply '\\' r = .ok r := by
  intro h
  have hfirst : apply '\\' "\\NUMWORD[\\NUMWORD[3]]".toList = .ok "\\NUMWORD[3]".toList := rfl
  have hsecond : apply '\\' "\\NUMWORD[3]".toList = .ok "three".toList := rfl
  have hsame := Except.ok.inj (hsecond.symm.trans (h _ _ hfirst))
  revert hsame
  decide

end Grammar
end DialogueMarkup
