import DialogueMarkup.Engine
import DialogueMarkup.Proofs.ArticleOfPhrase
import DialogueMarkup.Proofs.Evaluation
import DialogueMarkup.Proofs.Vowels

/-! An article in front of a word whose braces are escaped. The article is chosen while the braces
are still escapes: those behind the first letter or digit make no difference to it, but in front of
it the name of the escape is taken for the word. -/
namespace DialogueMarkup
open Text Markup

/-- A text with escapes in the place of its braces. -/
def escapeBraces (w : List Char) : List Char :=
  w.flatMap fun c => if c = '{' then ['\\', 'B', 'O'] else if c = '}' then ['\\', 'B', 'C'] else [c]

section
variable (v w : List Char)

@[simp]
theorem escapeBraces_open : escapeBraces ('{' :: w) = '\\' :: 'B' :: 'O' :: escapeBraces w := rfl

@[simp]
theorem escapeBraces_close : escapeBraces ('}' :: w) = '\\' :: 'B' :: 'C' :: escapeBraces w := rfl

theorem escapeBraces_cons {c : Char} (hc : isNoBrace c = true) :
    escapeBraces (c :: w) = c :: escapeBraces w := by
  obtain ⟨hopen, hclose⟩ := isNoBrace_iff.mp hc
  simp [escapeBraces, hopen, hclose]

theorem escapeBraces_append : escapeBraces (v ++ w) = escapeBraces v ++ escapeBraces w :=
  List.flatMap_append

end

/-- A text is followed brace by brace. -/
theorem escapeBraces_induction {P : List Char → Prop} (nil : P [])
    (opening : ∀ w, P w → P ('{' :: w)) (closing : ∀ w, P w → P ('}' :: w))
    (other : ∀ c w, isNoBrace c = true → P w → P (c :: w)) (w : List Char) : P w := by
  induction w with
  | nil => exact nil
  | cons c w ih =>
    by_cases hopen : c = '{'
    · exact hopen ▸ opening w ih
    · by_cases hclose : c = '}'
      · exact hclose ▸ closing w ih
      · exact other c w (isNoBrace_iff.mpr ⟨hopen, hclose⟩) ih

theorem escapeBraces_of_isNoBrace {w : List Char} (h : ∀ c ∈ w, isNoBrace c = true) :
    escapeBraces w = w := by
  induction w with
  | nil => rfl
  | cons c w ih =>
    obtain ⟨hc, hw⟩ := List.forall_mem_cons.mp h
    rw [escapeBraces_cons w hc, ih hw]

/-- What holds of the characters of a word, and of those of the escapes. -/
theorem forall_mem_escapeBraces {p : Char → Prop} (hescapes : ∀ c ∈ ['\\', 'B', 'O', 'C'], p c)
    {w : List Char} (h : ∀ c ∈ w, p c) : ∀ c ∈ escapeBraces w, p c := by
  induction w using escapeBraces_induction with
  | nil => exact h
  | opening w ih =>
    rw [List.forall_mem_cons] at h
    rw [escapeBraces_open]
    simpa [hescapes] using ih h.2
  | closing w ih =>
    rw [List.forall_mem_cons] at h
    rw [escapeBraces_close]
    simpa [hescapes] using ih h.2
  | other c w hc ih =>
    rw [List.forall_mem_cons] at h
    rw [escapeBraces_cons w hc, List.forall_mem_cons]
    exact ⟨h.1, ih h.2⟩

/-! The word. -/

/-- A character of a word in front of which an article may stand. -/
structure Displayed (c : Char) : Prop where
  not_blank : isBlank c = false
  ne_escape : c ≠ '\\'
  ne_guardOpen : c ≠ guardOpen
  ne_guardClose : c ≠ guardClose

instance (c : Char) : Decidable (Displayed c) :=
  decidable_of_iff (isBlank c = false ∧ c ≠ '\\' ∧ c ≠ guardOpen ∧ c ≠ guardClose)
    ⟨fun ⟨h1, h2, h3, h4⟩ => ⟨h1, h2, h3, h4⟩,
      fun h => ⟨h.not_blank, h.ne_escape, h.ne_guardOpen, h.ne_guardClose⟩⟩

/-- A word with its braces escaped is a well-formed text that means the word. -/
theorem exists_tree_escapeBraces {w : List Char} (h : ∀ c ∈ w, Displayed c) :
    ∃ t : Tree Escape.backslash, t.height = 0 ∧ t.source = escapeBraces w ∧
      ∀ holds, t.value holds = w := by
  induction w using escapeBraces_induction with
  | nil => exact ⟨.nil, rfl, rfl, fun _ => rfl⟩
  | opening w ih =>
    obtain ⟨t, hheight, hsource, hvalue⟩ := ih (List.forall_mem_cons.mp h).2
    refine ⟨.code .openingBrace (.plain _) t, hheight, ?_, fun holds => ?_⟩
    · rw [escapeBraces_open, ← hsource]
      rfl
    · rw [Tree.value, hvalue]
      rfl
  | closing w ih =>
    obtain ⟨t, hheight, hsource, hvalue⟩ := ih (List.forall_mem_cons.mp h).2
    refine ⟨.code .closingBrace (.plain _) t, hheight, ?_, fun holds => ?_⟩
    · rw [escapeBraces_close, ← hsource]
      rfl
    · rw [Tree.value, hvalue]
      rfl
  | other c w hc ih =>
    obtain ⟨hshown, hw⟩ := List.forall_mem_cons.mp h
    obtain ⟨t, hheight, hsource, hvalue⟩ := ih hw
    obtain ⟨hopen, hclose⟩ := isNoBrace_iff.mp hc
    have hplain : Escape.backslash.Plain c :=
      ⟨hshown.ne_escape, hopen, hclose, hshown.ne_guardOpen, hshown.ne_guardClose⟩
    refine ⟨.char c hplain t, hheight, ?_, fun holds => ?_⟩
    · rw [escapeBraces_cons w hc, ← hsource]
      rfl
    · rw [Tree.value, hvalue]

/-! The article. -/

namespace English

/-- A brace stands in front of the first letter or digit of a word. -/
def braceLeads (w : List Char) : Bool :=
  (w.takeWhile fun c => !isWordCharacter c).any fun c => !isNoBrace c

/-- Behind the first letter or digit it makes no difference whether a brace is escaped. -/
theorem spokenBeginsWithVowel_escapeBraces (c : Char) (w : List Char) :
    spokenBeginsWithVowel (c :: escapeBraces w) = spokenBeginsWithVowel (c :: w) := by
  have hfront := of_mem_takeWhile isNoBrace w
  have hsplit := List.takeWhile_append_dropWhile (p := isNoBrace) (l := w)
  cases hback : w.dropWhile isNoBrace with
  | nil =>
    rw [hback, List.append_nil] at hsplit
    rw [hsplit] at hfront
    rw [escapeBraces_of_isNoBrace hfront]
  | cons x r =>
    have hx : isNoBrace x = false := by
      have hhead := List.head_dropWhile_not isNoBrace (l := w) (by simp [hback])
      simpa [hback] using hhead
    -- the first brace and the escape in its place are both breaks, behind the same front
    have hbrace : Break x := break_of_isMark (by simp [isMark, hx])
    have hescape : Break '\\' := break_of_isMark (by decide)
    obtain ⟨t, ht⟩ : ∃ t, escapeBraces (x :: r) = '\\' :: t := by
      by_cases hopen : x = '\x7b'
      · exact ⟨_, hopen ▸ escapeBraces_open r⟩
      · have hclose : x = '\x7d' := by simpa [isNoBrace, hopen] using hx
        exact ⟨_, hclose ▸ escapeBraces_close r⟩
    rw [← hsplit, hback, escapeBraces_append, escapeBraces_of_isNoBrace hfront, ht, hescape.spoken,
      hbrace.spoken]

/-- In a word with its braces escaped the name of an escape in front of the word is judged, which
begins with a consonant; otherwise the word is. -/
theorem beginsWithVowelSound_escapeBraces {w : List Char} (h : ∀ c ∈ w, isBlank c = false) :
    beginsWithVowelSound (escapeBraces w) = (!braceLeads w && beginsWithVowelSound w) := by
  have henc : ∀ c ∈ escapeBraces w, isBlank c = false :=
    forall_mem_escapeBraces (forall_mem_of_all (by decide)) h
  have hescape : isWordCharacter '\\' = false := by decide
  have hname : isWordCharacter 'B' = true := by decide
  have hopen : isWordCharacter '\x7b' = false ∧ isNoBrace '\x7b' = false := by decide
  have hclose : isWordCharacter '\x7d' = false ∧ isNoBrace '\x7d' = false := by decide
  rw [beginsWithVowelSound, beginsWithVowelSound, spokenPart_of_not_blank h,
    spokenPart_of_not_blank henc]
  clear h henc
  induction w using escapeBraces_induction with
  | nil => rfl
  | opening w _ =>
    have hletter : spokenBeginsWithVowel ('B' :: 'O' :: escapeBraces w) = false := rfl
    simp [braceLeads, hescape, hname, hopen, hletter]
  | closing w _ =>
    have hletter : spokenBeginsWithVowel ('B' :: 'C' :: escapeBraces w) = false := rfl
    simp [braceLeads, hescape, hname, hclose, hletter]
  | other c w hc ih =>
    rw [escapeBraces_cons w hc]
    cases hword : isWordCharacter c with
    | false => simpa [braceLeads, hword, hc] using ih
    | true => simp [braceLeads, hword, spokenBeginsWithVowel_escapeBraces c w]

/-- The article that stands in front of a word with its braces escaped. -/
theorem article_escapeBraces {w : List Char} (h : ∀ c ∈ w, isBlank c = false) (capital : Bool) :
    article (escapeBraces w) capital =
      if braceLeads w then [if capital then 'A' else 'a'] else article w capital := by
  rw [article, beginsWithVowelSound_escapeBraces h]
  cases hlead : braceLeads w <;> simp [article]

end English

namespace Grammar

/-! Codes of braces and articles only. -/

/-- Codes that stand for braces and articles are left as they are by all stages but the last. -/
theorem apply_of_bare {s : List Char} (hs : Escaped (fun v => bare v = true) s) :
    apply '\\' s = .ok (articles '\\' s) := by
  have hnumber (name : List Char) (hname : name ∈ numberNames) {f : Int → List Char}
      (hf : ∀ n, English.isNumeric (f n) = true) :
      replaceMarksM (readNumberCode '\\' name) (writeNumber f) s = .ok s := by
    have hstage := pays_number name hf
    refine replaceMarksM_of_marks_eq_nil ?_ _
    refine hstage.marks_eq_nil_iff.mpr (hs.mono fun v hv => ?_)
    simp [readNumberCode, readCode_of_bare hv (List.mem_append_right foldNames hname)]
  have hfold {β : Type} {next : Fold × List Char → Option (β × List Char)} (v : List Char)
      (hv : bare v = true) : (readFold '\\' ('\\' :: v) >>= next) = none := by
    rw [readFold_of_bare hv]
    rfl
  have hfoldArticles : foldArticles '\\' s = s :=
    replaceMarks_of_marks_eq_nil
      (pays_foldedArticle.marks_eq_nil_iff.mpr (hs.mono fun v => hfold v)) _
  have hfoldSpans : marks (readFoldedSpan '\\') s = [] :=
    pays_foldedSpan.marks_eq_nil_iff.mpr (hs.mono fun v => hfold v)
  have hspans : foldSpans '\\' (s.length + 1) s = s :=
    Except.ok.inj (settling_foldSpans.same s hfoldSpans)
  have hfoldChars : foldChars '\\' s = s :=
    replaceMarks_of_marks_eq_nil
      (pays_foldedChar.marks_eq_nil_iff.mpr (hs.mono fun v => hfold v)) _
  have hfolds : folds '\\' s = s := by rw [folds, hfoldArticles, hspans, hfoldChars]
  rw [apply_eq_ok (hnumber _ (by decide) English.isNumeric_cardinal)
    (hnumber _ (by decide) English.isNumeric_ordinalInWords)
    (hnumber _ (by decide) English.isNumeric_ordinal), hfolds]

/-- The names of the codes that stand for braces. -/
def braceNames : List (List Char) := [['B', 'O'], ['B', 'C']]

theorem escaped_brace {name s : List Char} (hname : name ∈ braceNames)
    (hs : Escaped (fun v => spells braceNames (fun _ => true) v = true) s) :
    Escaped (fun v => spells braceNames (fun _ => true) v = true) ('\\' :: (name ++ s)) := by
  have hspells : spells braceNames (fun _ => true) (name ++ s) = true :=
    spells_iff.mpr ⟨name, hname, .plain name, s, rfl, rfl⟩
  have hletters : ∀ name ∈ braceNames, '\\' ∉ name := by decide
  exact ⟨fun _ => hspells, Escaped.append (hletters name hname) hs⟩

/-- In a word with its braces escaped every escape is that of a brace. -/
theorem escaped_escapeBraces {w : List Char} (h : '\\' ∉ w) :
    Escaped (fun v => spells braceNames (fun _ => true) v = true) (escapeBraces w) := by
  induction w using escapeBraces_induction with
  | nil => trivial
  | opening w ih =>
    have hname : ['B', 'O'] ∈ braceNames := by decide
    rw [escapeBraces_open]
    exact escaped_brace hname (ih fun hmem => h (List.mem_cons_of_mem _ hmem))
  | closing w ih =>
    have hname : ['B', 'C'] ∈ braceNames := by decide
    rw [escapeBraces_close]
    exact escaped_brace hname (ih fun hmem => h (List.mem_cons_of_mem _ hmem))
  | other c w hc ih =>
    simp only [List.mem_cons, not_or] at h
    rw [escapeBraces_cons w hc]
    exact ⟨fun hescape => absurd hescape.symm h.1, ih h.2⟩

theorem articles_escapeBraces {w : List Char} (h : '\\' ∉ w) :
    articles '\\' (escapeBraces w) = escapeBraces w := by
  refine replaceMarks_of_marks_eq_nil (pays_articleFor.marks_eq_nil_iff.mpr ?_) _
  refine (escaped_escapeBraces h).mono fun v hv => ?_
  have hcode : readCode '\\' ['A', 'N'] ('\\' :: v) = none := readCode_of_spells hv (by decide)
  simp [readArticleFor, readArticle, hcode]

theorem nextWord_of_not_blank {w : List Char} (h : ∀ c ∈ w, isBlank c = false) :
    nextWord w = w :=
  (isFirstWord_iff.mp ⟨[], [], by simp, by simp, h, by simp, by simp⟩).symm

/-- Only the article is written in front of a word with its braces escaped. -/
theorem apply_article_escapeBraces {w : List Char} (hblank : ∀ c ∈ w, isBlank c = false)
    (hescape : '\\' ∉ w) : apply '\\' ("\\an ".toList ++ escapeBraces w) =
      .ok (English.article (escapeBraces w) false ++ ' ' :: escapeBraces w) := by
  let spelling : Spelling ['A', 'N'] := ⟨['a', 'n'], by decide⟩
  have hbare : Escaped (fun v => bare v = true) ("\\an ".toList ++ escapeBraces w) := by
    have hsubset : braceNames ⊆ bareNames := by decide
    have hcodes : Escaped (fun v => bare v = true) (escapeBraces w) :=
      (escaped_escapeBraces hescape).mono fun v hv => by
        obtain ⟨name, hname, hspells⟩ := spells_iff.mp hv
        exact bare_iff.mpr (.inr (spells_iff.mpr ⟨name, hsubset hname, hspells⟩))
    have harticle : bare (spelling.letters ++ ' ' :: escapeBraces w) = true :=
      bare_iff.mpr (.inr (spells_iff.mpr ⟨_, by decide, spelling, _, rfl, rfl⟩))
    have hletters : '\\' ∉ "an ".toList := by decide
    exact ⟨fun _ => harticle, Escaped.append hletters hcodes⟩
  have hword : nextWord (escapeBraces w) = escapeBraces w :=
    nextWord_of_not_blank (forall_mem_escapeBraces (forall_mem_of_all (by decide)) hblank)
  have harticle := articles_space spelling (escapeBraces w)
  rw [hword, articles_escapeBraces hescape] at harticle
  rw [apply_of_bare hbare]
  exact congrArg Except.ok harticle

end Grammar

/-- An article in front of a word with its braces escaped holds no directive. -/
theorem directives_article_escapeBraces (st : State) (current : Scope) {w : List Char}
    (h : ∀ c ∈ w, Displayed c) :
    Expansion.directives st current '\\' none ("\\an ".toList ++ escapeBraces w) =
      .ok ("\\an ".toList ++ escapeBraces w) := by
  have hguards : Escape.backslash.Unguarded := ⟨by decide, by decide⟩
  obtain ⟨t, hheight, hsource, -⟩ := exists_tree_escapeBraces h
  let spelling : Spelling Code.article.name := ⟨['a', 'n'], by decide⟩
  let whole : Tree Escape.backslash := .code .article spelling (.char ' ' (by decide) t)
  have hwhole : whole.source = "\\an ".toList ++ escapeBraces w := by
    rw [← hsource]
    rfl
  have hflat := Expansion.directives_of_flat st current hguards (t := whole) hheight none
  rw [hwhole] at hflat
  exact hflat

/-- Behind a text without escapes, a word with its braces escaped is decoded to the word. -/
theorem decodeBraces_append_escapeBraces {xs w : List Char} (hxs : '\\' ∉ xs)
    (h : ∀ c ∈ w, Displayed c) : decodeBraces '\\' (xs ++ escapeBraces w) = xs ++ w := by
  obtain ⟨t, hheight, hsource, hvalue⟩ := exists_tree_escapeBraces h
  have hword := Tree.decodeBraces_append_of_flat (fun _ => true) hheight []
  have hnil : decodeBraces Escape.backslash.char [] = [] := rfl
  rw [hsource, hvalue, hnil, List.append_nil, List.append_nil] at hword
  have hne : ∀ c ∈ xs, c ≠ Escape.backslash.char := fun c hc => ne_of_mem_of_not_mem hc hxs
  calc decodeBraces '\\' (xs ++ escapeBraces w)
      = xs ++ decodeBraces '\\' (escapeBraces w) := decodeBraces_append Escape.backslash hne _
    _ = xs ++ w := congrArg _ hword

namespace Engine

/-- An article in front of a word with its braces escaped is displayed as that of the word, except
where a brace leads the word: there it is always `a`. -/
theorem render_article_escapeBraces (st : State) (scope : Option Scope) {w : List Char}
    (h : ∀ c ∈ w, Displayed c) :
    (Engine.open st {}).render scope ("\\an ".toList ++ escapeBraces w) =
      .ok ((if English.braceLeads w then ['a'] else English.article w false) ++ ' ' :: w) := by
  have hblank : ∀ c ∈ w, isBlank c = false := fun c hc => (h c hc).not_blank
  have hescape : '\\' ∉ w := fun hmem => (h _ hmem).ne_escape rfl
  have hdirectives : (Engine.open st {}).directives scope ("\\an ".toList ++ escapeBraces w) =
      .ok ("\\an ".toList ++ escapeBraces w) := directives_article_escapeBraces st _ h
  have happly := Grammar.apply_article_escapeBraces hblank hescape
  rw [English.article_escapeBraces hblank] at happly
  have harticle :
      '\\' ∉ (if English.braceLeads w then ['a'] else English.article w false) ++ [' '] := by
    have hletters := (unmarked_of_isNumeric (English.isNumeric_article w false)).not_mem
    split
    · decide
    · simp [hletters]
  have hdisplayed := decodeBraces_append_escapeBraces harticle h
  rw [List.append_assoc, List.append_assoc] at hdisplayed
  rw [Engine.render_eq_ok hdirectives happly]
  exact congrArg Except.ok hdisplayed

theorem render_article_escapeBraces_egg :
    (Engine.open {} {}).render none "\\an egg\\BOs\\BC".toList = .ok "an egg\x7bs\x7d".toList := by
  have hshown : ∀ c ∈ "egg\x7bs\x7d".toList, Displayed c := forall_mem_of_all (by decide)
  have hlead : English.braceLeads "egg\x7bs\x7d".toList = false := by decide
  have harticle : English.article "egg\x7bs\x7d".toList false = "an".toList := by decide
  have hrender := render_article_escapeBraces {} none hshown
  rw [hlead, harticle] at hrender
  exact hrender

/-- A brace in front of an apple takes the vowel from it. -/
theorem not_render_article_of_braceLeads : ¬ ∀ w : List Char, w ≠ [] → (∀ c ∈ w, Displayed c) →
    (Engine.open {} {}).render none ("\\an ".toList ++ escapeBraces w) =
      .ok (English.article w false ++ ' ' :: w) := by
  intro h
  have hrender : (Engine.open {} {}).render none "\\an \\BOapple".toList =
      .ok "a \x7bapple".toList := rfl
  have harticle : English.article "\x7bapple".toList false = "an".toList := rfl
  have hsame := h "\x7bapple".toList (by decide) (forall_mem_of_all (by decide))
  rw [harticle] at hsame
  exact absurd (Except.ok.inj (hrender.symm.trans hsame)) (by decide)

end Engine

end DialogueMarkup
