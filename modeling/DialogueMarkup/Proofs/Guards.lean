import DialogueMarkup.Proofs.Escape
import DialogueMarkup.Proofs.Passes

/-! Braces and their guards. A text that has been guarded stays well nested, and its opening guards
stay behind the codes they were put behind, whatever is taken from between two braces; if no case
span has come up since, guarding it anew puts every guard back into its place. -/
namespace DialogueMarkup.Markup
open Text

/-- The braces and their guards. -/
def bounds : List Char := ['{', '}', guardOpen, guardClose]

theorem isNoBrace_iff {c : Char} : isNoBrace c = true ↔ c ≠ '{' ∧ c ≠ '}' := by
  simp [isNoBrace]

section
variable {c : Char}

theorem mem_bounds : c ∈ bounds ↔ c = '{' ∨ c = '}' ∨ c = guardOpen ∨ c = guardClose := by
  simp [bounds]

/-- No bound is the other case of anything. -/
theorem uncased_of_mem_bounds (h : c ∈ bounds) : Uncased c := by
  rcases mem_bounds.mp h with rfl | rfl | rfl | rfl
  all_goals exact ⟨by decide, by decide, by decide, forall_mem_of_all (by decide),
    forall_mem_of_all (by decide)⟩

theorem not_mem_bounds_of_isLatinLetter (h : isLatinLetter c = true) : c ∉ bounds := by
  intro hc
  have hall : ∀ m ∈ bounds, isLatinLetter m = false := forall_mem_of_all (by decide)
  rw [hall c hc] at h
  cases h

theorem not_mem_bounds_of_isOrdinary (h : isOrdinary c = true) : c ∉ bounds := by
  intro hc
  have hall : ∀ m ∈ bounds, isOrdinary m = false := forall_mem_of_all (by decide)
  rw [hall c hc] at h
  cases h

theorem not_mem_bounds_of_sameLetter {escape : Char} (hescape : escape ∉ bounds)
    (h : sameLetter escape c = true) : c ∉ bounds := by
  intro hc
  have hsame : sameLetter c escape = true := by
    rw [sameLetter, beq_iff_eq] at h ⊢
    exact h.symm
  exact hescape ((uncased_of_mem_bounds hc).alone escape hsame ▸ hc)

end

/-- A word that was read is one of its spellings. -/
theorem exists_spelling_of_readWord {word s letters rest : List Char}
    (h : readWord word s = some (letters, rest)) :
    ∃ spelling : Spelling word, letters = spelling.letters := by
  induction word generalizing s letters with
  | nil =>
    cases h
    exact ⟨.plain [], rfl⟩
  | cons w word ih =>
    match s with
    | [] => cases h
    | c :: s =>
      simp only [readWord] at h
      split at h
      · rename_i hsame
        obtain ⟨⟨t, r⟩, ht, he⟩ := Option.map_eq_some_iff.mp h
        cases he
        obtain ⟨spelling, rfl⟩ := ih ht
        have hkey : caseKey c = caseKey w := (beq_iff_eq.mp hsame).symm
        exact ⟨⟨c :: spelling.letters, by simp [hkey, spelling.spells]⟩, rfl⟩
      · cases h

/-- What stands in front of the brace of a case span. -/
def SpanCode (escape : Char) (code : List Char) : Prop :=
  ∃ e, sameLetter escape e = true ∧ ∃ name ∈ [['U', 'P'], ['L', 'O', 'W']],
    ∃ spelling : Spelling name, code = e :: spelling.letters

section
variable {escape : Char} {code s rest : List Char}

theorem SpanCode.ne_nil (h : SpanCode escape code) : code ≠ [] := by
  obtain ⟨e, -, name, -, spelling, rfl⟩ := h
  exact List.cons_ne_nil _ _

theorem SpanCode.exists_letters (h : SpanCode escape code) : ∃ e, sameLetter escape e = true ∧
    ∃ letters, code = e :: letters ∧ ∀ c ∈ letters, isLatinLetter c = true := by
  obtain ⟨e, he, name, hname, spelling, rfl⟩ := h
  have hcapitals : ∀ w ∈ name, w ∈ capitals := by
    simp only [List.mem_cons, List.not_mem_nil, or_false] at hname
    rcases hname with rfl | rfl <;> exact forall_mem_of_all (by decide)
  exact ⟨e, he, spelling.letters, rfl, fun c => isLatinLetter_of_mem_spelling spelling hcapitals⟩

theorem SpanCode.not_mem_bounds (h : SpanCode escape code) (hescape : escape ∉ bounds) :
    ∀ c ∈ code, c ∉ bounds := by
  obtain ⟨e, he, letters, rfl, hletters⟩ := h.exists_letters
  exact List.forall_mem_cons.mpr ⟨not_mem_bounds_of_sameLetter hescape he,
    fun c hc => not_mem_bounds_of_isLatinLetter (hletters c hc)⟩

theorem same_of_readEscape {c : Char} (h : readEscape escape s = some (c, rest)) :
    sameLetter escape c = true := by
  match s with
  | [] => cases h
  | d :: s =>
    simp only [readEscape] at h
    split at h
    · cases h
      assumption
    · cases h

theorem readCode_of_spelling {e : Char} (he : sameLetter escape e = true) {name : List Char}
    (spelling : Spelling name) (s : List Char) :
    readCode escape name (e :: (spelling.letters ++ s)) = some ((e, spelling.letters), s) := by
  simp [readCode, readEscape, he, readWord_spelling]

theorem exists_spelling_of_readCode {e : Char} {name spelling : List Char}
    (h : readCode escape name s = some ((e, spelling), rest)) :
    sameLetter escape e = true ∧ ∃ sp : Spelling name, spelling = sp.letters := by
  simp only [readCode, Option.bind_eq_bind, Option.bind_eq_some_iff, Option.pure_def,
    Option.some.injEq, Prod.mk.injEq] at h
  obtain ⟨⟨e', t⟩, ht, ⟨spelling', u⟩, hu, ⟨rfl, rfl⟩, -⟩ := h
  exact ⟨same_of_readEscape ht, exists_spelling_of_readWord hu⟩

/-- A code by the name of a fold is that of a case span. -/
theorem spanCode_of_readCode {name : List Char} (hname : name ∈ [['U', 'P'], ['L', 'O', 'W']])
    {r : Char × List Char} (h : readCode escape name s = some (r, rest)) :
    SpanCode escape (r.1 :: r.2) := by
  obtain ⟨he, spelling, hletters⟩ := exists_spelling_of_readCode h
  exact ⟨r.1, he, name, hname, spelling, congrArg _ hletters⟩

/-- Such a code is read by one of the two names, and by the second only where the first fails. -/
theorem SpanCode.readCode_cases (h : SpanCode escape code) (s : List Char) :
    ∃ r : Char × List Char, r.1 :: r.2 = code ∧
      (readCode escape ['U', 'P'] (code ++ s) = some (r, s) ∨
        readCode escape ['U', 'P'] (code ++ s) = none ∧
          readCode escape ['L', 'O', 'W'] (code ++ s) = some (r, s)) := by
  obtain ⟨e, he, name, hname, spelling, rfl⟩ := h
  have hread := readCode_of_spelling he spelling s
  refine ⟨(e, spelling.letters), rfl, ?_⟩
  simp only [List.mem_cons, List.not_mem_nil, or_false] at hname
  rcases hname with rfl | rfl
  · exact Or.inl hread
  · have hclash : readWord ['U', 'P'] (spelling.letters ++ s) = none :=
      readWord_of_clash spelling (by decide) s
    exact Or.inr ⟨by simp [readCode, readEscape, he, hclash], hread⟩

theorem spanCode_of_readSpanOpening (h : readSpanOpening escape s = some (code, rest)) :
    SpanCode escape code := by
  simp only [readSpanOpening, Option.bind_eq_bind, Option.bind_eq_some_iff, Option.pure_def,
    Option.some.injEq, Prod.mk.injEq] at h
  obtain ⟨⟨⟨e, letters⟩, t⟩, ht, u, -, rfl, -⟩ := h
  cases hup : readCode escape ['U', 'P'] s with
  | none =>
    rw [hup] at ht
    exact spanCode_of_readCode (by simp) ht
  | some r =>
    rw [hup] at ht
    cases ht
    exact spanCode_of_readCode (by simp) hup

/-- A code and a brace are read as the opening of a case span, whatever follows. -/
theorem SpanCode.readSpanOpening (h : SpanCode escape code) (s : List Char) :
    readSpanOpening escape (code ++ '{' :: s) = some (code, s) := by
  obtain ⟨r, hcode, hup | ⟨hup, hlow⟩⟩ := h.readCode_cases ('{' :: s)
  · simp [Markup.readSpanOpening, hup, readChar, hcode]
  · simp [Markup.readSpanOpening, hup, hlow, readChar, hcode]

end

/-! What is open. -/

/-- What a character does to the braces that are open, innermost first, each with whether it is
the one of a case span; none where a brace would close a guard or a guard a brace. -/
def meet (opened : List Bool) (c : Char) : Option (List Bool) :=
  if c = '{' then some (false :: opened)
  else if c = guardOpen then some (true :: opened)
  else if c = '}' then
    match opened with
    | [] => some []
    | ofSpan :: opened => if ofSpan then none else some opened
  else if c = guardClose then
    match opened with
    | [] => none
    | ofSpan :: opened => if ofSpan then some opened else none
  else some opened

/-- What is open after a text, if its braces and guards are nested. -/
def stillOpen (opened : List Bool) (s : List Char) : Option (List Bool) := s.foldlM meet opened

section
variable (opened : List Bool) {s t : List Char}

@[simp]
theorem meet_open : meet opened '{' = some (false :: opened) := rfl

@[simp]
theorem meet_guardOpen : meet opened guardOpen = some (true :: opened) := rfl

@[simp]
theorem meet_close_nil : meet [] '}' = some [] := rfl

@[simp]
theorem meet_close_cons (ofSpan : Bool) :
    meet (ofSpan :: opened) '}' = if ofSpan then none else some opened := rfl

@[simp]
theorem meet_guardClose_nil : meet [] guardClose = none := rfl

@[simp]
theorem meet_guardClose_cons (ofSpan : Bool) :
    meet (ofSpan :: opened) guardClose = if ofSpan then some opened else none := rfl

theorem meet_of_not_mem_bounds {c : Char} (h : c ∉ bounds) : meet opened c = some opened := by
  simp only [mem_bounds, not_or] at h
  simp [meet, h]

@[simp]
theorem stillOpen_nil : stillOpen opened [] = some opened := rfl

@[simp]
theorem stillOpen_cons (c : Char) (s : List Char) :
    stillOpen opened (c :: s) = (meet opened c).bind (stillOpen · s) := rfl

theorem stillOpen_append (s t : List Char) :
    stillOpen opened (s ++ t) = (stillOpen opened s).bind (stillOpen · t) :=
  List.foldlM_append

theorem stillOpen_of_not_mem_bounds (h : ∀ c ∈ s, c ∉ bounds) :
    stillOpen opened s = some opened := by
  induction s with
  | nil => rfl
  | cons c s ih =>
    obtain ⟨hc, hs⟩ := List.forall_mem_cons.mp h
    rw [stillOpen_cons, meet_of_not_mem_bounds opened hc, Option.bind_some, ih hs]

end

/-- A text without braces only adds guards to what was open or takes some of them away again; what
was open below them does not matter to it. -/
theorem stillOpen_of_isNoBrace {s : List Char} (hs : ∀ c ∈ s, isNoBrace c = true) {n : Nat}
    {opened after : List Bool}
    (h : stillOpen (List.replicate n true ++ false :: opened) s = some after) :
    ∃ m, after = List.replicate m true ++ false :: opened ∧
      ∀ below, stillOpen (List.replicate n true ++ below) s =
        some (List.replicate m true ++ below) := by
  induction s generalizing n with
  | nil =>
    cases h
    exact ⟨n, rfl, fun below => rfl⟩
  | cons c s ih =>
    obtain ⟨hc, htail⟩ := List.forall_mem_cons.mp hs
    obtain ⟨hopen, hclose⟩ := isNoBrace_iff.mp hc
    rw [stillOpen_cons] at h
    simp only [stillOpen_cons]
    by_cases hguard : c = guardOpen
    · subst hguard
      simp only [meet_guardOpen, Option.bind_some] at h ⊢
      exact ih htail (n := n + 1) h
    by_cases hguard' : c = guardClose
    · subst hguard'
      -- a guard that closes needs one that opened within the text
      cases n with
      | zero => simp at h
      | succ n =>
        simp only [List.replicate_succ, List.cons_append, meet_guardClose_cons, if_true,
          Option.bind_some] at h ⊢
        exact ih htail h
    · have hbound : c ∉ bounds := by simp [mem_bounds, hopen, hclose, hguard, hguard']
      simp only [meet_of_not_mem_bounds _ hbound, Option.bind_some] at h ⊢
      exact ih htail h

/-- A span without braces leaves open what was open, and so does what it holds, wherever it
stands. -/
theorem stillOpen_spanSource {s : List Char} (hs : ∀ c ∈ s, isNoBrace c = true)
    {opened after : List Bool} (h : stillOpen opened (spanSource s) = some after) :
    after = opened ∧ ∀ below, stillOpen below s = some below := by
  rw [spanSource, stillOpen_cons, meet_open, Option.bind_some, stillOpen_append] at h
  obtain ⟨middle, hmiddle, hafter⟩ := Option.bind_eq_some_iff.mp h
  obtain ⟨m, rfl, hbelow⟩ := stillOpen_of_isNoBrace hs (n := 0) hmiddle
  cases m with
  | zero =>
    have hopened : opened = after := by simpa using hafter
    exact ⟨hopened.symm, hbelow⟩
  | succ m =>
    -- a guard would be open where the span ends
    simp [List.replicate_succ] at hafter

/-! Where the guards stand. -/

/-- Every guard that opens has a code of a case span in front of it. -/
def Coded (escape : Char) (s : List Char) : Prop :=
  ∀ front back, s = front ++ guardOpen :: back →
    ∃ before code, SpanCode escape code ∧ front = before ++ code

section
variable {escape : Char} {s t : List Char}

theorem coded_of_not_mem (h : guardOpen ∉ s) : Coded escape s := by
  rintro front back rfl
  simp at h

theorem SpanCode.coded {code : List Char} (h : SpanCode escape code) (hescape : escape ∉ bounds) :
    Coded escape (code ++ [guardOpen]) := by
  intro front back heq
  have hout : guardOpen ∉ code := fun hmem =>
    h.not_mem_bounds hescape guardOpen hmem (by simp [bounds])
  rcases List.append_eq_append_iff.mp heq with ⟨middle, rfl, htail⟩ | ⟨middle, rfl, htail⟩
  · cases middle with
    | nil => exact ⟨[], code, h, by simp⟩
    | cons c middle => simp at htail
  · cases middle with
    | nil => exact ⟨[], front ++ [], h, by simp⟩
    | cons c middle =>
      cases htail
      simp at hout

theorem Coded.append (hs : Coded escape s) (ht : Coded escape t) : Coded escape (s ++ t) := by
  intro front back h
  rcases List.append_eq_append_iff.mp h with ⟨middle, rfl, htail⟩ | ⟨middle, rfl, htail⟩
  · obtain ⟨before, code, hcode, rfl⟩ := ht middle back htail
    exact ⟨s ++ before, code, hcode, by rw [List.append_assoc]⟩
  · cases middle with
    | nil => 
      obtain ⟨before, code, hcode, hnil⟩ := ht [] back (by simpa using htail.symm)
      exact absurd hnil.symm (by simp [hcode.ne_nil])
    | cons c middle =>
      cases htail
      exact hs front middle rfl

theorem Coded.left (h : Coded escape (s ++ t)) : Coded escape s := by
  rintro front back rfl
  exact h front (back ++ t) (by simp)

/-- What follows a brace or a guard has its codes to itself. -/
theorem Coded.right (hescape : escape ∉ bounds) {c : Char} (hc : c ∈ bounds)
    (h : Coded escape (s ++ c :: t)) : Coded escape t := by
  rintro front back rfl
  obtain ⟨before, code, hcode, heq⟩ := h (s ++ c :: front) back (by simp)
  have hout : c ∉ code := fun hmem => hcode.not_mem_bounds hescape c hmem hc
  rcases List.append_eq_append_iff.mp heq with ⟨middle, rfl, hfront⟩ | ⟨middle, -, hcode'⟩
  · cases middle with
    | nil => simp at hfront; simp [← hfront] at hout
    | cons d middle =>
      cases hfront
      exact ⟨middle, code, hcode, rfl⟩
  · simp [hcode'] at hout

end

/-! Guarding, and taking the guards away. -/

/-- Guarding from a place of a text on, with braces open before it. -/
def guardFrom (escape : Char) (opened : List Bool) (s : List Char) : List Char :=
  guardPieces opened (pieces (readSpanOpening escape) s)

/-- The brace of a guard. -/
def restore (c : Char) : Char := if c = guardOpen then '{' else if c = guardClose then '}' else c

section
variable {c : Char} {s t : List Char}

theorem restore_of_ne (hopen : c ≠ guardOpen) (hclose : c ≠ guardClose) : restore c = c := by
  rw [restore, if_neg hopen, if_neg hclose]

theorem restore_ne (c : Char) : restore c ≠ guardOpen ∧ restore c ≠ guardClose := by
  unfold restore
  split
  · decide
  · split
    · decide
    · constructor <;> assumption

theorem eq_or_eq_of_restore_eq_open (h : restore c = '{') : c = guardOpen ∨ c = '{' := by
  unfold restore at h
  split at h
  · exact Or.inl ‹_›
  · split at h
    · cases h
    · exact Or.inr h

theorem eq_or_eq_of_restore_eq_close (h : restore c = '}') : c = guardClose ∨ c = '}' := by
  unfold restore at h
  split at h
  · cases h
  · split at h
    · exact Or.inl ‹_›
    · exact Or.inr h

/-- A character that no bound stands for is itself. -/
theorem eq_of_restore_eq {d : Char} (hd : d ∉ bounds) (h : restore c = d) : c = d := by
  rw [mem_bounds, not_or, not_or] at hd
  unfold restore at h
  split at h
  · exact absurd h.symm hd.1
  · split at h
    · exact absurd h.symm hd.2.1
    · exact h

theorem restoreSpans_cons (c : Char) (s : List Char) :
    restoreSpans (c :: s) = restore c :: restoreSpans s := rfl

theorem restoreSpans_append (s t : List Char) :
    restoreSpans (s ++ t) = restoreSpans s ++ restoreSpans t :=
  List.map_append

theorem restoreSpans_eq_cons {r : List Char} (h : restoreSpans s = c :: r) :
    ∃ d t, s = d :: t ∧ restore d = c ∧ restoreSpans t = r :=
  List.map_eq_cons_iff.mp h

theorem restoreSpans_of_ne (h : ∀ c ∈ s, c ≠ guardOpen ∧ c ≠ guardClose) :
    restoreSpans s = s := by
  induction s with
  | nil => rfl
  | cons c s ih =>
    obtain ⟨hc, hs⟩ := List.forall_mem_cons.mp h
    rw [restoreSpans_cons, restore_of_ne hc.1 hc.2, ih hs]

/-- A code of a case span holds no guard. -/
theorem SpanCode.restoreSpans_eq {escape : Char} {code : List Char} (h : SpanCode escape code)
    (hescape : escape ∉ bounds) : restoreSpans code = code := by
  apply restoreSpans_of_ne
  intro c hc
  have hout := h.not_mem_bounds hescape c hc
  simp only [mem_bounds, not_or] at hout
  exact hout.2.2

theorem eq_of_restoreSpans_eq (ht : ∀ c ∈ t, c ∉ bounds) (h : restoreSpans s = t) : s = t := by
  induction s generalizing t with
  | nil => exact h
  | cons c s ih =>
    subst h
    have hc : restore c ∉ bounds := ht _ List.mem_cons_self
    have hs : ∀ d ∈ restoreSpans s, d ∉ bounds := fun d hd => ht d (List.mem_cons_of_mem _ hd)
    rw [restoreSpans_cons, ← eq_of_restore_eq hc rfl, ← ih hs rfl]

/-- A restored text holds no guard. -/
theorem ne_of_mem_restoreSpans (s : List Char) :
    ∀ c ∈ restoreSpans s, c ≠ guardOpen ∧ c ≠ guardClose := by
  intro c hc
  obtain ⟨d, -, rfl⟩ := List.mem_map.mp hc
  exact restore_ne d

end

section
variable {escape : Char} {opened : List Bool} {s rest code : List Char}

theorem guardFrom_of_some (h : readSpanOpening escape s = some (code, rest)) :
    guardFrom escape opened s = code ++ guardOpen :: guardFrom escape (true :: opened) rest := by
  rw [guardFrom, pieces_of_some (readSpanOpening_consumes escape) h]
  rfl

/-- Where no case span opens, guarding puts the character that what is open accepts. -/
theorem guardFrom_restore {d : Char} {opened' : List Bool} (hd : d ≠ guardOpen)
    (hmeet : meet opened d = some opened') (h : readSpanOpening escape (restore d :: s) = none) :
    guardFrom escape opened (restore d :: s) = d :: guardFrom escape opened' s := by
  rw [guardFrom, pieces_cons_of_none h]
  by_cases hclose : d = guardClose
  · subst hclose
    match opened, hmeet with
    | true :: opened, hmeet =>
      cases hmeet
      rfl
  rw [restore_of_ne hd hclose]
  by_cases hopen : d = '{'
  · subst hopen
    cases hmeet
    rfl
  by_cases hbrace : d = '}'
  · subst hbrace
    match opened, hmeet with
    | [], hmeet =>
      cases hmeet
      rfl
    | false :: opened, hmeet =>
      cases hmeet
      rfl
  · have hbound : d ∉ bounds := by simp [mem_bounds, hopen, hbrace, hd, hclose]
    rw [meet_of_not_mem_bounds opened hbound] at hmeet
    cases hmeet
    simp [guardPieces, hopen, hbrace, guardFrom]

/-- Guarding a character where no case span opens: what takes its place, and what is open then. -/
theorem exists_guardFrom_cons (opened : List Bool) {c : Char} (hc : c ≠ guardOpen ∧ c ≠ guardClose)
    (h : readSpanOpening escape (c :: s) = none) :
    ∃ d opened', d ≠ guardOpen ∧ restore d = c ∧ meet opened d = some opened' ∧
      guardFrom escape opened (c :: s) = d :: guardFrom escape opened' s := by
  have hput (d : Char) (opened' : List Bool) (hd : d ≠ guardOpen) (hcd : restore d = c)
      (hmeet : meet opened d = some opened') :
      ∃ d opened', d ≠ guardOpen ∧ restore d = c ∧ meet opened d = some opened' ∧
        guardFrom escape opened (c :: s) = d :: guardFrom escape opened' s := by
    subst hcd
    exact ⟨d, opened', hd, rfl, hmeet, guardFrom_restore hd hmeet h⟩
  have hsame : restore c = c := restore_of_ne hc.1 hc.2
  by_cases hopen : c = '{'
  · subst hopen
    exact hput '{' _ hc.1 hsame rfl
  by_cases hbrace : c = '}'
  · subst hbrace
    match opened with
    | [] => exact hput '}' [] hc.1 hsame rfl
    | true :: opened => exact hput guardClose opened (by decide) rfl rfl
    | false :: opened => exact hput '}' opened hc.1 hsame rfl
  · have hbound : c ∉ bounds := by simp [mem_bounds, hopen, hbrace, hc]
    exact hput c opened hc.1 hsame (meet_of_not_mem_bounds opened hbound)

/-- Restoring undoes guarding. -/
theorem restoreSpans_guardFrom (opened : List Bool)
    (hs : ∀ c ∈ s, c ≠ guardOpen ∧ c ≠ guardClose) :
    restoreSpans (guardFrom escape opened s) = s := by
  induction s using (readSpanOpening_consumes escape).induction generalizing opened with
  | nil => rfl
  | char c s hr ih =>
    obtain ⟨hc, htail⟩ := List.forall_mem_cons.mp hs
    obtain ⟨d, opened', -, rfl, -, hput⟩ := exists_guardFrom_cons opened hc hr
    rw [hput, restoreSpans_cons, ih opened' htail]
  | mark s code rest hr ih =>
    obtain rfl := readSpanOpening_eq_some hr
    obtain ⟨hcode, hrest⟩ := List.forall_mem_append.mp hs
    have hbody := ih (true :: opened) (List.forall_mem_cons.mp hrest).2
    rw [guardFrom_of_some hr, restoreSpans_append, restoreSpans_of_ne hcode, restoreSpans_cons,
      hbody]
    rfl

variable (hescape : escape ∉ bounds)
include hescape

/-- What guarding makes of a text is nested. -/
theorem exists_stillOpen_guardFrom (opened : List Bool)
    (hs : ∀ c ∈ s, c ≠ guardOpen ∧ c ≠ guardClose) :
    ∃ after, stillOpen opened (guardFrom escape opened s) = some after := by
  induction s using (readSpanOpening_consumes escape).induction generalizing opened with
  | nil => exact ⟨opened, rfl⟩
  | char c s hr ih =>
    obtain ⟨hc, htail⟩ := List.forall_mem_cons.mp hs
    obtain ⟨d, opened', -, -, hmeet, hput⟩ := exists_guardFrom_cons opened hc hr
    rw [hput, stillOpen_cons, hmeet]
    exact ih opened' htail
  | mark s code rest hr ih =>
    have hcode := (spanCode_of_readSpanOpening hr).not_mem_bounds hescape
    obtain rfl := readSpanOpening_eq_some hr
    have hrest := (List.forall_mem_append.mp hs).2
    rw [guardFrom_of_some hr, stillOpen_append, stillOpen_of_not_mem_bounds opened hcode,
      Option.bind_some, stillOpen_cons, meet_guardOpen]
    exact ih (true :: opened) (List.forall_mem_cons.mp hrest).2

/-- Guarding puts guards behind codes. -/
theorem coded_guardFrom (opened : List Bool) (hs : ∀ c ∈ s, c ≠ guardOpen ∧ c ≠ guardClose) :
    Coded escape (guardFrom escape opened s) := by
  induction s using (readSpanOpening_consumes escape).induction generalizing opened with
  | nil => exact coded_of_not_mem List.not_mem_nil
  | char c s hr ih =>
    obtain ⟨hc, htail⟩ := List.forall_mem_cons.mp hs
    obtain ⟨d, opened', hd, -, -, hput⟩ := exists_guardFrom_cons opened hc hr
    have hone : Coded escape [d] := coded_of_not_mem (by simpa using hd.symm)
    rw [hput]
    exact hone.append (ih opened' htail)
  | mark s code rest hr ih =>
    have hcode := spanCode_of_readSpanOpening hr
    obtain rfl := readSpanOpening_eq_some hr
    have hrest := (List.forall_mem_append.mp hs).2
    rw [guardFrom_of_some hr, ← List.singleton_append, ← List.append_assoc]
    exact (hcode.coded hescape).append (ih (true :: opened) (List.forall_mem_cons.mp hrest).2)

/-- A guard that opens stands behind its code in the rest of a text as well, unless a case span
would open where the text begins. -/
theorem Coded.tail {d : Char} (h : Coded escape (d :: s))
    (hread : readSpanOpening escape (restoreSpans (d :: s)) = none) : Coded escape s := by
  rintro front back rfl
  obtain ⟨before, code, hcode, hfront⟩ := h (d :: front) back rfl
  cases before with
  | nil =>
    rw [List.nil_append] at hfront
    have htext : restoreSpans (d :: (front ++ guardOpen :: back)) =
        code ++ '{' :: restoreSpans back := by
      rw [← List.cons_append, hfront, restoreSpans_append, hcode.restoreSpans_eq hescape]
      rfl
    rw [htext, hcode.readSpanOpening] at hread
    cases hread
  | cons e before =>
    cases hfront
    exact ⟨before, code, hcode, rfl⟩

/-- A text whose braces and guards are nested, whose guards stand behind their codes and in which
no case span is without its guard is what guarding makes of the text itself. -/
theorem guardFrom_restoreSpans {after : List Bool} (hnested : stillOpen opened s = some after)
    (hcoded : Coded escape s) (hguarded : marks (readSpanOpening escape) s = []) :
    guardFrom escape opened (restoreSpans s) = s := by
  have hconsumes := readSpanOpening_consumes escape
  -- the scan goes over the restored text, which opens case spans that `s` does not
  generalize hr : restoreSpans s = r
  induction r using hconsumes.induction generalizing opened s with
  | nil => exact (List.map_eq_nil_iff.mp hr).symm
  | char c r hread ih =>
    obtain ⟨d, s, rfl, rfl, rfl⟩ := restoreSpans_eq_cons hr
    have hd : d ≠ guardOpen := by
      rintro rfl
      obtain ⟨before, code, hcode, hnil⟩ := hcoded [] s rfl
      exact hcode.ne_nil (List.append_eq_nil_iff.mp hnil.symm).2
    obtain ⟨opened', hmeet, hnested⟩ := Option.bind_eq_some_iff.mp hnested
    have hmarks : marks (readSpanOpening escape) s = [] :=
      marks_eq_nil_of_append hconsumes [d] hguarded
    rw [guardFrom_restore hd hmeet hread, ih hnested (hcoded.tail hescape hread) hmarks rfl]
  | mark r code rest hread ih =>
    have hcode := spanCode_of_readSpanOpening hread
    have hout := hcode.not_mem_bounds hescape
    obtain rfl := readSpanOpening_eq_some hread
    obtain ⟨front, back, rfl, hfront, hback⟩ := List.map_eq_append_iff.mp hr
    obtain ⟨g, s, rfl, hg, rfl⟩ := restoreSpans_eq_cons hback
    obtain rfl := eq_of_restoreSpans_eq hout hfront
    obtain rfl : g = guardOpen := by
      rcases eq_or_eq_of_restore_eq_open hg with hguard | rfl
      · exact hguard
      · have hnone := read_eq_none_of_marks hconsumes hguarded
        rw [hcode.readSpanOpening] at hnone
        cases hnone
    have hmarks : marks (readSpanOpening escape) s = [] :=
      marks_eq_nil_of_append hconsumes (front ++ [guardOpen]) (by simpa using hguarded)
    have htail : Coded escape s := hcoded.right hescape (by simp [bounds])
    rw [stillOpen_append, stillOpen_of_not_mem_bounds opened hout, Option.bind_some,
      stillOpen_cons, meet_guardOpen, Option.bind_some] at hnested
    rw [guardFrom_of_some hread, ih hnested htail hmarks rfl]

end

end DialogueMarkup.Markup
