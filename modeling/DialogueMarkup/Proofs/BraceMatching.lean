import Mathlib.Data.List.Induction
import DialogueMarkup.Proofs.Casing
import DialogueMarkup.Proofs.PlainText

/-! The partners of braces. A closing brace belongs to the nearest brace before it that is still
open, and to none if none is open. Guarding puts a guard for every brace that opens a case span and
for the partner of every such brace, and for no other; it is undone by restoring, there is nothing
left to guard, and where no brace is left the guards have their partners among themselves. -/
namespace DialogueMarkup.Markup
open Text

/-- What a character at a place does to the places of the braces that are open, innermost first. -/
def meetBrace (opened : List Nat) (place : Nat) (c : Char) : List Nat :=
  if c = '{' then place :: opened else if c = '}' then opened.tail else opened

/-- The places of the braces that are open after a text, on from a place and what is open there. -/
def openFrom (place : Nat) (opened : List Nat) : List Char → List Nat
  | [] => opened
  | c :: s => openFrom (place + 1) (meetBrace opened place c) s

/-- The places of the braces that are open after a text, innermost first. -/
def openBraces (s : List Char) : List Nat := openFrom 0 [] s

/-- The brace at the place `i` closes the one at `j`, the nearest before it that is still open. -/
def Closes (s : List Char) (i j : Nat) : Prop :=
  s[i]? = some '}' ∧ (openBraces (s.take i)).head? = some j

/-- The brace at a place ends an escape and the name `UP` or `LOW` in any case. -/
def OpensSpan (escape : Char) (s : List Char) (i : Nat) : Prop :=
  ∃ before word back, word.map Char.toUpper ∈ ["UP".toList, "LOW".toList] ∧
    s = before ++ (escape :: word ++ '{' :: back) ∧ i = before.length + (word.length + 1)

/-- Texts in which what opens and what closes is nested. -/
inductive Balanced (opening closing : Char) : List Char → Prop
  | nil : Balanced opening closing []
  | char {c : Char} {s : List Char} (hopening : c ≠ opening) (hclosing : c ≠ closing)
      (hs : Balanced opening closing s) : Balanced opening closing (c :: s)
  | pair {s t : List Char} (hs : Balanced opening closing s) (ht : Balanced opening closing t) :
      Balanced opening closing (opening :: (s ++ closing :: t))

/-- Texts that close as many guards as are open in front of them, with nested texts between. -/
inductive ClosesGuards : Nat → List Char → Prop
  | none {s : List Char} (hs : Balanced guardOpen guardClose s) : ClosesGuards 0 s
  | one {n : Nat} {s t : List Char} (hs : Balanced guardOpen guardClose s)
      (ht : ClosesGuards n t) : ClosesGuards (n + 1) (s ++ guardClose :: t)

/-! The places of open braces. -/

section
variable {s : List Char}

theorem openFrom_append_singleton (place : Nat) (opened : List Nat) (s : List Char) (c : Char) :
    openFrom place opened (s ++ [c]) =
      meetBrace (openFrom place opened s) (place + s.length) c := by
  induction s generalizing place opened with
  | nil => rfl
  | cons d s ih =>
    rw [List.cons_append, openFrom, ih, openFrom, List.length_cons, Nat.add_assoc, Nat.add_comm 1]

theorem openBraces_append_singleton (s : List Char) (c : Char) :
    openBraces (s ++ [c]) = meetBrace (openBraces s) s.length c := by
  rw [openBraces, openFrom_append_singleton, Nat.zero_add, openBraces]

/-- Open braces stand in the text. -/
theorem lt_of_mem_openBraces {j : Nat} (h : j ∈ openBraces s) : j < s.length := by
  induction s using List.reverseRecOn with
  | nil => cases h
  | append_singleton s c ih =>
    rw [List.length_append, List.length_singleton]
    rw [openBraces_append_singleton, meetBrace] at h
    split at h
    · rcases List.mem_cons.mp h with rfl | hmem
      · omega
      · exact Nat.lt_succ_of_lt (ih hmem)
    · split at h
      · exact Nat.lt_succ_of_lt (ih (List.mem_of_mem_tail h))
      · exact Nat.lt_succ_of_lt (ih h)

theorem meet_of_opens {opened : List Bool} {c : Char} (hc : c = '{' ∨ c = guardOpen) :
    meet opened c = some (decide (c = guardOpen) :: opened) := by
  rcases hc with rfl | rfl <;> rfl

/-- What closes takes away the innermost that is open. -/
theorem eq_tail_of_meet {opened after : List Bool} {c : Char} (hc : c = '}' ∨ c = guardClose)
    (hmeet : meet opened c = some after) : after = opened.tail := by
  cases opened with
  | nil =>
    rcases hc with rfl | rfl
    · exact (Option.some.inj hmeet).symm
    · cases hmeet
  | cons ofSpan opened =>
    rcases hc with rfl | rfl <;> cases ofSpan <;> cases hmeet <;> rfl

/-- A character does the same to what is open and to the places of it. -/
theorem eq_map_of_meet {opened after : List Bool} {places : List Nat} {guarded : Nat → Bool}
    {c : Char} (hmeet : meet opened c = some after) (hopened : opened = places.map guarded)
    (place : Nat) (hplace : guarded place = decide (c = guardOpen)) :
    after = (meetBrace places place (restore c)).map guarded := by
  by_cases hopens : c = '{' ∨ c = guardOpen
  · have hbrace : restore c = '{' := by rcases hopens with rfl | rfl <;> rfl
    rw [meet_of_opens hopens] at hmeet
    cases hmeet
    rw [hbrace, meetBrace, if_pos rfl, List.map_cons, hplace, hopened]
  by_cases hcloses : c = '}' ∨ c = guardClose
  · have hbrace : restore c = '}' := by rcases hcloses with rfl | rfl <;> rfl
    rw [eq_tail_of_meet hcloses hmeet, hopened, hbrace, ← List.map_tail]
    rfl
  · rw [not_or] at hopens hcloses
    have hbound : c ∉ bounds := by simp [mem_bounds, hopens, hcloses]
    rw [meet_of_not_mem_bounds opened hbound] at hmeet
    cases hmeet
    rw [restore_of_ne hopens.2 hcloses.2, meetBrace, if_neg hopens.1, if_neg hcloses.1, hopened]

/-- What is open after a text with guards are the open braces of the restored text, each with
whether a guard stands for it. -/
theorem eq_map_of_stillOpen {opened : List Bool} (h : stillOpen [] s = some opened) :
    opened = (openBraces (restoreSpans s)).map fun j => decide (s[j]? = some guardOpen) := by
  induction s using List.reverseRecOn generalizing opened with
  | nil =>
    cases h
    rfl
  | append_singleton s c ih =>
    rw [stillOpen_append] at h
    obtain ⟨before, hbefore, hmeet⟩ := Option.bind_eq_some_iff.mp h
    obtain ⟨after, hmeet, heq⟩ := Option.bind_eq_some_iff.mp hmeet
    cases heq
    have hlength : (restoreSpans s).length = s.length := List.length_map _
    -- the places before are those of the text before
    have hmap : before = (openBraces (restoreSpans s)).map fun j =>
        decide ((s ++ [c])[j]? = some guardOpen) := by
      rw [ih hbefore]
      apply List.map_congr_left
      intro j hj
      have hlt := lt_of_mem_openBraces hj
      rw [List.getElem?_append_left (by omega)]
    have hplaces : openBraces (restoreSpans (s ++ [c])) =
        meetBrace (openBraces (restoreSpans s)) s.length (restore c) := by
      rw [restoreSpans_append, ← hlength, ← openBraces_append_singleton]
      rfl
    rw [hplaces]
    exact eq_map_of_meet hmeet hmap s.length (by simp)

end

/-! Case spans. -/

theorem toNat_lt_of_toUpper {c w : Char} (h : c.toUpper = w) (hw : w.toNat < 128) :
    c.toNat < 128 := by
  unfold Char.toUpper at h
  split at h
  · rename_i hlower
    have hle : c.toNat ≤ 122 := by simpa [UInt32.le_iff_toNat_le] using hlower.2
    omega
  · rwa [h]

/-- The letters of a name are those that have its capitals. -/
theorem map_toUpper_eq_iff {name word : List Char}
    (hname : name ∈ [['U', 'P'], ['L', 'O', 'W']]) :
    word.map Char.toUpper = name ↔ word.map caseKey = name.map caseKey := by
  have hupper : ∀ n ∈ List.range 128, caseKey (Char.ofNat n).toUpper = caseKey (Char.ofNat n) ∧
      (caseKey (Char.ofNat n)).toUpper = (Char.ofNat n).toUpper := forall_mem_of_all (by decide)
  have hascii {c : Char} (hc : c.toNat < 128) := hupper c.toNat (List.mem_range.mpr hc)
  simp only [Char.ofNat_toNat] at hascii
  have hletters : ∀ w ∈ ['U', 'P', 'L', 'O', 'W'], w.toNat < 128 ∧
      (caseKey w).toNat ∈ codeKeys ∧ (caseKey w).toUpper = w := forall_mem_of_all (by decide)
  have hnames : ∀ w ∈ name, w ∈ ['U', 'P', 'L', 'O', 'W'] := by
    simp only [List.mem_cons, List.not_mem_nil, or_false] at hname
    rcases hname with rfl | rfl <;> simp
  constructor
  · intro h
    calc word.map caseKey
        = (word.map Char.toUpper).map caseKey := by
          rw [List.map_map]
          apply List.map_congr_left
          intro c hc
          have hmem : c.toUpper ∈ name := h ▸ List.mem_map_of_mem hc
          have hcapital := hletters _ (hnames _ hmem)
          exact (hascii (toNat_lt_of_toUpper rfl hcapital.1)).1.symm
      _ = name.map caseKey := by rw [h]
  · intro h
    calc word.map Char.toUpper
        = (word.map caseKey).map Char.toUpper := by
          rw [List.map_map]
          apply List.map_congr_left
          intro c hc
          have hmem : caseKey c ∈ name.map caseKey := h ▸ List.mem_map_of_mem hc
          obtain ⟨w, hw, hkey⟩ := List.mem_map.mp hmem
          have hcode : (caseKey c).toNat ∈ codeKeys := hkey ▸ (hletters w (hnames w hw)).2.1
          exact (hascii (toNat_lt_of_caseKey hcode)).2.symm
      _ = name.map (Char.toUpper ∘ caseKey) := by rw [h, List.map_map]
      _ = name.map id := List.map_congr_left fun w hw => (hletters w (hnames w hw)).2.2
      _ = name := List.map_id name

section
variable {escape : Char} (alone : ∀ c, sameLetter escape c = true → c = escape)
  {s code : List Char} {i : Nat}
include alone

theorem spanCode_iff : SpanCode escape code ↔
    ∃ word, word.map Char.toUpper ∈ ["UP".toList, "LOW".toList] ∧ code = escape :: word := by
  constructor
  · rintro ⟨e, he, name, hname, spelling, rfl⟩
    obtain rfl := alone e he
    refine ⟨spelling.letters, ?_, rfl⟩
    rw [(map_toUpper_eq_iff hname).mpr spelling.spells]
    exact hname
  · rintro ⟨word, hword, rfl⟩
    exact ⟨escape, beq_self_eq_true _, _, hword, ⟨word, (map_toUpper_eq_iff hword).mp rfl⟩, rfl⟩

theorem opensSpan_iff : OpensSpan escape s i ↔ ∃ before code back, SpanCode escape code ∧
    s = before ++ (code ++ '{' :: back) ∧ i = before.length + code.length := by
  constructor
  · rintro ⟨before, word, back, hword, hs, hi⟩
    exact ⟨before, escape :: word, back, (spanCode_iff alone).mpr ⟨word, hword, rfl⟩, hs, hi⟩
  · rintro ⟨before, code, back, hcode, hs, hi⟩
    obtain ⟨word, hword, rfl⟩ := (spanCode_iff alone).mp hcode
    exact ⟨before, word, back, hword, hs, hi⟩

/-- What stands in front of a guard opens no case span any more. -/
theorem marks_code_guardOpen {g : List Char} (hcode : SpanCode escape code)
    (hescape : escape ∉ bounds) (hg : marks (readSpanOpening escape) g = []) :
    marks (readSpanOpening escape) (code ++ guardOpen :: g) = [] := by
  have hopens := opensWith_readSpanOpening escape
  have hout := hcode.not_mem_bounds hescape
  have hguard : marks (readSpanOpening escape) (guardOpen :: g) = [] := by
    refine marks_cons_eq_nil_iff.mpr ⟨hopens _ ?_ g, hg⟩
    rw [Bool.eq_false_iff]
    intro hsame
    exact hescape (alone _ hsame ▸ by simp [bounds])
  -- a code that were read there would end at the guard, but there is no brace
  have hread : readSpanOpening escape (code ++ guardOpen :: g) = none := by
    cases hr : readSpanOpening escape (code ++ guardOpen :: g) with
    | none => rfl
    | some r =>
      obtain ⟨other, rest⟩ := r
      have hother := (spanCode_of_readSpanOpening hr).not_mem_bounds hescape
      have hsplit := readSpanOpening_eq_some hr
      have hdrop {s t : List Char} {c : Char} (hs : ∀ c ∈ s, c ∉ bounds) (hc : c ∈ bounds) :
          (s ++ c :: t).dropWhile (· ∉ bounds) = c :: t :=
        (span_append (by simpa using hs) (by simpa using hc)).2
      have hends := congrArg (List.dropWhile (· ∉ bounds)) hsplit
      rw [hdrop hout (by simp [bounds]), hdrop hother (by simp [bounds])] at hends
      exact absurd (List.cons.inj hends).1 (by decide)
  obtain ⟨e, -, letters, rfl, hletters⟩ := hcode.exists_letters
  have hunescaped : Unescaped escape letters := by
    intro c hc
    rw [Bool.eq_false_iff]
    intro hsame
    have hlatin := hletters c hc
    rw [alone c hsame, isLatinLetter_of_alone alone] at hlatin
    cases hlatin
  exact marks_cons_eq_nil_iff.mpr ⟨hread, hunescaped.marks_append hopens hguard⟩

/-- What is guarded opens no case span any more. -/
theorem marks_guardFrom (hescape : escape ∉ bounds) (opened : List Bool)
    (hs : ∀ c ∈ s, c ≠ guardOpen ∧ c ≠ guardClose) :
    marks (readSpanOpening escape) (guardFrom escape opened s) = [] := by
  induction s using (readSpanOpening_consumes escape).induction generalizing opened with
  | nil => rfl
  | char c s hr ih =>
    obtain ⟨hc, htail⟩ := List.forall_mem_cons.mp hs
    obtain ⟨d, opened', hd, hdc, hmeet, hput⟩ := exists_guardFrom_cons opened hc hr
    rw [hput]
    refine marks_cons_eq_nil_iff.mpr ⟨?_, ih opened' htail⟩
    cases hread : readSpanOpening escape (d :: guardFrom escape opened' s) with
    | none => rfl
    | some r =>
      -- what is read in the guarded text could be read in the text itself
      obtain ⟨code, rest⟩ := r
      have hcode := spanCode_of_readSpanOpening hread
      have htext : c :: s = code ++ '{' :: restoreSpans rest := by
        have hrestored := congrArg restoreSpans (readSpanOpening_eq_some hread)
        rw [restoreSpans_cons, hdc, restoreSpans_guardFrom opened' htail, restoreSpans_append,
          hcode.restoreSpans_eq hescape] at hrestored
        exact hrestored
      rw [htext, hcode.readSpanOpening] at hr
      cases hr
  | mark s code rest hr ih =>
    have hcode := spanCode_of_readSpanOpening hr
    obtain rfl := readSpanOpening_eq_some hr
    have hrest := (List.forall_mem_append.mp hs).2
    rw [guardFrom_of_some hr]
    exact marks_code_guardOpen alone hcode hescape
      (ih (true :: opened) (List.forall_mem_cons.mp hrest).2)

end

/-! Where the guards stand. -/

theorem closesGuards_of_stillOpen {s : List Char} (hs : ∀ c ∈ s, isNoBrace c = true) {n : Nat}
    (h : stillOpen (List.replicate n true) s = some []) : ClosesGuards n s := by
  induction s generalizing n with
  | nil =>
    obtain rfl : n = 0 := by simpa using h
    exact .none .nil
  | cons c s ih =>
    obtain ⟨hc, htail⟩ := List.forall_mem_cons.mp hs
    obtain ⟨hopen, hclose⟩ := isNoBrace_iff.mp hc
    rw [stillOpen_cons] at h
    by_cases hguard : c = guardOpen
    · subst hguard
      -- the guard goes as far as the first of the closing ones that follow
      cases ih htail (n := n + 1) h with
      | one ha ht =>
        cases ht with
        | none hb => exact .none (.pair ha hb)
        | one hb ht =>
          have hwhole := ClosesGuards.one (.pair ha hb) ht
          simpa using hwhole
    by_cases hguard' : c = guardClose
    · subst hguard'
      cases n with
      | zero => cases h
      | succ n =>
        have hbehind := ih htail (n := n) (by simpa [List.replicate_succ] using h)
        exact .one .nil hbehind
    · have hbound : c ∉ bounds := by simp [mem_bounds, hopen, hclose, hguard, hguard']
      rw [meet_of_not_mem_bounds _ hbound, Option.bind_some] at h
      cases ih htail h with
      | none hb => exact .none (.char hguard hguard' hb)
      | one hb ht => exact .one (.char hguard hguard' hb) ht

theorem exists_append_of_getElem? {s : List Char} {i : Nat} {c : Char} (h : s[i]? = some c) :
    ∃ front back, s = front ++ c :: back ∧ front.length = i := by
  obtain ⟨hlt, rfl⟩ := List.getElem?_eq_some_iff.mp h
  refine ⟨s.take i, s.drop (i + 1), ?_, List.length_take_of_le (Nat.le_of_lt hlt)⟩
  rw [← List.drop_eq_getElem_cons hlt, List.take_append_drop]

theorem getElem?_restoreSpans (g : List Char) (i : Nat) :
    (restoreSpans g)[i]? = g[i]?.map restore := List.getElem?_map

/-- A guarding of a text: it restores to the text, the braces and guards are nested, and the guards
that open are those of the case spans. -/
structure Guarding (escape : Char) (t g : List Char) : Prop where
  restored : restoreSpans g = t
  nested : ∃ after, stillOpen [] g = some after
  opens : ∀ i, g[i]? = some guardOpen ↔ OpensSpan escape t i

namespace Guarding
variable {escape : Char} {t g : List Char} (h : Guarding escape t g)
include h

/-- At every place what is open are the open braces of the text, each with whether a guard stands
for it, and the character there is one that can follow. -/
theorem exists_meet {i : Nat} {c : Char} (hc : g[i]? = some c) :
    t[i]? = some (restore c) ∧
      ∃ after, meet ((openBraces (t.take i)).map fun j => decide (g[j]? = some guardOpen)) c =
        some after := by
  refine ⟨by rw [← h.restored, getElem?_restoreSpans, hc, Option.map_some], ?_⟩
  obtain ⟨front, back, hg, hi⟩ := exists_append_of_getElem? hc
  obtain ⟨after, hnested⟩ := h.nested
  rw [hg, stillOpen_append] at hnested
  obtain ⟨opened, hopened, hmeet⟩ := Option.bind_eq_some_iff.mp hnested
  obtain ⟨next, hmeet, -⟩ := Option.bind_eq_some_iff.mp hmeet
  have htake : t.take i = restoreSpans front := by
    have hlength : (restoreSpans front).length = i := (List.length_map _).trans hi
    rw [← h.restored, hg, restoreSpans_append, List.take_left' hlength]
  have hplaces : opened =
      (openBraces (t.take i)).map fun j => decide (g[j]? = some guardOpen) := by
    rw [eq_map_of_stillOpen hopened, htake]
    apply List.map_congr_left
    intro j hj
    have hlt : j < front.length := (List.length_map restore) ▸ lt_of_mem_openBraces hj
    rw [hg, List.getElem?_append_left hlt]
  exact ⟨next, hplaces ▸ hmeet⟩

/-- A guard closes where a brace closes one for which a guard stands. -/
theorem closes (i : Nat) : g[i]? = some guardClose ↔ ∃ j, Closes t i j ∧ OpensSpan escape t j := by
  constructor
  · intro hguard
    obtain ⟨hget, after, hmeet⟩ := h.exists_meet hguard
    cases hplaces : openBraces (t.take i) with
    | nil =>
      rw [hplaces] at hmeet
      cases hmeet
    | cons j places =>
      rw [hplaces, List.map_cons, meet_guardClose_cons] at hmeet
      have hj : g[j]? = some guardOpen := by
        by_contra hno
        simp [hno] at hmeet
      exact ⟨j, ⟨hget, by rw [hplaces, List.head?_cons]⟩, (h.opens j).mp hj⟩
  · rintro ⟨j, ⟨hget, hhead⟩, hspan⟩
    have hj := (h.opens j).mpr hspan
    have hrestored := hget
    rw [← h.restored, getElem?_restoreSpans] at hrestored
    obtain ⟨c, hc, hbrace⟩ := Option.map_eq_some_iff.mp hrestored
    obtain ⟨-, after, hmeet⟩ := h.exists_meet hc
    obtain ⟨places, hplaces⟩ := List.head?_eq_some_iff.mp hhead
    rw [hplaces, List.map_cons, decide_eq_true hj] at hmeet
    rcases eq_or_eq_of_restore_eq_close hbrace with rfl | rfl
    · exact hc
    · -- a brace cannot close what a guard opened
      cases hmeet

/-- What is neither one nor the other stays. -/
theorem stays {i : Nat} (hopens : ¬ OpensSpan escape t i)
    (hcloses : ¬ ∃ j, Closes t i j ∧ OpensSpan escape t j) : g[i]? = t[i]? := by
  rw [← h.opens] at hopens
  rw [← h.closes] at hcloses
  rw [← h.restored, getElem?_restoreSpans]
  cases hc : g[i]? with
  | none => rfl
  | some c =>
    rw [hc] at hopens hcloses
    rw [Option.map_some, restore_of_ne (by simpa using hopens) (by simpa using hcloses)]

/-- Where a brace opens and the next brace closes, the guards between them are nested. -/
theorem balanced {front inside back : List Char} (hg : g = front ++ '{' :: (inside ++ '}' :: back))
    (hinside : ∀ c ∈ inside, isNoBrace c = true) : Balanced guardOpen guardClose inside := by
  obtain ⟨after, hnested⟩ := h.nested
  rw [hg, stillOpen_append] at hnested
  obtain ⟨opened, -, hbehind⟩ := Option.bind_eq_some_iff.mp hnested
  rw [stillOpen_cons, meet_open, Option.bind_some, stillOpen_append] at hbehind
  obtain ⟨middle, hmiddle, hback⟩ := Option.bind_eq_some_iff.mp hbehind
  obtain ⟨m, rfl, hbelow⟩ := stillOpen_of_isNoBrace hinside (n := 0) hmiddle
  cases m with
  | zero =>
    cases closesGuards_of_stillOpen hinside (n := 0) (hbelow []) with
    | none hbalanced => exact hbalanced
  | succ m =>
    -- a guard would be open where the brace closes
    simp [List.replicate_succ] at hback

end Guarding

/-- Braces are nested anyhow where there are no guards. -/
theorem exists_stillOpen_of_ne (n : Nat) {s : List Char}
    (hs : ∀ c ∈ s, c ≠ guardOpen ∧ c ≠ guardClose) :
    ∃ after, stillOpen (List.replicate n false) s = some after := by
  induction s generalizing n with
  | nil => exact ⟨_, rfl⟩
  | cons c s ih =>
    obtain ⟨hc, htail⟩ := List.forall_mem_cons.mp hs
    rw [stillOpen_cons]
    by_cases hopen : c = '{'
    · subst hopen
      exact ih (n + 1) htail
    by_cases hclose : c = '}'
    · subst hclose
      cases n with
      | zero => exact ih 0 htail
      | succ n => exact ih n htail
    · have hbound : c ∉ bounds := by simp [mem_bounds, hopen, hclose, hc]
      rw [meet_of_not_mem_bounds _ hbound]
      exact ih n htail

/-- If all guards that open stand behind their codes and no case span is without its guard, the
guards that open are those of the case spans. -/
theorem getElem?_eq_guardOpen_iff {escape : Char} {g : List Char} {i : Nat}
    (alone : ∀ c, sameLetter escape c = true → c = escape) (hescape : escape ∉ bounds)
    (hcoded : Coded escape g) (hmarks : marks (readSpanOpening escape) g = []) :
    g[i]? = some guardOpen ↔ OpensSpan escape (restoreSpans g) i := by
  rw [opensSpan_iff alone]
  constructor
  · intro hguard
    obtain ⟨front, back, rfl, rfl⟩ := exists_append_of_getElem? hguard
    obtain ⟨before, code, hcode, rfl⟩ := hcoded front back rfl
    refine ⟨restoreSpans before, code, restoreSpans back, hcode, ?_, by simp [restoreSpans]⟩
    rw [restoreSpans_append, restoreSpans_append, hcode.restoreSpans_eq hescape,
      List.append_assoc]
    rfl
  · rintro ⟨before, code, back, hcode, htext, rfl⟩
    obtain ⟨front, rest, rfl, hfront, hrest⟩ := List.map_eq_append_iff.mp htext
    obtain ⟨written, behind, rfl, hwritten, hbehind⟩ := List.map_eq_append_iff.mp hrest
    obtain ⟨d, back', rfl, hd, -⟩ := restoreSpans_eq_cons hbehind
    obtain rfl := eq_of_restoreSpans_eq (hcode.not_mem_bounds hescape) hwritten
    have hlength : before.length = front.length := by rw [← hfront, List.length_map]
    rcases eq_or_eq_of_restore_eq_open hd with rfl | rfl
    · rw [hlength, ← List.length_append, ← List.append_assoc]
      simp
    · -- a case span would be without its guard
      have hbehind := marks_eq_nil_of_append (readSpanOpening_consumes escape) front hmarks
      have hnone := read_eq_none_of_marks (readSpanOpening_consumes escape) hbehind
      rw [hcode.readSpanOpening] at hnone
      cases hnone

/-- What guarding makes of a text is a guarding of it, and leaves nothing to guard. -/
theorem guarding_guardSpans {escape : Char} {t : List Char}
    (alone : ∀ c, sameLetter escape c = true → c = escape) (hopen : escape ≠ '{')
    (hclose : escape ≠ '}') (ht : ∀ c ∈ t, c ≠ guardOpen ∧ c ≠ guardClose) :
    Guarding escape t (guardSpans escape t) ∧
      marks (readSpanOpening escape) (guardSpans escape t) = [] := by
  by_cases hescape : escape ∈ bounds
  · -- the escape is a guard itself, which the text does not hold
    have hunescaped : Unescaped escape t := by
      intro c hc
      rw [Bool.eq_false_iff]
      intro hsame
      obtain rfl := alone c hsame
      rcases mem_bounds.mp hescape with h | h | h | h
      · exact hopen h
      · exact hclose h
      · exact (ht c hc).1 h
      · exact (ht c hc).2 h
    have hmarks := hunescaped.marks_eq_nil (opensWith_readSpanOpening escape)
    rw [guardSpans_of_marks_eq_nil hmarks]
    refine ⟨⟨restoreSpans_of_ne ht, exists_stillOpen_of_ne 0 ht, fun i => ?_⟩, hmarks⟩
    constructor
    · intro hguard
      exact absurd rfl (ht _ (List.mem_of_getElem? hguard)).1
    · rintro ⟨before, word, back, -, rfl, -⟩
      have hout := hunescaped escape (by simp)
      rw [sameLetter, beq_self_eq_true] at hout
      cases hout
  · have hmarks := marks_guardFrom alone hescape [] ht
    have hrestored : restoreSpans (guardSpans escape t) = t := restoreSpans_guardFrom [] ht
    have hcoded : Coded escape (guardSpans escape t) := coded_guardFrom hescape [] ht
    refine ⟨⟨hrestored, exists_stillOpen_guardFrom hescape [] ht, fun i => ?_⟩, hmarks⟩
    have hopens := getElem?_eq_guardOpen_iff alone hescape hcoded hmarks (i := i)
    rwa [hrestored] at hopens

/-- Guards stand for the braces that open case spans and for those that close such a brace, and for
no others. Restoring takes them away again, guarding adds none to them, and between two braces that
have no brace between them they are nested. -/
theorem guardSpans_matching {escape : Char} {t : List Char}
    (alone : ∀ c, sameLetter escape c = true → c = escape) (hopen : escape ≠ '{')
    (hclose : escape ≠ '}') (ht : ∀ c ∈ t, c ≠ guardOpen ∧ c ≠ guardClose) :
    (guardSpans escape t).length = t.length ∧
    (∀ i, (guardSpans escape t)[i]? = some guardOpen ↔ OpensSpan escape t i) ∧
    (∀ i, (guardSpans escape t)[i]? = some guardClose ↔
      ∃ j, Closes t i j ∧ OpensSpan escape t j) ∧
    (∀ i, ¬ OpensSpan escape t i → (¬ ∃ j, Closes t i j ∧ OpensSpan escape t j) →
      (guardSpans escape t)[i]? = t[i]?) ∧
    restoreSpans (guardSpans escape t) = t ∧
    guardSpans escape (guardSpans escape t) = guardSpans escape t ∧
    ∀ front inside back, guardSpans escape t = front ++ '{' :: (inside ++ '}' :: back) →
      (∀ c ∈ inside, isNoBrace c = true) → Balanced guardOpen guardClose inside := by
  obtain ⟨h, hmarks⟩ := guarding_guardSpans alone hopen hclose ht
  exact ⟨length_guardSpans escape t, h.opens, h.closes, fun i => h.stays, h.restored,
    guardSpans_of_marks_eq_nil hmarks, fun front inside back => h.balanced⟩

theorem guardSpans_matching_nested :
    (∀ c, sameLetter '\\' c = true → c = '\\') ∧
      OpensSpan '\\' "\x7b\\Up\x7bx\x7d\\low\x7b\x7d\x7d\x7d".toList 4 ∧
      (∃ j, Closes "\x7b\\Up\x7bx\x7d\\low\x7b\x7d\x7d\x7d".toList 12 j ∧
        OpensSpan '\\' "\x7b\\Up\x7bx\x7d\\low\x7b\x7d\x7d\x7d".toList j) ∧
      (¬ ∃ j, Closes "\x7b\\Up\x7bx\x7d\\low\x7b\x7d\x7d\x7d".toList 13 j ∧
        OpensSpan '\\' "\x7b\\Up\x7bx\x7d\\low\x7b\x7d\x7d\x7d".toList j) ∧
      Balanced guardOpen guardClose "\\Up\ue000x\ue001\\low\ue000\ue001".toList := by
  have ht : ∀ c ∈ "\x7b\\Up\x7bx\x7d\\low\x7b\x7d\x7d\x7d".toList, c ≠ guardOpen ∧ c ≠ guardClose :=
    forall_mem_of_all (by decide)
  obtain ⟨-, hopens, hcloses, -, -, -, hbalanced⟩ :=
    guardSpans_matching uncased_backslash.alone (by decide) (by decide) ht
  refine ⟨uncased_backslash.alone, (hopens 4).mp rfl, (hcloses 12).mp rfl, ?_, ?_⟩
  · exact mt (hcloses 13).mpr (by decide)
  · exact hbalanced [] _ ['\x7d'] rfl (forall_mem_of_all (by decide))

end DialogueMarkup.Markup
