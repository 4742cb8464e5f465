import DialogueMarkup.Console.Styled
import DialogueMarkup.Proofs.Pieces
import DialogueMarkup.Proofs.Trimming

/-! Styled texts and the escaped texts inside them. A tag counts if the number of backslashes in
front of it is even; whether a styled text can be shown is decided by the tags that count, and an
escaped text adds none to those around it. -/
namespace DialogueMarkup.Console
open Text

/-! Tags at the front of a text. -/

def isBracket (c : Char) : Bool := c == '[' || c == ']'

/-- What stands between the brackets of a tag. -/
def IsTagBody (body : List Char) : Prop :=
  ∃ c tail, body = c :: tail ∧ isTagStart c ∧ ∀ d ∈ tail, isBracket d = false

section
variable {s rest : List Char} {t : Tag} {c : Char}

theorem not_isBracket_of_isTagStart (h : isTagStart c) : isBracket c = false := by
  rw [isBracket, Bool.or_eq_false_iff]
  constructor <;>
  · rw [beq_eq_false_iff_ne]
    rintro rfl
    revert h
    decide

theorem readTag_backslash (s : List Char) :
    readTag ('\\' :: s) = (readTag s).map fun r => (⟨r.1.backslashes + 1, r.1.body⟩, r.2) := by
  have hdrop : ('\\' :: s).dropWhile (· == '\\') = s.dropWhile (· == '\\') := rfl
  have htake : ('\\' :: s).takeWhile (· == '\\') = '\\' :: s.takeWhile (· == '\\') := rfl
  rw [readTag, readTag, hdrop, htake]
  dsimp only
  split
  · split
    · split <;> rfl
    · rfl
  · rfl

theorem readTag_replicate (n : Nat) (s : List Char) :
    readTag (List.replicate n '\\' ++ s) =
      (readTag s).map fun r => (⟨r.1.backslashes + n, r.1.body⟩, r.2) := by
  induction n with
  | zero => cases h : readTag s <;> simp [h]
  | succ n ih =>
    rw [List.replicate_succ, List.cons_append, readTag_backslash, ih, Option.map_map]
    rfl

theorem readTag_of_ne (hb : c ≠ '\\') (ho : c ≠ '[') (s : List Char) : readTag (c :: s) = none := by
  have hdrop : (c :: s).dropWhile (· == '\\') = c :: s := by
    rw [List.dropWhile_cons, if_neg (by simpa using hb)]
  rw [readTag, hdrop]
  split
  · next h => exact (ho (List.cons.inj h).1).elim
  · rfl

/-- An opening bracket begins a tag if the next bracket closes it and the body begins as one. -/
theorem readTag_bracket_eq_some_iff :
    readTag ('[' :: s) = some (t, rest) ↔
      IsTagBody t.body ∧ t.backslashes = 0 ∧ s = t.body ++ ']' :: rest := by
  have hplain : (fun d => d != '[' && d != ']') = fun d => !isBracket d := by
    funext d
    rw [isBracket, Bool.not_or]
    rfl
  cases s with
  | nil =>
    refine ⟨nofun, ?_⟩
    rintro ⟨-, -, h⟩
    simp at h
  | cons c s =>
    have hrest : ('[' :: c :: s).dropWhile (· == '\\') = '[' :: c :: s := rfl
    have hslashes : ('[' :: c :: s).takeWhile (· == '\\') = [] := rfl
    simp only [readTag, hrest, hslashes, hplain, List.length_nil]
    constructor
    · intro h
      split at h
      · next after hafter =>
        split at h
        · next hc =>
          cases h
          refine ⟨⟨c, _, rfl, hc, fun d hd => ?_⟩, rfl, ?_⟩
          · have := of_mem_takeWhile _ _ d hd
            rwa [Bool.not_eq_true'] at this
          · rw [List.cons_append, ← hafter, List.takeWhile_append_dropWhile]
        · cases h
      · cases h
    · rintro ⟨⟨d, tail, hbody, hc, htail⟩, hn, hs⟩
      obtain ⟨n, body⟩ := t
      cases hbody
      cases hn
      obtain ⟨rfl, rfl⟩ := List.cons.inj hs
      have hinside : ∀ d ∈ tail, (!isBracket d) = true := fun d hd => by
        rw [htail d hd]
        rfl
      have hend : ∀ d ∈ (']' :: rest).head?, (!isBracket d) = false := by
        rintro _ ⟨⟩
        rfl
      obtain ⟨htake, hdrop⟩ := span_append hinside hend
      rw [List.append_eq, htake, hdrop]
      exact if_pos hc
end

/-- A tag with the backslashes in front of it. -/
def Tag.source (t : Tag) : List Char := List.replicate t.backslashes '\\' ++ t.text

theorem readTag_source {t : Tag} (h : IsTagBody t.body) (rest : List Char) :
    readTag (t.source ++ rest) = some (t, rest) := by
  have hread : readTag (t.text ++ rest) = some (⟨0, t.body⟩, rest) := by
    rw [Tag.text, List.cons_append, List.append_assoc]
    exact readTag_bracket_eq_some_iff.mpr ⟨h, rfl, rfl⟩
  rw [Tag.source, List.append_assoc, readTag_replicate, hread]
  simp

theorem readTag_eq_some {s rest : List Char} {t : Tag} (h : readTag s = some (t, rest)) :
    IsTagBody t.body ∧ s = t.source ++ rest := by
  induction s generalizing t with
  | nil => cases h
  | cons c s ih =>
    by_cases hb : c = '\\'
    · subst hb
      rw [readTag_backslash, Option.map_eq_some_iff] at h
      obtain ⟨⟨t', rest'⟩, hr, hpair⟩ := h
      cases hpair
      obtain ⟨hbody, rfl⟩ := ih hr
      exact ⟨hbody, rfl⟩
    · by_cases ho : c = '['
      · subst ho
        obtain ⟨hbody, hn, rfl⟩ := readTag_bracket_eq_some_iff.mp h
        refine ⟨hbody, ?_⟩
        rw [Tag.source, hn, Tag.text]
        simp
      · rw [readTag_of_ne hb ho] at h
        cases h

theorem consumes_readTag : readTag.Consumes := by
  intro s t rest h
  obtain ⟨-, rfl⟩ := readTag_eq_some h
  simp only [Tag.source, Tag.text, List.length_append, List.length_cons, List.length_replicate]
  omega

/-! The tags that count. -/

/-- The bodies of the tags that no backslash makes plain text. -/
def styling (s : List Char) : List (List Char) :=
  ((marks readTag s).filter fun t => t.backslashes % 2 = 0).map Tag.body

section
variable {s rest : List Char} {t : Tag} {c : Char}

theorem styling_cons_of_none (h : readTag (c :: s) = none) : styling (c :: s) = styling s := by
  rw [styling, marks_cons_of_none h, styling]

theorem styling_cons_of_ne (hb : c ≠ '\\') (ho : c ≠ '[') (s : List Char) :
    styling (c :: s) = styling s :=
  styling_cons_of_none (readTag_of_ne hb ho s)

theorem styling_of_some (h : readTag s = some (t, rest)) :
    styling s = (if t.backslashes % 2 = 0 then [t.body] else []) ++ styling rest := by
  rw [styling, marks_of_some consumes_readTag h, List.filter_cons]
  split <;> simp_all [styling]

theorem styling_source (h : IsTagBody t.body) (rest : List Char) :
    styling (t.source ++ rest) =
      (if t.backslashes % 2 = 0 then [t.body] else []) ++ styling rest :=
  styling_of_some (readTag_source h rest)

/-- A text without an opening bracket says nothing about style, and a character that is neither a
backslash nor a bracket ends it. -/
theorem styling_append {xs : List Char} (hxs : '[' ∉ xs) (hb : c ≠ '\\') (ho : c ≠ '[')
    (s : List Char) : styling (xs ++ c :: s) = styling (c :: s) := by
  have hnone : ∀ xs : List Char, '[' ∉ xs → readTag (xs ++ c :: s) = none := by
    intro xs hxs
    induction xs with
    | nil => exact readTag_of_ne hb ho s
    | cons x xs ih =>
      simp only [List.mem_cons, not_or] at hxs
      by_cases hx : x = '\\'
      · rw [hx, List.cons_append, readTag_backslash, ih hxs.2]
        rfl
      · exact readTag_of_ne hx (Ne.symm hxs.1) _
  induction xs with
  | nil => rfl
  | cons x xs ih =>
    have hx : readTag (x :: (xs ++ c :: s)) = none := hnone (x :: xs) hxs
    rw [List.cons_append, styling_cons_of_none hx]
    exact ih fun h => hxs (List.mem_cons_of_mem x h)

/-- In front of a tag that counts the text so far is done with. -/
theorem plainPieces_mark (ht : t.backslashes % 2 = 0) (styles : List Label) (plain : List Char)
    (ps : List (Piece Tag)) :
    plainPieces styles plain (.mark t :: ps) = (tagged styles t.body).bind fun styles =>
      (plainPieces styles [] ps).map (replaceEmoji (plainBrackets plain.reverse) ++
        List.replicate (t.backslashes / 2) '\\' ++ ·) := by
  rw [plainPieces]
  simp only [show ¬t.backslashes % 2 = 1 by omega, if_false]
  rfl

/-- A text can be shown if the tags that count open and close styles as they should. -/
theorem plainPieces_eq_ok {styles styles' : List Label}
    (h : (styling s).foldlM tagged styles = .ok styles') (plain : List Char) :
    ∃ shown, plainPieces styles plain (pieces readTag s) = .ok shown := by
  induction s using consumes_readTag.induction generalizing styles plain with
  | nil => exact ⟨_, rfl⟩
  | char c s hr ih =>
    rw [styling_cons_of_none hr] at h
    rw [pieces_cons_of_none hr, plainPieces]
    exact ih h _
  | mark s t rest hr ih =>
    rw [styling_of_some hr] at h
    rw [pieces_of_some consumes_readTag hr]
    by_cases ht : t.backslashes % 2 = 0
    · rw [if_pos ht, List.singleton_append, List.foldlM_cons] at h
      obtain ⟨styles₁, htag, hrest⟩ := bind_eq_ok h
      obtain ⟨shown, hshown⟩ := ih hrest []
      rw [plainPieces_mark ht, htag]
      exact ⟨_, congrArg (Except.map _) hshown⟩
    · rw [if_neg ht, List.nil_append] at h
      obtain ⟨shown, hshown⟩ := ih h []
      rw [plainPieces, if_pos (by omega), hshown]
      exact ⟨_, rfl⟩

end

/-! Escaped texts. -/

/-- A text with one more backslash in front of every tag than twice those that are there. -/
def tagsEscaped (s : List Char) : List Char :=
  replaceMarks readTag (fun t => List.replicate (2 * t.backslashes + 1) '\\' ++ t.text) s

theorem escape_eq (s : List Char) : ∃ n, escape s = tagsEscaped s ++ List.replicate n '\\' := by
  have hnone : tagsEscaped s = tagsEscaped s ++ List.replicate 0 '\\' := (List.append_nil _).symm
  rw [escape]
  split
  · exact ⟨1, rfl⟩
  · split
    · exact ⟨0, hnone⟩
    · exact ⟨1, rfl⟩
  · exact ⟨0, hnone⟩

section
variable {s rest u : List Char} {c : Char}

theorem tagsEscaped_mark {t : Tag} (h : readTag s = some (t, rest)) :
    tagsEscaped s = Tag.source ⟨2 * t.backslashes + 1, t.body⟩ ++ tagsEscaped rest :=
  replaceMarks_of_some consumes_readTag h

theorem tagsEscaped_char (h : readTag (c :: s) = none) :
    tagsEscaped (c :: s) = c :: tagsEscaped s :=
  replaceMarks_of_none h

/-- Only backslashes are added. -/
theorem filter_tagsEscaped (s : List Char) :
    (tagsEscaped s).filter (· != '\\') = s.filter (· != '\\') := by
  have hslashes : ∀ n, (List.replicate n '\\').filter (· != '\\') = [] := fun n => by simp
  induction s using consumes_readTag.induction with
  | nil => rfl
  | char c s hr ih => rw [tagsEscaped_char hr, List.filter_cons, List.filter_cons, ih]
  | mark s t rest hr ih =>
    rw [tagsEscaped_mark hr]
    obtain ⟨-, rfl⟩ := readTag_eq_some hr
    simp only [Tag.source, List.filter_append, hslashes, ih]
    rfl

/-- The first bracket stays the same. -/
theorem find?_tagsEscaped (s u : List Char) :
    (tagsEscaped s ++ u).find? isBracket = (s ++ u).find? isBracket := by
  have hfilter : ∀ xs : List Char,
      xs.find? isBracket = (xs.filter (· != '\\')).find? isBracket := fun xs => by
    rw [List.find?_filter]
    refine congrArg (xs.find? ·) (funext fun d => ?_)
    by_cases hd : d = '\\'
    · rw [hd]
      rfl
    · simp [hd]
  rw [List.find?_append, List.find?_append, hfilter, hfilter s, filter_tagsEscaped]

/-- A first character that is no backslash is the first character of the text. -/
theorem head?_tagsEscaped (hc : c ≠ '\\') (h : (tagsEscaped s).head? = some c) :
    s.head? = some c := by
  cases s with
  | nil => cases h
  | cons d s =>
    cases hr : readTag (d :: s) with
    | none =>
      rw [tagsEscaped_char hr] at h
      exact h
    | some r =>
      rw [tagsEscaped_mark hr, Tag.source, List.replicate_succ] at h
      exact (hc (Option.some.inj h).symm).elim

theorem find?_append_closing {s u : List Char} (hu : u.find? isBracket ≠ some ']')
    (h : (s ++ u).find? isBracket = some ']') : s.find? isBracket = some ']' := by
  rw [List.find?_append] at h
  cases hs : s.find? isBracket with
  | none =>
    rw [hs] at h
    exact (hu h).elim
  | some d =>
    rw [hs] at h
    exact h

/-- A bracket that begins no tag begins none when the text behind it is escaped, whatever text
follows whose first bracket does not close. -/
theorem readTag_bracket_tagsEscaped (hu : u.find? isBracket ≠ some ']')
    (h : readTag ('[' :: s) = none) : readTag ('[' :: (tagsEscaped s ++ u)) = none := by
  refine Option.eq_none_iff_forall_ne_some.mpr fun ⟨t, rest⟩ hr => ?_
  obtain ⟨⟨c, tail, hbody, hc, htail⟩, -, htext⟩ := readTag_bracket_eq_some_iff.mp hr
  rw [hbody] at htext
  -- the bracket that closes the tag closes one in the text itself
  have hclosing : s.find? isBracket = some ']' := by
    refine find?_append_closing hu ?_
    rw [← find?_tagsEscaped, htext, List.find?_append, List.find?_eq_none.mpr]
    · rfl
    · intro d hd
      rcases List.mem_cons.mp hd with rfl | hd
      · rw [not_isBracket_of_isTagStart hc]
        decide
      · rw [htail d hd]
        decide
  have hhead : s.head? = some c := by
    refine head?_tagsEscaped (by rintro rfl; revert hc; decide) ?_
    cases hs : tagsEscaped s with
    | nil =>
      have hnone := find?_tagsEscaped s []
      rw [hs, List.append_nil, List.append_nil, hclosing] at hnone
      cases hnone
    | cons d x =>
      rw [hs] at htext
      exact congrArg some (List.cons.inj htext).1
  -- so that the text in front of it begins as the body of a tag
  obtain ⟨-, xs, ys, rfl, hxs⟩ := List.find?_eq_some_iff_append.mp hclosing
  cases xs with
  | nil =>
    cases hhead
    revert hc
    decide
  | cons d xs =>
    cases hhead
    have htag : readTag ('[' :: (c :: xs ++ ']' :: ys)) = some (⟨0, c :: xs⟩, ys) :=
      readTag_bracket_eq_some_iff.mpr ⟨⟨c, xs, rfl, hc, fun d hd => by
        simpa using hxs d (List.mem_cons_of_mem c hd)⟩, rfl, rfl⟩
    rw [h] at htag
    cases htag

/-- What begins no tag begins none when it is escaped; but backslashes alone may stand in front of a
tag of the text that follows. -/
theorem readTag_tagsEscaped (hu : u.find? isBracket ≠ some ']') (h : readTag s = none) :
    (∃ n, tagsEscaped s = List.replicate n '\\') ∨ readTag (tagsEscaped s ++ u) = none := by
  induction s with
  | nil => exact .inl ⟨0, rfl⟩
  | cons c s ih =>
    rw [tagsEscaped_char h]
    by_cases hb : c = '\\'
    · subst hb
      rw [readTag_backslash, Option.map_eq_none_iff] at h
      rcases ih h with ⟨n, hs⟩ | hr
      · exact .inl ⟨n + 1, by rw [hs, List.replicate_succ]⟩
      · right
        rw [List.cons_append, readTag_backslash, hr]
        rfl
    by_cases ho : c = '['
    · subst ho
      exact .inr (readTag_bracket_tagsEscaped hu h)
    · exact .inr (readTag_of_ne hb ho _)

/-- An escaped text says nothing about style: at most its last backslashes bear on a tag that
follows. -/
theorem styling_escape (hu : u.find? isBracket ≠ some ']') (s : List Char) :
    ∃ n, styling (escape s ++ u) = styling (List.replicate n '\\' ++ u) := by
  have htags : ∀ (v : List Char), v.find? isBracket ≠ some ']' →
      ∃ n, styling (tagsEscaped s ++ v) = styling (List.replicate n '\\' ++ v) := by
    intro v hv
    induction s using consumes_readTag.induction with
    | nil => exact ⟨0, rfl⟩
    | char c s hr ih =>
      rcases readTag_tagsEscaped hv hr with ⟨n, hs⟩ | hnone
      · exact ⟨n, by rw [hs]⟩
      · rw [tagsEscaped_char hr, List.cons_append] at hnone ⊢
        rw [styling_cons_of_none hnone]
        exact ih
    | mark s t rest hr ih =>
      obtain ⟨hbody, -⟩ := readTag_eq_some hr
      rw [tagsEscaped_mark hr, List.append_assoc,
        styling_source (t := ⟨2 * t.backslashes + 1, t.body⟩) hbody,
        if_neg (show ¬(2 * t.backslashes + 1) % 2 = 0 by omega)]
      exact ih
  obtain ⟨k, hk⟩ := escape_eq s
  have hslashes : ∀ k, (List.replicate k '\\' ++ u).find? isBracket ≠ some ']' := by
    intro k
    rw [List.find?_append, List.find?_replicate]
    simpa using fun _ => hu
  obtain ⟨n, hn⟩ := htags _ (hslashes k)
  refine ⟨n + k, ?_⟩
  rw [hk, List.append_assoc, hn, ← List.append_assoc, List.replicate_append_replicate]

end

/-! Messages. -/

section
variable {s rest xs : List Char}

theorem styling_tag {body : List Char} (h : IsTagBody body) (rest : List Char) :
    styling (Tag.text ⟨0, body⟩ ++ rest) = body :: styling rest :=
  styling_source (t := ⟨0, body⟩) h rest

/-- Words between tags say nothing about style. -/
theorem styling_words (h : ∀ c ∈ xs, c ≠ '\\' ∧ c ≠ '[') (s : List Char) :
    styling (xs ++ s) = styling s := by
  induction xs with
  | nil => rfl
  | cons c xs ih =>
    obtain ⟨hc, hxs⟩ := List.forall_mem_cons.mp h
    rw [List.cons_append, styling_cons_of_ne hc.1 hc.2, ih hxs]

/-- An escaped text in front of words. -/
theorem styling_escape_words {c : Char} (hb : c ≠ '\\') (hc : isBracket c = false)
    (hu : rest.find? isBracket ≠ some ']') (s : List Char) :
    styling (escape s ++ c :: rest) = styling rest := by
  have ho : c ≠ '[' := by
    rintro rfl
    cases hc
  have hfind : (c :: rest).find? isBracket ≠ some ']' := by
    rwa [List.find?_cons, hc]
  obtain ⟨n, hn⟩ := styling_escape hfind s
  rw [hn, styling_append (by simp [List.mem_replicate]) hb ho, styling_cons_of_ne hb ho]

/-- An escaped text in front of the end of a style, which its last backslashes may make plain. -/
theorem styling_escape_end (s : List Char) :
    styling (escape s ++ Tag.text ⟨0, ['/']⟩) = [['/']] ∨
      styling (escape s ++ Tag.text ⟨0, ['/']⟩) = [] := by
  obtain ⟨n, hn⟩ := styling_escape (u := Tag.text ⟨0, ['/']⟩) (by decide) s
  have hsource := styling_source (t := ⟨n, ['/']⟩) ⟨'/', [], rfl, by decide, by simp⟩ []
  rw [Tag.source, Tag.text, List.append_nil] at hsource
  rw [hn]
  change styling (List.replicate n '\\' ++ Tag.text ⟨0, ['/']⟩) = _ at hsource
  rw [hsource]
  split
  · exact .inl rfl
  · exact .inr rfl

theorem showStyled_eq_ok (styles : List Label) (h : (styling s).foldlM tagged [] = .ok styles) :
    ∃ shown, showStyled s = .ok shown := by
  obtain ⟨shown, hshown⟩ := plainPieces_eq_ok h []
  exact ⟨layOut shown, by rw [showStyled, hshown]; rfl⟩

end

/-! What is shown first. -/

theorem expandTabs_append {xs : List Char} (h : ∀ c ∈ xs, c ≠ '\n' ∧ c ≠ '\t') (column : Column)
    (s : List Char) : ∃ column', expandTabs column (xs ++ s) = xs ++ expandTabs column' s := by
  induction xs generalizing column with
  | nil => exact ⟨column, rfl⟩
  | cons c xs ih =>
    obtain ⟨⟨hbreak, htab⟩, hxs⟩ := List.forall_mem_cons.mp h
    obtain ⟨column', hrest⟩ := ih hxs (column.after c)
    refine ⟨column', ?_⟩
    rw [List.cons_append, expandTabs, if_neg hbreak, if_neg htab, hrest]
    rfl

/-- Characters that are printed as they are stand in front of what is laid out after them. -/
theorem isPrefix_layOut {xs : List Char}
    (h : ∀ c ∈ xs, c ≠ '\n' ∧ c ≠ '\t' ∧ isUnprinted c = false) (s : List Char) :
    xs <+: layOut (xs ++ s) := by
  have hprinted : printed xs = xs := by
    rw [printed, List.filter_eq_self]
    intro c hc
    rw [(h c hc).2.2]
    rfl
  obtain ⟨column, hlaid⟩ := expandTabs_append (fun c hc => ⟨(h c hc).1, (h c hc).2.1⟩) (.start 0)
    (printed s)
  rw [layOut, printed, List.filter_append, ← printed, ← printed, hprinted, hlaid]
  exact List.prefix_append xs _

theorem plainPieces_chars (styles : List Label) (plain xs : List Char) (ps : List (Piece Tag)) :
    plainPieces styles plain (xs.map .char ++ ps) =
      plainPieces styles (xs.reverse ++ plain) ps := by
  induction xs generalizing plain with
  | nil => rfl
  | cons c xs ih =>
    rw [List.map_cons, List.cons_append, plainPieces, ih, List.reverse_cons, List.append_assoc]
    rfl

theorem replaceEmoji_append {xs : List Char} (h : ':' ∉ xs) (s : List Char) :
    replaceEmoji (xs ++ s) = xs ++ replaceEmoji s := by
  induction xs with
  | nil => rfl
  | cons c xs ih =>
    simp only [List.mem_cons, not_or] at h
    have hread : readEmoji (c :: (xs ++ s)) = none := by
      rw [readEmoji.eq_def]
      split
      · next heq => exact (h.1 (List.cons.inj heq).1.symm).elim
      · rfl
    exact (replaceMarks_of_none hread).trans (congrArg (c :: ·) (ih h.2))

theorem plainBrackets_append {xs : List Char} (h : '\\' ∉ xs) (s : List Char) :
    plainBrackets (xs ++ s) = xs ++ plainBrackets s := by
  induction xs with
  | nil => rfl
  | cons c xs ih =>
    simp only [List.mem_cons, not_or] at h
    rw [List.cons_append, plainBrackets.eq_def]
    split
    · next heq => cases heq
    · next heq => exact (h.1 (List.cons.inj heq).1.symm).elim
    · next heq =>
      obtain ⟨rfl, rfl⟩ := List.cons.inj heq
      rw [ih h.2, List.cons_append]

/-- A character that the console shows as it is, whatever follows. -/
def showsItself (c : Char) : Bool :=
  !(['\\', '[', ':', '\n', '\t'].contains c) && !isUnprinted c

theorem not_mem_of_showsItself {xs : List Char} (h : ∀ c ∈ xs, showsItself c = true) {c : Char}
    (hc : showsItself c = false) : c ∉ xs := by
  intro hmem
  rw [h c hmem] at hc
  cases hc

theorem printed_of_showsItself {c : Char} (h : showsItself c = true) :
    c ≠ '\n' ∧ c ≠ '\t' ∧ isUnprinted c = false := by
  simp only [showsItself, Bool.and_eq_true, Bool.not_eq_true', List.contains_eq_mem,
    decide_eq_false_iff_not, List.mem_cons, not_or] at h
  exact ⟨h.1.2.2.2.1, h.1.2.2.2.2.1, h.2⟩

/-- What has been collected in front of a tag, or of the end, is shown first. -/
theorem isPrefix_plainPieces {xs : List Char} (hxs : ∀ c ∈ xs, showsItself c = true)
    {ps : List (Piece Tag)} {styles : List Label} {plain front shown : List Char}
    (hplain : plain.reverse = xs ++ front) (h : plainPieces styles plain ps = .ok shown) :
    xs <+: shown := by
  have hfront : ∀ {plain front : List Char}, plain.reverse = xs ++ front → ∀ rest,
      xs <+: replaceEmoji (plainBrackets plain.reverse) ++ rest := fun hplain rest => by
    rw [hplain, plainBrackets_append (not_mem_of_showsItself hxs rfl),
      replaceEmoji_append (not_mem_of_showsItself hxs rfl), List.append_assoc]
    exact List.prefix_append xs _
  induction ps generalizing plain front with
  | nil =>
    cases h
    simpa using hfront hplain []
  | cons p ps ih =>
    cases p with
    | char c =>
      have hmore : (c :: plain).reverse = xs ++ (front ++ [c]) := by
        rw [List.reverse_cons, hplain, List.append_assoc]
      exact ih hmore h
    | mark t =>
      by_cases ht : t.backslashes % 2 = 0
      · rw [plainPieces_mark ht] at h
        obtain ⟨styles', -, hmap⟩ := bind_eq_ok h
        obtain ⟨rest, -, rfl⟩ := map_eq_ok hmap
        rw [List.append_assoc]
        exact hfront hplain _
      · rw [plainPieces, if_pos (by omega)] at h
        obtain ⟨rest, -, hrest⟩ := bind_eq_ok h
        cases hrest
        rw [List.append_assoc, List.append_assoc]
        exact hfront hplain _

/-- Behind the tag that a text begins with, words are shown as they are. -/
theorem isPrefix_showStyled {body xs rest shown : List Char} (hbody : IsTagBody body)
    (hxs : ∀ c ∈ xs, showsItself c = true)
    (h : showStyled (Tag.text ⟨0, body⟩ ++ (xs ++ rest)) = .ok shown) : xs <+: shown := by
  have hread : pieces readTag (Tag.text ⟨0, body⟩ ++ (xs ++ rest)) =
      .mark ⟨0, body⟩ :: pieces readTag (xs ++ rest) :=
    pieces_of_some consumes_readTag (readTag_source (t := ⟨0, body⟩) hbody _)
  have hwords : pieces readTag (xs ++ rest) = xs.map .char ++ pieces readTag rest := by
    refine pieces_append_of_none fun c hc => readTag_of_ne ?_ ?_
    · rintro rfl
      exact not_mem_of_showsItself hxs rfl hc
    · rintro rfl
      exact not_mem_of_showsItself hxs rfl hc
  obtain ⟨text, htext, rfl⟩ := map_eq_ok h
  rw [hread, hwords, plainPieces_mark rfl] at htext
  obtain ⟨styles, -, hmap⟩ := bind_eq_ok htext
  obtain ⟨inner, hinner, rfl⟩ := map_eq_ok hmap
  rw [plainPieces_chars, List.append_nil] at hinner
  have hempty : replaceEmoji (plainBrackets ([] : List Char).reverse) = [] := rfl
  rw [hempty]
  have hcollected : (xs.reverse).reverse = xs ++ [] := by rw [List.reverse_reverse, List.append_nil]
  obtain ⟨back, rfl⟩ := isPrefix_plainPieces hxs hcollected hinner
  simp only [Nat.zero_div, List.replicate_zero, List.append_nil, List.nil_append]
  exact isPrefix_layOut (fun c hc => printed_of_showsItself (hxs c hc)) back

/-! The styles of messages. -/

section
variable {word : List Char}

/-- Only a mixture of red, green and blue can fail to be read. -/
theorem isColor_eq_ok (h : inBrackets? "rgb" word = none) : ∃ b, isColor word = .ok b := by
  unfold isColor
  -- the names of colours are never looked at
  generalize words colorTable.toList = table
  generalize (decide (word = "default".toList) || table.contains word) = named
  cases named with
  | true => exact ⟨true, rfl⟩
  | false =>
    rw [if_neg Bool.false_ne_true]
    split
    · exact ⟨_, rfl⟩
    · rw [h]
      cases inBrackets? "color" word <;> exact ⟨_, rfl⟩

/-- A word that is a colour or the name of a style of its own. -/
structure IsStyleName (word : List Char) : Prop where
  single : words word = [word]
  small : lower word = word
  noKeyword : word ≠ "on".toList ∧ word ≠ "not".toList ∧ word ≠ "link".toList
  noAttribute : Attribute.ofName? word = none
  noMixture : inBrackets? "rgb" word = none
  noEnd : word.head? ≠ some '/'
  noParameters : ∀ c ∈ word, (c != '=') = true

theorem IsStyleName.normalName_eq_ok (h : IsStyleName word) :
    ∃ name, Style.normalName word = .ok name := by
  obtain ⟨hon, hnot, hlink⟩ := h.noKeyword
  obtain ⟨b, hb⟩ := isColor_eq_ok h.noMixture
  have hread : ∃ style?, Style.read {} [word] = .ok style? := by
    rw [Style.read, h.small, if_neg hon, if_neg hnot, if_neg hlink, h.noAttribute]
    dsimp only
    rw [hb]
    cases b <;> exact ⟨_, rfl⟩
  obtain ⟨style?, hstyle⟩ := hread
  rw [Style.normalName, h.single, hstyle]
  by_cases hnone : trim word = "none".toList
  · rw [if_pos hnone]
    exact ⟨_, rfl⟩
  · rw [if_neg hnone]
    cases style? <;> exact ⟨_, rfl⟩

theorem IsStyleName.tagged_eq_ok (h : IsStyleName word) (styles : List Label) :
    ∃ name, tagged styles word = .ok (⟨name, []⟩ :: styles) := by
  obtain ⟨name, hname⟩ := h.normalName_eq_ok
  have hlabel : Label.ofBody word = ⟨word, []⟩ := by
    have hnone : ∀ c ∈ ([] : List Char).head?, (c != '=') = false := nofun
    obtain ⟨htake, hdrop⟩ := span_append h.noParameters hnone
    rw [List.append_nil] at htake hdrop
    rw [Label.ofBody, htake, hdrop]
    rfl
  refine ⟨name, ?_⟩
  rw [tagged, hlabel]
  dsimp only
  split
  · exact (h.noEnd rfl).elim
  · rw [hname]
    rfl

theorem tagged_end (name : List Char) (styles : List Label) :
    tagged (⟨name, []⟩ :: styles) ['/'] = .ok styles := by
  have hends : Label.ends ⟨name, []⟩ = .ok () := if_neg (by simp)
  rw [tagged]
  change (do
    let _ ← Label.ends ⟨name, []⟩
    return styles) = Except.ok styles
  rw [hends]
  rfl

theorem isStyleName_err : IsStyleName "err".toList :=
  ⟨by decide +kernel, by decide +kernel, by decide, by decide, by decide, by decide,
    forall_mem_of_all (by decide)⟩

theorem isStyleName_warn : IsStyleName "warn".toList :=
  ⟨by decide +kernel, by decide +kernel, by decide, by decide, by decide, by decide,
    forall_mem_of_all (by decide)⟩

theorem isStyleName_path : IsStyleName "bright_cyan".toList :=
  ⟨by decide +kernel, by decide +kernel, by decide, by decide, by decide, by decide,
    forall_mem_of_all (by decide)⟩

end

/-! Messages that hold an escaped text. -/

section
variable {front back path : List Char}

theorem isTagBody_err : IsTagBody "err".toList :=
  ⟨'e', _, rfl, by decide, forall_mem_of_all (by decide)⟩

theorem isTagBody_warn : IsTagBody "warn".toList :=
  ⟨'w', _, rfl, by decide, forall_mem_of_all (by decide)⟩

theorem isTagBody_path : IsTagBody "bright_cyan".toList :=
  ⟨'b', _, rfl, by decide, forall_mem_of_all (by decide)⟩

theorem isTagBody_end : IsTagBody ['/'] :=
  ⟨'/', _, rfl, by decide, forall_mem_of_all (by decide)⟩

theorem foldlM_cons_of_ok {ε α β : Type} {f : α → β → Except ε α} {a a' : α} {b : β}
    (h : f a b = .ok a') (bs : List β) : (b :: bs).foldlM f a = bs.foldlM f a' := by
  rw [List.foldlM_cons, h]
  rfl

/-- A message whose style ends behind an escaped text can be shown, whether or not the end of the
style counts there. -/
theorem showStyled_of_escape_end {message s name : List Char} {bodies : List (List Char)}
    (hbodies : bodies.foldlM tagged [] = .ok [⟨name, []⟩])
    (h : styling message = bodies ++ styling (escape s ++ Tag.text ⟨0, ['/']⟩)) :
    ∃ shown, showStyled message = .ok shown := by
  have hfold : ∀ more : List (List Char),
      (bodies ++ more).foldlM tagged [] = more.foldlM tagged [⟨name, []⟩] := by
    intro more
    rw [List.foldlM_append, hbodies]
    rfl
  rcases styling_escape_end s with hs | hs
  · refine showStyled_eq_ok [] ?_
    rw [h, hs, hfold, foldlM_cons_of_ok (tagged_end name [])]
    rfl
  · refine showStyled_eq_ok [⟨name, []⟩] ?_
    rw [h, hs, hfold]
    rfl

/-- A complaint that ends in an escaped text. -/
theorem showStyled_complaint (hfront : ∀ c ∈ front, c ≠ '\\' ∧ c ≠ '[') (s : List Char) :
    ∃ shown, showStyled ("[err]✖ ".toList ++ (front ++ escape s) ++ "[/]".toList) = .ok shown := by
  have herr : "[err]✖ ".toList = Tag.text ⟨0, "err".toList⟩ ++ "✖ ".toList := rfl
  have hend : "[/]".toList = Tag.text ⟨0, ['/']⟩ := rfl
  have hmark : ∀ c ∈ "✖ ".toList, c ≠ '\\' ∧ c ≠ '[' := forall_mem_of_all (by decide)
  have hstyling : styling ("[err]✖ ".toList ++ (front ++ escape s) ++ "[/]".toList) =
      ["err".toList] ++ styling (escape s ++ Tag.text ⟨0, ['/']⟩) := by
    rw [herr, hend]
    simp only [List.append_assoc]
    rw [styling_tag isTagBody_err, styling_words hmark, styling_words hfront]
    rfl
  obtain ⟨name, hname⟩ := isStyleName_err.tagged_eq_ok []
  exact showStyled_of_escape_end (foldlM_cons_of_ok hname []) hstyling

/-- A warning about an escaped text. -/
theorem showStyled_warning {c : Char} (hfront : ∀ d ∈ front, d ≠ '\\' ∧ d ≠ '[')
    (hback : ∀ d ∈ c :: back, d ≠ '\\' ∧ isBracket d = false) (s : List Char) :
    ∃ shown, showStyled ("[warn]⚠ ".toList ++ (front ++ escape s ++ c :: back) ++ "[/]".toList) =
      .ok shown := by
  have hwarn : "[warn]⚠ ".toList = Tag.text ⟨0, "warn".toList⟩ ++ "⚠ ".toList := rfl
  have hend : "[/]".toList = Tag.text ⟨0, ['/']⟩ := rfl
  have hmark : ∀ d ∈ "⚠ ".toList, d ≠ '\\' ∧ d ≠ '[' := forall_mem_of_all (by decide)
  obtain ⟨hc, hback⟩ := List.forall_mem_cons.mp hback
  have hbrackets : (back ++ Tag.text ⟨0, ['/']⟩).find? isBracket ≠ some ']' := by
    rw [List.find?_append, List.find?_eq_none.mpr fun d hd => by simp [(hback d hd).2]]
    decide
  have hplain : ∀ d ∈ back, d ≠ '\\' ∧ d ≠ '[' := fun d hd =>
    ⟨(hback d hd).1, by
      rintro rfl
      cases (hback _ hd).2⟩
  have hstyling : styling ("[warn]⚠ ".toList ++ (front ++ escape s ++ c :: back) ++
      "[/]".toList) = ["warn".toList, ['/']] := by
    have hrest : styling (Tag.text ⟨0, ['/']⟩) = [['/']] := styling_tag isTagBody_end []
    rw [hwarn, hend]
    simp only [List.append_assoc, List.cons_append]
    rw [styling_tag isTagBody_warn, styling_words hmark, styling_words hfront,
      styling_escape_words hc.1 hc.2 hbrackets, styling_words hplain, hrest]
  obtain ⟨name, hname⟩ := isStyleName_warn.tagged_eq_ok []
  refine showStyled_eq_ok [] ?_
  rw [hstyling, foldlM_cons_of_ok hname, foldlM_cons_of_ok (tagged_end name [])]
  rfl

/-- A complaint about the file at a path: the path stands between two tags. -/
def fileComplaint (front path s : List Char) : List Char :=
  "[err]✖ ".toList ++ (front ++ ("[bright_cyan]'".toList ++ path ++ "'[/]".toList) ++
    ": ".toList ++ escape s) ++ "[/]".toList

theorem fileComplaint_eq (front path s : List Char) :
    fileComplaint front path s = Tag.text ⟨0, "err".toList⟩ ++ (("✖ ".toList ++ front) ++
      (Tag.text ⟨0, "bright_cyan".toList⟩ ++ (('\'' :: path) ++ '\'' ::
        (Tag.text ⟨0, ['/']⟩ ++ (": ".toList ++ (escape s ++ Tag.text ⟨0, ['/']⟩)))))) := by
  have herr : "[err]✖ ".toList = Tag.text ⟨0, "err".toList⟩ ++ "✖ ".toList := rfl
  have hpath : "[bright_cyan]'".toList = Tag.text ⟨0, "bright_cyan".toList⟩ ++ ['\''] := rfl
  have hquote : "'[/]".toList = '\'' :: Tag.text ⟨0, ['/']⟩ := rfl
  have hend : "[/]".toList = Tag.text ⟨0, ['/']⟩ := rfl
  unfold fileComplaint
  simp only [herr, hpath, hquote, hend, List.append_assoc, List.cons_append, List.nil_append]

/-- It can be shown if the path holds nothing that looks like a tag. -/
theorem showStyled_fileComplaint (hpath : '[' ∉ path)
    (hfront : ∀ c ∈ "✖ ".toList ++ front, c ≠ '\\' ∧ c ≠ '[') (s : List Char) :
    ∃ shown, showStyled (fileComplaint front path s) = .ok shown := by
  have hstyling : styling (fileComplaint front path s) =
      ["err".toList, "bright_cyan".toList, ['/']] ++
        styling (escape s ++ Tag.text ⟨0, ['/']⟩) := by
    have hcolon : ∀ c ∈ ": ".toList, c ≠ '\\' ∧ c ≠ '[' := forall_mem_of_all (by decide)
    have hquoted : '[' ∉ '\'' :: path := List.not_mem_cons_of_ne_of_not_mem (by decide) hpath
    rw [fileComplaint_eq, styling_tag isTagBody_err, styling_words hfront,
      styling_tag isTagBody_path, styling_append hquoted (by decide) (by decide),
      styling_cons_of_ne (by decide) (by decide), styling_tag isTagBody_end,
      styling_words hcolon]
    rfl
  obtain ⟨name, hname⟩ := isStyleName_err.tagged_eq_ok []
  obtain ⟨color, hcolor⟩ := isStyleName_path.tagged_eq_ok [⟨name, []⟩]
  have hbodies : ["err".toList, "bright_cyan".toList, ['/']].foldlM tagged [] =
      .ok [⟨name, []⟩] := by
    rw [foldlM_cons_of_ok hname, foldlM_cons_of_ok hcolor, foldlM_cons_of_ok (tagged_end _ _)]
    rfl
  exact showStyled_of_escape_end hbodies hstyling

/-- The words in front of the path are shown first. -/
theorem isPrefix_fileComplaint {s shown : List Char}
    (hfront : ∀ c ∈ "✖ ".toList ++ front, showsItself c = true)
    (h : showStyled (fileComplaint front path s) = .ok shown) :
    "✖ ".toList ++ front <+: shown := by
  rw [fileComplaint_eq] at h
  exact isPrefix_showStyled isTagBody_err hfront h

end

end DialogueMarkup.Console
