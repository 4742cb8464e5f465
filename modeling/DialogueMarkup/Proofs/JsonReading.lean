import DialogueMarkup.Document.Json
import DialogueMarkup.Proofs.Pieces

/-! The reading of JSON. Its readers leave less than they are given, so the steps that `parse`
allows are enough for every text; and a text that opens with more brackets than may nest is refused
for its depth, whatever follows. -/
namespace DialogueMarkup.Document.Json
open Text

/-! What is left to be read. -/

section
variable {s t : List Char}

theorem length_dropWhile_le (p : Char → Bool) (s : List Char) :
    (s.dropWhile p).length ≤ s.length :=
  (List.dropWhile_suffix p).length_le

theorem length_skipGap_le (s : List Char) : (skipGap s).length ≤ s.length :=
  length_dropWhile_le isGap s

theorem length_lt_of_skipGap {c : Char} (h : skipGap s = c :: t) : t.length < s.length := by
  have hle := length_skipGap_le s
  rw [h] at hle
  exact hle

theorem length_lt_of_readUnit? {n : Nat} (h : readUnit? s = some (n, t)) :
    t.length < s.length := by
  unfold readUnit? at h
  split at h
  · simp only [bind, Option.bind_eq_some_iff] at h
    obtain ⟨a, -, b, -, c, -, d, -, h⟩ := h
    obtain rfl := congrArg Prod.snd (Option.some.inj h)
    simp only [List.length_cons]
    omega
  · cases h

theorem length_lt_of_readLowHalf? {n : Nat} (h : readLowHalf? s = some (n, t)) :
    t.length < s.length := by
  unfold readLowHalf? at h
  split at h
  · split at h
    · next hunit =>
      have := length_lt_of_readUnit? hunit
      split at h
      · cases h
        simp only [List.length_cons]
        omega
      · cases h
    · cases h
  · cases h

theorem length_lt_of_readCode? {n : Nat} (h : readCode? s = some (n, t)) :
    t.length < s.length := by
  unfold readCode? at h
  split at h
  · cases h
  · simp only [bind, Option.bind_eq_some_iff] at h
    obtain ⟨⟨m, rest⟩, hunit, h⟩ := h
    have hrest := length_lt_of_readUnit? hunit
    have hle : t.length ≤ rest.length := by
      split at h
      · split at h
        · next hlow =>
          obtain rfl := congrArg Prod.snd (Option.some.inj h)
          exact Nat.le_of_lt (length_lt_of_readLowHalf? hlow)
        · obtain rfl := congrArg Prod.snd (Option.some.inj h)
          exact Nat.le_refl _
      · obtain rfl := congrArg Prod.snd (Option.some.inj h)
        exact Nat.le_refl _
    simp only [List.length_cons]
    omega
  · obtain ⟨c, -, h⟩ := Option.map_eq_some_iff.mp h
    cases h
    simp only [List.length_cons]
    omega
  · split at h
    · cases h
    · cases h
      simp

theorem length_lt_of_readText? {fuel : Nat} {points : List Nat}
    (h : readText? fuel s = some (points, t)) : t.length < s.length := by
  induction fuel generalizing s points with
  | zero => cases h
  | succ fuel ih =>
    rw [readText?.eq_def] at h
    dsimp only at h
    split at h
    · cases h
      simp
    · simp only [bind, Option.bind_eq_some_iff] at h
      obtain ⟨⟨n, rest⟩, hcode, ⟨points', rest'⟩, htext, h⟩ := h
      cases h
      exact Nat.lt_trans (ih htext) (length_lt_of_readCode? hcode)

theorem length_readFraction_le (s : List Char) : (readFraction s).2.length ≤ s.length := by
  unfold readFraction
  split
  · next rest =>
    split
    · exact Nat.le_refl _
    · exact Nat.le_trans (length_dropWhile_le _ rest) (Nat.le_succ _)
  · exact Nat.le_refl _

theorem length_readSign_le (s : List Char) : (Numeral.readSign s).2.length ≤ s.length := by
  unfold Numeral.readSign
  split <;> simp

theorem length_le_of_readExponent? {n : Int} (h : readExponent? s = some (n, t)) :
    t.length ≤ s.length := by
  unfold readExponent? at h
  split at h
  · cases h
  · next e rest =>
    split at h
    · dsimp only at h
      split at h
      · cases h
      · obtain rfl := congrArg Prod.snd (Option.some.inj h)
        have hdigits := length_dropWhile_le Char.isDigit (Numeral.readSign rest).2
        have hsign := length_readSign_le rest
        simp only [dropDigits, List.length_cons]
        omega
    · cases h

theorem length_readWhole_lt (h : (readWhole s).1.isEmpty = false) :
    (readWhole s).2.length < s.length := by
  unfold readWhole at h ⊢
  split at h
  · simp
  · have hsplit := congrArg List.length
      (List.takeWhile_append_dropWhile (p := Char.isDigit) (l := s))
    rw [List.length_append] at hsplit
    have hdigits : 0 < (s.takeWhile Char.isDigit).length := by
      rw [List.length_pos_iff, ne_eq, ← List.isEmpty_iff, Bool.not_eq_true]
      exact h
    simp only [dropDigits]
    omega

theorem length_lt_of_readNumber {negative : Bool} {v : Document}
    (h : readNumber negative s = .ok (v, t)) : t.length < s.length := by
  rw [readNumber.eq_def] at h
  dsimp only at h
  split at h
  · cases h
  · next hwhole =>
    have hrest := length_readWhole_lt (Bool.not_eq_true _ ▸ hwhole)
    have hfraction := length_readFraction_le (readWhole s).2
    have hle : t.length ≤ (readFraction (readWhole s).2).2.length := by
      split at h
      · next hexponent =>
        cases h
        exact length_le_of_readExponent? hexponent
      · split at h
        · split at h
          · cases h
            exact Nat.le_refl _
          · cases h
        · cases h
          exact Nat.le_refl _
    omega

theorem length_lt_of_readLiteral? {word : String} (hne : 0 < word.length)
    (h : readLiteral? word s = some t) : t.length < s.length := by
  unfold readLiteral? at h
  split at h
  · next hprefix =>
    cases h
    have hle := (List.isPrefixOf_iff_prefix.mp hprefix).length_le
    rw [String.length_toList] at hle
    rw [List.length_drop]
    omega
  · cases h

theorem length_lt_of_readAtom {v : Document} (h : readAtom s = .ok (v, t)) :
    t.length < s.length := by
  simp only [readAtom] at h
  split at h
  · next r hliteral =>
    cases h
    obtain ⟨literal, hmem, hread⟩ := List.exists_of_findSome?_eq_some hliteral
    obtain ⟨rest, hrest, hpair⟩ := Option.map_eq_some_iff.mp hread
    cases hpair
    refine length_lt_of_readLiteral? ?_ hrest
    simp only [List.mem_cons, List.not_mem_nil, or_false] at hmem
    rcases hmem with rfl | rfl | rfl | rfl | rfl | rfl <;> decide
  · split at h
    · exact Nat.lt_trans (length_lt_of_readNumber h) (Nat.lt_succ_self _)
    · exact length_lt_of_readNumber h

end

/-! The readers of values, items and fields call one another with one step less. -/

/-- What a reader leaves is shorter than what it is given. -/
def Shortens (read : List Char → Except DataFault (Document × List Char)) : Prop :=
  ∀ s v t, read s = .ok (v, t) → t.length < s.length

section
variable {fuel : Nat}

theorem shortens_readValue (hitems : ∀ depth items, Shortens (readItems fuel depth items))
    (hfields : ∀ depth fields, Shortens (readFields fuel depth fields)) (depth : Nat) :
    Shortens (readValue (fuel + 1) depth) := by
  intro s v t h
  rw [readValue.eq_def] at h
  dsimp only at h
  -- by what it begins with: a text, a list, an object, and all the rest
  split at h
  · split at h
    · next htext =>
      cases h
      exact Nat.lt_succ_of_lt (length_lt_of_readText? htext)
    · cases h
  · next rest =>
    split at h
    · cases h
    · split at h
      · next hclosed =>
        cases h
        exact Nat.lt_succ_of_lt (length_lt_of_skipGap hclosed)
      · exact Nat.lt_succ_of_lt
          (Nat.lt_of_lt_of_le (hitems _ _ _ _ _ h) (length_skipGap_le rest))
  · next rest =>
    split at h
    · cases h
    · split at h
      · next hclosed =>
        cases h
        exact Nat.lt_succ_of_lt (length_lt_of_skipGap hclosed)
      · exact Nat.lt_succ_of_lt
          (Nat.lt_of_lt_of_le (hfields _ _ _ _ _ h) (length_skipGap_le rest))
  · exact length_lt_of_readAtom h

theorem shortens_readItems (hvalue : ∀ depth, Shortens (readValue fuel depth))
    (hitems : ∀ depth items, Shortens (readItems fuel depth items)) (depth : Nat)
    (items : List Document) : Shortens (readItems (fuel + 1) depth items) := by
  intro s v t h
  rw [readItems] at h
  split at h
  · cases h
  · next w rest hv =>
    have hrest := hvalue _ _ _ _ hv
    split at h
    · next t' hcomma =>
      -- value, comma and gap have gone when the next items are read
      have hnext := length_lt_of_skipGap hcomma
      have hgap := length_skipGap_le t'
      have hlast := hitems _ _ _ _ _ h
      omega
    · next hclosed =>
      cases h
      exact Nat.lt_trans (length_lt_of_skipGap hclosed) hrest
    · cases h

theorem shortens_readFields (hvalue : ∀ depth, Shortens (readValue fuel depth))
    (hfields : ∀ depth fields, Shortens (readFields fuel depth fields)) (depth : Nat)
    (fields : List (Document × Document)) : Shortens (readFields (fuel + 1) depth fields) := by
  intro s v t h
  rw [readFields.eq_def] at h
  dsimp only at h
  split at h
  · next rest =>
    split at h
    · cases h
    · next points named htext =>
      have hname := length_lt_of_readText? htext
      split at h
      · next colon hcolon =>
        have hmark := length_lt_of_skipGap hcolon
        have hgap := length_skipGap_le colon
        split at h
        · cases h
        · next w rest' hv =>
          have hrest := hvalue _ _ _ _ hv
          split at h
          · next next' hcomma =>
            have hnext := length_lt_of_skipGap hcomma
            have hlast := hfields _ _ _ _ _ h
            have hgap' := length_skipGap_le next'
            simp only [List.length_cons]
            omega
          · next hclosed =>
            cases h
            have hend := length_lt_of_skipGap hclosed
            simp only [List.length_cons]
            omega
          · cases h
      · cases h
  · cases h

end

theorem shortens_read (fuel : Nat) :
    (∀ depth, Shortens (readValue fuel depth)) ∧
    (∀ depth items, Shortens (readItems fuel depth items)) ∧
    ∀ depth fields, Shortens (readFields fuel depth fields) := by
  induction fuel with
  | zero => exact ⟨nofun, nofun, nofun⟩
  | succ fuel ih =>
    obtain ⟨hvalue, hitems, hfields⟩ := ih
    exact ⟨shortens_readValue hitems hfields, shortens_readItems hvalue hitems,
      shortens_readFields hvalue hfields⟩

/-! More steps than twice the length change nothing: a value takes one more step than what stands
in its brackets, and what stands there is shorter. -/

section
variable {fuel fuel' depth : Nat} {s : List Char}

theorem readValue_congr
    (hitems : ∀ depth t, t.length < s.length →
      readItems fuel depth [] t = readItems fuel' depth [] t)
    (hfields : ∀ depth t, t.length < s.length →
      readFields fuel depth [] t = readFields fuel' depth [] t) :
    readValue (fuel + 1) depth s = readValue (fuel' + 1) depth s := by
  rw [readValue.eq_def, readValue.eq_def (fuel' + 1)]
  dsimp only
  split
  · rfl
  · next rest =>
    have hgap := Nat.lt_succ_of_le (length_skipGap_le rest)
    split
    · rfl
    · split
      · rfl
      · exact hitems _ _ hgap
  · next rest =>
    have hgap := Nat.lt_succ_of_le (length_skipGap_le rest)
    split
    · rfl
    · split
      · rfl
      · exact hfields _ _ hgap
  · rfl

theorem readItems_congr {items : List Document}
    (hvalue : readValue fuel depth s = readValue fuel' depth s)
    (hitems : ∀ items t, t.length + 1 < s.length →
      readItems fuel depth items t = readItems fuel' depth items t) :
    readItems (fuel + 1) depth items s = readItems (fuel' + 1) depth items s := by
  rw [readItems, readItems, ← hvalue]
  split
  · rfl
  · next v rest hv =>
    -- a comma stands in between, so the items to come lack two characters at least
    have hrest := (shortens_read fuel).1 _ _ _ _ hv
    split
    · next t hcomma =>
      have hnext := length_lt_of_skipGap hcomma
      have hgap := length_skipGap_le t
      exact hitems _ _ (by omega)
    · rfl
    · rfl

theorem readFields_congr {fields : List (Document × Document)}
    (hvalue : ∀ t, t.length < s.length → readValue fuel depth t = readValue fuel' depth t)
    (hfields : ∀ fields t, t.length + 1 < s.length →
      readFields fuel depth fields t = readFields fuel' depth fields t) :
    readFields (fuel + 1) depth fields s = readFields (fuel' + 1) depth fields s := by
  rw [readFields.eq_def, readFields.eq_def (fuel' + 1)]
  dsimp only
  split
  · next rest =>
    split
    · rfl
    · next points named htext =>
      have hname := length_lt_of_readText? htext
      split
      · next t hcolon =>
        have hmark := length_lt_of_skipGap hcolon
        have hgap := length_skipGap_le t
        rw [← hvalue (skipGap t) (by simp only [List.length_cons]; omega)]
        split
        · rfl
        · next v rest' hv =>
          have hrest := (shortens_read fuel).1 _ _ _ _ hv
          split
          · next t' hcomma =>
            have hnext := length_lt_of_skipGap hcomma
            have hgap' := length_skipGap_le t'
            exact hfields _ _ (by simp only [List.length_cons]; omega)
          · rfl
          · rfl
      · rfl
  · rfl

end

theorem read_of_fuel (fuel fuel' : Nat) :
    (∀ depth s, 2 * s.length < fuel → 2 * s.length < fuel' →
      readValue fuel depth s = readValue fuel' depth s) ∧
    (∀ depth items s, 2 * s.length + 1 < fuel → 2 * s.length + 1 < fuel' →
      readItems fuel depth items s = readItems fuel' depth items s) ∧
    ∀ depth fields s, 2 * s.length + 1 < fuel → 2 * s.length + 1 < fuel' →
      readFields fuel depth fields s = readFields fuel' depth fields s := by
  -- the induction is on one of the two numbers of steps, the other follows it down
  induction fuel generalizing fuel' with
  | zero => exact ⟨fun _ _ h => by omega, fun _ _ _ h => by omega, fun _ _ _ h => by omega⟩
  | succ fuel ih =>
    cases fuel' with
    | zero => exact ⟨fun _ _ _ h => by omega, fun _ _ _ _ h => by omega, fun _ _ _ _ h => by omega⟩
    | succ fuel' =>
      obtain ⟨hvalue, hitems, hfields⟩ := ih fuel'
      refine ⟨fun depth s h h' => ?_, fun depth items s h h' => ?_, fun depth fields s h h' => ?_⟩
      · exact readValue_congr (fun _ t ht => hitems _ _ t (by omega) (by omega))
          fun _ t ht => hfields _ _ t (by omega) (by omega)
      · exact readItems_congr (hvalue _ s (by omega) (by omega))
          fun _ t ht => hitems _ _ t (by omega) (by omega)
      · exact readFields_congr (fun t ht => hvalue _ t (by omega) (by omega))
          fun _ t ht => hfields _ _ t (by omega) (by omega)

/-- More steps than `parse` allows change nothing. -/
theorem parse_of_fuel {s : List Char} {fuel : Nat} (h : 2 * s.length < fuel) (depth : Nat) :
    parse s depth = (do
      let (v, rest) ← readValue fuel depth (skipGap s)
      if (skipGap rest).isEmpty then return v else throw .noDocument) := by
  have hgap := length_skipGap_le s
  rw [parse, (read_of_fuel _ fuel).1 _ _ (by omega) (by omega)]

/-! What can be wrong with a text. -/

/-- What can be wrong with a text that should be a document in JSON. -/
inductive Refuses : DataFault → Prop
  | noDocument : Refuses .noDocument
  | tooDeep : Refuses .tooDeep
  | numeral (fault : NumeralFault) : Refuses (.numeral fault)

section
variable {fault : DataFault} {s : List Char}

theorem refuses_of_readNumber {negative : Bool}
    (h : readNumber negative s = .error fault) : Refuses fault := by
  rw [readNumber.eq_def] at h
  -- without digits, with an exponent, with too many digits, and with a fraction
  repeat' split at h
  all_goals cases h
  all_goals constructor

theorem refuses_of_readAtom (h : readAtom s = .error fault) : Refuses fault := by
  simp only [readAtom] at h
  split at h
  · cases h
  · split at h <;> exact refuses_of_readNumber h

end

/-- A reader fails only for what can be wrong with a document. -/
def FailsAsRefused (read : List Char → Except DataFault (Document × List Char)) : Prop :=
  ∀ s fault, read s = .error fault → Refuses fault

section
variable {fuel : Nat}

theorem failsAsRefused_readValue
    (hitems : ∀ depth items, FailsAsRefused (readItems fuel depth items))
    (hfields : ∀ depth fields, FailsAsRefused (readFields fuel depth fields)) (depth : Nat) :
    FailsAsRefused (readValue (fuel + 1) depth) := by
  intro s fault h
  rw [readValue.eq_def] at h
  dsimp only at h
  -- only a list and an object can be too deep
  split at h
  · split at h
    · cases h
    · cases h
      exact .noDocument
  · split at h
    · cases h
      exact .tooDeep
    · split at h
      · cases h
      · exact hitems _ _ _ _ h
  · split at h
    · cases h
      exact .tooDeep
    · split at h
      · cases h
      · exact hfields _ _ _ _ h
  · exact refuses_of_readAtom h

theorem failsAsRefused_readItems (hvalue : ∀ depth, FailsAsRefused (readValue fuel depth))
    (hitems : ∀ depth items, FailsAsRefused (readItems fuel depth items)) (depth : Nat)
    (items : List Document) : FailsAsRefused (readItems (fuel + 1) depth items) := by
  intro s fault h
  rw [readItems] at h
  split at h
  · next hv =>
    cases h
    exact hvalue _ _ _ hv
  · split at h
    · exact hitems _ _ _ _ h
    · cases h
    · cases h
      exact .noDocument

theorem failsAsRefused_readFields (hvalue : ∀ depth, FailsAsRefused (readValue fuel depth))
    (hfields : ∀ depth fields, FailsAsRefused (readFields fuel depth fields)) (depth : Nat)
    (fields : List (Document × Document)) :
    FailsAsRefused (readFields (fuel + 1) depth fields) := by
  intro s fault h
  rw [readFields.eq_def] at h
  dsimp only at h
  split at h
  · split at h
    · cases h
      exact .noDocument
    · split at h
      · split at h
        · next hv =>
          cases h
          exact hvalue _ _ _ hv
        · split at h
          · exact hfields _ _ _ _ h
          · cases h
          · cases h
            exact .noDocument
      · cases h
        exact .noDocument
  · cases h
    exact .noDocument

end

theorem failsAsRefused_read (fuel : Nat) :
    (∀ depth, FailsAsRefused (readValue fuel depth)) ∧
    (∀ depth items, FailsAsRefused (readItems fuel depth items)) ∧
    ∀ depth fields, FailsAsRefused (readFields fuel depth fields) := by
  induction fuel with
  | zero =>
    -- a reader without steps says that there is no document
    have hnone : ∀ {read : List Char → Except DataFault (Document × List Char)},
        (∀ s, read s = .error .noDocument) → FailsAsRefused read := by
      intro read hread s fault h
      cases (hread s).symm.trans h
      exact .noDocument
    exact ⟨fun _ => hnone fun _ => rfl, fun _ _ => hnone fun _ => rfl, fun _ _ => hnone fun _ => rfl⟩
  | succ fuel ih =>
    obtain ⟨hvalue, hitems, hfields⟩ := ih
    exact ⟨failsAsRefused_readValue hitems hfields, failsAsRefused_readItems hvalue hitems,
      failsAsRefused_readFields hvalue hfields⟩

section
variable {fault : DataFault} {s : List Char}

theorem refuses_of_parse {depth : Nat} (h : parse s depth = .error fault) : Refuses fault := by
  rw [parse] at h
  cases hv : readValue (2 * s.length + 1) depth (skipGap s) with
  | error fault' =>
    rw [hv] at h
    cases h
    exact (failsAsRefused_read _).1 _ _ _ hv
  | ok r =>
    rw [hv] at h
    change (if (skipGap r.2).isEmpty then Except.ok r.1 else .error DataFault.noDocument) =
      .error fault at h
    split at h
    · cases h
    · cases h
      exact .noDocument

end

/-! Brackets that nest too deeply. -/

section
variable {depth n : Nat}

theorem readValue_nest (h : depth < n) (fuel : Nat) (s : List Char) :
    readValue (2 * n + fuel) depth (List.replicate n '[' ++ s) = .error .tooDeep := by
  induction n generalizing depth with
  | zero => omega
  | succ n ih =>
    have hfuel : 2 * (n + 1) + fuel = (2 * n + fuel) + 1 + 1 := by omega
    rw [hfuel, List.replicate_succ, List.cons_append]
    cases depth with
    | zero => rfl
    | succ depth =>
      -- there is a second bracket, since more than one may still nest
      obtain ⟨m, rfl⟩ : ∃ m, n = m + 1 := ⟨n - 1, by omega⟩
      -- after the first bracket comes the first item of a list, which begins with the second
      change readItems (2 * (m + 1) + fuel + 1) depth [] (List.replicate (m + 1) '[' ++ s) = _
      rw [readItems, ih (by omega)]

/-- A text that opens with more brackets than may nest is refused for its depth. -/
theorem parse_nest (h : depth < n) (s : List Char) :
    parse (List.replicate n '[' ++ s) depth = .error .tooDeep := by
  obtain ⟨m, rfl⟩ : ∃ m, n = m + 1 := ⟨n - 1, by omega⟩
  have hgap : skipGap (List.replicate (m + 1) '[' ++ s) = List.replicate (m + 1) '[' ++ s := rfl
  have hfuel : 2 * (List.replicate (m + 1) '[' ++ s).length + 1 =
      2 * (m + 1) + (2 * s.length + 1) := by
    simp only [List.length_append, List.length_replicate]
    omega
  rw [parse, hgap, hfuel, readValue_nest h]
  rfl

end
end DialogueMarkup.Document.Json
