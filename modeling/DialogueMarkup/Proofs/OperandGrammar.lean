import DialogueMarkup.Proofs.Complaints
import DialogueMarkup.Proofs.PlainAscii

/-! The grammar of what operands have in common: a sigil in front of the slot, and an address behind
it. In ASCII text both are read just as they are derived. -/
namespace DialogueMarkup
open Text Markup

/-! Addresses. -/

/-- What one part of an address stands for: nothing if it is blank, an id if it is a row of digits,
else the name that is left of it without the blanks around. -/
inductive Place.Spelled (s : List Char) : Option Place → Prop
  | blank (h : trim s = []) : Spelled s none
  | id (h : IsDigitRow (trim s)) : Spelled s (some (.id (Nat.ofDigitChars 10 (trim s) 0)))
  | name (h : ∃ c ∈ trim s, c.isDigit = false) : Spelled s (some (.name (trim s)))

/-- What may stand behind a slot: nothing, or an at sign and an address on one line. Without a colon
the address is a context, with one it is a container and a context. -/
inductive AddressSpelled : List Char → Option Place → Option Place → Prop
  | absent : AddressSpelled [] none none
  | context {a : List Char} {p : Option Place} (hne : a ≠ []) (hline : '\n' ∉ a)
      (hcolon : ':' ∉ a) (hp : Place.Spelled a p) : AddressSpelled ('@' :: a) none p
  | both {a b : List Char} {p q : Option Place} (hline : '\n' ∉ a ++ b) (hcolon : ':' ∉ a ++ b)
      (hp : Place.Spelled a p) (hq : Place.Spelled b q) :
      AddressSpelled ('@' :: (a ++ ':' :: b)) p q

namespace Place
variable {s : List Char} {p q : Option Place}

theorem Spelled.unique (hp : Spelled s p) (hq : Spelled s q) : p = q := by
  have hexclusive (h : ∀ c ∈ trim s, c.isDigit = true) : ¬ ∃ c ∈ trim s, c.isDigit = false := by
    rintro ⟨c, hc, hno⟩
    rw [h c hc] at hno
    cases hno
  cases hp with
  | blank hnil =>
    cases hq with
    | blank _ => rfl
    | id hrow => exact absurd hnil hrow.1
    | name hno => exact absurd hno (hexclusive (by simp [hnil]))
  | id hrow =>
    cases hq with
    | blank hnil => exact absurd hnil hrow.1
    | id _ => rfl
    | name hno => exact absurd hno (hexclusive hrow.2)
  | name hno =>
    cases hq with
    | blank hnil => exact absurd hno (hexclusive (by simp [hnil]))
    | id hrow => exact absurd hno (hexclusive hrow.2)
    | name _ => rfl

theorem exists_spelled (h : PlainAscii s) : ∃ p, parse s = .ok p ∧ Spelled s p := by
  have htrim : PlainAscii (trim s) := h.of_isInfix (trim_isInfix s)
  have hdigits := isDigits_of_ascii htrim.ascii
  by_cases hnil : trim s = []
  · exact ⟨none, by simp [parse, hnil], .blank hnil⟩
  · by_cases hrow : IsDigitRow (trim s)
    · refine ⟨_, ?_, .id hrow⟩
      rw [parse, if_neg (by simp [hnil]), if_pos (hdigits.mpr hrow), htrim.read_eq hrow]
      rfl
    · have hno : ∃ c ∈ trim s, c.isDigit = false := by simpa [IsDigitRow, hnil] using hrow
      exact ⟨_, by simp [parse, hnil, mt hdigits.mp hrow], .name hno⟩

/-- A part of an address is read as what it stands for. -/
theorem parse_eq_ok_iff (h : PlainAscii s) : parse s = .ok p ↔ Spelled s p := by
  obtain ⟨q, hparse, hq⟩ := exists_spelled h
  rw [hparse]
  constructor
  · intro heq
    cases heq
    exact hq
  · exact fun hp => congrArg Except.ok (hq.unique hp)

/-- Blanks around a part are set aside. -/
theorem parse_congr {t : List Char} (h : trim s = trim t) : parse s = parse t := by
  rw [parse, parse, h]

end Place

section
variable {a b : List Char} (fragment : List Char)

theorem isBlank_colon : isBlank ':' = false := by decide

theorem bne_of_not_mem {x : Char} (h : x ∉ a) : ∀ c ∈ a, (c != x) = true :=
  fun _ hc => bne_iff_ne.mpr (ne_of_mem_of_not_mem hc h)

/-- An address without a colon is a context. -/
theorem parseAddress_context (ha : ':' ∉ a) :
    parseAddress (some a) fragment = (Place.parse a).map fun p => (none, p) := by
  have hinside : ∀ c ∈ trim a, (c != ':') = true :=
    bne_of_not_mem fun h => ha ((mem_trim_iff isBlank_colon).mp h)
  have hspan : (trim a ++ []).takeWhile (· != ':') = trim a ∧
      (trim a ++ []).dropWhile (· != ':') = [] := span_append hinside (by simp)
  rw [List.append_nil] at hspan
  simp only [parseAddress, hspan.2, Place.parse_congr (trim_trim a)]
  cases Place.parse a <;> rfl

/-- The first colon of an address stays where it is when the blanks around are trimmed. -/
theorem span_trim_address (ha : ':' ∉ a) :
    (trim (a ++ ':' :: b)).takeWhile (· != ':') = trimLeft a ∧
      (trim (a ++ ':' :: b)).dropWhile (· != ':') = ':' :: trimRight b := by
  rw [trim_append_cons a isBlank_colon]
  apply span_append
  · exact bne_of_not_mem fun h => ha ((trimLeft_suffix a).subset h)
  · simp

/-- An address with one colon is a container and a context. -/
theorem parseAddress_both (ha : ':' ∉ a) (hb : ':' ∉ b) :
    parseAddress (some (a ++ ':' :: b)) fragment = do
      let container ← Place.parse a
      return (container, ← Place.parse b) := by
  obtain ⟨htake, hdrop⟩ := span_trim_address (b := b) ha
  have hsingle : (trimRight b).contains ':' = false := by
    rw [Bool.eq_false_iff]
    intro h
    have hmem : ':' ∈ trimRight b := by simpa using h
    have hmem' : ':' ∈ trim (trimRight b) := (mem_trim_iff isBlank_colon).mpr hmem
    rw [trim_trimRight] at hmem'
    exact hb ((mem_trim_iff isBlank_colon).mp hmem')
  simp only [parseAddress, htake, hdrop, hsingle, Place.parse_congr (trim_trimLeft a),
    Place.parse_congr (trim_trimRight b)]
  rfl

/-- An address with more colons is malformed. -/
theorem parseAddress_colons (ha : ':' ∉ a) (hb : ':' ∈ b) :
    parseAddress (some (a ++ ':' :: b)) fragment = .error (.malformed .address fragment) := by
  obtain ⟨-, hdrop⟩ := span_trim_address (b := b) ha
  have hmore : (trimRight b).contains ':' = true := by
    have hmem : ':' ∈ trim (trimRight b) := by
      rw [trim_trimRight]
      exact (mem_trim_iff isBlank_colon).mpr hb
    simpa using (mem_trim_iff isBlank_colon).mp hmem
  simp only [parseAddress, hdrop, hmore]
  rfl

end

section
variable {s : List Char} {address : Option (List Char)} {p q : Option Place}

theorem readAddress?_eq_some_iff : readAddress? s = some address ↔ s = [] ∧ address = none ∨
    ∃ a, s = '@' :: a ∧ address = some a ∧ a ≠ [] ∧ '\n' ∉ a := by
  constructor
  · intro h
    rcases readAddress_eq_some h with hnone | ⟨a, rfl, rfl⟩
    · exact Or.inl hnone
    · refine Or.inr ⟨a, rfl, rfl, ?_⟩
      simpa [readAddress?] using h
  · rintro (⟨rfl, rfl⟩ | ⟨a, rfl, rfl, hne, hline⟩)
    · rfl
    · simp [readAddress?, hne, hline]

/-- What stands behind a slot is read as what it is derived for. -/
theorem addressSpelled_iff (h : PlainAscii s) (fragment : List Char) :
    (∃ address, readAddress? s = some address ∧ parseAddress address fragment = .ok (p, q)) ↔
      AddressSpelled s p q := by
  constructor
  · rintro ⟨address, hread, hparse⟩
    rcases readAddress?_eq_some_iff.mp hread with ⟨rfl, rfl⟩ | ⟨a, rfl, rfl, hne, hline⟩
    · cases hparse
      exact .absent
    · have ha : PlainAscii a := h.tail
      -- one colon parts container and context; a second one is refused
      by_cases hcolon : ':' ∈ a
      · obtain ⟨front, back, rfl, hfront⟩ := List.eq_append_cons_of_mem hcolon
        have hback : ':' ∉ back := by
          intro hmore
          rw [parseAddress_colons fragment hfront hmore] at hparse
          cases hparse
        rw [parseAddress_both fragment hfront hback] at hparse
        obtain ⟨p', hp, hparse⟩ := bind_eq_ok hparse
        obtain ⟨q', hq, heq⟩ := bind_eq_ok hparse
        cases heq
        refine .both ?_ ?_ ((Place.parse_eq_ok_iff ha.left).mp hp)
          ((Place.parse_eq_ok_iff ha.right.tail).mp hq)
        · simp only [List.mem_append, List.mem_cons, not_or] at hline ⊢
          exact ⟨hline.1, hline.2.2⟩
        · simp only [List.mem_append, not_or]
          exact ⟨hfront, hback⟩
      · rw [parseAddress_context fragment hcolon] at hparse
        obtain ⟨q', hq, heq⟩ := map_eq_ok hparse
        cases heq
        exact .context hne hline hcolon ((Place.parse_eq_ok_iff ha).mp hq)
  · intro hspelled
    cases hspelled with
    | absent => exact ⟨none, rfl, rfl⟩
    | @context a _ hne hline hcolon hq =>
      have ha : PlainAscii a := h.tail
      refine ⟨some a, readAddress?_eq_some_iff.mpr (Or.inr ⟨a, rfl, rfl, hne, hline⟩), ?_⟩
      rw [parseAddress_context fragment hcolon, (Place.parse_eq_ok_iff ha).mpr hq]
      rfl
    | @both a b _ _ hline hcolon hp hq =>
      have ha : PlainAscii (a ++ ':' :: b) := h.tail
      simp only [List.mem_append, not_or] at hline hcolon
      have hone : '\n' ∉ a ++ ':' :: b := by simp [hline.1, hline.2]
      refine ⟨some (a ++ ':' :: b),
        readAddress?_eq_some_iff.mpr (Or.inr ⟨_, rfl, rfl, by simp, hone⟩), ?_⟩
      rw [parseAddress_both fragment hcolon.1 hcolon.2, (Place.parse_eq_ok_iff ha.left).mpr hp,
        (Place.parse_eq_ok_iff ha.right.tail).mpr hq]
      rfl

/-- No digit stands where an address may begin. -/
theorem head?_of_readAddress (h : readAddress? s = some address) :
    ∀ c ∈ s.head?, isDecimal c = false := by
  rcases readAddress?_eq_some_iff.mp h with ⟨rfl, -⟩ | ⟨a, rfl, -⟩
  · simp
  · rintro c hc
    obtain rfl : '@' = c := Option.some.inj hc
    decide

end

/-! Sigils. -/

/-- The letters of a sigil in front of a slot: none, the letter of the kind, or that letter behind
an `s`. -/
def Sigil.letters (own : Char) : Sigil → List Char
  | bare => []
  | global => [own]
  | self => ['s', own]

/-- A sigil is spelled with its letters in any case. -/
def Sigil.Spelled (own : Char) (sigil : Sigil) (s : List Char) : Prop :=
  s.map Char.toLower = sigil.letters own

/-- Splits off a sigil of a kind. -/
def readSigilOf (own : Char) (s : List Char) : Sigil × List Char :=
  match readWord ['s', own] s with
  | some (spelling, rest) => (if lower spelling = ['s', own] then .self else .global, rest)
  | none =>
    match readWord [own] s with
    | some (_, rest) => (.global, rest)
    | none => (.bare, s)

section
variable {own : Char} (hown : own = 's' ∨ own = 'v') {s spelling rest : List Char} {sigil : Sigil}
include hown

theorem mem_letters : (∀ w ∈ ['s', own], w ∈ ['s', 'v']) ∧ ∀ w ∈ [own], w ∈ ['s', 'v'] := by
  rcases hown with rfl | rfl <;> exact ⟨by decide, by decide⟩

theorem exists_spelling_of_readSigilOf (hs : ∀ c ∈ s, c.toNat < 128)
    (h : readSigilOf own s = (sigil, rest)) :
    ∃ spelling, s = spelling ++ rest ∧ sigil.Spelled own spelling := by
  obtain ⟨hboth, hsingle⟩ := mem_letters hown
  unfold readSigilOf at h
  split at h
  · rename_i spelling rest' hread
    obtain ⟨rfl, hspelling⟩ := (readWord_of_ascii hs hboth).mp hread
    -- in ASCII the letters are the plain ones
    have hlower : lower spelling = ['s', own] := by
      rw [lower_of_ascii fun c hc => hs c (List.mem_append_left _ hc), hspelling]
    rw [if_pos hlower] at h
    cases h
    exact ⟨spelling, rfl, hspelling⟩
  · split at h
    · rename_i spelling rest' hread
      cases h
      exact ⟨spelling, (readWord_of_ascii hs hsingle).mp hread⟩
    · cases h
      exact ⟨[], rfl, rfl⟩

omit hown in
theorem toNat_lt_of_toLower {c w : Char} (h : c.toLower = w) (hw : w.toNat < 128) :
    c.toNat < 128 := by
  unfold Char.toLower at h
  split at h
  · rename_i hupper
    have hle : c.toNat ≤ 90 := by simpa [UInt32.le_iff_toNat_le] using hupper.2
    omega
  · rwa [h]

theorem sameLetter_of_toLower {c w : Char} (hw : w ∈ ['s', own]) (h : c.toLower = w) :
    c.toNat < 128 ∧ sameLetter w c = true := by
  have hletter : w ∈ ['s', 'v'] := (mem_letters hown).1 w hw
  have hsmall : ∀ w ∈ ['s', 'v'], w.toNat < 128 := forall_mem_of_all (by decide)
  have hc : c.toNat < 128 := toNat_lt_of_toLower h (hsmall w hletter)
  exact ⟨hc, by rw [sameLetter_of_ascii hc hletter, h, beq_self_eq_true]⟩

omit hown in
/-- Digits have no case. -/
theorem caseKey_of_isDecimal {c : Char} (h : isDecimal c = true) : caseKey c = c := by
  have hascii : ∀ n ∈ List.range 128, isDecimal (Char.ofNat n) = true →
      caseKey (Char.ofNat n) = Char.ofNat n := forall_mem_of_all (by decide)
  have hruns : ∀ z ∈ 48 :: decimalZeros, ∀ r ∈ smallRuns, r.last < z ∨ z + 9 < r.first :=
    forall_mem_of_all (by decide +kernel)
  have hshared : ∀ z ∈ 48 :: decimalZeros, ∀ p ∈ sharedCapitals, p.1 < z ∨ z + 9 < p.1 :=
    forall_mem_of_all (by decide +kernel)
  have hdot : ∀ z ∈ 48 :: decimalZeros, z + 9 < 'İ'.toNat ∨ 'İ'.toNat < z := by decide
  rcases Nat.lt_or_ge c.toNat 128 with hsmall | hlarge
  · exact of_ascii (p := fun c => isDecimal c = true → caseKey c = c) hsmall hascii h
  · obtain ⟨z, hz, hlow, hhigh⟩ := Numeral.exists_zero_of_isDecimal h
    have hne : c ≠ 'İ' := by
      rintro rfl
      have hout := hdot z hz
      omega
    have himage : smallRuns.findSome? (·.image? c.toNat) = none := by
      rw [List.findSome?_eq_none_iff]
      intro r hr
      have hout := hruns z hz r hr
      rw [CaseRun.image?, if_neg (by omega)]
    have hlower : lowerSimple c = c := by
      rw [lowerSimple, if_neg (Nat.not_lt.mpr hlarge), if_neg hne, himage, Option.getD_none,
        Char.ofNat_toNat]
    have hlookup : sharedCapitals.lookup c.toNat = none := by
      rw [List.lookup_eq_none_iff]
      intro p hp
      have hout := hshared z hz p hp
      exact bne_iff_ne.mpr (by omega)
    simp only [caseKey, hlower, hlookup]

/-- A sigil is split off in front of what does not go on with its letters. -/
theorem readSigilOf_append (hspelling : sigil.Spelled own spelling)
    (hrest : ∀ c ∈ rest.head?, sameLetter 's' c = false ∧ sameLetter own c = false) :
    readSigilOf own (spelling ++ rest) = (sigil, rest) := by
  have hstops {w : Char} (word : List Char)
      (hw : ∀ c ∈ rest.head?, sameLetter w c = false) : readWord (w :: word) rest = none := by
    cases rest with
    | nil => rfl
    | cons c rest => simp [readWord, hw c rfl]
  have hs (word : List Char) := hstops word fun c hc => (hrest c hc).1
  have hv (word : List Char) := hstops word fun c hc => (hrest c hc).2
  unfold readSigilOf
  cases sigil with
  | bare =>
    obtain rfl : spelling = [] := List.map_eq_nil_iff.mp hspelling
    rw [List.nil_append, hs, hv]
  | global =>
    obtain ⟨c, rfl, hc⟩ : ∃ c, spelling = [c] ∧ c.toLower = own := by
      simpa [Sigil.Spelled, Sigil.letters, List.map_eq_cons_iff] using hspelling
    have hsame := (sameLetter_of_toLower hown (by simp) hc).2
    -- the second letter would stand behind the sigil
    have hnone : readWord ['s', own] ([c] ++ rest) = none := by simp [readWord, hv]
    have hread : readWord [own] ([c] ++ rest) = some ([c], rest) := by simp [readWord, hsame]
    rw [hnone, hread]
  | self =>
    obtain ⟨c, hc, d, hd, rfl⟩ : ∃ c, c.toLower = 's' ∧ ∃ d, d.toLower = own ∧
        spelling = [c, d] := by
      obtain ⟨c, behind, rfl, hc, hbehind⟩ := List.map_eq_cons_iff.mp hspelling
      obtain ⟨d, last, rfl, hd, hlast⟩ := List.map_eq_cons_iff.mp hbehind
      exact ⟨c, hc, d, hd, by rw [List.map_eq_nil_iff.mp hlast]⟩
    obtain ⟨hascii, hsame⟩ := sameLetter_of_toLower hown (by simp) hc
    obtain ⟨hascii', hsame'⟩ := sameLetter_of_toLower hown (by simp) hd
    have hread : readWord ['s', own] ([c, d] ++ rest) = some ([c, d], rest) := by
      simp [readWord, hsame, hsame']
    have hlower : lower [c, d] = ['s', own] := by
      rw [lower_of_ascii (by simp [hascii, hascii'])]
      exact hspelling
    simp only [hread, hlower, if_true]

end

/-! Sigil, slot and address. -/

/-- Splits off a sigil of a kind, a slot and perhaps an address, which ends the token. -/
def readPartsOf {α : Type} (own : Char) (readSlot : List Char → Option (α × List Char))
    (token : List Char) : Option (Sigil × α × Option (List Char)) := do
  let (sigil, s) := readSigilOf own token
  let (slot, s) ← readSlot s
  return (sigil, slot, ← readAddress? s)

theorem readSwitch?_eq : readSwitch? = readPartsOf 's' readSwitchSlot := rfl

theorem VariableToken.read?_eq : VariableToken.read? = readPartsOf 'v' Numeral.readSigned := rfl

/-- Sigil, slot and address are read one behind the other. -/
theorem readPartsOf_append {α : Type} {own : Char} (hown : own = 's' ∨ own = 'v')
    {readSlot : List Char → Option (α × List Char)} {sigil : Sigil} {slot : α}
    {spelling written suffix : List Char} {address : Option (List Char)}
    (hsigil : sigil.Spelled own spelling)
    (hhead : ∀ c ∈ (written ++ suffix).head?, sameLetter 's' c = false ∧ sameLetter own c = false)
    (hslot : readSlot (written ++ suffix) = some (slot, suffix))
    (haddress : readAddress? suffix = some address) :
    readPartsOf own readSlot (spelling ++ written ++ suffix) = some (sigil, slot, address) := by
  rw [List.append_assoc]
  simp [readPartsOf, readSigilOf_append hown hsigil hhead, hslot, haddress]

/-- In ASCII text a slot is split off just where it is written, up to a digit that may follow, and
its first character belongs to no sigil. -/
structure Reads {α : Type} (readSlot : List Char → Option (α × List Char))
    (Written : α → List Char → Prop) : Prop where
  written {s rest : List Char} {slot : α} (hs : ∀ c ∈ s, c.toNat < 128)
    (h : readSlot s = some (slot, rest)) : ∃ t, s = t ++ rest ∧ Written slot t
  read {t rest : List Char} {slot : α} (hs : ∀ c ∈ t ++ rest, c.toNat < 128) (h : Written slot t)
    (hrest : ∀ c ∈ rest.head?, isDecimal c = false) : readSlot (t ++ rest) = some (slot, rest)
  head {t : List Char} {slot : α} (ht : ∀ c ∈ t, c.toNat < 128) (h : Written slot t) :
    ∃ c behind, t = c :: behind ∧ c.toLower ≠ 's' ∧ c.toLower ≠ 'v'

/-- The parts of a token are read where they stand one behind the other. -/
theorem readPartsOf_eq_some_iff {α : Type} {own : Char} {token : List Char} {sigil : Sigil}
    {slot : α} {address : Option (List Char)} {readSlot : List Char → Option (α × List Char)}
    {Written : α → List Char → Prop} (hreads : Reads readSlot Written)
    (hown : own = 's' ∨ own = 'v') (hs : ∀ c ∈ token, c.toNat < 128) :
    readPartsOf own readSlot token = some (sigil, slot, address) ↔
      ∃ spelling t suffix, token = spelling ++ (t ++ suffix) ∧ sigil.Spelled own spelling ∧
        Written slot t ∧ readAddress? suffix = some address := by
  constructor
  · intro h
    rcases hsigil : readSigilOf own token with ⟨sigil', behind⟩
    simp only [readPartsOf, hsigil, Option.bind_eq_bind, Option.bind_eq_some_iff] at h
    obtain ⟨⟨slot', suffix⟩, hslot, address', haddress, heq⟩ := h
    cases heq
    obtain ⟨spelling, rfl, hspelling⟩ := exists_spelling_of_readSigilOf hown hs hsigil
    obtain ⟨t, rfl, ht⟩ :=
      hreads.written (fun c hc => hs c (List.mem_append_right _ hc)) hslot
    exact ⟨spelling, t, suffix, rfl, hspelling, ht, haddress⟩
  · rintro ⟨spelling, t, suffix, rfl, hspelling, hslot, haddress⟩
    have hbehind : ∀ c ∈ t ++ suffix, c.toNat < 128 := fun c hc => hs c (List.mem_append_right _ hc)
    obtain ⟨c, t', ht, hne, hne'⟩ :=
      hreads.head (fun c hc => hbehind c (List.mem_append_left _ hc)) hslot
    have hhead : ∀ d ∈ (t ++ suffix).head?,
        sameLetter 's' d = false ∧ sameLetter own d = false := by
      intro d hd
      obtain rfl : c = d := by simpa [ht] using hd
      have hc : c.toNat < 128 := hbehind c (by simp [ht])
      have hs : sameLetter 's' c = false := by simp [sameLetter_of_ascii hc, hne]
      rcases hown with rfl | rfl
      · exact ⟨hs, hs⟩
      · exact ⟨hs, by simp [sameLetter_of_ascii hc, hne']⟩
    have hslot := hreads.read hbehind hslot (head?_of_readAddress haddress)
    rw [← List.append_assoc]
    exact readPartsOf_append hown hspelling hhead hslot haddress

end DialogueMarkup
