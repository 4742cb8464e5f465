import DialogueMarkup.Document.File

/-! Octets and texts: what is read from the octets of a text is that text, and octets from which a
text is read are its octets. -/
namespace DialogueMarkup.Text.Utf8

theorem toNat_toUInt8 {n : Nat} (h : n < 256) : n.toUInt8.toNat = n :=
  UInt8.toNat_ofNat_of_lt' h

theorem eq_toUInt8 {b : UInt8} {n : Nat} (h : b.toNat = n) : b = n.toUInt8 := by
  rw [← h]
  exact UInt8.ofNat_toNat.symm

theorem tail?_eq_some_iff {b : UInt8} {k : Nat} :
    tail? b = some k ↔ b.toNat = 0x80 + k ∧ k < 64 := by
  have hlow : 0x80 ≤ b ↔ 0x80 ≤ b.toNat := UInt8.le_iff_toNat_le
  have hhigh : b ≤ 0xBF ↔ b.toNat ≤ 0xBF := UInt8.le_iff_toNat_le
  simp only [tail?, hlow, hhigh]
  split
  · rw [Option.some_inj]
    omega
  · simp only [reduceCtorEq, false_iff]
    omega

theorem toNat_ofNat {n : Nat} (h : n.isValidChar) : (Char.ofNat n).toNat = n := by
  rw [Char.ofNat, dif_pos h]
  rfl

theorem char?_eq_some_iff {least n : Nat} {c : Char} :
    char? least n = some c ↔ c.toNat = n ∧ least ≤ n := by
  rw [char?]
  split
  · next h =>
    rw [Option.some_inj]
    constructor
    · rintro rfl
      exact ⟨toNat_ofNat h.2, h.1⟩
    · rintro ⟨rfl, -⟩
      exact Char.ofNat_toNat c
  · next h =>
    simp only [reduceCtorEq, false_iff]
    rintro ⟨rfl, hle⟩
    exact h ⟨hle, c.valid⟩

/-! The octets of a character, by the number of those that continue it. -/

section
variable {c : Char}

theorem octets_of_lt (h : c.toNat < 0x80) : octets c = [c.toNat.toUInt8] := if_pos h

theorem octets_two (h : 0x80 ≤ c.toNat) (h' : c.toNat < 0x800) :
    octets c = [(0xC0 + c.toNat / 64).toUInt8, (0x80 + c.toNat % 64).toUInt8] := by
  simp only [octets]
  rw [if_neg (by omega), if_pos h']

theorem octets_three (h : 0x800 ≤ c.toNat) (h' : c.toNat < 0x10000) :
    octets c = [(0xE0 + c.toNat / 4096).toUInt8, (0x80 + c.toNat / 64 % 64).toUInt8,
      (0x80 + c.toNat % 64).toUInt8] := by
  simp only [octets]
  rw [if_neg (by omega), if_neg (by omega), if_pos h']

theorem octets_four (h : 0x10000 ≤ c.toNat) :
    octets c = [(0xF0 + c.toNat / 262144).toUInt8, (0x80 + c.toNat / 4096 % 64).toUInt8,
      (0x80 + c.toNat / 64 % 64).toUInt8, (0x80 + c.toNat % 64).toUInt8] := by
  simp only [octets]
  rw [if_neg (by omega), if_neg (by omega), if_neg (by omega)]

end

/-- Octets from which a character is read begin with its octets. -/
theorem eq_of_read_eq_some {bytes rest : List UInt8} {c : Char}
    (h : read bytes = some (c, rest)) : bytes = octets c ++ rest := by
  cases bytes with
  | nil => cases h
  | cons a s =>
    -- by the number of octets that the first one announces
    simp only [read, UInt8.lt_iff_toNat_lt, UInt8.le_iff_toNat_le] at h
    split at h
    · next ha =>
      have hlt : a.toNat < 0x80 := ha
      cases h
      have hc : (Char.ofNat a.toNat).toNat = a.toNat := toNat_ofNat (.inl (by omega))
      rw [octets_of_lt (by omega), ← eq_toUInt8 hc.symm]
      rfl
    split at h
    · next ha =>
      change 0xC2 ≤ a.toNat ∧ a.toNat ≤ 0xDF at ha
      split at h
      · next b s =>
        simp only [Option.bind_eq_bind, Option.bind_eq_some_iff] at h
        obtain ⟨k, hk, c', hc, h⟩ := h
        cases h
        rw [tail?_eq_some_iff] at hk
        rw [char?_eq_some_iff] at hc
        have hb : b.toNat = 0x80 + c.toNat % 64 := by omega
        rw [octets_two (by omega) (by omega), ← eq_toUInt8 hb, ← eq_toUInt8 (b := a) (by omega)]
        rfl
      · cases h
    split at h
    · next ha =>
      change 0xE0 ≤ a.toNat ∧ a.toNat ≤ 0xEF at ha
      split at h
      · next b b' s =>
        simp only [Option.bind_eq_bind, Option.bind_eq_some_iff] at h
        obtain ⟨k, hk, k', hk', c', hc, h⟩ := h
        cases h
        rw [tail?_eq_some_iff] at hk hk'
        rw [char?_eq_some_iff] at hc
        have hb : b.toNat = 0x80 + c.toNat / 64 % 64 := by omega
        have hb' : b'.toNat = 0x80 + c.toNat % 64 := by omega
        rw [octets_three (by omega) (by omega), ← eq_toUInt8 hb, ← eq_toUInt8 hb',
          ← eq_toUInt8 (b := a) (by omega)]
        rfl
      · cases h
    split at h
    · next ha =>
      change 0xF0 ≤ a.toNat ∧ a.toNat ≤ 0xF4 at ha
      split at h
      · next b b' b'' s =>
        simp only [Option.bind_eq_bind, Option.bind_eq_some_iff] at h
        obtain ⟨k, hk, k', hk', k'', hk'', c', hc, h⟩ := h
        cases h
        rw [tail?_eq_some_iff] at hk hk' hk''
        rw [char?_eq_some_iff] at hc
        have hb : b.toNat = 0x80 + c.toNat / 4096 % 64 := by omega
        have hb' : b'.toNat = 0x80 + c.toNat / 64 % 64 := by omega
        have hb'' : b''.toNat = 0x80 + c.toNat % 64 := by omega
        rw [octets_four (by omega), ← eq_toUInt8 hb, ← eq_toUInt8 hb', ← eq_toUInt8 hb'',
          ← eq_toUInt8 (b := a) (by omega)]
        rfl
      · cases h
    · cases h

theorem tail?_toUInt8 {k : Nat} (h : k < 64) : tail? (0x80 + k).toUInt8 = some k :=
  tail?_eq_some_iff.mpr ⟨toNat_toUInt8 (by omega), h⟩

theorem toNat_lt (c : Char) : c.toNat < 0x110000 := by
  rcases c.valid with h | h
  · exact Nat.lt_trans h (by decide)
  · exact h.2

/-- A character is read from the front of its octets. -/
theorem read_octets_append (c : Char) (rest : List UInt8) :
    read (octets c ++ rest) = some (c, rest) := by
  have hlt := toNat_lt c
  have hchar {least n : Nat} (hn : n = c.toNat) (h : least ≤ c.toNat) : char? least n = some c :=
    char?_eq_some_iff.mpr ⟨hn.symm, hn ▸ h⟩
  have hmod (k : Nat) : k % 64 < 64 := Nat.mod_lt k (by decide)
  by_cases h₁ : c.toNat < 0x80
  · rw [octets_of_lt h₁]
    simp only [List.cons_append, List.nil_append, read, UInt8.lt_iff_toNat_lt,
      toNat_toUInt8 (show c.toNat < 256 by omega), UInt8.reduceToNat]
    rw [if_pos h₁, Char.ofNat_toNat]
  by_cases h₂ : c.toNat < 0x800
  · rw [octets_two (by omega) h₂]
    simp only [List.cons_append, List.nil_append, read, UInt8.lt_iff_toNat_lt,
      UInt8.le_iff_toNat_le, toNat_toUInt8 (show 0xC0 + c.toNat / 64 < 256 by omega),
      UInt8.reduceToNat]
    rw [if_neg (by omega), if_pos (by omega)]
    simp only [tail?_toUInt8 (hmod _), Option.bind_eq_bind, Option.bind_some]
    rw [hchar (by omega) (by omega)]
    rfl
  by_cases h₃ : c.toNat < 0x10000
  · rw [octets_three (by omega) h₃]
    simp only [List.cons_append, List.nil_append, read, UInt8.lt_iff_toNat_lt,
      UInt8.le_iff_toNat_le, toNat_toUInt8 (show 0xE0 + c.toNat / 4096 < 256 by omega),
      UInt8.reduceToNat]
    rw [if_neg (by omega), if_neg (by omega), if_pos (by omega)]
    simp only [tail?_toUInt8 (hmod _), Option.bind_eq_bind, Option.bind_some]
    rw [hchar (by omega) (by omega)]
    rfl
  · rw [octets_four (by omega)]
    simp only [List.cons_append, List.nil_append, read, UInt8.lt_iff_toNat_lt,
      UInt8.le_iff_toNat_le, toNat_toUInt8 (show 0xF0 + c.toNat / 262144 < 256 by omega),
      UInt8.reduceToNat]
    rw [if_neg (by omega), if_neg (by omega), if_neg (by omega), if_pos (by omega)]
    simp only [tail?_toUInt8 (hmod _), Option.bind_eq_bind, Option.bind_some]
    rw [hchar (by omega) (by omega)]
    rfl

theorem octets_ne_nil (c : Char) : octets c ≠ [] := by
  intro h
  have hread := read_octets_append c []
  rw [h] at hread
  cases hread

/-- The rest behind the octets of a character is shorter. -/
theorem length_lt_of_read {bytes rest : List UInt8} {c : Char}
    (h : read bytes = some (c, rest)) : rest.length < bytes.length := by
  rw [eq_of_read_eq_some h, List.length_append]
  exact Nat.lt_add_of_pos_left (List.length_pos_iff.mpr (octets_ne_nil c))

theorem readAll_nil (n : Nat) {s : List Char} : readAll n [] = some s ↔ [] = encode s := by
  have hread : readAll n [] = some [] := by cases n <;> rfl
  rw [hread, Option.some_inj]
  cases s with
  | nil => exact ⟨fun _ => rfl, fun _ => rfl⟩
  | cons c s =>
    refine ⟨nofun, fun h => ?_⟩
    exact (octets_ne_nil c (List.append_eq_nil_iff.mp h.symm).1).elim

theorem readAll_eq_some_iff {n : Nat} {bytes : List UInt8} (hlen : bytes.length ≤ n)
    {s : List Char} : readAll n bytes = some s ↔ bytes = encode s := by
  induction n generalizing bytes s with
  | zero =>
    obtain rfl := List.length_eq_zero_iff.mp (Nat.le_zero.mp hlen)
    exact readAll_nil 0
  | succ n ih =>
    cases bytes with
    | nil => exact readAll_nil (n + 1)
    | cons b bytes =>
      have hstep : readAll (n + 1) (b :: bytes) = (read (b :: bytes)).bind fun r =>
          (readAll n r.2).bind fun s => some (r.1 :: s) := rfl
      simp only [hstep, Option.bind_eq_some_iff]
      constructor
      · rintro ⟨⟨c, rest⟩, hread, s', hs', h⟩
        cases h
        have hshort : rest.length ≤ n :=
          Nat.le_of_lt_succ (Nat.lt_of_lt_of_le (length_lt_of_read hread) hlen)
        rw [eq_of_read_eq_some hread, (ih hshort).mp hs']
        rfl
      · intro h
        cases s with
        | nil => cases h
        | cons c s =>
          have hread : read (b :: bytes) = some (c, encode s) := by
            rw [h]
            exact read_octets_append c (encode s)
          have hshort : (encode s).length ≤ n :=
            Nat.le_of_lt_succ (Nat.lt_of_lt_of_le (length_lt_of_read hread) hlen)
          exact ⟨(c, encode s), hread, s, (ih hshort).mpr rfl, rfl⟩

/-- A text is read from its own octets, and from no others. -/
theorem decode_eq_some_iff {bytes : List UInt8} {s : List Char} :
    decode bytes = some s ↔ bytes = encode s := readAll_eq_some_iff (Nat.le_refl _)

end DialogueMarkup.Text.Utf8

namespace DialogueMarkup.Document
open Text
variable {octets : List UInt8}

theorem readText_encode (s : List Char) : readText (Utf8.encode s) = .ok (unifyBreaks s) := by
  rw [readText, Utf8.decode_eq_some_iff.mpr rfl]

theorem readText_eq_ok_iff {s : List Char} :
    readText octets = .ok s ↔ ∃ text, octets = Utf8.encode text ∧ unifyBreaks text = s := by
  constructor
  · intro h
    rw [readText] at h
    split at h
    · next text hdecode =>
      cases h
      exact ⟨text, Utf8.decode_eq_some_iff.mp hdecode, rfl⟩
    · cases h
  · rintro ⟨text, rfl, rfl⟩
    exact readText_encode text

theorem readText_eq_error {fault : DataFault} (h : readText octets = .error fault) :
    fault = .noText := by
  rw [readText] at h
  split at h <;> cases h
  rfl

end DialogueMarkup.Document
