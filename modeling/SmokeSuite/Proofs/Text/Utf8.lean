import SmokeSuite.Text.Utf8

namespace SmokeSuite.Text.Utf8

/-- The number of a character and its bytes: a lead byte, and six bits in each byte after it. No number
has a longer form than it needs, and none is a surrogate's or above the last character's. -/
inductive Spelled : Nat → List UInt8 → Prop
  | one {n : Nat} (hn : n < 0x80) : Spelled n [UInt8.ofNat n]
  | two {k l : Nat} (hk : k < 32) (hl : l < 64) (hlow : 2 ≤ k) :
      Spelled (k * 64 + l) [UInt8.ofNat (k + 0xC0), UInt8.ofNat (l + 0x80)]
  | three {k l m : Nat} (hk : k < 16) (hl : l < 64) (hm : m < 64) (hlow : k = 0 → 32 ≤ l)
      (hsurrogate : k = 13 → l < 32) :
      Spelled ((k * 64 + l) * 64 + m)
        [UInt8.ofNat (k + 0xE0), UInt8.ofNat (l + 0x80), UInt8.ofNat (m + 0x80)]
  | four {k l m o : Nat} (hk : k < 5) (hl : l < 64) (hm : m < 64) (ho : o < 64) (hlow : k = 0 → 16 ≤ l)
      (hlast : k = 4 → l < 16) :
      Spelled (((k * 64 + l) * 64 + m) * 64 + o)
        [UInt8.ofNat (k + 0xF0), UInt8.ofNat (l + 0x80), UInt8.ofNat (m + 0x80), UInt8.ofNat (o + 0x80)]

theorem exists_spelled (c : Char) : ∃ bs, Spelled c.toNat bs := by
  have hc : c.toNat < 0xD800 ∨ 0xDFFF < c.toNat ∧ c.toNat < 0x110000 := c.valid
  generalize c.toNat = n at hc
  -- the bounds of the four lengths leave each digit in its range, and surrogates are no characters
  by_cases hone : n < 0x80
  · exact ⟨_, .one hone⟩
  by_cases htwo : n < 0x800
  · have hn : n / 64 * 64 + n % 64 = n := by omega
    have h := Spelled.two (k := n / 64) (l := n % 64) (by omega) (by omega) (by omega)
    exact ⟨_, hn ▸ h⟩
  by_cases hthree : n < 0x10000
  · have hn : (n / 4096 * 64 + n / 64 % 64) * 64 + n % 64 = n := by omega
    have h := Spelled.three (k := n / 4096) (l := n / 64 % 64) (m := n % 64) (by omega) (by omega)
      (by omega) (by omega) (by omega)
    exact ⟨_, hn ▸ h⟩
  · have hn : ((n / 262144 * 64 + n / 4096 % 64) * 64 + n / 64 % 64) * 64 + n % 64 = n := by omega
    have h := Spelled.four (k := n / 262144) (l := n / 4096 % 64) (m := n / 64 % 64) (o := n % 64)
      (by omega) (by omega) (by omega) (by omega) (by omega) (by omega)
    exact ⟨_, hn ▸ h⟩

theorem toNat_of_spelled {n : Nat} {bs : List UInt8} (h : Spelled n bs) : (Char.ofNat n).val.toNat = n := by
  have hn : n.isValidChar := by
    unfold Nat.isValidChar
    cases h <;> omega
  rw [Char.ofNat, dif_pos hn]
  rfl

theorem utf8EncodeChar_of_spelled {n : Nat} {bs : List UInt8} (h : Spelled n bs) :
    String.utf8EncodeChar (Char.ofNat n) = bs := by
  unfold String.utf8EncodeChar
  rw [toNat_of_spelled h]
  dsimp only
  cases h with
  | one hn => rw [if_pos (Nat.le_of_lt_succ hn)]
  | @two k l hk hl hlow =>
    have hlead : (k * 64 + l) / 64 % 32 = k := by omega
    have hlast : (k * 64 + l) % 64 = l := by omega
    rw [if_neg (by omega), if_pos (by omega), hlead, hlast]
  | @three k l m hk hl hm hlow hsurrogate =>
    have hlead : ((k * 64 + l) * 64 + m) / 4096 % 16 = k := by omega
    have hnext : ((k * 64 + l) * 64 + m) / 64 % 64 = l := by omega
    have hlast : ((k * 64 + l) * 64 + m) % 64 = m := by omega
    rw [if_neg (by omega), if_neg (by omega), if_pos (by omega), hlead, hnext, hlast]
  | @four k l m o hk hl hm ho hlow hlast =>
    have hlead : (((k * 64 + l) * 64 + m) * 64 + o) / 262144 % 8 = k := by omega
    have hsecond : (((k * 64 + l) * 64 + m) * 64 + o) / 4096 % 64 = l := by omega
    have hthird : (((k * 64 + l) * 64 + m) * 64 + o) / 64 % 64 = m := by omega
    have hfourth : (((k * 64 + l) * 64 + m) * 64 + o) % 64 = o := by omega
    rw [if_neg (by omega), if_neg (by omega), if_neg (by omega), hlead, hsecond, hthird, hfourth]

theorem lead_two : ∀ k < 30, lead (UInt8.ofNat (k + 2 + 0xC0)) = some (1, k + 2, 0x80, 0xBF) := by
  decide +kernel

theorem lead_three : ∀ k < 16, lead (UInt8.ofNat (k + 0xE0)) =
    some (2, k, if k = 0 then 0xA0 else 0x80, if k = 13 then 0x9F else 0xBF) := by decide +kernel

theorem lead_four : ∀ k < 5, lead (UInt8.ofNat (k + 0xF0)) =
    some (3, k, if k = 0 then 0x90 else 0x80, if k = 4 then 0x8F else 0xBF) := by decide +kernel

theorem lead_none : ∀ n < 0x100, n < 0xC2 ∨ 0xF4 < n → lead (UInt8.ofNat n) = none := by decide +kernel

theorem toNat_ofNat {n : Nat} (h : n < 0x100) : (UInt8.ofNat n).toNat = n := by
  rw [UInt8.toNat_ofNat']
  omega

theorem not_ofNat_lt {n : Nat} (h : 0x80 ≤ n) (h' : n < 0x100) : ¬ UInt8.ofNat n < 0x80 := by
  rw [UInt8.lt_iff_toNat_lt, toNat_ofNat h']
  simpa using h

/-- A byte that goes on with a character, by the bits that it holds. -/
theorem tail_ofNat {l : Nat} (hl : l < 64) (n : Nat) (lo hi : UInt8) (code : Nat) (r : List UInt8) :
    tail (n + 1) lo hi code (UInt8.ofNat (l + 0x80) :: r) =
      if lo.toNat ≤ l + 0x80 ∧ l + 0x80 ≤ hi.toNat then tail n 0x80 0xBF (code * 64 + l) r
      else (none, UInt8.ofNat (l + 0x80) :: r) := by
  have hbyte : (UInt8.ofNat (l + 0x80)).toNat = l + 0x80 := toNat_ofNat (by omega)
  have hbits : (UInt8.ofNat (l + 0x80) - 0x80).toNat = l := by
    rw [UInt8.toNat_sub_of_le _ _ (by rw [UInt8.le_iff_toNat_le, hbyte]; simp), hbyte]
    simp
  rw [tail]
  simp only [Bool.and_eq_true, decide_eq_true_eq, UInt8.le_iff_toNat_le, hbyte, hbits]

/-- After the first, every byte with six bits goes on. -/
theorem tail_next {l : Nat} (hl : l < 64) (n code : Nat) (r : List UInt8) :
    tail (n + 1) 0x80 0xBF code (UInt8.ofNat (l + 0x80) :: r) = tail n 0x80 0xBF (code * 64 + l) r := by
  rw [tail_ofNat hl, if_pos]
  constructor <;> simp
  omega

theorem tail_eq_some {n code : Nat} {lo hi : UInt8} {s r : List UInt8} {c : Char}
    (hlo : 0x80 ≤ lo.toNat) (hhi : hi.toNat ≤ 0xBF) (h : tail (n + 1) lo hi code s = (some c, r)) :
    ∃ l t, l < 64 ∧ lo.toNat ≤ l + 0x80 ∧ l + 0x80 ≤ hi.toNat ∧ s = UInt8.ofNat (l + 0x80) :: t ∧
      tail n 0x80 0xBF (code * 64 + l) t = (some c, r) := by
  cases s with
  | nil => cases h
  | cons b t =>
    by_cases hb : lo ≤ b ∧ b ≤ hi
    · simp only [UInt8.le_iff_toNat_le] at hb
      have hl : b.toNat - 0x80 < 64 := by omega
      have hbyte : b = UInt8.ofNat (b.toNat - 0x80 + 0x80) := by
        rw [Nat.sub_add_cancel (by omega), UInt8.ofNat_toNat]
      have hsum : b.toNat - 0x80 + 0x80 = b.toNat := by omega
      rw [hbyte, tail_ofNat hl, hsum, if_pos hb] at h
      exact ⟨_, t, hl, by omega, by omega, by rw [← hbyte], h⟩
    · rw [tail, if_neg (by simpa using hb)] at h
      cases h

/-- Where a byte leads some that go on with it, a step takes them all. -/
theorem steps_lead {b lo hi : UInt8} {n code : Nat} (hb : ¬ b < 0x80)
    (h : lead b = some (n, code, lo, hi)) (r : List UInt8) :
    steps (b :: r) = (tail n lo hi code r).1 :: steps (tail n lo hi code r).2 := by
  rw [steps, if_neg hb]
  split
  · next hnone =>
    rw [h] at hnone
    cases hnone
  · next hsome =>
    rw [h] at hsome
    cases hsome
    rfl

/-- A step takes the bytes of a character. -/
theorem steps_spelled {n : Nat} {bs : List UInt8} (h : Spelled n bs) (r : List UInt8) :
    steps (bs ++ r) = some (Char.ofNat n) :: steps r := by
  cases h with
  | one hn =>
    have hb : UInt8.ofNat n < 0x80 := by
      rw [UInt8.lt_iff_toNat_lt, toNat_ofNat (by omega)]
      simpa using hn
    rw [List.singleton_append, steps, if_pos hb, toNat_ofNat (by omega)]
  | @two k l hk hl hlow =>
    obtain ⟨k, rfl⟩ := Nat.exists_eq_add_of_le' hlow
    have hlead := lead_two k (by omega)
    rw [List.cons_append, steps_lead (not_ofNat_lt (by omega) (by omega)) hlead, List.singleton_append,
      tail_next hl, tail]
  | @three k l m hk hl hm hlow hsurrogate =>
    have hlead := lead_three k hk
    have hrange : (if k = 0 then 0xA0 else 0x80 : UInt8).toNat ≤ l + 0x80 ∧
        l + 0x80 ≤ (if k = 13 then 0x9F else 0xBF : UInt8).toNat := by
      split <;> split <;> simp <;> omega
    rw [List.cons_append, steps_lead (not_ofNat_lt (by omega) (by omega)) hlead, List.cons_append,
      tail_ofNat hl, if_pos hrange, List.singleton_append, tail_next hm, tail]
  | @four k l m o hk hl hm ho hlow hlast =>
    have hlead := lead_four k hk
    have hrange : (if k = 0 then 0x90 else 0x80 : UInt8).toNat ≤ l + 0x80 ∧
        l + 0x80 ≤ (if k = 4 then 0x8F else 0xBF : UInt8).toNat := by
      split <;> split <;> simp <;> omega
    rw [List.cons_append, steps_lead (not_ofNat_lt (by omega) (by omega)) hlead, List.cons_append,
      tail_ofNat hl, if_pos hrange, List.cons_append, tail_next hm, List.singleton_append,
      tail_next ho, tail]

theorem exists_tail_of_steps {b lo hi : UInt8} {n code : Nat} {r : List UInt8} {c : Char}
    {t : List (Option Char)} (hb : ¬ b < 0x80) (hlead : lead b = some (n, code, lo, hi))
    (h : steps (b :: r) = some c :: t) : ∃ r', tail n lo hi code r = (some c, r') ∧ t = steps r' := by
  rw [steps_lead hb hlead] at h
  obtain ⟨hc, rfl⟩ := List.cons.inj h
  exact ⟨_, Prod.ext hc rfl, rfl⟩

theorem steps_of_lead_eq_none {b : UInt8} (hb : ¬ b < 0x80) (h : lead b = none) (r : List UInt8) :
    steps (b :: r) = none :: steps r := by
  rw [steps, if_neg hb]
  split
  · rfl
  · next hsome =>
    rw [h] at hsome
    cases hsome

/-- A byte that leads others, by how many they are and the bits that it holds itself. -/
theorem lead_cases {b : UInt8} (h : lead b ≠ none) :
    (∃ k < 30, b = UInt8.ofNat (k + 2 + 0xC0)) ∨ (∃ k < 16, b = UInt8.ofNat (k + 0xE0)) ∨
      ∃ k < 5, b = UInt8.ofNat (k + 0xF0) := by
  have hsize : b.toNat < 0x100 := b.toNat_lt
  have hrange : ¬ (b.toNat < 0xC2 ∨ 0xF4 < b.toNat) := by
    intro hout
    have hnone := lead_none b.toNat hsize hout
    rw [UInt8.ofNat_toNat] at hnone
    exact h hnone
  have hbyte {n : Nat} (hn : b.toNat = n) : b = UInt8.ofNat n := by rw [← hn, UInt8.ofNat_toNat]
  by_cases htwo : b.toNat < 0xE0
  · exact .inl ⟨b.toNat - 0xC2, by omega, hbyte (by omega)⟩
  by_cases hthree : b.toNat < 0xF0
  · exact .inr (.inl ⟨b.toNat - 0xE0, by omega, hbyte (by omega)⟩)
  · exact .inr (.inr ⟨b.toNat - 0xF0, by omega, hbyte (by omega)⟩)

theorem exists_spelled_two {k : Nat} (hk : k < 30) {r r' : List UInt8} {c : Char}
    (h : tail 1 0x80 0xBF (k + 2) r = (some c, r')) :
    ∃ n bs, Spelled n (UInt8.ofNat (k + 2 + 0xC0) :: bs) ∧ c = Char.ofNat n ∧ r = bs ++ r' := by
  obtain ⟨l, r₁, hl, -, -, rfl, hend⟩ := tail_eq_some (by simp) (by simp) h
  obtain ⟨hc, rfl⟩ := Prod.mk.inj hend
  exact ⟨_, _, .two (by omega) hl (by omega), (Option.some.inj hc).symm, rfl⟩

theorem exists_spelled_three {k : Nat} (hk : k < 16) {r r' : List UInt8} {c : Char}
    (h : tail 2 (if k = 0 then 0xA0 else 0x80) (if k = 13 then 0x9F else 0xBF) k r = (some c, r')) :
    ∃ n bs, Spelled n (UInt8.ofNat (k + 0xE0) :: bs) ∧ c = Char.ofNat n ∧ r = bs ++ r' := by
  obtain ⟨l, r₁, hl, hlo, hhi, rfl, hnext⟩ :=
    tail_eq_some (by split <;> simp) (by split <;> simp) h
  obtain ⟨m, r₂, hm, -, -, rfl, hend⟩ := tail_eq_some (by simp) (by simp) hnext
  obtain ⟨hc, rfl⟩ := Prod.mk.inj hend
  have hlow : k = 0 → 32 ≤ l := by
    rintro rfl
    have hbyte : 0xA0 ≤ l + 0x80 := hlo
    omega
  have hsurrogate : k = 13 → l < 32 := by
    rintro rfl
    have hbyte : l + 0x80 ≤ 0x9F := hhi
    omega
  exact ⟨_, _, .three hk hl hm hlow hsurrogate, (Option.some.inj hc).symm, rfl⟩

theorem exists_spelled_four {k : Nat} (hk : k < 5) {r r' : List UInt8} {c : Char}
    (h : tail 3 (if k = 0 then 0x90 else 0x80) (if k = 4 then 0x8F else 0xBF) k r = (some c, r')) :
    ∃ n bs, Spelled n (UInt8.ofNat (k + 0xF0) :: bs) ∧ c = Char.ofNat n ∧ r = bs ++ r' := by
  obtain ⟨l, r₁, hl, hlo, hhi, rfl, hnext⟩ :=
    tail_eq_some (by split <;> simp) (by split <;> simp) h
  obtain ⟨m, r₂, hm, -, -, rfl, hthird⟩ := tail_eq_some (by simp) (by simp) hnext
  obtain ⟨o, r₃, ho, -, -, rfl, hend⟩ := tail_eq_some (by simp) (by simp) hthird
  obtain ⟨hc, rfl⟩ := Prod.mk.inj hend
  have hlow : k = 0 → 16 ≤ l := by
    rintro rfl
    have hbyte : 0x90 ≤ l + 0x80 := hlo
    omega
  have hlast : k = 4 → l < 16 := by
    rintro rfl
    have hbyte : l + 0x80 ≤ 0x8F := hhi
    omega
  exact ⟨_, _, .four hk hl hm ho hlow hlast, (Option.some.inj hc).symm, rfl⟩

/-- A step that gives a character took its bytes. -/
theorem exists_spelled_of_steps {s : List UInt8} {c : Char} {t : List (Option Char)}
    (h : steps s = some c :: t) :
    ∃ n bs r, Spelled n bs ∧ c = Char.ofNat n ∧ s = bs ++ r ∧ t = steps r := by
  cases s with
  | nil =>
    rw [steps] at h
    cases h
  | cons b r =>
    by_cases hb : b < 0x80
    · rw [steps, if_pos hb] at h
      obtain ⟨hc, rfl⟩ := List.cons.inj h
      rw [UInt8.lt_iff_toNat_lt] at hb
      exact ⟨b.toNat, [b], r, by simpa using Spelled.one hb, (Option.some.inj hc).symm, rfl, rfl⟩
    have hlead : lead b ≠ none := by
      intro hnone
      rw [steps_of_lead_eq_none hb hnone] at h
      cases h
    rcases lead_cases hlead with ⟨k, hk, rfl⟩ | ⟨k, hk, rfl⟩ | ⟨k, hk, rfl⟩
    · obtain ⟨r', htail, ht⟩ := exists_tail_of_steps hb (lead_two k hk) h
      obtain ⟨n, bs, hspelled, hc, rfl⟩ := exists_spelled_two hk htail
      exact ⟨n, _, r', hspelled, hc, rfl, ht⟩
    · obtain ⟨r', htail, ht⟩ := exists_tail_of_steps hb (lead_three k hk) h
      obtain ⟨n, bs, hspelled, hc, rfl⟩ := exists_spelled_three hk htail
      exact ⟨n, _, r', hspelled, hc, rfl, ht⟩
    · obtain ⟨r', htail, ht⟩ := exists_tail_of_steps hb (lead_four k hk) h
      obtain ⟨n, bs, hspelled, hc, rfl⟩ := exists_spelled_four hk htail
      exact ⟨n, _, r', hspelled, hc, rfl, ht⟩

theorem steps_encode (cs : List Char) : steps (encode cs) = cs.map some := by
  induction cs with
  | nil => rw [encode, List.flatMap_nil, steps, List.map_nil]
  | cons c cs ih =>
    obtain ⟨bs, hbs⟩ := exists_spelled c
    have hc := utf8EncodeChar_of_spelled hbs
    have hsteps := steps_spelled hbs (encode cs)
    rw [Char.ofNat_toNat] at hc hsteps
    rw [encode, List.flatMap_cons, hc]
    exact hsteps.trans (congrArg (some c :: ·) ih)

theorem eq_encode_of_steps {s : List UInt8} {cs : List Char} (h : steps s = cs.map some) :
    s = encode cs := by
  induction cs generalizing s with
  | nil =>
    cases s with
    | nil => rfl
    | cons b r =>
      rw [steps] at h
      split at h
      · cases h
      · split at h <;> cases h
  | cons c cs ih =>
    obtain ⟨n, bs, r, hbs, rfl, rfl, hr⟩ := exists_spelled_of_steps h
    rw [ih hr.symm, encode, encode, List.flatMap_cons, utf8EncodeChar_of_spelled hbs]

theorem mapM_id_eq_some_iff {steps : List (Option Char)} {cs : List Char} :
    steps.mapM id = some cs ↔ steps = cs.map some := by
  induction steps generalizing cs with
  | nil =>
    rw [List.mapM_nil]
    cases cs <;> simp
  | cons o os ih =>
    cases o with
    | none => cases cs <;> simp
    | some c =>
      cases cs with
      | nil => simp [Option.bind_eq_some_iff]
      | cons d ds => simpa [Option.bind_eq_some_iff, ih] using and_comm

/-- A byte sequence is read as a text exactly if it is the encoding of that text. -/
theorem decode?_eq_some_iff {s : List UInt8} {cs : List Char} : decode? s = some cs ↔ s = encode cs := by
  rw [decode?, mapM_id_eq_some_iff]
  constructor
  · exact eq_encode_of_steps
  · rintro rfl
    exact steps_encode cs

theorem map_ofList_decode?_eq_some_iff {s : List UInt8} {text : String} :
    (decode? s).map String.ofList = some text ↔ s = encode text.toList := by
  rw [← decode?_eq_some_iff, Option.map_eq_some_iff]
  constructor
  · rintro ⟨cs, hdecode, rfl⟩
    rw [hdecode, String.toList_ofList]
  · intro hdecode
    exact ⟨_, hdecode, String.ofList_toList⟩

/-- Nothing is replaced in the encoding of a text. -/
theorem decodeLossy_encode (cs : List Char) : decodeLossy (encode cs) = cs := by
  rw [decodeLossy, steps_encode, List.map_map]
  exact List.map_id cs

end SmokeSuite.Text.Utf8
