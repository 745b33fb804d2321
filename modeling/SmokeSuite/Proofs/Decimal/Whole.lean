import SmokeSuite.Decimal.Binary64

namespace SmokeSuite

namespace Decimal

theorem ofDigits_toDigits (n : Nat) : ofDigits (Nat.toDigits 10 n) = n := by
  have h := Nat.ofDigitChars_ten_toDigits (n := n)
  rwa [Nat.ofDigitChars_eq_foldl] at h

theorem positional_whole (n : Nat) :
    (⟨false, n, 0⟩ : Decimal).positional = Nat.toDigits 10 n := by
  simp [positional]

theorem isDigit_of_mem_toDigits (n : Nat) : ∀ c ∈ Nat.toDigits 10 n, c.isDigit = true :=
  fun _ hc => Nat.isDigit_of_mem_toDigits (by decide) (by decide) hc

theorem notMem_toDigits {c : Char} (h : c.isDigit = false) (n : Nat) : c ∉ Nat.toDigits 10 n := by
  intro hc
  rw [isDigit_of_mem_toDigits n c hc] at h
  cases h

theorem exists_toDigits_eq_cons (n : Nat) :
    ∃ c ds, Nat.toDigits 10 n = c :: ds ∧ c.isDigit = true := by
  cases h : Nat.toDigits 10 n with
  | nil => exact absurd h Nat.toDigits_ne_nil
  | cons c ds => exact ⟨c, ds, rfl, isDigit_of_mem_toDigits n c (h ▸ List.mem_cons_self)⟩

/-- A zero in front stands alone. -/
theorem eq_nil_of_toDigits_eq_zero_cons {n : Nat} {ds : List Char}
    (h : Nat.toDigits 10 n = '0' :: ds) : ds = [] := by
  induction n using Nat.strongRecOn generalizing ds with
  | ind n ih =>
    rw [Nat.toDigits_eq_if (by decide)] at h
    split at h
    · exact (List.cons.inj h).2.symm
    · next hn =>
      obtain ⟨c, es, hes, -⟩ := exists_toDigits_eq_cons (n / 10)
      rw [hes] at h
      have hc : c = '0' := (List.cons.inj h).1
      subst hc
      -- the digits before the last one are those of a positive number
      have hzero : n / 10 = 0 := by
        rw [← ofDigits_toDigits (n / 10), hes, ih (n / 10) (by omega) hes]
        rfl
      omega

theorem toNat_bounds_of_isDigit {c : Char} (h : c.isDigit = true) : 48 ≤ c.toNat ∧ c.toNat ≤ 57 := by
  simp only [Char.isDigit, Bool.and_eq_true, decide_eq_true_eq, UInt32.le_iff_toNat_le] at h
  exact h

theorem digitValue_lt_of_isDigit {c : Char} (h : c.isDigit = true) : digitValue c < 10 := by
  have hbounds := toNat_bounds_of_isDigit h
  have hvalue : digitValue c = c.toNat - 48 := rfl
  omega

theorem digitChar_digitValue {c : Char} (h : c.isDigit = true) : Nat.digitChar (digitValue c) = c := by
  have hbounds := toNat_bounds_of_isDigit h
  have hvalue : digitValue c = c.toNat - 48 := rfl
  apply Char.toNat_inj.1
  rw [Nat.toNat_digitChar_of_lt_ten (digitValue_lt_of_isDigit h)]
  omega

/-- A number as it is written: digits, and no zero in front of others. -/
structure IsNumeral (ds : List Char) (n : Nat) : Prop where
  digits : ∀ c ∈ ds, c.isDigit = true
  ne_nil : ds ≠ []
  front : ∀ r, ds = '0' :: r → r = []
  value : ofDigits ds = n

theorem isNumeral_toDigits (n : Nat) : IsNumeral (Nat.toDigits 10 n) n where
  digits := isDigit_of_mem_toDigits n
  ne_nil := Nat.toDigits_ne_nil
  front _ h := eq_nil_of_toDigits_eq_zero_cons h
  value := ofDigits_toDigits n

/-- Digits behind the numeral of a positive number make a numeral again. -/
theorem toDigits_append_digits {ds : List Char} (h : ∀ c ∈ ds, c.isDigit = true) {n : Nat} (hn : 0 < n) :
    Nat.toDigits 10 n ++ ds = Nat.toDigits 10 (ds.foldl (fun n c => 10 * n + digitValue c) n) := by
  induction ds generalizing n with
  | nil => exact List.append_nil _
  | cons c ds ih =>
    obtain ⟨hc, hds⟩ := List.forall_mem_cons.1 h
    have hlt : digitValue c < 10 := digitValue_lt_of_isDigit hc
    have hlast : Nat.toDigits 10 n ++ [c] = Nat.toDigits 10 (10 * n + digitValue c) := by
      rw [← Nat.toDigits_append_toDigits (by decide) hn hlt, Nat.toDigits_of_lt_base hlt,
        digitChar_digitValue hc]
    rw [List.foldl_cons, ← ih hds (by omega), ← hlast, List.append_assoc, List.singleton_append]

/-- Each number is written in one way. -/
theorem isNumeral_iff {ds : List Char} {n : Nat} : IsNumeral ds n ↔ ds = Nat.toDigits 10 n := by
  constructor
  · rintro ⟨hdigits, hne, hfront, rfl⟩
    obtain ⟨c, r, rfl⟩ := List.exists_cons_of_ne_nil hne
    obtain ⟨hc, hr⟩ := List.forall_mem_cons.1 hdigits
    have hfirst : Nat.toDigits 10 (digitValue c) = [c] := by
      rw [Nat.toDigits_of_lt_base (digitValue_lt_of_isDigit hc), digitChar_digitValue hc]
    have hstart : ofDigits (c :: r) = r.foldl (fun n c => 10 * n + digitValue c) (digitValue c) := by
      rw [ofDigits, List.foldl_cons, Nat.mul_zero, Nat.zero_add]
    rw [hstart]
    by_cases hzero : digitValue c = 0
    · have hchar : c = '0' := by
        rw [← digitChar_digitValue hc, hzero]
        rfl
      rw [hfront r (by rw [hchar]), List.foldl_nil, hfirst]
    · rw [← toDigits_append_digits hr (Nat.pos_of_ne_zero hzero), hfirst, List.singleton_append]
  · rintro rfl
    exact isNumeral_toDigits n

theorem isNumeral_toList_iff {s : String} {n : Nat} : IsNumeral s.toList n ↔ s = toString n := by
  have hdigits : (toString n).toList = Nat.toDigits 10 n := Nat.toList_repr
  rw [isNumeral_iff, ← hdigits, String.toList_inj]

end Decimal

namespace BinaryFormat

theorem isSome_ofQuotient {f : BinaryFormat} {num den : Nat}
    (h : max ((Nat.log2 num : Int) - Nat.log2 den - f.bits) f.minExponent + 2 ≤ f.maxExponent) :
    (f.ofQuotient num den).isSome = true := by
  unfold ofQuotient
  dsimp only
  generalize max ((Nat.log2 num : Int) - Nat.log2 den - f.bits) f.minExponent = low at h ⊢
  have he : (if (scale num den low).1 / (scale num den low).2 < Nat.pow 2 f.bits then low
      else low + 1) ≤ low + 1 := by
    split <;> omega
  generalize (if (scale num den low).1 / (scale num den low).2 < Nat.pow 2 f.bits then low
      else low + 1) = e at he ⊢
  -- the mantissa may be rounded up to one more bit
  generalize roundQuotient (scale num den e).1 (scale num den e).2 = m
  by_cases hm : m = Nat.pow 2 f.bits
  · rw [if_pos hm, if_neg (by dsimp only; omega)]
    rfl
  · rw [if_neg hm, if_neg (by dsimp only; omega)]
    rfl

end BinaryFormat

theorem Binary64.isSome_ofDecimal_whole {n : Nat} (h : n < UInt64.size) :
    (ofDecimal ⟨false, n, 0⟩).isSome = true := by
  have hlength : (Nat.toDigits 10 n).length ≤ 20 :=
    (Nat.length_toDigits_le_iff (by decide) (by decide)).2 (Nat.lt_trans h (by decide))
  have hlog : Nat.log2 n ≤ 63 := by
    by_cases hn : n = 0
    · simp [hn]
    · have := (Nat.log2_lt hn).2 (show n < 2 ^ 64 from h)
      omega
  simp only [ofDecimal, Option.isSome_map, BinaryFormat.ofDecimal?]
  split
  · rfl
  · rw [if_neg (by simp only [BinaryFormat.double]; omega), if_pos (Int.le_refl 0)]
    refine BinaryFormat.isSome_ofQuotient ?_
    simp only [BinaryFormat.double, Int.toNat_zero, Nat.pow_eq, Nat.pow_zero, Nat.mul_one]
    have : Nat.log2 1 = 0 := by decide
    omega

end SmokeSuite
