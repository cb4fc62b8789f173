import Storefront.Proofs.Binary64.Nearest
import Storefront.Proofs.Document.Records
import Storefront.Proofs.Money.Dollars

/-!
# Hundredths of a dollar

A hundredth of a whole number is seldom a binary64 number. But up to 10^15 cents it never lies half way between
two of them, the nearest one is what division gives, and its hundredfold is nearer to the cents it came from
than half a cent. So a decimal number of dollars is never read off by a cent.
-/

namespace Storefront

open Binary64 (signed ofDecimal ofRatio)
open Magnitude (one)

namespace Cents

variable {c : Cents} {x : Binary64}

theorem dollars_eq_ofRatio (h : c.toInt.natAbs ≤ 1000000000000000) :
    c.dollars = ofRatio (c.toInt < 0) c.toInt.natAbs 100 := by
  obtain ⟨d, hdollars, hd, -⟩ := c.exists_dollars
  rw [rounded_natAbs h] at hd
  rw [hdollars, ofRatio, Binary64.ofUnits_eq_finite hd.symm]

theorem signed_natAbs_div (c : Cents) :
    ((signed (decide (c.toInt < 0)) c.toInt.natAbs : Int) : ℚ) / (100 : Nat) = c.toInt / 100 := by
  rw [Binary64.signed_natAbs, Nat.cast_ofNat]

theorem isFinite_dollars (c : Cents) : c.dollars.isFinite = true := by
  obtain ⟨d, hdollars, -, -⟩ := c.exists_dollars
  rw [hdollars]
  rfl

theorem isNearest_dollars (h : c.toInt.natAbs ≤ 1000000000000000) :
    c.dollars.IsNearest (c.toInt / 100) := by
  have hfinite := c.isFinite_dollars
  rw [dollars_eq_ofRatio h] at hfinite ⊢
  rw [← signed_natAbs_div]
  exact Binary64.isNearest_ofRatio (by decide) hfinite

/-! ## No two numbers are nearest -/

theorem exists_quarter : ∃ quarter, one = 4 * quarter ∧ ∃ j, quarter = 2 ^ j := by
  have hbits : 2 ≤ Magnitude.fractionBits := by
    unfold Magnitude.fractionBits
    decide
  refine ⟨2 ^ (Magnitude.fractionBits - 2), ?_, _, rfl⟩
  rw [one]
  show 2 ^ Magnitude.fractionBits = 2 ^ 2 * 2 ^ (Magnitude.fractionBits - 2)
  rw [← Nat.pow_add, Nat.add_sub_cancel' hbits]

/-- Quarters of a dollar are numbers. -/
theorem exists_value_eq_of_dvd (h : c.toInt.natAbs ≤ 1000000000000000) (hdvd : 25 ∣ c.toInt) :
    ∃ y : Binary64, y.isFinite = true ∧ y.value = c.toInt / 100 := by
  obtain ⟨i, hi⟩ := hdvd
  obtain ⟨quarter, hquarter, j, hj⟩ := exists_quarter
  have hle : i.natAbs ≤ Magnitude.greatestSignificand := by
    unfold Magnitude.greatestSignificand
    omega
  have hbounded : i.natAbs * quarter < Magnitude.limit := by
    have hlimit : i.natAbs * one < Magnitude.limit :=
      Magnitude.mul_one_lt_limit (Nat.lt_of_le_of_lt hle (by decide))
    refine Nat.lt_of_le_of_lt (Nat.mul_le_mul_left _ ?_) hlimit
    omega
  have hprecise : Magnitude.Precise (i.natAbs * quarter) := ⟨i.natAbs, j, hle, by rw [hj]; rfl⟩
  refine ⟨.finite (i < 0) ⟨i.natAbs * quarter, hprecise, hbounded⟩, rfl, ?_⟩
  have hone : (one : ℚ) = 4 * quarter := by exact_mod_cast hquarter
  have hne : (quarter : ℚ) ≠ 0 := fun hzero => Magnitude.one_ne_zero (by rw [hone, hzero, mul_zero])
  show ((signed (decide (i < 0)) (i.natAbs * quarter) : Int) : ℚ) / one = c.toInt / 100
  rw [Binary64.signed_mul, Binary64.signed_natAbs, hone, hi]
  push_cast
  field_simp
  ring

/-- Half way between two numbers lies only what is a number of quarters. -/
theorem dvd_of_add_value_eq {y : Binary64} (hx : x.isFinite = true) (hy : y.isFinite = true)
    (h : x.value + y.value = 2 * (c.toInt / 100)) : 25 ∣ c.toInt := by
  obtain ⟨s, m, rfl⟩ := Binary64.exists_of_isFinite hx
  obtain ⟨t, m', rfl⟩ := Binary64.exists_of_isFinite hy
  have hone := Magnitude.one_ne_zero
  rw [Binary64.value_finite, Binary64.value_finite, ← add_div, div_eq_iff hone] at h
  have hcross : (50 * (signed s m.units + signed t m'.units) : ℚ) = c.toInt * one := by
    linarith
  have hint : 50 * (signed s m.units + signed t m'.units) = c.toInt * one := by exact_mod_cast hcross
  have hdvd : (25 : Int) ∣ c.toInt * one := ⟨2 * (signed s m.units + signed t m'.units), by omega⟩
  have hcoprime : Nat.Coprime 25 one := by
    obtain ⟨quarter, hquarter, j, rfl⟩ := exists_quarter
    rw [hquarter]
    exact Nat.Coprime.mul_right (by decide) (Nat.Coprime.pow_right j (by decide))
  refine Int.natAbs_dvd_natAbs.1 (hcoprime.dvd_of_dvd_mul_right ?_)
  have hnat := Int.natAbs_dvd_natAbs.2 hdvd
  rwa [Int.natAbs_mul, Int.natAbs_natCast] at hnat

theorem value_eq_of_isNearest (h : c.toInt.natAbs ≤ 1000000000000000) (hx : x.IsNearest (c.toInt / 100)) :
    x.value = c.dollars.value := by
  have hdollars := isNearest_dollars h
  by_contra hne
  have hdvd := dvd_of_add_value_eq hx.1 hdollars.1 (hx.add_value_eq hdollars hne)
  obtain ⟨y, hy, hvalue⟩ := exists_value_eq_of_dvd h hdvd
  exact hne ((hx.value_eq hy hvalue).trans (hdollars.value_eq hy hvalue).symm)

/-! ## Reading -/

/-- Only nothing is nothing in dollars. -/
theorem value_dollars_eq_zero (h : c.toInt.natAbs ≤ 1000000000000000) (hvalue : c.dollars.value = 0) :
    c = .zero := by
  obtain ⟨s, hs⟩ := Binary64.eq_zero_of_value_eq c.isFinite_dollars hvalue
  have hback := ofDollars_dollars_eq h
  rw [hs, ofDollars_zero] at hback
  cases hback
  rfl

theorem eq_dollars_of_isNearest (h : c.toInt.natAbs ≤ 1000000000000000)
    (hx : x.IsNearest (c.toInt / 100)) (hne : c ≠ .zero) : x = c.dollars :=
  Binary64.eq_of_value_eq hx.1 c.isFinite_dollars (value_eq_of_isNearest h hx)
    fun hvalue => hne (value_dollars_eq_zero h hvalue)

theorem ofDollars_of_isNearest (h : c.toInt.natAbs ≤ 1000000000000000)
    (hx : x.IsNearest (c.toInt / 100)) : ofDollars x = .ok c := by
  by_cases hzero : c = .zero
  · -- zero has two signs, and either is nearest
    subst hzero
    have hvalue := hx.value_eq (y := Binary64.zero false) rfl (by
      show ((0 : Int) : ℚ) / one = ((0 : Int) : ℚ) / 100
      rw [Int.cast_zero, zero_div, zero_div])
    rw [toInt_zero, Int.cast_zero, zero_div] at hvalue
    obtain ⟨s, rfl⟩ := Binary64.eq_zero_of_value_eq hx.1 hvalue
    exact ofDollars_zero s
  · rw [eq_dollars_of_isNearest h hx hzero]
    exact ofDollars_dollars_eq h

/-! ## Decimals -/

section

variable {negative : Bool} {s : Nat} {e : Int}

/-- Cents in range are neither too great nor too small a decimal. -/
theorem inWindow_of_eq {k : Nat} (hpos : 0 < k) (hk : k ≤ 1000000000000000) (hs : s ≠ 0)
    (heq : (s : ℚ) * (10 : ℚ) ^ e = k / 100) : Binary64.InWindow s e := by
  have hten : (1 : ℚ) < 10 := by norm_num
  have hpow : (0 : ℚ) < (10 : ℚ) ^ e := zpow_pos (by norm_num) e
  have hlow : (1 : ℚ) ≤ k := by exact_mod_cast hpos
  have hhigh : (k : ℚ) ≤ 1000000000000000 := by exact_mod_cast hk
  refine ⟨hs, ?_, ?_⟩
  · by_contra hlt
    have hone : (1 : ℚ) ≤ s := by exact_mod_cast Nat.pos_of_ne_zero hs
    have hgreat : (10 : ℚ) ^ (13 : Int) < (10 : ℚ) ^ e := zpow_lt_zpow_right₀ hten (by omega)
    have hle : (10 : ℚ) ^ e ≤ s * (10 : ℚ) ^ e := le_mul_of_one_le_left hpow.le hone
    norm_num at hgreat
    linarith
  · by_contra hlt
    have hdigits : (s : ℚ) < (10 : ℚ) ^ ((Text.digits s).length : Int) := by
      rw [zpow_natCast]
      exact_mod_cast Text.lt_pow_length_digits s
    have hless : (s : ℚ) * (10 : ℚ) ^ e < (10 : ℚ) ^ (((Text.digits s).length : Int) + e) := by
      rw [zpow_add₀ (by norm_num : (10 : ℚ) ≠ 0)]
      exact mul_lt_mul_of_pos_right hdigits hpow
    have hsmall : (10 : ℚ) ^ (((Text.digits s).length : Int) + e) ≤ (10 : ℚ) ^ (-2 : Int) :=
      zpow_le_zpow_right₀ hten.le (by omega)
    norm_num at hsmall
    linarith

/-- A decimal that denotes some cents has their sign, -/
theorem natAbs_of_eq (hs : s ≠ 0) (heq : ((signed negative s : Int) : ℚ) * (10 : ℚ) ^ e = c.toInt / 100) :
    c.toInt = signed negative c.toInt.natAbs ∧ 0 < c.toInt.natAbs ∧
      (s : ℚ) * (10 : ℚ) ^ e = (c.toInt.natAbs : Nat) / 100 := by
  have hpow : (0 : ℚ) < (10 : ℚ) ^ e := zpow_pos (by norm_num) e
  have hspos : (0 : ℚ) < s := by exact_mod_cast Nat.pos_of_ne_zero hs
  have hproduct := mul_pos hspos hpow
  rw [Nat.cast_natAbs, Int.cast_abs]
  unfold signed at heq ⊢
  cases negative with
  | false =>
    simp only [Bool.false_eq_true, if_false, Int.cast_natCast] at heq ⊢
    have hc : (0 : ℚ) < c.toInt := by linarith
    have hint : 0 < c.toInt := by exact_mod_cast hc
    exact ⟨by omega, by omega, by rw [abs_of_pos hc, heq]⟩
  | true =>
    simp only [if_true, Int.cast_neg, Int.cast_natCast] at heq ⊢
    have hc : (c.toInt : ℚ) < 0 := by linarith
    have hint : c.toInt < 0 := by exact_mod_cast hc
    refine ⟨by omega, by omega, ?_⟩
    rw [abs_of_neg hc]
    linarith

/-- and no digits denote no cents. -/
theorem eq_zero_of_eq (heq : ((signed negative 0 : Int) : ℚ) * (10 : ℚ) ^ e = c.toInt / 100) : c = .zero := by
  apply ext_toInt
  have hsigned : signed negative 0 = 0 := by cases negative <;> rfl
  rw [hsigned, Int.cast_zero, zero_mul, eq_comm, div_eq_zero_iff,
    or_iff_left (by norm_num : (100 : ℚ) ≠ 0), Int.cast_eq_zero] at heq
  exact heq

theorem ofDecimal_eq_dollars (h : c.toInt.natAbs ≤ 1000000000000000) (hs : s ≠ 0)
    (heq : ((signed negative s : Int) : ℚ) * (10 : ℚ) ^ e = c.toInt / 100) :
    ofDecimal negative s e = c.dollars := by
  obtain ⟨hsigned, hpos, hvalue⟩ := natAbs_of_eq hs heq
  have hsign : decide (c.toInt < 0) = negative := by
    unfold signed at hsigned
    cases negative with
    | false => exact decide_eq_false (by simp only [Bool.false_eq_true, if_false] at hsigned; omega)
    | true => exact decide_eq_true (by simp only [if_true] at hsigned; omega)
  rw [dollars_eq_ofRatio h, hsign, Binary64.ofDecimal_eq_ofRatio (inWindow_of_eq hpos h hs hvalue)]
  refine Binary64.ofRatio_congr (Binary64.decimalRatio_pos s e) (by decide) ?_
  rw [Binary64.decimalRatio_eq, hvalue, Nat.cast_ofNat]

/-- A decimal that denotes a number of cents is read as that many. -/
theorem ofDollars_ofDecimal (h : c.toInt.natAbs ≤ 1000000000000000)
    (heq : ((signed negative s : Int) : ℚ) * (10 : ℚ) ^ e = c.toInt / 100) :
    ofDollars (ofDecimal negative s e) = .ok c := by
  by_cases hs : s = 0
  · subst hs
    rw [ofDecimal, if_pos rfl, eq_zero_of_eq heq]
    exact ofDollars_zero negative
  · rw [ofDecimal_eq_dollars h hs heq]
    exact ofDollars_dollars_eq h

/-! ## Documents -/

/-- The power of ten of a word of digits that denotes cents. -/
theorem exponent_of_eq {k : Nat} (hpos : 0 < k) (hk : k ≤ 1000000000000000) (hs : 0 < s) (hword : s < 2 ^ 64)
    (heq : (s : ℚ) * (10 : ℚ) ^ e = k / 100) : -22 ≤ e ∧ e ≤ 13 := by
  have hten : (1 : ℚ) < 10 := by norm_num
  have hpow : (0 : ℚ) < (10 : ℚ) ^ e := zpow_pos (by norm_num) e
  have hlow : (1 : ℚ) ≤ k := by exact_mod_cast hpos
  have hhigh : (k : ℚ) ≤ 1000000000000000 := by exact_mod_cast hk
  constructor
  · have hdigits : (s : ℚ) ≤ (10 : ℚ) ^ (20 : Int) := by
      have hle : s ≤ 10 ^ 20 := by omega
      exact_mod_cast hle
    have hless : (10 : ℚ) ^ (-2 : Int) ≤ (10 : ℚ) ^ (20 + e) := by
      calc (10 : ℚ) ^ (-2 : Int) = 1 / 100 := by norm_num
        _ ≤ k / 100 := by linarith
        _ = s * (10 : ℚ) ^ e := heq.symm
        _ ≤ (10 : ℚ) ^ (20 : Int) * (10 : ℚ) ^ e := mul_le_mul_of_nonneg_right hdigits hpow.le
        _ = (10 : ℚ) ^ (20 + e) := (zpow_add₀ (by norm_num) _ _).symm
    have hle := (zpow_le_zpow_iff_right₀ hten).1 hless
    omega
  · have hone : (1 : ℚ) ≤ s := by exact_mod_cast hs
    have hle : (10 : ℚ) ^ e ≤ (10 : ℚ) ^ (13 : Int) := by
      calc (10 : ℚ) ^ e ≤ s * (10 : ℚ) ^ e := le_mul_of_one_le_left hpow.le hone
        _ = k / 100 := heq
        _ ≤ (10 : ℚ) ^ (13 : Int) := by norm_num; linarith
    exact (zpow_le_zpow_iff_right₀ hten).1 hle

/-- A word of digits that denotes cents is not read exactly, but near enough to be those cents. -/
theorem exists_ofParts_ofDollars {k : Nat} (hc : c.toInt = signed negative k) (hpos : 0 < k)
    (hk : k ≤ 1000000000000000) (hs : 0 < s) (hword : s < 2 ^ 64) (heq : (s : ℚ) * (10 : ℚ) ^ e = k / 100) :
    ∃ m : Magnitude, Binary64.ofParts s e = .finite false m ∧ ofDollars (.finite negative m) = .ok c := by
  obtain ⟨hlow, hhigh⟩ := exponent_of_eq hpos hk hs hword heq
  rw [eq_div_iff (by norm_num : (100 : ℚ) ≠ 0)] at heq
  by_cases hneg : e < 0
  · obtain ⟨j, rfl⟩ : ∃ j : Nat, e = -j := ⟨(-e).toNat, by omega⟩
    have hten : 0 < 10 ^ j := Nat.pow_pos (by decide)
    obtain ⟨m, hm, hnear⟩ := Binary64.exists_ofParts_near_neg hs (Nat.le_of_lt hword) (k := j) (by omega) (by omega)
    refine ⟨m, hm, ofDollars_of_near hc hpos hk (Magnitude.Near.of_mul_right hten ?_)⟩
    have hcents : s * 100 = k * 10 ^ j := by
      rw [zpow_neg, zpow_natCast, mul_right_comm, mul_inv_eq_iff_eq_mul₀ (by positivity)] at heq
      exact_mod_cast heq
    have hscaled := hnear.mul_right 100
    rwa [Nat.mul_right_comm, hcents, Nat.mul_right_comm, Nat.mul_right_comm m.units] at hscaled
  · obtain ⟨j, rfl⟩ : ∃ j : Nat, e = j := ⟨e.toNat, by omega⟩
    have hcents : s * 10 ^ j * 100 = k := by
      rw [zpow_natCast] at heq
      exact_mod_cast heq
    obtain ⟨m, hm, hnear⟩ := Binary64.exists_ofParts_near_natCast hs (k := j) (by omega) (by omega)
    refine ⟨m, hm, ofDollars_of_near hc hpos hk ?_⟩
    have hscaled := hnear.mul_right 100
    rwa [Nat.mul_right_comm, hcents] at hscaled

/-- A few digits and zeros denote cents. -/
theorem exists_mul_pow_of_eq {k : Nat} (hk : k ≤ 1000000000000000) (heq : (s : ℚ) * (10 : ℚ) ^ e = k / 100) :
    ∃ t j : Nat, s = t * 10 ^ j ∧ t ≤ 1000000000000000 := by
  have hten : (10 : ℚ) ≠ 0 := by norm_num
  have hk100 : (k : ℚ) = s * (10 : ℚ) ^ (e + 2) := by
    rw [zpow_add₀ hten, ← mul_assoc, heq]
    norm_num
  by_cases hneg : e + 2 < 0
  · obtain ⟨j, hj⟩ : ∃ j : Nat, e + 2 = -j := ⟨(-(e + 2)).toNat, by omega⟩
    rw [hj, zpow_neg, zpow_natCast, eq_mul_inv_iff_mul_eq₀ (by positivity)] at hk100
    exact ⟨k, j, by exact_mod_cast hk100.symm, hk⟩
  · obtain ⟨j, hj⟩ : ∃ j : Nat, e + 2 = j := ⟨(e + 2).toNat, by omega⟩
    rw [hj, zpow_natCast] at hk100
    have hnat : k = s * 10 ^ j := by exact_mod_cast hk100
    refine ⟨s, 0, by rw [Nat.pow_zero, Nat.mul_one], Nat.le_trans ?_ hk⟩
    rw [hnat]
    exact Nat.le_mul_of_pos_right s (Nat.pow_pos (by decide))

end

/-- A numeral that denotes a number of cents is read as that many dollars and cents. -/
theorem readDollars_number (h : c.toInt.natAbs ≤ 1000000000000000) {n : Json.Numeral}
    (hwhole : n.whole.all Text.isDigit = true) (hfraction : n.fraction.all Text.isDigit = true)
    (heq : n.value = c.toInt / 100) : Document.readDollars (.number n) = .ok c := by
  suffices hread : ∃ s e m, n.parts = (s, e) ∧ Binary64.ofParts s e = .finite false m ∧
      ofDollars (.finite n.negative m) = .ok c by
    obtain ⟨s, e, m, hparts, hm, hok⟩ := hread
    refine Document.readDollars_eq ?_ hok
    rw [Document.readNumber, Json.Numeral.toBinary64?_eq hparts hm]
  rw [Json.Numeral.value] at heq
  by_cases hzero : n.significand = 0
  · have hparts := Json.Numeral.parts_of_lt (n := n) (by rw [hzero]; decide)
    rw [hzero] at hparts heq
    rw [eq_zero_of_eq heq]
    exact ⟨0, _, .zero, hparts, Binary64.ofParts_zero _, ofDollars_zero _⟩
  obtain ⟨hc, hpos, hvalue⟩ := natAbs_of_eq hzero heq
  obtain ⟨t, j, hzeros, ht⟩ := exists_mul_pow_of_eq h hvalue
  obtain ⟨kept, count, hkept, hdenotes, hparts⟩ := Json.Numeral.parts_of_zeros hwhole hfraction hzeros ht
  have hne : 0 < kept := by
    refine Nat.pos_of_ne_zero fun hnone => hzero ?_
    rw [hdenotes, hnone, Nat.zero_mul]
  have hsame : (kept : ℚ) * (10 : ℚ) ^ (n.power + count) = (c.toInt.natAbs : Nat) / 100 := by
    rw [← hvalue, hdenotes, zpow_add₀ (by norm_num), zpow_natCast]
    push_cast
    ring
  obtain ⟨m, hm, hok⟩ := exists_ofParts_ofDollars hc hpos h hne hkept hsame
  exact ⟨_, _, m, hparts, hm, hok⟩

/-- How an amount is read when it is written in dollars. -/
structure ReadExactly (c : Cents) : Prop where
  /-- Its dollars are the number nearest to a hundredth of its cents, -/
  nearest : c.dollars.IsNearest (c.toInt / 100)
  /-- and no other number is, but for the sign of zero. -/
  unique : ∀ x : Binary64, x.IsNearest (c.toInt / 100) →
    x.value = c.dollars.value ∧ (c ≠ .zero → x = c.dollars)
  /-- What is nearest is read as the amount, -/
  read : ∀ x : Binary64, x.IsNearest (c.toInt / 100) → ofDollars x = .ok c
  /-- so its dollars are read as what they were; -/
  back : ofDollars c.dollars = .ok c
  /-- and so is every decimal that denotes the amount in dollars, -/
  decimals : ∀ negative significand exponent,
    ((signed negative significand : Int) : ℚ) * (10 : ℚ) ^ exponent = c.toInt / 100 →
      ofDollars (ofDecimal negative significand exponent) = .ok c
  /-- in documents too, although they are read in two steps. -/
  documents : ∀ symbols numeral rest, Json.readNumeral? symbols = some (numeral, rest) →
    numeral.value = c.toInt / 100 → Document.readDollars (.number numeral) = .ok c

/-- For up to 10^15 cents on either side the number nearest to a hundredth of them is what division gives, and it is
read as those cents; so no amount that is written with two decimals is off by a cent. -/
theorem exists_readExactly {k : Int} (hk : k.natAbs ≤ 1000000000000000) :
    ∃ c : Cents, c.toInt = k ∧ c.ReadExactly := by
  have hfits : Amount.Fits k := by
    unfold Amount.Fits Amount.least Amount.greatest
    omega
  have hc : (⟨Amount.saturate k⟩ : Cents).toInt = k :=
    (Amount.toInt_saturate k).trans (Amount.clamp_of_fits hfits)
  refine ⟨⟨Amount.saturate k⟩, hc, ?_⟩
  rw [← hc] at hk
  generalize (⟨Amount.saturate k⟩ : Cents) = c at hk
  refine
    { nearest := isNearest_dollars hk
      unique := fun x hx => ⟨value_eq_of_isNearest hk hx, eq_dollars_of_isNearest hk hx⟩
      read := fun x hx => ofDollars_of_isNearest hk hx
      back := ofDollars_dollars_eq hk
      decimals := fun negative s e heq => ofDollars_ofDecimal hk heq
      documents := fun symbols numeral rest hread heq => ?_ }
  obtain ⟨hwhole, hfraction⟩ := Json.all_isDigit_of_readNumeral? hread
  exact readDollars_number hk hwhole hfraction heq

/-- A debt of ten trillion dollars less a cent. -/
theorem exists_readExactly_999999999999999 :
    Int.natAbs (-999999999999999) ≤ 1000000000000000 ∧
      ∃ c : Cents, c.toInt = -999999999999999 ∧ c.ReadExactly :=
  ⟨by decide, exists_readExactly (by decide)⟩

end Cents

end Storefront
