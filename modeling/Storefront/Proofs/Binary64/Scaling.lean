import Storefront.Binary64.Scaling
import Storefront.Proofs.Binary64.Order
import Storefront.Proofs.Binary64.Shortest

/-!
# Decimals that are read in two steps

Where a significand and a power of ten are numbers, only their product or quotient is rounded, and what is read is
the nearest number. Elsewhere reading keeps the order of significands of one power of ten. So a few greatest
and least decimals tell that every number that was written is read as a number, and a positive one as a positive
one.
-/

namespace Storefront

namespace Binary64

open Magnitude (one greatestSignificand)

variable {x y : Binary64} {m : Magnitude} {n d k s t : Nat} {e : Int}

/-! ## Numbers without a minus sign -/

/-- Has the number no minus sign? -/
def Unsigned : Binary64 → Prop
  | nan => False
  | infinite s => s = false
  | finite s _ => s = false

theorem Unsigned.zero_le (h : x.Unsigned) : zero false ≤ x := by
  cases x with
  | nan => cases h
  | infinite s => exact h
  | finite s m =>
    obtain rfl : s = false := h
    exact finite_le_finite.2 (Int.natCast_nonneg _)

theorem unsigned_ofUnits (n d : Nat) : (ofUnits false n d).Unsigned := by
  rcases ofUnits_cases false n d with ⟨m, -, h⟩ | ⟨-, h⟩ <;> rw [h] <;> rfl

theorem Unsigned.scale (h : x.Unsigned) (n d : Nat) : (x.scale n d).Unsigned := by
  cases x with
  | nan => cases h
  | infinite s => exact h
  | finite s m =>
    obtain rfl : s = false := h
    exact unsigned_ofUnits _ _

theorem Unsigned.exists_finite (h : x.Unsigned) (hle : x ≤ y) (hy : y.isFinite = true) :
    ∃ m, x = finite false m := by
  obtain ⟨t, m', rfl⟩ := exists_of_isFinite hy
  cases x with
  | nan => cases h
  | infinite s =>
    obtain rfl : s = false := h
    cases hle
  | finite s m =>
    obtain rfl : s = false := h
    exact ⟨m, rfl⟩

theorem Unsigned.eq_zero (h : x.Unsigned) (hzero : x.isZero = true) : x = zero false := by
  cases x with
  | nan => cases h
  | infinite s => cases hzero
  | finite s m =>
    obtain rfl : s = false := h
    exact congrArg (finite false) (Magnitude.ext_units (of_decide_eq_true hzero))

theorem scale_one (hx : x.isFinite = true) : x.scale one one = x := by
  obtain ⟨s, m, rfl⟩ := exists_of_isFinite hx
  exact ofUnits_eq_finite_iff.2 (Magnitude.rounded_mul m.precise Magnitude.one_pos)

/-! ## Powers of ten -/

theorem unsigned_ofInt (s : Nat) : (ofInt s).Unsigned := by
  have hsign : decide ((s : Int) < 0) = false := decide_eq_false (Int.not_lt.2 (Int.natCast_nonneg s))
  rw [ofInt_eq_ofUnits, hsign]
  exact unsigned_ofUnits _ _

theorem isFinite_tenPow : (tenPow 308).isFinite = true := by decide +kernel

theorem tenPow_le_tenPow {j : Nat} (h : j ≤ k) : tenPow j ≤ tenPow k :=
  ofInt_le_ofInt (Int.ofNat_le.2 (Nat.pow_le_pow_right (by decide) h))

/-- Up to 10^308 the powers of ten are in range, and none is less than one. -/
theorem exists_tenPow (hk : k ≤ 308) : ∃ c : Magnitude, one ≤ c.units ∧ tenPow k = finite false c := by
  obtain ⟨c, hc⟩ := (unsigned_ofInt (Nat.pow 10 k)).exists_finite (tenPow_le_tenPow hk) isFinite_tenPow
  obtain ⟨u, hu, hone⟩ := exists_ofInt (k := 1) (by decide)
  have hle : tenPow 0 ≤ tenPow k := tenPow_le_tenPow (Nat.zero_le k)
  have hzero : tenPow 0 = finite false u := hone
  have hpow : tenPow k = finite false c := hc
  rw [hzero, hpow, finite_le_finite] at hle
  exact ⟨c, by rw [← Nat.one_mul one, ← hu]; exact Int.ofNat_le.1 hle, hpow⟩

/-- Up to 10^22 the powers of ten are numbers. -/
theorem tenPow_eq (hk : k ≤ 22) : ∃ c : Magnitude, c.units = 10 ^ k * one ∧ tenPow k = finite false c := by
  have hfive : 5 ^ k ≤ greatestSignificand :=
    Nat.le_trans (Nat.pow_le_pow_right (by decide) hk) (by decide)
  have hprecise : Magnitude.Precise (10 ^ k * one) := by
    rw [show 10 = 5 * 2 by rfl, Nat.mul_pow]
    exact Magnitude.precise_mul_pow_mul_one hfive
  exact exists_ofInt_of_precise (Nat.lt_of_le_of_lt (Nat.pow_le_pow_right (by decide) hk) (by decide)) hprecise

/-! ## One step -/

theorem div_tenPow_le_self (hx : x.Unsigned) (hfinite : x.isFinite = true) (hk : k ≤ 308) : x / tenPow k ≤ x := by
  obtain ⟨c, hc, hpow⟩ := exists_tenPow hk
  have hpos : 0 < c.units := Nat.lt_of_lt_of_le Magnitude.one_pos hc
  rw [hpow, div_eq_scale x hpos]
  have hle := scale_le_scale_of_le hpos Magnitude.one_pos hx.zero_le (Nat.mul_le_mul_left one hc)
  rwa [scale_one hfinite] at hle

theorem Unsigned.div_tenPow (hx : x.Unsigned) (hk : k ≤ 308) : (x / tenPow k).Unsigned := by
  obtain ⟨c, hc, hpow⟩ := exists_tenPow hk
  rw [hpow, div_eq_scale x (Nat.lt_of_lt_of_le Magnitude.one_pos hc)]
  exact hx.scale _ _

theorem Unsigned.mul_tenPow (hx : x.Unsigned) (hk : k ≤ 308) : (x * tenPow k).Unsigned := by
  obtain ⟨c, hc, hpow⟩ := exists_tenPow hk
  rw [hpow, mul_eq_scale x (Nat.lt_of_lt_of_le Magnitude.one_pos hc)]
  exact hx.scale _ _

theorem div_tenPow_le_div_tenPow (h : x ≤ y) (hk : k ≤ 308) : x / tenPow k ≤ y / tenPow k := by
  obtain ⟨c, hc, hpow⟩ := exists_tenPow hk
  have hpos : 0 < c.units := Nat.lt_of_lt_of_le Magnitude.one_pos hc
  rw [hpow, div_eq_scale x hpos, div_eq_scale y hpos]
  exact scale_le_scale hpos h

theorem mul_tenPow_le_mul_tenPow (h : x ≤ y) (hk : k ≤ 308) : x * tenPow k ≤ y * tenPow k := by
  obtain ⟨c, hc, hpow⟩ := exists_tenPow hk
  have hpos : 0 < c.units := Nat.lt_of_lt_of_le Magnitude.one_pos hc
  rw [hpow, mul_eq_scale x hpos, mul_eq_scale y hpos]
  exact scale_le_scale Magnitude.one_pos h

/-- A greater power of ten gives no lesser product and no greater quotient. -/
theorem mul_tenPow_le_of_le {j : Nat} (hx : x.Unsigned) (h : j ≤ k) (hk : k ≤ 308) :
    x * tenPow j ≤ x * tenPow k ∧ x / tenPow k ≤ x / tenPow j := by
  obtain ⟨b, hb, hpow⟩ := exists_tenPow (Nat.le_trans h hk)
  obtain ⟨c, hc, hpow'⟩ := exists_tenPow hk
  have hone := Magnitude.one_pos
  have hle : b.units ≤ c.units := by
    have hle := tenPow_le_tenPow h
    rw [hpow, hpow', finite_le_finite] at hle
    exact Int.ofNat_le.1 hle
  have hb0 : 0 < b.units := Nat.lt_of_lt_of_le hone hb
  have hc0 : 0 < c.units := Nat.lt_of_lt_of_le hone hc
  rw [hpow, hpow', mul_eq_scale x hb0, mul_eq_scale x hc0, div_eq_scale x hb0, div_eq_scale x hc0]
  exact ⟨scale_le_scale_of_le hone hone hx.zero_le (Nat.mul_le_mul_right one hle),
    scale_le_scale_of_le hc0 hb0 hx.zero_le (Nat.mul_le_mul_left one hle)⟩

theorem zero_div_tenPow (hk : k ≤ 308) : zero false / tenPow k = zero false := by
  obtain ⟨c, hc, hpow⟩ := exists_tenPow hk
  have hpos : 0 < c.units := Nat.lt_of_lt_of_le Magnitude.one_pos hc
  rw [hpow, div_eq_scale _ hpos, scale_zero hpos]

theorem zero_mul_tenPow (hk : k ≤ 308) : zero false * tenPow k = zero false := by
  obtain ⟨c, hc, hpow⟩ := exists_tenPow hk
  rw [hpow, mul_eq_scale _ (Nat.lt_of_lt_of_le Magnitude.one_pos hc), scale_zero Magnitude.one_pos]

/-! ## Both steps -/

theorem ofParts_natCast (hk : k ≤ 308) : ofParts s k = ofInt s * tenPow k := by
  unfold ofParts
  simp only
  rw [if_neg (by omega), if_pos (by omega), Int.toNat_natCast]

theorem ofParts_natCast_zero (h : (ofInt s).isFinite = true) : ofParts s (0 : Nat) = ofInt s := by
  obtain ⟨c, hc, hpow⟩ := tenPow_eq (k := 0) (by decide)
  rw [Nat.pow_zero, Nat.one_mul] at hc
  rw [ofParts_natCast (by decide), hpow, mul_eq_scale _ (hc ▸ Magnitude.one_pos), hc, scale_one h]

theorem ofParts_neg (hpos : 0 < k) (hk : k ≤ 308) : ofParts s (-k) = ofInt s / tenPow k := by
  unfold ofParts
  simp only
  rw [if_pos (by omega), Int.neg_neg, Int.toNat_natCast, divTenPow, if_pos hk]

theorem ofParts_neg_far (hlow : 308 < k) (hhigh : k ≤ 616) :
    ofParts s (-k) = ofInt s / tenPow 308 / tenPow (k - 308) := by
  unfold ofParts
  simp only
  rw [if_pos (by omega), Int.neg_neg, Int.toNat_natCast, divTenPow, if_neg (by omega)]
  split
  · next hzero =>
    rw [(unsigned_ofInt s).eq_zero hzero, zero_div_tenPow (Nat.le_refl _), zero_div_tenPow (by omega)]
  · rw [divTenPow, if_pos (by omega)]

theorem ofParts_zero (e : Int) : ofParts 0 e = zero false := by
  unfold ofParts
  simp only [Int.natCast_zero, ofInt_zero]
  have hdiv : ∀ k, divTenPow (zero false) k = zero false := by
    intro k
    rw [divTenPow]
    split
    · next hk => exact zero_div_tenPow hk
    · rfl
  split
  · exact hdiv _
  · split
    · exact zero_mul_tenPow (by omega)
    · rfl

/-- Unless the power of ten is far away there are one or two steps, and the significand has no say in which. -/
theorem ofParts_cases (hlow : -616 ≤ e) (hhigh : e ≤ 308) :
    (∃ k ≤ 308, ∀ s, ofParts s e = ofInt s * tenPow k) ∨ (∃ k ≤ 308, ∀ s, ofParts s e = ofInt s / tenPow k) ∨
      ∃ k ≤ 308, ∀ s, ofParts s e = ofInt s / tenPow 308 / tenPow k := by
  by_cases hneg : e < 0
  · obtain ⟨k, rfl⟩ : ∃ k : Nat, e = -k := ⟨(-e).toNat, by omega⟩
    by_cases hk : k ≤ 308
    · exact .inr (.inl ⟨k, hk, fun s => ofParts_neg (by omega) hk⟩)
    · exact .inr (.inr ⟨k - 308, by omega, fun s => ofParts_neg_far (by omega) (by omega)⟩)
  · obtain ⟨k, rfl⟩ : ∃ k : Nat, e = k := ⟨e.toNat, by omega⟩
    exact .inl ⟨k, by omega, fun s => ofParts_natCast (by omega)⟩

theorem unsigned_ofParts (hlow : -616 ≤ e) (hhigh : e ≤ 308) : (ofParts s e).Unsigned := by
  rcases ofParts_cases hlow hhigh with ⟨k, hk, heq⟩ | ⟨k, hk, heq⟩ | ⟨k, hk, heq⟩ <;> rw [heq]
  · exact (unsigned_ofInt s).mul_tenPow hk
  · exact (unsigned_ofInt s).div_tenPow hk
  · exact ((unsigned_ofInt s).div_tenPow (Nat.le_refl _)).div_tenPow hk

/-- With one power of ten a greater significand is read as no lesser number. -/
theorem ofParts_le_ofParts (hlow : -616 ≤ e) (hhigh : e ≤ 308) (h : s ≤ t) : ofParts s e ≤ ofParts t e := by
  have hint : ofInt s ≤ ofInt t := ofInt_le_ofInt (Int.ofNat_le.2 h)
  rcases ofParts_cases hlow hhigh with ⟨k, hk, heq⟩ | ⟨k, hk, heq⟩ | ⟨k, hk, heq⟩ <;> rw [heq, heq]
  · exact mul_tenPow_le_mul_tenPow hint hk
  · exact div_tenPow_le_div_tenPow hint hk
  · exact div_tenPow_le_div_tenPow (div_tenPow_le_div_tenPow hint (Nat.le_refl _)) hk

/-- Where significand and power of ten are numbers, what is read is the nearest number. -/
theorem ofParts_eq_ofDecimal (hs : s ≤ greatestSignificand) (hlow : -22 ≤ e) (hhigh : e ≤ 22) :
    ofParts s e = ofDecimal false s e := by
  rcases Nat.eq_zero_or_pos s with rfl | hpos
  · rw [ofParts_zero, ofDecimal, if_pos rfl]
  · have hlen := Text.length_digits_pos s
    rw [ofDecimal_eq_ofRatio ⟨hpos.ne', by omega, by omega⟩, ofRatio, decimalRatio]
    obtain ⟨a, ha, hint⟩ := exists_ofInt hs
    have hone := Magnitude.one_pos
    by_cases hneg : e < 0
    · obtain ⟨k, rfl⟩ : ∃ k : Nat, e = -k := ⟨(-e).toNat, by omega⟩
      obtain ⟨c, hc, hpow⟩ := tenPow_eq (k := k) (by omega)
      have hten : 0 < 10 ^ k := Nat.pow_pos (by decide)
      have hc0 : 0 < c.units := by rw [hc]; exact Nat.mul_pos hten hone
      rw [ofParts_neg (by omega) (by omega), hint, hpow, div_eq_scale _ hc0, if_neg (by omega), Int.neg_neg,
        Int.toNat_natCast]
      refine ofUnits_congr_mul hc0 hten ?_
      rw [ha, hc, Nat.pow_eq]
      ring
    · obtain ⟨k, rfl⟩ : ∃ k : Nat, e = k := ⟨e.toNat, by omega⟩
      obtain ⟨c, hc, hpow⟩ := tenPow_eq (k := k) (by omega)
      have hc0 : 0 < c.units := by rw [hc]; exact Nat.mul_pos (Nat.pow_pos (by decide)) hone
      rw [ofParts_natCast (by omega), hint, hpow, mul_eq_scale _ hc0, if_pos (by omega), Int.toNat_natCast]
      refine ofUnits_congr_mul hone Nat.one_pos ?_
      rw [ha, hc, Nat.pow_eq]
      ring

/-! ## How far reading is off -/

open Magnitude (Near rounded)

/-- Each step is off by one part in 2^53 at the most: first the significand, -/
theorem exists_ofInt_near (hs : 0 < s) (hword : s ≤ 2 ^ 64) :
    ∃ a : Magnitude, ofInt s = finite false a ∧ Near 1 (s * one) a.units ∧ a.units ≤ 2 ^ 64 * one := by
  have hone : 2 ^ 100 ≤ one := Magnitude.two_pow_le_one (by decide)
  have hle : one ≤ s * one := Nat.le_mul_of_pos_left one hs
  have hmul : s * one ≤ 2 ^ 64 * one := Nat.mul_le_mul_right one hword
  obtain ⟨a, ha, hbound⟩ := Magnitude.exists_units (n := s * one) (d := 1) (k := 2 ^ 64) (by decide) (by decide)
    (Magnitude.precise_mul_pow_mul_one (k := 1) (j := 64) (by decide)) (by omega)
  have hnear := Magnitude.rounded_near (n := s * one) (d := 1) (by decide) (by omega)
  rw [← ha, Nat.mul_one] at hnear
  have hsign : decide ((s : Int) < 0) = false := decide_eq_false (by omega)
  refine ⟨a, ?_, hnear, hbound⟩
  rw [ofInt_eq_ofUnits, hsign]
  exact ofUnits_eq_finite ha.symm

/-- then the quotient -/
theorem exists_ofParts_near_neg (hs : 0 < s) (hword : s ≤ 2 ^ 64) (hpos : 0 < k) (hk : k ≤ 22) :
    ∃ m : Magnitude, ofParts s (-k) = finite false m ∧ Near 3 (s * one) (m.units * 10 ^ k) := by
  obtain ⟨a, hint, hnear, ha⟩ := exists_ofInt_near hs hword
  obtain ⟨c, hc, hpow⟩ := tenPow_eq hk
  have hten : 0 < 10 ^ k := Nat.pow_pos (by decide)
  have hten22 : 10 ^ k ≤ 10 ^ 22 := Nat.pow_le_pow_right (by decide) hk
  have hone : 2 ^ 200 ≤ one := Magnitude.two_pow_le_one (by decide)
  have hle : one ≤ s * one := Nat.le_mul_of_pos_left one hs
  obtain ⟨m, hm, -⟩ := Magnitude.exists_units (n := a.units) (d := 10 ^ k) (k := 2 ^ 64) hten (by decide)
    (Magnitude.precise_mul_pow_mul_one (k := 1) (j := 64) (by decide))
    (Nat.le_trans ha (Nat.le_mul_of_pos_right _ hten))
  refine ⟨m, ?_, hnear.trans (hm ▸ Magnitude.rounded_near hten ?_)⟩
  · rw [ofParts_neg hpos (by omega), hint, hpow, div_eq_scale _ (by rw [hc]; exact Nat.mul_pos hten (by omega))]
    refine ofUnits_eq_finite ?_
    rw [hm, hc]
    exact Magnitude.rounded_congr (Nat.mul_pos hten (by omega)) hten (by ring)
  · have hbelow := hnear.below
    omega

/-- or the product. -/
theorem exists_ofParts_near_natCast (hs : 0 < s) (hk : k ≤ 22) (hle : s * 10 ^ k ≤ 2 ^ 63) :
    ∃ m : Magnitude, ofParts s k = finite false m ∧ Near 3 (s * 10 ^ k * one) m.units := by
  have hten : 0 < 10 ^ k := Nat.pow_pos (by decide)
  have hself : s ≤ s * 10 ^ k := Nat.le_mul_of_pos_right s hten
  obtain ⟨a, hint, hnear, -⟩ := exists_ofInt_near hs (by omega)
  obtain ⟨c, hc, hpow⟩ := tenPow_eq hk
  have hone : 2 ^ 100 ≤ one := Magnitude.two_pow_le_one (by decide)
  have hproduct : Near 1 (s * 10 ^ k * one) (a.units * 10 ^ k) := by
    rw [Nat.mul_right_comm]
    exact hnear.mul_right _
  have hlarge : one ≤ s * 10 ^ k * one := Nat.le_mul_of_pos_left one (Nat.mul_pos hs hten)
  have hsmall : s * 10 ^ k * one ≤ 2 ^ 63 * one := Nat.mul_le_mul_right one hle
  have hbelow := hproduct.below
  have habove := hproduct.above
  obtain ⟨m, hm, -⟩ := Magnitude.exists_units (n := a.units * 10 ^ k) (d := 1) (k := 2 ^ 64) (by decide) (by decide)
    (Magnitude.precise_mul_pow_mul_one (k := 1) (j := 64) (by decide)) (by omega)
  have hround := Magnitude.rounded_near (n := a.units * 10 ^ k) (d := 1) (by decide) (by omega)
  rw [← hm, Nat.mul_one] at hround
  refine ⟨m, ?_, hproduct.trans hround⟩
  rw [ofParts_natCast (by omega), hint, hpow, mul_eq_scale _ (by rw [hc]; exact Nat.mul_pos hten (by omega))]
  refine ofUnits_eq_finite ?_
  rw [hm, hc]
  exact Magnitude.rounded_congr (by omega) (by decide) (by ring)

end Binary64

namespace Magnitude

open Binary64 (ofParts ofInt tenPow finite decimalRatio)

/-! ## Decimals that were written -/

namespace Written

variable {m : Magnitude} {tie : Tie} {s k : Nat} {e : Int}

theorem rounded_eq (h : m.Written tie s e) (hs : s ≠ 0) :
    rounded ((decimalRatio s e).1 * one) (decimalRatio s e).2 = m.units := by
  have hreads := h.reads
  have hhigh : e ≤ 400 := by
    by_contra hgt
    rw [Binary64.ofDecimal, if_neg hs, if_pos (by omega)] at hreads
    cases hreads
  have hlow := h.low
  have hlen := Text.length_digits_pos s
  rw [Binary64.ofDecimal_eq_ofRatio ⟨hs, hhigh, by omega⟩, Binary64.ofRatio, Binary64.ofUnits_eq_finite_iff] at hreads
  exact hreads

theorem rounded_natCast (h : m.Written tie s k) (hs : s ≠ 0) : rounded (s * 10 ^ k * one) 1 = m.units := by
  have heq := h.rounded_eq hs
  rw [decimalRatio, if_pos (Int.natCast_nonneg k), Int.toNat_natCast] at heq
  exact heq

theorem rounded_neg (h : m.Written tie s (-k)) (hs : s ≠ 0) (hpos : 0 < k) : rounded (s * one) (10 ^ k) = m.units := by
  have heq := h.rounded_eq hs
  rw [decimalRatio, if_neg (by omega), Int.neg_neg, Int.toNat_natCast] at heq
  exact heq

theorem lt_mul_of_rounded_lt {n d u : Nat} (hu : Precise u) (hd : 0 < d) (h : rounded n d < u) : n < u * d := by
  by_contra hle
  have hmono : rounded (u * d) d ≤ rounded n d := rounded_mono hd hd (Nat.mul_le_mul_right d (by omega))
  rw [rounded_mul hu hd] at hmono
  omega

/-- A decimal that reads back is below every precise number that the number is below. -/
theorem lt_of_precise {u : Nat} (h : m.Written tie s k) (hu : Precise u) (hlt : m.units < u) :
    s * 10 ^ k * one < u := by
  rcases Nat.eq_zero_or_pos s with rfl | hs
  · rw [Nat.zero_mul, Nat.zero_mul]
    omega
  · have hless := lt_mul_of_rounded_lt hu Nat.one_pos (h.rounded_natCast hs.ne' ▸ hlt)
    rwa [Nat.mul_one] at hless

theorem lt_of_precise_neg {u : Nat} (h : m.Written tie s (-k)) (hk : 0 < k) (hu : Precise u) (hlt : m.units < u) :
    s * one < u * 10 ^ k := by
  have hten : 0 < 10 ^ k := Nat.pow_pos (by decide)
  rcases Nat.eq_zero_or_pos s with rfl | hs
  · rw [Nat.zero_mul]
    exact Nat.mul_pos (by omega) hten
  · exact lt_mul_of_rounded_lt hu hten (h.rounded_neg hs.ne' hk ▸ hlt)

theorem precise_limit : Precise limit := ⟨1, 1024 + fractionBits, by decide, by rw [limit, Nat.one_mul]⟩

theorem lt_limit (h : m.Written tie s k) : s * 10 ^ k * one < limit := h.lt_of_precise precise_limit m.bounded

theorem limit_le : limit ≤ 10 ^ 309 * one := by decide +kernel

theorem high (h : m.Written tie s e) (hs : s ≠ 0) : e ≤ 308 := by
  by_contra hgt
  obtain ⟨k, rfl⟩ : ∃ k : Nat, e = k := ⟨e.toNat, by omega⟩
  have hlt := h.lt_limit
  have hpow : 10 ^ 309 ≤ s * 10 ^ k :=
    Nat.le_trans (pow_le_pow_right₀ (by decide) (by omega)) (Nat.le_mul_of_pos_left _ (Nat.pos_of_ne_zero hs))
  have hle := Nat.le_trans limit_le (Nat.mul_le_mul_right one hpow)
  omega

/-! ## Every number that was written is read as a number -/

/-- No number is nearer to 2^1024 than one part in 2^53 of it. -/
theorem units_add_le (m : Magnitude) : m.units + 2 ^ (971 + fractionBits) ≤ limit := by
  have hlimit : limit = 2 ^ 53 * 2 ^ (971 + fractionBits) := by
    rw [limit, Nat.pow_eq, ← Nat.pow_add]
    congr 1
    omega
  have hbounded := m.bounded
  rw [hlimit] at hbounded ⊢
  by_cases hlarge : 2 ^ (52 + (971 + fractionBits)) ≤ m.units
  · obtain ⟨t, ht⟩ := Precise.two_pow_dvd m.precise hlarge
    rw [ht, Nat.mul_comm] at hbounded ⊢
    have ht53 : t < 2 ^ 53 := Nat.lt_of_mul_lt_mul_right hbounded
    calc t * 2 ^ (971 + fractionBits) + 2 ^ (971 + fractionBits) =
        (t + 1) * 2 ^ (971 + fractionBits) := (Nat.succ_mul t _).symm
      _ ≤ 2 ^ 53 * 2 ^ (971 + fractionBits) := Nat.mul_le_mul_right _ ht53
  · rw [Nat.pow_add] at hlarge
    omega

/-- If it takes seventeen digits, a decimal is not far above the number. -/
theorem near_natCast (h : m.Written tie s k) (hlarge : 10 ^ 16 < s) :
    2 * (s * 10 ^ k * one) ≤ 2 * m.units + 10 ^ k * one := by
  obtain ⟨-, hnear⟩ := h.near (by omega) hlarge
  have hone : (0 : ℚ) < one := by exact_mod_cast one_pos
  have hunits : m.value * one = m.units := div_mul_cancel₀ _ hone.ne'
  rw [zpow_natCast] at hnear
  have hscaled := mul_le_mul_of_nonneg_right hnear hone.le
  have hcast : (2 * (s * 10 ^ k * one) : ℚ) ≤ 2 * m.units + 10 ^ k * one := by
    rw [← hunits]
    linarith
  exact_mod_cast hcast

/-- If it takes seventeen digits, a decimal is not far below the number. -/
theorem near_neg (h : m.Written tie s (-k)) (hk : k ≠ 1) (hlarge : 10 ^ 16 < s) :
    2 * (m.units * 10 ^ k) ≤ (2 * s + 1) * one := by
  obtain ⟨hnear, -⟩ := h.near (by omega) hlarge
  have hone : (0 : ℚ) < one := by exact_mod_cast one_pos
  have hten : (0 : ℚ) < 10 ^ k := by positivity
  have hunits : m.value * one = m.units := div_mul_cancel₀ _ hone.ne'
  rw [zpow_neg, zpow_natCast] at hnear
  have hscaled := mul_le_mul_of_nonneg_right hnear (mul_pos hone hten).le
  have hcancel : (10 ^ k : ℚ)⁻¹ * 10 ^ k = 1 := inv_mul_cancel₀ hten.ne'
  have hcast : (2 * (m.units * 10 ^ k) : ℚ) ≤ (2 * s + 1) * one := by
    rw [← hunits]
    calc (2 * (m.value * one * 10 ^ k) : ℚ) = 2 * m.value * (one * 10 ^ k) := by ring
      _ ≤ (2 * (s * (10 ^ k)⁻¹) + (10 ^ k)⁻¹) * (one * 10 ^ k) := hscaled
      _ = (2 * s + 1) * one * ((10 ^ k)⁻¹ * 10 ^ k) := by ring
      _ = (2 * s + 1) * one := by rw [hcancel, mul_one]
  exact_mod_cast hcast

/-- The greatest significands that may stand before a power of ten are in range. -/
theorem isFinite_greatest :
    (ofInt (10 ^ 17 : Nat)).isFinite = true ∧ (ofInt (10 ^ 17 : Nat) * tenPow 291).isFinite = true ∧
      (ofInt (17976931348623157 : Nat) * tenPow 292).isFinite = true ∧
      ∀ j < 16, (ofInt ((limit - 1) / (10 ^ (293 + j) * one) : Nat) * tenPow (293 + j)).isFinite = true := by
  decide +kernel

/-- Next above the greatest number there is no decimal of seventeen digits that was written. -/
theorem le_greatest (h : m.Written tie s (292 : Nat)) : s ≤ 17976931348623157 := by
  by_contra hgt
  have hnear := h.near_natCast (by omega)
  have hunits := units_add_le m
  have hcheck : 2 * limit + 10 ^ 292 * one < 2 * (17976931348623158 * 10 ^ 292 * one) + 2 * 2 ^ (971 + fractionBits) := by
    decide +kernel
  have hmono : 17976931348623158 * 10 ^ 292 * one ≤ s * 10 ^ 292 * one :=
    Nat.mul_le_mul_right _ (Nat.mul_le_mul_right _ (by omega))
  omega

/-- Without a negative power of ten, no less than what is read is in range. -/
theorem exists_isFinite_ge (h : m.Written tie s k) (hk : k ≤ 308) :
    ∃ y : Binary64, ofParts s k ≤ y ∧ y.isFinite = true := by
  obtain ⟨-, hsmall, hgreatest, hlarge⟩ := isFinite_greatest
  have hstep : ∀ {t : Nat}, s ≤ t → ofParts s k ≤ ofInt t * tenPow k := fun hle => by
    rw [← Binary64.ofParts_natCast hk]
    exact Binary64.ofParts_le_ofParts (by omega) (by omega) hle
  rcases Nat.lt_trichotomy k 292 with hlt | rfl | hgt
  · refine ⟨_, Binary64.le_trans (hstep h.significand_le) ?_, hsmall⟩
    exact (Binary64.mul_tenPow_le_of_le (Binary64.unsigned_ofInt _) (by omega) (by decide)).1
  · exact ⟨_, hstep h.le_greatest, hgreatest⟩
  · obtain ⟨j, rfl⟩ : ∃ j, k = 293 + j := ⟨k - 293, by omega⟩
    refine ⟨_, hstep ?_, hlarge j (by omega)⟩
    rw [Nat.le_div_iff_mul_le (Nat.mul_pos (Nat.pow_pos (by decide)) one_pos), ← Nat.mul_assoc]
    have hlt := h.lt_limit
    omega

theorem isFinite_ofInt (h : s ≤ 10 ^ 17) : (ofInt s).isFinite = true := by
  obtain ⟨a, ha⟩ :=
    (Binary64.unsigned_ofInt s).exists_finite (Binary64.ofInt_le_ofInt (Int.ofNat_le.2 h)) isFinite_greatest.1
  rw [ha]
  rfl

/-- Every number that was written is read as a number. -/
theorem exists_ofParts (h : m.Written tie s e) : ∃ m', ofParts s e = finite false m' := by
  rcases Nat.eq_zero_or_pos s with rfl | hs
  · exact ⟨.zero, Binary64.ofParts_zero e⟩
  have hlow := h.low
  have hhigh := h.high hs.ne'
  have hunsigned := Binary64.unsigned_ofParts (s := s) (e := e) (by omega) hhigh
  by_cases hneg : e < 0
  · obtain ⟨k, rfl⟩ : ∃ k : Nat, e = -k := ⟨(-e).toNat, by omega⟩
    have hsmall : (ofInt s).isFinite = true := isFinite_ofInt h.significand_le
    by_cases hk : k ≤ 308
    · rw [Binary64.ofParts_neg (by omega) hk] at hunsigned ⊢
      exact hunsigned.exists_finite (Binary64.div_tenPow_le_self (Binary64.unsigned_ofInt s) hsmall hk) hsmall
    · rw [Binary64.ofParts_neg_far (by omega) (by omega)] at hunsigned ⊢
      obtain ⟨a, ha⟩ := ((Binary64.unsigned_ofInt s).div_tenPow (Nat.le_refl _)).exists_finite
        (Binary64.div_tenPow_le_self (Binary64.unsigned_ofInt s) hsmall (Nat.le_refl _)) hsmall
      rw [ha] at hunsigned ⊢
      exact hunsigned.exists_finite (Binary64.div_tenPow_le_self rfl rfl (by omega)) rfl
  · obtain ⟨k, rfl⟩ : ∃ k : Nat, e = k := ⟨e.toNat, by omega⟩
    obtain ⟨y, hle, hy⟩ := h.exists_isFinite_ge (by omega)
    exact hunsigned.exists_finite hle hy

/-! ## A positive number is read as a positive one -/

theorem ne_zero (h : m.Written tie s e) (hm : 0 < m.units) : s ≠ 0 := by
  rintro rfl
  have hzero := h.reads
  rw [Binary64.ofDecimal, if_pos rfl, Binary64.zero] at hzero
  cases hzero
  exact absurd hm (by decide)

/-- The least significands that may stand before a power of ten give a positive number. -/
theorem isPositive_least :
    (ofInt (1 : Nat) * tenPow 0).isPositive = true ∧ (ofInt (1 : Nat) / tenPow 308).isPositive = true ∧
      (∀ j < 32, (ofInt (10 ^ (308 + j) / (2 * one) + 1 : Nat) / tenPow 308 / tenPow j).isPositive = true) ∧
      (ofInt (49000000000000000 : Nat) / tenPow 308 / tenPow 32).isPositive = true := by
  decide +kernel

/-- A decimal that reads back as a positive number is more than half the least one. -/
theorem lt_two_mul (h : m.Written tie s (-k)) (hm : 0 < m.units) (hk : 0 < k) : 10 ^ k < 2 * (s * one) := by
  have hround := h.rounded_neg (h.ne_zero hm) hk
  exact lt_two_mul_of_rounded_pos (Nat.pow_pos (by decide)) (by omega)

theorem least_le (h : m.Written tie s (-k)) (hm : 0 < m.units) (hk : 0 < k) : 10 ^ k / (2 * one) + 1 ≤ s := by
  refine (Nat.div_lt_iff_lt_mul (Nat.mul_pos (by decide) one_pos)).2 ?_
  calc 10 ^ k < 2 * (s * one) := h.lt_two_mul hm hk
    _ = s * (2 * one) := by ring

/-- A decimal of 340 places that was written takes seventeen digits and is nearly the least number at least. -/
theorem smallest_le (h : m.Written tie s (-(340 : Nat))) (hm : 0 < m.units) : 49000000000000000 ≤ s := by
  have hcheck : 98000000000000001 * one < 2 * 10 ^ 340 := by decide +kernel
  have hlarge : 10 ^ 16 < s := by
    have hlt := h.lt_two_mul hm (by decide)
    by_contra hle
    have hmul : s * one ≤ 10 ^ 16 * one := Nat.mul_le_mul_right one (by omega)
    omega
  by_contra hlt
  have hnear := h.near_neg (by decide) hlarge
  have hmul : (2 * s + 1) * one ≤ 98000000000000001 * one := Nat.mul_le_mul_right one (by omega)
  have hunits : 10 ^ 340 ≤ m.units * 10 ^ 340 := Nat.le_mul_of_pos_left _ hm
  omega

/-- A significand that is no greater is read as a positive number. -/
theorem exists_isPositive_le (h : m.Written tie s e) (hm : 0 < m.units) :
    ∃ t ≤ s, (ofParts t e).isPositive = true := by
  obtain ⟨hone, hunit, hleast, hsmallest⟩ := isPositive_least
  have hs := Nat.pos_of_ne_zero (h.ne_zero hm)
  have hlow := h.low
  have hhigh := h.high hs.ne'
  by_cases hneg : e < 0
  · obtain ⟨k, rfl⟩ : ∃ k : Nat, e = -k := ⟨(-e).toNat, by omega⟩
    by_cases hk : k ≤ 308
    · refine ⟨1, hs, ?_⟩
      rw [Binary64.ofParts_neg (by omega) hk]
      exact Binary64.isPositive_of_le (Binary64.mul_tenPow_le_of_le (Binary64.unsigned_ofInt 1) hk (Nat.le_refl _)).2 hunit
    · obtain ⟨j, rfl⟩ : ∃ j, k = 308 + j := ⟨k - 308, by omega⟩
      have hparts : ∀ t, ofParts t (-(308 + j : Nat)) = ofInt t / tenPow 308 / tenPow j := fun t => by
        rw [Binary64.ofParts_neg_far (by omega) (by omega), Nat.add_sub_cancel_left]
      by_cases hj : j = 32
      · subst hj
        exact ⟨_, h.smallest_le hm, hparts _ ▸ hsmallest⟩
      · exact ⟨_, h.least_le hm (by omega), hparts _ ▸ hleast j (by omega)⟩
  · obtain ⟨k, rfl⟩ : ∃ k : Nat, e = k := ⟨e.toNat, by omega⟩
    refine ⟨1, hs, ?_⟩
    rw [Binary64.ofParts_natCast (by omega)]
    exact Binary64.isPositive_of_le
      (Binary64.mul_tenPow_le_of_le (Binary64.unsigned_ofInt 1) (Nat.zero_le k) (by omega)).1 hone

/-- Every positive number that was written is read as a positive number. -/
theorem isPositive_ofParts (h : m.Written tie s e) (hm : 0 < m.units) : (ofParts s e).isPositive = true := by
  have hlow := h.low
  obtain ⟨t, hle, hpos⟩ := h.exists_isPositive_le hm
  exact Binary64.isPositive_of_le (Binary64.ofParts_le_ofParts (by omega) (h.high (h.ne_zero hm)) hle) hpos

end Written

end Magnitude

end Storefront
