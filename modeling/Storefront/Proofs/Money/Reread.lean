import Storefront.Proofs.Json.Numerals
import Storefront.Proofs.Money.Dollars

/-!
# Amounts that were written

An amount is written as a number of dollars. This number comes back within the range of amounts, so every amount
can be read again. Up to 10^15 cents the number is written with two places at the most, which is few enough digits for
it to come back as itself, and so does the amount.
-/

namespace Storefront

open Binary64 (finite ofDecimal ofInt ofParts tenPow)

namespace Magnitude

variable {m m' : Magnitude} {tie : Tie} {s k : Nat} {e : Int}

/-! ## The range of amounts -/

theorem ofInt_div_ten : ofInt (10 ^ 17 : Nat) / tenPow 1 = ofInt (10 ^ 16 : Nat) := by decide +kernel

theorem ofInt_mul_ten : ofInt (9223372036854777 : Nat) * tenPow 1 = ofInt (92233720368547760 : Nat) := by
  decide +kernel

/-- Seventeen digits with a place behind the point are no more than 10^16. -/
theorem Written.ofParts_neg_le (h : m.Written tie s (-k)) (hk : 0 < k) : ofParts s (-k) ≤ ofInt (10 ^ 16 : Nat) := by
  have hlow := h.low
  have hunsigned := Binary64.unsigned_ofInt s
  have hfinite : (ofInt s).isFinite = true := Written.isFinite_ofInt h.significand_le
  have hstep : ofInt s / tenPow 1 ≤ ofInt (10 ^ 16 : Nat) := by
    rw [← ofInt_div_ten]
    exact Binary64.div_tenPow_le_div_tenPow (Binary64.ofInt_le_ofInt (Int.ofNat_le.2 h.significand_le)) (by decide)
  by_cases hnear : k ≤ 308
  · rw [Binary64.ofParts_neg hk hnear]
    exact Binary64.le_trans (Binary64.mul_tenPow_le_of_le hunsigned hk hnear).2 hstep
  · rw [Binary64.ofParts_neg_far (by omega) (by omega)]
    have hten := (Binary64.mul_tenPow_le_of_le hunsigned (k := 308) (by decide : 1 ≤ 308) (Nat.le_refl _)).2
    have hself := Binary64.div_tenPow_le_self hunsigned hfinite (Nat.le_refl 308)
    obtain ⟨a, ha⟩ := (hunsigned.div_tenPow (Nat.le_refl _)).exists_finite hself hfinite
    refine Binary64.le_trans (Binary64.div_tenPow_le_self ?_ ?_ (by omega)) (Binary64.le_trans hten hstep)
    · exact hunsigned.div_tenPow (Nat.le_refl _)
    · rw [ha]
      rfl

/-- The dollars of an amount come back within the range of amounts. -/
theorem Written.units_le (h : m.Written tie s e) (hm : m.units ≤ 92233720368547760 * one)
    (hread : ofParts s e = finite false m') : m'.units ≤ 92233720368547760 * one := by
  have hone := one_pos
  obtain ⟨g, hg, hgreatest⟩ := Binary64.exists_ofInt_of_precise (k := 92233720368547760) (by decide)
    (precise_mul_pow_mul_one (k := 5764607523034235) (j := 4) (by decide))
  suffices hle : ofParts s e ≤ ofInt (92233720368547760 : Nat) by
    rw [hread, hgreatest, Binary64.finite_le_finite] at hle
    rw [← hg]
    exact Int.ofNat_le.1 hle
  by_cases hneg : e < 0
  · obtain ⟨k, rfl⟩ : ∃ k : Nat, e = -k := ⟨(-e).toNat, by omega⟩
    exact Binary64.le_trans (h.ofParts_neg_le (by omega)) (Binary64.ofInt_le_ofInt (by decide))
  obtain ⟨k, rfl⟩ : ∃ k : Nat, e = k := ⟨e.toNat, by omega⟩
  rcases Nat.eq_zero_or_pos s with rfl | hs
  · rw [Binary64.ofParts_zero, hgreatest]
    exact Binary64.finite_le_finite.2 (Int.ofNat_le.2 (Nat.zero_le _))
  -- the next number above the range is sixteen dollars away
  have hless : s * 10 ^ k < 92233720368547776 := by
    have hlt := h.lt_of_precise (u := 5764607523034236 * 2 ^ 4 * one) (precise_mul_pow_mul_one (by decide)) (by omega)
    exact Nat.lt_of_mul_lt_mul_right (hlt.trans_le (Nat.le_refl _))
  have hwhole : ∀ {t : Nat}, t ≤ 9223372036854777 → ofInt t * tenPow 1 ≤ ofInt (92233720368547760 : Nat) := fun ht => by
    rw [← ofInt_mul_ten]
    exact Binary64.mul_tenPow_le_mul_tenPow (Binary64.ofInt_le_ofInt (Int.ofNat_le.2 ht)) (by decide)
  have hback : finite false m ≤ ofInt (92233720368547760 : Nat) := by
    rw [hgreatest]
    exact Binary64.finite_le_finite.2 (Int.ofNat_le.2 (hg ▸ hm))
  rcases k with - | - | k
  · have hint : ofInt s = finite false m := Binary64.ofUnits_eq_finite (by simpa using h.rounded_natCast hs.ne')
    rwa [Binary64.ofParts_natCast_zero (hint ▸ rfl), hint]
  · rw [Binary64.ofParts_natCast (by decide)]
    exact hwhole (by omega)
  · have hk : k < 15 := by
      by_contra hge
      have hpow : 10 ^ 17 ≤ 10 ^ (k + 1 + 1) := Nat.pow_le_pow_right (by decide) (by omega)
      have hmul := Nat.le_mul_of_pos_left (10 ^ (k + 1 + 1)) hs
      omega
    have hhundred : s * 100 ≤ s * 10 ^ (k + 1 + 1) :=
      Nat.mul_le_mul_left s (Nat.pow_le_pow_right (n := 10) (by decide) (by omega : 2 ≤ k + 1 + 1))
    have hsmall : s ≤ greatestSignificand := by
      unfold greatestSignificand
      omega
    rwa [Binary64.ofParts_eq_ofDecimal hsmall (by omega) (by omega), h.reads]

/-! ## Two places -/

/-- Between a cent and ten trillion dollars there are no more than fifteen digits before the third place. -/
theorem order_of_cents (hlow : one ≤ 100 * m.units) (hhigh : m.units ≤ 10000000000000 * one) :
    -1 ≤ decimalOrder m.units one ∧ decimalOrder m.units one ≤ 14 := by
  have hone := one_pos
  have honeq : (0 : ℚ) < one := by exact_mod_cast hone
  obtain ⟨hbelow, habove⟩ := decimalOrder_spec (n := m.units) (by omega) hone
  have hten : (1 : ℚ) < 10 := by norm_num
  constructor
  · have hcent : (10 : ℚ) ^ (-2 : Int) ≤ m.units / one := by
      rw [le_div_iff₀ honeq]
      have hcast : (one : ℚ) ≤ 100 * m.units := by exact_mod_cast hlow
      norm_num
      linarith
    have hlt := (zpow_lt_zpow_iff_right₀ hten).1 (lt_of_le_of_lt hcent habove)
    omega
  · have htop : (m.units : ℚ) / one ≤ 10 ^ (13 : Int) := by
      rw [div_le_iff₀ honeq]
      have hcast : (m.units : ℚ) ≤ 10000000000000 * one := by exact_mod_cast hhigh
      norm_num
      linarith
    have hle := (zpow_le_zpow_iff_right₀ hten).1 (le_trans hbelow htop)
    omega

/-- Where the nearest decimal of two places reads back, no more places are written. -/
theorem Written.places_le (h : m.Written tie s e) (hlow : one ≤ 100 * m.units)
    (hhigh : m.units ≤ 10000000000000 * one)
    (hreads : m.readsBack (-2) (roundDiv tie (m.scaled (-2)).1 (m.scaled (-2)).2) = true) : -2 ≤ e := by
  obtain ⟨horder₁, horder₂⟩ := order_of_cents hlow hhigh
  obtain ⟨i, hi⟩ : ∃ i : Nat, decimalOrder m.units one - (i + 1 : Nat) = -2 :=
    ⟨(decimalOrder m.units one + 1).toNat, by omega⟩
  have hfewest := h.fewest i (by omega) (by rw [hi, onGrid?_eq hreads]; rfl)
  omega

/-- A decimal of two places within ten trillion dollars has few digits. -/
theorem Written.significand_le_of_places (h : m.Written tie s e) (hs : s ≠ 0) (hhigh : m.units ≤ 10000000000000 * one)
    (hplaces : -2 ≤ e) : s ≤ greatestSignificand ∧ e ≤ 22 := by
  have hone := one_pos
  have hprecise : Precise (10000000000001 * one) := precise_mul_one (by decide)
  unfold greatestSignificand
  by_cases hneg : e < 0
  · obtain ⟨k, rfl⟩ : ∃ k : Nat, e = -k := ⟨(-e).toNat, by omega⟩
    have hlt := h.lt_of_precise_neg (by omega) hprecise (by omega)
    rw [Nat.mul_right_comm] at hlt
    have hless := Nat.lt_of_mul_lt_mul_right hlt
    have hpow : 10 ^ k ≤ 10 ^ 2 := Nat.pow_le_pow_right (by decide) (by omega)
    omega
  · obtain ⟨k, rfl⟩ : ∃ k : Nat, e = k := ⟨e.toNat, by omega⟩
    have hless := Nat.lt_of_mul_lt_mul_right (h.lt_of_precise hprecise (by omega))
    have hself := Nat.le_mul_of_pos_right s (Nat.pow_pos (n := k) (by decide : 0 < 10))
    refine ⟨by omega, ?_⟩
    by_contra hfar
    have hpow : 10 ^ 22 ≤ 10 ^ k := Nat.pow_le_pow_right (by decide) (by omega)
    have hmul := Nat.le_mul_of_pos_left (10 ^ k) (Nat.pos_of_ne_zero hs)
    omega

end Magnitude

namespace Cents

open Magnitude (one rounded)

/-- From one cent to 10^15 cents the decimal of two places that reads back is the number of cents. -/
theorem readsBack_of_rounded {d : Magnitude} {k : Nat} (hpos : 0 < k) (hk : k ≤ 1000000000000000)
    (hd : d.units = rounded (k * one) 100) (tie : Tie) :
    d.readsBack (-2) (roundDiv tie (d.scaled (-2)).1 (d.scaled (-2)).2) = true := by
  have hcent : 2 ^ 60 ≤ one := Magnitude.two_pow_le_one (by decide)
  have hle : one ≤ k * one := Nat.le_mul_of_pos_left one hpos
  have hmul : k * one ≤ 1000000000000000 * one := Nat.mul_le_mul_right one hk
  obtain ⟨hd₁, hd₂⟩ := Magnitude.rounded_near (n := k * one) (d := 100) (by decide) (by omega)
  rw [← hd] at hd₁ hd₂
  have hround : roundDiv tie (d.units * 100) one = k :=
    roundDiv_eq_of_near Magnitude.one_pos (by omega) (by omega)
  have hscaled : d.scaled (-2) = (d.units * 100, one) := rfl
  rw [hscaled, hround, Magnitude.readsBack_iff]
  have hlen := Text.length_digits_pos k
  rw [Binary64.ofDecimal_eq_ofRatio ⟨hpos.ne', by decide, by omega⟩]
  exact Binary64.ofUnits_eq_finite hd.symm

/-- The dollars of up to 10^15 cents come back as they were. -/
theorem dollars_reread {c : Cents} (h : c.toInt.natAbs ≤ 1000000000000000) : c.dollars.reread = c.dollars := by
  obtain ⟨d, hdollars, hd, -⟩ := c.exists_dollars
  rw [rounded_natAbs h] at hd
  rw [hdollars]
  rcases Nat.eq_zero_or_pos c.toInt.natAbs with hzero | hpos
  · rw [hzero, Nat.zero_mul, Magnitude.rounded_zero (by decide)] at hd
    rw [Magnitude.ext_units (b := .zero) hd]
    exact Binary64.reread_zero _
  obtain ⟨-, hwritten, -, -, -⟩ := Binary64.exists_reread (c.toInt < 0) d
  have hone := Magnitude.one_pos
  have hlow : one ≤ 100 * d.units := by
    have hmono : rounded (1 * one) 100 ≤ rounded (c.toInt.natAbs * one) 100 :=
      Magnitude.rounded_mono (by decide) (by decide) (Nat.mul_le_mul_right 100 (Nat.mul_le_mul_right one hpos))
    have hcheck : one ≤ 100 * rounded (1 * one) 100 := by decide +kernel
    omega
  have hhigh : d.units ≤ 10000000000000 * one := by
    have hprecise : Magnitude.Precise (10000000000000 * one) := Magnitude.precise_mul_one (by decide)
    rw [hd, ← Magnitude.rounded_mul hprecise (d := 100) (by decide)]
    have hmul : c.toInt.natAbs * one ≤ 1000000000000000 * one := Nat.mul_le_mul_right one h
    exact Magnitude.rounded_mono (by decide) (by decide) (by omega)
  have hplaces := hwritten.places_le hlow hhigh (readsBack_of_rounded hpos h hd .even)
  obtain ⟨hs, he⟩ := hwritten.significand_le_of_places (hwritten.ne_zero (by omega)) hhigh hplaces
  exact Binary64.reread_eq hs (by omega) he

/-- What comes back of an amount that is written in dollars. -/
def reread (c : Cents) : Cents := (ofDollars c.dollars.reread).toOption.getD c

/-- Every amount can be read again. -/
theorem ofDollars_reread (c : Cents) : ofDollars c.dollars.reread = .ok c.reread := by
  obtain ⟨d, hdollars, -, hle⟩ := c.exists_dollars
  obtain ⟨d', hwritten, hparts, -, hread⟩ := Binary64.exists_reread (c.toInt < 0) d
  have hok := ofDollars_finite (decide (c.toInt < 0)) (hwritten.units_le hle hparts)
  rw [← hread, ← hdollars] at hok
  rw [reread, hok]
  rfl

/-- Up to 10^15 cents an amount comes back as it was. -/
theorem reread_eq {c : Cents} (h : c.toInt.natAbs ≤ 1000000000000000) : c.reread = c := by
  rw [reread, dollars_reread h, ofDollars_dollars_eq h]
  rfl

end Cents

end Storefront
