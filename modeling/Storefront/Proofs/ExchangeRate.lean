import Storefront.Order
import Storefront.Proofs.Binary64.Order
import Storefront.Proofs.Money.Dollars

/-!
# Conversion keeps the order of amounts

An amount is converted in five steps: the integer to a number, to dollars, to coins, to atoms, and to the nearest
whole number of atoms in range. Each step keeps the order of what it is given, and none of them makes anything but
a number of numbers. So at one rate a greater amount is never worth fewer atoms, and at a dearer coin no amount is
worth more of them, up to the infinities and the greatest amount. What is worth more than the greatest amount comes
to this amount or close to it.
-/

namespace Storefront

open Binary64 (signed finite nan keptFraction)

/-! ## Dollars -/

namespace Cents

variable {a b : Cents}

theorem hundred_pos : 0 < 100 * Magnitude.one := Nat.mul_pos (by decide) Magnitude.one_pos

theorem dollars_eq_scale (c : Cents) :
    c.dollars = (Binary64.ofInt c.toInt).scale Magnitude.one (100 * Magnitude.one) := by
  obtain ⟨hundred, hunits, hhundred⟩ := exists_hundred
  rw [dollars, hhundred, ← hunits]
  exact Binary64.div_eq_scale _ (hunits ▸ hundred_pos)

theorem dollars_le_dollars (h : a.toInt ≤ b.toInt) : a.dollars ≤ b.dollars := by
  rw [dollars_eq_scale, dollars_eq_scale]
  exact Binary64.scale_le_scale hundred_pos (Binary64.ofInt_le_ofInt h)

theorem dollars_ne_nan (c : Cents) : c.dollars ≠ nan := by
  rw [dollars_eq_scale]
  exact Binary64.scale_ne_nan (Binary64.ofInt_ne_nan _)

theorem dollars_zero : Cents.zero.dollars = Binary64.zero false := by
  rw [dollars_eq_scale, toInt_zero, Binary64.ofInt_zero, Binary64.scale_zero hundred_pos]

/-- Both steps lose one part in 2^53 at most. -/
theorem atLeast_dollars (h : 0 < a.toInt) : a.dollars.AtLeast (a.toInt / 100 * keptFraction ^ 2) := by
  have hone : (Magnitude.one : ℚ) ≠ 0 := Magnitude.one_ne_zero
  have hhundredth : (Magnitude.one : ℚ) / (100 * Magnitude.one : Nat) = 1 / 100 := by
    rw [Nat.cast_mul, div_mul_cancel_right₀ hone]
    norm_num
  have hcents : (1 : ℚ) ≤ a.toInt := by exact_mod_cast h
  have hkept := Binary64.half_le_keptFraction
  have hscaled := (Binary64.atLeast_ofInt h).scale (n := Magnitude.one) (by positivity) hundred_pos (by
    rw [hhundredth]
    nlinarith)
  rw [← dollars_eq_scale, hhundredth] at hscaled
  exact hscaled.mono (le_of_eq (by ring))

end Cents

/-! ## Atoms -/

theorem Amount.clamp_le_clamp {i j : Int} (h : i ≤ j) : clamp i ≤ clamp j := by
  unfold clamp
  omega

namespace Atoms

theorem toInt_nearest_finite (s : Bool) (m : Magnitude) :
    (nearest (finite s m)).toInt = Amount.clamp (signed s (roundDiv .up m.units Magnitude.one)) :=
  Amount.toInt_saturate _

theorem toInt_nearest_le {x y : Binary64} (h : x ≤ y) : (nearest x).toInt ≤ (nearest y).toInt := by
  have hleast : ∀ z, (nearest (.infinite true)).toInt ≤ (nearest z).toInt := fun z =>
    (Amount.fits_toInt (nearest z).value).1
  have hgreatest : ∀ z, (nearest z).toInt ≤ (nearest (.infinite false)).toInt := fun z =>
    (Amount.fits_toInt (nearest z).value).2
  cases x with
  | nan => exact h.elim
  | infinite s =>
    cases s with
    | true => exact hleast y
    | false =>
      cases y with
      | nan => exact h.elim
      | infinite t =>
        obtain rfl : t = false := h.resolve_left nofun
        exact Int.le_refl _
      | finite t m' => cases h
  | finite s m =>
    cases y with
    | nan => exact h.elim
    | infinite t =>
      obtain rfl : t = false := h
      exact hgreatest _
    | finite t m' =>
      have hone := Magnitude.one_pos
      have hround : ∀ {a b : Nat}, a ≤ b →
          roundDiv .up a Magnitude.one ≤ roundDiv .up b Magnitude.one := fun hle =>
        roundDiv_mono hone hone (Nat.mul_le_mul_right _ hle)
      have hzero : ∀ {a : Nat}, a = 0 → roundDiv .up a Magnitude.one = 0 := by
        rintro _ rfl
        exact roundDiv_zero hone
      rw [toInt_nearest_finite, toInt_nearest_finite]
      exact Amount.clamp_le_clamp
        (Binary64.signed_le_signed (Binary64.finite_le_finite.1 h) hround hround hzero hzero)

theorem le_toInt_nearest {x : Binary64} {k : Nat} (hpos : 0 < k) (hk : (k : Int) ≤ Amount.greatest)
    (h : x.AtLeast k) : (k : Int) ≤ (nearest x).toInt := by
  cases x with
  | nan => exact h.elim
  | infinite s =>
    obtain rfl : s = false := h
    exact hk
  | finite s m =>
    obtain ⟨rfl, hunits⟩ := h.le_units (by exact_mod_cast hpos)
    have hunits : k * Magnitude.one ≤ m.units := by exact_mod_cast hunits
    have hround : roundDiv .up (k * Magnitude.one) Magnitude.one ≤ roundDiv .up m.units Magnitude.one :=
      roundDiv_mono Magnitude.one_pos Magnitude.one_pos (Nat.mul_le_mul_right _ hunits)
    rw [roundDiv_mul _ Magnitude.one_pos] at hround
    rw [toInt_nearest_finite]
    show (k : Int) ≤ Amount.clamp (roundDiv .up m.units Magnitude.one : Nat)
    unfold Amount.clamp Amount.least
    omega

end Atoms

/-! ## Conversion -/

namespace ExchangeRate

variable {rate dearer : Binary64} {a b : Cents} {x y : Binary64}

theorem isUsable_iff : isUsable rate = true ↔ ∃ c : Magnitude, 0 < c.units ∧ rate = finite false c := by
  unfold isUsable
  cases rate with
  | nan => exact ⟨nofun, nofun⟩
  | infinite s => exact ⟨nofun, nofun⟩
  | finite s c => simp [Binary64.isFinite, Binary64.isPositive, Nat.pos_iff_ne_zero, and_comm]

/-- The atoms for a number of coins, before the nearest whole number is taken. -/
theorem coins_eq_scale (x : Binary64) :
    x * Binary64.ofInt atomsPerCoin = x.scale (atomsPerCoin * Magnitude.one) Magnitude.one := by
  obtain ⟨coin, hunits, hcoin⟩ := Binary64.exists_ofInt (k := atomsPerCoin) (by decide)
  have hpos : 0 < coin.units := by
    rw [hunits]
    exact Nat.mul_pos (by decide) Magnitude.one_pos
  rw [hcoin, Binary64.mul_eq_scale x hpos, hunits]

theorem convert_eq (h : isUsable rate = true) (amount : Cents) :
    convert rate amount = Atoms.nearest (amount.dollars / rate * Binary64.ofInt atomsPerCoin) :=
  if_pos h

theorem convert_of_not_isUsable (h : isUsable rate = false) (amount : Cents) :
    convert rate amount = .zero :=
  if_neg (by rw [h]; exact nofun)

theorem toInt_nearest_coins_le (h : x ≤ y) :
    (Atoms.nearest (x * Binary64.ofInt atomsPerCoin)).toInt ≤
      (Atoms.nearest (y * Binary64.ofInt atomsPerCoin)).toInt := by
  rw [coins_eq_scale, coins_eq_scale]
  exact Atoms.toInt_nearest_le (Binary64.scale_le_scale Magnitude.one_pos h)

theorem toInt_convert_le (h : a.toInt ≤ b.toInt) : (convert rate a).toInt ≤ (convert rate b).toInt := by
  cases husable : isUsable rate with
  | false => rw [convert_of_not_isUsable husable, convert_of_not_isUsable husable]
  | true =>
    obtain ⟨c, hc, rfl⟩ := isUsable_iff.1 husable
    rw [convert_eq husable, convert_eq husable]
    apply toInt_nearest_coins_le
    rw [Binary64.div_eq_scale _ hc, Binary64.div_eq_scale _ hc]
    exact Binary64.scale_le_scale hc (Cents.dollars_le_dollars h)

theorem toInt_convert_le_of_le (hrate : isUsable rate = true) (hdearer : isUsable dearer = true)
    (hle : rate ≤ dearer) (ha : 0 ≤ a.toInt) : (convert dearer a).toInt ≤ (convert rate a).toInt := by
  obtain ⟨c, hc, rfl⟩ := isUsable_iff.1 hrate
  obtain ⟨c', hc', rfl⟩ := isUsable_iff.1 hdearer
  have hunits : c.units ≤ c'.units := Int.ofNat_le.1 (Binary64.finite_le_finite.1 hle)
  have hdollars : Binary64.zero false ≤ a.dollars := by
    rw [← Cents.dollars_zero]
    exact Cents.dollars_le_dollars ha
  rw [convert_eq hrate, convert_eq hdearer]
  apply toInt_nearest_coins_le
  rw [Binary64.div_eq_scale _ hc, Binary64.div_eq_scale _ hc']
  exact Binary64.scale_le_scale_of_le hc' hc hdollars (Nat.mul_le_mul_left _ hunits)

theorem convert_zero (rate : Binary64) : convert rate .zero = .zero := by
  cases husable : isUsable rate with
  | false => exact convert_of_not_isUsable husable _
  | true =>
    obtain ⟨c, hc, rfl⟩ := isUsable_iff.1 husable
    rw [convert_eq husable, coins_eq_scale, Binary64.div_eq_scale _ hc, Cents.dollars_zero,
      Binary64.scale_zero hc, Binary64.scale_zero Magnitude.one_pos]
    apply Atoms.ext_toInt
    rw [Binary64.zero, Atoms.toInt_nearest_finite]
    show Amount.clamp (signed false (roundDiv .up 0 Magnitude.one)) = 0
    rw [roundDiv_zero Magnitude.one_pos]
    decide

theorem toInt_convert_nonneg (rate : Binary64) (h : 0 ≤ a.toInt) : 0 ≤ (convert rate a).toInt := by
  have hle : (convert rate .zero).toInt ≤ (convert rate a).toInt := toInt_convert_le h
  rwa [convert_zero] at hle

/-! ## Amounts worth more than any number of atoms -/

variable {q : ℚ} {c : Magnitude}

theorem atLeast_div (h : x.AtLeast q) (hq : 0 < q) (hc : 0 < c.units)
    (hlarge : 1 / 1000 ≤ q / (finite false c).value) :
    (x / finite false c).AtLeast (q / (finite false c).value * keptFraction) := by
  have hvalue : (finite false c).value = (c.units : ℚ) / Magnitude.one := rfl
  rw [hvalue, div_div_eq_mul_div, mul_div_assoc] at hlarge ⊢
  rw [Binary64.div_eq_scale _ hc]
  exact h.scale hq hc hlarge

theorem atLeast_coins (h : x.AtLeast q) (hq : 0 < q) (hlarge : 1 / 1000 ≤ q * 10 ^ 8) :
    (x * Binary64.ofInt atomsPerCoin).AtLeast (q * 10 ^ 8 * keptFraction) := by
  have hcoin : ((atomsPerCoin * Magnitude.one : Nat) : ℚ) / Magnitude.one = 10 ^ 8 := by
    rw [Nat.cast_mul, mul_div_assoc, div_self Magnitude.one_ne_zero, mul_one, atomsPerCoin]
    norm_num
  rw [← hcoin] at hlarge ⊢
  rw [coins_eq_scale]
  exact h.scale hq Magnitude.one_pos hlarge

theorem keptFraction_pow : (9223372036854771711 : ℚ) ≤ 9223372036854775807 * keptFraction ^ 4 := by
  unfold keptFraction
  norm_num

/-- Each of the four steps loses one part in 2^53 at most, so what is worth more than the greatest amount comes
to within 2^12 atoms of it. -/
theorem le_toInt_convert (husable : isUsable rate = true)
    (h : (Amount.greatest : ℚ) < a.toInt * 10 ^ 6 / rate.value) :
    Amount.greatest - 4096 ≤ (convert rate a).toInt := by
  obtain ⟨c, hc, rfl⟩ := isUsable_iff.1 husable
  have hvalue : 0 < (finite false c).value := by
    have hone : (0 : ℚ) < Magnitude.one := by exact_mod_cast Magnitude.one_pos
    exact div_pos (Int.cast_pos.2 (Int.natCast_pos.2 hc)) hone
  have hkept := Binary64.half_le_keptFraction
  have hsquare : 1 / 4 ≤ keptFraction ^ 2 := by nlinarith
  have hcube : 1 / 8 ≤ keptFraction ^ 3 := by nlinarith
  rw [Amount.greatest] at h
  push_cast at h
  have hpos : 0 < a.toInt := by
    by_contra hneg
    have hle : (a.toInt : ℚ) ≤ 0 := by exact_mod_cast Int.not_lt.1 hneg
    have hnone : a.toInt * 10 ^ 6 / (finite false c).value ≤ 0 :=
      div_nonpos_of_nonpos_of_nonneg (by linarith) hvalue.le
    linarith
  have hcents : (0 : ℚ) < a.toInt := by exact_mod_cast hpos
  -- what each step gives is what is exact there times a power of the fraction that is kept
  generalize hworth : a.toInt * 10 ^ 6 / (finite false c).value = worth at h
  have hdollars : a.toInt / 100 * keptFraction ^ 2 / (finite false c).value = worth / 10 ^ 8 * keptFraction ^ 2 := by
    rw [← hworth]
    ring
  have hcoins : (a.dollars / finite false c).AtLeast (worth / 10 ^ 8 * keptFraction ^ 2 * keptFraction) := by
    rw [← hdollars]
    refine atLeast_div (Cents.atLeast_dollars hpos) (by positivity) hc ?_
    rw [hdollars]
    nlinarith
  have hatoms := atLeast_coins hcoins (by positivity) (by nlinarith)
  rw [convert_eq husable]
  refine Atoms.le_toInt_nearest (k := 9223372036854771711) (by decide) (by decide) (hatoms.mono ?_)
  calc ((9223372036854771711 : Nat) : ℚ) ≤ 9223372036854775807 * keptFraction ^ 4 := by
        exact_mod_cast keptFraction_pow
    _ ≤ worth * keptFraction ^ 4 := mul_le_mul_of_nonneg_right h.le (by positivity)
    _ = worth / 10 ^ 8 * keptFraction ^ 2 * keptFraction * 10 ^ 8 * keptFraction := by ring

end ExchangeRate

end Storefront
