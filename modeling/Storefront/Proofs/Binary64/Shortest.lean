import Mathlib.Tactic.NormNum.Pow
import Storefront.Proofs.Binary64.Decimal

/-!
# Seventeen digits are enough

The search for the shortest decimal never fails: on the grid of seventeen digits the decimal nearest to
a number is near enough to be read as it again. What the search finds is read back also when zeros are
cut off or put behind it.
-/

namespace Storefront

open Binary64 (ofDecimal InWindow decimalRatio decimalRatio_pos decimalRatio_eq)

namespace Magnitude

variable {m : Magnitude} {tie : Tie} {e : Int} {s : Nat}

/-! ## The grid -/

theorem scaled_pos (m : Magnitude) (e : Int) : 0 < (m.scaled e).2 := by
  unfold scaled
  split
  · exact Nat.mul_pos one_pos (Nat.pow_pos (by decide))
  · exact one_pos

theorem scaled_eq (m : Magnitude) (e : Int) :
    ((m.scaled e).1 : ℚ) / (m.scaled e).2 = m.value / (10 : ℚ) ^ e := by
  have hone := one_ne_zero
  unfold scaled value
  split
  · next h =>
    obtain ⟨k, rfl⟩ := Int.eq_ofNat_of_zero_le h
    simp [Nat.pow_eq, div_div]
  · next h =>
    obtain ⟨k, hk⟩ : ∃ k : Nat, e = -k := ⟨(-e).toNat, by omega⟩
    subst hk
    simp [Nat.pow_eq, mul_div_right_comm]

theorem readsBack_iff : m.readsBack e s = true ↔ ofDecimal false s e = .finite false m := by
  rw [readsBack, beq_iff_eq]

/-- What is found on a grid reads back, and is next to the number on it. -/
theorem onGrid?_spec (h : m.onGrid? tie e = some s) :
    m.readsBack e s = true ∧ s ≤ (m.scaled e).1 / (m.scaled e).2 + 1 := by
  have hother : ∀ below nearest : Nat,
      (if nearest = below then below + 1 else below) ≤ below + 1 := by
    intro below nearest
    split <;> omega
  unfold onGrid? at h
  simp only at h
  by_cases hnearest : m.readsBack e (roundDiv tie (m.scaled e).1 (m.scaled e).2) = true
  · rw [if_pos hnearest] at h
    obtain rfl := Option.some.inj h
    exact ⟨hnearest, roundDiv_le _ _ _⟩
  · rw [if_neg hnearest] at h
    have hle := hother ((m.scaled e).1 / (m.scaled e).2)
      (roundDiv tie (m.scaled e).1 (m.scaled e).2)
    generalize (if roundDiv tie (m.scaled e).1 (m.scaled e).2 = (m.scaled e).1 / (m.scaled e).2
      then (m.scaled e).1 / (m.scaled e).2 + 1 else (m.scaled e).1 / (m.scaled e).2) = other at h hle
    by_cases hreads : m.readsBack e other = true
    · rw [if_pos hreads] at h
      obtain rfl := Option.some.inj h
      exact ⟨hreads, hle⟩
    · rw [if_neg hreads] at h
      cases h

/-- If the nearest decimal of a grid reads back, it is the one that is found. -/
theorem onGrid?_eq (h : m.readsBack e (roundDiv tie (m.scaled e).1 (m.scaled e).2) = true) :
    m.onGrid? tie e = some (roundDiv tie (m.scaled e).1 (m.scaled e).2) := by
  unfold onGrid?
  simp only
  rw [if_pos h]

theorem ne_zero_of_readsBack (hm : 0 < m.units) (h : m.readsBack e s = true) : s ≠ 0 := by
  rintro rfl
  have hzero := readsBack_iff.1 h
  rw [ofDecimal, if_pos rfl, Binary64.zero] at hzero
  cases hzero
  exact absurd hm (by decide)

/-! ## The range of orders -/

/-- What the bounds of binary64 numbers are in powers of ten. -/
theorem two_pow_93_lt : (2 : ℚ) ^ 93 < 10 ^ 28 := by norm_num

theorem one_eq : (one : ℚ) = 2 ^ fractionBits := by
  rw [one, Nat.pow_eq, Nat.cast_pow, Nat.cast_ofNat]

theorem value_lt (m : Magnitude) : m.value < (10 : ℚ) ^ ((309 : ℕ) : ℤ) := by
  have hunits : (m.units : ℚ) < 2 ^ 1024 * 2 ^ fractionBits := by
    have h : m.units < 2 ^ (1024 + fractionBits) := by
      have h := m.bounded
      rwa [limit, Nat.pow_eq] at h
    rw [← pow_add]
    exact_mod_cast h
  have hten : (2 : ℚ) ^ 1024 < 10 ^ 309 := by
    calc (2 : ℚ) ^ 1024 = (2 ^ 93) ^ 11 * 2 := by rw [← pow_mul, ← pow_succ]
      _ < (10 ^ 28) ^ 11 * 10 := by
        have h := pow_lt_pow_left₀ two_pow_93_lt (by positivity) (n := 11) (by decide)
        linarith
      _ = 10 ^ 309 := by rw [← pow_mul, ← pow_succ]
  rw [value, one_eq, div_lt_iff₀ (by positivity), zpow_natCast]
  exact lt_trans hunits (mul_lt_mul_of_pos_right hten (by positivity))

theorem lt_value (hm : 0 < m.units) : (10 : ℚ) ^ (-((324 : ℕ) : ℤ)) < m.value := by
  have hunits : (1 : ℚ) ≤ m.units := by exact_mod_cast hm
  have hten : (2 : ℚ) ^ fractionBits < 10 ^ 324 := by
    calc (2 : ℚ) ^ fractionBits = (2 ^ 93) ^ 11 * 2 ^ 51 := by
          rw [← pow_mul, ← pow_add]
          unfold fractionBits
          rfl
      _ < (10 ^ 28) ^ 11 * 10 ^ 16 := by
        have h := pow_lt_pow_left₀ two_pow_93_lt (by positivity) (n := 11) (by decide)
        have h' : (2 : ℚ) ^ 51 < 10 ^ 16 := by norm_num
        exact mul_lt_mul'' h h' (by positivity) (by positivity)
      _ = 10 ^ 324 := by rw [← pow_mul, ← pow_add]
  rw [value, one_eq, lt_div_iff₀ (by positivity), zpow_neg, zpow_natCast]
  refine lt_of_lt_of_le ?_ hunits
  rw [inv_mul_lt_iff₀ (by positivity), mul_one]
  exact hten

theorem order_bounds (hm : 0 < m.units) :
    -323 ≤ decimalOrder m.units one ∧ decimalOrder m.units one ≤ 309 := by
  obtain ⟨hlow, hhigh⟩ := decimalOrder_spec hm one_pos
  change (10 : ℚ) ^ _ ≤ m.value at hlow
  change m.value < (10 : ℚ) ^ _ at hhigh
  constructor
  · have h := (zpow_lt_zpow_iff_right₀ (by norm_num : (1 : ℚ) < 10)).1
      (lt_trans (lt_value hm) hhigh)
    omega
  · have h := (zpow_lt_zpow_iff_right₀ (by norm_num : (1 : ℚ) < 10)).1
      (lt_of_le_of_lt hlow m.value_lt)
    omega

/-! ## Seventeen digits -/

/-- On every grid the nearest decimal is within half a step of a number. -/
theorem roundDiv_scaled_near (m : Magnitude) (tie : Tie) (e : Int) :
    2 * m.value ≤ 2 * (roundDiv tie (m.scaled e).1 (m.scaled e).2 * 10 ^ e) + 10 ^ e ∧
      2 * (roundDiv tie (m.scaled e).1 (m.scaled e).2 * 10 ^ e) ≤ 2 * m.value + 10 ^ e := by
  have hgrid := m.scaled_eq e
  have hpos := m.scaled_pos e
  obtain ⟨hnear₁, hnear₂⟩ := roundDiv_near tie (m.scaled e).1 hpos
  generalize roundDiv tie (m.scaled e).1 (m.scaled e).2 = s at hnear₁ hnear₂ ⊢
  generalize (m.scaled e).1 = n at *
  generalize (m.scaled e).2 = d at *
  have hstep : (0 : ℚ) < 10 ^ e := by positivity
  generalize (10 : ℚ) ^ e = g at *
  have hdq : (0 : ℚ) < d := by exact_mod_cast hpos
  have hnq : (n : ℚ) = m.value / g * d := by rw [← hgrid, div_mul_cancel₀ _ hdq.ne']
  have hnear₁' : 2 * (n : ℚ) ≤ 2 * (s * d) + d := by exact_mod_cast hnear₁
  have hnear₂' : 2 * ((s : ℚ) * d) ≤ 2 * n + d := by exact_mod_cast hnear₂
  have hcancel : m.value / g * g = m.value := div_mul_cancel₀ _ hstep.ne'
  rw [hnq] at hnear₁' hnear₂'
  constructor
  · have h : 2 * (m.value / g) ≤ 2 * s + 1 := by
      refine le_of_mul_le_mul_right ?_ hdq
      linarith
    have h' := mul_le_mul_of_nonneg_right h hstep.le
    linarith
  · have h : 2 * (s : ℚ) ≤ 2 * (m.value / g) + 1 := by
      refine le_of_mul_le_mul_right ?_ hdq
      linarith
    have h' := mul_le_mul_of_nonneg_right h hstep.le
    linarith

/-- On the grid of seventeen digits a number is at least 10^16 steps away from zero. -/
theorem steps_le_value (hm : 0 < m.units) :
    (10 : ℚ) ^ 16 * 10 ^ (decimalOrder m.units one - 17) ≤ m.value := by
  obtain ⟨hlow, -⟩ := decimalOrder_spec hm one_pos
  change (10 : ℚ) ^ _ ≤ m.value at hlow
  rw [show decimalOrder m.units one - 17 = decimalOrder m.units one - 1 - 16 by ring,
    zpow_sub₀ (by norm_num)]
  calc (10 : ℚ) ^ 16 * (10 ^ (decimalOrder m.units one - 1) / 10 ^ (16 : Int))
      = 10 ^ (decimalOrder m.units one - 1) := by
        rw [mul_div_assoc', mul_div_right_comm]
        norm_num
    _ ≤ m.value := hlow

/-- A decimal whose distance from a number is at most one part in 2 * 10^16 of it reads back. -/
theorem readsBack_of_close (hwindow : InWindow s e)
    (hbelow : (19999999999999999 : ℚ) * m.value ≤ 20000000000000000 * (s * 10 ^ e))
    (habove : (20000000000000000 : ℚ) * (s * 10 ^ e) ≤ 20000000000000001 * m.value) :
    m.readsBack e s = true := by
  rw [readsBack_iff, Binary64.ofDecimal_eq_ofRatio hwindow, Binary64.ofRatio,
    Binary64.ofUnits_eq_finite_iff]
  have hratio := decimalRatio_eq s e
  have hratio0 := decimalRatio_pos s e
  generalize (decimalRatio s e).1 = a at *
  generalize (decimalRatio s e).2 = b at *
  have hbq : (0 : ℚ) < b := by exact_mod_cast hratio0
  have haq : (a : ℚ) = s * 10 ^ e * b := by rw [← hratio, div_mul_cancel₀ _ hbq.ne']
  have honeq : (0 : ℚ) < one := by exact_mod_cast one_pos
  have hunits : (m.units : ℚ) = m.value * one := by
    rw [value, div_mul_cancel₀ _ one_ne_zero]
  have hscale : 0 < (b : ℚ) * one := mul_pos hbq honeq
  apply rounded_eq_of_close m.precise hratio0
  · have h := mul_le_mul_of_nonneg_right hbelow hscale.le
    have hcast : (19999999999999999 : ℚ) * (m.units * b) ≤ 20000000000000000 * (a * one) := by
      rw [hunits, haq]
      linarith
    exact_mod_cast hcast
  · have h := mul_le_mul_of_nonneg_right habove hscale.le
    have hcast : (20000000000000000 : ℚ) * (a * one) ≤ 20000000000000001 * (m.units * b) := by
      rw [hunits, haq]
      linarith
    exact_mod_cast hcast

/-- On the grid of seventeen digits the nearest decimal reads back. -/
theorem readsBack_nearest (hm : 0 < m.units) (tie : Tie) :
    m.readsBack (decimalOrder m.units one - 17)
      (roundDiv tie (m.scaled (decimalOrder m.units one - 17)).1
        (m.scaled (decimalOrder m.units one - 17)).2) = true := by
  obtain ⟨horder₁, horder₂⟩ := order_bounds hm
  have hlarge := steps_le_value hm
  obtain ⟨hclose₁, hclose₂⟩ := m.roundDiv_scaled_near tie (decimalOrder m.units one - 17)
  have hstep : (0 : ℚ) < 10 ^ (decimalOrder m.units one - 17) := by positivity
  generalize roundDiv tie (m.scaled (decimalOrder m.units one - 17)).1
    (m.scaled (decimalOrder m.units one - 17)).2 = s at hclose₁ hclose₂ ⊢
  have hs : s ≠ 0 := by
    rintro rfl
    rw [Nat.cast_zero, zero_mul] at hclose₁
    linarith
  have hwindow : InWindow s (decimalOrder m.units one - 17) :=
    ⟨hs, by omega, by have := Text.length_digits_pos s; omega⟩
  exact readsBack_of_close hwindow (by linarith) (by linarith)

/-! ## What the search finds -/

/-- A decimal as which a number may be written, perhaps with zeros cut off or with one put behind the point. -/
structure Written (m : Magnitude) (tie : Tie) (s : Nat) (e : Int) : Prop where
  significand_le : s ≤ 10 ^ 17
  low : -340 ≤ e
  /-- It reads back. -/
  reads : ofDecimal false s e = .finite false m
  zero : m.units = 0 → s = 0
  /-- If it takes seventeen digits, it is the nearest of them. -/
  near : e ≠ -1 → 10 ^ 16 < s →
    2 * m.value ≤ 2 * ((s : ℚ) * 10 ^ e) + 10 ^ e ∧ 2 * ((s : ℚ) * 10 ^ e) ≤ 2 * m.value + 10 ^ e
  /-- It has no more places than it takes. -/
  fewest : ∀ i < 17, (m.onGrid? tie (decimalOrder m.units one - (i + 1 : Nat))).isSome = true →
    min (decimalOrder m.units one - (i + 1 : Nat)) (-1) ≤ e

/-- One place is never too many. -/
theorem written_neg_one (hle : s ≤ 10 ^ 17) (h : ofDecimal false s (-1) = .finite false m)
    (hzero : m.units = 0 → s = 0) : m.Written tie s (-1) where
  significand_le := hle
  low := by decide
  reads := h
  zero := hzero
  near := fun hne => absurd rfl hne
  fewest := fun _ _ _ => Int.min_le_right _ _

/-- The first number that is not passed over is no greater than any other that is not. -/
theorem le_of_findSome?_range {α : Type} {f : Nat → Option α} {count : Nat} {a : α}
    (h : (List.range count).findSome? f = some a) :
    ∃ i < count, f i = some a ∧ ∀ j < count, (f j).isSome = true → i ≤ j := by
  obtain ⟨before, i, after, hrange, hi, hbefore⟩ := List.findSome?_eq_some_iff.1 h
  have hmem : ∀ j, j < count ↔ j ∈ before ++ i :: after := by
    intro j
    rw [← hrange, List.mem_range]
  refine ⟨i, (hmem i).2 (List.mem_append_right _ List.mem_cons_self), hi, fun j hj hsome => ?_⟩
  have hsorted : (before ++ i :: after).Pairwise (· < ·) := hrange ▸ List.pairwise_lt_range
  rcases List.mem_append.1 ((hmem j).1 hj) with hj | hj
  · rw [hbefore j hj] at hsome
    cases hsome
  · rcases List.mem_cons.1 hj with rfl | hj
    · exact Nat.le_refl _
    · exact Nat.le_of_lt ((List.pairwise_cons.1 (List.pairwise_append.1 hsorted).2.1).1 j hj)

/-- What is found on the grid of seventeen digits is the nearest of them. -/
theorem near_of_onGrid? (hm : 0 < m.units) (h : m.onGrid? tie (decimalOrder m.units one - 17) = some s) :
    2 * m.value ≤ 2 * ((s : ℚ) * 10 ^ (decimalOrder m.units one - 17)) + 10 ^ (decimalOrder m.units one - 17) ∧
      2 * ((s : ℚ) * 10 ^ (decimalOrder m.units one - 17)) ≤
        2 * m.value + 10 ^ (decimalOrder m.units one - 17) := by
  rw [onGrid?_eq (readsBack_nearest hm tie)] at h
  obtain rfl := Option.some.inj h
  exact m.roundDiv_scaled_near tie _

/-- On the grid of so many digits there are no more digits than that, but for the power of ten above them. -/
theorem le_pow_of_onGrid? (hm : 0 < m.units) {i : Nat}
    (h : m.onGrid? tie (decimalOrder m.units one - (i + 1 : Nat)) = some s) : s ≤ 10 ^ (i + 1) := by
  obtain ⟨-, hhigh⟩ := decimalOrder_spec hm one_pos
  change m.value < (10 : ℚ) ^ _ at hhigh
  obtain ⟨-, hle⟩ := onGrid?_spec h
  have hpos := m.scaled_pos (decimalOrder m.units one - (i + 1 : Nat))
  have heq := m.scaled_eq (decimalOrder m.units one - (i + 1 : Nat))
  have hposq : (0 : ℚ) < (m.scaled (decimalOrder m.units one - (i + 1 : Nat))).2 := by exact_mod_cast hpos
  have hvalue : m.value / (10 : ℚ) ^ (decimalOrder m.units one - (i + 1 : Nat)) < (10 : ℚ) ^ (i + 1) := by
    rw [div_lt_iff₀ (by positivity), ← zpow_natCast, ← zpow_add₀ (by norm_num)]
    rwa [add_sub_cancel]
  rw [← heq, div_lt_iff₀ hposq] at hvalue
  have hlt : (m.scaled (decimalOrder m.units one - (i + 1 : Nat))).1 /
      (m.scaled (decimalOrder m.units one - (i + 1 : Nat))).2 < 10 ^ (i + 1) := by
    rw [Nat.div_lt_iff_lt_mul hpos]
    exact_mod_cast hvalue
  omega

/-- The search for the shortest decimal finds one. -/
theorem shortest_eq (hm : 0 < m.units) (tie : Tie) :
    ∃ s e, m.shortest tie = significantOf s e ∧ s ≠ 0 ∧ e ≤ 308 ∧ m.Written tie s e := by
  obtain ⟨horder₁, horder₂⟩ := order_bounds hm
  have hsome : ((List.range 17).findSome? fun (i : Nat) =>
      (m.onGrid? tie (decimalOrder m.units one - (i + 1 : Nat))).map
        (significantOf · (decimalOrder m.units one - (i + 1 : Nat)))).isSome = true := by
    rw [List.findSome?_isSome_iff]
    refine ⟨16, by decide, ?_⟩
    rw [Option.isSome_map]
    exact Option.isSome_iff_exists.2 ⟨_, onGrid?_eq (readsBack_nearest hm tie)⟩
  obtain ⟨found, hfound⟩ := Option.isSome_iff_exists.1 hsome
  obtain ⟨i, hi17, hgrid, hfirst⟩ := le_of_findSome?_range hfound
  obtain ⟨s, hs, rfl⟩ := Option.map_eq_some_iff.1 hgrid
  obtain ⟨hreads, -⟩ := onGrid?_spec hs
  have hpow := le_pow_of_onGrid? hm hs
  refine ⟨s, decimalOrder m.units one - (i + 1 : Nat), ?_, ne_zero_of_readsBack hm hreads, by omega, ?_⟩
  · simp only [shortest, hfound, Option.getD_some]
  refine
    { significand_le := Nat.le_trans hpow (Nat.pow_le_pow_right (by decide) (by omega))
      low := by omega
      reads := readsBack_iff.1 hreads
      zero := fun hzero => absurd hm (by omega)
      near := fun _ hlarge => ?_
      fewest := fun j hj hother => ?_ }
  · -- fewer than seventeen digits do not reach so far
    have hi : i = 16 := by
      by_contra hne
      exact absurd (Nat.le_trans hpow (Nat.pow_le_pow_right (n := 10) (by decide) (by omega : i + 1 ≤ 16)))
        (Nat.not_le.2 hlarge)
    subst hi
    exact near_of_onGrid? hm hs
  · have hle : i ≤ j := hfirst j hj (by rwa [Option.isSome_map])
    omega

/-! ## Zeros at the end -/

/-- Cutting zeros off a decimal and putting others behind it does not change what it is read as. -/
theorem ofDecimal_zeros {k zeros : Nat} (hs : InWindow (10 ^ k * s) e) (ht : InWindow (10 ^ zeros * s) (e + k - zeros)) :
    ofDecimal false (10 ^ zeros * s) (e + k - zeros) = ofDecimal false (10 ^ k * s) e := by
  refine Binary64.ofDecimal_congr ht hs ?_
  push_cast
  rw [zpow_sub₀ (by norm_num), zpow_add₀ (by norm_num), zpow_natCast, zpow_natCast]
  field_simp

/-- What was written may do without its zeros. -/
theorem Written.cut {k : Nat} (h : m.Written tie (10 ^ k * s) e)
    (hreads : ofDecimal false s (e + k) = .finite false m) : m.Written tie s (e + k) := by
  have hlow := h.low
  have hbound := h.significand_le
  refine ⟨Nat.le_trans (Nat.le_mul_of_pos_left s (Nat.pow_pos (by decide))) hbound, by omega, hreads, fun hzero => ?_,
    fun hpoint hlarge => ?_, fun i hi hsome => ?_⟩
  · exact (Nat.mul_eq_zero.1 (h.zero hzero)).resolve_left (Nat.pow_pos (by decide)).ne'
  · -- of so many digits none was cut off
    have hk : k = 0 := by
      by_contra hne
      have hten : 10 ^ 1 ≤ 10 ^ k := Nat.pow_le_pow_right (by decide) (Nat.pos_of_ne_zero hne)
      have hmul : 10 ^ 1 * s ≤ 10 ^ k * s := Nat.mul_le_mul_right s hten
      omega
    subst hk
    rw [Nat.pow_zero, Nat.one_mul] at h
    rw [Int.natCast_zero, Int.add_zero] at hpoint ⊢
    exact h.near hpoint hlarge
  · have hfewest := h.fewest i hi hsome
    omega

end Magnitude

/-- What the digits of a number tell a reader. -/
structure Significant.Tells (s : Significant) (m : Magnitude) (tie : Tie) : Prop where
  ne_nil : s.digits ≠ []
  all_isDigit : s.digits.all Text.isDigit = true
  head_ne_zero : s.digits.head? ≠ some '0'
  low : -340 ≤ s.point - s.digits.length
  high : s.point ≤ 326
  written : m.Written tie (Nat.ofDigitChars 10 s.digits 0) (s.point - s.digits.length)
  /-- They read back also with zeros put behind them. -/
  reads : ∀ zeros : Nat, zeros ≤ 50 →
    ofDecimal false (Nat.ofDigitChars 10 (s.digits ++ List.replicate zeros '0') 0)
      (s.point - s.digits.length - zeros) = .finite false m

namespace Significant

/-- Cutting zeros off a decimal does not change what it is read as. -/
theorem tells_significantOf {m : Magnitude} {tie : Tie} {s : Nat} {e : Int} (hs : s ≠ 0) (hhigh : e ≤ 308)
    (h : m.Written tie s e) : (Magnitude.significantOf s e).Tells m tie := by
  obtain ⟨k, hk⟩ := Text.exists_stripped (Text.digits s)
  have hpos : 0 < s := Nat.pos_of_ne_zero hs
  have hlow := h.low
  have hlen : (Text.digits s).length ≤ 18 :=
    (Text.length_digits_le_iff (by decide)).2 (Nat.lt_of_le_of_lt h.significand_le (by decide))
  simp only [Magnitude.significantOf]
  generalize ((Text.digits s).reverse.dropWhile (· = '0')).reverse = ds at hk
  have hcount : (Text.digits s).length = ds.length + k := by
    rw [hk, List.length_append, List.length_replicate]
  have hvalue : s = 10 ^ k * Nat.ofDigitChars 10 ds 0 := by
    have hread : Nat.ofDigitChars 10 (Text.digits s) 0 = s := Nat.ofDigitChars_ten_toDigits
    rw [hk, Nat.ofDigitChars_append, Nat.ofDigitChars_replicate_zero] at hread
    exact hread.symm
  have hcut : Nat.ofDigitChars 10 ds 0 ≠ 0 := by
    intro hzero
    rw [hzero, Nat.mul_zero] at hvalue
    exact hs hvalue
  have hds : ds ≠ [] := by
    rintro rfl
    exact hcut Nat.ofDigitChars_nil
  have hexponent : ((Text.digits s).length : Int) + e - ds.length = e + k := by omega
  have hreads : ∀ zeros : Nat, zeros ≤ 50 →
      ofDecimal false (Nat.ofDigitChars 10 (ds ++ List.replicate zeros '0') 0)
        (((Text.digits s).length : Int) + e - ds.length - zeros) = .finite false m := by
    intro zeros hzeros
    have hne : 10 ^ zeros * Nat.ofDigitChars 10 ds 0 ≠ 0 := Nat.mul_ne_zero (Nat.pow_pos (by decide)).ne' hcut
    rw [hexponent, Nat.ofDigitChars_append, Nat.ofDigitChars_replicate_zero, ← h.reads, hvalue]
    exact Magnitude.ofDecimal_zeros ⟨hvalue ▸ hs, by omega, by omega⟩ ⟨hne, by omega, by omega⟩
  have hwritten : m.Written tie (Nat.ofDigitChars 10 ds 0) (((Text.digits s).length : Int) + e - ds.length) := by
    have hread := hreads 0 (by decide)
    rw [List.replicate_zero, List.append_nil, Int.natCast_zero, Int.sub_zero] at hread
    rw [hexponent] at hread ⊢
    rw [hvalue] at h
    exact h.cut hread
  refine ⟨hds, ?_, ?_, ?_, ?_, hwritten, hreads⟩
  · have hall := Text.all_isDigit_digits s
    rw [hk, List.all_append, Bool.and_eq_true] at hall
    exact hall.1
  · intro hhead
    obtain ⟨rest, rfl⟩ : ∃ rest, ds = '0' :: rest := by
      cases ds with
      | nil => cases hhead
      | cons c rest =>
        cases hhead
        exact ⟨rest, rfl⟩
    have hnil := Text.eq_nil_of_digits_eq_zero_cons (hk.trans (List.cons_append ..))
    obtain ⟨rfl, -⟩ := List.append_eq_nil_iff.1 hnil
    exact hs (hvalue.trans (Nat.mul_zero (10 ^ k)))
  · show -340 ≤ ((Text.digits s).length : Int) + e - ds.length
    omega
  · show ((Text.digits s).length : Int) + e ≤ 326
    omega

theorem tells_shortest {m : Magnitude} (hm : 0 < m.units) (tie : Tie) : (m.shortest tie).Tells m tie := by
  obtain ⟨s, e, heq, hs, hhigh, hwritten⟩ := Magnitude.shortest_eq hm tie
  rw [heq]
  exact tells_significantOf hs hhigh hwritten

end Significant

end Storefront
