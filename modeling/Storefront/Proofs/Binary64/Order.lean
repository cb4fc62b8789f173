import Storefront.Proofs.Binary64.Decimal

/-!
# The order of numbers

Binary64 numbers lie among the rational numbers, with an infinity at each end; what is no number lies nowhere.
Rounding keeps the order, so every operation that is exact up to one rounding keeps it too: to multiply by a
positive number or to divide by one is to multiply by an exact quotient and to round once, and neither gives
anything but numbers. A lower bound of a number that is not tiny is kept by each step but for one part in 2^53.
-/

namespace Storefront

namespace Binary64

/-- A size with a sign. -/
def signed (negative : Bool) (n : Nat) : Int := if negative then -n else n

/-- The exact value of a finite number. Infinities and what is no number have none; theirs counts as zero. -/
def value : Binary64 → ℚ
  | finite negative m => signed negative m.units / Magnitude.one
  | _ => 0

/-- Numbers are ordered by value, with the infinities at the ends. What is no number is in no order, not even
with itself. -/
protected def Le : Binary64 → Binary64 → Prop
  | nan, _ | _, nan => False
  | infinite s, infinite t => s = true ∨ t = false
  | infinite s, finite _ _ => s = true
  | finite _ _, infinite t => t = false
  | finite s m, finite t n => value (finite s m) ≤ value (finite t n)

instance : LE Binary64 := ⟨Binary64.Le⟩

variable {x y : Binary64} {s t : Bool} {m m' c : Magnitude} {n d n' d' a b : Nat}

theorem exists_of_isFinite (h : x.isFinite = true) : ∃ s m, x = finite s m := by
  cases x with
  | nan => cases h
  | infinite s => cases h
  | finite s m => exact ⟨s, m, rfl⟩

/-! ## Sizes with signs -/

theorem signed_mul (s : Bool) (a b : Nat) : signed s (a * b) = signed s a * b := by
  cases s
  · exact Int.natCast_mul a b
  · show -((a * b : Nat) : Int) = -(a : Int) * b
    rw [Int.natCast_mul, Int.neg_mul]

theorem signed_natAbs (i : Int) : signed (decide (i < 0)) i.natAbs = i := by
  unfold signed
  by_cases h : i < 0
  · rw [if_pos (decide_eq_true h)]
    omega
  · rw [if_neg (by simp [h])]
    omega

/-- What keeps the order of sizes and leaves nothing as nothing keeps the order of sizes with signs. -/
theorem signed_le_signed {a' b' : Nat} (h : signed s a ≤ signed t b) (hle : a ≤ b → a' ≤ b')
    (hge : b ≤ a → b' ≤ a') (ha : a = 0 → a' = 0) (hb : b = 0 → b' = 0) : signed s a' ≤ signed t b' := by
  unfold signed at *
  cases s <;> cases t <;> simp only [Bool.false_eq_true, if_true, if_false] at * <;> omega

theorem value_finite (s : Bool) (m : Magnitude) : (finite s m).value = signed s m.units / Magnitude.one := rfl

theorem finite_le_finite : finite s m ≤ finite t m' ↔ signed s m.units ≤ signed t m'.units := by
  have hone : (0 : ℚ) < Magnitude.one := by exact_mod_cast Magnitude.one_pos
  show ((signed s m.units : Int) : ℚ) / Magnitude.one ≤ (signed t m'.units : Int) / Magnitude.one ↔ _
  rw [div_le_div_iff_of_pos_right hone, Int.cast_le]

theorem le_infinite (hx : x ≠ nan) : x ≤ infinite false := by
  cases x with
  | nan => exact absurd rfl hx
  | infinite s => exact .inr rfl
  | finite s m => rfl

theorem infinite_le (hx : x ≠ nan) : infinite true ≤ x := by
  cases x with
  | nan => exact absurd rfl hx
  | infinite s => exact .inl rfl
  | finite s m => rfl

theorem ne_nan_of_le (h : x ≤ y) : x ≠ nan ∧ y ≠ nan := by
  constructor <;> rintro rfl
  · exact h
  · cases x <;> exact h

protected theorem le_trans {z : Binary64} (h : x ≤ y) (h' : y ≤ z) : x ≤ z := by
  obtain ⟨hx, hy⟩ := ne_nan_of_le h
  have hz := (ne_nan_of_le h').2
  cases y with
  | nan => exact absurd rfl hy
  | infinite t =>
    cases t with
    | true =>
      cases x with
      | nan => exact absurd rfl hx
      | infinite s =>
        obtain rfl : s = true := h.elim id nofun
        exact infinite_le hz
      | finite s m => cases h
    | false =>
      cases z with
      | nan => exact absurd rfl hz
      | infinite u =>
        obtain rfl : u = false := h'.elim nofun id
        exact le_infinite hx
      | finite u m => cases h'
  | finite t m =>
    cases x with
    | nan => exact absurd rfl hx
    | infinite s =>
      obtain rfl : s = true := h
      exact infinite_le hz
    | finite s a =>
      cases z with
      | nan => exact absurd rfl hz
      | infinite u => exact h'
      | finite u b => exact finite_le_finite.2 (Int.le_trans (finite_le_finite.1 h) (finite_le_finite.1 h'))

theorem eq_of_value_eq (hx : x.isFinite = true) (hy : y.isFinite = true) (h : x.value = y.value)
    (hne : y.value ≠ 0) : x = y := by
  obtain ⟨s, m, rfl⟩ := exists_of_isFinite hx
  obtain ⟨t, m', rfl⟩ := exists_of_isFinite hy
  have hone := Magnitude.one_ne_zero
  rw [value_finite, value_finite, div_left_inj' hone, Int.cast_inj] at h
  rw [value_finite] at hne
  have hsigned : signed t m'.units ≠ 0 := fun hzero => hne (by rw [hzero, Int.cast_zero, zero_div])
  unfold signed at h hsigned
  have hsign : s = t := by
    cases s <;> cases t <;> simp only [Bool.false_eq_true, if_true, if_false] at h hsigned ⊢ <;> omega
  have hunits : m.units = m'.units := by
    subst hsign
    cases s <;> simp only [Bool.false_eq_true, if_true, if_false] at h <;> omega
  rw [hsign, Magnitude.ext_units hunits]

theorem eq_zero_of_value_eq (hx : x.isFinite = true) (h : x.value = 0) : ∃ s, x = zero s := by
  obtain ⟨s, m, rfl⟩ := exists_of_isFinite hx
  rw [value_finite, div_eq_zero_iff, or_iff_left Magnitude.one_ne_zero, Int.cast_eq_zero] at h
  have hunits : m.units = 0 := by
    unfold signed at h
    split at h <;> omega
  exact ⟨s, congrArg (finite s) (Magnitude.ext_units hunits)⟩

theorem isPositive_of_le (h : x ≤ y) (hx : x.isPositive = true) : y.isPositive = true := by
  cases x with
  | nan => cases hx
  | infinite s =>
    obtain rfl : s = false := by simpa [isPositive] using hx
    cases y with
    | nan => cases h
    | infinite t =>
      obtain rfl : t = false := h.elim nofun id
      rfl
    | finite t m' => cases h
  | finite s m =>
    obtain ⟨rfl, hm⟩ : s = false ∧ m.units ≠ 0 := by simpa [isPositive] using hx
    cases y with
    | nan => cases h
    | infinite t =>
      obtain rfl : t = false := h
      rfl
    | finite t m' =>
      have hle := finite_le_finite.1 h
      unfold signed at hle
      cases t with
      | false =>
        simp only [Bool.false_eq_true, if_false] at hle
        simp only [isPositive, Bool.not_false, Bool.true_and, bne_iff_ne]
        omega
      | true =>
        simp only [Bool.false_eq_true, if_false, if_true] at hle
        omega

/-! ## Rounding -/

/-- A quotient is rounded to a size in range, or it is out of range. -/
theorem ofUnits_cases (s : Bool) (n d : Nat) :
    (∃ m, m.units = Magnitude.rounded n d ∧ ofUnits s n d = finite s m) ∨
      Magnitude.limit ≤ Magnitude.rounded n d ∧ ofUnits s n d = infinite s := by
  unfold ofUnits Magnitude.nearest?
  by_cases h : Magnitude.rounded n d < Magnitude.limit
  · rw [dif_pos h]
    exact .inl ⟨_, rfl, rfl⟩
  · rw [dif_neg h]
    exact .inr ⟨Nat.le_of_not_lt h, rfl⟩

theorem ofUnits_ne_nan (s : Bool) (n d : Nat) : ofUnits s n d ≠ nan := by
  rcases ofUnits_cases s n d with ⟨m, -, h⟩ | ⟨-, h⟩ <;> rw [h] <;> exact nofun

theorem ofUnits_zero (hd : 0 < d) : ofUnits s 0 d = zero s :=
  ofUnits_eq_finite_iff.2 (Magnitude.rounded_zero hd)

/-- Rounding keeps the order of quotients. -/
theorem ofUnits_le_ofUnits (hd : 0 < d) (hd' : 0 < d') (h : signed s n * d' ≤ signed t n' * d) :
    ofUnits s n d ≤ ofUnits t n' d' := by
  have hrounded : signed s (Magnitude.rounded n d) ≤ signed t (Magnitude.rounded n' d') := by
    rw [← signed_mul, ← signed_mul] at h
    refine signed_le_signed h (Magnitude.rounded_mono hd hd') (Magnitude.rounded_mono hd' hd) ?_ ?_
    · intro hzero
      rw [(Nat.mul_eq_zero.1 hzero).resolve_right hd'.ne', Magnitude.rounded_zero hd]
    · intro hzero
      rw [(Nat.mul_eq_zero.1 hzero).resolve_right hd.ne', Magnitude.rounded_zero hd']
  have hlimit := Magnitude.limit_pos
  unfold signed at hrounded
  -- an infinity on the wrong side would be a rounded size beyond all sizes in range
  rcases ofUnits_cases s n d with ⟨m, hm, hx⟩ | ⟨hx₁, hx⟩ <;>
    rcases ofUnits_cases t n' d' with ⟨m', hm', hy⟩ | ⟨hy₁, hy⟩ <;> rw [hx, hy]
  · rw [finite_le_finite, hm, hm']
    exact hrounded
  · show t = false
    have hbounded := m.bounded
    cases t with
    | false => rfl
    | true => cases s <;> simp only [Bool.false_eq_true, if_true, if_false] at hrounded <;> omega
  · show s = true
    have hbounded := m'.bounded
    cases s with
    | true => rfl
    | false => cases t <;> simp only [Bool.false_eq_true, if_true, if_false] at hrounded <;> omega
  · show s = true ∨ t = false
    cases s with
    | true => exact .inl rfl
    | false =>
      cases t with
      | false => exact .inr rfl
      | true => simp only [Bool.false_eq_true, if_true, if_false] at hrounded; omega

theorem ofInt_eq_ofUnits (i : Int) : ofInt i = ofUnits (i < 0) (i.natAbs * Magnitude.one) 1 := rfl

theorem ofInt_ne_nan (i : Int) : ofInt i ≠ nan := ofUnits_ne_nan _ _ _

theorem ofInt_le_ofInt {i j : Int} (h : i ≤ j) : ofInt i ≤ ofInt j := by
  rw [ofInt_eq_ofUnits, ofInt_eq_ofUnits]
  refine ofUnits_le_ofUnits Nat.one_pos Nat.one_pos ?_
  rw [signed_mul, signed_mul, signed_natAbs, signed_natAbs]
  exact Int.mul_le_mul_of_nonneg_right (Int.mul_le_mul_of_nonneg_right h (Int.natCast_nonneg _))
    (Int.natCast_nonneg _)

theorem ofInt_zero : ofInt 0 = zero false := by
  rw [ofInt_eq_ofUnits, Int.natAbs_zero, Nat.zero_mul]
  exact ofUnits_zero Nat.one_pos

/-! ## Multiplying by an exact quotient -/

/-- The product with the quotient `n / d`, rounded once. -/
def scale (n d : Nat) : Binary64 → Binary64
  | nan => nan
  | infinite s => infinite s
  | finite s m => ofUnits s (m.units * n) d

theorem div_eq_scale (x : Binary64) (hc : 0 < c.units) :
    x / finite false c = x.scale Magnitude.one c.units := by
  show Binary64.div x (finite false c) = _
  cases x with
  | nan => rfl
  | infinite s => exact congrArg infinite (Bool.xor_false s)
  | finite s m =>
    rw [Binary64.div, if_neg hc.ne', Bool.xor_false]
    rfl

theorem mul_eq_scale (x : Binary64) (hc : 0 < c.units) :
    x * finite false c = x.scale c.units Magnitude.one := by
  show Binary64.mul x (finite false c) = _
  cases x with
  | nan => rfl
  | infinite s =>
    rw [Binary64.mul, if_neg hc.ne', Bool.xor_false]
    rfl
  | finite s m =>
    rw [Binary64.mul, Bool.xor_false]
    rfl

theorem scale_ne_nan (hx : x ≠ nan) : x.scale n d ≠ nan := by
  cases x with
  | nan => exact absurd rfl hx
  | infinite s => exact nofun
  | finite s m => exact ofUnits_ne_nan _ _ _

theorem scale_zero (hd : 0 < d) : (zero s).scale n d = zero s := by
  show ofUnits s (0 * n) d = zero s
  rw [Nat.zero_mul, ofUnits_zero hd]

/-- A greater number has no lesser product. -/
theorem scale_le_scale (hd : 0 < d) (h : x ≤ y) : x.scale n d ≤ y.scale n d := by
  obtain ⟨hx, hy⟩ := ne_nan_of_le h
  cases x with
  | nan => exact absurd rfl hx
  | infinite s =>
    cases s with
    | true => exact infinite_le (scale_ne_nan hy)
    | false =>
      cases y with
      | nan => exact absurd rfl hy
      | infinite t => exact h
      | finite t m' => cases h
  | finite s m =>
    cases y with
    | nan => exact absurd rfl hy
    | infinite t =>
      obtain rfl : t = false := h
      exact le_infinite (scale_ne_nan hx)
    | finite t m' =>
      refine ofUnits_le_ofUnits hd hd ?_
      rw [signed_mul, signed_mul]
      exact Int.mul_le_mul_of_nonneg_right
        (Int.mul_le_mul_of_nonneg_right (finite_le_finite.1 h) (Int.natCast_nonneg _))
        (Int.natCast_nonneg _)

/-- A number that is not negative has no lesser product with a greater quotient. -/
theorem scale_le_scale_of_le (hd : 0 < d) (hd' : 0 < d') (hx : zero false ≤ x) (h : n * d' ≤ n' * d) :
    x.scale n d ≤ x.scale n' d' := by
  cases x with
  | nan => cases hx
  | infinite s =>
    obtain rfl : s = false := hx
    exact .inr rfl
  | finite s m =>
    have hnonneg : 0 ≤ signed s m.units := finite_le_finite.1 hx
    have hle : (n : Int) * d' ≤ n' * d := by exact_mod_cast h
    refine ofUnits_le_ofUnits hd hd' ?_
    rw [signed_mul, signed_mul, Int.mul_assoc, Int.mul_assoc]
    exact Int.mul_le_mul_of_nonneg_left hle hnonneg

/-! ## Lower bounds -/

/-- The number is at least this great; infinity is at least as great as everything. -/
def AtLeast (q : ℚ) : Binary64 → Prop
  | nan => False
  | infinite negative => negative = false
  | finite negative m => q ≤ (finite negative m).value

/-- What may be left of a number when it is rounded, as a fraction of it. -/
def keptFraction : ℚ := 1 - 1 / 2 ^ 53

theorem half_le_keptFraction : 1 / 2 ≤ keptFraction := by
  unfold keptFraction
  norm_num

variable {q r : ℚ}

theorem AtLeast.mono (h : x.AtLeast q) (hle : r ≤ q) : x.AtLeast r := by
  cases x with
  | nan => exact h
  | infinite s => exact h
  | finite s m => exact le_trans hle h

/-- A quotient that is not tiny loses one part in 2^53 at most. -/
theorem atLeast_ofUnits (hd : 0 < d) (hlarge : 1 / 1000 ≤ q) (h : q ≤ (n : ℚ) / (d * Magnitude.one : Nat)) :
    (ofUnits false n d).AtLeast (q * keptFraction) := by
  rcases ofUnits_cases false n d with ⟨m, hm, hx⟩ | ⟨-, hx⟩ <;> rw [hx]
  · have hone : (0 : ℚ) < Magnitude.one := by exact_mod_cast Magnitude.one_pos
    have hdq : (0 : ℚ) < d := by exact_mod_cast hd
    rw [Nat.cast_mul, le_div_iff₀ (mul_pos hdq hone)] at h
    have hbits : (2 : ℚ) ^ 52 * 1000 ≤ Magnitude.one := by
      exact_mod_cast Nat.le_trans (by decide) (Magnitude.two_pow_le_one (k := 62) (by decide))
    have hn : 2 ^ 52 * d ≤ n := by
      have hscaled : (2 : ℚ) ^ 52 * d ≤ n := by
        refine le_trans ?_ h
        have hstep : (1 / 1000 : ℚ) * (d * (2 ^ 52 * 1000)) ≤ q * (d * Magnitude.one) :=
          mul_le_mul hlarge (mul_le_mul_of_nonneg_left hbits hdq.le) (by positivity) (by linarith)
        linarith
      exact_mod_cast hscaled
    obtain ⟨hnear, -⟩ := Magnitude.rounded_near hd hn
    have hnear' : (2 : ℚ) ^ 53 * n ≤ 2 ^ 53 * (m.units * d) + 1 * n := by
      rw [hm]
      exact_mod_cast hnear
    show q * keptFraction ≤ ((m.units : Int) : ℚ) / Magnitude.one
    rw [Int.cast_natCast, le_div_iff₀ hone, ← mul_le_mul_iff_left₀ hdq, keptFraction]
    nlinarith
  · exact rfl

theorem AtLeast.le_units (h : (finite s m).AtLeast q) (hq : 0 < q) :
    s = false ∧ q * Magnitude.one ≤ m.units := by
  have hone : (0 : ℚ) < Magnitude.one := by exact_mod_cast Magnitude.one_pos
  have hvalue : q ≤ ((signed s m.units : Int) : ℚ) / Magnitude.one := h
  rw [le_div_iff₀ hone] at hvalue
  cases s with
  | false => exact ⟨rfl, hvalue⟩
  | true =>
    have hpos : (0 : ℚ) < (signed true m.units : Int) := lt_of_lt_of_le (mul_pos hq hone) hvalue
    have hpos' : 0 < -(m.units : Int) := by exact_mod_cast hpos
    omega

/-- A number that is multiplied by a quotient keeps its lower bound but for one part in 2^53. -/
theorem AtLeast.scale (h : x.AtLeast q) (hq : 0 < q) (hd : 0 < d) (hlarge : 1 / 1000 ≤ q * (n / d)) :
    (x.scale n d).AtLeast (q * (n / d) * keptFraction) := by
  cases x with
  | nan => exact h
  | infinite s => exact h
  | finite s m =>
    have hone : (0 : ℚ) < Magnitude.one := by exact_mod_cast Magnitude.one_pos
    have hdq : (0 : ℚ) < d := by exact_mod_cast hd
    obtain ⟨rfl, hvalue⟩ := h.le_units hq
    refine atLeast_ofUnits hd hlarge ?_
    rw [Nat.cast_mul, Nat.cast_mul, le_div_iff₀ (mul_pos hdq hone)]
    calc q * (n / d) * (d * Magnitude.one) = q * Magnitude.one * n := by field_simp
      _ ≤ m.units * n := mul_le_mul_of_nonneg_right hvalue (Nat.cast_nonneg n)

/-- An integer is read as a number that keeps it but for one part in 2^53. -/
theorem atLeast_ofInt {i : Int} (h : 0 < i) : (ofInt i).AtLeast (i * keptFraction) := by
  have hone : (Magnitude.one : ℚ) ≠ 0 := Magnitude.one_ne_zero
  have hi : (1 : ℚ) ≤ i := by exact_mod_cast h
  have hsign : decide (i < 0) = false := decide_eq_false (Int.not_lt.2 (Int.le_of_lt h))
  rw [ofInt_eq_ofUnits, hsign]
  refine atLeast_ofUnits Nat.one_pos (by linarith) ?_
  have hcast : (i.natAbs : ℚ) = i := by
    rw [Nat.cast_natAbs, abs_of_pos h]
  rw [Nat.cast_mul, hcast, Nat.one_mul, mul_div_assoc, div_self hone, mul_one]

end Binary64

end Storefront
