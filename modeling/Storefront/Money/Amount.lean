import Storefront.Overflow

/-!
# Amounts of 64 bits

Money is counted in whole units held in signed words of 64 bits. `saturate` brings an exact result
into range by clamping it to the nearest bound, `checked` refuses a result that is out of range. The
view of an amount is the integer `Int64.toInt`.
-/

namespace Storefront.Amount

/-- The least amount of 64 bits, -2^63. -/
def least : Int := -9223372036854775808

/-- The greatest amount of 64 bits, 2^63 - 1. -/
def greatest : Int := 9223372036854775807

/-- Does an exact result fit a signed word of 64 bits? -/
def Fits (i : Int) : Prop := least ≤ i ∧ i ≤ greatest

instance (i : Int) : Decidable (Fits i) := inferInstanceAs (Decidable (_ ∧ _))

/-- The bound or number nearest to `i` among the amounts of 64 bits. -/
def clamp (i : Int) : Int := max least (min i greatest)

/-- The amount nearest to an exact result. -/
def saturate (i : Int) : Int64 := Int64.ofInt (clamp i)

/-- The exact result itself, if it is an amount. -/
def checked (o : Overflow) (i : Int) : Except Overflow Int64 :=
  if Fits i then .ok (Int64.ofInt i) else .error o

theorem fits_clamp (i : Int) : Fits (clamp i) := by
  simp only [Fits, clamp, least, greatest]; omega

theorem clamp_of_fits {i : Int} (h : Fits i) : clamp i = i := by
  simp only [Fits, clamp, least, greatest] at *; omega

theorem toInt_ofInt_of_fits {i : Int} (h : Fits i) : (Int64.ofInt i).toInt = i := by
  simp only [Fits, least, greatest] at h
  exact Int64.toInt_ofInt_of_le h.1 (by omega)

theorem fits_toInt (a : Int64) : Fits a.toInt := by
  have h₁ := a.le_toInt
  have h₂ := a.toInt_lt
  simp only [Fits, least, greatest]; omega

/-- Saturation is clamping, seen through the integers. -/
@[simp] theorem toInt_saturate (i : Int) : (saturate i).toInt = clamp i :=
  toInt_ofInt_of_fits (fits_clamp i)

theorem toInt_of_checked {o : Overflow} {i : Int} {a : Int64} (h : checked o i = .ok a) :
    a.toInt = i := by
  unfold checked at h
  split at h
  · next hi => cases h; exact toInt_ofInt_of_fits hi
  · cases h

end Storefront.Amount
