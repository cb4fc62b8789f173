import Storefront.Overflow
import Storefront.Text.Digits

/-!
# Order ids

The orders of a buyer are numbered from one. An id is a word of 64 bits without sign; the greatest
one has no successor.
-/

namespace Storefront

/-- The number of an order among those of its buyer. -/
structure OrderId where
  value : UInt64
  deriving DecidableEq

namespace OrderId

/-- The number as a natural number. -/
def toNat (id : OrderId) : Nat := id.value.toNat

/-- The id with a number, if that fits 64 bits. -/
def ofNat? (n : Nat) : Option OrderId := if n < UInt64.size then some ⟨n.toUInt64⟩ else none

/-- The id that follows, or a stop if there is none. -/
def next? (id : OrderId) : Except Overflow OrderId :=
  match ofNat? (id.toNat + 1) with
  | some next => .ok next
  | none => .error .add

/-- An id as it is shown to people. -/
def text (id : OrderId) : String := "#" ++ Text.natText id.toNat

theorem toNat_lt (id : OrderId) : id.toNat < UInt64.size := id.value.toNat_lt

theorem ext_toNat {a b : OrderId} (h : a.toNat = b.toNat) : a = b := by
  cases a; cases b; exact congrArg mk (UInt64.toNat_inj.1 h)

@[simp] theorem toNat_ofNat? {n : Nat} {id : OrderId} (h : ofNat? n = some id) : id.toNat = n := by
  unfold ofNat? at h
  split at h
  · next hn => cases h; exact UInt64.toNat_ofNat_of_lt' hn
  · cases h

theorem next?_eq_ok_iff {id next : OrderId} : id.next? = .ok next ↔ ofNat? (id.toNat + 1) = some next := by
  unfold next?
  cases ofNat? (id.toNat + 1) <;> simp

theorem next?_eq_error_iff {id : OrderId} {cause : Overflow} :
    id.next? = .error cause ↔ cause = .add ∧ ofNat? (id.toNat + 1) = none := by
  unfold next?
  cases ofNat? (id.toNat + 1) <;> simp [eq_comm]

theorem ofNat?_eq_none_iff {n : Nat} : ofNat? n = none ↔ UInt64.size ≤ n := by
  unfold ofNat?
  split
  · next h => exact iff_of_false nofun (Nat.not_le.2 h)
  · next h => exact iff_of_true rfl (Nat.le_of_not_lt h)

end OrderId

end Storefront
