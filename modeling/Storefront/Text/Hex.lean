/-!
# Bytes in hexadecimal

Two lower-case digits a byte.
-/

namespace Storefront.Text

/-- The two digits of a byte. -/
def hexDigits (b : UInt8) : List Char :=
  [Nat.digitChar (b.toNat / 16), Nat.digitChar (b.toNat % 16)]

/-- The digits of a run of bytes. -/
def hex (data : ByteArray) : String := String.ofList (data.toList.flatMap hexDigits)

end Storefront.Text
