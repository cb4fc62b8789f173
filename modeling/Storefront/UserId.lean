import Storefront.Text.Escape

/-!
# User ids

The identity of a buyer. A user id serves as one component of a storage key, so it is not empty, does
not start with a point, and holds no slash, no backslash and no control character.
-/

namespace Storefront

namespace UserId

/-- Is this a control character? -/
def isControl (c : Char) : Bool := c.toNat < 0x20 || (0x7F ≤ c.toNat && c.toNat ≤ 0x9F)

/-- May a user id hold this character? -/
def allows (c : Char) : Bool := c != '/' && c != '\\' && !isControl c

/-- May this text be a user id? -/
def isSafe (text : String) : Bool :=
  match text.toList with
  | [] => false
  | c :: cs => c != '.' && (c :: cs).all allows

end UserId

/-- The identity of a buyer. -/
structure UserId where
  /-- The id as it was given. -/
  text : String
  /-- The id is fit to be a component of a key. -/
  safe : UserId.isSafe text = true
  deriving DecidableEq

/-- A text that is no user id. -/
structure InvalidUserId where
  /-- The text that was refused. -/
  text : String
  deriving DecidableEq

/-- The text under which a refused user id is reported. -/
def InvalidUserId.message (e : InvalidUserId) : String :=
  "Invalid user id: " ++ Text.escape e.text

/-- The user id that a text denotes. -/
def UserId.parse (text : String) : Except InvalidUserId UserId :=
  if h : isSafe text = true then .ok ⟨text, h⟩ else .error ⟨text⟩

end Storefront
