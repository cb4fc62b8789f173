import Storefront.InvalidWord

/-!
# Order status

How far an order has come. The shop itself only makes placed orders; the other states are set by its
operator.
-/

namespace Storefront

/-- How far an order has come. -/
inductive OrderStatus where
  /-- The buyer has placed it. -/
  | placed
  /-- It is on its way. -/
  | shipped
  /-- It is paid for and delivered. -/
  | completed
  /-- The buyer or the operator has called it off. -/
  | cancelled
  deriving DecidableEq

namespace OrderStatus

/-- All states. -/
def all : List OrderStatus := [.placed, .shipped, .completed, .cancelled]

/-- The name of a state, in documents and for people. -/
def name : OrderStatus → String
  | .placed => "Placed"
  | .shipped => "Shipped"
  | .completed => "Completed"
  | .cancelled => "Cancelled"

/-- The state with a name. -/
def ofName? (name : String) : Option OrderStatus := all.find? (·.name == name)

/-- The state with a name, spelt exactly. -/
def parse (name : String) : Except InvalidWord OrderStatus :=
  match ofName? name with
  | some status => .ok status
  | none => .error ⟨"order status", name⟩

@[simp] theorem ofName?_name (s : OrderStatus) : ofName? s.name = some s := by
  cases s <;> decide

end OrderStatus

end Storefront
