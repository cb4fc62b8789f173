import Storefront.Json.Printer
import Storefront.Shop.Template

/-!
# Pages for a terminal

The confirmation of an order is printed as its buyer reads it. Every other page is its data as JSON
under a heading that names the page.
-/

namespace Storefront.Terminal

/-- The message for the buyer in the data of a page, if the page is the confirmation of an order. -/
def confirmation? (page : String) (data : Json) : Option String :=
  match data.field? "message" with
  | some (.string message) => if page = Template.orderPlaced then some message else none
  | _ => none

/-- A page as it is printed. -/
def render (page : String) (data : Json) : String :=
  (confirmation? page data).getD ("# " ++ page ++ "\n" ++ data.pretty ++ "\n")

end Storefront.Terminal
