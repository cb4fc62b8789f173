/-!
# Templates

The names of the templates that the pages of a shop are made from.
-/

namespace Storefront.Template

/-- The front page. -/
def index : String := "index.tmpl"

/-- The page of a product. -/
def product : String := "product.tmpl"

/-- A product that was added to the cart. -/
def addToCart : String := "addtocart.tmpl"

/-- The cart. -/
def cart : String := "cart.tmpl"

/-- The confirmation of an order. -/
def orderPlaced : String := "orderplaced.tmpl"

/-- The orders so far. -/
def orders : String := "orders.tmpl"

end Storefront.Template
