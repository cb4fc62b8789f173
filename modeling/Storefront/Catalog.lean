import Storefront.Document.Records
import Storefront.Storage.Error
import Storefront.Table

/-!
# Catalogs

The products on sale in the order of their SKUs. A catalog takes a product whose SKU is not empty and
whose price lies between nothing and a million dollars, and takes each SKU once. Products are looked
at in the order given, and the first one that is refused decides.
-/

namespace Storefront

/-- Why products make up no catalog. -/
inductive CatalogError where
  /-- The file cannot be read. -/
  | file (cause : FileError)
  /-- The file is not the JSON of a list of products. -/
  | unreadable (reason : Unreadable)
  /-- Two products have this SKU. -/
  | duplicate (sku : String)
  /-- The product of this title has no SKU or a price out of range. -/
  | invalid (title : String)
  deriving DecidableEq

/-- The text under which a catalog error is reported. -/
def CatalogError.message : CatalogError → String
  | .file cause => "Could not read the catalog file: " ++ cause.message
  | .unreadable reason => "The catalog file is not valid: " ++ reason.message
  | .duplicate sku => "The catalog contains SKU " ++ sku ++ " more than once"
  | .invalid title =>
    "Product " ++ title ++ " has an empty SKU or a price outside $0 to $1,000,000"

namespace Catalog

/-- The greatest price of a product, in cents. -/
def greatestPrice : Int := 100000000

/-- May the product be in a catalog? -/
def accepts (product : Product) : Bool :=
  product.sku ≠ "" && 0 ≤ product.price.toInt && product.price.toInt ≤ greatestPrice

end Catalog

/-- The products on sale. -/
structure Catalog where
  /-- The products by SKU. -/
  table : Table Product
  /-- They stand in the order of their SKUs, each SKU once. -/
  ascending : table.Ascending
  /-- Each stands under its own SKU and may be in a catalog. -/
  accepted : ∀ entry ∈ table, entry.1 = entry.2.sku ∧ Catalog.accepts entry.2 = true

namespace Catalog

/-- No products. -/
def empty : Catalog := ⟨[], Table.ascending_nil, by simp⟩

/-- The product of a SKU. -/
def get? (catalog : Catalog) (sku : String) : Option Product := catalog.table.lookup sku

/-- The catalog with a product under its SKU, in place of an earlier one. -/
def insert (catalog : Catalog) (product : Product) (h : accepts product = true) : Catalog where
  table := catalog.table.insert product.sku product
  ascending := catalog.ascending.insert product.sku product
  accepted entry he := by
    rcases Table.mem_insert he with rfl | he
    · exact ⟨rfl, h⟩
    · exact catalog.accepted entry he

/-- The catalog with one more product. -/
def add (catalog : Catalog) (product : Product) : Except CatalogError Catalog :=
  if h : accepts product = true then
    if (catalog.get? product.sku).isSome then .error (.duplicate product.sku)
    else .ok (catalog.insert product h)
  else .error (.invalid product.title)

/-- The catalog of a list of products. -/
def ofProducts (products : List Product) : Except CatalogError Catalog := products.foldlM add empty

/-- The products in the order of their SKUs. -/
def products (catalog : Catalog) : List Product := catalog.table.map Prod.snd

/-- How many products there are. -/
def size (catalog : Catalog) : Nat := catalog.table.length

/-- The catalog that a file holds, given its bytes or why it cannot be read. -/
def ofFile : Except FileError ByteArray → Except CatalogError Catalog
  | .error e => .error (.file e)
  | .ok data =>
    match Document.decode data with
    | .error e => .error (.unreadable e)
    | .ok products => ofProducts products

end Catalog

end Storefront
