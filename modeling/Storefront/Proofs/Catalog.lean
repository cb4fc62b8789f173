import Storefront.Catalog
import Storefront.Proofs.Table

/-!
# What a catalog sells

A product stands in a catalog under its own SKU.
-/

namespace Storefront.Catalog

variable {catalog : Catalog} {sku : String} {product : Product}

/-- What is found under a SKU has this SKU and was accepted. -/
theorem get?_eq_some (h : catalog.get? sku = some product) :
    product.sku = sku ∧ accepts product = true := by
  obtain ⟨hsku, haccepts⟩ := catalog.accepted _ (Table.mem_of_lookup h)
  exact ⟨hsku.symm, haccepts⟩

end Storefront.Catalog
