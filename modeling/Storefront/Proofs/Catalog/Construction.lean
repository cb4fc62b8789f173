import Mathlib.Data.List.Perm.Basic
import Storefront.Proofs.Catalog
import Storefront.Proofs.Text.Bytes

/-!
# Which products make up a catalog

A catalog can be made of products exactly if each of them may be sold and no two have one SKU. It lists them
in the order of their SKUs, whatever order they were given in. Of other products the first one decides that
may not be sold or has the SKU of an earlier one.
-/

namespace Storefront.Catalog

variable {catalog other : Catalog} {product : Product} {products : List Product} {sku : String}
  {e : CatalogError}

/-- May the product be sold? -/
structure Sellable (product : Product) : Prop where
  named : product.sku ≠ ""
  not_negative : 0 ≤ product.price.toInt
  not_great : product.price.toInt ≤ greatestPrice

theorem accepts_iff : accepts product = true ↔ Sellable product := by
  simp only [accepts, Bool.and_eq_true, decide_eq_true_iff]
  constructor
  · rintro ⟨⟨hnamed, hlow⟩, hhigh⟩
    exact ⟨hnamed, hlow, hhigh⟩
  · rintro ⟨hnamed, hlow, hhigh⟩
    exact ⟨⟨hnamed, hlow⟩, hhigh⟩

/-- Products of which each may be sold and no two have one SKU. -/
structure Fit (products : List Product) : Prop where
  sellable : ∀ product ∈ products, Sellable product
  distinct : products.Pairwise fun p q => p.sku ≠ q.sku

theorem Fit.perm {others : List Product} (h : Fit products) (hperm : products.Perm others) : Fit others where
  sellable product hmem := h.sellable product (hperm.mem_iff.2 hmem)
  distinct := hperm.pairwise h.distinct Ne.symm

/-! ## What a catalog lists -/

/-- A table is known by its products, each of which stands under its SKU. -/
theorem table_eq_map (catalog : Catalog) : catalog.table = catalog.products.map fun p => (p.sku, p) := by
  rw [products, List.map_map]
  refine (List.map_id' _).symm.trans (List.map_congr_left fun entry hmem => ?_)
  exact Prod.ext (catalog.accepted entry hmem).1 rfl

theorem ext_products (h : catalog.products = other.products) : catalog = other := by
  have htable : catalog.table = other.table := by rw [table_eq_map, h, ← table_eq_map]
  cases catalog
  cases other
  cases htable
  rfl

theorem ascending_products (catalog : Catalog) : catalog.products.Pairwise fun p q => p.sku < q.sku := by
  have h := catalog.ascending
  rw [table_eq_map, Table.Ascending, List.pairwise_map] at h
  exact h

theorem fit_products (catalog : Catalog) : Fit catalog.products where
  sellable product hmem := by
    obtain ⟨entry, hentry, rfl⟩ := List.mem_map.1 hmem
    exact accepts_iff.1 (catalog.accepted entry hentry).2
  distinct := by
    refine catalog.ascending_products.imp fun {p q} hlt heq => ?_
    exact String.lt_irrefl q.sku (heq ▸ hlt)

/-- There is one order in which a catalog may list products. -/
theorem eq_of_perm (h : catalog.products.Perm other.products) : catalog = other := by
  refine ext_products (h.eq_of_pairwise ?_ catalog.ascending_products other.ascending_products)
  intro p q _ _ hlt hgt
  exact absurd (String.lt_trans hlt hgt) (String.lt_irrefl _)

theorem get?_eq_some_iff :
    catalog.get? sku = some product ↔ product ∈ catalog.products ∧ product.sku = sku := by
  constructor
  · intro h
    exact ⟨List.mem_map.2 ⟨_, Table.mem_of_lookup h, rfl⟩, (get?_eq_some h).1⟩
  · rintro ⟨hmem, rfl⟩
    refine Table.lookup_of_mem catalog.ascending.nodup ?_
    rw [table_eq_map]
    exact List.mem_map_of_mem hmem

theorem isSome_get?_iff : (catalog.get? sku).isSome = true ↔ sku ∈ catalog.products.map Product.sku := by
  rw [Option.isSome_iff_exists, List.mem_map]
  exact exists_congr fun product => get?_eq_some_iff

/-! ## One more product -/

/-- Is the product refused behind those before it, and how? -/
def Refused (before : List Product) (product : Product) (e : CatalogError) : Prop :=
  ¬Sellable product ∧ e = .invalid product.title ∨
    Sellable product ∧ product.sku ∈ before.map Product.sku ∧ e = .duplicate product.sku

theorem Refused.perm {before others : List Product} (h : Refused before product e)
    (hperm : before.Perm others) : Refused others product e :=
  h.imp_right fun ⟨hsellable, hmem, he⟩ => ⟨hsellable, (hperm.map Product.sku).mem_iff.1 hmem, he⟩

theorem add_eq_error_iff : catalog.add product = .error e ↔ Refused catalog.products product e := by
  rw [add, Refused, ← accepts_iff, ← isSome_get?_iff]
  split
  · next haccepts =>
    split
    · next hthere => simp [haccepts, hthere, eq_comm]
    · next hnew => simp [haccepts, hnew]
  · next hrefused =>
    rw [Except.error.injEq, eq_comm]
    simp [hrefused]

theorem perm_of_add (h : catalog.add product = .ok other) :
    other.products.Perm (product :: catalog.products) := by
  rw [add] at h
  split at h
  · split at h
    · cases h
    · next hnew =>
      cases h
      rw [get?, Table.isSome_lookup_iff] at hnew
      exact (Table.insert_perm hnew).map Prod.snd
  · cases h

/-- A product that can be sold and has a new SKU is taken. -/
theorem exists_add (hsellable : Sellable product) (hnew : ∀ p ∈ catalog.products, product.sku ≠ p.sku) :
    ∃ next, catalog.add product = .ok next := by
  cases hadd : catalog.add product with
  | ok next => exact ⟨next, rfl⟩
  | error e =>
    rcases add_eq_error_iff.1 hadd with ⟨hunsellable, -⟩ | ⟨-, hmem, -⟩
    · exact absurd hsellable hunsellable
    · obtain ⟨p, hp, heq⟩ := List.mem_map.1 hmem
      exact absurd heq.symm (hnew p hp)

/-! ## All products -/

theorem foldlM_add_of_ok {next : Catalog} (h : catalog.add product = .ok next) :
    (product :: products).foldlM add catalog = products.foldlM add next := by
  rw [List.foldlM_cons, h]
  rfl

theorem foldlM_add_of_error (h : catalog.add product = .error e) :
    (product :: products).foldlM add catalog = .error e := by
  rw [List.foldlM_cons, h]
  rfl

theorem perm_of_foldlM (h : products.foldlM add catalog = .ok other) :
    other.products.Perm (products ++ catalog.products) := by
  induction products generalizing catalog with
  | nil =>
    cases h
    exact .refl _
  | cons product rest ih =>
    cases hadd : catalog.add product with
    | error e =>
      rw [foldlM_add_of_error hadd] at h
      cases h
    | ok next =>
      rw [foldlM_add_of_ok hadd] at h
      exact (ih h).trans (((perm_of_add hadd).append_left rest).trans List.perm_middle)

theorem exists_foldlM (h : Fit (products ++ catalog.products)) :
    ∃ other, products.foldlM add catalog = .ok other := by
  induction products generalizing catalog with
  | nil => exact ⟨catalog, rfl⟩
  | cons product rest ih =>
    obtain ⟨hnew, -⟩ := List.pairwise_cons.1 h.distinct
    have htaken : ∃ next, catalog.add product = .ok next :=
      exists_add (h.sellable product List.mem_cons_self) fun p hp => hnew p (List.mem_append_right rest hp)
    obtain ⟨next, hadd⟩ := htaken
    have hfit : Fit (rest ++ next.products) :=
      h.perm (List.perm_middle.symm.trans ((perm_of_add hadd).symm.append_left rest))
    rw [foldlM_add_of_ok hadd]
    exact ih hfit

theorem products_append_empty (products : List Product) : products ++ empty.products = products :=
  List.append_nil products

theorem perm_of_ofProducts (h : ofProducts products = .ok catalog) : catalog.products.Perm products := by
  rw [← products_append_empty products]
  exact perm_of_foldlM h

theorem exists_ofProducts (h : Fit products) : ∃ catalog, ofProducts products = .ok catalog := by
  rw [← products_append_empty products] at h
  exact exists_foldlM h

/-- The catalog of products is the one that lists them. -/
theorem ofProducts_eq_ok_iff : ofProducts products = .ok catalog ↔ catalog.products.Perm products := by
  refine ⟨perm_of_ofProducts, fun h => ?_⟩
  obtain ⟨other, hother⟩ := exists_ofProducts (catalog.fit_products.perm h)
  rw [hother, eq_of_perm ((perm_of_ofProducts hother).trans h.symm)]

/-- Where products make up no catalog, those before some one do, and that one is refused behind them. -/
theorem split_of_foldlM_eq_error (h : products.foldlM add catalog = .error e) :
    ∃ before product behind next, products = before ++ product :: behind ∧
      before.foldlM add catalog = .ok next ∧ next.add product = .error e := by
  induction products generalizing catalog with
  | nil => cases h
  | cons product rest ih =>
    cases hadd : catalog.add product with
    | error e' =>
      rw [foldlM_add_of_error hadd] at h
      cases h
      exact ⟨[], product, rest, catalog, rfl, rfl, hadd⟩
    | ok next =>
      rw [foldlM_add_of_ok hadd] at h
      obtain ⟨before, refused, behind, last, rfl, hbefore, hrefused⟩ := ih h
      exact ⟨product :: before, refused, behind, last, rfl, (foldlM_add_of_ok hadd).trans hbefore, hrefused⟩

/-- Are there products that make up a catalog, and behind them one that is refused? -/
def FirstRefused (products : List Product) (e : CatalogError) : Prop :=
  ∃ before product behind, products = before ++ product :: behind ∧ Fit before ∧ Refused before product e

theorem ofProducts_eq_error_iff : ofProducts products = .error e ↔ FirstRefused products e := by
  constructor
  · intro h
    obtain ⟨before, product, behind, next, rfl, hbefore, hrefused⟩ := split_of_foldlM_eq_error h
    have hperm := ofProducts_eq_ok_iff.1 hbefore
    exact ⟨before, product, behind, rfl, next.fit_products.perm hperm,
      (add_eq_error_iff.1 hrefused).perm hperm⟩
  · rintro ⟨before, product, behind, rfl, hfit, hrefused⟩
    obtain ⟨next, hbefore⟩ := exists_ofProducts hfit
    have hperm := ofProducts_eq_ok_iff.1 hbefore
    have hadd := add_eq_error_iff.2 (hrefused.perm hperm.symm)
    rw [ofProducts] at hbefore
    rw [ofProducts, List.foldlM_append, hbefore]
    exact foldlM_add_of_error hadd

/-- What a catalog of products shows of them. -/
structure Shows (catalog : Catalog) (given : List Product) : Prop where
  /-- It lists them, each once. -/
  listed : catalog.products.Perm given
  /-- They stand in the order of the bytes of their SKUs. -/
  ascending : catalog.products.Pairwise fun p q => Text.bytes p.sku < Text.bytes q.sku
  /-- A SKU finds the product that has it. -/
  found : ∀ sku product, catalog.get? sku = some product ↔ product ∈ given ∧ product.sku = sku
  /-- It does not matter in which order they were given. -/
  unordered : ∀ others, others.Perm given → ofProducts others = .ok catalog

theorem ofProducts_eq_ok_iff_shows : ofProducts products = .ok catalog ↔ Shows catalog products := by
  constructor
  · intro h
    have hlisted := ofProducts_eq_ok_iff.1 h
    refine ⟨hlisted, ?_, fun sku product => ?_, fun others hothers => ?_⟩
    · exact catalog.ascending_products.imp Text.bytes_lt_bytes_iff.2
    · rw [get?_eq_some_iff, hlisted.mem_iff]
    · exact ofProducts_eq_ok_iff.2 (hlisted.trans hothers.symm)
  · exact fun h => h.unordered products (.refl _)

/-- Which products make up a catalog, what it shows then, and which product decides otherwise. -/
theorem ofProducts_decides (products : List Product) :
    ((∃ catalog, ofProducts products = .ok catalog) ↔ Fit products) ∧
      (∀ catalog, ofProducts products = .ok catalog ↔ Shows catalog products) ∧
      ∀ e, ofProducts products = .error e ↔ FirstRefused products e :=
  ⟨⟨fun ⟨catalog, h⟩ => catalog.fit_products.perm (ofProducts_eq_ok_iff.1 h), exists_ofProducts⟩,
    fun _ => ofProducts_eq_ok_iff_shows, fun _ => ofProducts_eq_error_iff⟩

end Storefront.Catalog
