import Mathlib.Data.List.Basic
import Mathlib.Data.List.Nodup
import Storefront.Cart

/-!
# The lines of a filled cart

A cart into which products are put one after another, any of them again and again. Its lines are those
it had, followed by one for each new SKU where that SKU first came. A line keeps the product it was
made for, whatever is said of its SKU later. Its quantity has grown by the number of times its SKU
came, up to the greatest word of 32 bits.
-/

namespace Storefront

namespace CartItem

/-- A quantity with `n` units more, or the greatest quantity. -/
def grow (quantity : UInt32) (n : Nat) : UInt32 :=
  UInt32.ofNat (min (quantity.toNat + n) (UInt32.size - 1))

@[simp] theorem toNat_grow (q : UInt32) (n : Nat) :
    (grow q n).toNat = min (q.toNat + n) (UInt32.size - 1) := by
  have hlt : min (q.toNat + n) (UInt32.size - 1) < UInt32.size :=
    Nat.lt_of_le_of_lt (Nat.min_le_right _ _) (by decide)
  exact UInt32.toNat_ofNat_of_lt' hlt

@[simp] theorem grow_zero (q : UInt32) : grow q 0 = q := by
  have hq := q.toNat_lt
  refine UInt32.toNat_inj.1 ?_
  rw [toNat_grow, UInt32.size]
  omega

theorem grow_one (q : UInt32) : grow q 1 = raise q :=
  UInt32.toNat_inj.1 ((toNat_grow q 1).trans (toNat_raise q).symm)

theorem grow_grow (q : UInt32) (m n : Nat) : grow (grow q m) n = grow q (m + n) := by
  refine UInt32.toNat_inj.1 ?_
  rw [toNat_grow, toNat_grow, toNat_grow]
  omega

/-- How often a SKU comes in a row of products. -/
def occurrences (sku : String) (products : List Product) : Nat := products.countP (·.sku = sku)

/-- A line after a row of products was put into its cart. -/
def after (products : List Product) (item : CartItem) : CartItem :=
  ⟨item.product, grow item.quantity (occurrences item.product.sku products)⟩

/-- A line before the first unit is in it. -/
def blank (product : Product) : CartItem := ⟨product, 0⟩

variable {item : CartItem} {product : Product} {products : List Product}

theorem after_append (before products : List Product) (item : CartItem) :
    after (before ++ products) item = after products (after before item) := by
  rw [after, occurrences, List.countP_append, ← grow_grow]
  rfl

@[simp] theorem after_nil (item : CartItem) : after [] item = item := by
  rw [after, occurrences, List.countP_nil, grow_zero]

theorem after_of_ne (h : product.sku ≠ item.product.sku) : after [product] item = item := by
  rw [after, occurrences, List.countP_cons_of_neg (by simpa using h), List.countP_nil, grow_zero]

theorem after_of_eq (h : product.sku = item.product.sku) :
    after [product] item = ⟨item.product, raise item.quantity⟩ := by
  rw [after, occurrences, List.countP_cons_of_pos (by simpa using h), List.countP_nil, grow_one]

theorem after_cons_of_ne (h : product.sku ≠ item.product.sku) :
    after (product :: products) item = after products item := by
  rw [← List.singleton_append, after_append, after_of_ne h]

end CartItem

open CartItem (after blank)

variable {product : Product} {products : List Product} {items : List CartItem} {known : List String}

/-! ## One unit -/

/-- A product of a SKU that is there raises the line of that SKU. -/
theorem addUnit_of_mem (hdistinct : (items.map (·.product.sku)).Nodup)
    (h : product.sku ∈ items.map (·.product.sku)) :
    addUnit product items = items.map (after [product]) := by
  induction items with
  | nil => exact absurd h List.not_mem_nil
  | cons item rest ih =>
    rw [List.map_cons, List.nodup_cons] at hdistinct
    by_cases hsku : item.product.sku = product.sku
    · have hrest : rest.map (after [product]) = rest := by
        refine (List.map_congr_left fun other hother => ?_).trans (List.map_id rest)
        refine CartItem.after_of_ne fun heq => hdistinct.1 ?_
        exact List.mem_map.2 ⟨other, hother, heq.symm.trans hsku.symm⟩
      rw [addUnit, if_pos hsku, List.map_cons, hrest, CartItem.after_of_eq hsku.symm]
    · have hrest : product.sku ∈ rest.map (·.product.sku) :=
        (List.mem_cons.1 h).resolve_left (Ne.symm hsku)
      rw [addUnit, if_neg hsku, List.map_cons, ih hdistinct.2 hrest,
        CartItem.after_of_ne (Ne.symm hsku)]

/-- A product of another SKU has a line of its own, the last. -/
theorem addUnit_of_not_mem (h : product.sku ∉ items.map (·.product.sku)) :
    addUnit product items = items.map (after [product]) ++ [after [product] (blank product)] := by
  induction items with
  | nil =>
    have hline : after [product] (blank product) = ⟨product, 1⟩ := CartItem.after_of_eq rfl
    rw [hline]
    rfl
  | cons item rest ih =>
    rw [List.map_cons, List.mem_cons, not_or] at h
    rw [addUnit, if_neg (Ne.symm h.1), ih h.2, List.map_cons, List.cons_append,
      CartItem.after_of_ne h.1]

/-! ## New SKUs -/

/-- The products of SKUs that are not known yet, each where its SKU first comes. -/
def newcomers (known : List String) (products : List Product) : List Product :=
  (products.filter (·.sku ∉ known)).eraseDupsBy fun p q => p.sku == q.sku

theorem newcomers_cons_of_mem (h : product.sku ∈ known) :
    newcomers known (product :: products) = newcomers known products := by
  rw [newcomers, List.filter_cons_of_neg (by simpa using h)]
  rfl

theorem newcomers_cons_of_not_mem (h : product.sku ∉ known) :
    newcomers known (product :: products) =
      product :: newcomers (known ++ [product.sku]) products := by
  rw [newcomers, newcomers, List.filter_cons_of_pos (by simpa using h), List.eraseDupsBy_cons,
    List.filter_filter]
  congr 3
  funext other
  by_cases hother : other.sku = product.sku <;> simp [hother]

/-- The newcomers have each SKU that is not known, -/
theorem mem_skus_newcomers {sku : String} :
    sku ∈ (newcomers known products).map (·.sku) ↔ sku ∈ products.map (·.sku) ∧ sku ∉ known := by
  induction products generalizing known with
  | nil => exact ⟨fun h => absurd h List.not_mem_nil, fun h => absurd h.1 List.not_mem_nil⟩
  | cons product rest ih =>
    by_cases hknown : product.sku ∈ known
    · rw [newcomers_cons_of_mem hknown, ih, List.map_cons, List.mem_cons]
      refine ⟨fun h => ⟨.inr h.1, h.2⟩, fun h => ⟨h.1.resolve_left ?_, h.2⟩⟩
      rintro rfl
      exact h.2 hknown
    · rw [newcomers_cons_of_not_mem hknown, List.map_cons, List.mem_cons, ih, List.map_cons,
        List.mem_cons, List.mem_append, List.mem_singleton]
      constructor
      · rintro (rfl | ⟨hrest, hnew⟩)
        · exact ⟨.inl rfl, hknown⟩
        · exact ⟨.inr hrest, fun h => hnew (.inl h)⟩
      · rintro ⟨heq | hrest, hnew⟩
        · exact .inl heq
        · by_cases heq : sku = product.sku
          · exact .inl heq
          · exact .inr ⟨hrest, not_or.2 ⟨hnew, heq⟩⟩

/-- and none of them twice. -/
theorem nodup_skus_newcomers : ((newcomers known products).map (·.sku)).Nodup := by
  induction products generalizing known with
  | nil => exact List.nodup_nil
  | cons product rest ih =>
    by_cases hknown : product.sku ∈ known
    · rw [newcomers_cons_of_mem hknown]
      exact ih
    · rw [newcomers_cons_of_not_mem hknown, List.map_cons, List.nodup_cons]
      refine ⟨fun h => (mem_skus_newcomers.1 h).2 ?_, ih⟩
      exact List.mem_append_right _ (List.mem_singleton_self _)

namespace Cart

/-- The SKUs of the lines, in their order. -/
def skus (cart : Cart) : List String := cart.items.map (·.product.sku)

/-- The cart after a row of products was put into it, one unit of each at a time. -/
def addAll (cart : Cart) (products : List Product) : Cart := products.foldl add cart

variable {cart : Cart}

/-- New lines know nothing of a product of another SKU. -/
theorem map_after_cons {new : List Product} (h : product.sku ∉ new.map (·.sku)) :
    (items.map (after [product]) ++ new.map blank).map (after products) =
      (items ++ new.map blank).map (after (product :: products)) := by
  rw [List.map_append, List.map_append, List.map_map, List.map_map, List.map_map]
  refine congrArg₂ (· ++ ·) (List.map_congr_left fun item _ => ?_)
    (List.map_congr_left fun other hother => ?_)
  · exact (CartItem.after_append [product] products item).symm
  · have hne : product.sku ≠ other.sku := fun heq => h (List.mem_map.2 ⟨other, hother, heq.symm⟩)
    exact (CartItem.after_cons_of_ne hne).symm

theorem items_addAll (hdistinct : cart.skus.Nodup) :
    (cart.addAll products).items =
      (cart.items ++ (newcomers cart.skus products).map blank).map (after products) := by
  induction products generalizing cart with
  | nil =>
    rw [newcomers, List.filter_nil, List.eraseDupsBy_nil, List.map_nil, List.append_nil]
    exact ((List.map_congr_left fun item _ => CartItem.after_nil item).trans (List.map_id _)).symm
  | cons product rest ih =>
    show ((cart.add product).addAll rest).items = _
    by_cases hknown : product.sku ∈ cart.skus
    · have hitems : (cart.add product).items = cart.items.map (after [product]) :=
        addUnit_of_mem hdistinct hknown
      have hskus : (cart.add product).skus = cart.skus := by
        rw [skus, hitems, List.map_map]
        rfl
      rw [ih (hskus ▸ hdistinct), hskus, newcomers_cons_of_mem hknown, hitems]
      exact map_after_cons fun h => (mem_skus_newcomers.1 h).2 hknown
    · have hitems : (cart.add product).items =
          (cart.items ++ [blank product]).map (after [product]) := by
        rw [List.map_append]
        exact addUnit_of_not_mem hknown
      have hskus : (cart.add product).skus = cart.skus ++ [product.sku] := by
        rw [skus, hitems, List.map_map, List.map_append]
        rfl
      have hnodup : (cart.skus ++ [product.sku]).Nodup := List.nodup_append_comm.1
        (List.nodup_cons.2 ⟨hknown, hdistinct⟩)
      rw [newcomers_cons_of_not_mem hknown, List.map_cons, List.append_cons,
        ih (hskus ▸ hnodup), hskus, hitems]
      refine map_after_cons fun h => (mem_skus_newcomers.1 h).2 ?_
      exact List.mem_append_right _ (List.mem_singleton_self _)

theorem skus_addAll (hdistinct : cart.skus.Nodup) :
    (cart.addAll products).skus =
      cart.skus ++ (newcomers cart.skus products).map (·.sku) := by
  rw [skus, items_addAll hdistinct, List.map_map, List.map_append, List.map_map]
  rfl

theorem isSome_item?_iff {sku : String} : (cart.item? sku).isSome ↔ sku ∈ cart.skus := by
  rw [item?, List.find?_isSome, skus, List.mem_map]
  simp only [beq_iff_eq]

/-- What a cart with one line for each SKU has become when some products were put into it. -/
structure Filled (cart : Cart) (products : List Product) (filled : Cart) : Prop where
  /-- It still has one line for each SKU. -/
  distinct : filled.skus.Nodup
  /-- The lines it had come first, in their order and each with its product; then comes a line for
  each new SKU, with the product that brought it. Their quantities have grown by the number of times
  their SKU came, or are the greatest. -/
  lines : filled.items.map (fun line => (line.product, line.quantity.toNat)) =
    cart.items.map (fun line => (line.product,
      min (line.quantity.toNat + CartItem.occurrences line.product.sku products)
        (UInt32.size - 1))) ++
    (newcomers cart.skus products).map (fun product => (product,
      min (0 + CartItem.occurrences product.sku products) (UInt32.size - 1)))
  /-- A SKU has a line if it had one or if it came. -/
  found : ∀ sku, (filled.item? sku).isSome ↔ sku ∈ cart.skus ∨ sku ∈ products.map (·.sku)

/-- Adding products one by one to a cart keeps its lines in their places, appends a line for each new SKU in the order in
which they first come, and counts every unit up to the greatest quantity. -/
theorem filled_addAll (cart : Cart) (products : List Product) (hdistinct : cart.skus.Nodup) :
    Filled cart products (cart.addAll products) := by
  have hskus : (cart.addAll products).skus = _ := skus_addAll hdistinct
  refine ⟨?_, ?_, fun sku => ?_⟩
  · rw [hskus]
    refine List.nodup_append.2 ⟨hdistinct, nodup_skus_newcomers, fun sku hsku other hother => ?_⟩
    rintro rfl
    exact (mem_skus_newcomers.1 hother).2 hsku
  · have hline : (fun line : CartItem => (line.product, line.quantity.toNat)) ∘ after products =
        fun line => (line.product, min (line.quantity.toNat +
          CartItem.occurrences line.product.sku products) (UInt32.size - 1)) :=
      funext fun line => congrArg (Prod.mk line.product) (CartItem.toNat_grow _ _)
    rw [items_addAll hdistinct, List.map_map, hline, List.map_append, List.map_map]
    rfl
  · rw [isSome_item?_iff, hskus, List.mem_append, mem_skus_newcomers]
    by_cases hsku : sku ∈ cart.skus
    · exact ⟨fun _ => .inl hsku, fun _ => .inl hsku⟩
    · exact or_congr_right ⟨fun h => h.1, fun h => ⟨h, hsku⟩⟩

/-- A full line stays full, and a line keeps its title and price when its SKU comes with others. -/
theorem filled_addAll_full :
    let mug : Product := ⟨"mug", "Mug", ⟨1200⟩, ""⟩
    let cup : Product := ⟨"mug", "Cup", ⟨1500⟩, ""⟩
    let tee : Product := ⟨"tee", "Tee", ⟨2000⟩, ""⟩
    let cart : Cart := ⟨[⟨mug, 4294967294⟩], .epoch⟩
    cart.skus.Nodup ∧ Filled cart [cup, tee, cup, tee] (cart.addAll [cup, tee, cup, tee]) ∧
      (cart.addAll [cup, tee, cup, tee]).items = [⟨mug, 4294967295⟩, ⟨tee, 2⟩] :=
  ⟨by decide, filled_addAll _ _ (by decide), by decide⟩

end Cart

end Storefront
