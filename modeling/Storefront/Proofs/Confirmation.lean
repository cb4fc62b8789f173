import Storefront.Confirmation
import Storefront.Proofs.Money.Display
import Storefront.Proofs.Text.Lines

/-!
# The lines of a confirmation

Amounts, rates and numbers hold no line feed, so the lines that tell the totals are lines of the message as they
stand. The SKU and the title of a product and what a provider gave are taken as they are; where one holds a line
feed, its line is cut there, and what follows may look like any other line.
-/

namespace Storefront

open Text (Unbroken pieces unbroken_natText unbroken_ofList)

/-! ## Texts without line feeds -/

theorem Denomination.unbroken_write {d : Denomination} {f : Figures} (h : d.Canonical f) (hmark : Unbroken d.mark)
    (hcode : Unbroken d.code) : Unbroken (d.write f) := by
  intro hfeed
  rcases mem_write h hfeed with hsign | hpoint | hdigit | hmem | hmem
  · cases hsign
  · cases hpoint
  · cases hdigit
  · exact hmark hmem
  · exact hcode hmem

theorem Cents.unbroken_text (c : Cents) : Unbroken c.text := by
  rw [← c.write_figures]
  exact Denomination.unbroken_write c.canonical_figures (by decide) (by decide)

theorem Atoms.unbroken_text (a : Atoms) : Unbroken a.text := by
  rw [← a.write_figures]
  exact Denomination.unbroken_write a.canonical_figures (by decide) (by decide)

theorem OrderId.unbroken_text (id : OrderId) : Unbroken id.text :=
  Unbroken.append (by decide) (unbroken_natText _)

theorem Binary64.unbroken_twoPlaces (x : Binary64) : Unbroken x.twoPlaces := by
  have hsign : ∀ negative, Unbroken (signText negative) := by decide
  cases x with
  | nan => decide
  | infinite s => exact (hsign s).append (by decide)
  | finite s m =>
    exact (((hsign s).append (unbroken_natText _)).append (by decide)).append
      (unbroken_ofList (Text.all_isDigit_digitsPadded _ _))

theorem ExchangeRate.unbroken_text (rate : Binary64) : Unbroken (text rate) := by
  have hrate := rate.unbroken_twoPlaces
  exact (((hrate.append (by decide)).append (by decide)).append (by decide)).append (by decide)

namespace Confirmation

variable {order : Order} {resolution : Resolution}

/-- The line that thanks the buyer. -/
def thanks (order : Order) : String := "Thank you for placing your order " ++ order.id.text

/-- The line above the items. -/
def heading : String := "The following were the items in your order:"

/-- The line of what is to be paid for the whole order. -/
def totalLine (order : Order) : String := "Total amount: " ++ order.grandTotal.text ++ " " ++ baseCurrency

/-- The lines of what is charged for shipping, where it is charged. -/
def shippingLines (order : Order) : List String :=
  if order.chargesShipping then
    ["Total item amount: " ++ order.itemTotal.text ++ " " ++ baseCurrency,
      "Shipping and handling charge: " ++ order.shipCharge.text ++ " " ++ baseCurrency]
  else []

/-- The lines on how the order is to be paid. -/
def paymentLines : Resolution → List String
  | .onChain address => ["On-chain Payment Address: " ++ address]
  | .lightning invoice => ["LN Invoice for payment: " ++ invoice]
  | .contact => ["", "You will be contacted with payment details shortly"]
  | .unavailable _ => []

theorem totalLines_eq (order : Order) : totalLines order = shippingLines order ++ [totalLine order] := by
  unfold totalLines shippingLines totalLine
  rfl

theorem lines_eq (order : Order) :
    lines order = [thanks order, heading] ++ order.cart.items.map itemLine ++ shippingLines order ++
      [totalLine order] ++ quoteLines order := by
  unfold lines thanks heading
  rw [totalLines_eq, ← List.append_assoc]

theorem unbroken_thanks (order : Order) : Unbroken (thanks order) := by
  have hthanks : Unbroken "Thank you for placing your order " := by decide
  exact hthanks.append order.id.unbroken_text

theorem unbroken_inDollars {before : String} (hbefore : Unbroken before) (c : Cents) :
    Unbroken (before ++ c.text ++ " " ++ baseCurrency) :=
  ((hbefore.append c.unbroken_text).append (by decide)).append (by decide)

theorem unbroken_totalLine (order : Order) : Unbroken (totalLine order) :=
  unbroken_inDollars (by decide) _

theorem unbroken_of_mem_shippingLines {line : String} (h : line ∈ shippingLines order) : Unbroken line := by
  unfold shippingLines at h
  split at h
  · rcases List.mem_cons.1 h with rfl | h
    · exact unbroken_inDollars (by decide) _
    · rw [List.mem_singleton.1 h]
      exact unbroken_inDollars (by decide) _
  · cases h

theorem unbroken_of_mem_quoteLines {line : String} (h : line ∈ quoteLines order) : Unbroken line := by
  unfold quoteLines at h
  split at h
  · next rate _ =>
    split at h
    · rw [List.mem_singleton.1 h]
      exact ((((Unbroken.append (Unbroken.append (by decide) (ExchangeRate.unbroken_text rate))
        (by decide)).append (Atoms.unbroken_text _)).append (by decide)).append
          (unbroken_natText _)).append (by decide)
    · cases h
  · cases h

/-- The payment is all lines, though the note to the buyer who will be contacted has no line feed at its end. -/
theorem lines_payment (resolution : Resolution) :
    Text.lines (payment resolution) = (paymentLines resolution).flatMap pieces := by
  cases resolution with
  | onChain address =>
    show Text.lines ("On-chain Payment Address: " ++ address ++ "\n") = _
    rw [Text.lines_feed, paymentLines, List.flatMap_singleton]
  | lightning invoice =>
    show Text.lines ("LN Invoice for payment: " ++ invoice ++ "\n") = _
    rw [Text.lines_feed, paymentLines, List.flatMap_singleton]
  | contact => decide +kernel
  | unavailable reason => exact Text.lines_empty

theorem lines_text (order : Order) (resolution : Resolution) :
    Text.lines (text order resolution) =
      [thanks order, heading] ++ (order.cart.items.map itemLine).flatMap pieces ++ shippingLines order ++
        [totalLine order] ++ quoteLines order ++ (paymentLines resolution).flatMap pieces := by
  have hfirst : ∀ l ∈ [thanks order, heading], Unbroken l := by
    intro l hl
    rcases List.mem_cons.1 hl with rfl | hl
    · exact unbroken_thanks order
    · rw [List.mem_singleton.1 hl]
      decide
  have htotal : ∀ l ∈ [totalLine order], Unbroken l := by
    intro l hl
    rw [List.mem_singleton.1 hl]
    exact unbroken_totalLine order
  rw [text, Text.lines_join, lines_payment, lines_eq, List.flatMap_append, List.flatMap_append,
    List.flatMap_append, List.flatMap_append, Text.flatMap_pieces hfirst, Text.flatMap_pieces htotal,
    Text.flatMap_pieces fun _ => unbroken_of_mem_shippingLines,
    Text.flatMap_pieces fun _ => unbroken_of_mem_quoteLines]

/-! ## Orders whose texts hold no line feed -/

/-- Do the SKUs and titles in the cart and what the provider gave hold no line feed? -/
structure Plain (order : Order) (resolution : Resolution) : Prop where
  skus : ∀ item ∈ order.cart.items, Unbroken item.product.sku
  titles : ∀ item ∈ order.cart.items, Unbroken item.product.title
  addresses : ∀ address, resolution = .onChain address → Unbroken address
  invoices : ∀ invoice, resolution = .lightning invoice → Unbroken invoice

theorem unbroken_itemLine {item : CartItem} (hsku : Unbroken item.product.sku)
    (htitle : Unbroken item.product.title) : Unbroken (itemLine item) := by
  have hstart : Unbroken "  SKU " := by decide
  have hdash : Unbroken " - " := by decide
  have hunits : Unbroken " units - " := by decide
  have heach : Unbroken "/item - " := by decide
  exact ((((((((hstart.append hsku).append hdash).append htitle).append hdash).append
    (unbroken_natText _)).append hunits).append item.product.price.unbroken_text).append heach).append
      item.subtotal.unbroken_text

theorem Plain.unbroken_of_mem_paymentLines (h : Plain order resolution) {line : String}
    (hline : line ∈ paymentLines resolution) : Unbroken line := by
  cases resolution with
  | onChain address =>
    rw [List.mem_singleton.1 hline]
    exact Unbroken.append (by decide) (h.addresses _ rfl)
  | lightning invoice =>
    rw [List.mem_singleton.1 hline]
    exact Unbroken.append (by decide) (h.invoices _ rfl)
  | contact =>
    rcases List.mem_cons.1 hline with rfl | hline
    · decide
    · rw [List.mem_singleton.1 hline]
      decide +kernel
  | unavailable reason => cases hline

theorem Plain.lines_text (h : Plain order resolution) :
    Text.lines (text order resolution) =
      [thanks order, heading] ++ order.cart.items.map itemLine ++ shippingLines order ++
        [totalLine order] ++ quoteLines order ++ paymentLines resolution := by
  have hitems : ∀ l ∈ order.cart.items.map itemLine, Unbroken l := by
    intro l hl
    obtain ⟨item, hitem, rfl⟩ := List.mem_map.1 hl
    exact unbroken_itemLine (h.skus item hitem) (h.titles item hitem)
  rw [Confirmation.lines_text, Text.flatMap_pieces hitems,
    Text.flatMap_pieces fun _ => h.unbroken_of_mem_paymentLines]

/-! ## The line of the total -/

/-- Does the line start as the one of the total does? -/
def startsTotal (line : String) : Bool := "Total amount: ".toList.isPrefixOf line.toList

theorem startsTotal_append {before : String} (rest : String)
    (h : ("Total amount: ".toList.isPrefixOf before.toList ||
      before.toList.isPrefixOf "Total amount: ".toList) = false) : startsTotal (before ++ rest) = false := by
  rw [Bool.or_eq_false_iff] at h
  by_contra hstarts
  rw [Bool.not_eq_false, startsTotal, String.toList_append, List.isPrefixOf_iff_prefix] at hstarts
  rcases List.prefix_or_prefix_of_prefix hstarts (List.prefix_append before.toList rest.toList) with hle | hge
  · rw [List.isPrefixOf_iff_prefix.2 hle] at h
    cases h.1
  · rw [List.isPrefixOf_iff_prefix.2 hge] at h
    cases h.2

theorem startsTotal_totalLine (order : Order) : startsTotal (totalLine order) = true := by
  have hline : totalLine order = "Total amount: " ++ (order.grandTotal.text ++ (" " ++ baseCurrency)) := by
    unfold totalLine
    rw [String.append_assoc, String.append_assoc]
  rw [hline, startsTotal, List.isPrefixOf_iff_prefix, String.toList_append]
  exact List.prefix_append _ _

theorem startsTotal_itemLine (item : CartItem) : startsTotal (itemLine item) = false := by
  unfold itemLine
  simp only [String.append_assoc]
  exact startsTotal_append _ (by decide)

theorem startsTotal_of_mem_shippingLines {line : String} (h : line ∈ shippingLines order) :
    startsTotal line = false := by
  unfold shippingLines at h
  split at h
  · rcases List.mem_cons.1 h with rfl | h
    · simp only [String.append_assoc]
      exact startsTotal_append _ (by decide +kernel)
    · rw [List.mem_singleton.1 h]
      simp only [String.append_assoc]
      exact startsTotal_append _ (by decide +kernel)
  · cases h

theorem startsTotal_of_mem_quoteLines {line : String} (h : line ∈ quoteLines order) :
    startsTotal line = false := by
  unfold quoteLines at h
  split at h
  · split at h
    · rw [List.mem_singleton.1 h]
      simp only [String.append_assoc]
      exact startsTotal_append _ (by decide +kernel)
    · cases h
  · cases h

theorem startsTotal_of_mem_paymentLines {line : String} (h : line ∈ paymentLines resolution) :
    startsTotal line = false := by
  cases resolution with
  | onChain address =>
    rw [List.mem_singleton.1 h]
    exact startsTotal_append _ (by decide +kernel)
  | lightning invoice =>
    rw [List.mem_singleton.1 h]
    exact startsTotal_append _ (by decide +kernel)
  | contact =>
    rcases List.mem_cons.1 h with rfl | h
    · decide
    · rw [List.mem_singleton.1 h]
      decide +kernel
  | unavailable reason => cases h

theorem Plain.filter_startsTotal (h : Plain order resolution) :
    (Text.lines (text order resolution)).filter startsTotal = [totalLine order] := by
  have hthanks : startsTotal (thanks order) = false := startsTotal_append _ (by decide +kernel)
  have hheading : startsTotal heading = false := by decide +kernel
  have hnone : ∀ {ls : List String}, (∀ l ∈ ls, startsTotal l = false) → ls.filter startsTotal = [] :=
    fun hls => List.filter_eq_nil_iff.2 fun l hl => by rw [hls l hl]; exact Bool.false_ne_true
  have hitems : ∀ l ∈ order.cart.items.map itemLine, startsTotal l = false := by
    intro l hl
    obtain ⟨item, -, rfl⟩ := List.mem_map.1 hl
    exact startsTotal_itemLine item
  rw [h.lines_text, List.filter_append, List.filter_append, List.filter_append, List.filter_append,
    List.filter_append, hnone hitems, hnone fun _ => startsTotal_of_mem_shippingLines,
    hnone fun _ => startsTotal_of_mem_quoteLines, hnone fun _ => startsTotal_of_mem_paymentLines,
    List.filter_cons_of_neg (by rw [hthanks]; exact Bool.false_ne_true),
    List.filter_cons_of_neg (by rw [hheading]; exact Bool.false_ne_true),
    List.filter_cons_of_pos (startsTotal_totalLine order)]
  rfl

/-! ## The quote -/

theorem length_quoteLines (order : Order) :
    (quoteLines order).length = if 0 < order.settlementTotal.toInt then 1 else 0 := by
  unfold quoteLines
  split
  · split <;> rfl
  · next hrate =>
    have hnone : order.settlementTotal = .zero := by
      unfold Order.settlementTotal
      rw [hrate]
    rw [hnone]
    rfl

/-- How the lines of a message follow from the order and its resolution. -/
structure LaidOut (order : Order) (resolution : Resolution) (message : String) : Prop where
  /-- The lines stand in this order, those of the items and of the payment cut at the line feeds in them, and
  there are no others. -/
  lines : Text.lines message =
    [thanks order, heading] ++ (order.cart.items.map itemLine).flatMap pieces ++ shippingLines order ++
      [totalLine order] ++ quoteLines order ++ (paymentLines resolution).flatMap pieces
  /-- There are two lines on shipping if it is charged, and none else; -/
  shipping : (shippingLines order).length = if order.chargesShipping then 2 else 0
  /-- one line with a quote if the order settles for more than nothing, and none else. -/
  quote : (quoteLines order).length = if 0 < order.settlementTotal.toInt then 1 else 0
  /-- Where no text holds a line feed, each item has one line, and so has the payment, -/
  plain : Plain order resolution → Text.lines message =
    [thanks order, heading] ++ order.cart.items.map itemLine ++ shippingLines order ++ [totalLine order] ++
      quoteLines order ++ paymentLines resolution
  /-- and only one line starts as that of the total does: the one that tells it. -/
  total : Plain order resolution → (Text.lines message).filter startsTotal = [totalLine order]

theorem laidOut (order : Order) (resolution : Resolution) : LaidOut order resolution (text order resolution) where
  lines := lines_text order resolution
  shipping := by unfold shippingLines; split <;> rfl
  quote := length_quoteLines order
  plain := fun h => h.lines_text
  total := fun h => h.filter_startsTotal

end Confirmation

end Storefront
