import Storefront.Proofs.Confirmation
import Storefront.Proofs.Order.Totals

/-!
# The amounts in a confirmation

A buyer who goes by the message alone can check it. The last line of each item ends with what the item costs, and
the lines of the totals with the totals. While no total is beyond the greatest amount, the costs of the items add
up to the item total, and that and the charge for shipping to the total.
-/

namespace Storefront.Confirmation

open Amount (greatest)
open Denomination (base)
open Text (pieces Unbroken)

variable {order : Order} {resolution : Resolution} {item : CartItem}

/-- The amount with which a line ends, the code of the base currency behind it being passed over. -/
def amount? (line : String) : Option Int :=
  let cs := (Text.beforeEnd? (" " ++ baseCurrency).toList line.toList).getD line.toList
  base.read? (String.ofList (Text.splitLast ' ' cs).2)

theorem splitLast_blank_text (before : String) (c : Cents) :
    Text.splitLast ' ' (before ++ " " ++ c.text).toList = (before.toList, c.text.toList) := by
  have hlist : (before ++ " " ++ c.text).toList = before.toList ++ ' ' :: c.text.toList := by
    simp [String.toList_append]
  rw [hlist, Text.splitLast_append_sep _ c.blank_not_mem_text]

theorem amount?_text (before : String) (c : Cents) : amount? (before ++ " " ++ c.text) = some c.toInt := by
  have hcode : Text.beforeEnd? (" " ++ baseCurrency).toList (before ++ " " ++ c.text).toList = none := by
    cases hcut : Text.beforeEnd? (" " ++ baseCurrency).toList (before ++ " " ++ c.text).toList with
    | none => rfl
    | some rest =>
      -- else the code itself would be the amount
      have hlist : (before ++ " " ++ c.text).toList = rest ++ ' ' :: baseCurrency.toList :=
        Text.beforeEnd?_eq_some_iff.1 hcut
      have hsplit := splitLast_blank_text before c
      rw [hlist, Text.splitLast_append_sep _ (by decide)] at hsplit
      have hreads := c.shows_text.reads
      rw [← String.toList_inj.1 (congrArg Prod.snd hsplit)] at hreads
      have hnone : base.read? baseCurrency = none := by decide
      rw [hnone] at hreads
      cases hreads
  rw [amount?, hcode, Option.getD_none, splitLast_blank_text, String.ofList_toList]
  exact c.shows_text.reads

theorem amount?_text_code (before : String) (c : Cents) :
    amount? (before ++ " " ++ c.text ++ " " ++ baseCurrency) = some c.toInt := by
  have hcode : Text.beforeEnd? (" " ++ baseCurrency).toList
      (before ++ " " ++ c.text ++ " " ++ baseCurrency).toList = some (before ++ " " ++ c.text).toList := by
    rw [Text.beforeEnd?_eq_some_iff, @String.append_assoc _ " ", String.toList_append]
  rw [amount?, hcode, Option.getD_some, splitLast_blank_text, String.ofList_toList]
  exact c.shows_text.reads

/-! ## The lines of an order -/

theorem exists_itemLine (item : CartItem) : ∃ before, itemLine item = before ++ (" " ++ item.subtotal.text) := by
  have heach : "/item - " = "/item -" ++ " " := by decide
  unfold itemLine
  rw [heach, ← String.append_assoc, @String.append_assoc _ " "]
  exact ⟨_, rfl⟩

/-- However an item's texts are cut, its last line ends with what the item costs. -/
theorem amount?_last_itemLine (item : CartItem) :
    (pieces (itemLine item)).getLast?.bind amount? = some item.subtotal.toInt := by
  obtain ⟨before, hline⟩ := exists_itemLine item
  have hend : Unbroken (" " ++ item.subtotal.text) := Unbroken.append (by decide) item.subtotal.unbroken_text
  obtain ⟨last, hlast⟩ := Text.exists_getLast?_pieces_append before hend
  rw [hline, hlast, Option.bind_some, ← String.append_assoc]
  exact amount?_text last item.subtotal

theorem amount?_totalLine (order : Order) : amount? (totalLine order) = some order.grandTotal.toInt :=
  amount?_text_code "Total amount:" order.grandTotal

theorem amounts_shippingLines (h : order.chargesShipping = true) :
    (shippingLines order).map amount? = [some order.itemTotal.toInt, some order.shipCharge.toInt] := by
  have hitems := amount?_text_code "Total item amount:" order.itemTotal
  have hcharge := amount?_text_code "Shipping and handling charge:" order.shipCharge
  rw [shippingLines, if_pos h, List.map_cons, List.map_singleton]
  exact congrArg₂ (fun a b => [a, b]) hitems hcharge

/-! ## Sums -/

/-- The message tells these costs of the items, and totals that follow from them. -/
structure Reckons (order : Order) (subtotals : List Int) (message : String) : Prop where
  /-- Between the heading and the totals each item has its lines, and the last of these ends with its cost. -/
  items : ∃ (rows : List (List String)) (rest : List String),
    Text.lines message =
      [thanks order, heading] ++ rows.flatten ++ shippingLines order ++ [totalLine order] ++ rest ∧
      rows.map (fun row => row.getLast?.bind amount?) = subtotals.map some
  /-- If shipping is charged, the costs of the items add up to the item total, which comes before the charge; -/
  charged : order.chargesShipping = true →
    (shippingLines order).map amount? = [some subtotals.sum, some order.exactShipping]
  /-- if not, neither is told. -/
  uncharged : order.chargesShipping = false → shippingLines order = [] ∧ order.exactShipping = 0
  /-- The item total and the charge add up to the total. -/
  total : amount? (totalLine order) = some (subtotals.sum + order.exactShipping)

/-- What is told of the items adds up, and each item is told to cost what its units cost. -/
def AddsUp (order : Order) (message : String) : Prop :=
  Reckons order (order.cart.items.map CartItem.exactSubtotal) message

theorem toInt_subtotal_eq (h : NoneNegative order.cart.items) (hfits : exactTotal order.cart.items ≤ greatest)
    (hitem : item ∈ order.cart.items) : item.subtotal.toInt = item.exactSubtotal := by
  have hle : item.exactSubtotal ≤ exactTotal order.cart.items := by
    refine List.single_le_sum (fun cost hcost => ?_) _ (List.mem_map_of_mem hitem)
    obtain ⟨other, hother, rfl⟩ := List.mem_map.1 hcost
    exact CartItem.exactSubtotal_nonneg (h other hother)
  rw [CartItem.toInt_subtotal (h item hitem), Int.min_eq_left (Int.le_trans hle hfits)]

theorem exactShipping_nonneg (order : Order) : 0 ≤ order.exactShipping := by
  unfold Order.exactShipping
  split <;> omega

theorem addsUp (h : NoneNegative order.cart.items)
    (hfits : exactTotal order.cart.items + order.exactShipping ≤ greatest) (resolution : Resolution) :
    AddsUp order (text order resolution) := by
  have hitems : exactTotal order.cart.items ≤ greatest := by
    have := exactShipping_nonneg order
    omega
  have hitemTotal : order.itemTotal.toInt = exactTotal order.cart.items := by
    rw [Order.toInt_itemTotal h, Int.min_eq_left hitems]
  have hshipping := Order.exactShipping_eq h
  exact {
    items := by
      refine ⟨(order.cart.items.map itemLine).map pieces,
        quoteLines order ++ (paymentLines resolution).flatMap pieces, ?_, ?_⟩
      · rw [lines_text, List.flatMap_def, List.append_assoc _ (quoteLines order)]
      · rw [List.map_map, List.map_map, List.map_map]
        refine List.map_congr_left fun item hitem => ?_
        simp only [Function.comp_apply]
        rw [amount?_last_itemLine, toInt_subtotal_eq h hitems hitem]
    charged := fun hcharged => by
      rw [amounts_shippingLines hcharged, hitemTotal, hshipping, if_pos hcharged]
      rfl
    uncharged := fun huncharged => by
      have hnot : ¬ order.chargesShipping = true := by rw [huncharged]; exact Bool.false_ne_true
      rw [hshipping, if_neg hnot, shippingLines, if_neg hnot]
      exact ⟨rfl, rfl⟩
    total := by
      rw [amount?_totalLine, Order.toInt_grandTotal h, Int.min_eq_left hfits]
      rfl }

end Storefront.Confirmation
