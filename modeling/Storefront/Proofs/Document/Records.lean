import Storefront.Document.Records
import Storefront.Proofs.Json.Reader
import Storefront.Proofs.Money.Reread
import Storefront.Proofs.Text.Symbols
import Storefront.Proofs.Timestamp.Parser

/-!
# Reading documents that were written

A record that was written is read as itself but for its numbers with a point. A rate comes back as what its digits
are read as, and one that is not finite does not come back at all; an amount comes back as what is nearest to its
dollars. `reread` tells what comes back.
-/

namespace Storefront

open Json (Tree treeOf fieldTreesOf treesOf_eq_map intNumeral)

namespace Document

variable {α δ : Type}

/-- A document is one value, as far as its kind allows, and nothing behind it. -/
theorem decode_eq_ok_iff [Document α] {data : ByteArray} {a : α} :
    decode data = .ok a ↔ ∃ t, Json.readText (Text.symbols data) = (t, true) ∧ ofTree t = .ok a := by
  unfold decode decodeSymbols
  obtain ⟨t, clean⟩ := Json.readText (Text.symbols data)
  constructor
  · intro h
    cases hvalue : (ofTree t : Except Unreadable α) with
    | error e =>
      simp only [hvalue] at h
      cases h
    | ok b =>
      cases clean with
      | false =>
        simp only [hvalue] at h
        cases h
      | true =>
        simp only [hvalue] at h
        exact ⟨t, rfl, hvalue.trans h⟩
  · rintro ⟨t', heq, hvalue⟩
    obtain ⟨rfl, rfl⟩ := Prod.mk.inj heq
    simp only [hvalue]
    rfl

theorem decode_pretty [Document α] (v : Json) :
    (decode v.pretty.toUTF8 : Except Unreadable α) = ofTree (treeOf v) := by
  rw [decode, Text.symbols_toUTF8, decodeSymbols, Json.readText_pretty]
  dsimp only
  cases (ofTree (treeOf v) : Except Unreadable α) <;> rfl

theorem decode_encode [Document α] {a b : α} (h : ofTree (treeOf (toJson a)) = .ok b) :
    decode (encode a) = .ok b := by
  rw [encode, text, decode_pretty, h]

/-! ## Single values -/

theorem readString_treeOf (s : String) : readString (treeOf (.string s)) = .ok s := rfl

theorem readInt_treeOf {least greatest i : Int} (hlow : -(UInt64.size / 2 : Int) ≤ i)
    (hhigh : i < UInt64.size) (hleast : least ≤ i) (hgreatest : i ≤ greatest) :
    readInt least greatest (treeOf (.int i)) = .ok i := by
  rw [treeOf, readInt, Json.toInt?_intNumeral hlow hhigh]
  exact if_pos ⟨hleast, hgreatest⟩

theorem readNumber_treeOf (negative : Bool) (m : Magnitude) :
    readNumber (treeOf (.float negative m)) = .ok (Binary64.finite negative m).reread := by
  obtain ⟨m', -, -, hread, hreread⟩ := Binary64.exists_reread negative m
  rw [treeOf, readNumber, hread, hreread]

theorem readDollars_eq {t : Tree} {dollars : Binary64} {c : Cents} (hread : readNumber t = .ok dollars)
    (hcents : Cents.ofDollars dollars = .ok c) : readDollars t = .ok c := by
  simp only [readDollars, hread, bind, Except.bind, hcents]

theorem readDollars_treeOf (c : Cents) :
    readDollars (treeOf (.ofBinary64 c.dollars)) = .ok c.reread := by
  obtain ⟨d, hdollars, -, -⟩ := c.exists_dollars
  have hread : readNumber (treeOf (.ofBinary64 c.dollars)) = .ok c.dollars.reread := by
    rw [hdollars]
    exact readNumber_treeOf _ d
  exact readDollars_eq hread c.ofDollars_reread

theorem readOption_string (s : Option String) :
    readOption readString (treeOf (.ofOption .string s)) = .ok s := by
  cases s <;> rfl

/-- Only a finite number comes back. -/
theorem readOption_number (x : Option Binary64) :
    readOption readNumber (treeOf (.ofOption .ofBinary64 x)) =
      .ok ((x.filter Binary64.isFinite).map Binary64.reread) := by
  match x with
  | none => rfl
  | some (.finite negative m) =>
    show (some <$> readNumber (treeOf (.float negative m)) : Except Unreadable _) = _
    rw [readNumber_treeOf]
    rfl
  | some (.infinite _) => rfl
  | some .nan => rfl

theorem readList_treeOf [Document α] {f : α → α} (h : ∀ a : α, ofTree (treeOf (toJson a)) = .ok (f a))
    (as : List α) : readList ofTree (treeOf (.array (as.map toJson))) = .ok (as.map f) := by
  rw [treeOf, readList, treesOf_eq_map, List.map_map]
  induction as with
  | nil => rfl
  | cons a as ih => rw [List.map_cons, List.mapM_cons, Function.comp_apply, h, ih]; rfl

/-! ## Records -/

namespace Record

/-- A record is read field by field if it has no other fields. -/
theorem read_treeOf (r : Record δ α) {fields : List (String × Json)}
    (h : ∀ field ∈ fields, field.1 ∈ r.names) :
    r.read (treeOf (.object fields)) =
      (fields.foldlM (fun draft field => r.take field.1 (treeOf field.2) draft) r.start >>=
        r.complete) := by
  have hfold : ∀ draft : δ, (fieldTreesOf fields).foldlM r.takeField draft =
      fields.foldlM (fun draft field => r.take field.1 (treeOf field.2) draft) draft := by
    induction fields with
    | nil => exact fun _ => rfl
    | cons field fields ih =>
      obtain ⟨name, v⟩ := field
      intro draft
      have hname : name ∈ r.names := h (name, v) List.mem_cons_self
      rw [fieldTreesOf, List.foldlM_cons, List.foldlM_cons, takeField, if_pos hname]
      exact congrArg _ (funext (ih fun field hfield => h field (List.mem_cons_of_mem _ hfield)))
  rw [treeOf, read, hfold]

end Record

end Document

open Document

/-! ## Values by themselves -/

theorem UserId.ofTree_string (text : String) :
    (ofTree (.string (some text)) : Except Unreadable UserId) = (UserId.parse text).mapError .user := by
  cases hparse : UserId.parse text with
  | ok user => simp only [ofTree, readString, bind, Except.bind, hparse, Except.mapError]
  | error e => simp only [ofTree, readString, bind, Except.bind, hparse, Except.mapError]

/-- A user id is a text, and no other value. -/
theorem UserId.ofTree_eq_ok_iff {t : Tree} {user : UserId} :
    ofTree t = .ok user ↔ ∃ text, t = .string (some text) ∧ UserId.parse text = .ok user := by
  constructor
  · intro h
    cases t with
    | string s =>
      cases s with
      | none => cases h
      | some text =>
        rw [UserId.ofTree_string] at h
        refine ⟨text, rfl, ?_⟩
        cases hparse : UserId.parse text with
        | ok user' =>
          rw [hparse] at h
          exact congrArg Except.ok (Except.ok.inj h)
        | error e =>
          rw [hparse] at h
          cases h
    | null => cases h
    | bool b => cases h
    | number n => cases h
    | array items => cases h
    | object fields => cases h
    | cut => cases h
  · rintro ⟨text, rfl, hparse⟩
    rw [UserId.ofTree_string, hparse]
    rfl

theorem UserId.ofTree_treeOf (user : UserId) : ofTree (treeOf (toJson user)) = .ok user :=
  UserId.ofTree_eq_ok_iff.2 ⟨user.text, rfl, dif_pos user.safe⟩

theorem OrderId.ofTree_treeOf (id : OrderId) : ofTree (treeOf (toJson id)) = .ok id := by
  have hlt := id.toNat_lt
  have hread : readInt 0 (UInt64.size - 1) (treeOf (.int id.toNat)) = .ok (id.toNat : Int) :=
    readInt_treeOf (by omega) (by omega) (by omega) (by omega)
  show (readInt 0 (UInt64.size - 1) (treeOf (.int id.toNat)) >>= fun n =>
    pure ⟨n.toNat.toUInt64⟩ : Except Unreadable OrderId) = _
  rw [hread]
  exact congrArg Except.ok (OrderId.ext_toNat (UInt64.toNat_ofNat_of_lt' hlt))

theorem OrderStatus.ofTree_treeOf (status : OrderStatus) :
    ofTree (treeOf (toJson status)) = .ok status := by
  show readName OrderStatus.ofName? (.string (some status.name)) = _
  simp only [readName, OrderStatus.ofName?_name]

theorem PayType.ofTree_treeOf (payType : PayType) :
    ofTree (treeOf (toJson payType)) = .ok payType := by
  show readName PayType.ofName? (.string (some payType.name)) = _
  simp only [readName, PayType.ofName?_name]

theorem Timestamp.ofTree_treeOf (t : Timestamp) : ofTree (treeOf (toJson t)) = .ok t := by
  simp only [ofTree, toJson, readString_treeOf, bind, Except.bind, Timestamp.parse?_text]

theorem CartItem.readQuantity_treeOf (quantity : UInt32) :
    CartItem.readQuantity (treeOf (.int quantity.toNat)) = .ok quantity := by
  have hlt := quantity.toNat_lt
  have hread : readInt 0 (UInt32.size - 1) (treeOf (.int quantity.toNat)) =
      .ok (quantity.toNat : Int) :=
    readInt_treeOf (by omega) (by simp only [UInt64.size]; omega) (by omega)
      (by simp only [UInt32.size]; omega)
  rw [CartItem.readQuantity, hread]
  exact congrArg Except.ok (UInt32.toNat_inj.1 (UInt32.toNat_ofNat_of_lt' hlt))

/-! ## Products, carts and orders -/

/-- What comes back of a product. -/
def Product.reread (p : Product) : Product := { p with price := p.price.reread }

-- with the record taken apart, its other fields are not compared

theorem Product.sku_reread : ∀ p : Product, p.reread.sku = p.sku
  | ⟨_, _, _, _⟩ => rfl

theorem Product.ofTree_treeOf (p : Product) : ofTree (treeOf (toJson p)) = .ok p.reread := by
  refine (Product.record.read_treeOf (by simp [Product.record])).trans ?_
  simp only [List.foldlM_cons, List.foldlM_nil, Product.record, once, readString_treeOf,
    readDollars_treeOf]
  rfl

/-- What comes back of a line of a cart. -/
def CartItem.reread (item : CartItem) : CartItem := { item with product := item.product.reread }

theorem CartItem.product_reread : ∀ item : CartItem, item.reread.product = item.product.reread
  | ⟨_, _⟩ => rfl

theorem CartItem.quantity_reread : ∀ item : CartItem, item.reread.quantity = item.quantity
  | ⟨_, _⟩ => rfl

theorem CartItem.ofTree_treeOf (item : CartItem) :
    ofTree (treeOf (toJson item)) = .ok item.reread := by
  refine (CartItem.record.read_treeOf (by simp [CartItem.record])).trans ?_
  simp only [List.foldlM_cons, List.foldlM_nil, CartItem.record, once, Product.ofTree_treeOf,
    CartItem.readQuantity_treeOf]
  rfl

/-- What comes back of a cart. -/
def Cart.reread (cart : Cart) : Cart := { cart with items := cart.items.map CartItem.reread }

theorem Cart.items_reread : ∀ cart : Cart, cart.reread.items = cart.items.map CartItem.reread
  | ⟨_, _⟩ => rfl

theorem Cart.ofTree_treeOf (cart : Cart) : ofTree (treeOf (toJson cart)) = .ok cart.reread := by
  have hitems : ofTree (treeOf (toJson cart.items)) = .ok (cart.items.map CartItem.reread) :=
    readList_treeOf CartItem.ofTree_treeOf cart.items
  refine (Cart.record.read_treeOf (by simp [Cart.record])).trans ?_
  simp only [List.foldlM_cons, List.foldlM_nil, Cart.record, once, hitems, Timestamp.ofTree_treeOf]
  rfl

/-- What comes back of an order. -/
def Order.reread (order : Order) : Order :=
  { order with
    cart := order.cart.reread
    shipCharge := order.shipCharge.reread
    exchangeRate := (order.exchangeRate.filter Binary64.isFinite).map Binary64.reread }

theorem Order.user_reread : ∀ order : Order, order.reread.user = order.user
  | ⟨_, _, _, _, _, _, _, _, _⟩ => rfl

theorem Order.id_reread : ∀ order : Order, order.reread.id = order.id
  | ⟨_, _, _, _, _, _, _, _, _⟩ => rfl

theorem Order.cart_reread : ∀ order : Order, order.reread.cart = order.cart.reread
  | ⟨_, _, _, _, _, _, _, _, _⟩ => rfl

theorem Order.ofTree_treeOf (order : Order) : ofTree (treeOf (toJson order)) = .ok order.reread := by
  refine (Order.record.read_treeOf (by simp [Order.record])).trans ?_
  simp only [List.foldlM_cons, List.foldlM_nil, Order.record, once, UserId.ofTree_treeOf,
    Cart.ofTree_treeOf, OrderId.ofTree_treeOf, OrderStatus.ofTree_treeOf, Timestamp.ofTree_treeOf,
    readDollars_treeOf, readOption_number, PayType.ofTree_treeOf, readOption_string]
  rfl

/-- A cart document is read as what comes back of the cart. -/
theorem Cart.decode_encode (cart : Cart) : decode (encode cart) = .ok cart.reread :=
  Document.decode_encode cart.ofTree_treeOf

/-- An order document is read as what comes back of the order. -/
theorem Order.decode_encode (order : Order) : decode (encode order) = .ok order.reread :=
  Document.decode_encode order.ofTree_treeOf

end Storefront
