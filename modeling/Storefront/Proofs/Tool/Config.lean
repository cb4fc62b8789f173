import Mathlib.Logic.Function.Basic
import Storefront.Proofs.Channel.Handling
import Storefront.Proofs.ExchangeRate
import Storefront.Proofs.Shop.Layout
import Storefront.Tool.Config

/-!
# Configurations are of use

Each setting is read from one variable. A value that is of no use counts as none and has no say in what another
variable sets, and what comes of any values fits those who work with it: the shop, the source of rates and, if
the number of announcements that may wait is not too great, their channel.
-/

namespace Storefront.ToolConfig

/-! ## Settings -/

/-- What a variable sets. -/
inductive Setting where
  | root
  | catalog
  | payType
  | account
  | shipCharge
  | operator
  | exchangeRate
  | eventBuffer
  deriving DecidableEq

/-- The text is a whole number: its digits, which a plus sign may precede. -/
def Tells (text : String) (n : Nat) : Prop :=
  ∃ ds, (text.toList = ds ∨ text.toList = '+' :: ds) ∧ ds ≠ [] ∧ ds.all Text.isDigit = true ∧
    Nat.ofDigitChars 10 ds 0 = n

namespace Setting

/-- The variable. -/
def name : Setting → String
  | root => "SSTORE_ROOT"
  | catalog => "SSTORE_CATALOG"
  | payType => "SSTORE_PAY_TYPE"
  | account => "SSTORE_ACCOUNT"
  | shipCharge => "SSTORE_SHIP_CHARGE"
  | operator => "SSTORE_OPERATOR_ID"
  | exchangeRate => "SSTORE_EXCHANGE_RATE"
  | eventBuffer => "SSTORE_EVENT_BUFFER"

/-- The text is a value for the setting. -/
def Accepts : Setting → String → Prop
  | root, _ | catalog, _ | account, _ => True
  | payType, text => ∃ payType, PayType.parse text = .ok payType
  | shipCharge, text => ∃ dollars cents, Binary64.parse? text = some dollars ∧
      Cents.ofDollars dollars = .ok cents ∧ 0 ≤ cents.toInt
  | operator, text => ∃ user, UserId.parse text = .ok user
  | exchangeRate, text => ∃ rate, Binary64.parse? text = some rate ∧ ExchangeRate.isUsable rate = true
  | eventBuffer, text => ∃ n, Tells text n ∧ 0 < n ∧ n < UInt64.size

/-- The configuration has what the text stands for. -/
def Holds : Setting → String → ToolConfig → Prop
  | root, text, c => c.root = text
  | catalog, text, c => c.catalog = text
  | payType, text, c => PayType.parse text = .ok c.payType
  | account, text, c => c.account = text
  | shipCharge, text, c => ∃ dollars, Binary64.parse? text = some dollars ∧ Cents.ofDollars dollars = .ok c.shipCharge
  | operator, text, c => ∃ user, c.operator = some user ∧ user.text = text
  | exchangeRate, text, c => ∃ rate, c.exchangeRate = some rate ∧ Binary64.parse? text = some rate
  | eventBuffer, text, c => Tells text c.eventBuffer

/-- The configurations do not differ in the setting. -/
def Agrees : Setting → ToolConfig → ToolConfig → Prop
  | root, c, c' => c.root = c'.root
  | catalog, c, c' => c.catalog = c'.catalog
  | payType, c, c' => c.payType = c'.payType
  | account, c, c' => c.account = c'.account
  | shipCharge, c, c' => c.shipCharge = c'.shipCharge
  | operator, c, c' => c.operator = c'.operator
  | exchangeRate, c, c' => c.exchangeRate = c'.exchangeRate
  | eventBuffer, c, c' => c.eventBuffer = c'.eventBuffer

theorem name_injective : Function.Injective name := by
  intro s t
  cases s <;> cases t <;> decide

/-- There is nothing in a configuration but its settings. -/
theorem eq_of_agrees {c c' : ToolConfig} (h : ∀ s : Setting, s.Agrees c c') : c = c' := by
  obtain ⟨root, catalog, payType, account, shipCharge, operator, exchangeRate, eventBuffer⟩ := c
  obtain rfl := h .root
  obtain rfl := h .catalog
  obtain rfl := h .payType
  obtain rfl := h .account
  obtain rfl := h .shipCharge
  obtain rfl := h .operator
  obtain rfl := h .exchangeRate
  obtain rfl := h .eventBuffer
  rfl

end Setting

/-! ## Values -/

variable {text : String} {n : Nat} {cents : Cents} {rate : Binary64}

theorem tells_of_plus {ds : List Char} (h : text.toList = '+' :: ds) :
    Tells text n ↔ Text.ofDigits? ds = some n := by
  rw [Text.ofDigits?_eq_some_iff]
  constructor
  · rintro ⟨ds', htext | htext, hds'⟩
    · have hall := hds'.2.1
      rw [← htext, h, List.all_cons] at hall
      cases hall
    · obtain ⟨-, rfl⟩ := List.cons.inj (h.symm.trans htext)
      exact hds'
  · exact fun hds => ⟨ds, .inr h, hds⟩

theorem tells_of_not_plus (h : ∀ ds, text.toList ≠ '+' :: ds) :
    Tells text n ↔ Text.ofDigits? text.toList = some n := by
  rw [Text.ofDigits?_eq_some_iff]
  constructor
  · rintro ⟨ds, htext | htext, hds⟩
    · rwa [htext]
    · exact absurd htext (h ds)
  · exact fun htext => ⟨_, .inl rfl, htext⟩

theorem bind_bounded_eq_some_iff {x : Option Nat} {bound : Nat} :
    (x >>= fun n => if 0 < n ∧ n < bound then some n else none) = some n ↔ x = some n ∧ 0 < n ∧ n < bound := by
  simp only [Option.bind_eq_bind, Option.bind_eq_some_iff, Option.ite_none_right_eq_some, Option.some.injEq]
  constructor
  · rintro ⟨n, hx, hbounds, rfl⟩
    exact ⟨hx, hbounds⟩
  · rintro ⟨hx, hbounds⟩
    exact ⟨n, hx, hbounds, rfl⟩

theorem readCount?_eq_some_iff : readCount? text = some n ↔ Tells text n ∧ 0 < n ∧ n < UInt64.size := by
  unfold readCount?
  rw [bind_bounded_eq_some_iff]
  refine and_congr_left fun _ => ?_
  split
  · next ds htext => exact (tells_of_plus htext).symm
  · next htext => exact (tells_of_not_plus htext).symm

theorem toOption_eq_some_iff {ε α : Type} {x : Except ε α} {a : α} : x.toOption = some a ↔ x = .ok a := by
  cases x <;> simp [Except.toOption]

theorem readCharge?_eq_some_iff : readCharge? text = some cents ↔
    ∃ dollars, Binary64.parse? text = some dollars ∧ Cents.ofDollars dollars = .ok cents ∧
      0 ≤ cents.toInt := by
  simp only [readCharge?, Option.bind_eq_bind, Option.bind_eq_some_iff, Option.ite_none_right_eq_some,
    Option.some.injEq]
  constructor
  · rintro ⟨dollars, hparse, cents, hcents, hnonneg, rfl⟩
    exact ⟨dollars, hparse, toOption_eq_some_iff.1 hcents, hnonneg⟩
  · rintro ⟨dollars, hparse, hcents, hnonneg⟩
    exact ⟨dollars, hparse, cents, toOption_eq_some_iff.2 hcents, hnonneg, rfl⟩

theorem readRate?_eq_some_iff : readRate? text = some rate ↔
    Binary64.parse? text = some rate ∧ ExchangeRate.isUsable rate = true := by
  rw [readRate?, Option.filter_eq_some_iff]

/-! ## Variables -/

variable {value? other? : String → Option String} {s t : Setting}

/-- A setting is read from its variable, and the place of the catalog from the one of the root as well. -/
theorem agrees_of_eq (h : value? s.name = other? s.name)
    (hroot : s = .catalog → value? Setting.root.name = other? Setting.root.name) :
    s.Agrees (ofVariables value?) (ofVariables other?) := by
  cases s with
  | root => exact congrArg (Option.getD · _) h
  | catalog =>
    exact congrArg₂ (fun catalog root => Option.getD catalog (join (Option.getD root _) _)) h (hroot rfl)
  | payType => exact congrArg (fun value => Option.getD (value >>= _) _) h
  | account => exact congrArg (Option.getD · _) h
  | shipCharge => exact congrArg (fun value => Option.getD (value >>= _) _) h
  | operator => exact congrArg (· >>= _) h
  | exchangeRate => exact congrArg (· >>= _) h
  | eventBuffer => exact congrArg (fun value => Option.getD (value >>= _) _) h

theorem eventBuffer_of_tells (hvalue : value? Setting.eventBuffer.name = some text) (htells : Tells text n)
    (hpos : 0 < n) (hsize : n < UInt64.size) : (ofVariables value?).eventBuffer = n := by
  have hread : value? Setting.eventBuffer.name >>= readCount? = some n :=
    Option.bind_eq_some_iff.2 ⟨text, hvalue, readCount?_eq_some_iff.2 ⟨htells, hpos, hsize⟩⟩
  show (value? Setting.eventBuffer.name >>= readCount?).getD defaultBuffer = n
  rw [hread, Option.getD_some]

/-- A value is taken as it stands. -/
theorem holds_of_accepts (h : value? s.name = some text) (hgood : s.Accepts text) :
    s.Holds text (ofVariables value?) := by
  have htaken : ∀ {α : Type} {read : String → Option α} {a : α}, read text = some a →
      value? s.name >>= read = some a := fun hread => Option.bind_eq_some_iff.2 ⟨text, h, hread⟩
  cases s with
  | root | catalog | account => exact congrArg (Option.getD · _) h
  | payType =>
    obtain ⟨p, hp⟩ := hgood
    have hread : (PayType.parse text).toOption = some p := toOption_eq_some_iff.2 hp
    have hset : (ofVariables value?).payType = p :=
      congrArg (Option.getD · _) (@htaken _ (fun word => (PayType.parse word).toOption) _ hread)
    exact hp.trans (congrArg Except.ok hset.symm)
  | shipCharge =>
    obtain ⟨dollars, cents, hdollars, hcents, hnonneg⟩ := hgood
    have hset : (ofVariables value?).shipCharge = cents :=
      congrArg (Option.getD · _) (htaken (readCharge?_eq_some_iff.2 ⟨dollars, hdollars, hcents, hnonneg⟩))
    exact ⟨dollars, hdollars, hset ▸ hcents⟩
  | operator =>
    obtain ⟨user, huser⟩ := hgood
    exact ⟨user, htaken (toOption_eq_some_iff.2 huser), UserId.parse_eq_ok_iff.1 huser⟩
  | exchangeRate =>
    obtain ⟨rate, hrate⟩ := hgood
    exact ⟨rate, htaken (readRate?_eq_some_iff.2 hrate), hrate.1⟩
  | eventBuffer =>
    obtain ⟨n, htells, hpos, hsize⟩ := hgood
    rwa [← eventBuffer_of_tells h htells hpos hsize] at htells

theorem bind_eq_bind_of_refused {α : Type} {read : String → Option α} {value other : Option String}
    (hread : ∀ a, read text ≠ some a) (hvalue : value = some text) (hother : other = none) :
    value >>= read = other >>= read := by
  rw [hvalue, hother]
  exact Option.eq_none_iff_forall_ne_some.2 hread

/-- A value that is of no use counts as none. -/
theorem agrees_of_not_accepts (hbad : ¬ s.Accepts text) (h : value? s.name = some text)
    (hnone : other? s.name = none) : s.Agrees (ofVariables value?) (ofVariables other?) := by
  cases s with
  | root | catalog | account => exact absurd trivial hbad
  | payType =>
    have hread : ∀ p, (PayType.parse text).toOption ≠ some p :=
      fun p hp => hbad ⟨p, toOption_eq_some_iff.1 hp⟩
    exact congrArg (Option.getD · _) (bind_eq_bind_of_refused hread h hnone)
  | shipCharge =>
    have hread : ∀ cents, readCharge? text ≠ some cents := by
      intro cents hcents
      obtain ⟨dollars, hdollars⟩ := readCharge?_eq_some_iff.1 hcents
      exact hbad ⟨dollars, cents, hdollars⟩
    exact congrArg (Option.getD · _) (bind_eq_bind_of_refused hread h hnone)
  | operator =>
    have hread : ∀ user, (UserId.parse text).toOption ≠ some user :=
      fun user huser => hbad ⟨user, toOption_eq_some_iff.1 huser⟩
    exact bind_eq_bind_of_refused hread h hnone
  | exchangeRate =>
    have hread : ∀ rate, readRate? text ≠ some rate :=
      fun rate hrate => hbad ⟨rate, readRate?_eq_some_iff.1 hrate⟩
    exact bind_eq_bind_of_refused hread h hnone
  | eventBuffer =>
    have hread : ∀ n, readCount? text ≠ some n := fun n hn => hbad ⟨n, readCount?_eq_some_iff.1 hn⟩
    exact congrArg (Option.getD · _) (bind_eq_bind_of_refused hread h hnone)

/-- A variable has no say in what the others set, but that the root has one in where the catalog lies. -/
theorem agrees_of_ne (value? : String → Option String) (hts : t ≠ s) (hcatalog : s = .root → t ≠ .catalog)
    (v w : Option String) :
    t.Agrees (ofVariables (Function.update value? s.name v)) (ofVariables (Function.update value? s.name w)) := by
  have hkept : ∀ t : Setting, t ≠ s → ∀ v, Function.update value? s.name v t.name = value? t.name :=
    fun t ht v => Function.update_of_ne (Setting.name_injective.ne ht) v value?
  refine agrees_of_eq (by rw [hkept t hts, hkept t hts]) fun ht => ?_
  have hroot : .root ≠ s := fun hs => hcatalog hs.symm ht
  rw [hkept _ hroot, hkept _ hroot]

/-- A value that is of no use is as good as none, whatever else is set. -/
theorem ofVariables_of_not_accepts (value? : String → Option String) (hbad : ¬ s.Accepts text) :
    ofVariables (Function.update value? s.name (some text)) =
      ofVariables (Function.update value? s.name none) := by
  refine Setting.eq_of_agrees fun t => ?_
  by_cases hts : t = s
  · rw [hts]
    exact agrees_of_not_accepts hbad (Function.update_self ..) (Function.update_self ..)
  · refine agrees_of_ne value? hts ?_ _ _
    rintro rfl
    exact absurd trivial hbad

theorem toInt_shipCharge_nonneg (value? : String → Option String) :
    0 ≤ (ofVariables value?).shipCharge.toInt := by
  show 0 ≤ ((value? "SSTORE_SHIP_CHARGE" >>= readCharge?).getD .zero).toInt
  cases hread : value? "SSTORE_SHIP_CHARGE" >>= readCharge? with
  | none => decide
  | some cents =>
    obtain ⟨text, -, hcents⟩ := Option.bind_eq_some_iff.1 hread
    obtain ⟨-, -, -, hnonneg⟩ := readCharge?_eq_some_iff.1 hcents
    exact hnonneg

theorem isUsable_of_exchangeRate (h : (ofVariables value?).exchangeRate = some rate) :
    ExchangeRate.isUsable rate = true := by
  obtain ⟨text, -, hrate⟩ := Option.bind_eq_some_iff.1 h
  exact (readRate?_eq_some_iff.1 hrate).2

theorem text_of_operator {user : UserId} (h : (ofVariables value?).operator = some user) :
    value? Setting.operator.name = some user.text := by
  obtain ⟨text, hvalue, huser⟩ := Option.bind_eq_some_iff.1 h
  rw [UserId.parse_eq_ok_iff.1 (toOption_eq_some_iff.1 huser)]
  exact hvalue

/-! ## Announcements that wait -/

theorem eventBuffer_cases (value? : String → Option String) :
    (ofVariables value?).eventBuffer = defaultBuffer ∨
      ∃ text, value? Setting.eventBuffer.name = some text ∧ Tells text (ofVariables value?).eventBuffer ∧
        0 < (ofVariables value?).eventBuffer ∧ (ofVariables value?).eventBuffer < UInt64.size := by
  have hbuffer : (ofVariables value?).eventBuffer =
      (value? Setting.eventBuffer.name >>= readCount?).getD defaultBuffer := rfl
  rw [hbuffer]
  cases hread : value? Setting.eventBuffer.name >>= readCount? with
  | none => exact .inl rfl
  | some n =>
    obtain ⟨text, hvalue, hn⟩ := Option.bind_eq_some_iff.1 hread
    exact .inr ⟨text, hvalue, readCount?_eq_some_iff.1 hn⟩

theorem eventBuffer_pos (value? : String → Option String) : 0 < (ofVariables value?).eventBuffer := by
  rcases eventBuffer_cases value? with hdefault | ⟨-, -, -, hpos, -⟩
  · rw [hdefault]
    decide
  · exact hpos

/-- More announcements are to wait than may wait in any channel. -/
def AsksTooMuch (value? : String → Option String) : Prop :=
  ∃ text n, value? Setting.eventBuffer.name = some text ∧ Tells text n ∧ Channel.greatestCapacity < n ∧
    n < UInt64.size

theorem greatestCapacity_lt_eventBuffer_iff :
    Channel.greatestCapacity < (ofVariables value?).eventBuffer ↔ AsksTooMuch value? := by
  constructor
  · intro h
    rcases eventBuffer_cases value? with hdefault | ⟨text, hvalue, htells, -, hsize⟩
    · rw [hdefault] at h
      exact absurd h (by decide)
    · exact ⟨text, _, hvalue, htells, h, hsize⟩
  · rintro ⟨text, n, hvalue, htells, hgreat, hsize⟩
    rwa [eventBuffer_of_tells hvalue htells (Nat.zero_lt_of_lt hgreat) hsize]

/-- There is a channel in which as many announcements may wait as the configuration says. -/
def HasChannel (c : ToolConfig) : Prop :=
  1 ≤ max 1 c.eventBuffer ∧ max 1 c.eventBuffer ≤ Channel.greatestCapacity ∧
    ∀ α, ∃ channel : Channel α, Channel.new c.eventBuffer = .ok channel ∧
      channel.capacity = max 1 c.eventBuffer

theorem hasChannel_iff {c : ToolConfig} : c.HasChannel ↔ c.eventBuffer ≤ Channel.greatestCapacity := by
  constructor
  · rintro ⟨-, hgreatest, -⟩
    exact (Nat.le_max_right _ _).trans hgreatest
  · intro h
    refine ⟨Nat.le_max_left _ _, Nat.max_le.2 ⟨by decide, h⟩, fun α => ?_⟩
    obtain ⟨channel, hnew⟩ : ∃ channel : Channel α, Channel.new c.eventBuffer = .ok channel :=
      Channel.exists_new h
    exact ⟨channel, hnew, (Channel.of_new_eq_ok hnew).2.1⟩

/-! ## Use -/

/-- What can be relied on whatever the variables hold. -/
structure Dependable (value? : String → Option String) : Prop where
  /-- A value that is of use is taken as it stands. -/
  taken : ∀ (s : Setting) text, value? s.name = some text → s.Accepts text → s.Holds text (ofVariables value?)
  shipCharge : 0 ≤ (ofVariables value?).shipCharge.toInt
  /-- A rate is a finite number above zero, -/
  exchangeRate : ∀ rate, (ofVariables value?).exchangeRate = some rate →
    ∃ m : Magnitude, 0 < m.units ∧ rate = .finite false m
  /-- so that the source of rates gives none that is of no use. -/
  quote : ∀ rate, (ofVariables value?).quote.rate? = some rate → ExchangeRate.isUsable rate = true
  /-- An operator is a user who is named. -/
  operator : ∀ user, (ofVariables value?).operator = some user →
    value? Setting.operator.name = some user.text ∧ UserId.isSafe user.text = true
  /-- At least one announcement may wait, -/
  buffer : 0 < (ofVariables value?).eventBuffer
  /-- and as many as are asked for wherever a channel can have room for them. -/
  channel : (ofVariables value?).HasChannel ↔ ¬ AsksTooMuch value?
  /-- A value that is of no use counts as none, -/
  ignored : ∀ (s : Setting) text, ¬ s.Accepts text →
    ofVariables (Function.update value? s.name (some text)) =
      ofVariables (Function.update value? s.name none)
  /-- and has no say in anything else that is set. -/
  apart : ∀ (s : Setting) text, ¬ s.Accepts text → ∀ t, t ≠ s → ∀ v,
    t.Agrees (ofVariables (Function.update value? s.name (some text)))
      (ofVariables (Function.update value? s.name v))

/-- Whatever the variables are, every value of use is taken, one of no use counts as none and touches nothing else, and
the only thing that can fail is a channel that is asked to have more room than there can be. -/
theorem dependable (value? : String → Option String) : Dependable value? where
  taken := fun _ _ => holds_of_accepts
  shipCharge := toInt_shipCharge_nonneg value?
  exchangeRate := fun _ h => ExchangeRate.isUsable_iff.1 (isUsable_of_exchangeRate h)
  quote := by
    intro rate h
    unfold quote at h
    split at h
    · next rate' hrate =>
      cases h
      exact isUsable_of_exchangeRate hrate
    · cases h
  operator := fun user h => ⟨text_of_operator h, user.safe⟩
  buffer := eventBuffer_pos value?
  channel := by
    rw [hasChannel_iff, ← greatestCapacity_lt_eventBuffer_iff, Nat.not_lt]
  ignored := fun _ _ => ofVariables_of_not_accepts value?
  apart := by
    intro s text hbad t hts v
    refine agrees_of_ne value? hts ?_ _ _
    rintro rfl
    exact absurd trivial hbad

/-- Variables that set nothing but how many announcements may wait. -/
def waiting (text : String) : String → Option String :=
  Function.update (fun _ => none) Setting.eventBuffer.name (some text)

/-- At the limit all is as it should be, and a user who is none is as good as no operator. -/
theorem dependable_at_limit :
    Dependable (waiting "+02305843009213693951") ∧ (ofVariables (waiting "+02305843009213693951")).HasChannel ∧
      ¬ Setting.operator.Accepts "../op" ∧
      ofVariables (Function.update (waiting "4") Setting.operator.name (some "../op")) =
        ofVariables (Function.update (waiting "4") Setting.operator.name none) := by
  have hbad : ¬ Setting.operator.Accepts "../op" := by
    rintro ⟨user, huser⟩
    cases huser
  have hfits : (ofVariables (waiting "+02305843009213693951")).eventBuffer ≤ Channel.greatestCapacity := by
    decide +kernel
  exact ⟨dependable _, hasChannel_iff.2 hfits, hbad, (dependable (waiting "4")).ignored .operator "../op" hbad⟩

/-- One more is taken as well, and no channel has room for it. -/
theorem no_channel_beyond_limit :
    ¬ (ofVariables (waiting "2305843009213693952")).HasChannel ∧
      (Channel.new (ofVariables (waiting "2305843009213693952")).eventBuffer : Except _ (Channel String)) =
        .error ⟨2305843009213693952⟩ := by
  have hbuffer : (ofVariables (waiting "2305843009213693952")).eventBuffer = 2305843009213693952 := by
    decide +kernel
  constructor
  · rw [hasChannel_iff, hbuffer]
    decide
  · rw [hbuffer]
    rfl

end Storefront.ToolConfig
