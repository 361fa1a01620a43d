import Daybreak.Numeric.Quantized
import Daybreak.Numeric.Significant
import Daybreak.Orchestration.Closes
import Mathlib.Algebra.BigOperators.Group.Finset.Basic
import Mathlib.Algebra.Order.BigOperators.Group.Finset
import Mathlib.Data.List.ReduceOption
import Mathlib.Data.String.Basic

/-! What is read off the orders of a day. The orders form trees of depth one, whose legs may be
nested, listed on their own, or both. Discovery and cancellation close the orders with the prefix
of the day over their legs in two ways, and both reach the same orders; the targets are the net
filled quantities of these, each order counted once, as long as the sums fit the digits of the
decimal context. -/

namespace Daybreak.Orchestration.AlpacaPaperOperations

open Numeric DecimalArithmetic Effect

variable {start : String} {orders : List (OrderJson Decimal)} {id parent child : String}
  {owned : List String}

/-! ### Trees of orders -/

/-- The orders and their legs. -/
def records (orders : List (OrderJson Decimal)) : List (OrderFields Decimal) :=
  orders.flatMap fun order => order.toOrderFields :: OrderJson.objects order

/-- A leg is nested in its order, or names it as its parent. -/
def LegOf (orders : List (OrderJson Decimal)) (parent child : String) : Prop :=
  (∃ order ∈ orders, order.id.str = parent ∧ ∃ leg ∈ OrderJson.objects order, leg.id.str = child) ∨
    ∃ order ∈ orders, order.parentOrderId.truthy = some parent ∧ order.id.str = child

def filledValue (record : OrderFields Decimal) : ℚ :=
  match record.filledQty with
  | .number x => value x
  | _ => 0

/-- The orders of an account: every order has an id and a symbol, is listed once, and may be nested
in its parent as well. No id is the text that a null field is read as. -/
structure Trees (orders : List (OrderJson Decimal)) : Prop where
  ids : ∀ record ∈ records orders, ∃ id, record.id = .text id ∧ id ≠ "" ∧ id ≠ "None"
  symbols : ∀ record ∈ records orders, record.symbol.truthy.isSome
  quantities : ∀ record ∈ records orders, record.filledQty ≠ .garbage
  copies : ∀ record ∈ records orders, ∀ copy ∈ records orders, record.id = copy.id →
    copy.symbol = record.symbol ∧ copy.side = record.side ∧ filledValue copy = filledValue record
  listedOnce : (orders.map (·.id)).Nodup
  depth : ∀ parent child leg, LegOf orders parent child → ¬ LegOf orders child leg

/-- The order carries the prefix, or is a leg of one that does. -/
def Owned (start : String) (orders : List (OrderJson Decimal)) (id : String) : Prop :=
  ∃ order ∈ orders, startsWith order.clientOrderId.str start = true ∧
    (order.id.str = id ∨ LegOf orders order.id.str id)

theorem mem_records_of_mem {order : OrderJson Decimal} (h : order ∈ orders) :
    order.toOrderFields ∈ records orders :=
  List.mem_flatMap.mpr ⟨order, h, List.mem_cons_self⟩

theorem leg_mem_records {order : OrderJson Decimal} {leg : OrderFields Decimal} (h : order ∈ orders)
    (hLeg : leg ∈ OrderJson.objects order) : leg ∈ records orders :=
  List.mem_flatMap.mpr ⟨order, h, List.mem_cons_of_mem _ hLeg⟩

theorem Trees.truthy_id (h : Trees orders) {record : OrderFields Decimal}
    (hRecord : record ∈ records orders) : record.id.truthy = some record.id.str := by
  obtain ⟨id, hId, hEmpty, -⟩ := h.ids record hRecord
  rw [hId, JsonText.truthy, if_neg hEmpty, JsonText.str]

/-- Listed orders with one id are one order. -/
theorem Trees.eq_of_id (h : Trees orders) {order other : OrderJson Decimal} (hOrder : order ∈ orders)
    (hOther : other ∈ orders) (hSame : order.id.str = other.id.str) : order = other := by
  obtain ⟨id, hId, -⟩ := h.ids _ (mem_records_of_mem hOrder)
  obtain ⟨id', hId', -⟩ := h.ids _ (mem_records_of_mem hOther)
  refine List.inj_on_of_nodup_map h.listedOnce hOrder hOther ?_
  rw [hId, hId'] at hSame ⊢
  exact congrArg JsonText.text hSame

theorem mem_legIds (h : Trees orders) {order : OrderJson Decimal} (hOrder : order ∈ orders) :
    id ∈ legIds order ↔ ∃ leg ∈ OrderJson.objects order, leg.id.str = id := by
  rw [legIds, List.mem_filterMap]
  constructor
  · rintro ⟨leg, hLeg, hId⟩
    rw [h.truthy_id (leg_mem_records hOrder hLeg)] at hId
    exact ⟨leg, hLeg, Option.some.inj hId⟩
  · rintro ⟨leg, hLeg, hId⟩
    rw [← hId]
    exact ⟨leg, hLeg, h.truthy_id (leg_mem_records hOrder hLeg)⟩

/-! ### The closures -/

/-- A leg of an owned order is owned: the order is no leg itself, so that it carries the prefix. -/
theorem Trees.owned_leg (h : Trees orders) (hOwned : Owned start orders parent)
    (hLeg : LegOf orders parent child) : Owned start orders child := by
  obtain ⟨order, hOrder, hCarries, rfl | hNested⟩ := hOwned
  · exact ⟨order, hOrder, hCarries, .inr hLeg⟩
  · exact absurd hLeg (h.depth _ _ _ hNested)

/-- The parent that an order names, as the source compares it. -/
theorem Trees.legOf_of_parent (h : Trees orders) {order : OrderJson Decimal}
    (hOrder : order ∈ orders) (hParent : Owned start orders order.parentOrderId.str) :
    LegOf orders order.parentOrderId.str order.id.str := by
  -- an owned id is the id of a record, neither empty nor that of a null field
  have hId : ∃ record ∈ records orders, record.id.str = order.parentOrderId.str := by
    obtain ⟨root, hRoot, -, hSelf | ⟨other, hOther, -, leg, hLeg, hSelf⟩ | ⟨other, hOther, -, hSelf⟩⟩ :=
      hParent
    · exact ⟨_, mem_records_of_mem hRoot, hSelf⟩
    · exact ⟨leg, leg_mem_records hOther hLeg, hSelf⟩
    · exact ⟨_, mem_records_of_mem hOther, hSelf⟩
  obtain ⟨record, hRecord, hSame⟩ := hId
  obtain ⟨id, hText, hEmpty, hNone⟩ := h.ids record hRecord
  rw [hText] at hSame
  refine .inr ⟨order, hOrder, ?_, rfl⟩
  cases hLink : order.parentOrderId with
  | absent => exact absurd (by simpa [JsonText.str, hLink] using hSame) hEmpty
  | null => exact absurd (by simpa [JsonText.str, hLink] using hSame) hNone
  | text s =>
    have hText : id = s := by simpa [JsonText.str, hLink] using hSame
    rw [JsonText.truthy, if_neg (hText ▸ hEmpty), JsonText.str]

theorem owned_subset_foldl_addLegs (orders : List (OrderJson Decimal)) :
    owned ⊆ orders.foldl addLegs owned := by
  induction orders generalizing owned with
  | nil => exact List.Subset.refl owned
  | cons order rest ih =>
    refine List.Subset.trans ?_ ih
    unfold addLegs
    split_ifs
    · exact List.subset_append_left owned _
    · exact List.Subset.refl owned

theorem owned_subset_foldl_addChild (orders : List (OrderJson Decimal)) :
    owned ⊆ orders.foldl addChild owned := by
  induction orders generalizing owned with
  | nil => exact List.Subset.refl owned
  | cons order rest ih =>
    refine List.Subset.trans ?_ ih
    unfold addChild
    split
    · exact List.Subset.refl owned
    · split_ifs
      · exact List.subset_append_left owned _
      · exact List.Subset.refl owned

theorem legIds_mem_foldl_addLegs {order : OrderJson Decimal} (hOrder : order ∈ orders)
    (hOwned : order.id.str ∈ owned) (hId : id ∈ legIds order) : id ∈ orders.foldl addLegs owned := by
  induction orders generalizing owned with
  | nil => cases hOrder
  | cons first rest ih =>
    rcases List.mem_cons.mp hOrder with rfl | hRest
    · refine owned_subset_foldl_addLegs rest ?_
      rw [addLegs, if_pos hOwned]
      exact List.mem_append_right owned hId
    · exact ih hRest (owned_subset_foldl_addLegs [first] hOwned)

theorem child_mem_foldl_addChild {order : OrderJson Decimal} (hOrder : order ∈ orders)
    (hId : order.id.truthy = some id) (hOwned : order.parentOrderId.str ∈ owned) :
    id ∈ orders.foldl addChild owned := by
  induction orders generalizing owned with
  | nil => cases hOrder
  | cons first rest ih =>
    rcases List.mem_cons.mp hOrder with rfl | hRest
    · refine owned_subset_foldl_addChild rest ?_
      simp only [addChild, hId, if_pos hOwned]
      exact List.mem_append_right owned (List.mem_singleton.mpr rfl)
    · exact ih hRest (owned_subset_foldl_addChild [first] hOwned)

theorem foldl_addLegs_owned (h : Trees orders) {rest : List (OrderJson Decimal)}
    (hRest : rest ⊆ orders) (hOwned : ∀ id ∈ owned, Owned start orders id) :
    ∀ id ∈ rest.foldl addLegs owned, Owned start orders id := by
  induction rest generalizing owned with
  | nil => exact hOwned
  | cons order rest ih =>
    obtain ⟨hOrder, hRest⟩ := List.cons_subset.mp hRest
    refine ih hRest ?_
    unfold addLegs
    split_ifs with hMem
    · intro id hId
      rcases List.mem_append.mp hId with hOld | hNew
      · exact hOwned id hOld
      · obtain ⟨leg, hLeg, hSame⟩ := (mem_legIds h hOrder).mp hNew
        exact h.owned_leg (hOwned _ hMem) (.inl ⟨order, hOrder, rfl, leg, hLeg, hSame⟩)
    · exact hOwned

theorem foldl_addChild_owned (h : Trees orders) {rest : List (OrderJson Decimal)}
    (hRest : rest ⊆ orders) (hOwned : ∀ id ∈ owned, Owned start orders id) :
    ∀ id ∈ rest.foldl addChild owned, Owned start orders id := by
  induction rest generalizing owned with
  | nil => exact hOwned
  | cons order rest ih =>
    obtain ⟨hOrder, hRest⟩ := List.cons_subset.mp hRest
    refine ih hRest ?_
    rw [addChild, h.truthy_id (mem_records_of_mem hOrder)]
    simp only
    split_ifs with hMem
    · intro id hId
      rcases List.mem_append.mp hId with hOld | hNew
      · exact hOwned id hOld
      · rw [List.mem_singleton.mp hNew]
        have hParent := hOwned _ hMem
        exact h.owned_leg hParent (h.legOf_of_parent hOrder hParent)
    · exact hOwned

/-- A child that is listed is found through its parent, whatever else was found before. -/
theorem Trees.child_mem (h : Trees orders) (hRoot : parent ∈ owned)
    {order : OrderJson Decimal} (hOrder : order ∈ orders)
    (hParent : order.parentOrderId.truthy = some parent) :
    order.id.str ∈ orders.foldl addChild owned := by
  refine child_mem_foldl_addChild hOrder (h.truthy_id (mem_records_of_mem hOrder)) ?_
  cases hLink : order.parentOrderId with
  | absent => simp [hLink, JsonText.truthy] at hParent
  | null => simp [hLink, JsonText.truthy] at hParent
  | text s =>
    rw [hLink, JsonText.truthy] at hParent
    split_ifs at hParent
    rw [JsonText.str, Option.some.inj hParent]
    exact hRoot

theorem mem_prefixedIds (h : Trees orders) : id ∈ prefixedIds start orders ↔
    ∃ order ∈ orders, startsWith order.clientOrderId.str start = true ∧ order.id.str = id := by
  rw [prefixedIds, List.mem_filterMap]
  constructor
  · rintro ⟨order, hOrder, hId⟩
    split_ifs at hId with hCarries
    rw [h.truthy_id (mem_records_of_mem hOrder)] at hId
    exact ⟨order, hOrder, hCarries, Option.some.inj hId⟩
  · rintro ⟨order, hOrder, hCarries, rfl⟩
    exact ⟨order, hOrder, by rw [if_pos hCarries, h.truthy_id (mem_records_of_mem hOrder)]⟩

/-- Discovery finds the owned orders. -/
theorem mem_ownedIds (h : Trees orders) : id ∈ ownedIds start orders ↔ Owned start orders id := by
  constructor
  · refine foldl_addChild_owned h (List.Subset.refl orders)
      (foldl_addLegs_owned h (List.Subset.refl orders) ?_) id
    intro id hId
    obtain ⟨order, hOrder, hCarries, hSame⟩ := (mem_prefixedIds h).mp hId
    exact ⟨order, hOrder, hCarries, .inl hSame⟩
  · rintro ⟨root, hRoot, hCarries, hOwned⟩
    have hPrefixed : root.id.str ∈ prefixedIds start orders :=
      (mem_prefixedIds h).mpr ⟨root, hRoot, hCarries, rfl⟩
    rcases hOwned with rfl | ⟨order, hOrder, hSame, hLeg⟩ | ⟨order, hOrder, hParent, rfl⟩
    · exact owned_subset_foldl_addChild orders (owned_subset_foldl_addLegs orders hPrefixed)
    · exact owned_subset_foldl_addChild orders
        (legIds_mem_foldl_addLegs hOrder (hSame ▸ hPrefixed) ((mem_legIds h hOrder).mpr hLeg))
    · exact h.child_mem (owned_subset_foldl_addLegs orders hPrefixed) hOrder hParent

/-- Cancellation finds the same orders: the order with the prefix is the only one of its id. -/
theorem mem_cancelableIds (h : Trees orders) :
    id ∈ cancelableIds start orders ↔ Owned start orders id := by
  constructor
  · refine foldl_addChild_owned h (List.Subset.refl orders) ?_ id
    intro id hId
    obtain ⟨order, hOrder, hId⟩ := List.mem_flatMap.mp hId
    split_ifs at hId with hCarries
    · rw [h.truthy_id (mem_records_of_mem hOrder)] at hId
      rcases List.mem_cons.mp hId with rfl | hLeg
      · exact ⟨order, hOrder, hCarries, .inl rfl⟩
      · obtain ⟨leg, hLeg, hSame⟩ := (mem_legIds h hOrder).mp hLeg
        exact ⟨order, hOrder, hCarries, .inr (.inl ⟨order, hOrder, rfl, leg, hLeg, hSame⟩)⟩
    · cases hId
  · rintro ⟨root, hRoot, hCarries, hOwned⟩
    have hCollected : ∀ id ∈ root.id.truthy.toList ++ legIds root, id ∈ cancelableIds start orders := by
      intro id hId
      refine owned_subset_foldl_addChild orders (List.mem_flatMap.mpr ⟨root, hRoot, ?_⟩)
      rw [if_pos hCarries]
      exact hId
    rw [h.truthy_id (mem_records_of_mem hRoot)] at hCollected
    rcases hOwned with rfl | ⟨order, hOrder, hSame, hLeg⟩ | ⟨order, hOrder, hParent, rfl⟩
    · exact hCollected _ List.mem_cons_self
    · obtain rfl : order = root := h.eq_of_id hOrder hRoot hSame
      exact hCollected _ (List.mem_cons_of_mem _ ((mem_legIds h hOrder).mpr hLeg))
    · refine h.child_mem (List.mem_flatMap.mpr ⟨root, hRoot, ?_⟩) hOrder hParent
      rw [if_pos hCarries, h.truthy_id (mem_records_of_mem hRoot)]
      exact List.mem_cons_self

/-! ### Cancellation -/

/-- Delete orders one by one, up to the first that is refused, and count them. -/
def deleteEach {β : Type} (api : AlpacaApi β Decimal) : List String → ℕ → β → Except Exc ℕ × β
  | [], count, b => (.ok count, b)
  | id :: ids, count, b =>
    match api.deleteOrder id b with
    | (.ok (), b') => deleteEach api ids (count + 1) b'
    | (.error e, b') => (.error e, b')

theorem isOwned_iff (h : Trees orders) {order : OrderJson Decimal} (hOrder : order ∈ orders) :
    isOwned start (cancelableIds start orders) order = true ↔ Owned start orders order.id.str := by
  rw [isOwned, Bool.or_eq_true, Bool.or_eq_true, decide_eq_true_iff, decide_eq_true_iff,
    mem_cancelableIds h, mem_cancelableIds h]
  constructor
  · rintro ((hOwned | hCarries) | hParent)
    · exact hOwned
    · exact ⟨order, hOrder, hCarries, .inl rfl⟩
    · exact h.owned_leg hParent (h.legOf_of_parent hOrder hParent)
  · intro hOwned
    exact .inl (.inl hOwned)

instance (start : String) (orders : List (OrderJson Decimal)) (id : String) :
    Decidable (Owned start orders id) := by
  unfold Owned LegOf; infer_instance

theorem cancelOwned_eq {β : Type} (h : Trees orders) (api : AlpacaApi β Decimal)
    {rest : List (OrderJson Decimal)} (hRest : rest ⊆ orders) (count : ℕ) (b : β) :
    cancelOwned api start (cancelableIds start orders) rest count b =
      deleteEach api ((rest.filter (Owned start orders ·.id.str)).map (·.id.str)) count b := by
  induction rest generalizing count b with
  | nil => rfl
  | cons order rest ih =>
    obtain ⟨hOrder, hRest⟩ := List.cons_subset.mp hRest
    rw [cancelOwned]
    by_cases hOwned : Owned start orders order.id.str
    · obtain ⟨id, hId, hEmpty, -⟩ := h.ids _ (mem_records_of_mem hOrder)
      have hText : order.id.str ≠ "" := by
        rw [hId]
        exact hEmpty
      rw [if_pos ((isOwned_iff h hOrder).mpr hOwned), if_neg hText,
        List.filter_cons_of_pos (by simpa using hOwned), List.map_cons, deleteEach]
      cases api.deleteOrder order.id.str b with
      | mk outcome b' =>
        cases outcome with
        | ok => exact ih hRest (count + 1) b'
        | error e => rfl
    · rw [if_neg (mt (isOwned_iff h hOrder).mp hOwned),
        List.filter_cons_of_neg (by simpa using hOwned)]
      exact ih hRest count b

/-! ### Net quantities -/

/-- What an order adds to its symbol. -/
def signedFill (record : OrderFields Decimal) : ℚ :=
  if record.side.str = "buy" then filledValue record else -filledValue record

/-- What tells an order from others, and what counts of it. -/
def fact (record : OrderFields Decimal) : String × String × ℚ :=
  (record.id.str, record.symbol.str, signedFill record)

/-- The distinct owned orders among the records. -/
def ownedFacts (start : String) (orders : List (OrderJson Decimal))
    (listed : List (OrderFields Decimal)) : Finset (String × String × ℚ) :=
  (listed.map fact).toFinset.filter (Owned start orders ·.1)

/-- Filled buys minus filled sells of the distinct owned orders of a symbol. -/
def netOf (start : String) (orders : List (OrderJson Decimal))
    (listed : List (OrderFields Decimal)) (symbol : String) : ℚ :=
  ∑ order ∈ (ownedFacts start orders listed).filter (·.2.1 = symbol), order.2.2

def ownedNet (start : String) (orders : List (OrderJson Decimal)) (symbol : String) : ℚ :=
  netOf start orders (records orders) symbol

/-- The owned quantities are multiples of a power of ten, and together stay below its multiple
that the context cannot tell from the next. -/
def FitsContext (start : String) (orders : List (OrderJson Decimal)) : Prop :=
  ∃ e : ℤ, (∀ order ∈ ownedFacts start orders (records orders), Multiple ((10 : ℚ) ^ e) order.2.2) ∧
    ∑ order ∈ ownedFacts start orders (records orders), |order.2.2| < (10 : ℚ) ^ (Decimal.prec + e)

theorem multiple_sum {q : ℚ} {s : Finset (String × String × ℚ)}
    (h : ∀ order ∈ s, Multiple q order.2.2) : Multiple q (∑ order ∈ s, order.2.2) := by
  refine Finset.sum_induction _ (Multiple q) ?_ ⟨0, by simp⟩ h
  rintro _ _ ⟨n, rfl⟩ ⟨m, rfl⟩
  exact ⟨n + m, by push_cast; ring⟩

/-- Every sum over some of the owned orders is exact. -/
theorem FitsContext.representable (hFits : FitsContext start orders)
    {s : Finset (String × String × ℚ)} (h : s ⊆ ownedFacts start orders (records orders)) :
    Representable (∑ order ∈ s, order.2.2) := by
  obtain ⟨e, hGrid, hTotal⟩ := hFits
  obtain ⟨n, hn⟩ := multiple_sum fun order hOrder => hGrid order (h hOrder)
  have hUnit : (0 : ℚ) < 10 ^ e := zpow_pos (by norm_num) e
  refine ⟨n, e, ?_, hn⟩
  have hBound : |(n : ℚ)| * 10 ^ e < (10 : ℚ) ^ Decimal.prec * 10 ^ e := by
    calc |(n : ℚ)| * 10 ^ e = |∑ order ∈ s, order.2.2| := by rw [hn, abs_mul, abs_of_pos hUnit]
      _ ≤ ∑ order ∈ s, |order.2.2| := Finset.abs_sum_le_sum_abs _ _
      _ ≤ ∑ order ∈ ownedFacts start orders (records orders), |order.2.2| :=
          Finset.sum_le_sum_of_subset_of_nonneg h fun _ _ _ => abs_nonneg _
      _ < (10 : ℚ) ^ (Decimal.prec + e) := hTotal
      _ = (10 : ℚ) ^ Decimal.prec * 10 ^ e := by rw [zpow_add₀ (by norm_num), zpow_natCast]
  have hInt : |(n : ℚ)| < (10 : ℚ) ^ Decimal.prec := lt_of_mul_lt_mul_right hBound hUnit.le
  have hCast : ((n.natAbs : ℕ) : ℚ) < ((10 ^ Decimal.prec : ℕ) : ℚ) := by
    rw [Nat.cast_natAbs]
    push_cast
    exact hInt
  exact_mod_cast hCast

/-! ### Counting the fills -/

variable {done : List (OrderFields Decimal)} {netting : Netting Decimal}
  {record : OrderFields Decimal}

/-- What the fills of some records leave behind. -/
structure Counted (start : String) (orders : List (OrderJson Decimal))
    (done : List (OrderFields Decimal)) (netting : Netting Decimal) : Prop where
  seen : ∀ id, id ∈ netting.seen ↔ Owned start orders id ∧ ∃ record ∈ done, record.id.str = id
  keys : ∀ symbol, symbol ∈ netting.net ↔
    ∃ record ∈ done, Owned start orders record.id.str ∧ record.symbol.str = symbol
  net : ∀ symbol, value ((netting.net.lookup symbol).getD (ofInt 0)) =
    netOf start orders done symbol

theorem counted_nil : Counted start orders [] ⟨∅, []⟩ := by
  constructor
  · simp
  · simp
  · intro symbol
    simp [netOf, ownedFacts, value_ofInt]

theorem ownedFacts_append (done : List (OrderFields Decimal)) (record : OrderFields Decimal) :
    ownedFacts start orders (done ++ [record]) = if Owned start orders record.id.str
      then insert (fact record) (ownedFacts start orders done)
      else ownedFacts start orders done := by
  rw [ownedFacts, List.map_append, List.toFinset_append, List.map_singleton,
    List.toFinset_cons, List.toFinset_nil, insert_empty_eq, Finset.union_comm,
    Finset.singleton_union, Finset.filter_insert]
  rfl

theorem mem_ownedFacts {order : String × String × ℚ} : order ∈ ownedFacts start orders done ↔
    Owned start orders order.1 ∧ ∃ record ∈ done, fact record = order := by
  rw [ownedFacts, Finset.mem_filter, List.mem_toFinset, List.mem_map, and_comm]

theorem ownedFacts_subset {later : List (OrderFields Decimal)} (h : done ⊆ later) :
    ownedFacts start orders done ⊆ ownedFacts start orders later := by
  intro order hOrder
  obtain ⟨hOwned, record, hRecord, hFact⟩ := mem_ownedFacts.mp hOrder
  exact mem_ownedFacts.mpr ⟨hOwned, record, h hRecord, hFact⟩

theorem Trees.fact_eq (h : Trees orders) {copy : OrderFields Decimal}
    (hRecord : record ∈ records orders) (hCopy : copy ∈ records orders)
    (hSame : copy.id.str = record.id.str) : fact copy = fact record := by
  obtain ⟨id, hId, -⟩ := h.ids _ hRecord
  obtain ⟨id', hId', -⟩ := h.ids _ hCopy
  have hText : id' = id := by simpa [hId, hId', JsonText.str] using hSame
  obtain ⟨hSymbol, hSide, hFilled⟩ := h.copies record hRecord copy hCopy (by rw [hId, hId', hText])
  rw [fact, fact, signedFill, signedFill, hSame, hSymbol, hSide, hFilled]

/-- The amount that is added for an owned order, which the context does not round. -/
theorem value_signed (hFits : FitsContext start orders) (hRecord : record ∈ records orders)
    (hOwned : Owned start orders record.id.str) {filled : Decimal}
    (hFilled : value filled = filledValue record) :
    value (if record.side.str = "buy" then filled else DecimalArithmetic.neg filled) =
      signedFill record := by
  have hMem : fact record ∈ ownedFacts start orders (records orders) :=
    mem_ownedFacts.mpr ⟨hOwned, record, hRecord, rfl⟩
  have hRepresentable : Representable (signedFill record) := by
    have := hFits.representable (Finset.singleton_subset_iff.mpr hMem)
    rwa [Finset.sum_singleton] at this
  unfold signedFill at hRepresentable ⊢
  split_ifs with hBuy
  · exact hFilled
  · rw [if_neg hBuy] at hRepresentable
    have hExact : Representable (Decimal.toRat filled) := by
      have := representable_neg hRepresentable
      rw [neg_neg, ← hFilled] at this
      exact this
    change Decimal.toRat (Decimal.neg filled) = _
    rw [Decimal.toRat_neg_eq, ← Decimal.toRat_fix_eq, Decimal.toRat_fix hExact, ← hFilled]
    rfl

/-- A new owned order adds its amount to its symbol, and to no other. -/
theorem netOf_append (hOwned : Owned start orders record.id.str)
    (hNew : fact record ∉ ownedFacts start orders done) (symbol : String) :
    netOf start orders (done ++ [record]) symbol =
      netOf start orders done symbol + if record.symbol.str = symbol then signedFill record else 0 := by
  rw [netOf, ownedFacts_append, if_pos hOwned, Finset.filter_insert]
  by_cases hSymbol : record.symbol.str = symbol
  · rw [if_pos (show (fact record).2.1 = symbol from hSymbol), if_pos hSymbol,
      Finset.sum_insert fun hMem => hNew (Finset.mem_filter.mp hMem).1, add_comm]
    rfl
  · rw [if_neg (show ¬ (fact record).2.1 = symbol from hSymbol), if_neg hSymbol, add_zero]
    rfl

/-- What does not count leaves everything as it is. -/
theorem Counted.skip (h : Trees orders) (hDone : done ⊆ records orders)
    (hRecord : record ∈ records orders) (hCounted : Counted start orders done netting)
    (hSkip : record.id.str ∈ netting.seen ∨ ¬ Owned start orders record.id.str) :
    Counted start orders (done ++ [record]) netting := by
  have hOld : Owned start orders record.id.str → ∃ copy ∈ done, copy.id.str = record.id.str := by
    intro hOwned
    rcases hSkip with hSeen | hNot
    · exact ((hCounted.seen _).mp hSeen).2
    · exact absurd hOwned hNot
  constructor
  · intro id
    rw [hCounted.seen]
    constructor
    · rintro ⟨hOwned, copy, hCopy, hId⟩
      exact ⟨hOwned, copy, List.mem_append_left _ hCopy, hId⟩
    · rintro ⟨hOwned, copy, hCopy, rfl⟩
      rcases List.mem_append.mp hCopy with hCopy | hCopy
      · exact ⟨hOwned, copy, hCopy, rfl⟩
      · obtain rfl := List.mem_singleton.mp hCopy
        exact ⟨hOwned, hOld hOwned⟩
  · intro symbol
    rw [hCounted.keys]
    constructor
    · rintro ⟨copy, hCopy, hOwned, hSymbol⟩
      exact ⟨copy, List.mem_append_left _ hCopy, hOwned, hSymbol⟩
    · rintro ⟨copy, hCopy, hOwned, rfl⟩
      rcases List.mem_append.mp hCopy with hCopy | hCopy
      · exact ⟨copy, hCopy, hOwned, rfl⟩
      · obtain rfl := List.mem_singleton.mp hCopy
        obtain ⟨other, hOther, hId⟩ := hOld hOwned
        have hFact := h.fact_eq hRecord (hDone hOther) hId
        exact ⟨other, hOther, hId ▸ hOwned, congrArg (·.2.1) hFact⟩
  · intro symbol
    rw [hCounted.net, netOf, netOf, ownedFacts_append]
    split_ifs with hOwned
    · obtain ⟨other, hOther, hId⟩ := hOld hOwned
      rw [Finset.insert_eq_of_mem]
      exact mem_ownedFacts.mpr ⟨hOwned, other, hOther, h.fact_eq hRecord (hDone hOther) hId⟩
    · rfl

/-- An owned order that was not counted before adds its amount. -/
theorem Counted.count (hFits : FitsContext start orders) (hDone : done ⊆ records orders)
    (hRecord : record ∈ records orders) (hCounted : Counted start orders done netting)
    (hOwned : Owned start orders record.id.str) (hNew : record.id.str ∉ netting.seen)
    {filled : Decimal} (hFilled : value filled = filledValue record) :
    Counted start orders (done ++ [record]) {
      net := netting.net.insert record.symbol.str
        (add ((netting.net.lookup record.symbol.str).getD (ofInt 0))
          (if record.side.str = "buy" then filled else DecimalArithmetic.neg filled))
      seen := record.id.str :: netting.seen } := by
  have hFact : fact record ∉ ownedFacts start orders done := by
    intro hMem
    obtain ⟨-, copy, hCopy, hSame⟩ := mem_ownedFacts.mp hMem
    exact hNew ((hCounted.seen _).mpr ⟨hOwned, copy, hCopy, congrArg (·.1) hSame⟩)
  constructor
  · intro id
    simp only [List.mem_cons, hCounted.seen, List.mem_append, List.not_mem_nil, or_false]
    constructor
    · rintro (rfl | ⟨hMine, copy, hCopy, rfl⟩)
      · exact ⟨hOwned, record, .inr rfl, rfl⟩
      · exact ⟨hMine, copy, .inl hCopy, rfl⟩
    · rintro ⟨hMine, copy, hCopy | rfl, rfl⟩
      · exact .inr ⟨hMine, copy, hCopy, rfl⟩
      · exact .inl rfl
  · intro symbol
    simp only [AList.mem_insert, hCounted.keys, List.mem_append, List.mem_cons, List.not_mem_nil,
      or_false]
    constructor
    · rintro (rfl | ⟨copy, hCopy, hMine, rfl⟩)
      · exact ⟨record, .inr rfl, hOwned, rfl⟩
      · exact ⟨copy, .inl hCopy, hMine, rfl⟩
    · rintro ⟨copy, hCopy | rfl, hMine, rfl⟩
      · exact .inr ⟨copy, hCopy, hMine, rfl⟩
      · exact .inl rfl
  · intro symbol
    rw [netOf_append hOwned hFact, Dict.lookup_insert_eq]
    by_cases hSymbol : symbol = record.symbol.str
    · subst hSymbol
      rw [if_pos rfl, if_pos rfl, Option.getD_some]
      have hSum := value_signed hFits hRecord hOwned hFilled
      have hExact : Representable (netOf start orders done record.symbol.str + signedFill record) := by
        have hAppend := netOf_append hOwned hFact record.symbol.str
        rw [if_pos rfl] at hAppend
        rw [← hAppend]
        refine hFits.representable ((Finset.filter_subset _ _).trans (ownedFacts_subset ?_))
        exact List.append_subset.mpr ⟨hDone, List.cons_subset.mpr ⟨hRecord, List.nil_subset _⟩⟩
      rw [← hCounted.net, ← hSum] at hExact ⊢
      exact ContextArithmetic.value_add _ _ hExact
    · rw [if_neg hSymbol, if_neg (Ne.symm hSymbol), add_zero, hCounted.net]

theorem JsonText.truthy_of_isSome {field : JsonText} (h : field.truthy.isSome) :
    field.truthy = some field.str ∧ field.str ≠ "" := by
  cases field with
  | absent => simp [JsonText.truthy] at h
  | null => simp [JsonText.truthy] at h
  | text s =>
    by_cases hEmpty : s = ""
    · simp [JsonText.truthy, hEmpty] at h
    · exact ⟨by rw [JsonText.truthy, if_neg hEmpty, JsonText.str], hEmpty⟩

theorem applyFill_counted (h : Trees orders) (hFits : FitsContext start orders)
    (hDone : done ⊆ records orders) (hRecord : record ∈ records orders)
    (hCounted : Counted start orders done netting) (parentSymbol : String) :
    ∃ netting', applyFill (ownedIds start orders) parentSymbol netting record = .ok netting' ∧
      Counted start orders (done ++ [record]) netting' := by
  obtain ⟨id, hId, hEmpty, -⟩ := h.ids record hRecord
  have hText : record.id.str ≠ "" := by
    rw [hId]
    exact hEmpty
  by_cases hSkip : record.id.str ∈ netting.seen ∨ ¬ Owned start orders record.id.str
  · refine ⟨netting, ?_, hCounted.skip h hDone hRecord hSkip⟩
    rw [← mem_ownedIds h] at hSkip
    exact if_pos (.inr hSkip)
  · obtain ⟨hNew, hOwned⟩ := not_or.mp hSkip
    rw [not_not] at hOwned
    obtain ⟨hSymbol, hNonempty⟩ := JsonText.truthy_of_isSome (h.symbols record hRecord)
    obtain ⟨filled, hRead, hFilled⟩ : ∃ filled, record.filledQty.getD (ofInt 0) = .ok filled ∧
        value filled = filledValue record := by
      unfold filledValue
      cases hField : record.filledQty with
      | absent => exact ⟨ofInt 0, rfl, by simp [value_ofInt]⟩
      | number x => exact ⟨x, rfl, rfl⟩
      | garbage => exact absurd hField (h.quantities record hRecord)
    refine ⟨_, ?_, hCounted.count hFits hDone hRecord hOwned hNew hFilled⟩
    rw [← mem_ownedIds h] at hSkip
    rw [applyFill, if_neg (not_or.mpr ⟨hText, hSkip⟩), hSymbol, Option.getD_some,
      if_neg hNonempty, hRead]
    rfl

/-- A run over records counts them all. -/
theorem foldlM_applyFill_counted (h : Trees orders) (hFits : FitsContext start orders)
    {rest : List (OrderFields Decimal)} (hDone : done ⊆ records orders)
    (hRest : rest ⊆ records orders) (hCounted : Counted start orders done netting)
    (parentSymbol : String) :
    ∃ netting', rest.foldlM (applyFill (ownedIds start orders) parentSymbol) netting = .ok netting' ∧
      Counted start orders (done ++ rest) netting' := by
  induction rest generalizing done netting with
  | nil => exact ⟨netting, rfl, by rwa [List.append_nil]⟩
  | cons record rest ih =>
    obtain ⟨hRecord, hRest⟩ := List.cons_subset.mp hRest
    obtain ⟨middle, hFill, hMiddle⟩ := applyFill_counted h hFits hDone hRecord hCounted parentSymbol
    have hDone' : done ++ [record] ⊆ records orders :=
      List.append_subset.mpr ⟨hDone, List.cons_subset.mpr ⟨hRecord, List.nil_subset _⟩⟩
    obtain ⟨last, hFold, hLast⟩ := ih hDone' hRest hMiddle
    refine ⟨last, ?_, by rwa [List.append_assoc] at hLast⟩
    rw [List.foldlM_cons, hFill]
    exact hFold

theorem foldlM_applyOrder_counted (h : Trees orders) (hFits : FitsContext start orders)
    (rest : List (OrderJson Decimal)) (hDone : done ⊆ records orders) (hRest : rest ⊆ orders)
    (hCounted : Counted start orders done netting) :
    ∃ netting', rest.foldlM (applyOrder (ownedIds start orders)) netting = .ok netting' ∧
      Counted start orders (done ++ records rest) netting' := by
  induction rest generalizing done netting with
  | nil => exact ⟨netting, rfl, by rwa [records, List.flatMap_nil, List.append_nil]⟩
  | cons order rest ih =>
    obtain ⟨hOrder, hRest⟩ := List.cons_subset.mp hRest
    have hRecord := mem_records_of_mem hOrder
    have hLegs : OrderJson.objects order ⊆ records orders := fun leg => leg_mem_records hOrder
    obtain ⟨own, hOwn, hCountedOwn⟩ := applyFill_counted h hFits hDone hRecord hCounted ""
    have hDone' : done ++ [order.toOrderFields] ⊆ records orders :=
      List.append_subset.mpr ⟨hDone, List.cons_subset.mpr ⟨hRecord, List.nil_subset _⟩⟩
    obtain ⟨middle, hFills, hMiddle⟩ :=
      foldlM_applyFill_counted h hFits hDone' hLegs hCountedOwn order.symbol.str
    obtain ⟨last, hFold, hLast⟩ := ih (List.append_subset.mpr ⟨hDone', hLegs⟩) hRest hMiddle
    refine ⟨last, ?_, ?_⟩
    · rw [List.foldlM_cons, applyOrder, hOwn]
      change (OrderJson.objects order).foldlM _ own >>= _ = _
      rw [hFills]
      exact hFold
    · rw [List.append_assoc, List.append_assoc] at hLast
      exact hLast

/-! ### The targets -/

/-- A target for every symbol with a positive net quantity, in the order of the symbols. -/
theorem mapM_netTarget (net : Dict String Decimal) (symbols : List String)
    (h : ∀ symbol ∈ symbols, 0 < value ((net.lookup symbol).getD (ofInt 0)) →
      isCanonicalTicker symbol = true) :
    ∃ found, symbols.mapM (netTarget net) = .ok found ∧
      found.reduceOption.map (fun target => (target.symbol, value target.quantity)) =
        (symbols.filter fun symbol => 0 < value ((net.lookup symbol).getD (ofInt 0))).map
          fun symbol => (symbol, value ((net.lookup symbol).getD (ofInt 0))) := by
  induction symbols with
  | nil => exact ⟨[], rfl, rfl⟩
  | cons symbol rest ih =>
    obtain ⟨hFirst, hRest⟩ := List.forall_mem_cons.mp h
    obtain ⟨found, hFound, hMap⟩ := ih hRest
    by_cases hPositive : 0 < value ((net.lookup symbol).getD (ofInt 0))
    · have hTarget : netTarget net symbol = .ok (some ⟨symbol, (net.lookup symbol).getD (ofInt 0),
          .brokerOrderReconstruction, hFirst hPositive, hPositive⟩) := by
        rw [netTarget, dif_pos hPositive, dif_pos (hFirst hPositive)]
      refine ⟨_ :: found, by rw [List.mapM_cons, hTarget, hFound]; rfl, ?_⟩
      rw [List.filter_cons_of_pos (by simpa using hPositive), List.map_cons,
        List.reduceOption_cons_of_some, List.map_cons, hMap]
    · have hTarget : netTarget net symbol = .ok none := by
        rw [netTarget, dif_neg hPositive]
      refine ⟨none :: found, by rw [List.mapM_cons, hTarget, hFound]; rfl, ?_⟩
      rw [List.filter_cons_of_neg (by simpa using hPositive), List.reduceOption_cons_of_none, hMap]

/-- The targets are the symbols of the owned orders with a positive net quantity. -/
def Reconstructed (start : String) (orders : List (OrderJson Decimal))
    (targets : List (ManagedPositionTarget Decimal)) : Prop :=
  (targets.map (·.symbol)).Pairwise (· < ·) ∧
    ∀ symbol quantity, (∃ target ∈ targets, target.symbol = symbol ∧ value target.quantity = quantity) ↔
      0 < ownedNet start orders symbol ∧ quantity = ownedNet start orders symbol

theorem reconstruct_reconstructed (h : Trees orders) (hFits : FitsContext start orders)
    (hTickers : ∀ symbol, 0 < ownedNet start orders symbol → isCanonicalTicker symbol = true) :
    ∃ targets, reconstruct start orders = .ok targets ∧ Reconstructed start orders targets := by
  obtain ⟨netting, hFold, hCounted⟩ := foldlM_applyOrder_counted h hFits orders
    (List.nil_subset _) (List.Subset.refl orders) counted_nil
  rw [List.nil_append] at hCounted
  have hNet : ∀ symbol, value ((netting.net.lookup symbol).getD (ofInt 0)) =
    ownedNet start orders symbol := hCounted.net
  obtain ⟨found, hFound, hMap⟩ := mapM_netTarget netting.net
    (netting.net.keys.insertionSort (· ≤ ·)) fun symbol _ hPositive =>
      hTickers symbol (hNet symbol ▸ hPositive)
  simp only [hNet] at hMap
  refine ⟨found.reduceOption, ?_, ?_, ?_⟩
  · rw [reconstruct, hFold]
    change (netting.net.keys.insertionSort (· ≤ ·)).mapM (netTarget netting.net) >>= _ = _
    rw [hFound]
    rfl
  · have hSymbols : found.reduceOption.map (·.symbol) =
        (netting.net.keys.insertionSort (· ≤ ·)).filter (0 < ownedNet start orders ·) := by
      have := congrArg (List.map Prod.fst) hMap
      rw [List.map_map, List.map_map] at this
      rw [show (fun target : ManagedPositionTarget Decimal => target.symbol) = Prod.fst ∘
        (fun target => (target.symbol, value target.quantity)) from rfl, this]
      exact List.map_id _
    rw [hSymbols]
    refine List.Pairwise.filter _ ?_
    have hSorted := List.pairwise_insertionSort (· ≤ ·) netting.net.keys
    have hNodup : (netting.net.keys.insertionSort (· ≤ ·)).Nodup :=
      (List.perm_insertionSort _ _).nodup_iff.mpr netting.net.keys_nodup
    exact (hSorted.and hNodup).imp fun hBoth => lt_of_le_of_ne hBoth.1 hBoth.2
  · intro symbol quantity
    have hMem : (∃ target ∈ found.reduceOption, target.symbol = symbol ∧ value target.quantity = quantity) ↔
        (symbol, quantity) ∈ found.reduceOption.map
          fun target => (target.symbol, value target.quantity) := by
      simp only [List.mem_map, Prod.mk.injEq]
    rw [hMem, hMap, List.mem_map]
    constructor
    · rintro ⟨s, hs, hPair⟩
      obtain ⟨rfl, rfl⟩ := Prod.mk.inj hPair
      exact ⟨by simpa using (List.mem_filter.mp hs).2, rfl⟩
    · rintro ⟨hPositive, rfl⟩
      refine ⟨symbol, List.mem_filter.mpr ⟨?_, by simpa using hPositive⟩, rfl⟩
      rw [List.mem_insertionSort, ← AList.mem_keys, ← AList.lookup_isSome]
      rw [← hNet] at hPositive
      cases hLookup : netting.net.lookup symbol with
      | some x => rfl
      | none => simp [hLookup, value_ofInt] at hPositive

/-! ### The order of the list -/

section Permuted

variable {listed : List (OrderJson Decimal)} (hPerm : listed.Perm orders)

include hPerm

theorem legOf_perm : LegOf listed = LegOf orders := by
  funext parent child
  simp only [LegOf, hPerm.mem_iff]

theorem owned_perm : Owned start listed = Owned start orders := by
  funext id
  simp only [Owned, hPerm.mem_iff, legOf_perm hPerm]

theorem mem_records_perm : record ∈ records listed ↔ record ∈ records orders :=
  (hPerm.flatMap_right _).mem_iff

theorem Trees.perm (h : Trees orders) : Trees listed where
  ids record hRecord := h.ids record ((mem_records_perm hPerm).mp hRecord)
  symbols record hRecord := h.symbols record ((mem_records_perm hPerm).mp hRecord)
  quantities record hRecord := h.quantities record ((mem_records_perm hPerm).mp hRecord)
  copies record hRecord copy hCopy :=
    h.copies record ((mem_records_perm hPerm).mp hRecord) copy ((mem_records_perm hPerm).mp hCopy)
  listedOnce := (hPerm.map _).nodup_iff.mpr h.listedOnce
  depth := by
    rw [legOf_perm hPerm]
    exact h.depth

theorem ownedFacts_perm : ownedFacts start listed (records listed) =
    ownedFacts start orders (records orders) := by
  ext order
  simp only [mem_ownedFacts, owned_perm hPerm, mem_records_perm hPerm]

theorem ownedNet_perm : ownedNet start listed = ownedNet start orders := by
  funext symbol
  rw [ownedNet, ownedNet, netOf, netOf, ownedFacts_perm hPerm]

theorem FitsContext.perm (h : FitsContext start orders) : FitsContext start listed := by
  rw [FitsContext, ownedFacts_perm hPerm]
  exact h

end Permuted

/-! ### Discovery and cancellation -/

theorem all_isSome_map_some (orders : List (OrderJson Decimal)) :
    (orders.map some).all (·.isSome) = true := by
  rw [List.all_map, List.all_eq_true]
  intro order _
  rfl

theorem listOrders_eq {β : Type} {api : AlpacaApi β Decimal} {b : β} {status : OrderStatus}
    {after : Timestamp} (h : api.orders b status after = .ok (some (orders.map some))) :
    listOrders api b status after = .ok orders := by
  rw [listOrders, h]
  change (if (orders.map some).all (·.isSome) then pure (orders.map some).reduceOption else _) = _
  rw [if_pos (all_isSome_map_some orders), List.reduceOption, List.filterMap_map]
  exact congrArg Except.ok List.filterMap_some

/-- A symbol with a net quantity is that of an order. -/
theorem exists_record_of_net_pos {symbol : String} (h : 0 < ownedNet start orders symbol) :
    ∃ record ∈ records orders, record.symbol.str = symbol := by
  have hSum : ∑ order ∈ (ownedFacts start orders (records orders)).filter (·.2.1 = symbol),
      order.2.2 ≠ 0 := h.ne'
  obtain ⟨order, hOrder, -⟩ := Finset.exists_ne_zero_of_sum_ne_zero hSum
  obtain ⟨hOwned, hSymbol⟩ := Finset.mem_filter.mp hOrder
  obtain ⟨-, record, hRecord, rfl⟩ := mem_ownedFacts.mp hOwned
  exact ⟨record, hRecord, hSymbol⟩

/-- However the orders are listed, discovery returns their net quantities, and cancellation
deletes the listed orders of the same owned set. -/
theorem ownership_reconstructed {β : Type} (api : AlpacaApi β Decimal) (plan : SessionPlan) (b : β)
    (orders listed : List (OrderJson Decimal)) (h : Trees orders) (hPerm : listed.Perm orders)
    (hFits : FitsContext (orderPrefix plan) orders)
    (hTickers : ∀ symbol, 0 < ownedNet (orderPrefix plan) orders symbol →
      isCanonicalTicker symbol = true)
    (hAll : api.orders b .all plan.recorderWarmupAt = .ok (some (listed.map some)))
    (hOpen : api.orders b .open plan.recorderWarmupAt = .ok (some (listed.map some))) :
    (∃ targets, discoverDaybreakTargets api plan b = .ok targets ∧
      Reconstructed (orderPrefix plan) orders targets) ∧
    cancelDaybreakOrders api plan b = deleteEach api
      ((listed.filter (Owned (orderPrefix plan) orders ·.id.str)).map (·.id.str)) 0 b := by
  constructor
  · have hNet : ownedNet (orderPrefix plan) listed = ownedNet (orderPrefix plan) orders :=
      ownedNet_perm hPerm
    obtain ⟨targets, hTargets, hRead⟩ := reconstruct_reconstructed (h.perm hPerm)
      (hFits.perm hPerm) (hNet ▸ hTickers)
    rw [Reconstructed, hNet] at hRead
    refine ⟨targets, ?_, hRead⟩
    rw [discoverDaybreakTargets, listOrders_eq hAll]
    exact hTargets
  · rw [cancelDaybreakOrders, listOrders_eq hAll]
    simp only [listOrders_eq hOpen]
    rw [cancelOwned_eq (h.perm hPerm) api (List.Subset.refl listed)]
    simp only [owned_perm hPerm]

/-! ### Lists of orders -/

/-- An account that always lists these orders, and deletes what it is told to. -/
def listing (orders : List (OrderJson Decimal)) : AlpacaApi Unit Decimal where
  moves b := b
  orders _ _ _ := .ok (some (orders.map some))
  position _ _ := .ok none
  deleteOrder _ b := (.ok (), b)
  deletePosition _ _ b := (.ok none, b)
  wallClock _ := 0

def bracketLeg : OrderFields Decimal where
  id := .text "stop-1"
  clientOrderId := .absent
  parentOrderId := .absent
  symbol := .text "AAPL"
  side := .text "sell"
  filledQty := .number (.ofInt 1)

def bracketRoot : OrderJson Decimal where
  id := .text "root-1"
  clientOrderId := .text "DB-20260803-abc-AAPL"
  parentOrderId := .absent
  symbol := .text "AAPL"
  side := .text "buy"
  filledQty := .number (.ofInt 5)
  legs := [some bracketLeg]

/-- The leg, listed on its own. -/
def bracketChild : OrderJson Decimal :=
  { bracketLeg with
    clientOrderId := .text "broker-generated-child"
    parentOrderId := .text "root-1"
    legs := [] }

theorem bracket_trees : Trees [bracketRoot, bracketChild] := by
  have hRecords : records [bracketRoot, bracketChild] =
      [bracketRoot.toOrderFields, bracketLeg, bracketChild.toOrderFields] := rfl
  constructor
  · rw [hRecords]
    simp [bracketRoot, bracketLeg, bracketChild]
  · rw [hRecords]
    decide
  · rw [hRecords]
    simp [bracketRoot, bracketLeg, bracketChild]
  · rw [hRecords]
    simp [bracketRoot, bracketLeg, bracketChild, filledValue]
  · decide
  · have hLinks : ∀ parent child, LegOf [bracketRoot, bracketChild] parent child ↔
        "root-1" = parent ∧ "stop-1" = child := by
      simp [LegOf, bracketRoot, bracketChild, bracketLeg, OrderJson.objects, JsonText.str,
        JsonText.truthy]
    intro parent child leg hFirst hSecond
    have hChild := ((hLinks parent child).mp hFirst).2
    have hParent := ((hLinks child leg).mp hSecond).1
    exact absurd (hParent.trans hChild.symm) (by decide)

theorem bracket_reconstructed :
    (∃ targets, discoverDaybreakTargets (listing [bracketChild, bracketRoot]) samplePlan () =
        .ok targets ∧ Reconstructed (orderPrefix samplePlan) [bracketRoot, bracketChild] targets) ∧
    cancelDaybreakOrders (listing [bracketChild, bracketRoot]) samplePlan () =
      deleteEach (listing [bracketChild, bracketRoot])
        (([bracketChild, bracketRoot].filter
          (Owned (orderPrefix samplePlan) [bracketRoot, bracketChild] ·.id.str)).map (·.id.str))
        0 () := by
  refine ownership_reconstructed _ samplePlan () [bracketRoot, bracketChild] _ bracket_trees
    (List.Perm.swap _ _ _) ⟨0, ?_, ?_⟩ ?_ rfl rfl
  · have hWhole : ∀ order ∈ ownedFacts (orderPrefix samplePlan) [bracketRoot, bracketChild]
        (records [bracketRoot, bracketChild]), order.2.2.den = 1 := by
      decide +kernel
    intro order hOrder
    exact ⟨order.2.2.num, by simp [(Rat.den_eq_one_iff _).mp (hWhole order hOrder)]⟩
  · decide +kernel
  · intro symbol hPositive
    obtain ⟨record, hRecord, rfl⟩ := exists_record_of_net_pos hPositive
    revert record
    decide +kernel

def plainOrder (id symbol : String) (filled : Decimal) : OrderJson Decimal where
  id := .text id
  clientOrderId := .text "DB-20260803-abc"
  parentOrderId := .absent
  symbol := .text symbol
  side := .text "buy"
  filledQty := .number filled
  legs := []

/-- Two buys, whose sum has twenty-nine digits. -/
def hugeOrders : List (OrderJson Decimal) :=
  [plainOrder "root-1" "AAPL" (.ofInt (10 ^ 28)), plainOrder "root-2" "AAPL" (.ofInt 1)]

/-- A buy of a symbol that no target can have. -/
def lowerOrders : List (OrderJson Decimal) := [plainOrder "root-1" "brk/b" (.ofInt 1)]

/-- An order of others, with a nested leg that carries the prefix. -/
def foreignOrders : List (OrderJson Decimal) :=
  [{ plainOrder "root-1" "AAPL" (.ofInt 1) with
    clientOrderId := .text "manual"
    legs := [some { bracketLeg with
      clientOrderId := .text "DB-20260803-abc"
      side := .text "buy" }] }]

theorem huge_trees : Trees hugeOrders := by
  constructor
  · simp [records, hugeOrders, plainOrder, OrderJson.objects]
  · decide
  · simp [records, hugeOrders, plainOrder, OrderJson.objects]
  · simp [records, hugeOrders, plainOrder, OrderJson.objects, filledValue]
  · decide
  · simp [LegOf, hugeOrders, plainOrder, OrderJson.objects, JsonText.truthy]

theorem lower_trees : Trees lowerOrders := by
  constructor
  · simp [records, lowerOrders, plainOrder, OrderJson.objects]
  · decide
  · simp [records, lowerOrders, plainOrder, OrderJson.objects]
  · simp [records, lowerOrders, plainOrder, OrderJson.objects]
  · decide
  · simp [LegOf, lowerOrders, plainOrder, OrderJson.objects, JsonText.truthy]

theorem foreign_trees : Trees foreignOrders := by
  constructor
  · simp [records, foreignOrders, plainOrder, OrderJson.objects, bracketLeg]
  · decide
  · simp [records, foreignOrders, plainOrder, OrderJson.objects, bracketLeg]
  · simp [records, foreignOrders, plainOrder, OrderJson.objects, bracketLeg]
  · decide
  · have hLinks : ∀ parent child, LegOf foreignOrders parent child ↔
        "root-1" = parent ∧ "stop-1" = child := by
      simp [LegOf, foreignOrders, plainOrder, bracketLeg, OrderJson.objects, JsonText.str,
        JsonText.truthy]
    intro parent child leg hFirst hSecond
    have hChild := ((hLinks parent child).mp hFirst).2
    have hParent := ((hLinks child leg).mp hSecond).1
    exact absurd (hParent.trans hChild.symm) (by decide)

/-- Two sums that differ in their twenty-ninth digit are one to the context; a target has a
canonical ticker; and a nested leg is not asked for a prefix of its own. -/
theorem ownership_not_reconstructed :
    (Trees hugeOrders ∧ ∃ targets,
      discoverDaybreakTargets (listing hugeOrders) samplePlan () = .ok targets ∧
        ¬ Reconstructed (orderPrefix samplePlan) hugeOrders targets) ∧
    (Trees lowerOrders ∧ ∃ e,
      discoverDaybreakTargets (listing lowerOrders) samplePlan () = .error e) ∧
    Trees foreignOrders ∧
      (∃ leg ∈ records foreignOrders,
        startsWith leg.clientOrderId.str (orderPrefix samplePlan) = true ∧ 0 < signedFill leg) ∧
      discoverDaybreakTargets (listing foreignOrders) samplePlan () = .ok [] := by
  refine ⟨⟨huge_trees, ?_⟩, ⟨lower_trees, ?_⟩, foreign_trees, by decide +kernel, ?_⟩
  · have hTargets : (discoverDaybreakTargets (listing hugeOrders) samplePlan ()).toOption.map
        (·.map fun target => (target.symbol, value target.quantity)) = some [("AAPL", 10 ^ 28)] := by
      decide +kernel
    cases hFound : discoverDaybreakTargets (listing hugeOrders) samplePlan () with
    | error e => simp [hFound, Except.toOption] at hTargets
    | ok targets =>
      refine ⟨targets, rfl, fun hRead => ?_⟩
      rw [hFound] at hTargets
      have hListed : targets.map (fun target => (target.symbol, value target.quantity)) =
          [("AAPL", 10 ^ 28)] := Option.some.inj hTargets
      have hSum : 0 < ownedNet (orderPrefix samplePlan) hugeOrders "AAPL" ∧
          (10 : ℚ) ^ 28 ≠ ownedNet (orderPrefix samplePlan) hugeOrders "AAPL" := by
        decide +kernel
      have hMem : ("AAPL", (10 : ℚ) ^ 28) ∈
          targets.map (fun target => (target.symbol, value target.quantity)) := by
        rw [hListed]
        exact List.mem_singleton.mpr rfl
      obtain ⟨target, hTarget, hPair⟩ := List.mem_map.mp hMem
      obtain ⟨hSymbol, hQuantity⟩ := Prod.mk.inj hPair
      exact hSum.2 ((hRead.2 _ _).mp ⟨target, hTarget, hSymbol, hQuantity⟩).2
  · have hRaised : (discoverDaybreakTargets (listing lowerOrders) samplePlan ()).toOption.isNone := by
      decide +kernel
    cases hFound : discoverDaybreakTargets (listing lowerOrders) samplePlan () with
    | error e => exact ⟨e, rfl⟩
    | ok targets => simp [hFound, Except.toOption] at hRaised
  · rfl

end Daybreak.Orchestration.AlpacaPaperOperations
