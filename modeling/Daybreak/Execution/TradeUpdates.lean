import Daybreak.Execution.Encoding
import Daybreak.Execution.Persistence

/-! The identity of a trade update. It is derived from the order, the event, the time of the
event and the content of the message; where the message has no time of its own, the receipt is
taken for it, and a message that is delivered again is a new event. -/

namespace Daybreak.Execution

open Numeric DecimalArithmetic Serial

variable {R : Runtime} {payload other data : Entries} {receivedAt receivedAt' : Timestamp}
  {u u' v : TradeUpdate Decimal}

/-! ### Normalization -/

/-- `payload.get("data", payload)`, where that is a dictionary. -/
def dataOf (payload : Entries) : Option Entries :=
  match fieldOr payload "data" (.dict payload) with
  | .dict data => some data
  | _ => none

def orderOf (data : Entries) : Option Entries :=
  match field data "order" with
  | .dict order => some order
  | _ => none

/-- `data.get("timestamp") or data.get("event_at")` -/
def eventTimestampRaw (data : Entries) : Decoded :=
  if (field data "timestamp").truthy then field data "timestamp" else field data "event_at"

/-- The text that an event is identified by. -/
def eventName (R : Runtime) (data order : Entries) (eventTimestamp : Timestamp) (rawHash : String) :
    String :=
  "alpaca-trade-update:" ++ R.str (field order "id") ++ ":" ++
    R.str (fieldOr data "event" (.str "unknown")) ++ ":" ++ R.isoformat eventTimestamp ++ ":" ++
    rawHash

def normalizeTradeUpdate (R : Runtime) (payload : Entries) (receivedAt : Timestamp) :
    Result (TradeUpdate Decimal) := do
  let data ← orRaise (dataOf payload) (.valueError "trade update data must be an object")
  let orderPayload ← orRaise (orderOf data) (.valueError "trade update is missing order object")
  let eventTimestamp ← parseTimestamp R (eventTimestampRaw data) receivedAt
  let rawHash ← R.canonicalSha256 (.dict payload)
  let order ← normalizeOrder R orderPayload receivedAt
  return {
    eventId := R.uuid5 (eventName R data orderPayload eventTimestamp rawHash)
    event := R.str (fieldOr data "event" (.str "unknown"))
    eventTimestamp
    order
    rawEventHash := rawHash }

/-- An update as it is read from a payload. -/
structure ReadsUpdate (R : Runtime) (payload : Entries) (receivedAt : Timestamp)
    (data order : Entries) (u : TradeUpdate Decimal) : Prop where
  readsData : dataOf payload = some data
  readsOrder : orderOf data = some order
  finite : (Decoded.dict payload).finite = true
  eventId : u.eventId = R.uuid5 (eventName R data order u.eventTimestamp u.rawEventHash)
  eventTimestamp : parseTimestamp R (eventTimestampRaw data) receivedAt = .ok u.eventTimestamp
  rawEventHash : u.rawEventHash = R.sha256 (canonicalJsonText (.dict payload))

theorem normalizeTradeUpdate_reads (h : normalizeTradeUpdate R payload receivedAt = .ok u) :
    ∃ data order, ReadsUpdate R payload receivedAt data order u := by
  simp only [normalizeTradeUpdate, Result.bind_eq_ok, orRaise_eq_ok, Runtime.canonicalSha256_eq_ok,
    Result.pure_eq_ok] at h
  obtain ⟨data, hData, order, hOrder, eventTimestamp, hTime, hash, ⟨hFinite, hHash⟩, _, -, rfl⟩ := h
  exact ⟨data, order, hData, hOrder, hFinite, rfl, hTime, hHash⟩

/-! ### Identity -/

/-- The message has a time of its own. -/
def Stamped (payload : Entries) : Prop :=
  ∃ data, dataOf payload = some data ∧
    ((field data "timestamp").truthy = true ∨ (field data "event_at").truthy = true)

/-- The function tells these two arguments apart. -/
def NoCollision {α β : Type} (f : α → β) (a b : α) : Prop := f a = f b → a = b

theorem truthy_eventTimestampRaw {data : Entries} : (eventTimestampRaw data).truthy = true ↔
    (field data "timestamp").truthy = true ∨ (field data "event_at").truthy = true := by
  unfold eventTimestampRaw
  split_ifs with h
  · simp [h]
  · simp [h]

/-- A time of the message does not depend on the receipt, and without one the receipt is taken. -/
theorem ReadsUpdate.eventTimestamp_cases {data order : Entries}
    (h : ReadsUpdate R payload receivedAt data order u) :
    (Stamped payload ∧ ∀ receipt, parseTimestamp R (eventTimestampRaw data) receipt =
        .ok u.eventTimestamp) ∨
      (¬ Stamped payload ∧ u.eventTimestamp = receivedAt) := by
  have hStamped : Stamped payload ↔ (eventTimestampRaw data).truthy = true := by
    rw [truthy_eventTimestampRaw, Stamped, h.readsData]
    simp
  have hTime := h.eventTimestamp
  unfold parseTimestamp at hTime
  cases hTruthy : (eventTimestampRaw data).truthy with
  | true =>
    rw [if_pos hTruthy] at hTime
    refine .inl ⟨hStamped.mpr hTruthy, fun receipt => ?_⟩
    rw [parseTimestamp, if_pos hTruthy, hTime]
  | false =>
    have hFalse : ¬ (eventTimestampRaw data).truthy = true := by simp [hTruthy]
    rw [if_neg hFalse] at hTime
    exact .inr ⟨fun h => hFalse (hStamped.mp h), (Except.ok.inj hTime).symm⟩

theorem length_of_isSha256Hex {s : String} (h : Risk.isSha256Hex s = true) : s.length = 64 := by
  rw [Risk.isSha256Hex, Bool.and_eq_true] at h
  rw [← String.length_toList]
  exact beq_iff_eq.mp h.1

theorem append_inj_right_of_length {a b c d : String} (h : a ++ c = b ++ d)
    (hLength : c.length = d.length) : a = b ∧ c = d := by
  have hLists := congrArg String.toList h
  rw [String.toList_append, String.toList_append] at hLists
  obtain ⟨hFirst, hSecond⟩ :=
    List.append_inj' hLists (by rwa [String.length_toList, String.length_toList])
  exact ⟨String.toList_injective hFirst, String.toList_injective hSecond⟩

/-- A name tells the hash that it ends with. -/
theorem eventName_hash {data data' order order' : Entries} {t t' : Timestamp} {hash hash' : String}
    (h : eventName R data order t hash = eventName R data' order' t' hash')
    (hHash : Risk.isSha256Hex hash = true) (hHash' : Risk.isSha256Hex hash' = true) :
    hash = hash' :=
  (append_inj_right_of_length h
    ((length_of_isSha256Hex hHash).trans (length_of_isSha256Hex hHash').symm)).2

/-- For one message, the name tells the time. -/
theorem eventName_isoformat {data order : Entries} {t t' : Timestamp} {hash : String}
    (h : eventName R data order t hash = eventName R data order t' hash) :
    R.isoformat t = R.isoformat t' := by
  unfold eventName at h
  have hFront := String.append_left_inj _ |>.mp h
  have hTime := String.append_left_inj _ |>.mp hFront
  exact String.append_right_inj _ |>.mp hTime

/-- Messages with the same content: the same order id, event and time, and all the rest. -/
structure SameContent (payload other : Entries) : Prop where
  content : (Decoded.dict payload).canonical = (Decoded.dict other).canonical
  event : ∀ data data', dataOf payload = some data → dataOf other = some data' →
    (fieldOr data "event" (.str "unknown")).canonical =
      (fieldOr data' "event" (.str "unknown")).canonical
  timestamp : ∀ data data', dataOf payload = some data → dataOf other = some data' →
    (eventTimestampRaw data).canonical = (eventTimestampRaw data').canonical
  orderId : ∀ data data', dataOf payload = some data → dataOf other = some data' →
    ∀ order order', orderOf data = some order → orderOf data' = some order' →
      (field order "id").canonical = (field order' "id").canonical

theorem dataOf_eq_some {data : Entries} :
    dataOf payload = some data ↔ fieldOr payload "data" (.dict payload) = .dict data := by
  unfold dataOf
  split <;> simp_all

theorem orderOf_eq_some {order : Entries} :
    orderOf data = some order ↔ field data "order" = .dict order := by
  unfold orderOf
  split <;> simp_all

theorem sameContent_of_canonical_eq
    (h : (Decoded.dict payload).canonical = (Decoded.dict other).canonical) :
    SameContent payload other := by
  have hData {data data' : Entries} (hd : dataOf payload = some data)
      (hd' : dataOf other = some data') :
      (Decoded.dict data).canonical = (Decoded.dict data').canonical := by
    have hField := fieldOr_of_canonical_eq h "data" h
    rwa [dataOf_eq_some.mp hd, dataOf_eq_some.mp hd'] at hField
  refine ⟨h, fun data data' hd hd' => ?_, fun data data' hd hd' => ?_,
    fun data data' hd hd' order order' ho ho' => ?_⟩
  · exact fieldOr_of_canonical_eq (hData hd hd') "event" rfl
  · have hTimestamp := fieldOr_of_canonical_eq (hData hd hd') "timestamp" (rfl : Decoded.none.canonical = _)
    have hEventAt := fieldOr_of_canonical_eq (hData hd hd') "event_at" (rfl : Decoded.none.canonical = _)
    have hTruthy := truthy_of_canonical_eq hTimestamp
    unfold eventTimestampRaw
    split_ifs with h₁ h₂ h₂
    · exact hTimestamp
    · exact absurd (hTruthy.symm.trans h₁) h₂
    · exact absurd (hTruthy.trans h₂) h₁
    · exact hEventAt
  · have hOrder := fieldOr_of_canonical_eq (hData hd hd') "order" (rfl : Decoded.none.canonical = _)
    have hFields : (Decoded.dict order).canonical = (Decoded.dict order').canonical := by
      rw [← orderOf_eq_some.mp ho, ← orderOf_eq_some.mp ho']
      exact hOrder
    exact fieldOr_of_canonical_eq hFields "id" rfl

/-- The name that a message is identified by when it is received. -/
def nameOf (R : Runtime) (payload : Entries) (eventTimestamp : Timestamp) : Option String := do
  let data ← dataOf payload
  let order ← orderOf data
  return eventName R data order eventTimestamp (R.sha256 (canonicalJsonText (.dict payload)))

theorem ReadsUpdate.nameOf {data order : Entries}
    (h : ReadsUpdate R payload receivedAt data order u) :
    nameOf R payload u.eventTimestamp =
      some (eventName R data order u.eventTimestamp u.rawEventHash) := by
  rw [Execution.nameOf, h.readsData, h.rawEventHash]
  simp [h.readsOrder]

/-- Of two messages that the identifiers tell apart, one with the identifier of the other has
its content. -/
theorem sameContent_of_eventId
    (hu : normalizeTradeUpdate R payload receivedAt = .ok u)
    (hv : normalizeTradeUpdate R other receivedAt' = .ok v)
    (hUuid : ∀ a b, nameOf R payload u.eventTimestamp = some a →
      nameOf R other v.eventTimestamp = some b → NoCollision R.uuid5 a b)
    (hSha : NoCollision R.sha256 (canonicalJsonText (.dict payload)) (canonicalJsonText (.dict other)))
    (hId : u.eventId = v.eventId) : SameContent payload other := by
  obtain ⟨data, order, hReads⟩ := normalizeTradeUpdate_reads hu
  obtain ⟨data', order', hReads'⟩ := normalizeTradeUpdate_reads hv
  rw [hReads.eventId, hReads'.eventId] at hId
  have hName := hUuid _ _ hReads.nameOf hReads'.nameOf hId
  have hHash := eventName_hash hName (hReads.rawEventHash ▸ R.sha256_hex _)
    (hReads'.rawEventHash ▸ R.sha256_hex _)
  rw [hReads.rawEventHash, hReads'.rawEventHash] at hHash
  have hText := hSha hHash
  refine sameContent_of_canonical_eq (Decoded.dumps_injective ?_ ?_ hText)
  · rw [Decoded.finite_canonical]
    exact hReads.finite
  · rw [Decoded.finite_canonical]
    exact hReads'.finite

/-- At two receipts a message is one event exactly where it has a time of its own. -/
theorem eventId_iff_stamped
    (hu : normalizeTradeUpdate R payload receivedAt = .ok u)
    (hu' : normalizeTradeUpdate R payload receivedAt' = .ok u') (hReceipts : receivedAt ≠ receivedAt')
    (hUuid : ∀ a b, nameOf R payload u.eventTimestamp = some a →
      nameOf R payload u'.eventTimestamp = some b → NoCollision R.uuid5 a b)
    (hIso : NoCollision R.isoformat receivedAt receivedAt') :
    u.eventId = u'.eventId ↔ Stamped payload := by
  obtain ⟨data, order, hReads⟩ := normalizeTradeUpdate_reads hu
  obtain ⟨data', order', hReads'⟩ := normalizeTradeUpdate_reads hu'
  obtain rfl := Option.some.inj (hReads.readsData.symm.trans hReads'.readsData)
  obtain rfl := Option.some.inj (hReads.readsOrder.symm.trans hReads'.readsOrder)
  have hHash : u.rawEventHash = u'.rawEventHash := by
    rw [hReads.rawEventHash, hReads'.rawEventHash]
  constructor
  · intro hId
    rw [hReads.eventId, hReads'.eventId] at hId
    have hName := hUuid _ _ hReads.nameOf hReads'.nameOf hId
    rw [hHash] at hName
    have hTimes := eventName_isoformat hName
    rcases hReads.eventTimestamp_cases with ⟨hStamped, -⟩ | ⟨-, hTime⟩
    · exact hStamped
    · rcases hReads'.eventTimestamp_cases with ⟨hStamped, -⟩ | ⟨-, hTime'⟩
      · exact hStamped
      · rw [hTime, hTime'] at hTimes
        exact absurd (hIso hTimes) hReceipts
  · intro hStamped
    rcases hReads.eventTimestamp_cases with ⟨-, hTime⟩ | ⟨hNot, -⟩
    · have hSame := hTime receivedAt'
      rw [hReads'.eventTimestamp] at hSame
      rw [hReads.eventId, hReads'.eventId, hHash, Except.ok.inj hSame]
    · exact absurd hStamped hNot

/-- The identity of a message that is received twice is one exactly where the message has a time
of its own; it is then recognized as claimed. Messages with different order ids, events, times or
content have different identities. -/
theorem trade_update_identity (R : Runtime) (payload : Entries) (receivedAt receivedAt' : Timestamp)
    (u u' : TradeUpdate Decimal) (hu : normalizeTradeUpdate R payload receivedAt = .ok u)
    (hu' : normalizeTradeUpdate R payload receivedAt' = .ok u') (hReceipts : receivedAt ≠ receivedAt')
    (hUuid : ∀ a b, nameOf R payload u.eventTimestamp = some a →
      nameOf R payload u'.eventTimestamp = some b → NoCollision R.uuid5 a b)
    (hIso : NoCollision R.isoformat receivedAt receivedAt') :
    (u.eventId = u'.eventId ↔ Stamped payload) ∧
    (Stamped payload → ∀ (repo repo' : MemoryExecutionRepository Decimal) (executionId : String),
      repo.claimTradeUpdate u.eventId executionId u.rawEventHash = .ok (true, repo') →
      repo'.claimTradeUpdate u'.eventId executionId u'.rawEventHash = .ok (false, repo')) ∧
    ∀ (other : Entries) (otherReceipt : Timestamp) (v : TradeUpdate Decimal),
      normalizeTradeUpdate R other otherReceipt = .ok v →
      (∀ a b, nameOf R payload u.eventTimestamp = some a →
        nameOf R other v.eventTimestamp = some b → NoCollision R.uuid5 a b) →
      NoCollision R.sha256 (canonicalJsonText (.dict payload)) (canonicalJsonText (.dict other)) →
      ¬ SameContent payload other → u.eventId ≠ v.eventId := by
  have hIff := eventId_iff_stamped hu hu' hReceipts hUuid hIso
  refine ⟨hIff, ?_, ?_⟩
  · intro hStamped repo repo' executionId hClaim
    obtain ⟨_, _, hReads⟩ := normalizeTradeUpdate_reads hu
    obtain ⟨_, _, hReads'⟩ := normalizeTradeUpdate_reads hu'
    have hHash : u.rawEventHash = u'.rawEventHash := by
      rw [hReads.rawEventHash, hReads'.rawEventHash]
    rw [← hIff.mpr hStamped, ← hHash]
    unfold MemoryExecutionRepository.claimTradeUpdate at hClaim ⊢
    split at hClaim
    · split_ifs at hClaim
      cases hClaim
    · obtain rfl := (Prod.mk.inj (Except.ok.inj hClaim)).2
      simp
  · intro other otherReceipt v hv hNames hSha hContent hId
    exact hContent (sameContent_of_eventId hu hv hNames hSha hId)

/-! ### A fill that is delivered twice -/

def fillOrder : Entries :=
  [("id", .str "alpaca-2"), ("client_order_id", .str "DB-1-P"), ("symbol", .str "ABCD"),
    ("side", .str "sell"), ("type", .str "stop"), ("status", .str "filled"), ("qty", .str "10"),
    ("filled_qty", .str "10"), ("stop_price", .str "9.5"),
    ("updated_at", .str "2026-08-03T13:30:01Z")]

/-- A fill without a time of its own, as the stream sends it. -/
def unstampedFill : Entries := [("event", .str "fill"), ("order", .dict fillOrder)]

def stampedFill : Entries :=
  [("data", .dict [("event", .str "fill"), ("timestamp", .str "2026-08-03T13:30:01Z"),
    ("order", .dict fillOrder)])]

def firstReceipt : Timestamp := 1785763802000000

def secondReceipt : Timestamp := 1785763803000000

/-- What the library computes for the two fills. -/
def fillRuntime : Runtime where
  repr _ := "{}"
  isoformat t :=
    if t = firstReceipt then "2026-08-03T13:30:02+00:00"
    else if t = secondReceipt then "2026-08-03T13:30:03+00:00"
    else "2026-08-03T13:30:01+00:00"
  fromisoformat := sampleRuntime.fromisoformat
  sha256 text :=
    if text = canonicalJsonText (.dict unstampedFill) then
      "90f758d5bb65f8fa4d21733a077a85c6b479fae5a29c8554eeb794cb7be8d398"
    else if text = canonicalJsonText (.dict stampedFill) then
      "e6bebca5225349d94ab7dce3ec2bd2a2451680e0c37a33faaedd882f1e2d7ff4"
    else "ce458e4c84d8f3b88730e06fc871aa585bcb276212951b6d2673d541f917914e"
  uuid5 name :=
    if name = "alpaca-trade-update:alpaca-2:fill:2026-08-03T13:30:02+00:00:" ++
        "90f758d5bb65f8fa4d21733a077a85c6b479fae5a29c8554eeb794cb7be8d398" then
      "562acd637027501db76c6edf09109c31"
    else if name = "alpaca-trade-update:alpaca-2:fill:2026-08-03T13:30:03+00:00:" ++
        "90f758d5bb65f8fa4d21733a077a85c6b479fae5a29c8554eeb794cb7be8d398" then
      "1b4fb32335525c7ab38c8b4863ffda0c"
    else if name = "alpaca-trade-update:alpaca-2:fill:2026-08-03T13:30:01+00:00:" ++
        "e6bebca5225349d94ab7dce3ec2bd2a2451680e0c37a33faaedd882f1e2d7ff4" then
      "830408b099a6558fb4d76d3cfb6dfa45"
    else "c36207dfe5465513bc4404c25d719d65"
  sha256_hex text := by
    split_ifs <;> decide +kernel
  length_uuid5 name := by
    split_ifs <;> decide +kernel

/-- Delivered again a second later, the fill is a new event, which nothing recognizes. -/
theorem unstampedFill_twice : ∃ u, normalizeTradeUpdate fillRuntime unstampedFill firstReceipt = .ok u ∧
    ∃ u', normalizeTradeUpdate fillRuntime unstampedFill secondReceipt = .ok u' ∧
      u.eventId ≠ u'.eventId := by
  decide +kernel

theorem stampedFill_accepted (receipt : Timestamp) (h : receipt ∈ [firstReceipt, secondReceipt]) :
    ∃ u, normalizeTradeUpdate fillRuntime stampedFill receipt = .ok u ∧
      u.eventTimestamp = 1785763801000000 := by
  simp only [List.mem_cons, List.not_mem_nil, or_false] at h
  rcases h with rfl | rfl <;> decide +kernel

theorem stampedFill_twice : ∃ u u', normalizeTradeUpdate fillRuntime stampedFill firstReceipt = .ok u ∧
    normalizeTradeUpdate fillRuntime stampedFill secondReceipt = .ok u' ∧ u.eventId = u'.eventId := by
  obtain ⟨u, hu, hTime⟩ := stampedFill_accepted firstReceipt (by simp)
  obtain ⟨u', hu', hTime'⟩ := stampedFill_accepted secondReceipt (by simp)
  have hStamped : Stamped stampedFill := ⟨_, rfl, .inl rfl⟩
  refine ⟨u, u', hu, hu', (trade_update_identity fillRuntime stampedFill firstReceipt secondReceipt u u'
    hu hu' (by decide) (fun a b ha hb _ => ?_) (by unfold NoCollision; decide)).1.mpr hStamped⟩
  rw [hTime] at ha
  rw [hTime'] at hb
  exact Option.some.inj (ha.symm.trans hb)

end Daybreak.Execution
