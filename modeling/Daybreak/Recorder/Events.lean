import Daybreak.Effect.KeyedLog
import Daybreak.Features.Models
import Daybreak.Serial.JsonText

/-! Raw events. The payload of an event is told by its hash, and the session, the source and
the content of the event by its idempotency key; an event carries the proof that its validators
accepted it. -/

namespace Daybreak.Recorder

open Effect Serial

/-! ### Enumerations -/

inductive RecorderSource where
  | alpacaSip | alpacaNews | alpacaTrading | secEdgar | system
  deriving DecidableEq, Repr

def RecorderSource.value : RecorderSource → String
  | .alpacaSip => "alpaca_sip"
  | .alpacaNews => "alpaca_news"
  | .alpacaTrading => "alpaca_trading"
  | .secEdgar => "sec_edgar"
  | .system => "system"

inductive EventType where
  | trade | quote | minuteBar | updatedBar | dailyBar | tradingStatus | tradeCancel
  | tradeCorrection | news | tradeUpdate | secSubmissionsSnapshot | secSubmission
  | streamConnected | streamDisconnected | subscriptionManifest | heartbeat | error
  deriving DecidableEq, Repr

def EventType.value : EventType → String
  | .trade => "trade"
  | .quote => "quote"
  | .minuteBar => "minute_bar"
  | .updatedBar => "updated_bar"
  | .dailyBar => "daily_bar"
  | .tradingStatus => "trading_status"
  | .tradeCancel => "trade_cancel"
  | .tradeCorrection => "trade_correction"
  | .news => "news"
  | .tradeUpdate => "trade_update"
  | .secSubmissionsSnapshot => "sec_submissions_snapshot"
  | .secSubmission => "sec_submission"
  | .streamConnected => "stream_connected"
  | .streamDisconnected => "stream_disconnected"
  | .subscriptionManifest => "subscription_manifest"
  | .heartbeat => "heartbeat"
  | .error => "error"

/-! ### Hashes -/

/-- `canonical_json_text` of a value that it does not refuse. -/
def canonicalJsonText (v : Decoded) : String := v.canonical.dumps

/-- The largest number of digits that an integer is written with. -/
def maxIntDigits : ℕ := 4300

mutual

/-- No integer in the value has too many digits to be written. -/
def printable : Decoded → Bool
  | .int n => n.natAbs < 10 ^ maxIntDigits
  | .list items => printableItems items
  | .dict items => printableEntries items
  | _ => true

def printableItems : List Decoded → Bool
  | [] => true
  | item :: items => printable item && printableItems items

def printableEntries : List (String × Decoded) → Bool
  | [] => true
  | (_, item) :: items => printable item && printableEntries items

end

theorem printableEntries_eq_all (entries : Entries) :
    printableEntries entries = entries.all fun entry => printable entry.2 := by
  induction entries with
  | nil => rfl
  | cons entry entries ih => rw [printableEntries, List.all_cons, ih]

mutual

/-- The order of the keys does not lengthen an integer. -/
theorem printable_canonical (v : Decoded) : printable v.canonical = printable v := by
  cases v with
  | list items => exact printable_canonicalItems items
  | dict items =>
    have hEntries := printable_canonicalEntries items
    rw [printableEntries_eq_all] at hEntries
    rw [Decoded.canonical, printable, printable, printableEntries_eq_all,
      (Order.sortedBy_perm Prod.fst _).all_eq, hEntries]
  | _ => rfl
termination_by structural v

theorem printable_canonicalItems (items : List Decoded) :
    printableItems (Decoded.canonicalItems items) = printableItems items := by
  cases items with
  | nil => rfl
  | cons item items =>
    rw [Decoded.canonicalItems, printableItems, printableItems, printable_canonical item,
      printable_canonicalItems items]
termination_by structural items

theorem printable_canonicalEntries (items : List (String × Decoded)) :
    printableEntries (Decoded.canonicalEntries items) = printableEntries items := by
  cases items with
  | nil => rfl
  | cons entry items =>
    rw [Decoded.canonicalEntries, printableEntries, printableEntries, printable_canonical entry.2,
      printable_canonicalEntries items]
termination_by structural items

end

/-- What the derived fields of an event are made with: SHA-256 of a text in hexadecimal digits,
the version-5 UUID of a name among the events, and the date in New York. -/
structure Derivations where
  sha256 : String → String
  uuid5 : String → String
  newYorkDate : Timestamp → Date
  sha256_hex : ∀ text, Features.isHash (sha256 text) = true

variable (R : Derivations)

/-- `sha256_hex` -/
def Derivations.sha256Hex (v : Decoded) : Result String := do
  ensure (v.finite = true) (.valueError "non-finite floats are not canonicalizable")
  ensure (printable v = true)
    (.valueError "Exceeds the limit (4300 digits) for integer string conversion")
  return R.sha256 (canonicalJsonText v)

theorem Derivations.sha256Hex_eq_ok {R : Derivations} {v : Decoded} {hash : String} :
    R.sha256Hex v = .ok hash ↔
      v.finite = true ∧ printable v = true ∧ hash = R.sha256 (canonicalJsonText v) := by
  simp only [sha256Hex, Result.bind_eq_ok, ensure_eq_ok, Result.pure_eq_ok, exists_const]
  rw [eq_comm (a := hash)]

/-! ### Events -/

structure RawEventFields where
  eventId : String
  ingestSessionId : String
  connectionId : String
  source : RecorderSource
  channel : String
  eventType : EventType
  symbol : Option String
  symbols : List String
  providerEventId : Option String
  eventTimestamp : Timestamp
  receivedAt : Timestamp
  tradingDate : Date
  sequenceHint : Option ℤ
  payload : Entries
  payloadSha256 : String
  idempotencyKey : String
  deriving Repr

namespace RawEventFields

/-- What the idempotency key is the hash of. -/
def identity (e : RawEventFields) : Decoded :=
  .dict [("ingest_session_id", .str e.ingestSessionId), ("source", .str e.source.value),
    ("channel", .str e.channel), ("event_type", .str e.eventType.value),
    ("symbols", .list (e.symbols.map .str)),
    ("provider_event_id", (e.providerEventId.map Decoded.str).getD .none),
    ("event_timestamp", .str (Features.utcZ e.eventTimestamp)),
    ("payload_sha256", .str e.payloadSha256)]

/-- A symbol of one to thirty-two characters. -/
def IsSymbol (s : String) : Prop := 1 ≤ s.length ∧ s.length ≤ 32

/-- The fields of the event, and what they are derived from. -/
structure Valid (e : RawEventFields) : Prop where
  channel : 1 ≤ e.channel.length ∧ e.channel.length ≤ 64
  symbol : ∀ s ∈ e.symbol, IsSymbol s ∧ s ∈ e.symbols
  symbols : e.symbols.Nodup ∧ ∀ s ∈ e.symbols, IsSymbol s
  providerEventId : ∀ s ∈ e.providerEventId, s.length ≤ 256
  sequenceHint : ∀ n ∈ e.sequenceHint, 0 ≤ n
  hashes : Features.isHash e.payloadSha256 = true ∧ Features.isHash e.idempotencyKey = true
  payload : R.sha256Hex (.dict e.payload) = .ok e.payloadSha256
  idempotency : R.sha256Hex e.identity = .ok e.idempotencyKey
  eventId : e.eventId = R.uuid5 e.idempotencyKey
  tradingDate : e.tradingDate = R.newYorkDate e.eventTimestamp

end RawEventFields

theorem RawEventFields.valid_iff {R : Derivations} {e : RawEventFields} : e.Valid R ↔
    ((1 ≤ e.channel.length ∧ e.channel.length ≤ 64) ∧
      (∀ s ∈ e.symbol, RawEventFields.IsSymbol s ∧ s ∈ e.symbols) ∧
      (e.symbols.Nodup ∧ ∀ s ∈ e.symbols, RawEventFields.IsSymbol s) ∧
      (∀ s ∈ e.providerEventId, s.length ≤ 256) ∧ (∀ n ∈ e.sequenceHint, 0 ≤ n) ∧
      (Features.isHash e.payloadSha256 = true ∧ Features.isHash e.idempotencyKey = true)) ∧
    R.sha256Hex (.dict e.payload) = .ok e.payloadSha256 ∧
    R.sha256Hex e.identity = .ok e.idempotencyKey ∧ e.eventId = R.uuid5 e.idempotencyKey ∧
    e.tradingDate = R.newYorkDate e.eventTimestamp := by
  constructor
  · rintro ⟨hChannel, hSymbol, hSymbols, hProvider, hHint, hHashes, hPayload, hKey, hId, hDate⟩
    exact ⟨⟨hChannel, hSymbol, hSymbols, hProvider, hHint, hHashes⟩, hPayload, hKey, hId, hDate⟩
  · rintro ⟨⟨hChannel, hSymbol, hSymbols, hProvider, hHint, hHashes⟩, hPayload, hKey, hId, hDate⟩
    exact ⟨hChannel, hSymbol, hSymbols, hProvider, hHint, hHashes, hPayload, hKey, hId, hDate⟩

instance RawEventFields.decidableIsSymbol (s : String) : Decidable (RawEventFields.IsSymbol s) :=
  inferInstanceAs (Decidable (_ ∧ _))

instance RawEventFields.decidableValid (e : RawEventFields) : Decidable (e.Valid R) :=
  decidable_of_iff' _ RawEventFields.valid_iff

/-- `RawEvent` -/
structure RawEvent extends RawEventFields where
  valid : toRawEventFields.Valid R

/-- `RawEvent(...)` -/
def RawEvent.validate (fields : RawEventFields) : Result (RawEvent R) :=
  if h : fields.Valid R then .ok ⟨fields, h⟩ else .error (.validationError "RawEvent")

theorem RawEvent.validate_eq_ok {R : Derivations} {fields : RawEventFields} {event : RawEvent R} :
    RawEvent.validate R fields = .ok event ↔ event.toRawEventFields = fields := by
  unfold RawEvent.validate
  split_ifs with h
  · constructor
    · intro hEvent
      obtain rfl := Except.ok.inj hEvent
      rfl
    · rintro rfl
      rfl
  · refine iff_of_false nofun ?_
    rintro rfl
    exact h event.valid

/-- The arguments of `RawEvent.create`. -/
structure EventRequest where
  ingestSessionId : String
  connectionId : String
  source : RecorderSource
  channel : String
  eventType : EventType
  eventTimestamp : Timestamp
  receivedAt : Timestamp
  payload : Entries
  symbols : List String := []
  providerEventId : Option String := none
  sequenceHint : Option ℤ := none

/-- `tuple(dict.fromkeys(texts))` -/
def fromKeys (texts : List String) : List String := KeyedLog.offerAll id [] texts

/-- `RawEvent.create` -/
def RawEvent.create (request : EventRequest) : Result (RawEvent R) := do
  let orderedSymbols := fromKeys request.symbols
  let payloadHash ← R.sha256Hex (.dict request.payload)
  let fields : RawEventFields :=
    { eventId := ""
      ingestSessionId := request.ingestSessionId
      connectionId := request.connectionId
      source := request.source
      channel := request.channel
      eventType := request.eventType
      symbol := orderedSymbols.head?
      symbols := orderedSymbols
      providerEventId := request.providerEventId
      eventTimestamp := request.eventTimestamp
      receivedAt := request.receivedAt
      tradingDate := R.newYorkDate request.eventTimestamp
      sequenceHint := request.sequenceHint
      payload := request.payload
      payloadSha256 := payloadHash
      idempotencyKey := "" }
  let idempotencyKey ← R.sha256Hex fields.identity
  RawEvent.validate R { fields with eventId := R.uuid5 idempotencyKey, idempotencyKey }

/-- What is created has what it was asked for. -/
theorem RawEvent.create_eq_ok {R : Derivations} {request : EventRequest} {event : RawEvent R}
    (h : RawEvent.create R request = .ok event) : event.eventType = request.eventType ∧
      event.providerEventId = request.providerEventId ∧ event.payload = request.payload ∧
      event.ingestSessionId = request.ingestSessionId := by
  simp only [RawEvent.create, Result.bind_eq_ok] at h
  obtain ⟨payloadHash, -, key, -, hValid⟩ := h
  rw [RawEvent.validate_eq_ok] at hValid
  rw [hValid]
  exact ⟨rfl, rfl, rfl, rfl⟩

/-! ### Values of texts -/

theorem finiteItems_map_str (texts : List String) :
    Decoded.finiteItems (texts.map .str) = true := by
  induction texts with
  | nil => rfl
  | cons text texts ih => exact ih

theorem printableItems_map_str (texts : List String) : printableItems (texts.map .str) = true := by
  induction texts with
  | nil => rfl
  | cons text texts ih => exact ih

/-- An identity can be hashed. -/
theorem RawEventFields.sha256Hex_identity (e : RawEventFields) :
    R.sha256Hex e.identity = .ok (R.sha256 (canonicalJsonText e.identity)) := by
  refine Derivations.sha256Hex_eq_ok.mpr ⟨?_, ?_, rfl⟩
  · cases hProvider : e.providerEventId <;>
      simp [identity, Decoded.finite, Decoded.finiteEntries, finiteItems_map_str, hProvider]
  · cases hProvider : e.providerEventId <;>
      simp [identity, printable, printableEntries, printableItems_map_str, hProvider]

theorem mem_fromKeys {text : String} {texts : List String} : text ∈ fromKeys texts ↔ text ∈ texts := by
  have hKeys : text ∈ (fromKeys texts).map id ↔ text ∈ ([] : List String).map id ∨ text ∈ texts.map id :=
    KeyedLog.mem_map_offerAll
  simpa using hKeys

theorem nodup_fromKeys (texts : List String) : (fromKeys texts).Nodup := by
  have hNodup : ((fromKeys texts).map id).Nodup := KeyedLog.nodup_offerAll List.nodup_nil
  rwa [List.map_id] at hNodup

/-- What can be hashed, with a channel, symbols and an id of a length that is allowed, is
created. -/
theorem RawEvent.exists_create {request : EventRequest}
    (hFinite : Decoded.finite (.dict request.payload) = true)
    (hPrintable : printable (.dict request.payload) = true)
    (hChannel : 1 ≤ request.channel.length ∧ request.channel.length ≤ 64)
    (hSymbols : ∀ s ∈ request.symbols, RawEventFields.IsSymbol s)
    (hProvider : ∀ s ∈ request.providerEventId, s.length ≤ 256)
    (hHint : ∀ n ∈ request.sequenceHint, 0 ≤ n) :
    ∃ event, RawEvent.create R request = .ok event := by
  have hPayload : R.sha256Hex (.dict request.payload) =
      .ok (R.sha256 (canonicalJsonText (.dict request.payload))) :=
    Derivations.sha256Hex_eq_ok.mpr ⟨hFinite, hPrintable, rfl⟩
  have hOrdered : ∀ s ∈ fromKeys request.symbols, RawEventFields.IsSymbol s :=
    fun s hs => hSymbols s (mem_fromKeys.mp hs)
  simp only [RawEvent.create, hPayload, RawEventFields.sha256Hex_identity]
  refine ⟨_, dif_pos ?_⟩
  exact {
    channel := hChannel
    symbol := fun s hs => ⟨hOrdered s (List.mem_of_head? hs), List.mem_of_head? hs⟩
    symbols := ⟨nodup_fromKeys _, hOrdered⟩
    providerEventId := hProvider
    sequenceHint := hHint
    hashes := ⟨R.sha256_hex _, R.sha256_hex _⟩
    payload := hPayload
    idempotency := RawEventFields.sha256Hex_identity R _
    eventId := rfl
    tradingDate := rfl }

end Daybreak.Recorder
