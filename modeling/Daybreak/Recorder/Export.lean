import Daybreak.Features.DateText
import Daybreak.Recorder.Postgres
import Daybreak.Recorder.Replay
import Daybreak.Serial.Records

/-! The export of a session, a line of canonical JSON for each event. The lines tell the numbers
and the events, up to the order of the keys in their payloads: two exports that return have one
text where they exported the same events. -/

namespace Daybreak.Recorder

open Daybreak.Effect.Cursor Effect Features Numeric Serial Serial.Decoded

variable {R : Derivations}

/-! ### Lines -/

/-- `str(date)` -/
def dateText (date : Date) : String :=
  zeroPad 4 date.year ++ "-" ++ zeroPad 2 date.month ++ "-" ++ zeroPad 2 date.day

/-- `model_dump(mode="python")` of an event, with what `canonical_json_text` makes of its fields. -/
def eventFields : List (String × (RawEventFields → Decoded)) :=
  [("schema_version", fun _ => .str "raw_event_v1"),
    ("event_id", fun e => .str e.eventId),
    ("ingest_session_id", fun e => .str e.ingestSessionId),
    ("connection_id", fun e => .str e.connectionId),
    ("source", fun e => .str e.source.value),
    ("channel", fun e => .str e.channel),
    ("event_type", fun e => .str e.eventType.value),
    ("symbol", fun e => optional .str e.symbol),
    ("symbols", fun e => array .str e.symbols),
    ("provider_event_id", fun e => optional .str e.providerEventId),
    ("event_timestamp", fun e => .str (utcZ e.eventTimestamp)),
    ("received_at", fun e => .str (utcZ e.receivedAt)),
    ("trading_date", fun e => .str (dateText e.tradingDate)),
    ("sequence_hint", fun e => optional .int e.sequenceHint),
    ("payload", fun e => .dict e.payload),
    ("payload_sha256", fun e => .str e.payloadSha256),
    ("idempotency_key", fun e => .str e.idempotencyKey)]

def recordFields : List (String × (PersistedRawEvent R → Decoded)) :=
  [("ingest_seq", fun item => .int item.ingestSeq),
    ("event", fun item => record eventFields item.event.toRawEventFields)]

def exportRecord (item : PersistedRawEvent R) : Decoded := record recordFields item

/-- `canonical_json_text`, which refuses what it cannot write. -/
def writeCanonical (v : Decoded) : Result String := do
  ensure (v.finite = true) (.valueError "non-finite floats are not canonicalizable")
  ensure (printable v = true)
    (.valueError "Exceeds the limit (4300 digits) for integer string conversion")
  return canonicalJsonText v

/-- The handler of `export_session_jsonl`; its state is the text of the file. -/
def writeLine (item : PersistedRawEvent R) : Program String PyError PUnit :=
  Program.step fun file =>
    match writeCanonical (exportRecord item) with
    | .ok line => (.ok ⟨⟩, file ++ line ++ "\n")
    | .error error => (.error error, file)

/-- `export_session_jsonl`: what it returns, and the file it leaves. -/
def exportSessionJsonl (yielded : List (PersistedRawEvent R) × Option PyError)
    (afterIngestSeq : ℤ) : Except PyError ReplayStats × String :=
  (replay yielded writeLine afterIngestSeq 0).exec ""

/-! ### The file -/

/-- The characters of the lines. -/
def lines (items : List (PersistedRawEvent R)) : List Char :=
  items.flatMap fun item => (exportRecord item).canonical.chars ++ ['\n']

theorem lines_cons (item : PersistedRawEvent R) (items : List (PersistedRawEvent R)) :
    lines (item :: items) = (exportRecord item).canonical.chars ++ '\n' :: lines items := by
  rw [lines, List.flatMap_cons, List.append_assoc]
  rfl

theorem writeLine_eq_ok {item : PersistedRawEvent R} {file file' : String}
    (h : (writeLine item).exec file = (.ok ⟨⟩, file')) :
    (exportRecord item).finite = true ∧
      file'.toList = file.toList ++ ((exportRecord item).canonical.chars ++ ['\n']) := by
  simp only [writeLine, Program.exec_step] at h
  cases hLine : writeCanonical (exportRecord item) with
  | error error =>
    rw [hLine] at h
    cases h
  | ok line =>
    rw [hLine] at h
    obtain rfl := (Prod.mk.inj h).2
    simp only [writeCanonical, Result.bind_eq_ok, ensure_eq_ok, Result.pure_eq_ok,
      exists_const] at hLine
    obtain ⟨hFinite, -, rfl⟩ := hLine
    refine ⟨hFinite, ?_⟩
    simp [canonicalJsonText, dumps]

theorem replayItems_lines {items : List (PersistedRawEvent R)} {stats final : ReplayStats}
    {previousSeq : ℤ} {file file' : String}
    (h : (replayItems writeLine stats previousSeq items).exec file = (.ok final, file')) :
    (∀ item ∈ items, (exportRecord item).finite = true) ∧
      file'.toList = file.toList ++ lines items := by
  induction items generalizing stats previousSeq file with
  | nil =>
    obtain ⟨-, rfl⟩ := Prod.mk.inj h
    exact ⟨fun _ hItem => absurd hItem List.not_mem_nil, (List.append_nil _).symm⟩
  | cons item items ih =>
    simp only [replayItems, Program.exec_bind_ok, Program.exec_ofExcept] at h
    obtain ⟨_, _, hFirst, _, _, hSecond, ⟨⟩, middle, hWritten, hRest⟩ := h
    obtain ⟨-, rfl⟩ := Prod.mk.inj hFirst
    obtain ⟨-, rfl⟩ := Prod.mk.inj hSecond
    obtain ⟨hFinite, hFile⟩ := writeLine_eq_ok hWritten
    obtain ⟨hLater, hFile'⟩ := ih hRest
    refine ⟨List.forall_mem_cons.mpr ⟨hFinite, hLater⟩, ?_⟩
    rw [hFile', hFile, lines_cons, List.append_assoc, List.append_assoc]
    rfl

theorem exportSessionJsonl_lines {yielded : List (PersistedRawEvent R) × Option PyError}
    {afterIngestSeq : ℤ} {stats : ReplayStats}
    (h : (exportSessionJsonl yielded afterIngestSeq).1 = .ok stats) :
    (∀ item ∈ yielded.1, (exportRecord item).finite = true) ∧
      (exportSessionJsonl yielded afterIngestSeq).2.toList = lines yielded.1 := by
  have hExec : (replay yielded writeLine afterIngestSeq 0).exec "" =
      (.ok stats, (exportSessionJsonl yielded afterIngestSeq).2) := Prod.ext h rfl
  simp only [replay, Program.exec_bind_ok, Program.exec_ofExcept] at hExec
  obtain ⟨_, _, hSpeed, final, file, hItems, hEnded⟩ := hExec
  obtain ⟨-, rfl⟩ := Prod.mk.inj hSpeed
  obtain ⟨-, hFile⟩ := Prod.mk.inj hEnded
  obtain ⟨hFinite, hLines⟩ := replayItems_lines hItems
  rw [← hFile]
  exact ⟨hFinite, hLines⟩

/-- A line is told from what follows it. -/
theorem chars_dict_inj {as bs : Entries} {rest rest' : List Char}
    (ha : (Decoded.dict as).finite = true) (hb : (Decoded.dict bs).finite = true)
    (h : (Decoded.dict as).chars ++ rest = (Decoded.dict bs).chars ++ rest') :
    as = bs ∧ rest = rest' := by
  simp only [chars, List.cons_append, List.append_assoc, List.cons.injEq, true_and] at h
  exact entriesChars_inj as bs ha hb h

/-- Lines of values have one text where the values have one canonical form. -/
theorem lines_inj {items items' : List (PersistedRawEvent R)}
    (hFinite : ∀ item ∈ items, (exportRecord item).finite = true)
    (hFinite' : ∀ item ∈ items', (exportRecord item).finite = true)
    (h : lines items = lines items') :
    List.Forall₂ (fun a b => (exportRecord a).canonical = (exportRecord b).canonical)
      items items' := by
  induction items generalizing items' with
  | nil =>
    cases items' with
    | nil => exact .nil
    | cons item' items' => simp [lines] at h
  | cons item items ih =>
    cases items' with
    | nil => simp [lines] at h
    | cons item' items' =>
      obtain ⟨hFirst, hRest⟩ := List.forall_mem_cons.mp hFinite
      obtain ⟨hFirst', hRest'⟩ := List.forall_mem_cons.mp hFinite'
      rw [lines_cons, lines_cons] at h
      rw [← finite_canonical] at hFirst hFirst'
      obtain ⟨hEntries, hTail⟩ := chars_dict_inj hFirst hFirst' h
      exact .cons (congrArg Decoded.dict hEntries) (ih hRest hRest' (List.cons.inj hTail).2)

/-! ### What the lines tell -/

open PostgresRawEventRepository (SameEvent)

/-- The items have one number and the same event. -/
structure SameItem (a b : PersistedRawEvent R) : Prop where
  ingestSeq : a.ingestSeq = b.ingestSeq
  event : SameEvent a.event b.event

/-- The timestamps of the event are those of a `datetime`. -/
def Dated (item : PersistedRawEvent R) : Prop :=
  InCalendar (utcDate item.event.eventTimestamp) ∧ InCalendar (utcDate item.event.receivedAt)

instance decidableDated (item : PersistedRawEvent R) : Decidable (Dated item) :=
  inferInstanceAs (Decidable (_ ∧ _))

theorem RecorderSource.value_inj {a b : RecorderSource} : a.value = b.value ↔ a = b := by
  cases a <;> cases b <;> decide

theorem EventType.value_inj {a b : EventType} : a.value = b.value ↔ a = b := by
  cases a <;> cases b <;> decide

theorem optional_inj {α : Type} {write : α → Decoded} {x y : Option α}
    (hNull : ∀ a, (write a).canonical ≠ .none)
    (hWrite : ∀ a b, (write a).canonical = (write b).canonical ↔ a = b) :
    (optional write x).canonical = (optional write y).canonical ↔ x = y := by
  rw [optional_eq_iff hNull fun a _ b _ => hWrite a b]
  cases x with
  | none => cases y <;> simp
  | some a => cases y <;> simp

theorem str_inj (a b : String) : (Decoded.str a).canonical = (Decoded.str b).canonical ↔ a = b := by
  rw [canonical, canonical, str.injEq]
  all_goals exact fun _ h => by cases h

theorem int_inj (a b : ℤ) : (Decoded.int a).canonical = (Decoded.int b).canonical ↔ a = b := by
  rw [canonical, canonical, int.injEq]
  all_goals exact fun _ h => by cases h

theorem optional_str_inj {x y : Option String} :
    (optional .str x).canonical = (optional .str y).canonical ↔ x = y :=
  optional_inj (fun _ => by simp [canonical]) str_inj

theorem optional_int_inj {x y : Option ℤ} :
    (optional .int x).canonical = (optional .int y).canonical ↔ x = y :=
  optional_inj (fun _ => by simp [canonical]) int_inj

theorem symbols_inj (as bs : List String) :
    (array .str as).canonical = (array .str bs).canonical ↔ as = bs := by
  rw [array_eq_iff as bs fun a _ b _ => str_inj a b, List.forall₂_eq_eq_eq]

theorem recordFields_nodup : ((recordFields : List (String × (PersistedRawEvent R → Decoded))).map
    (·.1)).Nodup := by
  rw [recordFields]
  simp

theorem eventFields_nodup : (eventFields.map (·.1)).Nodup := by decide

theorem utcZ_inj {s t : Timestamp} (hs : InCalendar (utcDate s)) (ht : InCalendar (utcDate t)) :
    (Decoded.str (utcZ s)).canonical = (Decoded.str (utcZ t)).canonical ↔ s = t := by
  rw [str_inj]
  exact ⟨utcZ_injective hs ht, congrArg utcZ⟩

/-- The dump of an event tells its fields; the date is derived from one of them. -/
theorem eventRecord_eq_iff {a b : PersistedRawEvent R} (ha : Dated a) (hb : Dated b) :
    (record eventFields a.event.toRawEventFields).canonical =
      (record eventFields b.event.toRawEventFields).canonical ↔ SameEvent a.event b.event := by
  rw [record_eq_iff eventFields_nodup]
  simp only [eventFields, List.forall_mem_cons, str_inj, RecorderSource.value_inj,
    EventType.value_inj, symbols_inj, utcZ_inj ha.1 hb.1, utcZ_inj ha.2 hb.2,
    optional_str_inj, optional_int_inj]
  constructor
  · rintro ⟨-, hId, hSession, hConnection, hSource, hChannel, hType, hSymbol, hSymbols, hProvider,
      hTimestamp, hReceived, -, hHint, hPayload, hHash, hKey, -⟩
    have hDate : a.event.tradingDate = b.event.tradingDate := by
      rw [a.event.valid.tradingDate, b.event.valid.tradingDate, hTimestamp]
    refine ⟨?_, hPayload.symm⟩
    simp only [hId, hSession, hConnection, hSource, hChannel, hType, hSymbol, hSymbols, hProvider,
      hTimestamp, hReceived, hDate, hHint, hHash, hKey]
  · rintro ⟨hFields, hPayload⟩
    rw [hFields]
    exact ⟨trivial, rfl, rfl, rfl, rfl, rfl, rfl, rfl, rfl, rfl, rfl, rfl, rfl, rfl, hPayload.symm,
      rfl, rfl, fun _ hField => absurd hField List.not_mem_nil⟩

theorem exportRecord_eq_iff {a b : PersistedRawEvent R} (ha : Dated a) (hb : Dated b) :
    (exportRecord a).canonical = (exportRecord b).canonical ↔ SameItem a b := by
  rw [exportRecord, exportRecord, record_eq_iff recordFields_nodup]
  simp only [recordFields, List.forall_mem_cons, eventRecord_eq_iff ha hb, int_inj]
  constructor
  · rintro ⟨hSeq, hEvent, -⟩
    exact ⟨Int.ofNat_inj.mp hSeq, hEvent⟩
  · rintro ⟨hSeq, hEvent⟩
    exact ⟨congrArg _ hSeq, hEvent, fun _ hField => absurd hField List.not_mem_nil⟩

theorem lines_congr {items items' : List (PersistedRawEvent R)}
    (h : List.Forall₂ (fun a b => (exportRecord a).canonical = (exportRecord b).canonical)
      items items') : lines items = lines items' := by
  induction h with
  | nil => rfl
  | cons hFirst _ ih => rw [lines_cons, lines_cons, hFirst, ih]

/-- Two exports that returned have one text exactly where they wrote the same events, up to the
order of the keys in their payloads, under the same numbers. -/
theorem exports_eq_iff {yielded yielded' : List (PersistedRawEvent R) × Option PyError}
    {afterIngestSeq afterIngestSeq' : ℤ} {stats stats' : ReplayStats}
    (hReturned : (exportSessionJsonl yielded afterIngestSeq).1 = .ok stats)
    (hReturned' : (exportSessionJsonl yielded' afterIngestSeq').1 = .ok stats')
    (hDated : ∀ item ∈ yielded.1, Dated item) (hDated' : ∀ item ∈ yielded'.1, Dated item) :
    (exportSessionJsonl yielded afterIngestSeq).2 = (exportSessionJsonl yielded' afterIngestSeq').2 ↔
      List.Forall₂ SameItem yielded.1 yielded'.1 := by
  obtain ⟨hFinite, hLines⟩ := exportSessionJsonl_lines hReturned
  obtain ⟨hFinite', hLines'⟩ := exportSessionJsonl_lines hReturned'
  have hRecords : List.Forall₂ (fun a b => (exportRecord a).canonical = (exportRecord b).canonical)
      yielded.1 yielded'.1 ↔ List.Forall₂ SameItem yielded.1 yielded'.1 := by
    simp only [List.forall₂_iff_get]
    refine and_congr_right fun _ => forall₃_congr fun i hi hi' => ?_
    exact exportRecord_eq_iff (hDated _ (List.get_mem _ _)) (hDated' _ (List.get_mem _ _))
  rw [← hRecords, ← String.toList_inj, hLines, hLines']
  exact ⟨lines_inj hFinite hFinite', lines_congr⟩

/-- An event that is exported alone. -/
theorem exists_exported :
    ∃ event : RawEvent PostgresRawEventRepository.tradeDerivations, ∃ stats,
      (exportSessionJsonl ([⟨1, event, Nat.one_pos⟩], none) 0).1 = .ok stats ∧
        Dated ⟨1, event, Nat.one_pos⟩ := by
  have hExported : (RawEvent.create PostgresRawEventRepository.tradeDerivations
      PostgresRawEventRepository.tradeRequest).toOption.any (fun event =>
        (exportSessionJsonl ([⟨1, event, Nat.one_pos⟩], none) 0).1.toOption.isSome &&
          decide (Dated ⟨1, event, Nat.one_pos⟩)) = true := by
    decide +kernel
  obtain ⟨event, -, hEvent⟩ := (Option.any_eq_true _ _).mp hExported
  obtain ⟨hReturns, hDated⟩ := Bool.and_eq_true_iff.mp hEvent
  obtain ⟨stats, hStats⟩ := Option.isSome_iff_exists.mp hReturns
  refine ⟨event, stats, ?_, of_decide_eq_true hDated⟩
  cases hOutcome : (exportSessionJsonl ([⟨1, event, Nat.one_pos⟩], none) 0).1 with
  | ok stats' =>
    rw [hOutcome] at hStats
    exact congrArg _ (Option.some.inj hStats)
  | error e =>
    rw [hOutcome] at hStats
    cases hStats

theorem exports_eq_iff_sample :
    ∃ event : RawEvent PostgresRawEventRepository.tradeDerivations,
      ∃ nothing : List (PersistedRawEvent PostgresRawEventRepository.tradeDerivations),
        (exportSessionJsonl ([⟨1, event, Nat.one_pos⟩], none) 0).2 =
            (exportSessionJsonl (nothing, none) 0).2 ↔
          List.Forall₂ SameItem [⟨1, event, Nat.one_pos⟩] nothing := by
  obtain ⟨event, stats, hReturned, hDated⟩ := exists_exported
  exact ⟨event, [], exports_eq_iff hReturned rfl (List.forall_mem_singleton.mpr hDated)
    fun _ hItem => absurd hItem List.not_mem_nil⟩

end Daybreak.Recorder
