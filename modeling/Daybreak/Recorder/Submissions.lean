import Daybreak.Effect.Fallible
import Daybreak.Order.Sorting
import Daybreak.Recorder.Events
import Mathlib.Data.Finset.Basic
import Mathlib.Data.Finset.Dedup
import Mathlib.Data.List.Induction
import Mathlib.Data.Prod.Lex

/-! Polls of the SEC. A poll submits one event for each filing that it has not seen, and marks
what the response lists. A poll that has seen nothing takes itself for the first, and submits
only what was accepted within the lookback. -/

namespace Daybreak.Recorder

open Effect Serial Daybreak.Order

/-- `SecFilingRecord`, with its `model_dump` in which dates and times are their texts. -/
structure SecFilingRecord where
  accessionNumber : String
  acceptanceTimestamp : Timestamp
  dump : Entries

/-- How a response is read: `parse_recent_filings`, and `symbol.strip().upper()`. -/
structure SubmissionsReader where
  parseRecentFilings : String → Entries → Result (List SecFilingRecord)
  normalizeSymbol : String → String

structure SecSubmissionsPoller where
  ingestSessionId : String
  connectionId : String
  /-- In microseconds. -/
  bootstrapLookback : ℤ

/-- What a poll meets: the object that the response decodes to, or what was raised before. -/
structure SecPoll where
  cik : String
  receivedAt : Timestamp
  response : Result Entries

/-! ### The repository -/

abbrev SecSeen := Dict String (Finset String)

/-- `get_sec_seen_accessions` -/
def getSecSeenAccessions (seen : SecSeen) (cik : String) : Finset String :=
  (seen.lookup cik).getD ∅

/-- `mark_sec_accessions_seen` -/
def markSecAccessionsSeen (seen : SecSeen) (cik : String) (accessionNumbers : List String) :
    SecSeen :=
  seen.insert cik (getSecSeenAccessions seen cik ∪ accessionNumbers.toFinset)

theorem getSecSeenAccessions_mark (seen : SecSeen) (cik cik' : String) (accessions : List String) :
    getSecSeenAccessions (markSecAccessionsSeen seen cik accessions) cik' =
      if cik' = cik then getSecSeenAccessions seen cik ∪ accessions.toFinset
      else getSecSeenAccessions seen cik' := by
  rw [getSecSeenAccessions, markSecAccessionsSeen, Dict.lookup_insert_eq]
  split_ifs <;> rfl

/-! ### A poll -/

section Poll

variable (R : Derivations) (reader : SubmissionsReader) (poller : SecSubmissionsPoller)

/-- The filings that a response lists. -/
def SecPoll.filings (poll : SecPoll) : Result (List SecFilingRecord) := do
  let payload ← poll.response
  reader.parseRecentFilings poll.cik payload

/-- The records to submit, and the accessions to mark. -/
def selectRecords (receivedAt : Timestamp) (seen : Finset String) (all : List SecFilingRecord) :
    List SecFilingRecord × List String :=
  if seen = ∅ then
    (all.filter fun record => receivedAt - poller.bootstrapLookback ≤ record.acceptanceTimestamp,
      all.map (·.accessionNumber))
  else
    let records := all.filter fun record => record.accessionNumber ∉ seen
    (records, records.map (·.accessionNumber))

/-- `for symbol in payload.get("tickers", [])` -/
def tickers (payload : Entries) : Result (List Decoded) :=
  match fieldOr payload "tickers" (.list []) with
  | .list items => .ok items
  | .dict items => .ok (items.map fun item => .str item.1)
  | .str text => .ok (text.toList.map fun c => .str c.toString)
  | _ => .error (.other "TypeError")

def payloadSymbols (payload : Entries) : Result (List String) := do
  let items ← tickers payload
  return fromKeys (items.filterMap fun item =>
    match item with
    | .str text =>
      if reader.normalizeSymbol text = "" then none else some (reader.normalizeSymbol text)
    | _ => none)

def snapshotRequest (poll : SecPoll) (payload : Entries) (symbols : List String)
    (latestSourceTimestamp : Timestamp) (snapshotHash : String) : EventRequest where
  ingestSessionId := poller.ingestSessionId
  connectionId := poller.connectionId
  source := .secEdgar
  channel := "submissions_snapshot"
  eventType := .secSubmissionsSnapshot
  eventTimestamp := latestSourceTimestamp
  receivedAt := poll.receivedAt
  payload := payload
  symbols := symbols
  providerEventId := some ("CIK" ++ poll.cik ++ ":" ++ snapshotHash)

def filingRequest (poll : SecPoll) (payload : Entries) (symbols : List String)
    (record : SecFilingRecord) : EventRequest where
  ingestSessionId := poller.ingestSessionId
  connectionId := poller.connectionId
  source := .secEdgar
  channel := "submissions"
  eventType := .secSubmission
  eventTimestamp := record.acceptanceTimestamp
  receivedAt := poll.receivedAt
  payload :=
    [("company_name", field payload "name"),
      ("tickers", fieldOr payload "tickers" (.list [])),
      ("exchanges", fieldOr payload "exchanges" (.list []))] ++ record.dump
  symbols := symbols
  providerEventId := some record.accessionNumber

/-- What a poll submits to its writer, and the accessions that it marks then. -/
def submission (poll : SecPoll) (seen : Finset String) :
    Result (List (RawEvent R) × List String) := do
  let payload ← poll.response
  let allRecords ← reader.parseRecentFilings poll.cik payload
  let selected := selectRecords poller poll.receivedAt seen allRecords
  let records := sortedBy
    (fun record => toLex (record.acceptanceTimestamp, record.accessionNumber)) selected.1
  let symbols ← payloadSymbols reader payload
  let latestSourceTimestamp :=
    ((allRecords.map (·.acceptanceTimestamp)).max?).getD poll.receivedAt
  let snapshotHash ← R.sha256Hex (.dict payload)
  let snapshotEvent ← RawEvent.create R
    (snapshotRequest poller poll payload symbols latestSourceTimestamp snapshotHash)
  let filingEvents ← records.mapM fun record =>
    RawEvent.create R (filingRequest poller poll payload symbols record)
  return (snapshotEvent :: filingEvents, selected.2)

/-- `_poll_cik`, with a writer and a repository that do not fail. -/
def pollCik (poll : SecPoll) (seen : SecSeen) : Result (List (RawEvent R)) × SecSeen :=
  match submission R reader poller poll (getSecSeenAccessions seen poll.cik) with
  | .ok (events, accessionNumbers) =>
    (.ok events, markSecAccessionsSeen seen poll.cik accessionNumbers)
  | .error e => (.error e, seen)

/-! ### Runs -/

/-- A poll that was successful: what had been seen before, what its response lists, and what it
submits. -/
structure Polled where
  cik : String
  receivedAt : Timestamp
  seen : Finset String
  records : List SecFilingRecord
  events : List (RawEvent R)

/-- The successful polls, and what has been seen after them. -/
def pollStep (state : List (Polled R) × SecSeen) (poll : SecPoll) : List (Polled R) × SecSeen :=
  match poll.filings reader, pollCik R reader poller poll state.2 with
  | .ok records, (.ok events, seen) =>
    (state.1 ++ [⟨poll.cik, poll.receivedAt, getSecSeenAccessions state.2 poll.cik, records,
      events⟩], seen)
  | _, (_, seen) => (state.1, seen)

/-- The polls one after the other, on a repository that has seen nothing. -/
def pollAll (polls : List SecPoll) : List (Polled R) × SecSeen :=
  polls.foldl (pollStep R reader poller) ([], ∅)

end Poll

variable {R : Derivations} {reader : SubmissionsReader} {poller : SecSubmissionsPoller}
  {poll : SecPoll} {polls : List SecPoll} {seen : Finset String} {records : List SecFilingRecord}
  {events : List (RawEvent R)} {accession : String}

namespace Polled

/-- How many of the events are for the filing. -/
def emits (polled : Polled R) (accession : String) : ℕ :=
  polled.events.countP fun event =>
    event.eventType = .secSubmission ∧ event.providerEventId = some accession

/-- The response lists the filing. -/
def Lists (polled : Polled R) (accession : String) : Prop :=
  accession ∈ polled.records.map (·.accessionNumber)

end Polled

/-- A filing that a later response is the first to list is submitted once by that poll, and no
filing is submitted by two polls. -/
structure NoneMissed (history : List (Polled R)) : Prop where
  emitted : ∀ earlier polled later, earlier ++ polled :: later = history →
    (∃ other ∈ earlier, other.cik = polled.cik) →
    ∀ accession, polled.Lists accession →
      (∀ other ∈ earlier, other.cik = polled.cik → ¬ other.Lists accession) →
      polled.emits accession = 1
  once : ∀ earlier polled later, earlier ++ polled :: later = history →
    ∀ other ∈ earlier, other.cik = polled.cik →
    ∀ accession, other.emits accession = 0 ∨ polled.emits accession = 0

/-- No later poll of a company has seen nothing and lists what was accepted before its
lookback. -/
def NoLateBootstrap (poller : SecSubmissionsPoller) (history : List (Polled R)) : Prop :=
  ∀ earlier polled later, earlier ++ polled :: later = history →
    (∃ other ∈ earlier, other.cik = polled.cik) → polled.seen = ∅ →
    ∀ record ∈ polled.records,
      polled.receivedAt - poller.bootstrapLookback ≤ record.acceptanceTimestamp

/-! ### What a poll submits -/

/-- The filing events are those of the selected records. -/
theorem countP_filingEvents {payload : Entries} {symbols : List String} (accession : String)
    (h : (records.mapM fun record =>
      RawEvent.create R (filingRequest poller poll payload symbols record)) = .ok events) :
    (events.countP fun event =>
      event.eventType = .secSubmission ∧ event.providerEventId = some accession) =
      (records.map (·.accessionNumber)).count accession := by
  have hEvents := Fallible.mapM_eq_ok.mp h
  clear h
  induction hEvents with
  | nil => rfl
  | cons hFirst _ ih =>
    obtain ⟨hType, hProvider, -⟩ := RawEvent.create_eq_ok hFirst
    rw [List.countP_cons, List.map_cons, List.count_cons, ih, hType, hProvider]
    simp [filingRequest]

/-- What a successful poll submits for a filing, and what it marks. -/
theorem submission_eq_ok {accessions : List String}
    (h : submission R reader poller poll seen = .ok (events, accessions)) :
    ∃ records, poll.filings reader = .ok records ∧
      accessions = (selectRecords poller poll.receivedAt seen records).2 ∧
      ∀ accession, (events.countP fun event =>
        event.eventType = .secSubmission ∧ event.providerEventId = some accession) =
        ((selectRecords poller poll.receivedAt seen records).1.map (·.accessionNumber)).count
          accession := by
  simp only [submission, Result.bind_eq_ok, Result.pure_eq_ok, Prod.mk.injEq] at h
  obtain ⟨payload, hPayload, records, hRecords, symbols, -, hash, -, snapshot, hSnapshot, filings,
    hFilings, hEvents, hAccessions⟩ := h
  refine ⟨records, ?_, hAccessions.symm, fun accession => ?_⟩
  · rw [SecPoll.filings, hPayload]
    exact hRecords
  · have hType : ¬ snapshot.eventType = .secSubmission := by
      rw [(RawEvent.create_eq_ok hSnapshot).1]
      exact nofun
    rw [← hEvents, List.countP_cons_of_neg (by simp [hType]),
      countP_filingEvents accession hFilings]
    exact ((sortedBy_perm _ _).map _).count_eq accession

/-! ### What a run remembers -/

theorem mem_selectRecords {receivedAt : Timestamp} {record : SecFilingRecord} :
    record ∈ (selectRecords poller receivedAt seen records).1 ↔ record ∈ records ∧
      if seen = ∅ then receivedAt - poller.bootstrapLookback ≤ record.acceptanceTimestamp
      else record.accessionNumber ∉ seen := by
  unfold selectRecords
  split_ifs <;> simp

/-- With what had been seen before, a poll has marked all that its response lists. -/
theorem mem_marked {receivedAt : Timestamp} :
    accession ∈ seen ∪ (selectRecords poller receivedAt seen records).2.toFinset ↔
      accession ∈ seen ∨ accession ∈ records.map (·.accessionNumber) := by
  unfold selectRecords
  split_ifs with hEmpty
  · simp
  · simp only [Finset.mem_union, List.mem_toFinset, List.mem_map, List.mem_filter]
    constructor
    · rintro (hSeen | ⟨record, ⟨hRecord, -⟩, rfl⟩)
      · exact .inl hSeen
      · exact .inr ⟨record, hRecord, rfl⟩
    · rintro (hSeen | ⟨record, hRecord, rfl⟩)
      · exact .inl hSeen
      · by_cases hSeen : record.accessionNumber ∈ seen
        · exact .inl hSeen
        · exact .inr ⟨record, ⟨hRecord, by simpa using hSeen⟩, rfl⟩

/-- What has been seen of a company is what the successful polls listed, and each submitted what
it selected. -/
structure Remembered (poller : SecSubmissionsPoller) (state : List (Polled R) × SecSeen) : Prop where
  seen : ∀ cik accession, accession ∈ getSecSeenAccessions state.2 cik ↔
    ∃ polled ∈ state.1, polled.cik = cik ∧ polled.Lists accession
  before : ∀ earlier polled later, earlier ++ polled :: later = state.1 → ∀ accession,
    accession ∈ polled.seen ↔
      ∃ other ∈ earlier, other.cik = polled.cik ∧ other.Lists accession
  emits : ∀ polled ∈ state.1, ∀ accession, polled.emits accession =
    ((selectRecords poller polled.receivedAt polled.seen polled.records).1.map
      (·.accessionNumber)).count accession

theorem pollStep_remembered {state : List (Polled R) × SecSeen} (h : Remembered poller state)
    (poll : SecPoll) : Remembered poller (pollStep R reader poller state poll) := by
  obtain ⟨history, seen⟩ := state
  unfold pollStep pollCik
  cases hSubmission : submission R reader poller poll (getSecSeenAccessions seen poll.cik) with
  | error e => cases poll.filings reader <;> exact h
  | ok submitted =>
    obtain ⟨events, accessions⟩ := submitted
    obtain ⟨records, hRecords, rfl, hEmits⟩ := submission_eq_ok hSubmission
    simp only [hRecords]
    refine ⟨fun cik accession => ?_, fun earlier polled later hSplit accession => ?_, ?_⟩
    · have hSeen := h.seen cik accession
      simp only [List.mem_append, List.mem_singleton, or_and_right, exists_or, exists_eq_left] at *
      rw [getSecSeenAccessions_mark]
      split_ifs with hCik
      · rw [mem_marked, ← hCik, hSeen]
        simp [Polled.Lists]
      · rw [hSeen]
        simp [Ne.symm hCik]
    · rcases List.append_eq_append_iff.mp hSplit with
        ⟨between, hHistory, hRest⟩ | ⟨between, hEarlier, hRest⟩
      · cases between with
        | nil =>
          obtain ⟨rfl, -⟩ := List.cons_eq_cons.mp hRest
          rw [List.append_nil] at hHistory
          rw [← hHistory]
          exact h.seen poll.cik accession
        | cons first between =>
          obtain ⟨rfl, -⟩ := List.cons_eq_cons.mp hRest
          exact h.before earlier polled between hHistory.symm accession
      · cases between with
        | nil =>
          obtain ⟨rfl, -⟩ := List.cons_eq_cons.mp hRest
          rw [List.append_nil] at hEarlier
          rw [hEarlier]
          exact h.seen poll.cik accession
        | cons first between => simp at hRest
    · intro polled hPolled
      rcases List.mem_append.mp hPolled with hPolled | hPolled
      · exact h.emits polled hPolled
      · obtain rfl := List.mem_singleton.mp hPolled
        exact hEmits

theorem pollAll_remembered (polls : List SecPoll) :
    Remembered poller (pollAll R reader poller polls) := by
  induction polls using List.reverseRec with
  | nil => exact ⟨fun cik accession => by simp [pollAll, getSecSeenAccessions],
      fun earlier polled later h => by simp [pollAll] at h, nofun⟩
  | append_singleton polls poll ih =>
    rw [pollAll, List.foldl_append]
    exact pollStep_remembered ih poll

/-- What a successful poll lists is what the response of one of the polls does. -/
theorem exists_filings_of_mem {polled : Polled R} (h : polled ∈ (pollAll R reader poller polls).1) :
    ∃ poll ∈ polls, poll.filings reader = .ok polled.records := by
  induction polls using List.reverseRec with
  | nil => cases h
  | append_singleton polls poll ih =>
    rw [pollAll, List.foldl_append] at h
    change polled ∈ (pollStep R reader poller (pollAll R reader poller polls) poll).1 at h
    have hOlder : polled ∈ (pollAll R reader poller polls).1 →
        ∃ other ∈ polls ++ [poll], other.filings reader = .ok polled.records := by
      intro hMem
      obtain ⟨other, hOther, hFilings⟩ := ih hMem
      exact ⟨other, List.mem_append_left _ hOther, hFilings⟩
    unfold pollStep at h
    split at h
    · rename_i records events seen hFilings _
      rcases List.mem_append.mp h with hMem | hMem
      · exact hOlder hMem
      · obtain rfl := List.mem_singleton.mp hMem
        exact ⟨poll, by simp, hFilings⟩
    · exact hOlder h

/-! ### What is missed -/

theorem Remembered.lists_of_emits {state : List (Polled R) × SecSeen} (h : Remembered poller state)
    {polled : Polled R} (hMem : polled ∈ state.1) (hEmits : polled.emits accession ≠ 0) :
    polled.Lists accession ∧ (polled.seen ≠ ∅ → accession ∉ polled.seen) := by
  rw [h.emits polled hMem, ← Nat.pos_iff_ne_zero, List.count_pos_iff] at hEmits
  obtain ⟨record, hRecord, rfl⟩ := List.mem_map.mp hEmits
  obtain ⟨hListed, hSelected⟩ := mem_selectRecords.mp hRecord
  refine ⟨List.mem_map.mpr ⟨record, hListed, rfl⟩, fun hSeen => ?_⟩
  rwa [if_neg hSeen] at hSelected

/-- A poll submits a filing once if and only if it selects it, where the filing is listed once. -/
theorem Remembered.emits_eq_one_iff {state : List (Polled R) × SecSeen}
    (h : Remembered poller state) {polled : Polled R} (hMem : polled ∈ state.1)
    (hOnce : (polled.records.map (·.accessionNumber)).Nodup) {record : SecFilingRecord}
    (hRecord : record ∈ polled.records) : polled.emits record.accessionNumber = 1 ↔
      record ∈ (selectRecords poller polled.receivedAt polled.seen polled.records).1 := by
  have hSublist : (selectRecords poller polled.receivedAt polled.seen polled.records).1.Sublist
      polled.records := by
    unfold selectRecords
    split_ifs <;> exact List.filter_sublist
  rw [h.emits polled hMem]
  constructor
  · intro hCount
    have hSelected : record.accessionNumber ∈ (selectRecords poller polled.receivedAt polled.seen
        polled.records).1.map (·.accessionNumber) := List.count_pos_iff.mp (by omega)
    obtain ⟨other, hOther, hSame⟩ := List.mem_map.mp hSelected
    rwa [List.inj_on_of_nodup_map hOnce (hSublist.subset hOther) hRecord hSame] at hOther
  · intro hSelected
    exact List.count_eq_one_of_mem (hOnce.sublist (hSublist.map _)) (List.mem_map_of_mem hSelected)

/-- No filing is missed if and only if no later poll of a company takes itself for the first and
lists what is older than the lookback. -/
theorem noneMissed_iff (R : Derivations) (reader : SubmissionsReader)
    (poller : SecSubmissionsPoller) (polls : List SecPoll)
    (hOnce : ∀ poll ∈ polls, ∀ records, poll.filings reader = .ok records →
      (records.map (·.accessionNumber)).Nodup) :
    NoneMissed (pollAll R reader poller polls).1 ↔
      NoLateBootstrap poller (pollAll R reader poller polls).1 := by
  have hRun : Remembered poller (pollAll R reader poller polls) := pollAll_remembered polls
  have hNodup : ∀ polled ∈ (pollAll R reader poller polls).1,
      (polled.records.map (·.accessionNumber)).Nodup := by
    intro polled hPolled
    obtain ⟨poll, hPoll, hFilings⟩ := exists_filings_of_mem hPolled
    exact hOnce poll hPoll _ hFilings
  generalize pollAll R reader poller polls = state at hRun hNodup
  constructor
  · intro h earlier polled later hSplit hLater hEmpty record hRecord
    have hMem : polled ∈ state.1 := by simp [← hSplit]
    have hNone : ∀ other ∈ earlier, other.cik = polled.cik →
        ¬ other.Lists record.accessionNumber := by
      intro other hOther hCik hLists
      have hSeen := (hRun.before earlier polled later hSplit record.accessionNumber).mpr
        ⟨other, hOther, hCik, hLists⟩
      simp [hEmpty] at hSeen
    have hEmitted := h.emitted earlier polled later hSplit hLater record.accessionNumber
      (List.mem_map_of_mem hRecord) hNone
    rw [hRun.emits_eq_one_iff hMem (hNodup polled hMem) hRecord, mem_selectRecords,
      if_pos hEmpty] at hEmitted
    exact hEmitted.2
  · intro h
    constructor
    case emitted =>
      intro earlier polled later hSplit hLater accession hLists hNew
      have hMem : polled ∈ state.1 := by simp [← hSplit]
      obtain ⟨record, hRecord, rfl⟩ := List.mem_map.mp hLists
      rw [hRun.emits_eq_one_iff hMem (hNodup polled hMem) hRecord, mem_selectRecords]
      refine ⟨hRecord, ?_⟩
      split_ifs with hEmpty
      · exact h earlier polled later hSplit hLater hEmpty record hRecord
      · intro hSeen
        obtain ⟨other, hOther, hCik, hListed⟩ :=
          (hRun.before earlier polled later hSplit record.accessionNumber).mp hSeen
        exact hNew other hOther hCik hListed
    case once =>
      intro earlier polled later hSplit other hOther hCik accession
      have hMem : polled ∈ state.1 := by simp [← hSplit]
      have hOtherMem : other ∈ state.1 := by
        rw [← hSplit]
        exact List.mem_append_left _ hOther
      by_contra hBoth
      push Not at hBoth
      have hListed := (hRun.lists_of_emits hOtherMem hBoth.1).1
      have hSeen := (hRun.before earlier polled later hSplit accession).mpr
        ⟨other, hOther, hCik, hListed⟩
      exact (hRun.lists_of_emits hMem hBoth.2).2 (Finset.ne_empty_of_mem hSeen) hSeen

/-! ### A filing that appears late -/

/-- A response of a company with the filings of its accessions. -/
def companyPayload (accessions times dates forms : List Decoded) : Entries :=
  [("name", .str "Example Corp"), ("tickers", .list [.str "EXMP"]),
    ("filings", .dict [("recent", .dict [("accessionNumber", .list accessions),
      ("acceptanceDateTime", .list times), ("filingDate", .list dates), ("form", .list forms)])])]

def emptyPayload : Entries := companyPayload [] [] [] []

def latePayload : Entries :=
  companyPayload [.str "0000000000-26-000001"] [.str "2026-08-03T14:30:00Z"] [.str "2026-08-03"]
    [.str "8-K"]

def lateFiling : SecFilingRecord where
  accessionNumber := "0000000000-26-000001"
  acceptanceTimestamp := 1785767400000000
  dump := [("accession_number", .str "0000000000-26-000001"), ("form", .str "8-K")]

/-- The two responses, four hours apart. -/
def latePolls : List SecPoll :=
  [⟨"0000000000", 1785760200000000, .ok emptyPayload⟩,
    ⟨"0000000000", 1785781800000000, .ok latePayload⟩]

/-- What the two responses are read as. -/
def sampleReader : SubmissionsReader where
  parseRecentFilings _ payload :=
    match field payload "filings" with
    | .dict [("recent", .dict (("accessionNumber", .list []) :: _))] => .ok []
    | .dict [("recent", .dict (("accessionNumber", .list [_]) :: _))] => .ok [lateFiling]
    | _ => .error (.valueError "SEC submissions response is missing filings object")
  normalizeSymbol _ := "EXMP"

/-- A lookback of one hour. -/
def samplePoller : SecSubmissionsPoller :=
  ⟨"11111111-1111-4111-8111-111111111111", "22222222-2222-4222-8222-222222222222", 3600000000⟩

theorem latePolls_once : ∀ poll ∈ latePolls, ∀ records, poll.filings sampleReader = .ok records →
    (records.map (·.accessionNumber)).Nodup := by
  simp only [latePolls, List.forall_mem_cons]
  refine ⟨?_, ?_, nofun⟩
  · intro records h
    obtain rfl := Except.ok.inj h
    exact List.nodup_nil
  · intro records h
    obtain rfl := Except.ok.inj h
    exact List.nodup_singleton _

/-- A poll that selects nothing submits its snapshot. -/
theorem exists_submission (R : Derivations) (poller : SecSubmissionsPoller) (poll : SecPoll)
    (seen : Finset String) {payload : Entries} {records : List SecFilingRecord}
    (hResponse : poll.response = .ok payload)
    (hRecords : reader.parseRecentFilings poll.cik payload = .ok records)
    (hNone : (selectRecords poller poll.receivedAt seen records).1 = [])
    (hFinite : Decoded.finite (.dict payload) = true)
    (hPrintable : printable (.dict payload) = true) (hCik : poll.cik.length ≤ 64)
    {symbols : List String} (hSymbols : payloadSymbols reader payload = .ok symbols)
    (hSymbol : ∀ s ∈ symbols, RawEventFields.IsSymbol s) :
    ∃ events, submission R reader poller poll seen =
      .ok (events, (selectRecords poller poll.receivedAt seen records).2) := by
  have hHash : R.sha256Hex (.dict payload) = .ok (R.sha256 (canonicalJsonText (.dict payload))) :=
    Derivations.sha256Hex_eq_ok.mpr ⟨hFinite, hPrintable, rfl⟩
  have hLength : (R.sha256 (canonicalJsonText (.dict payload))).length = 64 := by
    have hHex := R.sha256_hex (canonicalJsonText (.dict payload))
    simp only [Features.isHash, Bool.and_eq_true, beq_iff_eq] at hHex
    exact hHex.1
  obtain ⟨snapshot, hSnapshot⟩ : ∃ event, RawEvent.create R (snapshotRequest poller poll payload
      symbols (((records.map (·.acceptanceTimestamp)).max?).getD poll.receivedAt)
      (R.sha256 (canonicalJsonText (.dict payload)))) = .ok event := by
    refine RawEvent.exists_create R hFinite hPrintable ?_ hSymbol ?_ nofun
    · show 1 ≤ "submissions_snapshot".length ∧ "submissions_snapshot".length ≤ 64
      decide
    · intro text hText
      obtain rfl := Option.some.inj hText
      have hPrefix : "CIK".length = 3 := rfl
      have hColon : ":".length = 1 := rfl
      simp only [String.length_append, hLength, hPrefix, hColon]
      omega
  refine ⟨[snapshot], ?_⟩
  simp only [submission, hResponse, Fallible.ok_bind, hRecords, hSymbols, hHash, hSnapshot, hNone]
  rfl

theorem pollStep_eq (state : List (Polled R) × SecSeen) {accessions : List String}
    (hFilings : poll.filings reader = .ok records)
    (h : submission R reader poller poll (getSecSeenAccessions state.2 poll.cik) =
      .ok (events, accessions)) : pollStep R reader poller state poll =
    (state.1 ++ [⟨poll.cik, poll.receivedAt, getSecSeenAccessions state.2 poll.cik, records, events⟩],
      markSecAccessionsSeen state.2 poll.cik accessions) := by
  simp only [pollStep, pollCik, h, hFilings]

/-- Nothing has been seen when the second response lists the filing. -/
theorem latePolls_history (R : Derivations) : ∃ events events',
    (pollAll R sampleReader samplePoller latePolls).1 =
      [⟨"0000000000", 1785760200000000, ∅, [], events⟩,
        ⟨"0000000000", 1785781800000000, ∅, [lateFiling], events'⟩] := by
  have hSymbol : ∀ s ∈ ["EXMP"], RawEventFields.IsSymbol s := by decide
  have hCik : "0000000000".length ≤ 64 := by decide
  have hFirstRecords : sampleReader.parseRecentFilings "0000000000" emptyPayload = .ok [] := rfl
  have hSecondRecords :
      sampleReader.parseRecentFilings "0000000000" latePayload = .ok [lateFiling] := rfl
  obtain ⟨events, hFirst⟩ := exists_submission R samplePoller
    ⟨"0000000000", 1785760200000000, .ok emptyPayload⟩ ∅ rfl hFirstRecords rfl rfl rfl hCik rfl
    hSymbol
  obtain ⟨events', hSecond⟩ := exists_submission R samplePoller
    ⟨"0000000000", 1785781800000000, .ok latePayload⟩ ∅ rfl hSecondRecords rfl rfl rfl hCik rfl
    hSymbol
  refine ⟨events, events', ?_⟩
  have hEmpty : getSecSeenAccessions (markSecAccessionsSeen ∅ "0000000000" []) "0000000000" = ∅ := by
    rw [getSecSeenAccessions_mark]
    rfl
  simp only [pollAll, latePolls, List.foldl_cons, List.foldl_nil]
  rw [pollStep_eq ([], ∅) rfl hFirst, pollStep_eq _ rfl (hEmpty.symm ▸ hSecond)]
  simp only
  rfl

/-- The filing is in no response but the second, which submits only its snapshot. -/
theorem lateFiling_missed :
    (∀ poll ∈ latePolls, ∀ records, poll.filings sampleReader = .ok records →
      (records.map (·.accessionNumber)).Nodup) ∧
    ∀ R : Derivations, ¬ NoneMissed (pollAll R sampleReader samplePoller latePolls).1 := by
  refine ⟨latePolls_once, fun R h => ?_⟩
  obtain ⟨events, events', hHistory⟩ := latePolls_history R
  have hRun : Remembered samplePoller (pollAll R sampleReader samplePoller latePolls) :=
    pollAll_remembered latePolls
  have hEmits := hRun.emits ⟨"0000000000", 1785781800000000, ∅, [lateFiling], events'⟩
    (by simp [hHistory]) "0000000000-26-000001"
  have hOne := h.emitted [⟨"0000000000", 1785760200000000, ∅, [], events⟩] _ [] hHistory.symm
    ⟨_, List.mem_singleton_self _, rfl⟩ "0000000000-26-000001" (List.mem_singleton_self _)
    (by simp [Polled.Lists])
  rw [hEmits] at hOne
  change ((selectRecords samplePoller 1785781800000000 ∅ [lateFiling]).1.map
    (·.accessionNumber)).count "0000000000-26-000001" = 1 at hOne
  exact absurd hOne (by decide)

/-- What the id of a snapshot is derived from. -/
def snapshotIdentity (eventTimestamp payloadHash : String) : Decoded :=
  .dict [("ingest_session_id", .str "11111111-1111-4111-8111-111111111111"),
    ("source", .str "sec_edgar"), ("channel", .str "submissions_snapshot"),
    ("event_type", .str "sec_submissions_snapshot"), ("symbols", .list [.str "EXMP"]),
    ("provider_event_id", .str ("CIK0000000000:" ++ payloadHash)),
    ("event_timestamp", .str eventTimestamp), ("payload_sha256", .str payloadHash)]

/-- SHA-256, version-5 UUIDs and dates as they are for the two snapshots. -/
def sampleDerivations : Derivations where
  sha256 text :=
    if text = canonicalJsonText (.dict emptyPayload) then
      "3f15b3b48b457b66fd55b19b9b51f1320c4d9e30eb8231ffbfdc600bfa57f9a7"
    else if text = canonicalJsonText (.dict latePayload) then
      "e5c51603946bb9f139f5e38c69cd8ba029a945ee7905c8c8e32d2e196588ad34"
    else if text = canonicalJsonText (snapshotIdentity "2026-08-03T12:30:00.000000Z"
        "3f15b3b48b457b66fd55b19b9b51f1320c4d9e30eb8231ffbfdc600bfa57f9a7") then
      "5c3c6d6a0f3d9fc48a401ae949ca32b2f0088ee5c17f2f78f5f6637c48bd1807"
    else "0e851343aae759ed22ca123476b7a298360d2450fbf60844762af8e02b79bc54"
  uuid5 name :=
    if name = "5c3c6d6a0f3d9fc48a401ae949ca32b2f0088ee5c17f2f78f5f6637c48bd1807" then
      "4d7a0013-fd1a-5ea7-a092-c46d9d060491"
    else "6e9adc25-458e-52ec-85fe-b3c936d8c8db"
  newYorkDate _ := ⟨2026, 8, 3⟩
  sha256_hex text := by
    split_ifs <;> decide +kernel

theorem latePolls_noneMissed_iff :
    NoneMissed (pollAll sampleDerivations sampleReader samplePoller latePolls).1 ↔
      NoLateBootstrap samplePoller
        (pollAll sampleDerivations sampleReader samplePoller latePolls).1 :=
  noneMissed_iff _ _ _ _ latePolls_once

end Daybreak.Recorder
