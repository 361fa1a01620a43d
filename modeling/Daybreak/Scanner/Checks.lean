import Daybreak.Scanner.Discovery
import Daybreak.Scanner.Outcomes

/-! The files of the scanner over whole runs. A scan writes the signals of a day once, unless it
is told to replace them, and a check resolves those that are pending and writes the scorecard of
all days. What is resolved stays as long as its signal does, the scorecard counts every outcome
once, and on a market that answers alike each outcome is that of the whole session, whenever the
checks were made. -/

namespace Daybreak.Scanner

open Contracts Daybreak.Order Effect Effect.Fallible Features Numeric

/-! ### Commands -/

theorem default_candidates : 1 ≤ 20 ∧ 20 ≤ 25 := by decide

/-- `ScannerPolicy()` -/
def defaultPolicy : ScannerPolicy where
  lookback_pos := lookback_valid
  candidates_bounds := default_candidates

/-- What the market data, the clock and the forecast answer a scan. -/
structure ScanInputs where
  gainers : List MarketMover
  volumes : Volumes
  bars : Dict String (List (DailyBar Decimal))
  generatedAt : Timestamp
  trend : String → Option Decimal

def ScanInputs.result (inputs : ScanInputs) (tradingDate : Day) : Result ScanResult :=
  scan defaultPolicy inputs.gainers inputs.volumes inputs.bars tradingDate inputs.generatedAt
    inputs.trend

/-- The answer of `get_minute_bars`: a `ScannerError` is skipped, another error is not. -/
inductive Fetched where
  | bars (bars : List MinuteBar)
  | unavailable
  | raises (e : PyError)

/-- The files `signals-<date>.json` and `outcomes-<date>.json`, and `scorecard.json`. -/
structure Files where
  signals : Dict Day (List Signal)
  outcomes : Dict Day (List OutcomeRecord)
  scorecard : Option Scorecard

def Files.empty : Files := ⟨∅, ∅, none⟩

/-- The outcomes of all files, in the order of their names. -/
def allOutcomes (outcomes : Dict Day (List OutcomeRecord)) : List SignalOutcome :=
  (sortedBy (·.1) outcomes.entries).flatMap fun file => file.2.map (·.toSignalOutcome)

/-- `_run_scan`, from the answers on. -/
def runScan (tradingDate : Day) (inputs : ScanInputs) (replace : Bool) (files : Files) :
    Result Files := do
  if tradingDate ∈ files.signals ∧ replace = false then return files
  let result ← inputs.result tradingDate
  return { files with signals := files.signals.insert tradingDate result.signals }

/-- A round of the loop of `_run_check_outcomes`; `number` tells signals of one ticker apart. -/
def checkSignal (sessionClose now : Timestamp) (fetch : Signal → ℕ → Fetched)
    (resolved : List OutcomeRecord) (pending : Signal × ℕ) : Result (List OutcomeRecord) :=
  let (signal, number) := pending
  if signal.ticker ∈ resolved.map (·.ticker) then .ok resolved else
    match fetch signal number with
    | .unavailable => .ok resolved
    | .raises e => .error e
    | .bars bars => do
      match ← resolveOutcome signal bars with
      | some record => return resolved ++ [record]
      | none =>
        if now < sessionClose then return resolved
        let closePrice := (bars.getLast?.map (·.close)).getD signal.entryPrice
        let record ← expireAtClose signal closePrice sessionClose
        return resolved ++ [record]

/-- `_run_check_outcomes`. The tickers of a file differ, so that the outcomes that are kept are
those of the file as they stand. -/
def runCheckOutcomes (sessionClose : Day → Timestamp) (tradingDate : Day) (now : Timestamp)
    (fetch : Signal → ℕ → Fetched) (files : Files) : Result Files :=
  match files.signals.lookup tradingDate with
  | none => .ok files
  | some signals => do
    let kept := ((files.outcomes.lookup tradingDate).getD []).filter
      (·.ticker ∈ signals.map (·.ticker))
    let resolved ← signals.zipIdx.foldlM (checkSignal (sessionClose tradingDate) now fetch) kept
    let outcomes := files.outcomes.insert tradingDate resolved
    let card ← buildScorecard (allOutcomes outcomes)
    return { files with outcomes, scorecard := some card }

inductive Command where
  | scan (tradingDate : Day) (inputs : ScanInputs) (replace : Bool)
  | checkOutcomes (tradingDate : Day) (now : Timestamp) (fetch : Signal → ℕ → Fetched)

def Command.run (sessionClose : Day → Timestamp) : Command → Files → Result Files
  | .scan tradingDate inputs replace => runScan tradingDate inputs replace
  | .checkOutcomes tradingDate now fetch => runCheckOutcomes sessionClose tradingDate now fetch

/-- The files after a command; one that raises has written nothing. -/
def Files.after (sessionClose : Day → Timestamp) (files : Files) (command : Command) : Files :=
  match command.run sessionClose files with
  | .ok files' => files'
  | .error _ => files

def runCommands (sessionClose : Day → Timestamp) (commands : List Command) : Files :=
  commands.foldl (Files.after sessionClose) .empty

/-! ### One check -/

variable {sessionClose : Day → Timestamp} {closedAt now : Timestamp}
  {fetch : Signal → ℕ → Fetched} {signal : Signal} {signals : List Signal} {number : ℕ}
  {records resolved : List OutcomeRecord} {files files' : Files} {tradingDate : Day}

/-- The record that a check adds for a signal. -/
def Adds (closedAt now : Timestamp) (fetch : Signal → ℕ → Fetched) (pending : Signal × ℕ)
    (record : OutcomeRecord) : Prop :=
  ∃ bars, fetch pending.1 pending.2 = .bars bars ∧
    (resolveOutcome pending.1 bars = .ok (some record) ∨
      (resolveOutcome pending.1 bars = .ok none ∧ closedAt ≤ now ∧
        expireAtClose pending.1 ((bars.getLast?.map (·.close)).getD pending.1.entryPrice) closedAt =
          .ok record))

/-- The record is that of the bars, as if they were those of the session. -/
theorem Adds.ended {pending : Signal × ℕ} {record : OutcomeRecord}
    (h : Adds closedAt now fetch pending record) :
    ∃ bars, Ended pending.1 bars closedAt record := by
  obtain ⟨bars, -, hResolved | ⟨hNone, -, hExpired⟩⟩ := h
  · exact ⟨bars, ended_of_sessionOutcome (sessionOutcome_of_resolved hResolved)⟩
  · exact ⟨bars, ended_of_sessionOutcome (sessionOutcome_of_expired hNone hExpired)⟩

theorem Adds.ticker {pending : Signal × ℕ} {record : OutcomeRecord}
    (h : Adds closedAt now fetch pending record) : record.ticker = pending.1.ticker := by
  obtain ⟨_, hEnded⟩ := h.ended
  exact hEnded.ticker

/-- A round keeps what is resolved, or adds the record of its signal, which was pending. -/
theorem checkSignal_eq_ok {pending : Signal × ℕ}
    (h : checkSignal closedAt now fetch records pending = .ok resolved) :
    (resolved = records ∧ (pending.1.ticker ∈ records.map (·.ticker) ∨
        fetch pending.1 pending.2 = .unavailable ∨ now < closedAt)) ∨
      (pending.1.ticker ∉ records.map (·.ticker) ∧
        ∃ record, Adds closedAt now fetch pending record ∧ resolved = records ++ [record]) := by
  obtain ⟨signal, number⟩ := pending
  by_cases hKnown : signal.ticker ∈ records.map (·.ticker)
  · rw [checkSignal, if_pos hKnown] at h
    exact .inl ⟨(Except.ok.inj h).symm, .inl hKnown⟩
  rw [checkSignal, if_neg hKnown] at h
  cases hFetch : fetch signal number with
  | unavailable =>
    rw [hFetch] at h
    exact .inl ⟨(Except.ok.inj h).symm, .inr (.inl rfl)⟩
  | raises e =>
    rw [hFetch] at h
    cases h
  | bars bars =>
    rw [hFetch] at h
    obtain ⟨answer, hAnswer, h⟩ := bind_eq_ok.mp h
    cases answer with
    | some record =>
      obtain rfl := Except.ok.inj h
      exact .inr ⟨hKnown, record, ⟨bars, hFetch, .inl hAnswer⟩, rfl⟩
    | none =>
      by_cases hOpen : now < closedAt
      · simp only [hOpen, if_true] at h
        exact .inl ⟨(Except.ok.inj h).symm, .inr (.inr hOpen)⟩
      · simp only [hOpen, if_false] at h
        obtain ⟨record, hRecord, h⟩ := bind_eq_ok.mp h
        obtain rfl := Except.ok.inj h
        exact .inr ⟨hKnown, record, ⟨bars, hFetch, .inr ⟨hAnswer, not_lt.mp hOpen, hRecord⟩⟩, rfl⟩

/-- What a check makes of the records that it keeps, after the signals seen so far. -/
structure Checked (closedAt now : Timestamp) (fetch : Signal → ℕ → Fetched)
    (kept : List OutcomeRecord) (seen : List (Signal × ℕ)) (records : List OutcomeRecord) :
    Prop where
  keeps : ∀ record ∈ kept, record ∈ records
  adds : ∀ record ∈ records,
    record ∈ kept ∨ ∃ pending ∈ seen, Adds closedAt now fetch pending record
  distinct : (kept.map (·.ticker)).Nodup → (records.map (·.ticker)).Nodup
  complete : closedAt ≤ now → (∀ pending ∈ seen, fetch pending.1 pending.2 ≠ .unavailable) →
    ∀ pending ∈ seen, pending.1.ticker ∈ records.map (·.ticker)

theorem Checked.step {kept : List OutcomeRecord} {seen : List (Signal × ℕ)}
    {pending : Signal × ℕ} (h : Checked closedAt now fetch kept seen records)
    (hRound : checkSignal closedAt now fetch records pending = .ok resolved) :
    Checked closedAt now fetch kept (seen ++ [pending]) resolved := by
  have hSeen : ∀ {record}, (∃ pending ∈ seen, Adds closedAt now fetch pending record) →
      ∃ pending' ∈ seen ++ [pending], Adds closedAt now fetch pending' record :=
    fun ⟨earlier, hEarlier, hAdds⟩ => ⟨earlier, List.mem_append_left _ hEarlier, hAdds⟩
  obtain ⟨rfl, hWhy⟩ | ⟨hNew, record, hAdds, rfl⟩ := checkSignal_eq_ok hRound
  · refine ⟨h.keeps, fun record hRecord => (h.adds record hRecord).imp_right hSeen, h.distinct,
      fun hClosed hAnswered => ?_⟩
    rw [List.forall_mem_append, List.forall_mem_singleton] at hAnswered ⊢
    refine ⟨h.complete hClosed hAnswered.1, ?_⟩
    obtain hKnown | hUnavailable | hOpen := hWhy
    · exact hKnown
    · exact absurd hUnavailable hAnswered.2
    · exact absurd hOpen (not_lt.mpr hClosed)
  · have hTicker := hAdds.ticker
    refine ⟨fun earlier hEarlier => List.mem_append_left _ (h.keeps earlier hEarlier), ?_,
      fun hKept => ?_, fun hClosed hAnswered => ?_⟩
    · rw [List.forall_mem_append, List.forall_mem_singleton]
      refine ⟨fun earlier hEarlier => (h.adds earlier hEarlier).imp_right hSeen, .inr ?_⟩
      exact ⟨pending, List.mem_append_right _ List.mem_cons_self, hAdds⟩
    · rw [List.map_append, List.map_singleton, hTicker, List.nodup_append]
      refine ⟨h.distinct hKept, List.nodup_singleton _, fun ticker hOld other hOther => ?_⟩
      rintro rfl
      rw [List.mem_singleton] at hOther
      exact hNew (hOther ▸ hOld)
    · rw [List.map_append, List.map_singleton, hTicker]
      rw [List.forall_mem_append, List.forall_mem_singleton] at hAnswered ⊢
      refine ⟨fun earlier hEarlier => ?_, List.mem_append_right _ List.mem_cons_self⟩
      exact List.mem_append_left _ (h.complete hClosed hAnswered.1 earlier hEarlier)

theorem checked_of_foldlM {kept : List OutcomeRecord} {pending : List (Signal × ℕ)}
    (h : pending.foldlM (checkSignal closedAt now fetch) kept = .ok resolved) :
    Checked closedAt now fetch kept pending resolved := by
  refine foldlM_prefix (Checked closedAt now fetch kept) h ?_ ?_
  · exact ⟨fun _ hRecord => hRecord, fun _ hRecord => .inl hRecord, fun hKept => hKept,
      fun _ _ _ hPending => absurd hPending List.not_mem_nil⟩
  · intro _ _ _ _ _ _ _ hInv hRound
    exact hInv.step hRound

/-! ### Runs -/

/-- The signal is in the file of the day after some of the commands. -/
def Written (sessionClose : Day → Timestamp) (commands : List Command) (tradingDate : Day)
    (signal : Signal) : Prop :=
  ∃ earlier signals, earlier <+: commands ∧
    (runCommands sessionClose earlier).signals.lookup tradingDate = some signals ∧
    signal ∈ signals

/-- The record is one that a check of the day added, for a signal of its file. -/
def Recorded (sessionClose : Day → Timestamp) (commands : List Command) (tradingDate : Day)
    (record : OutcomeRecord) : Prop :=
  ∃ signal number now fetch, Written sessionClose commands tradingDate signal ∧
    .checkOutcomes tradingDate now fetch ∈ commands ∧
    Adds (sessionClose tradingDate) now fetch (signal, number) record

theorem Recorded.append {commands : List Command} {record : OutcomeRecord} (later : List Command)
    (h : Recorded sessionClose commands tradingDate record) :
    Recorded sessionClose (commands ++ later) tradingDate record := by
  obtain ⟨signal, number, now, fetch, ⟨earlier, signals, hPrefix, hWritten⟩, hMem, hAdds⟩ := h
  refine ⟨signal, number, now, fetch, ⟨earlier, signals, ?_, hWritten⟩,
    List.mem_append_left _ hMem, hAdds⟩
  exact hPrefix.trans (List.prefix_append commands later)

/-- What holds of the files after the commands. -/
structure Consistent (sessionClose : Day → Timestamp) (commands : List Command) (files : Files) :
    Prop where
  recorded : ∀ tradingDate records, files.outcomes.lookup tradingDate = some records →
    ∀ record ∈ records, Recorded sessionClose commands tradingDate record
  distinct : ∀ tradingDate records, files.outcomes.lookup tradingDate = some records →
    (records.map (·.ticker)).Nodup
  scorecard : (files.scorecard = none ∧ files.outcomes = ∅) ∨
    ∃ card, files.scorecard = some card ∧ buildScorecard (allOutcomes files.outcomes) = .ok card

theorem Consistent.append {commands : List Command} (later : List Command)
    (h : Consistent sessionClose commands files) :
    Consistent sessionClose (commands ++ later) files where
  recorded day records hRecords record hRecord :=
    (h.recorded day records hRecords record hRecord).append later
  distinct := h.distinct
  scorecard := h.scorecard

/-- The records of a day that a check goes on from. -/
def keptRecords (files : Files) (tradingDate : Day) (signals : List Signal) :
    List OutcomeRecord :=
  ((files.outcomes.lookup tradingDate).getD []).filter (·.ticker ∈ signals.map (·.ticker))

theorem runScan_eq_ok {inputs : ScanInputs} {replace : Bool}
    (h : runScan tradingDate inputs replace files = .ok files') :
    files' = files ∨ ((files.signals.lookup tradingDate = none ∨ replace = true) ∧
      ∃ result, inputs.result tradingDate = .ok result ∧
        files' = { files with signals := files.signals.insert tradingDate result.signals }) := by
  by_cases hRefused : tradingDate ∈ files.signals ∧ replace = false
  · rw [runScan, if_pos hRefused] at h
    exact .inl (Except.ok.inj h).symm
  · rw [runScan, if_neg hRefused] at h
    obtain ⟨result, hResult, h⟩ := bind_eq_ok.mp h
    refine .inr ⟨?_, result, hResult, (Except.ok.inj h).symm⟩
    rw [AList.lookup_eq_none]
    cases replace with
    | true => exact .inr rfl
    | false => exact .inl fun hMem => hRefused ⟨hMem, rfl⟩

theorem runCheckOutcomes_eq_ok
    (h : runCheckOutcomes sessionClose tradingDate now fetch files = .ok files') :
    (files.signals.lookup tradingDate = none ∧ files' = files) ∨
      ∃ signals resolved card, files.signals.lookup tradingDate = some signals ∧
        Checked (sessionClose tradingDate) now fetch (keptRecords files tradingDate signals)
          signals.zipIdx resolved ∧
        buildScorecard (allOutcomes (files.outcomes.insert tradingDate resolved)) = .ok card ∧
        files' = { files with
          outcomes := files.outcomes.insert tradingDate resolved, scorecard := some card } := by
  cases hSignals : files.signals.lookup tradingDate with
  | none =>
    rw [runCheckOutcomes, hSignals] at h
    exact .inl ⟨rfl, (Except.ok.inj h).symm⟩
  | some signals =>
    rw [runCheckOutcomes, hSignals] at h
    obtain ⟨resolved, hResolved, h⟩ := bind_eq_ok.mp h
    obtain ⟨card, hCard, h⟩ := bind_eq_ok.mp h
    exact .inr ⟨signals, resolved, card, rfl, checked_of_foldlM hResolved, hCard,
      (Except.ok.inj h).symm⟩

theorem Consistent.scan {commands : List Command} {inputs : ScanInputs} {replace : Bool}
    (h : Consistent sessionClose commands files)
    (hRun : runScan tradingDate inputs replace files = .ok files') :
    Consistent sessionClose (commands ++ [.scan tradingDate inputs replace]) files' := by
  obtain rfl | ⟨-, result, -, rfl⟩ := runScan_eq_ok hRun
  · exact h.append _
  · exact ⟨(h.append _).recorded, h.distinct, h.scorecard⟩

theorem mem_keptRecords {record : OutcomeRecord} :
    record ∈ keptRecords files tradingDate signals ↔
      (∃ records, files.outcomes.lookup tradingDate = some records ∧ record ∈ records) ∧
        record.ticker ∈ signals.map (·.ticker) := by
  rw [keptRecords, List.mem_filter, decide_eq_true_eq]
  cases files.outcomes.lookup tradingDate with
  | none => simp
  | some records => simp

theorem Consistent.distinct_keptRecords {commands : List Command}
    (h : Consistent sessionClose commands files) (tradingDate : Day) (signals : List Signal) :
    ((keptRecords files tradingDate signals).map (·.ticker)).Nodup := by
  rw [keptRecords]
  cases hRecords : files.outcomes.lookup tradingDate with
  | none => exact List.nodup_nil
  | some records =>
    exact (h.distinct tradingDate records hRecords).sublist (List.filter_sublist.map _)

theorem Consistent.checkOutcomes {commands : List Command}
    (h : Consistent sessionClose commands (runCommands sessionClose commands))
    (hRun : runCheckOutcomes sessionClose tradingDate now fetch
      (runCommands sessionClose commands) = .ok files') :
    Consistent sessionClose (commands ++ [.checkOutcomes tradingDate now fetch]) files' := by
  obtain ⟨-, rfl⟩ | ⟨signals, resolved, card, hSignals, hChecked, hCard, rfl⟩ :=
    runCheckOutcomes_eq_ok hRun
  · exact h.append _
  refine ⟨fun day records hRecords record hRecord => ?_, fun day records hRecords => ?_,
    .inr ⟨card, rfl, hCard⟩⟩
  · rw [Dict.lookup_insert_eq] at hRecords
    split_ifs at hRecords with hDay
    · obtain rfl := Option.some.inj hRecords
      subst hDay
      obtain hOld | ⟨⟨signal, number⟩, hPending, hAdds⟩ := hChecked.adds record hRecord
      · obtain ⟨⟨records, hRecords, hMem⟩, -⟩ := mem_keptRecords.mp hOld
        exact (h.recorded day records hRecords record hMem).append _
      · refine ⟨signal, number, now, fetch,
          ⟨commands, signals, List.prefix_append .., hSignals, ?_⟩,
          List.mem_append_right _ List.mem_cons_self, hAdds⟩
        exact List.fst_mem_of_mem_zipIdx hPending
    · exact (h.recorded day records hRecords record hRecord).append _
  · rw [Dict.lookup_insert_eq] at hRecords
    split_ifs at hRecords with hDay
    · obtain rfl := Option.some.inj hRecords
      exact hChecked.distinct (h.distinct_keptRecords tradingDate signals)
    · exact h.distinct day records hRecords

theorem runCommands_append_singleton (sessionClose : Day → Timestamp) (commands : List Command)
    (command : Command) : runCommands sessionClose (commands ++ [command]) =
      (runCommands sessionClose commands).after sessionClose command := by
  rw [runCommands, List.foldl_append]
  rfl

theorem consistent_runCommands (sessionClose : Day → Timestamp) (commands : List Command) :
    Consistent sessionClose commands (runCommands sessionClose commands) := by
  induction commands using List.reverseRecOn with
  | nil =>
    exact ⟨fun _ _ hRecords => absurd hRecords (Option.not_mem_none _),
      fun _ _ hRecords => absurd hRecords (Option.not_mem_none _), .inl ⟨rfl, rfl⟩⟩
  | append_singleton commands command ih =>
    rw [runCommands_append_singleton, Files.after]
    cases hRun : command.run sessionClose (runCommands sessionClose commands) with
    | error e => exact ih.append _
    | ok files =>
      cases command with
      | scan tradingDate inputs replace => exact ih.scan hRun
      | checkOutcomes tradingDate now fetch => exact ih.checkOutcomes hRun

/-! ### Sessions -/

/-- The bars of a market from a signal on to the close. -/
def sessionBars (market : String → List MinuteBar) (closedAt : Timestamp) (signal : Signal) :
    List MinuteBar :=
  (market signal.ticker).filter fun bar =>
    signal.generatedAt ≤ bar.timestamp ∧ bar.timestamp ≤ closedAt

/-- What a check is answered are the bars of a market, between the two moments it asks for. -/
def Command.AnsweredBy (market : String → List MinuteBar) (sessionClose : Day → Timestamp) :
    Command → Prop
  | .scan _ _ _ => True
  | .checkOutcomes tradingDate now fetch => ∀ signal number bars,
      fetch signal number = .bars bars →
        bars = sessionBars market (min now (sessionClose tradingDate)) signal

variable {market : String → List MinuteBar}

theorem sessionBars_min (market : String → List MinuteBar) (now closedAt : Timestamp)
    (signal : Signal) : sessionBars market (min now closedAt) signal =
      (sessionBars market closedAt signal).filter (·.timestamp ≤ now) := by
  rw [sessionBars, sessionBars, List.filter_filter]
  congr 1
  funext bar
  rw [← Bool.decide_and, decide_eq_decide, le_min_iff]
  tauto

/-- Whenever a check adds a record, it is that of the whole session. -/
theorem Adds.sessionOutcome {record : OutcomeRecord}
    (hAnswered : (Command.checkOutcomes tradingDate now fetch).AnsweredBy market sessionClose)
    (h : Adds (sessionClose tradingDate) now fetch (signal, number) record) :
    sessionOutcome signal (sessionBars market (sessionClose tradingDate) signal)
      (sessionClose tradingDate) = .ok record := by
  obtain ⟨bars, hFetch, hAdded⟩ := h
  obtain rfl := hAnswered signal number bars hFetch
  obtain hResolved | ⟨hNone, hClosed, hExpired⟩ := hAdded
  · rw [sessionBars_min] at hResolved
    exact sessionOutcome_of_resolved (resolveOutcome_of_filter hResolved)
  · rw [min_eq_right hClosed] at hNone hExpired
    exact sessionOutcome_of_expired hNone hExpired

theorem isPrice_sample : IsPrice (Decimal.ofInt 10).toRat ∧ IsPrice (Decimal.ofInt 11).toRat ∧
    IsPrice (Decimal.ofInt 12).toRat := by
  decide +kernel

theorem sampleLow_pos : 0 < DecimalArithmetic.value (Decimal.ofInt 10) := by
  decide +kernel

theorem sampleHigh_pos : 0 < DecimalArithmetic.value (Decimal.ofInt 11) := by
  decide +kernel

theorem sampleLow_le_sampleHigh :
    DecimalArithmetic.value (Decimal.ofInt 10) ≤ DecimalArithmetic.value (Decimal.ofInt 11) := by
  decide +kernel

/-- A day between 10 and 11. -/
def sampleBar (sessionDate : Day) : DailyBar Decimal where
  sessionDate
  openPrice := ⟨.ofInt 10, sampleLow_pos⟩
  high := ⟨.ofInt 11, sampleHigh_pos⟩
  low := ⟨.ofInt 10, sampleLow_pos⟩
  close := ⟨.ofInt 10, sampleLow_pos⟩
  volume := 1000
  high_max := ⟨sampleLow_le_sampleHigh, sampleLow_le_sampleHigh, sampleLow_le_sampleHigh⟩
  low_min := ⟨le_rfl, le_rfl⟩

def sampleInputs : ScanInputs where
  gainers := [⟨"GAP", .ofInt 50, .ofInt 3, ⟨.ofInt 10, isPrice_sample.1⟩, by decide +kernel⟩]
  volumes := (∅ : Volumes).insert "GAP" 600000
  bars := (∅ : Dict String (List (DailyBar Decimal))).insert "GAP"
    ((List.range 15).map fun n => sampleBar n)
  generatedAt := 0
  trend := fun _ => none

/-- A minute that reaches the first target. -/
def sampleMinute : MinuteBar where
  timestamp := 5
  openPrice := ⟨.ofInt 10, isPrice_sample.1⟩
  high := ⟨.ofInt 12, isPrice_sample.2.2⟩
  low := ⟨.ofInt 10, isPrice_sample.1⟩
  close := ⟨.ofInt 11, isPrice_sample.2.1⟩
  volume := 100

def sampleMarket (ticker : String) : List MinuteBar := if ticker = "GAP" then [sampleMinute] else []

/-- A scan, a check before that minute and one after it. -/
def sampleCommands : List Command :=
  [.scan 20 sampleInputs false,
    .checkOutcomes 20 4 fun signal _ => .bars (sessionBars sampleMarket (min 4 100) signal),
    .checkOutcomes 20 50 fun signal _ => .bars (sessionBars sampleMarket (min 50 100) signal)]

/-- However often and whenever the outcomes were checked, each that is on file is that of a signal
of the day over its whole session: at the first bar that touched a level, or at the last price. -/
theorem outcomes_tell_sessions {commands : List Command} {record : OutcomeRecord}
    (hAnswered : ∀ command ∈ commands, command.AnsweredBy market sessionClose)
    (hRecords : (runCommands sessionClose commands).outcomes.lookup tradingDate = some records)
    (hRecord : record ∈ records) :
    ∃ signal, Written sessionClose commands tradingDate signal ∧
      sessionOutcome signal (sessionBars market (sessionClose tradingDate) signal)
        (sessionClose tradingDate) = .ok record ∧
      Ended signal (sessionBars market (sessionClose tradingDate) signal)
        (sessionClose tradingDate) record := by
  obtain ⟨signal, number, now, fetch, hWritten, hMem, hAdds⟩ :=
    (consistent_runCommands sessionClose commands).recorded tradingDate records hRecords record
      hRecord
  have hOutcome := hAdds.sessionOutcome (hAnswered _ hMem)
  exact ⟨signal, hWritten, hOutcome, ended_of_sessionOutcome hOutcome⟩

theorem sampleCommands_answered :
    ∀ command ∈ sampleCommands, command.AnsweredBy sampleMarket fun _ => 100 := by
  simp only [sampleCommands, List.forall_mem_cons, Command.AnsweredBy, Fetched.bars.injEq]
  exact ⟨trivial, fun _ _ _ hBars => hBars.symm, fun _ _ _ hBars => hBars.symm,
    fun _ hCommand => absurd hCommand List.not_mem_nil⟩

theorem sampleCommands_files : ∃ signals records record,
    (runCommands (fun _ => 100) sampleCommands).signals.lookup 20 = some signals ∧
      record.ticker ∈ signals.map (·.ticker) ∧
      (runCommands (fun _ => 100) sampleCommands).outcomes.lookup 20 = some records ∧
      record ∈ records := by
  have hFiles :
      ((runCommands (fun _ => 100) sampleCommands).signals.lookup 20).map (·.map (·.ticker)) =
        some ["GAP"] ∧
      ((runCommands (fun _ => 100) sampleCommands).outcomes.lookup 20).map (·.map (·.ticker)) =
        some ["GAP"] := by decide +kernel
  obtain ⟨signals, hSignals, hSignalled⟩ := Option.map_eq_some_iff.mp hFiles.1
  obtain ⟨records, hRecords, hTickers⟩ := Option.map_eq_some_iff.mp hFiles.2
  have hMem : "GAP" ∈ records.map (·.ticker) := hTickers ▸ List.mem_cons_self
  obtain ⟨record, hRecord, hTicker⟩ := List.mem_map.mp hMem
  refine ⟨signals, records, record, hSignals, ?_, hRecords, hRecord⟩
  rw [hSignalled, hTicker]
  exact List.mem_cons_self

theorem outcomes_tell_sessions_sample : ∃ record signal,
    Written (fun _ => 100) sampleCommands 20 signal ∧
      sessionOutcome signal (sessionBars sampleMarket 100 signal) 100 = .ok record ∧
      Ended signal (sessionBars sampleMarket 100 signal) 100 record := by
  obtain ⟨_, _, record, -, -, hRecords, hRecord⟩ := sampleCommands_files
  obtain ⟨signal, hTold⟩ := outcomes_tell_sessions sampleCommands_answered hRecords hRecord
  exact ⟨record, signal, hTold⟩

/-! ### What stays -/

theorem lookup_signals_after {signals : List Signal} {command : Command}
    (hSignals : files.signals.lookup tradingDate = some signals)
    (hReplace : ∀ inputs, command ≠ .scan tradingDate inputs true) :
    (files.after sessionClose command).signals.lookup tradingDate = some signals := by
  rw [Files.after]
  cases hRun : command.run sessionClose files with
  | error e => exact hSignals
  | ok files' =>
    cases command with
    | scan day inputs replace =>
      obtain rfl | ⟨hFree, result, -, rfl⟩ := runScan_eq_ok hRun
      · exact hSignals
      · rw [Dict.lookup_insert_eq]
        split_ifs with hDay
        · subst hDay
          obtain hNone | rfl := hFree
          · rw [hSignals] at hNone
            cases hNone
          · exact absurd rfl (hReplace inputs)
        · exact hSignals
    | checkOutcomes day now fetch =>
      obtain ⟨-, rfl⟩ | ⟨_, _, _, -, -, -, rfl⟩ := runCheckOutcomes_eq_ok hRun
      · exact hSignals
      · exact hSignals

/-- A command keeps the records whose signal is on file. -/
theorem mem_outcomes_after {command : Command} {record : OutcomeRecord}
    (hSignals : files.signals.lookup tradingDate = some signals)
    (hTicker : record.ticker ∈ signals.map (·.ticker))
    (hRecords : files.outcomes.lookup tradingDate = some records) (hRecord : record ∈ records) :
    ∃ records', (files.after sessionClose command).outcomes.lookup tradingDate = some records' ∧
      record ∈ records' := by
  rw [Files.after]
  cases hRun : command.run sessionClose files with
  | error e => exact ⟨records, hRecords, hRecord⟩
  | ok files' =>
    cases command with
    | scan day inputs replace =>
      obtain rfl | ⟨-, result, -, rfl⟩ := runScan_eq_ok hRun
      · exact ⟨records, hRecords, hRecord⟩
      · exact ⟨records, hRecords, hRecord⟩
    | checkOutcomes day now fetch =>
      obtain ⟨-, rfl⟩ | ⟨signals', resolved, card, hSignals', hChecked, -, rfl⟩ :=
        runCheckOutcomes_eq_ok hRun
      · exact ⟨records, hRecords, hRecord⟩
      rw [Dict.lookup_insert_eq]
      split_ifs with hDay
      · subst hDay
        obtain rfl := Option.some.inj (hSignals'.symm.trans hSignals)
        refine ⟨resolved, rfl, hChecked.keeps record (mem_keptRecords.mpr ⟨?_, hTicker⟩)⟩
        exact ⟨records, hRecords, hRecord⟩
      · exact ⟨records, hRecords, hRecord⟩

/-- An outcome is final: unless a later scan replaces the signals of the day, no command drops it
or resolves its ticker again. -/
theorem outcomes_are_final {commands later : List Command} {record : OutcomeRecord}
    (hSignals : (runCommands sessionClose commands).signals.lookup tradingDate = some signals)
    (hTicker : record.ticker ∈ signals.map (·.ticker))
    (hRecords : (runCommands sessionClose commands).outcomes.lookup tradingDate = some records)
    (hRecord : record ∈ records) (hLater : ∀ inputs, .scan tradingDate inputs true ∉ later) :
    ∃ records', (runCommands sessionClose (commands ++ later)).outcomes.lookup tradingDate =
        some records' ∧ record ∈ records' ∧
      ∀ other ∈ records', other.ticker = record.ticker → other = record := by
  suffices hStays : (runCommands sessionClose (commands ++ later)).signals.lookup tradingDate =
      some signals ∧ ∃ records', (runCommands sessionClose (commands ++ later)).outcomes.lookup
        tradingDate = some records' ∧ record ∈ records' by
    obtain ⟨-, records', hRecords', hRecord'⟩ := hStays
    refine ⟨records', hRecords', hRecord', fun other hOther hSame => ?_⟩
    exact List.inj_on_of_nodup_map ((consistent_runCommands sessionClose _).distinct tradingDate
      records' hRecords') hOther hRecord' hSame
  induction later using List.reverseRecOn with
  | nil =>
    rw [List.append_nil]
    exact ⟨hSignals, records, hRecords, hRecord⟩
  | append_singleton later command ih =>
    obtain ⟨hSignals', records', hRecords', hRecord'⟩ :=
      ih fun inputs hMem => hLater inputs (List.mem_append_left _ hMem)
    rw [← List.append_assoc, runCommands_append_singleton]
    refine ⟨lookup_signals_after hSignals' fun inputs hReplaces => ?_,
      mem_outcomes_after hSignals' hTicker hRecords' hRecord'⟩
    exact hLater inputs (List.mem_append_right _ (List.mem_singleton.mpr hReplaces.symm))

theorem outcomes_are_final_sample : ∃ records record,
    (runCommands (fun _ => 100) (sampleCommands ++ sampleCommands)).outcomes.lookup 20 =
        some records ∧ record ∈ records ∧
      ∀ other ∈ records, other.ticker = record.ticker → other = record := by
  obtain ⟨_, _, record, hSignals, hTicker, hRecords, hRecord⟩ := sampleCommands_files
  have hLater : ∀ inputs, .scan 20 inputs true ∉ sampleCommands := by
    intro inputs hMem
    simp [sampleCommands] at hMem
  obtain ⟨records, hFinal⟩ := outcomes_are_final hSignals hTicker hRecords hRecord hLater
  exact ⟨records, record, hFinal⟩

/-! ### The scorecard -/

theorem exists_ratePct (count decided : ℕ) : ∃ rate, ratePct count decided = .ok rate := by
  obtain rfl | hDecided := Nat.eq_zero_or_pos decided
  · exact ⟨none, rfl⟩
  · obtain ⟨rate, hRate, -⟩ := ratePct_of_pos count hDecided
    exact ⟨some rate, hRate⟩

theorem exists_buildScorecard (outcomes : List SignalOutcome) :
    ∃ card, buildScorecard outcomes = .ok card := by
  obtain ⟨win, hWin⟩ := exists_ratePct (Scanner.resolved .win outcomes) (decided outcomes)
  obtain ⟨first, hFirst⟩ := exists_ratePct (hits .target1 outcomes) (decided outcomes)
  obtain ⟨second, hSecond⟩ := exists_ratePct (hits .target2 outcomes) (decided outcomes)
  obtain ⟨average, hAverage⟩ := exists_averageReturn outcomes
  exact ⟨_, by rw [buildScorecard, hWin, hFirst, hSecond, hAverage]; rfl⟩

/-- Exactly the wins on file name a target. -/
theorem Consistent.targetHit_iff {commands : List Command}
    (h : Consistent sessionClose commands files) :
    ∀ item ∈ allOutcomes files.outcomes, item.targetHit.isSome ↔ item.outcome = .win := by
  intro item hItem
  obtain ⟨⟨tradingDate, records⟩, hFile, hItem⟩ := List.mem_flatMap.mp hItem
  obtain ⟨record, hRecord, rfl⟩ := List.mem_map.mp hItem
  have hRecords := AList.mem_lookup_iff.mpr (mem_sortedBy.mp hFile)
  obtain ⟨_, _, _, _, _, _, hAdds⟩ := h.recorded tradingDate records hRecords record hRecord
  obtain ⟨_, hEnded⟩ := hAdds.ended
  exact hEnded.targetHit_iff

theorem length_allOutcomes (outcomes : Dict Day (List OutcomeRecord)) :
    (allOutcomes outcomes).length = (outcomes.entries.map (·.2.length)).sum := by
  rw [allOutcomes, List.length_flatMap]
  simp only [List.length_map]
  exact ((sortedBy_perm _ _).map _).sum_eq

theorem buildScorecard_counts {outcomes : List SignalOutcome} {card : Scorecard}
    (h : buildScorecard outcomes = .ok card) :
    card.totalSignals = outcomes.length ∧ card.wins = Scanner.resolved .win outcomes ∧
      card.losses = Scanner.resolved .loss outcomes ∧
      card.expired = Scanner.resolved .expired outcomes ∧
      card.winsTarget1 = hits .target1 outcomes ∧ card.winsTarget2 = hits .target2 outcomes := by
  obtain ⟨_, -, h⟩ := bind_eq_ok.mp h
  obtain ⟨_, -, h⟩ := bind_eq_ok.mp h
  obtain ⟨_, -, h⟩ := bind_eq_ok.mp h
  obtain ⟨_, -, h⟩ := bind_eq_ok.mp h
  obtain rfl := Except.ok.inj h
  exact ⟨rfl, rfl, rfl, rfl, rfl, rfl⟩

/-- The scorecard on file is that of the outcomes on file: it counts each ticker of a day once, as
a win, a loss or an expiry, and each win as that of one target. -/
theorem scorecard_counts_each_once (sessionClose : Day → Timestamp) (commands : List Command) :
    (∀ tradingDate records,
      (runCommands sessionClose commands).outcomes.lookup tradingDate = some records →
        (records.map (·.ticker)).Nodup) ∧
    ((runCommands sessionClose commands).scorecard = none →
      (runCommands sessionClose commands).outcomes = ∅) ∧
    ∀ card, (runCommands sessionClose commands).scorecard = some card →
      card.totalSignals =
        ((runCommands sessionClose commands).outcomes.entries.map (·.2.length)).sum ∧
      card.wins + card.losses + card.expired = card.totalSignals ∧
      card.winsTarget1 + card.winsTarget2 = card.wins := by
  have hFiles := consistent_runCommands sessionClose commands
  refine ⟨hFiles.distinct, fun hNone => ?_, fun card hCard => ?_⟩
  · obtain ⟨-, hEmpty⟩ | ⟨_, hSome, -⟩ := hFiles.scorecard
    · exact hEmpty
    · rw [hNone] at hSome
      cases hSome
  · obtain ⟨hNone, -⟩ | ⟨card', hSome, hBuilt⟩ := hFiles.scorecard
    · rw [hNone] at hCard
      cases hCard
    · obtain rfl := Option.some.inj (hSome.symm.trans hCard)
      obtain ⟨hTotal, hWins, hLosses, hExpired, hFirst, hSecond⟩ := buildScorecard_counts hBuilt
      refine ⟨hTotal.trans (length_allOutcomes _), ?_, ?_⟩
      · rw [hWins, hLosses, hExpired, hTotal]
        exact resolved_total
      · rw [hFirst, hSecond, hWins]
        exact hits_eq_wins hFiles.targetHit_iff

/-! ### The closing check -/

theorem exists_checkSignal {pending : Signal × ℕ} {bars : List MinuteBar}
    (hFetch : fetch pending.1 pending.2 = .bars bars) (records : List OutcomeRecord) :
    ∃ resolved, checkSignal closedAt now fetch records pending = .ok resolved := by
  obtain ⟨signal, number⟩ := pending
  simp only at hFetch
  by_cases hKnown : signal.ticker ∈ records.map (·.ticker)
  · exact ⟨records, by rw [checkSignal, if_pos hKnown]⟩
  simp only [checkSignal, if_neg hKnown, hFetch]
  obtain ⟨-, hNone⟩ | ⟨_, record, -, hSome, -⟩ := resolveOutcome_cases signal bars
  · obtain ⟨record, hRecord, -⟩ := exists_outcomeAt signal .expired none closedAt
      ((bars.getLast?.map (·.close)).getD signal.entryPrice)
    rw [hNone]
    by_cases hOpen : now < closedAt
    · exact ⟨records, by simp only [ok_bind, hOpen, if_true]; rfl⟩
    · refine ⟨records ++ [record], ?_⟩
      simp only [ok_bind, hOpen, if_false, expireAtClose, hRecord]
      rfl
  · exact ⟨records ++ [record], by rw [hSome]; rfl⟩

theorem exists_foldlM_checkSignal (closedAt now : Timestamp) (pending : List (Signal × ℕ))
    (hFetch : ∀ item ∈ pending, ∃ bars, fetch item.1 item.2 = .bars bars)
    (records : List OutcomeRecord) :
    ∃ resolved, pending.foldlM (checkSignal closedAt now fetch) records = .ok resolved := by
  induction pending generalizing records with
  | nil => exact ⟨records, rfl⟩
  | cons first rest ih =>
    obtain ⟨⟨bars, hBars⟩, hRest⟩ := List.forall_mem_cons.mp hFetch
    obtain ⟨next, hNext⟩ := exists_checkSignal hBars records
    obtain ⟨resolved, hResolved⟩ := ih hRest next
    exact ⟨resolved, foldlM_cons_eq_ok.mpr ⟨next, hNext, hResolved⟩⟩

/-- A check at or after the close that is answered leaves one outcome for each ticker that is
signalled, and a scorecard. -/
theorem closing_check_resolves_all {commands : List Command}
    (hSignals : (runCommands sessionClose commands).signals.lookup tradingDate = some signals)
    (hClosed : sessionClose tradingDate ≤ now)
    (hFetch : ∀ signal ∈ signals, ∀ number, ∃ bars, fetch signal number = .bars bars) :
    ∃ records card,
      (runCommands sessionClose
        (commands ++ [.checkOutcomes tradingDate now fetch])).outcomes.lookup tradingDate =
          some records ∧
      (runCommands sessionClose
        (commands ++ [.checkOutcomes tradingDate now fetch])).scorecard = some card ∧
      ∀ ticker, (∃ record ∈ records, record.ticker = ticker) ↔
        ∃ signal ∈ signals, signal.ticker = ticker := by
  have hAnswers : ∀ item ∈ signals.zipIdx, ∃ bars, fetch item.1 item.2 = .bars bars :=
    fun item hItem => hFetch item.1 (List.fst_mem_of_mem_zipIdx hItem) item.2
  obtain ⟨resolved, hResolved⟩ := exists_foldlM_checkSignal (sessionClose tradingDate) now
    signals.zipIdx hAnswers (keptRecords (runCommands sessionClose commands) tradingDate signals)
  obtain ⟨card, hCard⟩ := exists_buildScorecard
    (allOutcomes ((runCommands sessionClose commands).outcomes.insert tradingDate resolved))
  have hRun : (runCommands sessionClose commands).after sessionClose
      (.checkOutcomes tradingDate now fetch) = { runCommands sessionClose commands with
        outcomes := (runCommands sessionClose commands).outcomes.insert tradingDate resolved,
        scorecard := some card } := by
    rw [Files.after, Command.run, runCheckOutcomes, hSignals]
    simp only
    rw [← keptRecords, hResolved]
    simp only [ok_bind, hCard]
    rfl
  have hChecked := checked_of_foldlM hResolved
  rw [runCommands_append_singleton, hRun]
  refine ⟨resolved, card, AList.lookup_insert _, rfl, fun ticker => ⟨?_, ?_⟩⟩
  · rintro ⟨record, hRecord, rfl⟩
    obtain hOld | ⟨⟨signal, number⟩, hPending, hAdds⟩ := hChecked.adds record hRecord
    · obtain ⟨-, hTicker⟩ := mem_keptRecords.mp hOld
      exact List.mem_map.mp hTicker
    · exact ⟨signal, List.fst_mem_of_mem_zipIdx hPending, hAdds.ticker.symm⟩
  · rintro ⟨signal, hSignal, rfl⟩
    obtain ⟨number, hNumber⟩ := List.mem_iff_getElem?.mp hSignal
    have hPending : (signal, number) ∈ signals.zipIdx := List.mk_mem_zipIdx_iff_getElem?.mpr hNumber
    refine List.mem_map.mp (hChecked.complete hClosed (fun pending hItem => ?_) _ hPending)
    obtain ⟨bars, hBars⟩ := hAnswers pending hItem
    rw [hBars]
    exact fun h => by cases h

theorem closing_check_resolves_all_sample : ∃ signals records card,
    (runCommands (fun _ => 100) sampleCommands).signals.lookup 20 = some signals ∧
    (runCommands (fun _ => 100) (sampleCommands ++
      [.checkOutcomes 20 100 fun _ _ => .bars [sampleMinute]])).outcomes.lookup 20 = some records ∧
    (runCommands (fun _ => 100) (sampleCommands ++
      [.checkOutcomes 20 100 fun _ _ => .bars [sampleMinute]])).scorecard = some card ∧
    ∀ ticker, (∃ record ∈ records, record.ticker = ticker) ↔
      ∃ signal ∈ signals, signal.ticker = ticker := by
  obtain ⟨signals, _, _, hSignals, -⟩ := sampleCommands_files
  obtain ⟨records, card, hResolved⟩ :=
    closing_check_resolves_all hSignals le_rfl fun _ _ _ => ⟨[sampleMinute], rfl⟩
  exact ⟨signals, records, card, hSignals, hResolved⟩

end Daybreak.Scanner
