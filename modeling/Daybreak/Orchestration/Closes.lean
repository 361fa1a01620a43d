import Daybreak.Numeric.Context
import Daybreak.Numeric.Largest
import Daybreak.Orchestration.AlpacaOps
import Daybreak.Orchestration.Runs
import Mathlib.Algebra.Order.BigOperators.Group.List

/-! What one flatten run closes. Where no difference of two readings of a symbol is
rounded, the accepted closes of the symbol add up to nothing or to a quantity that
was read for it, and once every close was accepted, to the largest one. Shares that
arrive after a close has filled are covered as long as they and the fills together
are within that largest reading, and not beyond it. -/

namespace Daybreak.Orchestration

open Numeric DecimalArithmetic Effect

variable {β D : Type} [DecimalArithmetic D]

/-! ### What a log says -/

/-- The quantities of a symbol in one reading. -/
def quantitiesIn (positions : List (SessionPosition D)) (symbol : String) : List ℚ :=
  (positions.filter (·.symbol = symbol)).map (value ·.quantity)

namespace OperationCall

def quantities (call : OperationCall D) (symbol : String) : List ℚ :=
  (call.positions.map (quantitiesIn · symbol)).getD []

def submitted (call : OperationCall D) (symbol : String) : ℚ :=
  (call.accepted.map fun close =>
    if close.2.symbol = symbol then value close.2.quantity else 0).getD 0

end OperationCall

/-- The quantities that were read for a symbol. -/
def readQuantities (log : FlattenLog β D) (symbol : String) : List ℚ :=
  (readings log).flatMap (quantitiesIn · symbol)

/-- The quantity of the accepted closes of a symbol. -/
def submittedTo (log : FlattenLog β D) (symbol : String) : ℚ :=
  (log.map (·.1.submitted symbol)).sum

/-- The largest quantity that was read for a symbol. -/
def largestRead (log : FlattenLog β D) (symbol : String) : ℚ := largest (readQuantities log symbol)

/-- No difference of two readings of a symbol is rounded. -/
def ExactReadings (log : FlattenLog β D) : Prop :=
  ∀ symbol, ∀ x ∈ readQuantities log symbol, ∀ y ∈ 0 :: readQuantities log symbol,
    Representable (x - y)

variable {log log' : FlattenLog β D} {entry : OperationCall D × β} {symbol : String}

@[simp] theorem readQuantities_append :
    readQuantities (log ++ [entry]) symbol =
      readQuantities log symbol ++ entry.1.quantities symbol := by
  rw [readQuantities, readings_append, List.flatMap_append, OperationCall.quantities]
  cases entry.1.positions <;> simp [readQuantities]

@[simp] theorem submittedTo_append :
    submittedTo (log ++ [entry]) symbol = submittedTo log symbol + entry.1.submitted symbol := by
  simp [submittedTo]

theorem readQuantities_subset (h : log <+: log') :
    readQuantities log symbol ⊆ readQuantities log' symbol := by
  intro x hx
  obtain ⟨positions, hReading, hx⟩ := List.mem_flatMap.mp hx
  obtain ⟨entry, hEntry, hPositions⟩ := List.mem_filterMap.mp hReading
  refine List.mem_flatMap.mpr ⟨positions, ?_, hx⟩
  exact List.mem_filterMap.mpr ⟨entry, h.subset hEntry, hPositions⟩

theorem OperationCall.submitted_nonneg (call : OperationCall D) (symbol : String) :
    0 ≤ call.submitted symbol := by
  unfold OperationCall.submitted
  cases call.accepted with
  | none => exact le_rfl
  | some close =>
    show 0 ≤ if close.2.symbol = symbol then value close.2.quantity else 0
    split_ifs
    · exact close.2.positive.le
    · exact le_rfl

theorem submittedTo_nonneg (log : FlattenLog β D) (symbol : String) :
    0 ≤ submittedTo log symbol := by
  refine List.sum_nonneg fun x hx => ?_
  obtain ⟨entry, -, rfl⟩ := List.mem_map.mp hx
  exact entry.1.submitted_nonneg symbol

theorem submittedTo_mono (h : log <+: log') (symbol : String) :
    submittedTo log symbol ≤ submittedTo log' symbol := by
  obtain ⟨rest, rfl⟩ := h
  rw [submittedTo, submittedTo, List.map_append, List.sum_append]
  exact le_add_of_nonneg_right (submittedTo_nonneg rest symbol)

theorem ExactReadings.of_readings (hExact : ExactReadings log)
    (h : readings log' = readings log) : ExactReadings log' := by
  intro symbol
  rw [readQuantities, h]
  exact hExact symbol

theorem ExactReadings.mono (hExact : ExactReadings log') (h : log <+: log') : ExactReadings log :=
  fun symbol x hx y hy => hExact symbol x (readQuantities_subset h hx) y
    (List.cons_subset_cons 0 (readQuantities_subset h) hy)

/-- Whole shares are read exactly. -/
theorem exactReadings_of_whole (h : ∀ positions ∈ readings log, ∀ position ∈ positions,
    (value position.quantity).den = 1 ∧ (value position.quantity).num < 10 ^ 27) :
    ExactReadings log := by
  have hWhole : ∀ symbol, ∀ x ∈ 0 :: readQuantities log symbol,
      ∃ n : ℤ, 0 ≤ n ∧ n < 10 ^ 27 ∧ x = n := by
    intro symbol x hx
    rcases List.mem_cons.mp hx with rfl | hx
    · exact ⟨0, le_rfl, by norm_num, by simp⟩
    · obtain ⟨positions, hReading, hx⟩ := List.mem_flatMap.mp hx
      obtain ⟨position, hPosition, rfl⟩ := List.mem_map.mp hx
      obtain ⟨hDen, hNum⟩ := h positions hReading position (List.mem_of_mem_filter hPosition)
      refine ⟨(value position.quantity).num, ?_, hNum, (Rat.coe_int_num_of_den_eq_one hDen).symm⟩
      exact Rat.num_nonneg.mpr position.positive.le
  intro symbol x hx y hy
  obtain ⟨m, hm, hmLt, rfl⟩ := hWhole symbol x (List.mem_cons_of_mem _ hx)
  obtain ⟨n, hn, hnLt, rfl⟩ := hWhole symbol y hy
  rw [← Int.cast_sub]
  refine representable_intCast ?_
  have hPrec : Decimal.prec = 28 := rfl
  rw [hPrec]
  norm_num at hmLt hnLt ⊢
  omega

theorem quantitiesIn_cons (position : SessionPosition D) (positions : List (SessionPosition D))
    (symbol : String) :
    quantitiesIn (position :: positions) symbol =
      (if position.symbol = symbol then [value position.quantity] else []) ++
        quantitiesIn positions symbol := by
  unfold quantitiesIn
  by_cases h : position.symbol = symbol <;> simp [h]

theorem largest_quantitiesIn_cons (position : SessionPosition D)
    (positions : List (SessionPosition D)) (symbol : String) (x : ℚ) (hx : 0 ≤ x) :
    max x (largest (quantitiesIn (position :: positions) symbol)) =
      max (if position.symbol = symbol then max x (value position.quantity) else x)
        (largest (quantitiesIn positions symbol)) := by
  rw [quantitiesIn_cons, largest_append]
  by_cases h : position.symbol = symbol
  · rw [if_pos h, if_pos h, largest_cons, largest_nil, max_eq_left position.positive.le, max_assoc]
  · rw [if_neg h, if_neg h, largest_nil, ← max_assoc, max_eq_left hx]

/-! ### Accounts -/

variable {position : SessionPosition D} {positions : List (SessionPosition D)}
  {run run' : FlattenRun β D}

/-- The submitted quantities of a run are those of its log, each was read, and each
accepted close brought the total to the quantity of a position just read. -/
structure Accounted (run : FlattenRun β D) : Prop where
  synced : ∀ symbol, value (run.submitted symbol) = submittedTo run.log symbol
  known : ∀ symbol, submittedTo run.log symbol ∈ 0 :: readQuantities run.log symbol
  closes : ∀ before entry after, run.log = before ++ entry :: after →
    ∀ read target, entry.1.accepted = some (read, target) →
      read ∈ lastReading before ∧ target.symbol = read.symbol ∧
        submittedTo (before ++ [entry]) read.symbol = value read.quantity

/-- A request that is no accepted close leaves the accounts. -/
theorem Accounted.unsubmitted (hRun : Accounted run) {entry : OperationCall D × β}
    (hLog : run'.log = run.log ++ [entry]) (hNone : entry.1.accepted = none)
    (hSubmitted : run'.submittedQuantities = run.submittedQuantities) : Accounted run' := by
  have hNothing (symbol : String) : entry.1.submitted symbol = 0 := by
    rw [OperationCall.submitted, hNone]
    rfl
  have hTotal (symbol : String) : submittedTo run'.log symbol = submittedTo run.log symbol := by
    rw [hLog, submittedTo_append, hNothing, add_zero]
  constructor
  · intro symbol
    rw [hTotal, ← hRun.synced, FlattenRun.submitted, hSubmitted]
    rfl
  · intro symbol
    rw [hTotal, hLog, readQuantities_append]
    exact List.cons_subset_cons 0 (List.subset_append_left _ _) (hRun.known symbol)
  · intro before closed after hSplit read target hAccepted
    rw [hLog] at hSplit
    rcases append_singleton_eq hSplit with ⟨-, rfl⟩ | ⟨rest, hOld⟩
    · rw [hNone] at hAccepted
      cases hAccepted
    · exact hRun.closes before closed rest hOld read target hAccepted

/-- Every total of the log is the largest quantity that was read. -/
def Covered (log : FlattenLog β D) : Prop :=
  ExactReadings log → AllSucceed log → ∀ symbol, submittedTo log symbol = largestRead log symbol

/-- What holds between two parts of a run. -/
structure Balanced (run : FlattenRun β D) : Prop where
  accounted : ExactReadings run.log → Accounted run
  covered : Covered run.log
  polls : ∀ poll ∈ run.polls, poll.log <+: run.log ∧ Covered poll.log

theorem Balanced.start (b : β) : Balanced (.start b : FlattenRun β D) where
  accounted _ :=
    { synced := fun _ => value_ofInt 0
      known := fun _ => List.mem_cons_self ..
      closes := fun before _ _ hSplit => by simp [FlattenRun.start] at hSplit }
  covered _ _ _ := rfl
  polls _ hPoll := absurd hPoll List.not_mem_nil

theorem Balanced.unlogged (hRun : Balanced run) (broker : β) (errors : List String) :
    Balanced { run with broker := broker, errors := errors } where
  accounted hExact :=
    { synced := (hRun.accounted hExact).synced
      known := (hRun.accounted hExact).known
      closes := (hRun.accounted hExact).closes }
  covered := hRun.covered
  polls := hRun.polls

theorem Balanced.poll (hRun : Balanced run) (broker : β) (positions : List (SessionPosition D)) :
    Balanced { run with polls := run.polls ++ [⟨positions, broker, run.log⟩] } where
  accounted hExact :=
    { synced := (hRun.accounted hExact).synced
      known := (hRun.accounted hExact).known
      closes := (hRun.accounted hExact).closes }
  covered := hRun.covered
  polls poll hPoll := by
    rcases List.mem_append.mp hPoll with hOld | hNew
    · exact hRun.polls poll hOld
    · obtain rfl := List.mem_singleton.mp hNew
      exact ⟨List.prefix_rfl, hRun.covered⟩

theorem Balanced.idle (hRun : Balanced run) (broker : β) {call : OperationCall D}
    (hIdle : call.Idle) :
    Balanced { run with broker := broker, log := run.log ++ [(call, broker)] } := by
  obtain ⟨hUnread, hUnsubmitted, -⟩ := hIdle
  have hPrefix : run.log <+: run.log ++ [(call, broker)] := List.prefix_append _ _
  refine ⟨fun hExact => ?_, fun hExact hAll symbol => ?_, fun poll hPoll => ?_⟩
  · exact (hRun.accounted (hExact.mono hPrefix)).unsubmitted rfl hUnsubmitted rfl
  · rw [submittedTo_append, largestRead, readQuantities_append, OperationCall.submitted,
      OperationCall.quantities, hUnread, hUnsubmitted]
    simpa [largestRead] using hRun.covered (hExact.mono hPrefix) (hAll.mono hPrefix) symbol
  · obtain ⟨hLog, hCovered⟩ := hRun.polls poll hPoll
    exact ⟨hLog.trans hPrefix, hCovered⟩

theorem quantity_mem_of_reading (h : position ∈ lastReading log) :
    value position.quantity ∈ readQuantities log position.symbol := by
  cases hLast : (readings log).getLast? with
  | none =>
    rw [lastReading, hLast] at h
    cases h
  | some positions =>
    rw [lastReading, hLast] at h
    refine List.mem_flatMap.mpr ⟨positions, List.mem_of_getLast? hLast, ?_⟩
    exact List.mem_map.mpr ⟨position, List.mem_filter.mpr ⟨h, by simp⟩, rfl⟩

/-! ### What is submitted -/

variable [ContextArithmetic D]

/-- What an accepted close submits brings the total to the position. -/
theorem value_uncovered (hExact : ExactReadings run.log) (hRun : Accounted run)
    (hRead : value position.quantity ∈ readQuantities run.log position.symbol) :
    value (sub position.quantity (run.submitted position.symbol)) =
      value position.quantity - submittedTo run.log position.symbol := by
  rw [← hRun.synced]
  refine ContextArithmetic.value_sub _ _ ?_
  rw [hRun.synced]
  exact hExact _ _ hRead _ (hRun.known _)

/-- An accepted close keeps the accounts. -/
theorem ClosesUncovered.accounted (h : ClosesUncovered position run run')
    (hExact : ExactReadings run.log) (hRun : Accounted run)
    (hRead : position ∈ lastReading run.log) : Accounted run' := by
  cases h with
  | covered => exact hRun
  | raised target e broker error => exact hRun.unsubmitted rfl rfl rfl
  | accepted target order broker hSymbol hQuantity =>
    have hMem := quantity_mem_of_reading hRead
    have hTarget : value target.quantity =
        value position.quantity - submittedTo run.log position.symbol := by
      rw [hQuantity]
      exact value_uncovered hExact hRun hMem
    have hTotal (symbol : String) :
        submittedTo (run.log ++ [(.close position target (.ok order), broker)]) symbol =
          if position.symbol = symbol then value position.quantity
          else submittedTo run.log symbol := by
      rw [submittedTo_append]
      show _ + (if target.symbol = symbol then value target.quantity else 0) = _
      rw [hSymbol]
      split_ifs with hSame
      · subst hSame
        rw [hTarget]
        ring
      · exact add_zero _
    constructor
    · intro symbol
      rw [hTotal, FlattenRun.submitted, Dict.lookup_insert_eq]
      by_cases hSame : position.symbol = symbol
      · subst hSame
        have hSum : value (run.submitted position.symbol) + value target.quantity =
            value position.quantity := by
          rw [hRun.synced, hTarget, add_sub_cancel]
        have hWhole : Representable (value position.quantity) := by
          have hAlone := hExact _ _ hMem 0 (List.mem_cons_self ..)
          rwa [sub_zero] at hAlone
        rw [if_pos rfl, if_pos rfl]
        show value (add (run.submitted position.symbol) target.quantity) = _
        rw [ContextArithmetic.value_add _ _ (hSum ▸ hWhole), hSum]
      · rw [if_neg (Ne.symm hSame), if_neg hSame]
        exact hRun.synced symbol
    · intro symbol
      simp only
      rw [hTotal, readQuantities_append]
      refine List.cons_subset_cons 0 (List.subset_append_left _ _) ?_
      split_ifs with hSame
      · subst hSame
        exact List.mem_cons_of_mem _ hMem
      · exact hRun.known symbol
    · intro before closed after hSplit read other hAccepted
      rcases append_singleton_eq hSplit with ⟨rfl, rfl⟩ | ⟨rest, hOld⟩
      · obtain ⟨rfl, rfl⟩ := Prod.mk.inj (Option.some.inj hAccepted)
        exact ⟨hRead, hSymbol, (hTotal _).trans (if_pos rfl)⟩
      · exact hRun.closes before closed rest hOld read other hAccepted

/-- A close that does not raise brings the total to the position, unless it is larger. -/
theorem ClosesUncovered.submittedTo_eq (h : ClosesUncovered position run run')
    (hExact : ExactReadings run.log) (hRun : Accounted run)
    (hRead : position ∈ lastReading run.log) (hAll : AllSucceed run'.log) (symbol : String) :
    submittedTo run'.log symbol =
      if position.symbol = symbol then max (submittedTo run.log symbol) (value position.quantity)
      else submittedTo run.log symbol := by
  have hUncovered := value_uncovered hExact hRun (quantity_mem_of_reading hRead)
  cases h with
  | covered hCovered =>
    rw [hUncovered, sub_nonpos] at hCovered
    split_ifs with hSame
    · subst hSame
      exact (max_eq_left hCovered).symm
    · rfl
  | raised target e broker error => exact absurd (allSucceed_append.mp hAll).2 id
  | accepted target order broker hSymbol hQuantity =>
    have hPositive := target.positive
    rw [hQuantity, hUncovered, sub_pos] at hPositive
    rw [submittedTo_append]
    show _ + (if target.symbol = symbol then value target.quantity else 0) = _
    rw [hSymbol, hQuantity, hUncovered]
    split_ifs with hSame
    · subst hSame
      rw [max_eq_right hPositive.le, add_sub_cancel]
    · exact add_zero _

/-- A whole reading: the accounts are kept, and every total is brought to the reading. -/
theorem ClosesAll.accounted (h : ClosesAll positions run run') (hExact : ExactReadings run.log)
    (hRun : Accounted run) (hRead : positions ⊆ lastReading run.log) :
    Accounted run' ∧ (AllSucceed run'.log → ∀ symbol, submittedTo run'.log symbol =
      max (submittedTo run.log symbol) (largest (quantitiesIn positions symbol))) := by
  induction h with
  | nil run =>
    exact ⟨hRun, fun _ symbol => (max_eq_left (submittedTo_nonneg run.log symbol)).symm⟩
  | @cons position positions run mid run' first rest ih =>
    have hMid := first.onlyCloses
    have hHere := hRead (List.mem_cons_self ..)
    have hThere : positions ⊆ lastReading mid.log := by
      intro other hOther
      rw [hMid.lastReading]
      exact hRead (List.mem_cons_of_mem _ hOther)
    have hMidRun := first.accounted hExact hRun hHere
    obtain ⟨hRun', hTotal⟩ := ih (hExact.of_readings hMid.readings) hMidRun hThere
    refine ⟨hRun', fun hAll symbol => ?_⟩
    have hAllMid := hAll.mono rest.onlyCloses.log
    rw [hTotal hAll, first.submittedTo_eq hExact hRun hHere hAllMid]
    exact (largest_quantitiesIn_cons _ _ _ _ (submittedTo_nonneg run.log symbol)).symm

/-! ### Runs -/

/-- A reading and its closes cover what was read. -/
theorem Balanced.closesAll (hRun : Balanced run) {broker : β}
    {targets : List (ManagedPositionTarget D)}
    (h : ClosesAll positions
      { run with broker := broker, log := run.log ++ [(.list targets (.ok positions), broker)] }
      run') : Balanced run' := by
  have hOnly := h.onlyCloses
  have hPrefix : run.log <+: run.log ++ [(.list targets (.ok positions), broker)] :=
    List.prefix_append _ _
  have hAccounts (hExact : ExactReadings run'.log) := h.accounted (hExact.mono hOnly.log)
    ((hRun.accounted (hExact.mono (hPrefix.trans hOnly.log))).unsubmitted rfl rfl rfl)
    (by rw [lastReading_append]; exact List.Subset.refl _)
  refine ⟨fun hExact => (hAccounts hExact).1, fun hExact hAll symbol => ?_, fun poll hPoll => ?_⟩
  · rw [(hAccounts hExact).2 hAll, largestRead, readQuantities, hOnly.readings, ← readQuantities,
      readQuantities_append, largest_append, submittedTo_append]
    congr 1
    exact (add_zero _).trans (hRun.covered (hExact.mono (hPrefix.trans hOnly.log))
      (hAll.mono (hPrefix.trans hOnly.log)) symbol)
  · rw [hOnly.polls] at hPoll
    obtain ⟨hLog, hCovered⟩ := hRun.polls poll hPoll
    exact ⟨hLog.trans (hPrefix.trans hOnly.log), hCovered⟩

theorem flattenInvariant_balanced (ops : SessionBrokerOperations β D)
    (targets : List (ManagedPositionTarget D)) : FlattenInvariant ops targets Balanced where
  unlogged _ hRun := hRun.unlogged _ _
  idle hIdle hRun := hRun.idle _ hIdle
  poll hRun := hRun.poll _ _
  read _ hCloses hRun := hRun.closesAll hCloses

/-! ### A paper account -/

/-- An account with shares of one Daybreak entry order and others. What the entry
still fills before each operation is given, and closes fill at once. -/
structure Paper where
  entry : Decimal
  fills : List Decimal
  others : Decimal
  closed : Decimal
  now : Timestamp
  deriving DecidableEq

def Paper.start (entry : Decimal) (fills : List Decimal) (others : Decimal) : Paper :=
  ⟨entry, fills, others, .ofInt 0, 0⟩

def Paper.held (paper : Paper) : Decimal := sub (add paper.entry paper.others) paper.closed

def Paper.order (paper : Paper) : OrderJson Decimal where
  id := .text "order-1"
  clientOrderId := .text "DB-20260803-AAPL-1"
  parentOrderId := .absent
  symbol := .text "AAPL"
  side := .text "buy"
  filledQty := .number paper.entry
  legs := []

def paperApi : AlpacaApi Paper Decimal where
  moves paper := match paper.fills with
    | [] => paper
    | fill :: fills => { paper with entry := add paper.entry fill, fills := fills }
  orders paper status _ :=
    .ok (some (if status = .all ∨ paper.fills ≠ [] then [some paper.order] else []))
  position paper symbol :=
    if symbol = "AAPL" ∧ 0 < value paper.held then
      .ok (some ⟨.text "AAPL", .number paper.held, .absent⟩)
    else .error (.alpacaOperationsError "Alpaca returned HTTP 404" false (some 404))
  deleteOrder _ paper := (.ok (), paper)
  deletePosition _ quantity paper :=
    (.ok (some ⟨.text "close-1", .null, .time paper.now⟩),
      { paper with closed := add paper.closed quantity })
  wallClock paper := paper.now

/-- Every reading of the clock takes a second. -/
def paperTiming : Timing Paper where
  clock paper := (paper.now, { paper with now := paper.now + 1000000 })
  sleep _ paper := paper

def samplePlan : SessionPlan where
  sessionId := "session-1"
  runId := "run-1"
  tradingDate := ⟨2026, 8, 3⟩
  recorderWarmupAt := 0
  featureWindowStartAt := 1
  featureSnapshotAt := 2
  evaluatorCutoffAt := 3
  eligibilityLockAt := 4
  regularSessionOpenAt := 5
  newEntryCutoffAt := 6
  mandatoryFlattenAt := 7
  finalFlattenDeadlineAt := 600000000
  policy := {}
  configurationHash := "hash"
  valid := by decide +kernel

/-- The run on a paper account, with its quantities at entry time. -/
def paperRun (polls : ℕ) (managedQuantities : List (String × RawQuantity Decimal))
    (paper : Paper) : FlattenRun Paper Decimal :=
  flattenRun paperApi.operations paperTiming polls samplePlan 0 managedQuantities paper

/-- The entry fills before the second reading of the positions. -/
def lateFill : Paper :=
  .start (.ofInt 0) [.ofInt 0, .ofInt 0, .ofInt 0, .ofInt 2] (.ofInt 0)

/-- The entry fills again after a close of its first fill. -/
def secondFill : Paper :=
  .start (.ofInt 2) [.ofInt 0, .ofInt 0, .ofInt 0, .ofInt 0, .ofInt 2] (.ofInt 0)

/-! ### Late fills and duplicates -/

theorem flattenRun_balanced (ops : SessionBrokerOperations β D) (timing : Timing β) (polls : ℕ)
    (plan : SessionPlan) (now : Timestamp) (managedQuantities : List (String × RawQuantity D))
    (b : β) : Balanced (flattenRun ops timing polls plan now managedQuantities b) :=
  flattenRun_invariant (flattenInvariant_balanced ops []).toIdleInvariant
    (fun targets _ => flattenInvariant_balanced ops targets) (.start b)

/-- In a run whose closes are all accepted, what is outstanding after every poll is
at least what the poll read exactly when the positions read and the fills before stay
within the largest reading. -/
theorem lateFills_covered_iff (ops : SessionBrokerOperations β D) (timing : Timing β) (polls : ℕ)
    (plan : SessionPlan) (now : Timestamp) (managedQuantities : List (String × RawQuantity D))
    (b : β) (filled : β → String → ℚ)
    (hExact : ExactReadings (flattenRun ops timing polls plan now managedQuantities b).log)
    (hAll : AllSucceed (flattenRun ops timing polls plan now managedQuantities b).log) :
    (∀ poll ∈ (flattenRun ops timing polls plan now managedQuantities b).polls,
      ∀ position ∈ poll.positions, value position.quantity ≤
        submittedTo poll.log position.symbol - filled poll.broker position.symbol) ↔
      ∀ poll ∈ (flattenRun ops timing polls plan now managedQuantities b).polls,
        ∀ position ∈ poll.positions,
          value position.quantity + filled poll.broker position.symbol ≤
            largestRead poll.log position.symbol := by
  have hBalanced := flattenRun_balanced ops timing polls plan now managedQuantities b
  refine forall₂_congr fun poll hPoll => forall₂_congr fun position _ => ?_
  obtain ⟨hLog, hCovered⟩ := hBalanced.polls poll hPoll
  rw [hCovered (hExact.mono hLog) (hAll.mono hLog), le_sub_iff_add_le]

/-- Shares that arrive before the first close are covered. -/
theorem firstFill_covered :
    AllSucceed (paperRun 2 [("AAPL", some (.ofInt 5))] lateFill).log ∧
      ∀ poll ∈ (paperRun 2 [("AAPL", some (.ofInt 5))] lateFill).polls,
        ∀ position ∈ poll.positions, value position.quantity ≤
          submittedTo poll.log position.symbol - value poll.broker.closed := by
  have hAll : AllSucceed (paperRun 2 [("AAPL", some (.ofInt 5))] lateFill).log := by
    decide +kernel
  refine ⟨hAll, (lateFills_covered_iff paperApi.operations paperTiming 2 samplePlan 0
    [("AAPL", some (.ofInt 5))] lateFill (fun paper _ => value paper.closed)
    (exactReadings_of_whole ?_) hAll).mpr ?_⟩ <;> decide +kernel

/-- Shares that arrive after a close has filled are not closed. -/
theorem secondFill_uncovered :
    AllSucceed (paperRun 1 [] secondFill).log ∧
      ¬ ∀ poll ∈ (paperRun 1 [] secondFill).polls,
        ∀ position ∈ poll.positions, value position.quantity ≤
          submittedTo poll.log position.symbol - value poll.broker.closed := by
  decide +kernel

/-- No close is submitted twice: what is outstanding of a symbol after an accepted
close is at most what was last read of it, and the total is at most the largest
quantity that was read. -/
theorem closes_within_readings (ops : SessionBrokerOperations β D) (timing : Timing β) (polls : ℕ)
    (plan : SessionPlan) (now : Timestamp) (managedQuantities : List (String × RawQuantity D))
    (b : β) (filled : β → String → ℚ≥0)
    (hExact : ExactReadings (flattenRun ops timing polls plan now managedQuantities b).log) :
    (∀ before read target order broker after,
      (flattenRun ops timing polls plan now managedQuantities b).log =
        before ++ (.close read target (.ok order), broker) :: after →
      read ∈ lastReading before ∧
        submittedTo (before ++ [(.close read target (.ok order), broker)]) read.symbol -
          filled broker read.symbol ≤ value read.quantity) ∧
      ∀ symbol, submittedTo (flattenRun ops timing polls plan now managedQuantities b).log symbol ≤
        largestRead (flattenRun ops timing polls plan now managedQuantities b).log symbol := by
  have hAccounted :=
    (flattenRun_balanced ops timing polls plan now managedQuantities b).accounted hExact
  constructor
  · intro before read target order broker after hLog
    obtain ⟨hRead, -, hTotal⟩ := hAccounted.closes before _ after hLog read target rfl
    have hFilled : (0 : ℚ) ≤ filled broker read.symbol := NNRat.coe_nonneg _
    exact ⟨hRead, (sub_le_self _ hFilled).trans hTotal.le⟩
  · intro symbol
    exact le_largest (hAccounted.known symbol)

/-- Both bounds for two shares that are closed at once. -/
theorem secondFill_within_readings :
    submittedTo (paperRun 1 [] secondFill).log "AAPL" ≤
      largestRead (paperRun 1 [] secondFill).log "AAPL" :=
  (closes_within_readings paperApi.operations paperTiming 1 samplePlan 0 [] secondFill
    (fun _ _ => 0) (exactReadings_of_whole (by decide +kernel))).2 "AAPL"

/-- The first close of a quantity of twenty-nine digits is rounded up. -/
theorem longQuantity_exceeds_reading :
    ¬ ∀ symbol,
      submittedTo (paperRun 1 [("AAPL", some ⟨false, 10000000000000000000000000015, -28⟩)]
          (.start (.ofInt 0) [] (.ofInt 2))).log symbol ≤
        largestRead (paperRun 1 [("AAPL", some ⟨false, 10000000000000000000000000015, -28⟩)]
          (.start (.ofInt 0) [] (.ofInt 2))).log symbol := by
  intro h
  exact absurd (h "AAPL") (by decide +kernel)

end Daybreak.Orchestration
