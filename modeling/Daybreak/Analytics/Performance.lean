import Daybreak.Analytics.Trades
import Daybreak.Effect.Fallible
import Daybreak.Effect.Grouping
import Daybreak.Numeric.Drawdown
import Daybreak.Numeric.Quantized
import Mathlib.Algebra.Order.BigOperators.Group.List

/-! The performance of a session. Net results are rounded trade by trade; their sums, where no
decimal operation rounds them, are kept by the drawdown and by the attribution to the sources,
structures and exits of the trades. -/

namespace Daybreak.Analytics

open Contracts Effect Numeric Serial Daybreak.Order

/-! ### Metrics -/

def zero : Decimal := .literal 0 0

/-- `_q`: ten decimal places, half even. -/
def quantized (d : Decimal) : Result Decimal := signals (d.quantize .halfEven (-10))

structure TradeMetrics where
  gross : Decimal
  net : Decimal
  risk : Decimal
  r : Decimal
  entrySlippage : Decimal
  entrySlippageBps : Decimal

/-- `net / risk if risk > 0 else ZERO` -/
def multipleOfRisk (net risk : Decimal) : Result Decimal :=
  if 0 < risk.toRat then signals (net.div risk) else .ok zero

/-- `_trade_metrics` -/
def tradeMetrics (trade : TradeOutcome) : Result TradeMetrics := do
  let quantity := Decimal.ofInt trade.quantity
  let gross := (trade.averageExitPrice.sub trade.averageEntryPrice).mul quantity
  let net := gross.sub trade.fees
  let risk := (trade.plannedEntryPrice.sub trade.plannedStopPrice).mul quantity
  let rMultiple ← multipleOfRisk net risk
  let entrySlippage := (trade.averageEntryPrice.sub trade.plannedEntryPrice).mul quantity
  let slippageRatio ←
    signals ((trade.averageEntryPrice.sub trade.plannedEntryPrice).div trade.plannedEntryPrice)
  let gross ← quantized gross
  let net ← quantized net
  let risk ← quantized risk
  let r ← quantized rMultiple
  let entrySlippage ← quantized entrySlippage
  let entrySlippageBps ← quantized (slippageRatio.mul (.literal 10000 0))
  return { gross, net, risk, r, entrySlippage, entrySlippageBps }

structure TradeSummary where
  tradeCount : ℕ
  wins : ℕ
  losses : ℕ
  breakeven : ℕ
  grossPnl : Decimal
  fees : Decimal
  netPnl : Decimal
  winRate : Decimal
  profitFactor : Option Decimal
  expectancy : Decimal
  averageWin : Decimal
  averageLoss : Decimal
  averageR : Decimal
  maximumDrawdown : Decimal
  totalSlippage : Decimal
  averageSlippageBps : Decimal

/-- `_q(total / Decimal(count)) if count else ZERO` -/
def average (total : Decimal) (count : ℕ) : Result Decimal :=
  if count = 0 then .ok zero else do
    let quotient ← signals (total.div (.ofInt count))
    quantized quotient

/-- `_q(gross_profit / gross_loss) if gross_loss > 0 else None` -/
def profitFactor (grossProfit grossLoss : Decimal) : Result (Option Decimal) :=
  if grossLoss.toRat ≤ 0 then .ok none else do
    let factor ← signals (grossProfit.div grossLoss)
    let factor ← quantized factor
    return some factor

/-- `_summary` -/
def summary (trades : List TradeOutcome) : Result TradeSummary := do
  let metrics ← trades.mapM tradeMetrics
  let netValues := metrics.map (·.net)
  let grossPnl ← quantized (.total (metrics.map (·.gross)))
  let fees ← quantized (.total (trades.map (·.fees)))
  let netPnl ← quantized (.total netValues)
  let wins := netValues.filter fun value => 0 < value.toRat
  let losses := netValues.filter fun value => value.toRat < 0
  let count := trades.length
  let winRate ← average (.ofInt wins.length) count
  let grossProfit := Decimal.total wins
  let grossLoss := (Decimal.total losses).abs
  let profitFactor ← profitFactor grossProfit grossLoss
  let expectancy ← average netPnl count
  let averageWin ← average grossProfit wins.length
  let averageLoss ← average (.total losses) losses.length
  let averageR ← average (.total (metrics.map (·.r))) count
  let totalSlippage ← quantized (.total (metrics.map (·.entrySlippage)))
  let averageSlippageBps ← average (.total (metrics.map (·.entrySlippageBps))) count
  let maximumDrawdown ← quantized (Decimal.runningSum netValues).fall
  return {
    tradeCount := count, wins := wins.length, losses := losses.length
    breakeven := count - wins.length - losses.length
    grossPnl, fees, netPnl, winRate, profitFactor, expectancy, averageWin, averageLoss, averageR
    maximumDrawdown, totalSlippage, averageSlippageBps }

/-! ### Attributions -/

inductive AttributionDimension where
  | sourceType | chartStructure | riskFlag | exitReason
  deriving DecidableEq, Repr

def AttributionDimension.value : AttributionDimension → String
  | .sourceType => "source_type"
  | .chartStructure => "chart_structure"
  | .riskFlag => "risk_flag"
  | .exitReason => "exit_reason"

structure AttributionBucket where
  dimension : AttributionDimension
  key : String
  tradeCount : ℕ
  netPnl : Decimal
  winRate : Decimal
  expectancy : Decimal
  averageRMultiple : Decimal
  deriving DecidableEq, Repr

namespace AttributionBucket

def Valid (b : AttributionBucket) : Prop :=
  0 < b.tradeCount ∧ 0 ≤ b.winRate.toRat ∧ b.winRate.toRat ≤ 1

instance decidableValid (b : AttributionBucket) : Decidable b.Valid :=
  inferInstanceAs (Decidable (_ ∧ _))

def fields : List (String × (AttributionBucket → Json)) :=
  [("dimension", fun b => .str b.dimension.value), ("key", fun b => .str b.key),
    ("trade_count", fun b => natural b.tradeCount), ("net_pnl", fun b => decimal b.netPnl),
    ("win_rate", fun b => decimal b.winRate), ("expectancy", fun b => decimal b.expectancy),
    ("average_r_multiple", fun b => decimal b.averageRMultiple)]

/-- A bucket of what its trades are summed up to. -/
def ofSummary (dimension : AttributionDimension) (key : String) (s : TradeSummary) :
    AttributionBucket where
  dimension := dimension
  key := key
  tradeCount := s.tradeCount
  netPnl := s.netPnl
  winRate := s.winRate
  expectancy := s.expectancy
  averageRMultiple := s.averageR

end AttributionBucket

/-- The groups that a trade is appended to, in turn. -/
def attributionKeys (trade : TradeOutcome) : List (AttributionDimension × String) :=
  [(.sourceType, trade.sourceType.value), (.chartStructure, trade.chartStructure.value),
    (.exitReason, trade.exitReason.value)] ++
    trade.riskFlags.map fun flag => (.riskFlag, flag.value)

/-- `_attributions` -/
def attributions (trades : List TradeOutcome) : Result (List AttributionBucket) :=
  let groups := Dict.grouped attributionKeys trades
  (sortedBy (fun group => toLex (group.1.1.value, group.1.2)) groups.entries).mapM fun group => do
    let s ← summary group.2
    validated AttributionBucket.Valid (.validationError "AttributionBucket")
      (.ofSummary group.1.1 group.1.2 s)

/-! ### Sessions -/

structure SessionPerformance where
  analyticsId : String
  sessionId : String
  tradingDate : CalendarDate
  tradeCount : ℕ
  winningTradeCount : ℕ
  losingTradeCount : ℕ
  breakevenTradeCount : ℕ
  grossPnl : Decimal
  fees : Decimal
  netPnl : Decimal
  winRate : Decimal
  profitFactor : Option Decimal
  expectancy : Decimal
  averageWin : Decimal
  averageLoss : Decimal
  averageRMultiple : Decimal
  maximumDrawdown : Decimal
  totalEntrySlippage : Decimal
  averageEntrySlippageBps : Decimal
  attributions : List AttributionBucket
  evidenceHash : Hash
  analyticsHash : Hash

namespace SessionPerformance

def Valid (p : SessionPerformance) : Prop :=
  IsId 64 p.analyticsId ∧ IsId 64 p.sessionId ∧ 0 ≤ p.fees.toRat ∧
    (0 ≤ p.winRate.toRat ∧ p.winRate.toRat ≤ 1) ∧ 0 ≤ p.maximumDrawdown.toRat

instance decidableValid (p : SessionPerformance) : Decidable p.Valid :=
  inferInstanceAs (Decidable (_ ∧ _))

def fields : List (String × (SessionPerformance → Json)) :=
  [("analytics_id", fun p => .str p.analyticsId), ("session_id", fun p => .str p.sessionId),
    ("trading_date", fun p => .str p.tradingDate.isoformat),
    ("trade_count", fun p => natural p.tradeCount),
    ("winning_trade_count", fun p => natural p.winningTradeCount),
    ("losing_trade_count", fun p => natural p.losingTradeCount),
    ("breakeven_trade_count", fun p => natural p.breakevenTradeCount),
    ("gross_pnl", fun p => decimal p.grossPnl), ("fees", fun p => decimal p.fees),
    ("net_pnl", fun p => decimal p.netPnl), ("win_rate", fun p => decimal p.winRate),
    ("profit_factor", fun p => .optional decimal p.profitFactor),
    ("expectancy", fun p => decimal p.expectancy),
    ("average_win", fun p => decimal p.averageWin),
    ("average_loss", fun p => decimal p.averageLoss),
    ("average_r_multiple", fun p => decimal p.averageRMultiple),
    ("maximum_drawdown", fun p => decimal p.maximumDrawdown),
    ("total_entry_slippage", fun p => decimal p.totalEntrySlippage),
    ("average_entry_slippage_bps", fun p => decimal p.averageEntrySlippageBps),
    ("attributions", fun p => .arr (p.attributions.map (.record AttributionBucket.fields))),
    ("evidence_hash", fun p => hash p.evidenceHash),
    ("analytics_hash", fun p => hash p.analyticsHash)]

/-- What `analytics_hash` is taken of. -/
def body (p : SessionPerformance) : Json :=
  .record (Json.without ["analytics_id", "analytics_hash"] fields) p

end SessionPerformance

/-- `analyze_session`, with `sha256` the hash of canonical JSON. The id and the hash of the
draft are not in its body. -/
def analyzeSession (sha256 : Json → Hash) (evidence : SessionEvidence) :
    Result SessionPerformance := do
  let s ← summary evidence.trades
  let evidenceHash := sha256 evidence.json
  let buckets ← attributions evidence.trades
  let draft : SessionPerformance := {
    analyticsId := "", sessionId := evidence.sessionId, tradingDate := evidence.tradingDate
    tradeCount := s.tradeCount, winningTradeCount := s.wins, losingTradeCount := s.losses
    breakevenTradeCount := s.breakeven, grossPnl := s.grossPnl, fees := s.fees
    netPnl := s.netPnl, winRate := s.winRate, profitFactor := s.profitFactor
    expectancy := s.expectancy, averageWin := s.averageWin, averageLoss := s.averageLoss
    averageRMultiple := s.averageR, maximumDrawdown := s.maximumDrawdown
    totalEntrySlippage := s.totalSlippage, averageEntrySlippageBps := s.averageSlippageBps
    attributions := buckets, evidenceHash, analyticsHash := evidenceHash }
  let analyticsHash := sha256 draft.body
  validated SessionPerformance.Valid (.validationError "SessionPerformance")
    { draft with analyticsId := "AN-" ++ slicePrefix analyticsHash.1 20, analyticsHash }

/-! ### What is summed up -/

variable {trades : List TradeOutcome} {s : TradeSummary}

/-- The net result of a trade, in ten decimal places. -/
def netResult (trade : TradeOutcome) : ℚ :=
  match tradeMetrics trade with
  | .ok metrics => metrics.net.toRat
  | .error _ => 0

/-- Each sum of the net results of some of the trades is exact. -/
def SumsExact (trades : List TradeOutcome) : Prop :=
  ∀ group : List TradeOutcome, group.Sublist trades → Representable (group.map netResult).sum

theorem SumsExact.mono {group : List TradeOutcome} (h : SumsExact trades)
    (hGroup : group.Sublist trades) : SumsExact group := fun part hPart => h part (hPart.trans hGroup)

theorem SumsExact.exactSums (h : SumsExact trades) : Decimal.ExactSums (trades.map netResult) := by
  intro part hPart
  obtain ⟨group, hGroup, rfl⟩ := List.sublist_map_iff.mp hPart.sublist
  exact h group hGroup

theorem tradeMetrics_eq_ok {trade : TradeOutcome} {metrics : TradeMetrics}
    (h : tradeMetrics trade = .ok metrics) : metrics.net.toRat = netResult trade ∧
      Multiple ((10 : ℚ) ^ (-10 : ℤ)) metrics.net.toRat := by
  refine ⟨by rw [netResult, h], ?_⟩
  simp only [tradeMetrics, Result.bind_eq_ok, Result.pure_eq_ok] at h
  obtain ⟨_, -, _, -, gross, -, net, hNet, risk, -, r, -, slippage, -, bps, -, rfl⟩ := h
  exact Decimal.multiple_quantize (signals_eq_ok.mp hNet)

theorem map_net {metrics : List TradeMetrics} (h : trades.mapM tradeMetrics = .ok metrics) :
    (metrics.map (·.net)).map Decimal.toRat = trades.map netResult := by
  rw [List.map_map]
  exact Fallible.map_eq_of_mapM h fun trade answer hAnswer => (tradeMetrics_eq_ok hAnswer).1

theorem multiple_sum {q : ℚ} {values : List ℚ} (h : ∀ x ∈ values, Multiple q x) :
    Multiple q values.sum := by
  induction values with
  | nil => exact ⟨0, by simp⟩
  | cons x values ih =>
    obtain ⟨⟨m, hm⟩, hRest⟩ := List.forall_mem_cons.mp h
    obtain ⟨n, hn⟩ := ih hRest
    exact ⟨m + n, by rw [List.sum_cons, hm, hn]; push_cast; ring⟩

theorem multiple_netResults {metrics : List TradeMetrics}
    (h : trades.mapM tradeMetrics = .ok metrics) :
    ∀ x ∈ trades.map netResult, Multiple ((10 : ℚ) ^ (-10 : ℤ)) x := by
  rw [← map_net h, List.map_map]
  intro x hx
  obtain ⟨m, hm, rfl⟩ := List.mem_map.mp hx
  obtain ⟨trade, -, hTrade⟩ := Fallible.mapM_ok_mem h hm
  exact (tradeMetrics_eq_ok hTrade).2

/-- What has ten decimal places already is kept by rounding to them. -/
theorem toRat_quantized {d r : Decimal} (h : quantized d = .ok r)
    (hPlaces : Multiple ((10 : ℚ) ^ (-10 : ℤ)) d.toRat) : r.toRat = d.toRat := by
  rw [Decimal.toRat_quantize (signals_eq_ok.mp h)]
  exact roundTo_of_multiple _ (by positivity) hPlaces

/-- The count, the net result and the drawdown of trades whose sums are exact. -/
theorem summary_eq_ok (hExact : SumsExact trades) (h : summary trades = .ok s) :
    s.tradeCount = trades.length ∧ s.netPnl.toRat = (trades.map netResult).sum ∧
      IsLargestFall (trades.map netResult) s.maximumDrawdown.toRat := by
  simp only [summary, Result.bind_eq_ok, Result.pure_eq_ok] at h
  obtain ⟨metrics, hMetrics, gross, -, fees, -, net, hNet, rate, -, factor, -, expectancy, -, win, -,
    loss, -, r, -, slippage, -, bps, -, drawdown, hDrawdown, rfl⟩ := h
  have hValues : Decimal.ExactSums ((metrics.map (·.net)).map Decimal.toRat) := by
    rw [map_net hMetrics]
    exact hExact.exactSums
  have hPlaces := multiple_netResults hMetrics
  have hTotal := Decimal.toRat_total hValues
  have hFall := Decimal.isLargestFall_runningSum hValues
  rw [map_net hMetrics] at hTotal hFall
  refine ⟨rfl, ?_, ?_⟩
  · rw [toRat_quantized hNet, hTotal]
    exact hTotal ▸ multiple_sum hPlaces
  · rw [toRat_quantized hDrawdown]
    · exact hFall
    · -- a fall is a difference of two sums of multiples
      obtain ⟨i, j, hij, hj, hValue⟩ := hFall.1
      rw [hValue, partialSum_sub hij]
      obtain ⟨n, hn⟩ := multiple_sum fun x hx =>
        hPlaces x (List.mem_of_mem_take (List.mem_of_mem_drop hx))
      exact ⟨-n, by rw [hn]; push_cast; ring⟩

/-! ### What is attributed -/

variable {buckets : List AttributionBucket} {dimension : AttributionDimension}

/-- The trade is in the group of the key. -/
def TradeOutcome.Carries (trade : TradeOutcome) (dimension : AttributionDimension) (key : String) :
    Prop := (dimension, key) ∈ attributionKeys trade

instance decidableCarries (trade : TradeOutcome) (dimension : AttributionDimension) (key : String) :
    Decidable (trade.Carries dimension key) := inferInstanceAs (Decidable (_ ∈ _))

/-- The one key of a trade in a dimension; a trade can carry any number of risk flags. -/
def AttributionDimension.keyOf : AttributionDimension → TradeOutcome → String
  | .sourceType, trade => trade.sourceType.value
  | .chartStructure, trade => trade.chartStructure.value
  | .exitReason, trade => trade.exitReason.value
  | .riskFlag, _ => ""

theorem carries_iff (hOne : dimension ≠ .riskFlag) {trade : TradeOutcome} {key : String} :
    trade.Carries dimension key ↔ dimension.keyOf trade = key := by
  unfold TradeOutcome.Carries attributionKeys
  cases dimension with
  | sourceType => simp [AttributionDimension.keyOf, eq_comm]
  | chartStructure => simp [AttributionDimension.keyOf, eq_comm]
  | exitReason => simp [AttributionDimension.keyOf, eq_comm]
  | riskFlag => exact absurd rfl hOne

theorem carries_riskFlag {trade : TradeOutcome} {flag : RiskFlag} :
    trade.Carries .riskFlag flag.value ↔ flag ∈ trade.riskFlags := by
  simp only [TradeOutcome.Carries, attributionKeys, List.mem_append, List.mem_cons, Prod.mk.injEq,
    reduceCtorEq, false_and, List.not_mem_nil, or_self, false_or, List.mem_map, true_and]
  constructor
  · rintro ⟨other, hOther, hSame⟩
    rwa [← RiskFlag.value_injective hSame]
  · intro hFlag
    exact ⟨flag, hFlag, rfl⟩

theorem nodup_attributionKeys (trade : TradeOutcome) : (attributionKeys trade).Nodup := by
  have hFlags : trade.riskFlags.Nodup := trade.valid.2.1.1
  have hKeys : (trade.riskFlags.map fun flag => (AttributionDimension.riskFlag, flag.value)).Nodup :=
    hFlags.map fun a b hSame => RiskFlag.value_injective (Prod.mk.inj hSame).2
  simp [attributionKeys, hKeys]

/-- A bucket for each group, in the order of the keys. -/
theorem attributions_eq_ok (h : attributions trades = .ok buckets) :
    ∃ groups, groups.Perm (Dict.grouped attributionKeys trades).entries ∧
      List.Forall₂ (fun group bucket => ∃ s, summary group.2 = .ok s ∧
        bucket = .ofSummary group.1.1 group.1.2 s) groups buckets := by
  refine ⟨_, sortedBy_perm _ _, (Fallible.mapM_eq_ok.mp h).imp fun group bucket hBucket => ?_⟩
  obtain ⟨s, hSummary, hValid⟩ := Result.bind_eq_ok.mp hBucket
  exact ⟨s, hSummary, (validated_eq_ok.mp hValid).1⟩

/-- The group of a bucket is the trades that carry its key. -/
theorem mem_attributions (h : attributions trades = .ok buckets) {bucket : AttributionBucket}
    (hBucket : bucket ∈ buckets) :
    ∃ s, summary (trades.filter fun trade => trade.Carries bucket.dimension bucket.key) = .ok s ∧
      bucket = .ofSummary bucket.dimension bucket.key s := by
  obtain ⟨group, hMem, hOk⟩ := Fallible.mapM_ok_mem h hBucket
  obtain ⟨s, hSummary, hValid⟩ := Result.bind_eq_ok.mp hOk
  obtain ⟨rfl, -⟩ := validated_eq_ok.mp hValid
  obtain ⟨-, hMembers⟩ := (Dict.mem_entries_grouped fun trade _ => nodup_attributionKeys trade).mp
    (mem_sortedBy.mp hMem)
  have hGroup : group.2 = trades.filter fun trade => trade.Carries group.1.1 group.1.2 :=
    hMembers.trans (List.filter_congr fun trade _ => decide_eq_decide.mpr Iff.rfl)
  rw [hGroup] at hSummary
  exact ⟨s, hSummary, rfl⟩

/-- A key that a trade carries has one bucket. -/
theorem existsUnique_bucket (h : attributions trades = .ok buckets) {trade : TradeOutcome}
    (hTrade : trade ∈ trades) {key : String} (hKey : trade.Carries dimension key) :
    ∃! bucket, bucket ∈ buckets ∧ bucket.dimension = dimension ∧ bucket.key = key := by
  obtain ⟨groups, hPerm, hBuckets⟩ := attributions_eq_ok h
  have hKeys : buckets.map (fun bucket => (bucket.dimension, bucket.key)) = groups.map (·.1) := by
    clear h hPerm
    induction hBuckets with
    | nil => rfl
    | cons hFirst _ ih =>
      obtain ⟨s, -, rfl⟩ := hFirst
      rw [List.map_cons, List.map_cons, ih]
      rfl
  have hNodup : (buckets.map fun bucket => (bucket.dimension, bucket.key)).Nodup := by
    rw [hKeys]
    exact (hPerm.map _).nodup_iff.mpr (Dict.grouped attributionKeys trades).nodupKeys
  have hEntry := (Dict.mem_entries_grouped (fun trade _ => nodup_attributionKeys trade)).mpr
    ⟨⟨trade, hTrade, hKey⟩, rfl⟩
  have hMem : (dimension, key) ∈ buckets.map fun bucket => (bucket.dimension, bucket.key) := by
    rw [hKeys]
    exact List.mem_map.mpr ⟨_, hPerm.mem_iff.mpr hEntry, rfl⟩
  obtain ⟨bucket, hBucket, hSame⟩ := List.mem_map.mp hMem
  refine ⟨bucket, ⟨hBucket, (Prod.mk.inj hSame).1, (Prod.mk.inj hSame).2⟩, ?_⟩
  rintro other ⟨hOther, rfl, rfl⟩
  exact List.inj_on_of_nodup_map hNodup hOther hBucket hSame.symm

/-- What the buckets of a dimension have is what their groups do. -/
theorem map_buckets {γ : Type*}
    {groups : List ((_ : AttributionDimension × String) × List TradeOutcome)}
    {f : AttributionBucket → γ} (g : List TradeOutcome → γ)
    (hBuckets : List.Forall₂ (fun group bucket => bucket.dimension = group.1.1 ∧
      f bucket = g group.2) groups buckets) :
    (buckets.filter fun bucket => bucket.dimension = dimension).map f =
      (groups.filter fun group => group.1.1 = dimension).map fun group => g group.2 := by
  induction hBuckets with
  | nil => rfl
  | cons hFirst _ ih =>
    obtain ⟨hDimension, hValue⟩ := hFirst
    rw [List.filter_cons, List.filter_cons, hDimension]
    split_ifs with h
    · rw [List.map_cons, List.map_cons, ih, hValue]
    · exact ih

/-- Over the buckets of a dimension in which each trade has one key, what each group sums to sums
to what the trades do. -/
theorem sum_buckets {γ : Type*} [AddCommMonoid γ] (h : attributions trades = .ok buckets)
    (hOne : dimension ≠ .riskFlag) {f : AttributionBucket → γ} {g : TradeOutcome → γ}
    (hValue : ∀ dimension key group s, group.Sublist trades → summary group = .ok s →
      f (.ofSummary dimension key s) = (group.map g).sum) :
    ((buckets.filter fun bucket => bucket.dimension = dimension).map f).sum = (trades.map g).sum := by
  obtain ⟨groups, hPerm, hBuckets⟩ := attributions_eq_ok h
  have hKeys : ∀ trade ∈ trades, (attributionKeys trade).Nodup :=
    fun trade _ => nodup_attributionKeys trade
  have hGroups : ∀ group ∈ groups, group.2.Sublist trades := by
    intro group hGroup
    rw [((Dict.mem_entries_grouped hKeys).mp (hPerm.mem_iff.mp hGroup)).2]
    exact List.filter_sublist
  have hValues : List.Forall₂ (fun group bucket => bucket.dimension = group.1.1 ∧
      f bucket = (group.2.map g).sum) groups buckets := by
    clear h hPerm
    induction hBuckets with
    | nil => exact .nil
    | cons hFirst _ ih =>
      obtain ⟨hGroup, hRest⟩ := List.forall_mem_cons.mp hGroups
      obtain ⟨s, hSummary, rfl⟩ := hFirst
      exact .cons ⟨rfl, hValue _ _ _ _ hGroup hSummary⟩ (ih hRest)
  rw [map_buckets (fun group => (group.map g).sum) hValues,
    ((hPerm.filter _).map _).sum_eq]
  refine Dict.sum_map_grouped hKeys (fun key => key.1 = dimension)
    (fun trade => (dimension, dimension.keyOf trade)) (fun _ _ => rfl) (fun trade _ key hKind => ?_) g
  obtain ⟨_, key⟩ := key
  obtain rfl := hKind
  exact (carries_iff hOne).trans (by simp)

/-- The drawdown and the attribution of a session are those of the net results of its trades. -/
structure Accounts (trades : List TradeOutcome) (performance : SessionPerformance) : Prop where
  tradeCount : performance.tradeCount = trades.length
  netPnl : performance.netPnl.toRat = (trades.map netResult).sum
  drawdown : IsLargestFall (trades.map netResult) performance.maximumDrawdown.toRat
  counts : ∀ dimension ≠ .riskFlag, ((performance.attributions.filter fun bucket =>
    bucket.dimension = dimension).map (·.tradeCount)).sum = performance.tradeCount
  netResults : ∀ dimension ≠ .riskFlag, ((performance.attributions.filter fun bucket =>
    bucket.dimension = dimension).map (·.netPnl.toRat)).sum = performance.netPnl.toRat
  oneBucket : ∀ dimension ≠ .riskFlag, ∀ trade ∈ trades, ∃! bucket,
    bucket ∈ performance.attributions ∧ bucket.dimension = dimension ∧
      trade.Carries dimension bucket.key
  flagBucket : ∀ trade ∈ trades, ∀ flag ∈ trade.riskFlags, ∃! bucket,
    bucket ∈ performance.attributions ∧ bucket.dimension = .riskFlag ∧ bucket.key = flag.value
  contents : ∀ bucket ∈ performance.attributions, ∃ s,
    summary (trades.filter fun trade => trade.Carries bucket.dimension bucket.key) = .ok s ∧
      bucket = .ofSummary bucket.dimension bucket.key s ∧
      bucket.tradeCount =
        (trades.filter fun trade => trade.Carries bucket.dimension bucket.key).length ∧
      bucket.netPnl.toRat =
        ((trades.filter fun trade => trade.Carries bucket.dimension bucket.key).map netResult).sum

/-- What is reported of a session whose sums are exact accounts for its trades. -/
theorem analyzeSession_accounts (sha256 : Json → Hash) (evidence : SessionEvidence)
    (hExact : SumsExact evidence.trades) {performance : SessionPerformance}
    (h : analyzeSession sha256 evidence = .ok performance) :
    Accounts evidence.trades performance := by
  simp only [analyzeSession, Result.bind_eq_ok] at h
  obtain ⟨s, hSummary, buckets, hBuckets, hValid⟩ := h
  obtain ⟨rfl, -⟩ := validated_eq_ok.mp hValid
  obtain ⟨hCount, hNet, hFall⟩ := summary_eq_ok hExact hSummary
  constructor
  case tradeCount => exact hCount
  case netPnl => exact hNet
  case drawdown => exact hFall
  case counts =>
    intro dimension hOne
    refine (sum_buckets hBuckets hOne (g := fun _ => 1) ?_).trans ?_
    · intro _ _ group s' hGroup hSummary'
      simpa [AttributionBucket.ofSummary] using (summary_eq_ok (hExact.mono hGroup) hSummary').1
    · simpa using hCount.symm
  case netResults =>
    intro dimension hOne
    refine (sum_buckets hBuckets hOne (g := netResult) ?_).trans hNet.symm
    intro _ _ group s' hGroup hSummary'
    exact (summary_eq_ok (hExact.mono hGroup) hSummary').2.1
  case oneBucket =>
    intro dimension hOne trade hTrade
    have hBucket := existsUnique_bucket hBuckets hTrade ((carries_iff hOne).mpr rfl)
    simpa only [carries_iff hOne, eq_comm] using hBucket
  case flagBucket =>
    intro trade hTrade flag hFlag
    exact existsUnique_bucket hBuckets hTrade (carries_riskFlag.mpr hFlag)
  case contents =>
    intro bucket hBucket
    obtain ⟨s', hSummary', hSame⟩ := mem_attributions hBuckets hBucket
    obtain ⟨hCount', hNet', -⟩ := summary_eq_ok (hExact.mono List.filter_sublist) hSummary'
    refine ⟨s', hSummary', hSame, ?_, ?_⟩
    · exact (congrArg AttributionBucket.tradeCount hSame).trans hCount'
    · exact (congrArg (fun b : AttributionBucket => b.netPnl.toRat) hSame).trans hNet'

/-- Net results of less than `10 ^ 18` together have exact sums. -/
theorem sumsExact_of_lt
    (hMetrics : ∀ trade ∈ trades, ∃ metrics, tradeMetrics trade = .ok metrics)
    (hLarge : (trades.map fun trade => |netResult trade|).sum < 10 ^ 18) : SumsExact trades := by
  intro group hGroup
  have hPlaces : ∀ x ∈ group.map netResult, Multiple ((10 : ℚ) ^ (-10 : ℤ)) x := by
    intro x hx
    obtain ⟨trade, hTrade, rfl⟩ := List.mem_map.mp hx
    obtain ⟨metrics, hOk⟩ := hMetrics trade (hGroup.subset hTrade)
    obtain ⟨hNet, hMultiple⟩ := tradeMetrics_eq_ok hOk
    exact hNet ▸ hMultiple
  obtain ⟨n, hn⟩ := multiple_sum hPlaces
  have hAbs : |(group.map netResult).sum| ≤ (group.map fun trade => |netResult trade|).sum := by
    clear hPlaces hn hGroup
    induction group with
    | nil => simp
    | cons trade group ih =>
      simp only [List.map_cons, List.sum_cons]
      exact (abs_add_le _ _).trans (add_le_add_right ih _)
  have hMore : (group.map fun trade => |netResult trade|).sum ≤
      (trades.map fun trade => |netResult trade|).sum := by
    refine (hGroup.map _).sum_le_sum fun x hx => ?_
    obtain ⟨trade, -, rfl⟩ := List.mem_map.mp hx
    exact abs_nonneg _
  have hBound := (hAbs.trans hMore).trans_lt hLarge
  refine ⟨n, -10, ?_, hn⟩
  rw [hn, abs_mul, abs_of_pos (by positivity : (0 : ℚ) < 10 ^ (-10 : ℤ)), zpow_neg,
    mul_inv_lt_iff₀ (by positivity)] at hBound
  have hDigits : |n| < 10 ^ 28 := by
    have hCast : ((|n| : ℤ) : ℚ) < 10 ^ 28 := by
      push_cast
      refine hBound.trans_le ?_
      norm_num
    exact_mod_cast hCast
  have hPrec : Decimal.prec = 28 := rfl
  rw [Int.abs_eq_natAbs] at hDigits
  rw [hPrec]
  exact_mod_cast hDigits

/-! ### A session with a win and a loss -/

theorem year_2026_le : 2026 ≤ 9999 := by decide

theorem august_le : 8 ≤ 12 := by decide

theorem eight_pm_lt : 20 < 24 := by decide

theorem minute_zero_lt : 0 < 60 := by decide

theorem microsecond_zero_lt : 0 < 1000000 := by decide

def sampleDate : CalendarDate := ⟨⟨2026, 8, 3⟩, year_2026_le, august_le, by decide⟩

/-- A minute of the day. -/
def sampleMinute (hour minute : ℕ) (hHour : hour < 24 := by decide)
    (hMinute : minute < 60 := by decide) : UtcDatetime :=
  ⟨sampleDate, hour, minute, 0, 0, hHour, hMinute, minute_zero_lt, microsecond_zero_lt⟩

def winningFields : TradeFields where
  tradeId := "TRADE-001"
  sessionId := "SESSION-2026-08-03"
  ticker := "EXMP"
  finalRank := 1
  quantity := 10
  entryTimestamp := sampleMinute 13 31
  exitTimestamp := sampleMinute 13 45
  plannedEntryPrice := .literal 1000 (-2)
  averageEntryPrice := .literal 1005 (-2)
  plannedStopPrice := .literal 900 (-2)
  plannedTargetPrice := .literal 1200 (-2)
  averageExitPrice := .literal 1200 (-2)
  fees := .literal 10 (-2)
  sourceType := .primary
  chartStructure := .blueSky
  exitReason := .target

theorem winningFields_valid : winningFields.Valid := by decide +kernel

def losingFields : TradeFields where
  tradeId := "TRADE-002"
  sessionId := "SESSION-2026-08-03"
  ticker := "EXMP"
  finalRank := 1
  quantity := 10
  entryTimestamp := sampleMinute 14 0 (by decide) minute_zero_lt
  exitTimestamp := sampleMinute 14 10
  plannedEntryPrice := .literal 1000 (-2)
  averageEntryPrice := .literal 1005 (-2)
  plannedStopPrice := .literal 900 (-2)
  plannedTargetPrice := .literal 1200 (-2)
  averageExitPrice := .literal 900 (-2)
  fees := .literal 10 (-2)
  sourceType := .secondary
  chartStructure := .blueSky
  riskFlags := [.lowFloat]
  exitReason := .stop

theorem losingFields_valid : losingFields.Valid := by decide +kernel

def noHash : Hash := ⟨"0000000000000000000000000000000000000000000000000000000000000000", by decide⟩

def sampleFields : SessionFields where
  sessionId := "SESSION-2026-08-03"
  tradingDate := sampleDate
  generatedAt := sampleMinute 20 0 eight_pm_lt minute_zero_lt
  configurationHash := noHash
  fullSessionRecorded := true
  rawEventCount := 10
  evaluatorRunCount := 1
  approvedSetupCount := 2
  qualifiedNotSelectedCount := 0
  excludedTickerCount := 0
  ordersSubmitted := 2
  ordersFilled := 2
  invariantViolations := 0
  unresolvedReconciliations := 0
  duplicateOrderCount := 0
  latePrimaryResponseCount := 0
  allPositionsFlat := true
  killSwitchActivationCount := 0
  trades := [⟨winningFields, winningFields_valid⟩, ⟨losingFields, losingFields_valid⟩]

theorem sampleFields_valid : sampleFields.Valid := by decide +kernel

def sampleSession : SessionEvidence := ⟨sampleFields, sampleFields_valid⟩

/-- SHA-256 as it is for the evidence and for its performance. -/
theorem isHash_session :
    isHash "d7de12414d2cedaf9deba62a21952ef910d7419ba71a86d2c3ef6c71d6ea5f32" = true := by decide

theorem isHash_performance :
    isHash "817443d9abef03c52db28ee2bc8cd7981786e6810fa12622a09933f1e639393b" = true := by decide

def sampleSha256 (json : Json) : Hash :=
  if json = sampleSession.json then
    ⟨"d7de12414d2cedaf9deba62a21952ef910d7419ba71a86d2c3ef6c71d6ea5f32", isHash_session⟩
  else ⟨"817443d9abef03c52db28ee2bc8cd7981786e6810fa12622a09933f1e639393b", isHash_performance⟩

theorem sampleSession_accounts : ∃ performance,
    analyzeSession sampleSha256 sampleSession = .ok performance ∧
      Accounts sampleSession.trades performance := by
  have hMetrics : ∀ trade ∈ sampleSession.trades,
      ∃ metrics, tradeMetrics trade = .ok metrics ∧ True := by
    decide +kernel
  have hLarge : (sampleSession.trades.map fun trade => |netResult trade|).sum < 10 ^ 18 := by
    decide +kernel
  obtain ⟨performance, hOk, -⟩ :
      ∃ performance, analyzeSession sampleSha256 sampleSession = .ok performance ∧ True := by
    decide +kernel
  exact ⟨performance, hOk,
    analyzeSession_accounts _ _ (sumsExact_of_lt
      (fun trade hTrade => (hMetrics trade hTrade).imp fun _ h => h.1) hLarge) hOk⟩

end Daybreak.Analytics
