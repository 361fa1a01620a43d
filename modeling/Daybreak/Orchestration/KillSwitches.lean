import Daybreak.Contracts.StoredModels
import Daybreak.Orchestration.Session
import Mathlib.Data.List.Induction
import Mathlib.Data.List.Nodup

/-! The kill-switch states that are stored, in memory and in PostgreSQL. Both stores keep
one entry for each hash, where it was first saved, so a state that is saved again does
not become the latest. -/

namespace Daybreak.Orchestration

open Serial Contracts

/-! ### States with their hashes -/

/-- Sixty-four hexadecimal digits. -/
def isDigest (text : String) : Bool :=
  text.length = 64 && text.toList.all fun c => "0123456789abcdef".toList.contains c

structure HashedState extends KillSwitchState where
  stateHash : String
  digest : isDigest stateHash = true
  deriving DecidableEq

/-- The fields of a state, with the texts that its time is written as. -/
def HashedState.fields (isoformat : Timestamp → String) (state : HashedState) :
    List (String × PyValue) :=
  killSwitchFields state.sessionId state.active
    ((state.activatedAt.map fun at_ => PyValue.datetime (isoformat at_)).getD .none)
    ((state.reason.map fun reason => PyValue.enum reason.value).getD .none)
    state.details state.resetRequired state.stateHash

/-- `KillSwitchState`, with the pattern of its hash. -/
def switchModel : StrictModel :=
  StoredModel.killSwitchState.model fun _ x =>
    match x.lookup "state_hash" with
    | some (.str stateHash) => isDigest stateHash
    | _ => false

theorem HashedState.instance_fields (isoformat : Timestamp → String) (state : HashedState) :
    switchModel.Instance (state.fields isoformat) := by
  obtain ⟨⟨⟨sessionId, active, activatedAt, reason, details, resetRequired⟩, hCoherent⟩, stateHash,
    hDigest⟩ := state
  obtain ⟨hActive, hInactive, hReset⟩ := hCoherent
  refine Option.filter_eq_some_iff.mpr ⟨?_, ?_⟩
  · cases active <;> cases activatedAt <;> cases reason <;> rfl
  · cases active with
    | true =>
      obtain ⟨hAt, hReason⟩ := hActive rfl
      obtain ⟨activatedAt, rfl⟩ := Option.isSome_iff_exists.mp hAt
      obtain ⟨reason, rfl⟩ := Option.isSome_iff_exists.mp hReason
      obtain rfl : resetRequired = true := hReset rfl
      exact Bool.and_eq_true_iff.mpr ⟨hDigest, rfl⟩
    | false =>
      obtain ⟨rfl, rfl⟩ := hInactive (by simp)
      exact Bool.and_eq_true_iff.mpr ⟨hDigest, rfl⟩

theorem HashedState.readBack_iff (isoformat : Timestamp → String) (state : HashedState) :
    switchModel.readBack (state.fields isoformat) = some (.model (state.fields isoformat)) ↔
      state.active = false ∧ NativeEntries state.details := by
  have hInstance := state.instance_fields isoformat
  unfold HashedState.fields at hInstance ⊢
  cases hActive : state.active with
  | true =>
    rw [hActive] at hInstance
    rw [switchModel, readBack_active hInstance]
    simp
  | false =>
    rw [hActive] at hInstance
    rw [switchModel, readBack_inactive_iff hInstance]
    exact (and_iff_right rfl).symm

/-! ### In memory -/

/-- The dictionary of the states by their hashes, in the order of insertion. -/
abbrev MemoryKillSwitches := List (String × HashedState)

namespace MemoryKillSwitches

/-- `save_kill_switch` -/
def save (state : HashedState) (switches : MemoryKillSwitches) :
    Except Exc Unit × MemoryKillSwitches :=
  match switches.lookup state.stateHash with
  | some existing =>
    if existing ≠ state then (.error (.runtimeError "kill-switch state collision"), switches)
    else (.ok (), setItem switches state.stateHash state)
  | none => (.ok (), setItem switches state.stateHash state)

/-- `get_latest_kill_switch` -/
def latest (sessionId : String) (switches : MemoryKillSwitches) : Option HashedState :=
  ((switches.map (·.2)).filter (·.sessionId = sessionId)).getLast?

/-- The states are stored under their hashes, each hash once. -/
structure Keyed (switches : MemoryKillSwitches) : Prop where
  hash : ∀ entry ∈ switches, entry.1 = entry.2.stateHash
  nodup : (switches.map (·.1)).Nodup

variable {switches : MemoryKillSwitches} {state : HashedState}

theorem Keyed.lookup (h : switches.Keyed) {entry : String × HashedState} (hEntry : entry ∈ switches)
    (hLookup : switches.lookup entry.1 = some state) : entry.2 = state := by
  have hNodup := h.nodup
  clear h
  induction switches with
  | nil => cases hEntry
  | cons first rest ih =>
    obtain ⟨hFirst, hRest⟩ := List.nodup_cons.mp hNodup
    rw [List.lookup_cons] at hLookup
    rcases List.mem_cons.mp hEntry with rfl | hEntry
    · rw [beq_self_eq_true] at hLookup
      exact Option.some.inj hLookup
    · have hOther : (entry.1 == first.1) = false := by
        rw [beq_eq_false_iff_ne]
        exact fun hSame => hFirst (List.mem_map.mpr ⟨entry, hEntry, hSame⟩)
      rw [hOther] at hLookup
      exact ih hEntry hLookup hRest

/-- A save refuses a collision, keeps a state that is stored, or adds a new one at the
end. -/
theorem Keyed.save_cases (h : switches.Keyed) (state : HashedState) :
    (∃ existing, switches.lookup state.stateHash = some existing ∧ existing ≠ state ∧
      switches.save state = (.error (.runtimeError "kill-switch state collision"), switches)) ∨
    (state ∈ switches.map (·.2) ∧ switches.save state = (.ok (), switches)) ∨
    (state.stateHash ∉ switches.map (·.1) ∧
      switches.save state = (.ok (), switches ++ [(state.stateHash, state)])) := by
  unfold save
  cases hLookup : switches.lookup state.stateHash with
  | none =>
    have hNew : ∀ entry ∈ switches, entry.1 ≠ state.stateHash := by
      intro entry hEntry hSame
      have hNone := List.lookup_eq_none_iff.mp hLookup entry hEntry
      simp [hSame] at hNone
    refine .inr (.inr ⟨?_, ?_⟩)
    · intro hKey
      obtain ⟨entry, hEntry, hSame⟩ := List.mem_map.mp hKey
      exact hNew entry hEntry hSame
    · rw [setItem, if_neg]
      simpa using fun value hEntry => hNew (state.stateHash, value) hEntry rfl
  | some existing =>
    by_cases hSame : existing = state
    · subst hSame
      obtain ⟨before, after, hSplit, -⟩ := List.lookup_eq_some_iff.mp hLookup
      have hEntry : (existing.stateHash, existing) ∈ switches := by
        rw [hSplit]
        exact List.mem_append_right _ (List.mem_cons_self ..)
      refine .inr (.inl ⟨List.mem_map_of_mem hEntry, ?_⟩)
      simp only [ne_eq, not_true_eq_false, if_false]
      rw [setItem, if_pos]
      · have hKept : ∀ entry ∈ switches,
            (if entry.1 = existing.stateHash then (existing.stateHash, existing) else entry) =
              entry := by
          intro entry hMem
          split_ifs with hKey
          · rw [← hKey] at hLookup
            exact Prod.ext hKey.symm (h.lookup hMem hLookup).symm
          · rfl
        rw [List.map_congr_left hKept, List.map_id']
      · exact List.any_eq_true.mpr ⟨_, hEntry, by simp⟩
    · exact .inl ⟨existing, rfl, hSame, by simp [hSame]⟩

theorem Keyed.save (h : switches.Keyed) (state : HashedState) :
    (switches.save state).2.Keyed := by
  rcases h.save_cases state with ⟨_, -, -, hSave⟩ | ⟨-, hSave⟩ | ⟨hNew, hSave⟩
  · rwa [hSave]
  · rwa [hSave]
  · rw [hSave]
    constructor
    · intro entry hEntry
      rcases List.mem_append.mp hEntry with hOld | hLast
      · exact h.hash entry hOld
      · rw [List.mem_singleton.mp hLast]
    · rw [List.map_append]
      exact h.nodup.append (List.nodup_singleton _) (by simpa using hNew)

/-- The store after these saves; one that is refused changes nothing. -/
def saveAll (states : List HashedState) : MemoryKillSwitches :=
  states.foldl (fun switches state => (switches.save state).2) []

end MemoryKillSwitches

/-! ### In PostgreSQL -/

/-- The columns that a query reads; the others repeat the state. -/
structure SwitchRow where
  stateHash : String
  sessionId : String
  createdAt : Timestamp
  stateJson : Json

abbrev PostgresKillSwitches := List SwitchRow

namespace PostgresKillSwitches

/-- `save_kill_switch` at a moment; a hash that is there already is not inserted again. -/
def save (isoformat : Timestamp → String) (now : Timestamp) (state : HashedState)
    (rows : PostgresKillSwitches) : Except Exc Unit × PostgresKillSwitches :=
  match (PyValue.model (state.fields isoformat)).dump with
  | none => (.error (.other "PydanticSerializationError" "KillSwitchState"), rows)
  | some json =>
    if rows.any (·.stateHash = state.stateHash) then (.ok (), rows)
    else (.ok (), rows ++ [⟨state.stateHash, state.sessionId, now, json⟩])

/-- `ORDER BY created_at DESC, state_hash DESC` -/
def Precedes (a b : SwitchRow) : Prop :=
  b.createdAt < a.createdAt ∨ a.createdAt = b.createdAt ∧ b.stateHash < a.stateHash

instance (a b : SwitchRow) : Decidable (Precedes a b) := by unfold Precedes; infer_instance

/-- `LIMIT 1` -/
def first : List SwitchRow → Option SwitchRow
  | [] => none
  | row :: rows =>
    match first rows with
    | none => some row
    | some best => if Precedes row best then some row else some best

/-- `get_latest_kill_switch` -/
def latest (sessionId : String) (rows : PostgresKillSwitches) : Except Exc (Option PyValue) :=
  match first (rows.filter (·.sessionId = sessionId)) with
  | none => .ok none
  | some row =>
    match switchModel.modelValidate row.stateJson.load with
    | none => .error (validationError "KillSwitchState")
    | some state => .ok (some state)

def saveAll (isoformat : Timestamp → String) (saves : List (Timestamp × HashedState)) :
    PostgresKillSwitches :=
  saves.foldl (fun rows saved => (save isoformat saved.1 saved.2 rows).2) []

end PostgresKillSwitches

/-! ### What is the latest -/

variable {states : List HashedState} {state last : HashedState}

theorem eraseDups_concat (states : List HashedState) (state : HashedState) :
    (states ++ [state]).eraseDups =
      if state ∈ states then states.eraseDups else states.eraseDups ++ [state] := by
  rw [List.eraseDups_append]
  split_ifs with hKnown
  · simp [List.removeAll, hKnown]
  · simp [List.removeAll, hKnown, List.eraseDups_cons]

/-- A state is the last of the distinct ones when no other was first saved after it. -/
theorem getLast?_eraseDups_iff (hLast : last ∈ states) :
    states.eraseDups.getLast? = some last ↔
      ∀ state ∈ states, states.idxOf state ≤ states.idxOf last := by
  induction states using List.reverseRecOn with
  | nil => cases hLast
  | append_singleton states newest ih =>
    rw [eraseDups_concat]
    by_cases hKnown : newest ∈ states
    · rw [if_pos hKnown]
      have hMem : ∀ state, state ∈ states ++ [newest] ↔ state ∈ states := by
        intro state
        rw [List.mem_append, List.mem_singleton]
        refine ⟨?_, .inl⟩
        rintro (hOld | rfl)
        · exact hOld
        · exact hKnown
      have hOld := (hMem last).mp hLast
      rw [ih hOld]
      refine forall_congr' fun state => ?_
      rw [hMem state]
      refine forall_congr' fun hState => ?_
      rw [List.idxOf_append_of_mem hState, List.idxOf_append_of_mem hOld]
    · rw [if_neg hKnown, List.getLast?_concat, Option.some.injEq]
      have hNewest : (states ++ [newest]).idxOf newest = states.length := by
        rw [List.idxOf_append_of_notMem hKnown]
        simp
      constructor
      · rintro rfl state hState
        rw [hNewest]
        rcases List.mem_append.mp hState with hOld | hSame
        · rw [List.idxOf_append_of_mem hOld]
          exact (List.idxOf_lt_length_of_mem hOld).le
        · rw [List.mem_singleton.mp hSame, hNewest]
      · intro hFirst
        rcases List.mem_append.mp hLast with hOld | hSame
        · have hAfter := hFirst newest (List.mem_append_right _ (List.mem_singleton_self _))
          rw [hNewest, List.idxOf_append_of_mem hOld] at hAfter
          exact absurd (List.idxOf_lt_length_of_mem hOld) (not_lt.mpr hAfter)
        · exact (List.mem_singleton.mp hSame).symm

theorem filter_concat (p : HashedState → Bool) (states : List HashedState)
    (state : HashedState) :
    (states ++ [state]).filter p =
      if p state = true then states.filter p ++ [state] else states.filter p := by
  rw [List.filter_append]
  split_ifs with hKept
  · rw [List.filter_cons_of_pos hKept, List.filter_nil]
  · rw [List.filter_cons_of_neg hKept, List.filter_nil, List.append_nil]

theorem eraseDups_filter (p : HashedState → Bool) (states : List HashedState) :
    (states.filter p).eraseDups = states.eraseDups.filter p := by
  induction states using List.reverseRecOn with
  | nil => rfl
  | append_singleton states newest ih =>
    rw [eraseDups_concat, filter_concat]
    by_cases hKept : p newest = true
    · rw [if_pos hKept, eraseDups_concat]
      by_cases hKnown : newest ∈ states
      · rw [if_pos hKnown, if_pos (List.mem_filter.mpr ⟨hKnown, hKept⟩), ih]
      · rw [if_neg hKnown, if_neg fun h => hKnown (List.mem_filter.mp h).1, ih, filter_concat,
          if_pos hKept]
    · rw [if_neg hKept, ih]
      split_ifs
      · rfl
      · rw [filter_concat, if_neg hKept]

/-- Different states have different hashes. -/
def Distinguished (states : List HashedState) : Prop :=
  ∀ a ∈ states, ∀ b ∈ states, a.stateHash = b.stateHash → a = b

instance (states : List HashedState) : Decidable (Distinguished states) := by
  unfold Distinguished; infer_instance

theorem Distinguished.of_append (h : Distinguished (states ++ [state])) : Distinguished states :=
  fun a ha b hb => h a (List.mem_append_left _ ha) b (List.mem_append_left _ hb)

namespace MemoryKillSwitches

/-- The store has the distinct states, in the order of their first saves. -/
theorem saveAll_states (hHash : Distinguished states) :
    (saveAll states).Keyed ∧ (saveAll states).map (·.2) = states.eraseDups := by
  induction states using List.reverseRecOn with
  | nil => exact ⟨⟨by simp [saveAll], by simp [saveAll]⟩, rfl⟩
  | append_singleton states newest ih =>
    obtain ⟨hKeyed, hStates⟩ := ih hHash.of_append
    have hMem : ∀ state, state ∈ (saveAll states).map (·.2) ↔ state ∈ states := by
      intro state
      rw [hStates, List.mem_eraseDups]
    have hStep : saveAll (states ++ [newest]) = ((saveAll states).save newest).2 := by
      rw [saveAll, List.foldl_concat]
      rfl
    have hNext := hKeyed.save newest
    rw [hStep, eraseDups_concat]
    refine ⟨hNext, ?_⟩
    rcases hKeyed.save_cases newest with
      ⟨existing, hLookup, hOther, -⟩ | ⟨hKnown, hSave⟩ | ⟨hNew, hSave⟩
    · obtain ⟨before, after, hSplit, -⟩ := List.lookup_eq_some_iff.mp hLookup
      have hEntry : (newest.stateHash, existing) ∈ saveAll states := by
        rw [hSplit]
        exact List.mem_append_right _ (List.mem_cons_self ..)
      have hExisting := (hMem existing).mp (List.mem_map_of_mem hEntry)
      refine absurd ?_ hOther
      exact hHash existing (List.mem_append_left _ hExisting) newest
        (List.mem_append_right _ (List.mem_singleton_self _)) (hKeyed.hash _ hEntry).symm
    · rw [hSave, if_pos ((hMem newest).mp hKnown), hStates]
    · have hUnknown : newest ∉ states := by
        intro hOld
        obtain ⟨entry, hEntry, rfl⟩ := List.mem_map.mp ((hMem newest).mpr hOld)
        exact hNew (List.mem_map.mpr ⟨entry, hEntry, hKeyed.hash entry hEntry⟩)
      rw [hSave, if_neg hUnknown, List.map_append, hStates]
      rfl

/-- The latest state of the one session that is saved. -/
theorem latest_saveAll_iff {sessionId : String} (hHash : Distinguished states)
    (hSession : ∀ state ∈ states, state.sessionId = sessionId) (hLast : last ∈ states) :
    (saveAll states).latest sessionId = some last ↔
      ∀ state ∈ states, states.idxOf state ≤ states.idxOf last := by
  have hFilter : (states.eraseDups.filter fun state => decide (state.sessionId = sessionId)) =
      states.eraseDups := by
    rw [List.filter_eq_self]
    intro state hState
    exact decide_eq_true (hSession state (List.mem_eraseDups.mp hState))
  rw [latest, (saveAll_states hHash).2, hFilter, getLast?_eraseDups_iff hLast]

end MemoryKillSwitches

namespace PostgresKillSwitches

variable {isoformat : Timestamp → String} {rows : PostgresKillSwitches}
  {saves : List (Timestamp × HashedState)}

/-- The state is written as JSON. -/
def Written (isoformat : Timestamp → String) (state : HashedState) : Bool :=
  (PyValue.model (state.fields isoformat)).dump.isSome

/-- What the rows keep of the saves. -/
structure Follows (isoformat : Timestamp → String) (saves : List (Timestamp × HashedState))
    (rows : PostgresKillSwitches) : Prop where
  hashes : rows.map (·.stateHash) =
    ((saves.map (·.2)).filter (Written isoformat)).eraseDups.map (·.stateHash)
  states : ∀ row ∈ rows, ∃ state ∈ saves.map (·.2), row.stateHash = state.stateHash ∧
    row.sessionId = state.sessionId ∧
    (PyValue.model (state.fields isoformat)).dump = some row.stateJson
  increasing : rows.Pairwise (·.createdAt < ·.createdAt)
  times : ∀ row ∈ rows, ∃ saved ∈ saves, row.createdAt = saved.1

theorem Follows.save (h : Follows isoformat saves rows) {saved : Timestamp × HashedState}
    (hHash : Distinguished ((saves ++ [saved]).map (·.2)))
    (hTimes : ∀ earlier ∈ saves, earlier.1 < saved.1) :
    Follows isoformat (saves ++ [saved])
      (PostgresKillSwitches.save isoformat saved.1 saved.2 rows).2 := by
  obtain ⟨now, newest⟩ := saved
  have hOldStates : ∀ row ∈ rows, ∃ state ∈ (saves ++ [(now, newest)]).map (·.2),
      row.stateHash = state.stateHash ∧ row.sessionId = state.sessionId ∧
      (PyValue.model (state.fields isoformat)).dump = some row.stateJson := by
    intro row hRow
    obtain ⟨state, hState, hOf⟩ := h.states row hRow
    refine ⟨state, ?_, hOf⟩
    rw [List.map_append]
    exact List.mem_append_left _ hState
  have hOldTimes : ∀ row ∈ rows, ∃ saved ∈ saves ++ [(now, newest)],
      row.createdAt = saved.1 := by
    intro row hRow
    obtain ⟨saved, hSaved, hAt⟩ := h.times row hRow
    exact ⟨saved, List.mem_append_left _ hSaved, hAt⟩
  have hStates : (saves ++ [(now, newest)]).map (·.2) = saves.map (·.2) ++ [newest] := by
    rw [List.map_append]
    rfl
  have hWritten := filter_concat (Written isoformat) (saves.map (·.2)) newest
  rw [← hStates] at hWritten
  have hKnown : rows.any (·.stateHash = newest.stateHash) = true ↔
      newest ∈ (saves.map (·.2)).filter (Written isoformat) := by
    rw [List.any_eq_true, ← List.mem_eraseDups]
    constructor
    · rintro ⟨row, hRow, hSame⟩
      have hHashes : row.stateHash ∈ rows.map (·.stateHash) := List.mem_map_of_mem hRow
      rw [h.hashes] at hHashes
      obtain ⟨state, hState, hStateHash⟩ := List.mem_map.mp hHashes
      have hMem := (List.mem_filter.mp (List.mem_eraseDups.mp hState)).1
      have hEq : state = newest := by
        refine hHash state ?_ newest ?_ (hStateHash.trans (of_decide_eq_true hSame))
        · rw [hStates]
          exact List.mem_append_left _ hMem
        · rw [hStates]
          exact List.mem_append_right _ (List.mem_singleton_self _)
      exact hEq ▸ hState
    · intro hState
      have hHashes : newest.stateHash ∈ rows.map (·.stateHash) := by
        rw [h.hashes]
        exact List.mem_map_of_mem hState
      obtain ⟨row, hRow, hSame⟩ := List.mem_map.mp hHashes
      exact ⟨row, hRow, decide_eq_true hSame⟩
  unfold PostgresKillSwitches.save
  cases hDump : (PyValue.model (newest.fields isoformat)).dump with
  | none =>
    refine ⟨?_, hOldStates, h.increasing, hOldTimes⟩
    rw [hWritten, if_neg (by simp [Written, hDump])]
    exact h.hashes
  | some json =>
    rw [if_pos (by simp [Written, hDump])] at hWritten
    simp only
    split_ifs with hAny
    · refine ⟨?_, hOldStates, h.increasing, hOldTimes⟩
      rw [hWritten, eraseDups_concat, if_pos (hKnown.mp hAny)]
      exact h.hashes
    · refine ⟨?_, ?_, ?_, ?_⟩
      · rw [hWritten, eraseDups_concat, if_neg fun hMem => hAny (hKnown.mpr hMem),
          List.map_append, List.map_append, h.hashes]
        rfl
      · intro row hRow
        rcases List.mem_append.mp hRow with hOld | hNew
        · exact hOldStates row hOld
        · obtain rfl := List.mem_singleton.mp hNew
          refine ⟨newest, ?_, rfl, rfl, hDump⟩
          rw [hStates]
          exact List.mem_append_right _ (List.mem_singleton_self _)
      · refine List.pairwise_append.mpr ⟨h.increasing, List.pairwise_singleton _ _, ?_⟩
        intro row hRow newRow hNew
        obtain rfl := List.mem_singleton.mp hNew
        obtain ⟨saved, hSaved, hAt⟩ := h.times row hRow
        exact hAt ▸ hTimes saved hSaved
      · intro row hRow
        rcases List.mem_append.mp hRow with hOld | hNew
        · exact hOldTimes row hOld
        · obtain rfl := List.mem_singleton.mp hNew
          exact ⟨_, List.mem_append_right _ (List.mem_singleton_self _), rfl⟩

theorem follows_saveAll (hHash : Distinguished (saves.map (·.2)))
    (hTimes : saves.Pairwise (·.1 < ·.1)) :
    Follows isoformat saves (saveAll isoformat saves) := by
  induction saves using List.reverseRecOn with
  | nil => exact ⟨rfl, by simp [saveAll], List.Pairwise.nil, by simp [saveAll]⟩
  | append_singleton saves saved ih =>
    obtain ⟨hEarlier, -, hLater⟩ := List.pairwise_append.mp hTimes
    have hOld : Distinguished (saves.map (·.2)) := by
      rw [List.map_append] at hHash
      exact hHash.of_append
    rw [saveAll, List.foldl_concat]
    exact (ih hOld hEarlier).save hHash fun earlier hMem =>
      hLater earlier hMem saved (List.mem_singleton_self _)

/-- With insertion times that increase, the row that a query returns is the last one. -/
theorem first_eq_getLast? (h : rows.Pairwise (·.createdAt < ·.createdAt)) :
    first rows = rows.getLast? := by
  induction rows with
  | nil => rfl
  | cons row rows ih =>
    obtain ⟨hBefore, hRest⟩ := List.pairwise_cons.mp h
    rw [first, ih hRest]
    cases hBest : rows.getLast? with
    | none =>
      rw [List.getLast?_eq_none_iff] at hBest
      rw [hBest]
      rfl
    | some best =>
      have hLess := hBefore best (List.mem_of_getLast? hBest)
      have hNot : ¬ Precedes row best := by
        rintro (hGreater | ⟨hSame, -⟩)
        · exact absurd hGreater (not_lt.mpr hLess.le)
        · exact absurd hSame hLess.ne
      rw [List.getLast?_cons, hBest]
      exact if_neg hNot

variable {sessionId : String}

/-- What a query answers, where it is the last row of the session. -/
theorem latest_saveAll_eq (hHash : Distinguished (saves.map (·.2)))
    (hTimes : saves.Pairwise (·.1 < ·.1))
    (hSession : ∀ saved ∈ saves, saved.2.sessionId = sessionId) :
    (saveAll isoformat saves).latest sessionId =
      match ((saves.map (·.2)).filter (Written isoformat)).eraseDups.getLast? with
      | none => .ok none
      | some state =>
        match switchModel.readBack (state.fields isoformat) with
        | none => .error (validationError "KillSwitchState")
        | some v => .ok (some v) := by
  have h : Follows isoformat saves (saveAll isoformat saves) := follows_saveAll hHash hTimes
  have hFilter : (saveAll isoformat saves).filter (fun row => decide (row.sessionId = sessionId)) =
      saveAll isoformat saves := by
    rw [List.filter_eq_self]
    intro row hRow
    obtain ⟨state, hState, -, hSame, -⟩ := h.states row hRow
    obtain ⟨saved, hSaved, rfl⟩ := List.mem_map.mp hState
    exact decide_eq_true (hSame.trans (hSession saved hSaved))
  rw [latest, hFilter, first_eq_getLast? h.increasing]
  have hHashes := congrArg List.getLast? h.hashes
  rw [List.getLast?_map, List.getLast?_map] at hHashes
  cases hRow : (saveAll isoformat saves).getLast? with
  | none =>
    rw [hRow] at hHashes
    rw [Option.map_eq_none_iff.mp hHashes.symm]
  | some row =>
    rw [hRow] at hHashes
    obtain ⟨state, hLast, hSame⟩ := Option.map_eq_some_iff.mp hHashes.symm
    obtain ⟨state', hState', hHash', -, hDump⟩ :=
      h.states row (List.mem_of_getLast? hRow)
    have hState : state ∈ saves.map (·.2) :=
      (List.mem_filter.mp (List.mem_eraseDups.mp (List.mem_of_getLast? hLast))).1
    obtain rfl : state = state' := hHash state hState state' hState' (hSame.trans hHash')
    rw [hLast]
    simp only [StrictModel.readBack, hDump, Option.bind_some]

end PostgresKillSwitches

/-! ### Both stores -/

/-- What is read back of a stored state has its hash. -/
theorem HashedState.readBack_hash {isoformat : Timestamp → String} {state other : HashedState}
    (h : switchModel.readBack (state.fields isoformat) = some (.model (other.fields isoformat))) :
    state.stateHash = other.stateHash :=
  readBack_stateHash (state.instance_fields isoformat) h

/-- Of the states of a session, saved one after the other with insertion times that
increase and with hashes that tell them apart, both stores answer the one that was passed
to the last call exactly when no other was first saved after it was, and it is inactive,
with details that are JSON already. -/
theorem latest_switch_wins (isoformat : Timestamp → String) (sessionId : String)
    (saves : List (Timestamp × HashedState)) (now : Timestamp) (last : HashedState)
    (hSession : ∀ saved ∈ saves ++ [(now, last)], saved.2.sessionId = sessionId)
    (hHash : Distinguished ((saves ++ [(now, last)]).map (·.2)))
    (hTimes : (saves ++ [(now, last)]).Pairwise (·.1 < ·.1)) :
    let states := (saves ++ [(now, last)]).map (·.2)
    ((MemoryKillSwitches.saveAll states).latest sessionId = some last ∧
      (PostgresKillSwitches.saveAll isoformat (saves ++ [(now, last)])).latest sessionId =
        .ok (some (.model (last.fields isoformat)))) ↔
    (∀ state ∈ states, states.idxOf state ≤ states.idxOf last) ∧
      last.active = false ∧ NativeEntries last.details := by
  intro states
  have hLast : last ∈ states :=
    List.mem_map_of_mem (List.mem_append_right _ (List.mem_singleton_self (now, last)))
  have hStates : ∀ state ∈ states, state.sessionId = sessionId := by
    intro state hState
    obtain ⟨saved, hSaved, rfl⟩ := List.mem_map.mp hState
    exact hSession saved hSaved
  rw [MemoryKillSwitches.latest_saveAll_iff hHash hStates hLast,
    PostgresKillSwitches.latest_saveAll_eq hHash hTimes hSession]
  refine and_congr_right fun hFirst => ?_
  rw [← last.readBack_iff isoformat]
  constructor
  · intro hLatest
    cases hRow : (states.filter (PostgresKillSwitches.Written isoformat)).eraseDups.getLast? with
    | none =>
      rw [hRow] at hLatest
      cases hLatest
    | some state =>
      rw [hRow] at hLatest
      simp only at hLatest
      have hState : state ∈ states :=
        (List.mem_filter.mp (List.mem_eraseDups.mp (List.mem_of_getLast? hRow))).1
      cases hBack : switchModel.readBack (state.fields isoformat) with
      | none =>
        rw [hBack] at hLatest
        cases hLatest
      | some v =>
        rw [hBack] at hLatest
        obtain rfl := Option.some.inj (Except.ok.inj hLatest)
        obtain rfl := hHash state hState last hLast (HashedState.readBack_hash hBack)
        exact hBack
  · intro hBack
    have hWritten : PostgresKillSwitches.Written isoformat last = true := by
      cases hDump : (PyValue.model (last.fields isoformat)).dump with
      | none =>
        rw [StrictModel.readBack, hDump] at hBack
        cases hBack
      | some json => simp [PostgresKillSwitches.Written, hDump]
    obtain ⟨earlier, hSplit⟩ := List.getLast?_eq_some_iff.mp
      ((getLast?_eraseDups_iff hLast).mpr hFirst)
    rw [eraseDups_filter, hSplit, filter_concat, if_pos hWritten, List.getLast?_concat]
    simp only [hBack]

/-- A state with a hash of one digit. -/
def sampleState (state : KillSwitchState) (digit : Char)
    (h : isDigest ("".pushn digit 64) = true) : HashedState :=
  ⟨state, "".pushn digit 64, h⟩

def resetState : HashedState := sampleState (inactiveKillSwitch "session-1") '0' (by decide +kernel)

def lostState : HashedState :=
  sampleState (activateKillSwitch "session-1" .leadershipLost 1784554200000000
    (.error "RuntimeError: leadership lost")) '1' (by decide +kernel)

/-- A first reset wins over the activation before it. -/
theorem first_reset_wins :
    let isoformat : Timestamp → String := fun _ => "2026-07-20T13:30:00Z"
    let saves := [(1, lostState), (2, resetState)]
    ((MemoryKillSwitches.saveAll (saves.map (·.2))).latest "session-1" = some resetState ∧
      (PostgresKillSwitches.saveAll isoformat saves).latest "session-1" =
        .ok (some (.model (resetState.fields isoformat)))) ↔
    (∀ state ∈ saves.map (·.2), (saves.map (·.2)).idxOf state ≤
        (saves.map (·.2)).idxOf resetState) ∧
      resetState.active = false ∧ NativeEntries resetState.details :=
  latest_switch_wins (fun _ => "2026-07-20T13:30:00Z") "session-1" [(1, lostState)] 2 resetState
    (by decide) (by decide) (by decide)

/-- An operator's reset after an activation is the state of the start again, and both
stores go on answering the activation, or raise on it. -/
theorem second_reset_lost :
    let isoformat : Timestamp → String := fun _ => "2026-07-20T13:30:00Z"
    let saves := [(1, resetState), (2, lostState), (3, resetState)]
    (∀ saved ∈ saves, saved.2.sessionId = "session-1") ∧ Distinguished (saves.map (·.2)) ∧
      saves.Pairwise (·.1 < ·.1) ∧ lostState ≠ resetState ∧
      (MemoryKillSwitches.saveAll (saves.map (·.2))).latest "session-1" = some lostState ∧
      (PostgresKillSwitches.saveAll isoformat saves).latest "session-1" =
        .error (validationError "KillSwitchState") := by
  refine ⟨?_, ?_, ?_, ?_, ?_, ?_⟩ <;> decide

end Daybreak.Orchestration
