import Mathlib.Data.List.Nodup

/-! Append-only logs in which no key occurs twice. What is offered goes to the end of the log,
unless its key is in the log; how the offers are cut into batches does not matter. -/

namespace Daybreak.Effect.KeyedLog

variable {ε κ : Type*} [DecidableEq κ] {key : ε → κ} {log events later : List ε} {event : ε}

def offer (key : ε → κ) (log : List ε) (event : ε) : List ε :=
  if key event ∈ log.map key then log else log ++ [event]

def offerAll (key : ε → κ) (log events : List ε) : List ε := events.foldl (offer key) log

theorem offer_of_mem (h : key event ∈ log.map key) : offer key log event = log := if_pos h

theorem offer_of_notMem (h : key event ∉ log.map key) : offer key log event = log ++ [event] :=
  if_neg h

@[simp] theorem offerAll_nil : offerAll key log [] = log := rfl

theorem offerAll_cons : offerAll key log (event :: events) =
    offerAll key (offer key log event) events := rfl

theorem offerAll_append : offerAll key log (events ++ later) =
    offerAll key (offerAll key log events) later := List.foldl_append

/-! ### What one offer does -/

theorem mem_map_offer {k : κ} :
    k ∈ (offer key log event).map key ↔ k ∈ log.map key ∨ k = key event := by
  by_cases h : key event ∈ log.map key
  · rw [offer_of_mem h, iff_self_or]
    rintro rfl
    exact h
  · rw [offer_of_notMem h, List.map_append, List.mem_append, List.map_singleton,
      List.mem_singleton]

theorem nodup_offer (hNodup : (log.map key).Nodup) : ((offer key log event).map key).Nodup := by
  by_cases h : key event ∈ log.map key
  · rwa [offer_of_mem h]
  · rw [offer_of_notMem h, List.map_append, List.map_singleton]
    exact hNodup.append (List.nodup_singleton _) (by simpa using h)

/-! ### What a batch does -/

/-- The keys are those of the log and those offered. -/
theorem mem_map_offerAll {k : κ} :
    k ∈ (offerAll key log events).map key ↔ k ∈ log.map key ∨ k ∈ events.map key := by
  induction events generalizing log with
  | nil => simp
  | cons event events ih => rw [offerAll_cons, ih, mem_map_offer, List.map_cons, List.mem_cons, or_assoc]

theorem nodup_offerAll (hNodup : (log.map key).Nodup) :
    ((offerAll key log events).map key).Nodup := by
  induction events generalizing log with
  | nil => exact hNodup
  | cons event events ih => exact ih (nodup_offer hNodup)

end Daybreak.Effect.KeyedLog
