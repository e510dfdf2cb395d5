import AgentTower.Lib.Lru

/-!
# The idempotency store of a session

`lookup` and `record` of `IdempotencyStore`, for any number of entries that it may hold, and what is in
it after any sequence of the two.
-/

namespace AgentTower.App

open List

structure IdempotencyEntry (ρ : Type) where
  idempotencyKey : String
  messageId : String
  deduplicatedResponse : ρ
  createdAtMs : Int
  deriving DecidableEq

inductive StoreCall (ρ : Type) where
  | lookup (key : String)
  | record (key messageId : String) (responseEnvelope : ρ) (createdAtMs : Int)

namespace StoreCall

variable {ρ : Type} {maxEntries : Nat}

/-- The store after the call; a `lookup` answers with what `get?` finds in the store before it. -/
def perform (s : Lru String (IdempotencyEntry ρ) maxEntries) :
    StoreCall ρ → Lru String (IdempotencyEntry ρ) maxEntries
  | .lookup key => s.touch key
  | .record key messageId responseEnvelope createdAtMs =>
    s.record key ⟨key, messageId, responseEnvelope, createdAtMs⟩

/-- The key that the call uses: a `lookup` uses its key if it finds an entry. -/
def uses (s : Lru String (IdempotencyEntry ρ) maxEntries) : StoreCall ρ → List String
  | .lookup key => if (s.get? key).isSome then [key] else []
  | .record key _ _ _ => [key]

/-- The store after the calls, and the keys that they have used, in order. -/
def after (maxEntries : Nat) (calls : List (StoreCall ρ)) :
    Lru String (IdempotencyEntry ρ) maxEntries × List String :=
  calls.foldl (fun s c => (c.perform s.1, s.2 ++ c.uses s.1)) (Lru.empty, [])

/-- The entry of the latest `record` of the key.  A key enters the store by a `record`, so this one is
not older than that. -/
def latest (calls : List (StoreCall ρ)) (key : String) : Option (IdempotencyEntry ρ) :=
  calls.foldl (fun entry c =>
    match c with
    | .lookup _ => entry
    | .record key' messageId responseEnvelope createdAtMs =>
      if key' = key then some ⟨key, messageId, responseEnvelope, createdAtMs⟩ else entry) none

theorem after_concat (calls : List (StoreCall ρ)) (c : StoreCall ρ) :
    after maxEntries (calls ++ [c]) =
      (c.perform (after maxEntries calls).1, (after maxEntries calls).2 ++ c.uses (after maxEntries calls).1) := by
  rw [after, foldl_append]
  rfl

theorem holds_after (hmax : 0 < maxEntries) (calls : List (StoreCall ρ)) :
    Lru.Holds (after maxEntries calls).2 (after maxEntries calls).1 := by
  -- by induction on the number of calls, the last one taken off
  induction calls using reverseRecOn with
  | nil => exact ⟨[], rfl, .inl rfl⟩
  | append_singleton calls c ih =>
    rw [after_concat]
    cases c with
    | lookup key =>
      cases hget : (after maxEntries calls).1.get? key with
      | none => simpa [perform, uses, hget, Lru.touch_of_none hget] using ih
      | some entry => simpa [perform, uses, hget] using ih.touch hget
    | record key messageId responseEnvelope createdAtMs => exact ih.record hmax

theorem latest_after (calls : List (StoreCall ρ)) :
    ∀ e ∈ (after maxEntries calls).1.entries, latest calls e.1 = some e.2 := by
  induction calls using reverseRecOn with
  | nil => nofun
  | append_singleton calls c ih =>
    intro e he
    rw [after_concat] at he
    rw [latest, foldl_append]
    cases c with
    | lookup key => exact ih e (Lru.mem_of_mem_touch he)
    | record key messageId responseEnvelope createdAtMs =>
      rcases Lru.mem_record he with rfl | ⟨hold, hne⟩
      · exact if_pos rfl
      · exact (if_neg hne.symm).trans (ih e hold)

/-- After any sequence of calls the store has the entries of the most recently used keys, as many as
there is room for, each as its latest `record` has left it; and a key that has been used and is not there
any more has been followed by as many other keys as the store has room for. -/
theorem store_holds_most_recent (hmax : 0 < maxEntries) (calls : List (StoreCall ρ)) :
    let store := (after maxEntries calls).1
    let used := (after maxEntries calls).2
    store.entries.map Prod.fst = used.dedup.drop (used.dedup.length - maxEntries) ∧
      (∀ e ∈ store.entries, latest calls e.1 = some e.2) ∧
      ∀ pre key post, used = pre ++ key :: post → key ∉ post →
        key ∉ store.entries.map Prod.fst → maxEntries ≤ post.dedup.length := by
  have hholds := holds_after hmax calls
  refine ⟨hholds.keys_eq, latest_after calls, fun pre key post hused => ?_⟩
  rw [hused] at hholds
  exact hholds.forgotten

theorem store_holds_most_recent_evicting :
    let calls := [.record "a" "m1" () 1, .record "b" "m2" () 2, .lookup "a", .record "c" "m3" () 3]
    ((after 2 calls).1.entries.map Prod.fst = ["a", "c"]) ∧
      ∀ e ∈ (after 2 calls).1.entries, latest calls e.1 = some e.2 :=
  ⟨by decide, (store_holds_most_recent (by decide) _).2.1⟩

end StoreCall

end AgentTower.App
