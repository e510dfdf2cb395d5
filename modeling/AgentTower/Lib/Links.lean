import Mathlib.Data.List.Chain

/-!
# Chains of changes

The records of one value lead to it: the first starts from nothing, each of the others starts where the
one before it ends, and the last ends at the value as it is.
-/

namespace Links

open List

variable {α σ : Type*} {prior : α → Option σ} {new : α → σ}

structure LeadTo (prior : α → Option σ) (new : α → σ) (records : List α) (state : Option σ) :
    Prop where
  first : ∀ r ∈ records.head?, prior r = none
  linked : records.IsChain fun a b => prior b = some (new a)
  last : records.getLast?.map new = state

namespace LeadTo

variable {records : List α} {state : Option σ} {r : α}

theorem nil : LeadTo prior new [] none := ⟨nofun, isChain_nil, rfl⟩

theorem append (h : LeadTo prior new records state) (hprior : prior r = state) :
    LeadTo prior new (records ++ [r]) (some (new r)) := by
  refine ⟨fun x hx => ?_, ?_, by rw [List.getLast?_concat]; rfl⟩
  · cases records with
    | nil =>
      cases hx
      rw [hprior, ← h.last]
      rfl
    | cons a records => exact h.first x hx
  · refine isChain_append.mpr ⟨h.linked, isChain_singleton r, fun a ha b hb => ?_⟩
    cases hb
    rw [hprior, ← h.last, Option.mem_def.mp ha]
    rfl

theorem of_append (h : LeadTo prior new (records ++ [r]) state) :
    LeadTo prior new records (prior r) := by
  obtain ⟨hlinked, -, hacross⟩ := isChain_append.mp h.linked
  cases hlast : records.getLast? with
  | none =>
    have hnil := List.getLast?_eq_none_iff.mp hlast
    subst hnil
    rw [h.first r rfl]
    exact nil
  | some a =>
    refine ⟨fun x hx => h.first x ?_, hlinked, ?_⟩
    · rw [List.head?_append, Option.mem_def.mp hx]
      rfl
    · rw [hlast, hacross a hlast r rfl]
      rfl

end LeadTo

end Links
