import Mathlib.Logic.Basic

/-!
# Sequences of fallible steps

A `do` block in `Except` taken apart step by step: a run that succeeds has succeeded at each step,
and one step that fails ends the run.
-/

namespace Fallible

open List

variable {ε α β : Type}

variable {x : Except ε α} {f : α → Except ε β} {b : β} {a : α}

/-- Whether a call fails with a given error is decided by its error alone. -/
instance decidableEqError [DecidableEq ε] (e : ε) : Decidable (x = .error e) :=
  match x with
  | .ok _ => .isFalse nofun
  | .error e' => decidable_of_iff (e' = e) (by simp)

instance decidableExistsOk {p : α → Prop} [DecidablePred p] : Decidable (∃ a, x = .ok a ∧ p a) :=
  match x with
  | .ok a => decidable_of_iff (p a) (by simp)
  | .error _ => .isFalse nofun

theorem bind_eq_ok : (x >>= f) = .ok b ↔ ∃ a, x = .ok a ∧ f a = .ok b := by
  cases x with
  | error e =>
    constructor
    · intro h
      cases h
    · rintro ⟨a, ha, -⟩
      cases ha
  | ok a =>
    constructor
    · exact fun h => ⟨a, rfl, h⟩
    · rintro ⟨a', ha, h⟩
      cases ha
      exact h

theorem bind_of_ok (h : x = .ok a) (f : α → Except ε β) : (x >>= f) = f a := by
  rw [h]
  rfl

theorem map_eq_ok {f : α → β} : x.map f = .ok b ↔ ∃ a, x = .ok a ∧ f a = b := by
  cases x with
  | error e =>
    constructor
    · intro h
      cases h
    · rintro ⟨a, ha, -⟩
      cases ha
  | ok a =>
    constructor
    · exact fun h => ⟨a, rfl, Except.ok.inj h⟩
    · rintro ⟨a', ha, rfl⟩
      cases ha
      rfl

theorem exists_mem_of_mapM {as : List α} {bs : List β}
    (h : as.mapM f = .ok bs) (ha : a ∈ as) : ∃ b ∈ bs, f a = .ok b := by
  induction as generalizing bs with
  | nil => exact absurd ha not_mem_nil
  | cons a' as ih =>
    rw [mapM_cons] at h
    obtain ⟨b, hb, h⟩ := bind_eq_ok.mp h
    obtain ⟨bs', hbs, h⟩ := bind_eq_ok.mp h
    cases h
    rcases mem_cons.mp ha with rfl | ha
    · exact ⟨b, mem_cons_self, hb⟩
    · obtain ⟨b', hmem, hb'⟩ := ih hbs ha
      exact ⟨b', mem_cons_of_mem _ hmem, hb'⟩

theorem exists_of_mem_mapM {as : List α} {bs : List β}
    (h : as.mapM f = .ok bs) (hb : b ∈ bs) : ∃ a ∈ as, f a = .ok b := by
  induction as generalizing bs with
  | nil =>
    cases h
    exact absurd hb not_mem_nil
  | cons a as ih =>
    rw [mapM_cons] at h
    obtain ⟨b', hb', h⟩ := bind_eq_ok.mp h
    obtain ⟨bs', hbs, h⟩ := bind_eq_ok.mp h
    cases h
    rcases mem_cons.mp hb with rfl | hb
    · exact ⟨a, mem_cons_self, hb'⟩
    · obtain ⟨a', hmem, ha'⟩ := ih hbs hb
      exact ⟨a', mem_cons_of_mem _ hmem, ha'⟩

theorem mapM_split {before after : List α} {bs : List β}
    (h : (before ++ a :: after).mapM f = .ok bs) :
    ∃ bs₁ b bs₂, bs = bs₁ ++ b :: bs₂ ∧ f a = .ok b ∧ after.mapM f = .ok bs₂ := by
  rw [mapM_append] at h
  obtain ⟨bs₁, -, h⟩ := bind_eq_ok.mp h
  obtain ⟨rest, hrest, h⟩ := bind_eq_ok.mp h
  rw [mapM_cons] at hrest
  obtain ⟨b, hb, hrest⟩ := bind_eq_ok.mp hrest
  obtain ⟨bs₂, hbs₂, hrest⟩ := bind_eq_ok.mp hrest
  cases hrest
  cases h
  exact ⟨bs₁, b, bs₂, rfl, hb, hbs₂⟩

theorem eq_none_of_optionMapM {x : Option α} {y : Option β}
    (h : x.mapM f = .ok y) (hnone : x = none) : y = none := by
  rw [hnone] at h
  exact (Except.ok.inj h).symm

theorem exists_of_optionMapM {x : Option α}
    (h : x.mapM f = .ok (some b)) : ∃ a, x = some a ∧ f a = .ok b := by
  cases x with
  | none => cases h
  | some a =>
    obtain ⟨b', hb', hsome⟩ := map_eq_ok.mp h
    cases hsome
    exact ⟨a, rfl, hb'⟩

theorem eq_ok_of_toOption (h : x.toOption = some a) : x = .ok a := by
  cases x with
  | error e => cases h
  | ok b =>
    cases h
    rfl

end Fallible
