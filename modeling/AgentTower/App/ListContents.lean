import Mathlib.Data.String.Basic
import AgentTower.App.ListPages

/-!
# What the lists of agents contain

`list_agents` takes the beginning of a container id as a range of strings, from the beginning itself up
to the string whose last character is the next one.
-/

namespace AgentTower.App

open Agents List

/-- `list_agents`; `ListDb.listAgents` is what the app contract asks of it. -/
def listAgents (agents : AgentTable) (role : Option (List String)) (containerId : Option String)
    (activeOnly : Bool) (parentAgentId : Option String) : Option (List AgentRecord) :=
  (containerRange containerId).map fun inContainer =>
    (agents.rows.filter fun a =>
        (!activeOnly || a.active) &&
          role.all (fun roles => roles.isEmpty || decide (a.role.text ∈ roles)) &&
            inContainer a.key.containerId &&
              parentAgentId.all fun parent => decide (a.parentAgentId = some parent)).insertionSort
      fun a b => agentListOrder a b ≠ .gt

def isLowerHex (c : Char) : Bool := ('0' ≤ c && c ≤ '9') || ('a' ≤ c && c ≤ 'f')

theorem mem_range_iff {c d : Char} (hnext : d.toNat = c.toNat + 1) (start id : List Char) :
    (¬id < start ++ [c] ∧ id < start ++ [d]) ↔ start ++ [c] <+: id := by
  induction start generalizing id with
  | nil =>
    cases id with
    | nil => simp
    | cons x xs =>
      have hc : x < c ↔ x.toNat < c.toNat := Iff.rfl
      have hd : x < d ↔ x.toNat < d.toNat := Iff.rfl
      have heq : c = x ↔ c.toNat = x.toNat := Char.toNat_inj.symm
      simp only [nil_append, cons_lt_cons_iff, not_lt_nil, and_false, or_false, cons_prefix_cons,
        List.nil_prefix, and_true, hc, hd, heq]
      omega
  | cons y ys ih =>
    cases id with
    | nil => simp
    | cons x xs =>
      simp only [cons_append, cons_lt_cons_iff, cons_prefix_cons, ← ih xs]
      rcases lt_trichotomy x y with hlt | rfl | hgt
      · simp [hlt, (Char.ne_of_lt hlt).symm]
      · simp
      · simp [Char.lt_asymm hgt, Char.ne_of_lt hgt, (Char.ne_of_lt hgt).symm]

/-- The strings from `start` up to its successor are those that begin with `start`. -/
theorem containerRange_start {start : String} (hhex : ∀ c ∈ start.toList, isLowerHex c = true)
    (hne : start ≠ "") (hshort : start.length < 64) :
    ∃ inContainer, containerRange (some start) = some inContainer ∧
      ∀ id : String, inContainer id = decide (start.toList <+: id.toList) := by
  obtain ⟨q, c, hq⟩ := (eq_nil_or_concat' start.toList).resolve_left (by simpa using hne)
  have hc : c.toNat ≤ 'f'.toNat := by
    have hlast := hhex c (by rw [hq]; simp)
    simp only [isLowerHex, Bool.or_eq_true, Bool.and_eq_true, decide_eq_true_eq] at hlast
    rcases hlast with ⟨-, hle⟩ | ⟨-, hle⟩
    · exact Nat.le_trans hle (by decide)
    · exact hle
  have hvalid : (c.toNat + 1).isValidChar := .inl (Nat.lt_of_le_of_lt (Nat.succ_le_succ hc) (by decide))
  have hnext : (Char.ofNat (c.toNat + 1)).toNat = c.toNat + 1 := by
    rw [Char.ofNat, dif_pos hvalid]
    rfl
  have hupper : nextLexPrefix start = some (String.ofList (q ++ [Char.ofNat (c.toNat + 1)])) := by
    simp [nextLexPrefix, hq, hvalid]
  refine ⟨_, by rw [containerRange, if_neg (by omega), hupper]; rfl, fun id => ?_⟩
  refine decide_eq_decide.mpr ?_
  rw [← not_lt, String.lt_iff_toList_lt, String.lt_iff_toList_lt, String.toList_ofList, hq]
  exact mem_range_iff hnext q id.toList

/-- The agents that `list_agents` returns for the beginning of a container id are those that pass the
other filters and whose container id begins with it. -/
theorem listAgents_start (agents : AgentTable) (start : String)
    (hhex : ∀ c ∈ start.toList, isLowerHex c = true) (hne : start ≠ "") (hshort : start.length < 64)
    (role : Option (List String)) (hrole : role ≠ some []) (activeOnly : Bool)
    (parentAgentId : Option String) :
    ∃ rows, listAgents agents role (some start) activeOnly parentAgentId = some rows ∧
      rows.Perm (agents.rows.filter fun a =>
        decide ((activeOnly = true → a.active = true) ∧ (∀ roles ∈ role, a.role.text ∈ roles) ∧
          start.toList <+: a.key.containerId.toList ∧
          ∀ parent ∈ parentAgentId, a.parentAgentId = some parent)) := by
  obtain ⟨inContainer, hrange, hstart⟩ := containerRange_start hhex hne hshort
  refine ⟨_, by rw [listAgents, hrange]; rfl, (perm_insertionSort _ _).trans (.of_eq ?_)⟩
  refine filter_congr fun a _ => ?_
  have hroles : role.all (fun roles => roles.isEmpty || decide (a.role.text ∈ roles)) =
      decide (∀ roles ∈ role, a.role.text ∈ roles) := by
    cases role with
    | none => simp
    | some roles =>
      have hsome : roles ≠ [] := fun h => hrole (congrArg some h)
      simp [hsome]
  rw [hroles, hstart]
  cases activeOnly <;> cases parentAgentId <;> simp [Bool.and_assoc]

def exampleAgent : AgentRecord :=
  ⟨"agt_1", ⟨"3ff", "/tmp/tmux-1000/default", "main", 0, 0, "%0"⟩, .slave, .codex, "worker", "/work", none,
    effectivePermissions .slave, "t2", "t2", none, true⟩

def exampleAgents : AgentTable :=
  ⟨[exampleAgent, { exampleAgent with
      agentId := "agt_2"
      key := { exampleAgent.key with containerId := "4" }
      createdAt := "t1" }], by decide, by decide, by decide⟩

/-- The successor of the beginning `3f` is `3g`. -/
theorem listAgents_start_successor :
    nextLexPrefix "3f" = some "3g" ∧
      ∃ rows, listAgents exampleAgents (some ["slave"]) (some "3f") true none = some rows ∧
        rows.Perm [exampleAgent] :=
  ⟨by decide, listAgents_start exampleAgents "3f" (by decide) (by decide) (by decide) (some ["slave"])
    (by decide) true none⟩

end AgentTower.App
