import Mathlib.Data.List.Basic
import Mathlib.Logic.Relation

/-!
# Parent links that are written once

A node gets its parent when it is made, and only nodes that are already there can be named.  The order
in which they were made ranks a parent below its children.
-/

namespace Forest

open List

variable {κ : Type*}

abbrev Links (κ : Type*) := List (κ × Option κ)

/-- The links were made one by one, each under a new name and with a parent that was there. -/
inductive Grown : Links κ → Prop
  | nil : Grown []
  | snoc {links : Links κ} {k : κ} {parent : Option κ} :
      Grown links → k ∉ links.map Prod.fst → (∀ p ∈ parent, p ∈ links.map Prod.fst) →
        Grown (links ++ [(k, parent)])

def ParentOf (links : Links κ) (p c : κ) : Prop := (c, some p) ∈ links

/-- `Ancestor links a c`: one or more parent links lead from `c` up to `a`. -/
def Ancestor (links : Links κ) : κ → κ → Prop := Relation.TransGen (ParentOf links)

variable {links : Links κ} {c : κ}

theorem ParentOf.mem {p : κ} (h : ParentOf links p c) : c ∈ links.map Prod.fst :=
  mem_map.mpr ⟨(c, some p), h, rfl⟩

theorem Ancestor.mem {a : κ} (h : Ancestor links a c) : c ∈ links.map Prod.fst := by
  cases h with
  | single hparent | tail _ hparent => exact hparent.mem

namespace Grown

variable {links : Links κ} {c a : κ}

theorem parent_mem (h : Grown links) {p : κ} (hparent : ParentOf links p c) :
    p ∈ links.map Prod.fst := by
  induction h with
  | nil => cases hparent
  | snoc _ _ hold ih =>
    rw [map_append, mem_append]
    rcases mem_append.mp hparent with hmem | hlast
    · exact .inl (ih hmem)
    · obtain ⟨-, rfl⟩ := Prod.mk.inj (mem_singleton.mp hlast)
      exact .inl (hold p rfl)

theorem ancestor_mem (h : Grown links) (hancestor : Ancestor links a c) :
    a ∈ links.map Prod.fst := by
  induction hancestor with
  | single hparent => exact h.parent_mem hparent
  | tail _ _ ih => exact ih

theorem ancestor_of_snoc {k : κ} {parent : Option κ} (h : Grown links)
    (hfresh : k ∉ links.map Prod.fst)
    (hancestor : Ancestor (links ++ [(k, parent)]) a c) (hne : c ≠ k) : Ancestor links a c := by
  have hold : ∀ p c', ParentOf (links ++ [(k, parent)]) p c' → c' ≠ k → ParentOf links p c' := by
    intro p c' hparent hne'
    rcases mem_append.mp hparent with hmem | hlast
    · exact hmem
    · exact absurd (Prod.mk.inj (mem_singleton.mp hlast)).1 hne'
  induction hancestor with
  | single hparent => exact .single (hold _ _ hparent hne)
  | @tail b c _ hparent ih =>
    have hlink := hold b c hparent hne
    -- the node in the middle is a parent of an old node, so it is old itself
    have hb : b ≠ k := fun heq => hfresh (heq ▸ h.parent_mem hlink)
    exact .tail (ih hb) hlink

theorem acyclic (h : Grown links) (a : κ) : ¬ Ancestor links a a := by
  -- a node is added as a leaf; a cycle through it would give it a descendant among the old ones
  induction h with
  | nil =>
    intro hcycle
    cases hcycle.mem
  | @snoc links k parent hgrown hfresh hold ih =>
    intro hcycle
    by_cases hk : a = k
    · subst hk
      -- the last link of the cycle leads from an old node, and the way up to it is an old chain
      cases hcycle with
      | single hparent =>
        rcases mem_append.mp hparent with hmem | hlast
        · exact hfresh (ParentOf.mem hmem)
        · obtain ⟨-, hp⟩ := Prod.mk.inj (mem_singleton.mp hlast)
          exact hfresh (hold a hp.symm)
      | @tail b _ hchain hparent =>
        rcases mem_append.mp hparent with hmem | hlast
        · exact hfresh (ParentOf.mem hmem)
        · obtain ⟨-, hp⟩ := Prod.mk.inj (mem_singleton.mp hlast)
          have hb : b ≠ a := fun heq => hfresh (heq ▸ hold b hp.symm)
          have hbefore := hgrown.ancestor_of_snoc hfresh hchain hb
          exact hfresh (hgrown.ancestor_mem hbefore)
    · exact ih (hgrown.ancestor_of_snoc hfresh hcycle hk)

end Grown

end Forest
