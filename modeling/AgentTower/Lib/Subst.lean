import Mathlib.Data.Nat.Find

/-!
# Replacing the matches in a list

`re.sub` for expressions of which the longest match is taken: the first match is replaced, and the
search goes on behind it.  A match may depend on its neighbours in the original list.
-/

namespace Subst

open List

variable {α : Type} (P : Option α → List α → Option α → Prop)

/-- No match begins at the first element, which comes after `prev`. -/
def NoMatch (prev : Option α) (text : List α) : Prop :=
  ∀ body post, text = body ++ post → body ≠ [] → ¬P prev body post.head?

def Free : Option α → List α → Prop
  | _, [] => True
  | prev, x :: rest => NoMatch P prev (x :: rest) ∧ Free (some x) rest

inductive Rewrites (replacement : List α) : Option α → List α → List α → Prop
  | nil (prev : Option α) : Rewrites replacement prev [] []
  | hit {prev : Option α} {body rest out : List α} (hne : body ≠ []) (h : P prev body rest.head?)
      (hmax : ∀ a b, rest = a ++ b → a ≠ [] → ¬P prev (body ++ a) b.head?)
      (hrest : Rewrites replacement (body.getLast?.or prev) rest out) :
      Rewrites replacement prev (body ++ rest) (replacement ++ out)
  | miss {prev : Option α} {x : α} {rest out : List α} (h : NoMatch P prev (x :: rest))
      (hrest : Rewrites replacement (some x) rest out) :
      Rewrites replacement prev (x :: rest) (x :: out)

variable {P} {replacement : List α} {prev : Option α} {a b text : List α}

theorem getLast?_cons_or (x : α) (a : List α) (prev : Option α) :
    (x :: a).getLast?.or prev = a.getLast?.or (some x) := by
  cases a with
  | nil => rfl
  | cons y a => simp [List.getLast?_cons]

theorem Free.drop (h : Free P prev (a ++ b)) : Free P (a.getLast?.or prev) b := by
  induction a generalizing prev with
  | nil => exact h
  | cons x a ih =>
    rw [getLast?_cons_or]
    exact ih h.2

theorem Rewrites.eq_of_free {out : List α} (h : Rewrites P replacement prev text out)
    (hfree : Free P prev text) : out = text := by
  induction h with
  | nil => rfl
  | @hit prev body rest out hne hmatch =>
    cases body with
    | nil => exact absurd rfl hne
    | cons x body => exact absurd hmatch (hfree.1 (x :: body) rest rfl hne)
  | miss _ _ ih => rw [ih hfree.2]

/-! ### Matches that do not depend on their neighbours -/

section Anywhere

variable {Q : List α → Prop} {prev' : Option α} {c d out : List α}

abbrev Anywhere (Q : List α → Prop) (_ : Option α) (body : List α) (_ : Option α) : Prop := Q body

theorem Rewrites.anywhere (h : Rewrites (Anywhere Q) replacement prev text out) :
    Rewrites (Anywhere Q) replacement prev' text out := by
  cases h with
  | nil => exact .nil prev'
  | miss hnot hrest => exact .miss hnot hrest
  | hit hne hmatch hmax hrest =>
    refine .hit hne hmatch hmax ?_
    rwa [List.getLast?_eq_some_getLast hne] at hrest ⊢

theorem Rewrites.append (ha : Rewrites (Anywhere Q) replacement prev a c)
    (hb : Rewrites (Anywhere Q) replacement prev' b d)
    (hborder : ∀ t u, t <:+ a → u <+: b → t ≠ [] → u ≠ [] → ¬Q (t ++ u)) :
    Rewrites (Anywhere Q) replacement prev (a ++ b) (c ++ d) := by
  induction ha with
  | nil => exact hb.anywhere
  | @miss prev x rest c hnot _ ih =>
    refine .miss (fun body post htext hne hmatch => ?_)
      (ih fun t u ht => hborder t u (ht.trans (suffix_cons x rest)))
    rcases append_eq_append_iff.mp (show (x :: rest) ++ b = body ++ post from htext) with
      ⟨u, rfl, rfl⟩ | ⟨u, hrest, -⟩
    · by_cases hu : u = []
      · subst hu
        rw [append_nil] at hne hmatch
        exact hnot _ [] (append_nil _).symm hne hmatch
      · exact hborder _ u (suffix_refl _) (prefix_append _ _) nofun hu hmatch
    · exact hnot body u hrest hne hmatch
  | @hit prev body rest c hne hmatch hmax _ ih =>
    rw [append_assoc, append_assoc]
    refine .hit hne hmatch (fun t u htext ht => ?_)
      (ih fun t u ht => hborder t u (ht.trans (suffix_append body rest)))
    rcases append_eq_append_iff.mp htext with ⟨v, rfl, rfl⟩ | ⟨v, rfl, -⟩
    · by_cases hv : v = []
      · subst hv
        rw [append_nil] at ht ⊢
        exact hmax rest [] (append_nil rest).symm ht
      · rw [← append_assoc]
        exact hborder _ v (suffix_refl _) (prefix_append _ _) (append_ne_nil_of_left_ne_nil hne _) hv
    · exact hmax t v rfl ht

/-- Every cut of the result comes from one of the text. -/
theorem Rewrites.split (h : Rewrites (Anywhere Q) replacement prev text out)
    (hreplacement : replacement.length ≤ 1) (hout : out = c ++ d) :
    ∃ a b, text = a ++ b ∧ Rewrites (Anywhere Q) replacement none a c ∧
      Rewrites (Anywhere Q) replacement none b d := by
  induction h generalizing c with
  | nil =>
    obtain ⟨rfl, rfl⟩ := append_eq_nil_iff.mp hout.symm
    exact ⟨[], [], rfl, .nil none, .nil none⟩
  | @miss prev x rest out hnot hrest ih =>
    cases c with
    | nil =>
      rw [nil_append] at hout
      exact ⟨[], x :: rest, rfl, .nil none, hout ▸ (Rewrites.miss hnot hrest).anywhere⟩
    | cons y c =>
      obtain ⟨rfl, htail⟩ := cons.inj hout
      obtain ⟨a, b, rfl, ha, hb⟩ := ih htail
      refine ⟨x :: a, b, rfl, .miss (fun body post htext => hnot body (post ++ b) ?_) ha.anywhere, hb⟩
      rw [← append_assoc, ← htext]
      rfl
  | @hit prev body rest out hne hmatch hmax hrest ih =>
    cases c with
    | nil =>
      rw [nil_append] at hout
      exact ⟨[], body ++ rest, rfl, .nil none, hout ▸ (Rewrites.hit hne hmatch hmax hrest).anywhere⟩
    | cons y c =>
      obtain ⟨c', hc, htail⟩ : ∃ c', y :: c = replacement ++ c' ∧ out = c' ++ d := by
        match replacement, hreplacement with
        | [], _ => exact ⟨_, rfl, hout⟩
        | [z], _ =>
          obtain ⟨rfl, htail⟩ := cons.inj hout
          exact ⟨c, rfl, htail⟩
      obtain ⟨a, b, rfl, ha, hb⟩ := ih htail
      refine ⟨body ++ a, b, (append_assoc ..).symm, ?_, hb⟩
      rw [hc]
      exact .hit hne hmatch (fun t u h => hmax t (u ++ b) (by rw [h, append_assoc])) ha.anywhere

end Anywhere

variable [∀ prev body next, Decidable (P prev body next)]

variable (P) in
/-- The length of the longest match, `0` if there is none. -/
def find (prev : Option α) (text : List α) : Nat :=
  Nat.findGreatest (fun n => P prev (text.take n) (text.drop n).head?) text.length

variable (P) in
/-- `skip` elements are still to come of the match that was replaced last. -/
def sub (replacement : List α) : Option α → Nat → List α → List α
  | _, _, [] => []
  | _, skip + 1, x :: rest => sub replacement (some x) skip rest
  | prev, 0, x :: rest =>
    match find P prev (x :: rest) with
    | n + 1 => replacement ++ sub replacement (some x) n rest
    | 0 => x :: sub replacement (some x) 0 rest

theorem le_find {body post : List α} (h : P prev body post.head?) :
    body.length ≤ find P prev (body ++ post) := by
  refine Nat.le_findGreatest ?_ ?_
  · rw [length_append]
    exact Nat.le_add_right _ _
  · rwa [take_left, drop_left]

theorem find_eq_zero : find P prev text = 0 ↔ NoMatch P prev text := by
  constructor
  · rintro h body post rfl hne hmatch
    have hle := le_find hmatch
    exact hne (length_eq_zero_iff.mp (by omega))
  · intro h
    refine Nat.findGreatest_eq_zero_iff.mpr fun n hpos hle hmatch => ?_
    refine h _ _ (take_append_drop n text).symm (fun hnil => ?_) hmatch
    have hlength := length_take_of_le hle
    rw [hnil, length_nil] at hlength
    omega

theorem sub_skip (n : Nat) (hn : n ≤ text.length) :
    sub P replacement prev n text
      = sub P replacement ((text.take n).getLast?.or prev) 0 (text.drop n) := by
  induction n generalizing text prev with
  | zero => rfl
  | succ n ih =>
    cases text with
    | nil => cases hn
    | cons x rest =>
      rw [take_succ_cons, getLast?_cons_or, drop_succ_cons]
      exact ih (Nat.le_of_succ_le_succ hn)

theorem rewrites_sub (prev : Option α) (text : List α) :
    Rewrites P replacement prev text (sub P replacement prev 0 text) := by
  induction hlength : text.length using Nat.strongRecOn generalizing text prev with
  | ind length ih =>
    subst hlength
    cases text with
    | nil => exact .nil prev
    | cons x rest =>
      cases h : find P prev (x :: rest) with
      | zero =>
        simp only [sub, h]
        exact .miss (find_eq_zero.mp h) (ih _ (Nat.lt_succ_self _) _ _ rfl)
      | succ n =>
        have hle : n + 1 ≤ (x :: rest).length := h ▸ Nat.findGreatest_le _
        have htext := take_append_drop (n + 1) (x :: rest)
        simp only [sub, h]
        rw [sub_skip n (Nat.le_of_succ_le_succ hle), ← getLast?_cons_or x (rest.take n) prev]
        conv in Rewrites _ _ _ (x :: rest) _ => rw [← htext]
        refine .hit nofun (Nat.findGreatest_of_ne_zero h (Nat.succ_ne_zero n))
          (fun a b hrest hne hlonger => ?_) (ih _ ?_ _ _ rfl)
        · have hmax := le_find hlonger
          rw [append_assoc, ← hrest, htext, h, length_append, length_take_of_le hle] at hmax
          exact hne (length_eq_zero_iff.mp (by omega))
        · rw [length_drop, length_cons]
          omega

theorem find_eq_length {body rest : List α} (h : P prev body rest.head?)
    (hmax : ∀ a b, rest = a ++ b → a ≠ [] → ¬P prev (body ++ a) b.head?) :
    find P prev (body ++ rest) = body.length := by
  refine Nat.le_antisymm (Nat.le_of_not_lt fun hlt => ?_) (le_find h)
  obtain ⟨k, hk⟩ := Nat.exists_eq_add_of_lt hlt
  have hle : find P prev (body ++ rest) ≤ (body ++ rest).length := Nat.findGreatest_le _
  have hmatch := Nat.findGreatest_of_ne_zero (m := find P prev (body ++ rest)) rfl
    (Nat.ne_zero_of_lt hlt)
  rw [hk, length_append] at hle
  rw [hk, Nat.add_assoc, take_length_add_append, drop_length_add_append] at hmatch
  refine hmax _ _ (take_append_drop (k + 1) rest).symm (fun hnil => ?_) hmatch
  have hlength := length_take_of_le (show k + 1 ≤ rest.length by omega)
  rw [hnil, length_nil] at hlength
  cases hlength

theorem Rewrites.eq_sub {out : List α} (h : Rewrites P replacement prev text out) :
    out = sub P replacement prev 0 text := by
  induction h with
  | nil => rfl
  | @miss prev x rest out hnot _ ih => simp only [sub, find_eq_zero.mpr hnot, ih]
  | @hit prev body rest out hne hmatch hmax _ ih =>
    cases body with
    | nil => exact absurd rfl hne
    | cons x body =>
      have hfind := find_eq_length hmatch hmax
      rw [cons_append, length_cons] at hfind
      simp only [sub, cons_append, hfind]
      rw [sub_skip _ (by rw [length_append]; exact Nat.le_add_right _ _), take_left, drop_left, ih,
        getLast?_cons_or]

theorem sub_of_free (h : Free P prev text) : sub P replacement prev 0 text = text :=
  (rewrites_sub prev text).eq_of_free h

end Subst
