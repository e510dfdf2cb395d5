import Mathlib.Data.Finset.Card

/-!
# Maps that forget the least recently used key

The entries stand in the order of their use, the oldest first, and the oldest makes room.  An entry is
safe as long as the keys used after it are fewer than the map has room for (`Recent`).
-/

structure Lru (κ α : Type*) (cap : Nat) where
  entries : List (κ × α)
  nodup : (entries.map Prod.fst).Nodup
  length_le : entries.length ≤ cap

namespace Lru

open List

variable {κ α : Type*} [DecidableEq κ] {cap : Nat}

/-! ## Operations -/

def empty : Lru κ α cap := ⟨[], nodup_nil, Nat.zero_le cap⟩

def get? (s : Lru κ α cap) (k : κ) : Option α :=
  (s.entries.find? fun e => decide (e.1 = k)).map Prod.snd

def without (k : κ) (entries : List (κ × α)) : List (κ × α) :=
  entries.filter fun e => decide (e.1 ≠ k)

theorem nodup_without_append {entries : List (κ × α)} (h : (entries.map Prod.fst).Nodup) (k : κ)
    (v : α) : ((without k entries ++ [(k, v)]).map Prod.fst).Nodup := by
  rw [map_append, nodup_append]
  refine ⟨(filter_sublist.map Prod.fst).nodup h, nodup_singleton k, ?_⟩
  intro a ha b hb hab
  obtain ⟨e, he, rfl⟩ := mem_map.mp ha
  have hne := of_decide_eq_true (mem_filter.mp he).2
  exact hne (hab.trans (mem_singleton.mp hb))

theorem length_without_append {entries : List (κ × α)} {k : κ} (v : α)
    (h : k ∈ entries.map Prod.fst) :
    (without k entries ++ [(k, v)]).length ≤ entries.length := by
  obtain ⟨e, he, hk⟩ := mem_map.mp h
  have hlt : (without k entries).length < entries.length :=
    length_filter_lt_length_iff_exists.mpr ⟨e, he, by simpa using hk⟩
  rw [length_append]
  exact hlt

def refresh (s : Lru κ α cap) (k : κ) (v : α) (h : k ∈ s.entries.map Prod.fst) : Lru κ α cap :=
  ⟨without k s.entries ++ [(k, v)], nodup_without_append s.nodup k v,
    (length_without_append v h).trans s.length_le⟩

theorem mem_keys_of_get? {s : Lru κ α cap} {k : κ} {v : α} (h : s.get? k = some v) :
    k ∈ s.entries.map Prod.fst := by
  obtain ⟨e, he, -⟩ := Option.map_eq_some_iff.mp h
  have hk := List.find?_some he
  exact mem_map.mpr ⟨e, mem_of_find?_eq_some he, of_decide_eq_true hk⟩

def touch (s : Lru κ α cap) (k : κ) : Lru κ α cap :=
  match h : s.get? k with
  | none => s
  | some v => s.refresh k v (mem_keys_of_get? h)

omit [DecidableEq κ] in
theorem nodup_append_new (s : Lru κ α cap) {k : κ} (v : α) (h : k ∉ s.entries.map Prod.fst) :
    ((s.entries ++ [(k, v)]).map Prod.fst).Nodup := by
  rw [map_append]
  exact s.nodup.append (nodup_singleton k) (disjoint_singleton.mpr h)

/-- A known key gets the value and is the most recent; a new one may push the oldest out. -/
def record (s : Lru κ α cap) (k : κ) (v : α) : Lru κ α cap :=
  if h : k ∈ s.entries.map Prod.fst then s.refresh k v h
  else
    if hfull : cap < (s.entries ++ [(k, v)]).length then
      ⟨(s.entries ++ [(k, v)]).tail, by
        rw [map_tail]
        exact (s.nodup_append_new v h).sublist (tail_sublist _), by
        have hle := s.length_le
        rw [length_tail, length_append, length_singleton]
        exact hle⟩
    else ⟨s.entries ++ [(k, v)], s.nodup_append_new v h, Nat.le_of_not_lt hfull⟩

theorem touch_of_none {s : Lru κ α cap} {k : κ} (h : s.get? k = none) : s.touch k = s := by
  unfold touch
  split
  · rfl
  · rename_i hsome
    cases h.symm.trans hsome

theorem mem_of_mem_touch {s : Lru κ α cap} {k : κ} {e : κ × α} (h : e ∈ (s.touch k).entries) :
    e ∈ s.entries := by
  unfold touch at h
  split at h
  · exact h
  · rename_i v hget
    rcases mem_append.mp h with hold | hnew
    · exact (mem_filter.mp hold).1
    · obtain ⟨e', he', rfl⟩ := Option.map_eq_some_iff.mp hget
      have hkey : e'.1 = k := by simpa using List.find?_some he'
      rw [mem_singleton.mp hnew, ← hkey]
      exact mem_of_find?_eq_some he'

theorem mem_record {s : Lru κ α cap} {k : κ} {v : α} {e : κ × α}
    (h : e ∈ (s.record k v).entries) : e = (k, v) ∨ e ∈ s.entries ∧ e.1 ≠ k := by
  unfold record at h
  split_ifs at h with hknown
  · rcases mem_append.mp h with hold | hnew
    · exact .inr ⟨(mem_filter.mp hold).1, of_decide_eq_true (mem_filter.mp hold).2⟩
    · exact .inl (mem_singleton.mp hnew)
  all_goals
    have hmem : e ∈ s.entries ++ [(k, v)] := by first | exact h | exact mem_of_mem_tail h
    rcases mem_append.mp hmem with hold | hnew
    · exact .inr ⟨hold, fun heq => hknown (heq ▸ mem_map_of_mem hold)⟩
    · exact .inl (mem_singleton.mp hnew)

/-! ## Entries that are safe -/

/-- The key has this value, and what was used after it is among `others`. -/
def Recent (k : κ) (v : α) (others : Finset κ) (s : Lru κ α cap) : Prop :=
  ∃ before after, s.entries = before ++ (k, v) :: after ∧ ∀ e ∈ after, e.1 ∈ others

variable {s : Lru κ α cap} {k j : κ} {v w : α} {others : Finset κ}

theorem Recent.get? (h : Recent k v others s) : s.get? k = some v := by
  obtain ⟨before, after, hentries, -⟩ := h
  have hnodup := s.nodup
  rw [hentries, map_append, nodup_append] at hnodup
  have hbefore : before.find? (fun e => decide (e.1 = k)) = none := by
    refine List.find?_eq_none.mpr fun e he => ?_
    have hne := hnodup.2.2 e.1 (mem_map_of_mem he) k (by simp)
    simpa using hne
  unfold Lru.get?
  rw [hentries, List.find?_append, hbefore]
  simp

theorem recent_refresh (h : k ∈ s.entries.map Prod.fst) : Recent k v others (s.refresh k v h) :=
  ⟨without k s.entries, [], rfl, nofun⟩

theorem recent_touch (h : s.get? k = some v) : Recent k v others (s.touch k) := by
  unfold touch
  split
  · rename_i hnone
    rw [h] at hnone
    cases hnone
  · rename_i v' hsome
    rw [h] at hsome
    cases hsome
    exact recent_refresh _

theorem recent_record (hcap : 0 < cap) : Recent k v others (s.record k v) := by
  unfold record
  split_ifs with hknown hfull
  · exact recent_refresh _
  · -- the key itself is not the oldest, or there would be room
    have hne : s.entries ≠ [] := by
      intro hnil
      rw [hnil] at hfull
      exact absurd hfull (Nat.not_lt.mpr hcap)
    exact ⟨s.entries.tail, [], tail_append_of_ne_nil hne, nofun⟩
  · exact ⟨s.entries, [], rfl, nofun⟩

theorem Recent.refresh (h : Recent k v others s) (hne : j ≠ k) (hj : j ∈ others)
    (hknown : j ∈ s.entries.map Prod.fst) : Recent k v others (s.refresh j w hknown) := by
  obtain ⟨before, after, hentries, hafter⟩ := h
  refine ⟨without j before, without j after ++ [(j, w)], ?_, fun e he => ?_⟩
  · show without j s.entries ++ [(j, w)] = _
    rw [hentries]
    unfold without
    rw [filter_append, filter_cons_of_pos (by simpa using hne.symm), append_assoc, cons_append]
  · rcases mem_append.mp he with he | he
    · exact hafter e (mem_filter.mp he).1
    · rw [mem_singleton.mp he]
      exact hj

theorem Recent.touch (h : Recent k v others s) (hne : j ≠ k) (hj : j ∈ others) :
    Recent k v others (s.touch j) := by
  unfold Lru.touch
  split
  · exact h
  · exact h.refresh hne hj _

theorem Recent.record (h : Recent k v others s) (hne : j ≠ k) (hj : j ∈ others)
    (hcard : others.card < cap) : Recent k v others (s.record j w) := by
  unfold Lru.record
  split_ifs with hknown hfull
  · exact h.refresh hne hj _
  all_goals
    obtain ⟨before, after, hentries, hafter⟩ := h
    have happend : s.entries ++ [(j, w)] = before ++ (k, v) :: (after ++ [(j, w)]) := by
      rw [hentries, append_assoc, cons_append]
    have hafter' : ∀ e ∈ after ++ [(j, w)], e.1 ∈ others := by
      intro e he
      rcases mem_append.mp he with he | he
      · exact hafter e he
      · rw [mem_singleton.mp he]
        exact hj
  · cases before with
    | cons e before =>
      refine ⟨before, after ++ [(j, w)], ?_, hafter'⟩
      show (s.entries ++ [(j, w)]).tail = _
      rw [happend]
      rfl
    | nil =>
      -- all the other entries are in the set, and with `j` they are as many as there is room
      exfalso
      have hnodup : ((after ++ [(j, w)]).map Prod.fst).Nodup := by
        have hall := s.nodup_append_new w hknown
        rw [happend] at hall
        exact (nodup_cons.mp hall).2
      have hsubset : ((after ++ [(j, w)]).map Prod.fst).toFinset ⊆ others := by
        intro i hi
        obtain ⟨e, he, rfl⟩ := mem_map.mp (mem_toFinset.mp hi)
        exact hafter' e he
      have hle := Finset.card_le_card hsubset
      rw [toFinset_card_of_nodup hnodup, length_map] at hle
      rw [happend, nil_append, length_cons] at hfull
      omega
  · exact ⟨before, after ++ [(j, w)], happend, hafter'⟩

/-! ## The keys in the order of their use -/

theorem dedup_concat (l : List κ) (k : κ) :
    (l ++ [k]).dedup = l.dedup.filter (fun a => decide (a ≠ k)) ++ [k] := by
  induction l with
  | nil => simp
  | cons a l ih =>
    by_cases ha : a ∈ l
    · rw [cons_append, dedup_cons_of_mem (mem_append_left _ ha), dedup_cons_of_mem ha, ih]
    · rw [dedup_cons_of_notMem ha, cons_append]
      by_cases hk : a = k
      · rw [dedup_cons_of_mem (mem_append_right _ (mem_singleton.mpr hk)), ih,
          filter_cons_of_neg (by simpa using hk)]
      · rw [dedup_cons_of_notMem (by simp [ha, hk]), ih, filter_cons_of_pos (by simpa using hk),
          cons_append]

/-- Counted at the last place each has in `uses`, the keys of the map are the last ones, and it is full
as soon as there are others before them. -/
def Holds (uses : List κ) (s : Lru κ α cap) : Prop :=
  ∃ forgotten, uses.dedup = forgotten ++ s.entries.map Prod.fst ∧
    (forgotten = [] ∨ s.entries.length = cap)

variable {uses : List κ}

theorem keys_without (entries : List (κ × α)) (k : κ) : (without k entries).map Prod.fst =
    (entries.map Prod.fst).filter fun a => decide (a ≠ k) := by
  rw [without, filter_map]
  rfl

theorem Holds.refresh (h : Holds uses s) (hk : k ∈ s.entries.map Prod.fst) :
    Holds (uses ++ [k]) (s.refresh k v hk) := by
  obtain ⟨forgotten, hdedup, hfull⟩ := h
  have hnodup := nodup_dedup uses
  rw [hdedup, nodup_append] at hnodup
  have hkept : forgotten.filter (fun a => decide (a ≠ k)) = forgotten :=
    filter_eq_self.mpr fun a ha => decide_eq_true (hnodup.2.2 a ha k hk)
  refine ⟨forgotten, ?_, hfull.imp_right fun hlength => ?_⟩
  · rw [dedup_concat, hdedup, filter_append, hkept, Lru.refresh, map_append, keys_without,
      append_assoc, map_singleton]
  · have hsame : ((s.entries.map Prod.fst).filter fun a => decide (a ≠ k)).length
        = s.entries.length - 1 := by
      rw [← length_map Prod.fst, ← length_erase_of_mem hk, s.nodup.erase_eq_filter]
      exact congrArg length (filter_congr fun a _ => decide_not)
    have hpos := length_pos_of_mem hk
    rw [length_map] at hpos
    show (without k s.entries ++ [(k, v)]).length = cap
    rw [length_append, ← length_map Prod.fst, keys_without, hsame, length_singleton]
    omega

theorem Holds.touch (h : Holds uses s) (hv : s.get? k = some v) : Holds (uses ++ [k]) (s.touch k) := by
  unfold Lru.touch
  split
  · rename_i hnone
    cases hnone.symm.trans hv
  · exact h.refresh _

theorem Holds.record (hcap : 0 < cap) (h : Holds uses s) :
    Holds (uses ++ [k]) (s.record k v) := by
  unfold Lru.record
  split_ifs with hknown hlong
  · exact h.refresh hknown
  all_goals
    obtain ⟨forgotten, hdedup, hfull⟩ := h
    have hkept : (s.entries.map Prod.fst).filter (fun a => decide (a ≠ k)) = s.entries.map Prod.fst :=
      filter_eq_self.mpr fun a ha => decide_eq_true fun heq => hknown (heq ▸ ha)
    have hle := s.length_le
    rw [length_append, length_singleton] at hlong
    unfold Holds
    rw [dedup_concat, hdedup, filter_append, hkept]
  · show ∃ before, _ = before ++ (s.entries ++ [(k, v)]).tail.map Prod.fst ∧
      (before = [] ∨ (s.entries ++ [(k, v)]).tail.length = cap)
    cases hentries : s.entries with
    | nil =>
      rw [hentries, length_nil] at hlong
      omega
    | cons e rest =>
      refine ⟨forgotten.filter (fun a => decide (a ≠ k)) ++ [e.1], by simp, .inr ?_⟩
      simp only [cons_append, tail_cons, length_append, length_singleton]
      rw [hentries, length_cons] at hle hlong
      omega
  · refine ⟨[], ?_, .inl rfl⟩
    rcases hfull with rfl | hlength
    · simp
    · omega

theorem Holds.keys_eq (h : Holds uses s) :
    s.entries.map Prod.fst = uses.dedup.drop (uses.dedup.length - cap) := by
  obtain ⟨forgotten, hdedup, hfull⟩ := h
  have hle := s.length_le
  rw [hdedup, length_append, length_map]
  rcases hfull with rfl | hlength
  · rw [length_nil, nil_append, show 0 + s.entries.length - cap = 0 by omega, drop_zero]
  · rw [hlength, Nat.add_sub_cancel, drop_left]

/-- A key is forgotten only when as many others have been used as there is room for. -/
theorem Holds.forgotten {pre post : List κ} (h : Holds (pre ++ k :: post) s) (hpost : k ∉ post)
    (hk : k ∉ s.entries.map Prod.fst) : cap ≤ post.dedup.length := by
  obtain ⟨forgotten, hdedup, hfull⟩ := h
  have hsuffix : k :: post.dedup <:+ (pre ++ k :: post).dedup := by
    rw [dedup_append, dedup_cons_of_notMem hpost]
    exact suffix_union_right _ _
  rw [hdedup] at hsuffix
  have hlength : s.entries.length = cap := by
    refine hfull.resolve_left fun hnil => hk ?_
    rw [hnil, nil_append] at hsuffix
    exact hsuffix.subset mem_cons_self
  by_contra hlt
  refine hk ((suffix_of_suffix_length_le hsuffix (suffix_append _ _) ?_).subset mem_cons_self)
  rw [length_cons, length_map]
  omega

end Lru
