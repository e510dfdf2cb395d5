import Mathlib.Data.List.TakeWhile
import AgentTower.Lib.Json

/-!
# What is written is read back

The reader gives back what the writer has written, whatever comes after it.  A value comes back with
its keys sorted (`loads_dumps`) and is equal to what it was (`pyEq_sortKeys`).
-/

namespace Json

open List
open Bool (and_eq_true)
open Nat (toDigits)

/-! ## Strings are read back -/

theorem hexValue_hexDigit : ∀ n < 16, hexValue (hexDigit n) = some n := by decide

variable {n : Nat} {c : Char} {text : List Char} {r : Json × List Char} {v : Json}
  {members : List (String × Json)} {m : String × Json}

theorem readHex4_hex4 (h : n < 0x10000) (rest : List Char) :
    readHex4 (hex4 n ++ rest) = some (n, rest) := by
  have hsum : n / 4096 * 4096 + n / 256 % 16 * 256 + n / 16 % 16 * 16 + n % 16 = n := by omega
  simp only [hex4, cons_append, nil_append, readHex4, Option.bind_eq_bind]
  rw [hexValue_hexDigit _ (by omega), hexValue_hexDigit _ (by omega),
    hexValue_hexDigit _ (by omega), hexValue_hexDigit _ (by omega)]
  simp only [Option.bind_some, hsum]

theorem shortEscape_eq_some {e : Char} (h : shortEscape c = some e) :
    e ≠ 'u' ∧ readShortEscape e = some c := by
  unfold shortEscape at h
  split_ifs at h with h₁ h₂ h₃ h₄ h₅ h₆ h₇
  all_goals
    cases h
    subst_vars
    decide

theorem ofNat_eq (h : n = c.toNat) : Char.ofNat n = c := by
  rw [h, Char.ofNat_toNat]

theorem toNat_range (c : Char) : c.toNat < 0xd800 ∨ 0xe000 ≤ c.toNat ∧ c.toNat < 0x110000 := by
  rcases c.valid with h | ⟨h, h'⟩
  · exact .inl h
  · exact .inr ⟨h, h'⟩

theorem readChars_escape (fuel : Nat) (c : Char) (text : List Char) :
    readChars (fuel + 1) (escape c ++ text) =
      (readChars fuel text).map fun (cs, rest) => (c :: cs, rest) := by
  unfold escape
  cases hshort : shortEscape c with
  | some e =>
    obtain ⟨hu, hread⟩ := shortEscape_eq_some hshort
    simp [readChars, readEscape, hu, hread]
  | none =>
    have hquote : c ≠ '"' := by
      rintro rfl
      cases hshort
    have hbackslash : c ≠ '\\' := by
      rintro rfl
      cases hshort
    have hrange := toNat_range c
    dsimp only
    split_ifs with hplain hbmp
    · simp only [cons_append, nil_append, readChars, if_neg hquote, if_neg hbackslash]
      rw [if_neg (by omega)]
    · have hread : readEscape ('u' :: (hex4 c.toNat ++ text)) = some (c, text) := by
        simp only [readEscape, if_true, readHex4_hex4 hbmp]
        rw [if_neg (by omega), if_neg (by omega), Char.ofNat_toNat]
      simp [readChars, hread]
    · have hread : readEscape ('u' :: (hex4 (0xd800 + (c.toNat - 0x10000) / 1024) ++
          '\\' :: 'u' :: (hex4 (0xdc00 + (c.toNat - 0x10000) % 1024) ++ text))) = some (c, text) := by
        rw [readEscape, if_pos rfl, readHex4_hex4 (by omega)]
        simp only
        rw [if_pos (by omega), readLowSurrogate, readHex4_hex4 (by omega)]
        simp only
        rw [if_pos (by omega), ofNat_eq (c := c) (by omega)]
      simp [readChars, hread]

theorem length_le_escapes (s : List Char) : s.length ≤ (s.flatMap escape).length := by
  induction s with
  | nil => exact Nat.le_refl _
  | cons c s ih =>
    have hpos : 0 < (escape c).length := by
      unfold escape
      split
      · exact Nat.succ_pos _
      · split_ifs <;> simp
    rw [flatMap_cons, length_append, length_cons]
    omega

theorem readChars_escapes {fuel : Nat} (s rest : List Char) (h : s.length < fuel) :
    readChars fuel (s.flatMap escape ++ '"' :: rest) = some (s, rest) := by
  induction s generalizing fuel with
  | nil =>
    obtain ⟨fuel, rfl⟩ := Nat.exists_eq_succ_of_ne_zero (Nat.ne_zero_of_lt h)
    rfl
  | cons c s ih =>
    obtain ⟨fuel, rfl⟩ := Nat.exists_eq_succ_of_ne_zero (Nat.ne_zero_of_lt h)
    rw [flatMap_cons, append_assoc, readChars_escape, ih (by simpa using h)]
    rfl

theorem readString_quote (s : String) (rest : List Char) :
    readString (s.toList.flatMap escape ++ '"' :: rest) = some (s, rest) := by
  have hlength := length_le_escapes s.toList
  have hread : readChars ((s.toList.flatMap escape ++ '"' :: rest).length + 1)
      (s.toList.flatMap escape ++ '"' :: rest) = some (s.toList, rest) :=
    readChars_escapes s.toList rest (by simp only [length_append]; omega)
  simp only [readString, hread, Option.map_some, String.ofList_toList]

/-! ## Numbers are read back -/

def numberChar (c : Char) : Bool := c.isDigit || decide (c ∈ ['.', 'e', 'E', '+', '-'])

def Stops (text : List Char) : Prop := text.head?.all (fun c => !numberChar c) = true

section Append

variable {rest : List Char} (h : Stops rest)

include h

variable {c : Char}

theorem Stops.head?_ne (hc : numberChar c = true) : rest.head? ≠ some c := by
  intro hhead
  simp [Stops, hhead, hc] at h

theorem head?_append_iff (hc : numberChar c = true) (text : List Char) :
    (text ++ rest).head? = some c ↔ text.head? = some c := by
  cases text with
  | nil => simp [h.head?_ne hc]
  | cons d text => rfl

omit h in
theorem tail_append {text : List Char} (hhead : text.head? = some c) :
    (text ++ rest).tail = text.tail ++ rest := by
  cases text with
  | nil => cases hhead
  | cons d text => rfl

/-- Where the text stops, a part of a number is split off as if nothing came after it. -/
def Apart (rest : List Char) (split : List Char → List Char × List Char) : Prop :=
  ∀ text, split (text ++ rest) = ((split text).1, (split text).2 ++ rest)

theorem splitDigits_append : Apart rest splitDigits := by
  intro text
  induction text with
  | nil =>
    cases rest with
    | nil => rfl
    | cons c rest =>
      have hc : c.isDigit = false := by
        by_contra hdigit
        exact h.head?_ne (c := c) (by simp [numberChar, hdigit]) rfl
      simp [splitDigits, hc]
  | cons c text ih =>
    simp only [splitDigits, Prod.mk.injEq] at ih
    cases hc : c.isDigit with
    | true => simp [splitDigits, hc, ih]
    | false => simp [splitDigits, hc]

theorem splitWhole_append : Apart rest splitWhole := by
  intro text
  unfold splitWhole
  simp only [head?_append_iff h (show numberChar '0' = true from rfl)]
  split
  · rename_i hhead
    rw [tail_append hhead]
  · exact splitDigits_append h text

theorem splitChar_append (hc : numberChar c = true) : Apart rest (splitChar c) := by
  intro text
  unfold splitChar
  simp only [head?_append_iff h hc]
  split
  · rename_i hhead
    rw [tail_append hhead]
  · rfl

theorem splitFraction_append : Apart rest splitFraction := by
  intro text
  unfold splitFraction
  simp only [head?_append_iff h (show numberChar '.' = true from rfl)]
  by_cases hhead : text.head? = some '.'
  · simp only [tail_append hhead, splitDigits_append h _]
    split <;> rfl
  · simp only [hhead, false_and, if_false]

theorem splitSigned_append : Apart rest splitSigned := by
  intro text
  unfold splitSigned
  simp only [splitChar_append h (show numberChar '-' = true from rfl) _,
    splitChar_append h (show numberChar '+' = true from rfl) _]
  split
  all_goals
    simp only [splitDigits_append h _]
    split <;> rfl

omit h in
theorem splitExponent_cons (c : Char) (text : List Char) :
    splitExponent (c :: text) =
      if (c = 'e' ∨ c = 'E') ∧ (splitSigned text).1 ≠ [] then
        (c :: (splitSigned text).1, (splitSigned text).2)
      else ([], c :: text) := by
  simp only [splitExponent, List.head?_cons, tail_cons, Option.some.injEq,
    take_succ_cons, take_zero, cons_append, nil_append]

theorem splitExponent_append : Apart rest splitExponent := by
  intro text
  cases text with
  | nil =>
    simp only [splitExponent, nil_append, List.head?_nil, reduceCtorEq, or_self, false_and,
      if_false, h.head?_ne (show numberChar 'e' = true from rfl),
      h.head?_ne (show numberChar 'E' = true from rfl)]
  | cons c text =>
    rw [cons_append, splitExponent_cons, splitExponent_cons, splitSigned_append h _]
    split_ifs <;> rfl

theorem readDecimal_append (text : List Char) :
    readDecimal (text ++ rest) = (readDecimal text).map fun (v, left) => (v, left ++ rest) := by
  unfold readDecimal
  simp only [splitChar_append h (show numberChar '-' = true from rfl) _, splitWhole_append h _,
    splitFraction_append h _, splitExponent_append h _]
  split_ifs <;> rfl

end Append

theorem digitChar_ne_zero : ∀ n < 10, 0 < n → n.digitChar ≠ '0' := by decide

theorem head?_toDigits_ne (h : 0 < n) : (toDigits 10 n).head? ≠ some '0' := by
  induction n using Nat.strongRecOn with
  | ind n ih =>
    by_cases hlt : n < 10
    · rw [Nat.toDigits_of_lt_base hlt]
      exact fun hhead => digitChar_ne_zero n hlt h (Option.some.inj hhead)
    · rw [Nat.toDigits_of_base_le (by decide) (by omega), List.head?_append]
      have hhead := ih (n / 10) (by omega) (by omega)
      cases hdigits : (toDigits 10 (n / 10)).head? with
      | none => exact absurd (List.head?_eq_none_iff.mp hdigits) Nat.toDigits_ne_nil
      | some c =>
        rw [hdigits] at hhead
        exact hhead

theorem splitDigits_toDigits (n : Nat) : splitDigits (toDigits 10 n) = (toDigits 10 n, []) := by
  have hdigits : ∀ c ∈ toDigits 10 n, c.isDigit = true :=
    fun c hc => Nat.isDigit_of_mem_toDigits (by decide) (by decide) hc
  unfold splitDigits
  rw [takeWhile_eq_self_iff.mpr hdigits, dropWhile_eq_nil_iff.mpr hdigits]

theorem splitWhole_toDigits (n : Nat) : splitWhole (toDigits 10 n) = (toDigits 10 n, []) := by
  rcases Nat.eq_zero_or_pos n with rfl | hpos
  · rfl
  · rw [splitWhole, if_neg (head?_toDigits_ne hpos)]
    exact splitDigits_toDigits n

theorem head?_toDigits_ne_minus (n : Nat) : (toDigits 10 n).head? ≠ some '-' := by
  intro hhead
  have hdigit := Nat.isDigit_of_mem_toDigits (b := 10) (n := n) (by decide) (by decide)
    (mem_of_mem_head? hhead)
  cases hdigit

theorem readDecimal_toDigits (n : Nat) : readDecimal (toDigits 10 n) = some (.int n, []) := by
  simp only [readDecimal, splitChar, if_neg (head?_toDigits_ne_minus n), splitWhole_toDigits,
    splitFraction, splitExponent, List.head?_nil, reduceCtorEq, false_and, or_self, if_false,
    Nat.toDigits_ne_nil, and_self, if_true, intValue,
    Nat.ofDigitChars_toDigits (by decide : 1 < 10) (by decide : 10 ≤ 10)]

theorem readDecimal_minus_toDigits (n : Nat) :
    readDecimal ('-' :: toDigits 10 n) = some (.int (-(n : Int)), []) := by
  simp only [readDecimal, splitChar, List.head?_cons, tail_cons, if_true,
    splitWhole_toDigits, splitFraction, splitExponent, List.head?_nil, reduceCtorEq, false_and,
    or_self, if_false, Nat.toDigits_ne_nil, and_self, intValue,
    Nat.ofDigitChars_toDigits (by decide : 1 < 10) (by decide : 10 ≤ 10), cons_ne_nil]

theorem readDecimal_int (n : Int) : readDecimal (toString n).toList = some (.int n, []) := by
  cases n with
  | ofNat n =>
    show readDecimal (String.ofList (toDigits 10 n)).toList = _
    rw [String.toList_ofList]
    exact readDecimal_toDigits n
  | negSucc n =>
    show readDecimal ("-" ++ String.ofList (toDigits 10 (n + 1))).toList = _
    have htext : ("-" ++ String.ofList (toDigits 10 (n + 1))).toList =
        '-' :: toDigits 10 (n + 1) := by
      simp only [String.toList_append, String.toList_ofList]
      rfl
    rw [htext]
    exact readDecimal_minus_toDigits (n + 1)

def numberStart (c : Char) : Bool := c.isDigit || decide (c ∈ ['-', 'N', 'I'])

theorem isDigit_of_mem_splitWhole (h : c ∈ (splitWhole text).1) : c.isDigit = true := by
  unfold splitWhole at h
  split at h
  · rw [mem_singleton.mp h]
    rfl
  · exact mem_takeWhile_imp h

theorem head?_splitWhole (h : (splitWhole text).1 ≠ []) :
    text.head? = (splitWhole text).1.head? := by
  unfold splitWhole at h ⊢
  split
  · assumption
  · rename_i hzero
    rw [if_neg hzero] at h
    cases text with
    | nil => rfl
    | cons c text =>
      cases hc : c.isDigit with
      | true => simp [splitDigits, hc]
      | false => simp [splitDigits, hc] at h

theorem head?_of_readDecimal
    (h : readDecimal text = some r) : ∃ c, text.head? = some c ∧ (c.isDigit = true ∨ c = '-') := by
  by_cases hminus : text.head? = some '-'
  · exact ⟨'-', hminus, .inr rfl⟩
  · have hwhole : (splitWhole text).1 ≠ [] := by
      intro hnil
      simp [readDecimal, splitChar, hminus, hnil] at h
    obtain ⟨c, hc⟩ := Option.ne_none_iff_exists'.mp (mt List.head?_eq_none_iff.mp hwhole)
    exact ⟨c, (head?_splitWhole hwhole).trans hc,
      .inl (isDigit_of_mem_splitWhole (mem_of_mem_head? hc))⟩

theorem readNumber_of_readDecimal (h : readDecimal text = some r) : readNumber text = some r := by
  obtain ⟨c, hc, hstart⟩ := head?_of_readDecimal h
  have hword : c ≠ 'N' ∧ c ≠ 'I' := by
    constructor
    all_goals
      rintro rfl
      rcases hstart with hdigit | hminus
      · cases hdigit
      · cases hminus
  have hinfinity : text.take 2 ≠ ['-', 'I'] := by
    intro htake
    rcases text with _ | ⟨a, _ | ⟨b, text⟩⟩
    · cases htake
    · cases htake
    · cases htake
      cases h
  simp only [readNumber, hc, Option.some.injEq, hword.1, hword.2, if_false, if_neg hinfinity, h]

theorem readNumber_int (n : Int) {rest : List Char} (h : Stops rest) :
    readNumber ((toString n).toList ++ rest) = some (.int n, rest) := by
  apply readNumber_of_readDecimal
  rw [readDecimal_append h, readDecimal_int]
  rfl

theorem floatText_cases {text : String} (h : floatText text = true) :
    text ∈ ["NaN", "Infinity", "-Infinity"] ∨
      readDecimal text.toList = some (.float text, []) := by
  unfold floatText at h
  split at h
  · rename_i text' hread
    obtain rfl := of_decide_eq_true h
    unfold readNumber at hread
    split_ifs at hread with hN hI hminus
    case neg => exact .inr hread
    -- one of the three words
    all_goals
      obtain ⟨rest, -, hpair⟩ := Option.map_eq_some_iff.mp hread
      simp only [Prod.mk.injEq, Json.float.injEq] at hpair
      exact .inl (by simp [← hpair.1])
  · cases h

theorem readNumber_float {text : String} (htext : floatText text = true) {rest : List Char}
    (h : Stops rest) : readNumber (text.toList ++ rest) = some (.float text, rest) := by
  rcases floatText_cases htext with hword | hread
  · simp only [mem_cons, not_mem_nil, or_false] at hword
    rcases hword with rfl | rfl | rfl
    · rfl
    · rfl
    · rfl
  · apply readNumber_of_readDecimal
    rw [readDecimal_append h, hread]
    rfl

/-! ## Values are read back -/

theorem head?_of_readNumber
    (h : readNumber text = some r) : ∃ c, text.head? = some c ∧ numberStart c = true := by
  unfold readNumber at h
  split_ifs at h with hN hI hminus
  · exact ⟨'N', hN, rfl⟩
  · exact ⟨'I', hI, rfl⟩
  · rcases text with _ | ⟨c, text⟩
    · cases hminus
    · refine ⟨c, rfl, ?_⟩
      rw [take_succ_cons, List.cons.injEq] at hminus
      rw [hminus.1]
      rfl
  · obtain ⟨c, hc, hdigit | rfl⟩ := head?_of_readDecimal h
    · exact ⟨c, hc, by simp [numberStart, hdigit]⟩
    · exact ⟨'-', hc, rfl⟩

theorem numberStart_ne {d : Char} (h : numberStart c = true) (hd : numberStart d = false) :
    c ≠ d := by
  rintro rfl
  rw [h] at hd
  cases hd

theorem readValue_of_readNumber (fuel : Nat)
    (h : readNumber text = some r) : readValue (fuel + 1) text = some r := by
  obtain ⟨c, hc, hstart⟩ := head?_of_readNumber h
  rcases text with _ | ⟨d, text⟩
  · cases hc
  · cases hc
    rw [readValue, if_neg (numberStart_ne hstart rfl), if_neg (numberStart_ne hstart rfl),
      if_neg (numberStart_ne hstart rfl), if_neg (numberStart_ne hstart rfl),
      if_neg (numberStart_ne hstart rfl), if_neg (numberStart_ne hstart rfl), h]

/-- The text of a value begins with something that is not skipped and closes nothing. -/
def valueStart (c : Char) : Bool := !isSpace c && !decide (c ∈ [']', '}'])

theorem valueStart_of_numberStart (h : numberStart c = true) : valueStart c = true := by
  by_contra hstart
  have hc : c = ' ' ∨ c = '\t' ∨ c = '\n' ∨ c = '\r' ∨ c = ']' ∨ c = '}' := by
    simpa [valueStart, isSpace, ← or_iff_not_imp_left, or_assoc] using hstart
  rcases hc with rfl | rfl | rfl | rfl | rfl | rfl <;> cases h

theorem render_eq_cons (h : v.valid = true) :
    ∃ c text, render v = c :: text ∧ valueStart c = true := by
  have hnumber : ∀ text : List Char, ∀ r, readNumber text = some r →
      ∃ c text', text = c :: text' ∧ valueStart c = true := by
    intro text r hread
    obtain ⟨c, hc, hstart⟩ := head?_of_readNumber hread
    rcases text with _ | ⟨d, text⟩
    · cases hc
    · cases hc
      exact ⟨c, text, rfl, valueStart_of_numberStart hstart⟩
  cases v with
  | null | str s => exact ⟨_, _, rfl, rfl⟩
  | bool b => cases b <;> exact ⟨_, _, rfl, rfl⟩
  | int n =>
    have hread := @readNumber_int n [] rfl
    rw [append_nil] at hread
    exact hnumber _ _ hread
  | float text =>
    have hread := @readNumber_float text h [] rfl
    rw [append_nil] at hread
    exact hnumber _ _ hread
  | arr items =>
    cases items with
    | nil => exact ⟨_, _, rfl, rfl⟩
    | cons v items => exact ⟨'[', render v ++ renderItems items, by simp [render], rfl⟩
  | obj members =>
    cases members with
    | nil => exact ⟨_, _, rfl, rfl⟩
    | cons m members =>
      obtain ⟨k, v⟩ := m
      exact ⟨'{', quote k ++ ':' :: render v ++ renderMembers members, by simp [render], rfl⟩

theorem skipSpace_cons (h : valueStart c = true) (text : List Char) :
    skipSpace (c :: text) = c :: text := by
  have hspace : isSpace c = false := by
    rw [valueStart, and_eq_true, Bool.not_eq_true'] at h
    exact h.1
  rw [skipSpace, dropWhile_cons, hspace]
  rfl

theorem skipSpace_render (h : v.valid = true) (rest : List Char) :
    skipSpace (render v ++ rest) = render v ++ rest := by
  obtain ⟨c, text, hrender, hstart⟩ := render_eq_cons h
  rw [hrender, cons_append, skipSpace_cons hstart]

theorem head?_render_ne (h : v.valid = true) (rest : List Char) :
    (render v ++ rest).head? ≠ some ']' := by
  obtain ⟨c, text, hrender, hstart⟩ := render_eq_cons h
  rw [hrender]
  intro hhead
  cases hhead
  cases hstart

theorem setMember_of_not_mem {k : String} (v : Json)
    (h : k ∉ members.map Prod.fst) : setMember members k v = members ++ [(k, v)] := by
  have hany : (members.any fun m => decide (m.1 = k)) = false := by
    rw [any_eq_false]
    intro m hm heq
    exact h (mem_map.mpr ⟨m, hm, of_decide_eq_true heq⟩)
  rw [setMember, hany]
  rfl

theorem readValue_quote (fuel : Nat) (s : String) (rest : List Char) :
    readValue (fuel + 1) (quote s ++ rest) = some (.str s, rest) := by
  have hread := readString_quote s rest
  simp only [quote, cons_append, append_assoc, nil_append, readValue, if_true, hread,
    Option.map_some]

section Steps

variable {fuel : Nat} {text rest : List Char} {v : Json}

theorem readItems_last (h : readValue fuel text = some (v, ']' :: rest)) :
    readItems (fuel + 1) text = some ([v], rest) := by
  rw [readItems, h]
  rfl

theorem readItems_more {rest' : List Char} {items : List Json}
    (h : readValue fuel text = some (v, ',' :: rest)) (hskip : skipSpace rest = rest)
    (hitems : readItems fuel rest = some (items, rest')) :
    readItems (fuel + 1) text = some (v :: items, rest') := by
  rw [readItems, h]
  simp only [skipSpace_cons (c := ',') rfl, hskip, hitems, Option.map_some]

variable {front : List (String × Json)} {k : String} (hskip : skipSpace text = text)

include hskip

theorem readMembers_last (h : readValue fuel text = some (v, '}' :: rest)) :
    readMembers (fuel + 1) front (quote k ++ ':' :: text) = some (setMember front k v, rest) := by
  have hclose : skipSpace ('}' :: rest) = '}' :: rest := rfl
  simp only [quote, cons_append, append_assoc, nil_append, readMembers,
    readString_quote, skipSpace_cons (c := ':') rfl, hskip, h, hclose]

theorem readMembers_more (h : readValue fuel text = some (v, ',' :: rest))
    (hskip' : skipSpace rest = rest) :
    readMembers (fuel + 1) front (quote k ++ ':' :: text) =
      readMembers fuel (setMember front k v) rest := by
  simp only [quote, cons_append, append_assoc, nil_append, readMembers,
    readString_quote, skipSpace_cons (c := ':') rfl, hskip, h, skipSpace_cons (c := ',') rfl, hskip']

end Steps

theorem Stops.cons (h : numberChar c = false) (rest : List Char) : Stops (c :: rest) := by
  simp [Stops, h]

theorem skipSpace_quote (s : String) (rest : List Char) :
    skipSpace (quote s ++ rest) = quote s ++ rest := skipSpace_cons rfl _

mutual

theorem readValue_render (v : Json) (hv : v.valid = true) {fuel : Nat} {rest : List Char}
    (hrest : Stops rest) (hfuel : (render v).length < fuel) :
    readValue fuel (render v ++ rest) = some (v, rest) := by
  obtain ⟨fuel, rfl⟩ := Nat.exists_eq_succ_of_ne_zero (Nat.ne_zero_of_lt hfuel)
  match v with
  | .null => rfl
  | .bool true => rfl
  | .bool false => rfl
  | .int n => exact readValue_of_readNumber fuel (readNumber_int n hrest)
  | .float text => exact readValue_of_readNumber fuel (readNumber_float hv hrest)
  | .str s => exact readValue_quote fuel s rest
  | .arr [] => rfl
  | .arr (v :: items) =>
    simp only [valid, validItems, and_eq_true] at hv
    simp only [render, cons_append, length_cons, length_append] at hfuel
    have hitems : readItems fuel (render v ++ (renderItems items ++ rest)) = some (v :: items, rest) :=
      readItems_render v items hv.1 hv.2 (by omega)
    simp only [render, cons_append, append_assoc, readValue]
    rw [skipSpace_render hv.1, if_neg (head?_render_ne hv.1 _), hitems]
    rfl
  | .obj [] => rfl
  | .obj ((k, v) :: members) =>
    simp only [valid, validMembers, and_eq_true, decide_eq_true_eq] at hv
    simp only [render, cons_append, length_cons, length_append] at hfuel
    have hmembers :
        readMembers fuel [] (quote k ++ ':' :: (render v ++ (renderMembers members ++ rest))) =
          some ((k, v) :: members, rest) :=
      readMembers_render [] k v members hv.2.1 hv.2.2 hv.1 (by omega)
    have hhead : (quote k ++ ':' :: (render v ++ (renderMembers members ++ rest))).head? ≠
        some '}' := by simp [quote]
    simp only [render, cons_append, append_assoc, readValue]
    rw [skipSpace_quote, if_neg (by decide), if_pos trivial, if_neg hhead, hmembers]
    rfl
termination_by fuel

theorem readItems_render (v : Json) (items : List Json) (hv : v.valid = true)
    (hitems : validItems items = true) {fuel : Nat} {rest : List Char}
    (hfuel : (render v).length + (renderItems items).length < fuel) :
    readItems fuel (render v ++ (renderItems items ++ rest)) = some (v :: items, rest) := by
  obtain ⟨fuel, rfl⟩ := Nat.exists_eq_succ_of_ne_zero (Nat.ne_zero_of_lt hfuel)
  match items with
  | [] =>
    simp only [renderItems, length_cons, length_nil] at hfuel
    exact readItems_last (readValue_render v hv (Stops.cons rfl rest) (by omega))
  | w :: items =>
    simp only [validItems, and_eq_true] at hitems
    simp only [renderItems, cons_append, length_cons, length_append] at hfuel
    simp only [renderItems, cons_append, append_assoc]
    exact readItems_more (readValue_render v hv (Stops.cons rfl _) (by omega))
      (skipSpace_render hitems.1 _) (readItems_render w items hitems.1 hitems.2 (by omega))
termination_by fuel

theorem readMembers_render (front : List (String × Json)) (k : String) (v : Json)
    (members : List (String × Json)) (hv : v.valid = true) (hmembers : validMembers members = true)
    (hnodup : ((front ++ (k, v) :: members).map Prod.fst).Nodup) {fuel : Nat} {rest : List Char}
    (hfuel : (quote k).length + ((render v).length + 1) + (renderMembers members).length < fuel) :
    readMembers fuel front (quote k ++ ':' :: (render v ++ (renderMembers members ++ rest))) =
      some (front ++ (k, v) :: members, rest) := by
  obtain ⟨fuel, rfl⟩ := Nat.exists_eq_succ_of_ne_zero (Nat.ne_zero_of_lt hfuel)
  have hset : setMember front k v = front ++ [(k, v)] := by
    rw [map_append, nodup_append'] at hnodup
    exact setMember_of_not_mem v fun hmem => hnodup.2.2 hmem (mem_cons_self ..)
  match members with
  | [] =>
    simp only [renderMembers, length_cons, length_nil] at hfuel
    simp only [renderMembers, cons_append, nil_append]
    rw [readMembers_last (skipSpace_render hv _)
      (readValue_render v hv (Stops.cons (c := '}') rfl rest) (by omega)), hset]
  | (k', w) :: members =>
    simp only [validMembers, and_eq_true] at hmembers
    simp only [renderMembers, cons_append, length_cons, length_append] at hfuel
    simp only [renderMembers, cons_append, append_assoc]
    rw [readMembers_more (skipSpace_render hv _)
      (readValue_render v hv (Stops.cons (c := ',') rfl _) (by omega)) (skipSpace_quote k' _), hset,
      readMembers_render (front ++ [(k, v)]) k' w members hmembers.1 hmembers.2
        (by simpa using hnodup) (by omega)]
    simp
termination_by fuel

end

/-! ## Sorted keys -/

theorem sortMembers_eq_map (members : List (String × Json)) :
    sortMembers members = members.map fun m => (m.1, sortKeys m.2) := by
  induction members with
  | nil => rfl
  | cons m members ih => simp only [sortMembers, ih, map_cons]

theorem validMembers_iff : validMembers members = true ↔ ∀ m ∈ members, m.2.valid = true := by
  induction members with
  | nil => simp [validMembers]
  | cons m members ih => simp [validMembers, ih]

theorem perm_sortMembers (members : List (String × Json)) :
    ((sortMembers members).insertionSort fun a b => a.1 ≤ b.1).Perm
      (members.map fun m => (m.1, sortKeys m.2)) := by
  rw [← sortMembers_eq_map]
  exact perm_insertionSort _ _

theorem nodup_sortMembers (h : (members.map Prod.fst).Nodup) :
    (((sortMembers members).insertionSort fun a b => a.1 ≤ b.1).map Prod.fst).Nodup := by
  have hperm := (perm_sortMembers members).map Prod.fst
  rw [map_map] at hperm
  exact hperm.nodup_iff.mpr h

mutual

theorem valid_sortKeys (v : Json) (h : v.valid = true) : (sortKeys v).valid = true := by
  match v with
  | .null | .bool _ | .int _ | .float _ | .str _ => exact h
  | .arr items => exact validItems_sortItems items h
  | .obj members =>
    simp only [valid, and_eq_true, decide_eq_true_eq] at h
    simp only [sortKeys, valid, and_eq_true, decide_eq_true_eq, validMembers_iff]
    refine ⟨nodup_sortMembers h.1, fun m hm => ?_⟩
    rw [mem_insertionSort] at hm
    exact validMembers_iff.mp (validMembers_sortMembers members h.2) m hm

theorem validItems_sortItems (items : List Json) (h : validItems items = true) :
    validItems (sortItems items) = true := by
  match items with
  | [] => rfl
  | v :: items =>
    simp only [validItems, and_eq_true] at h
    simp only [sortItems, validItems, and_eq_true]
    exact ⟨valid_sortKeys v h.1, validItems_sortItems items h.2⟩

theorem validMembers_sortMembers (members : List (String × Json))
    (h : validMembers members = true) : validMembers (sortMembers members) = true := by
  match members with
  | [] => rfl
  | (k, v) :: members =>
    simp only [validMembers, and_eq_true] at h
    simp only [sortMembers, validMembers, and_eq_true]
    exact ⟨valid_sortKeys v h.1, validMembers_sortMembers members h.2⟩

end

theorem loads_render (h : v.valid = true) : loads (render v) = some v := by
  have hread : readValue ((render v).length + 1) (render v ++ []) = some (v, []) :=
    readValue_render v h rfl (Nat.lt_succ_self _)
  have hskip := skipSpace_render h []
  rw [append_nil] at hread hskip
  rw [loads, hskip, hread]
  rfl

theorem loads_dumps (h : v.valid = true) : loads (dumps v) = some (sortKeys v) :=
  loads_render (valid_sortKeys v h)

/-! ## Equality -/

theorem lookup_of_mem (h : (members.map Prod.fst).Nodup)
    (hm : m ∈ members) : members.lookup m.1 = some m.2 := by
  induction members with
  | nil => cases hm
  | cons m' members ih =>
    rw [map_cons, nodup_cons] at h
    rcases mem_cons.mp hm with rfl | hm
    · rw [lookup_cons, beq_self_eq_true]
    · have hne : (m.1 == m'.1) = false := by
        rw [beq_eq_false_iff_ne]
        intro heq
        exact h.1 (heq ▸ mem_map_of_mem hm)
      rw [lookup_cons, hne]
      exact ih h.2 hm

theorem lookup_sortMembers (h : (members.map Prod.fst).Nodup) (hm : m ∈ members) :
    ((sortMembers members).insertionSort fun a b => a.1 ≤ b.1).lookup m.1 =
      some (sortKeys m.2) := by
  have hmem := (perm_sortMembers members).mem_iff.mpr (mem_map.mpr ⟨m, hm, rfl⟩)
  exact lookup_of_mem (nodup_sortMembers h) hmem

theorem eqMembers_of_forall {floats : Floats} {members' : List (String × Json)}
    (h : ∀ m ∈ members, ∃ w, members'.lookup m.1 = some w ∧ pyEq floats m.2 w = true) :
    eqMembers floats members members' = true := by
  induction members with
  | nil => rfl
  | cons m members ih =>
    obtain ⟨k, v⟩ := m
    obtain ⟨w, hlookup, heq⟩ := h (k, v) (mem_cons_self ..)
    rw [eqMembers, hlookup]
    simp only [heq, Bool.true_and]
    exact ih fun m hm => h m (mem_cons_of_mem _ hm)

section Sorted

variable {floats : Floats}

mutual

theorem pyEq_sortKeys (v : Json) (h : v.valid = true) : pyEq floats (sortKeys v) v = true := by
  match v with
  | .null => rfl
  | .bool _ => simp [sortKeys, pyEq, numberEq, toInt?]
  | .int _ => simp [sortKeys, pyEq, numberEq, toInt?]
  | .float text =>
    simpa [sortKeys, pyEq, numberEq, toInt?, isNumber] using floats.eq_self text
  | .str _ => simp [sortKeys, pyEq]
  | .arr items => exact eqItems_sortItems items h
  | .obj members =>
    simp only [valid, and_eq_true, decide_eq_true_eq] at h
    have hperm := perm_sortMembers members
    simp only [sortKeys, pyEq, and_eq_true, decide_eq_true_eq]
    refine ⟨by rw [hperm.length_eq, length_map], eqMembers_of_forall fun m hm => ?_⟩
    obtain ⟨m', hm', rfl⟩ := mem_map.mp (hperm.mem_iff.mp hm)
    exact ⟨m'.2, lookup_of_mem h.1 hm', pyEq_sortMembers members h.2 m' hm'⟩

theorem eqItems_sortItems (items : List Json) (h : validItems items = true) :
    eqItems floats (sortItems items) items = true := by
  match items with
  | [] => rfl
  | v :: items =>
    simp only [validItems, and_eq_true] at h
    simp only [sortItems, eqItems, and_eq_true]
    exact ⟨pyEq_sortKeys v h.1, eqItems_sortItems items h.2⟩

theorem pyEq_sortMembers (members : List (String × Json)) (h : validMembers members = true) :
    ∀ m ∈ members, pyEq floats (sortKeys m.2) m.2 = true := by
  match members with
  | [] => exact fun m hm => nomatch hm
  | (k, v) :: members =>
    simp only [validMembers, and_eq_true] at h
    intro m hm
    rcases mem_cons.mp hm with rfl | hm
    · exact pyEq_sortKeys v h.1
    · exact pyEq_sortMembers members h.2 m hm

end

end Sorted

theorem length_render_le_renderMembers
    (hm : m ∈ members) : (render m.2).length ≤ (renderMembers members).length := by
  induction members with
  | nil => cases hm
  | cons m' members ih =>
    obtain ⟨k, v⟩ := m'
    simp only [renderMembers, cons_append, length_cons, length_append]
    rcases mem_cons.mp hm with rfl | hm
    · dsimp only
      omega
    · have hle := ih hm
      omega

theorem length_render_le (hm : m ∈ members) :
    (render m.2).length ≤ (render (.obj members)).length := by
  cases members with
  | nil => cases hm
  | cons m' members =>
    obtain ⟨k, v⟩ := m'
    simp only [render, cons_append, length_cons, length_append]
    rcases mem_cons.mp hm with rfl | hm
    · dsimp only
      omega
    · have hle := length_render_le_renderMembers hm
      omega

theorem length_dumps_le (hm : m ∈ members) :
    (dumps m.2).length ≤ (dumps (.obj members)).length := by
  have hmem := (perm_sortMembers members).mem_iff.mpr (mem_map.mpr ⟨m, hm, rfl⟩)
  exact length_render_le hmem

end Json
