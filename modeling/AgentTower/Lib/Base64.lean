import Mathlib.Data.List.Basic
import Mathlib.Data.List.TakeWhile

/-!
# URL-safe Base64

Encoding pads to groups of four.  Decoding is the lenient one of `binascii.a2b_base64`: it takes both
alphabets, skips every other character, and stops at a padding that completes a group.
-/

namespace Base64

open List Option

def digit (n : Nat) : Char :=
  if n < 26 then Char.ofNat (n + 65)
  else if n < 52 then Char.ofNat (n - 26 + 97)
  else if n < 62 then Char.ofNat (n - 52 + 48)
  else if n = 62 then '-' else '_'

def value (c : Char) : Option Nat :=
  if 65 ≤ c.toNat ∧ c.toNat ≤ 90 then some (c.toNat - 65)
  else if 97 ≤ c.toNat ∧ c.toNat ≤ 122 then some (c.toNat - 97 + 26)
  else if 48 ≤ c.toNat ∧ c.toNat ≤ 57 then some (c.toNat - 48 + 52)
  else if c = '-' ∨ c = '+' then some 62
  else if c = '_' ∨ c = '/' then some 63
  else none

def encode : List UInt8 → List Char
  | [] => []
  | [a] => [digit (a.toNat / 4), digit (a.toNat % 4 * 16), '=', '=']
  | [a, b] =>
    [digit (a.toNat / 4), digit (a.toNat % 4 * 16 + b.toNat / 16), digit (b.toNat % 16 * 4), '=']
  | a :: b :: c :: rest =>
    digit (a.toNat / 4) :: digit (a.toNat % 4 * 16 + b.toNat / 16) ::
      digit (b.toNat % 16 * 4 + c.toNat / 64) :: digit (c.toNat % 64) :: encode rest

/-- `pos` digits of a group have been read, `left` are the bits of the last one that make no byte yet,
and `pads` counts the padding since then. -/
def decodeFrom : Nat → Nat → Nat → List Char → Option (List UInt8)
  | pos, _, _, [] => if pos = 0 then some [] else none
  | pos, left, pads, c :: rest =>
    if c = '=' then
      if 2 ≤ pos then
        if 4 ≤ pos + (pads + 1) then some [] else decodeFrom pos left (pads + 1) rest
      else decodeFrom pos left pads rest
    else
      match value c with
      | none => decodeFrom pos left pads rest
      | some v =>
        match pos with
        | 0 => decodeFrom 1 v 0 rest
        | 1 => (decodeFrom 2 (v % 16) 0 rest).map (UInt8.ofNat (left * 4 + v / 16) :: ·)
        | 2 => (decodeFrom 3 (v % 4) 0 rest).map (UInt8.ofNat (left * 16 + v / 4) :: ·)
        | _ => (decodeFrom 0 0 0 rest).map (UInt8.ofNat (left * 64 + v) :: ·)

def decode (text : List Char) : Option (List UInt8) := decodeFrom 0 0 0 text

/-! ## The round trip -/

theorem value_digit : ∀ n < 64, value (digit n) = some n := by decide

theorem digit_ne_pad : ∀ n < 64, digit n ≠ '=' := by decide

theorem digit_ascii : ∀ n < 64, (digit n).toNat < 128 := by decide

section Digits

variable {n : Nat} (h : n < 64) (left pads : Nat) (rest : List Char)

include h

theorem decodeFrom_zero_digit :
    decodeFrom 0 left pads (digit n :: rest) = decodeFrom 1 n 0 rest := by
  simp only [decodeFrom, if_neg (digit_ne_pad n h), value_digit n h]

theorem decodeFrom_one_digit :
    decodeFrom 1 left pads (digit n :: rest) =
      (decodeFrom 2 (n % 16) 0 rest).map (UInt8.ofNat (left * 4 + n / 16) :: ·) := by
  simp only [decodeFrom, if_neg (digit_ne_pad n h), value_digit n h]

theorem decodeFrom_two_digit :
    decodeFrom 2 left pads (digit n :: rest) =
      (decodeFrom 3 (n % 4) 0 rest).map (UInt8.ofNat (left * 16 + n / 4) :: ·) := by
  simp only [decodeFrom, if_neg (digit_ne_pad n h), value_digit n h]

theorem decodeFrom_three_digit :
    decodeFrom 3 left pads (digit n :: rest) =
      (decodeFrom 0 0 0 rest).map (UInt8.ofNat (left * 64 + n) :: ·) := by
  simp only [decodeFrom, if_neg (digit_ne_pad n h), value_digit n h]

end Digits

theorem ofNat_eq {n : Nat} {a : UInt8} (h : n = a.toNat) : UInt8.ofNat n = a := by
  rw [h, UInt8.ofNat_toNat]

theorem decodeFrom_encode (bytes : List UInt8) : decodeFrom 0 0 0 (encode bytes) = some bytes := by
  induction bytes using encode.induct with
  | case1 => rfl
  | case2 a =>
    have ha := a.toNat_lt
    -- the second padding ends the input
    have hpad : decodeFrom 2 (a.toNat % 4 * 16 % 16) 0 ['=', '='] = some [] := rfl
    rw [encode, decodeFrom_zero_digit (by omega), decodeFrom_one_digit (by omega), hpad,
      map_some, ofNat_eq (a := a) (by omega)]
  | case3 a b =>
    have ha := a.toNat_lt
    have hb := b.toNat_lt
    have hpad : decodeFrom 3 (b.toNat % 16 * 4 % 4) 0 ['='] = some [] := rfl
    rw [encode, decodeFrom_zero_digit (by omega), decodeFrom_one_digit (by omega),
      decodeFrom_two_digit (by omega), hpad, map_some, map_some,
      ofNat_eq (a := a) (by omega), ofNat_eq (a := b) (by omega)]
  | case4 a b c rest ih =>
    have ha := a.toNat_lt
    have hb := b.toNat_lt
    have hc := c.toNat_lt
    rw [encode, decodeFrom_zero_digit (by omega), decodeFrom_one_digit (by omega),
      decodeFrom_two_digit (by omega), decodeFrom_three_digit (by omega), ih, map_some,
      map_some, map_some, ofNat_eq (a := a) (by omega), ofNat_eq (a := b) (by omega),
      ofNat_eq (a := c) (by omega)]

theorem decode_encode (bytes : List UInt8) : decode (encode bytes) = some bytes :=
  decodeFrom_encode bytes

theorem length_encode (bytes : List UInt8) :
    (encode bytes).length = 4 * ((bytes.length + 2) / 3) := by
  induction bytes using encode.induct with
  | case1 => rfl
  | case2 | case3 => simp [encode]
  | case4 a b c rest ih =>
    simp only [encode, length_cons, ih]
    omega

theorem encode_ascii (bytes : List UInt8) : ∀ c ∈ encode bytes, c.toNat < 128 := by
  induction bytes using encode.induct with
  | case1 =>
    intro c hc
    cases hc
  | case2 a =>
    have ha := a.toNat_lt
    simp only [encode, forall_mem_cons]
    exact ⟨digit_ascii _ (by omega), digit_ascii _ (by omega), by decide, by decide, nofun⟩
  | case3 a b =>
    have ha := a.toNat_lt
    have hb := b.toNat_lt
    simp only [encode, forall_mem_cons]
    exact ⟨digit_ascii _ (by omega), digit_ascii _ (by omega), digit_ascii _ (by omega), by decide,
      nofun⟩
  | case4 a b c rest ih =>
    have ha := a.toNat_lt
    have hb := b.toNat_lt
    have hc := c.toNat_lt
    simp only [encode, forall_mem_cons]
    exact ⟨digit_ascii _ (by omega), digit_ascii _ (by omega), digit_ascii _ (by omega),
      digit_ascii _ (by omega), ih⟩

/-! ## Without the padding -/

/-- `rstrip(b"=")`. -/
def unpad (text : List Char) : List Char := (text.reverse.dropWhile (· = '=')).reverse

/-- `text + "=" * (-len(text) % 4)`. -/
def pad (text : List Char) : List Char := text ++ List.replicate ((4 - text.length % 4) % 4) '='

theorem encode_eq_append (bytes : List UInt8) :
    ∃ digits pads, encode bytes = digits ++ List.replicate pads '=' ∧ '=' ∉ digits ∧ pads ≤ 2 := by
  induction bytes using encode.induct with
  | case1 => exact ⟨[], 0, rfl, not_mem_nil, by decide⟩
  | case2 a =>
    have ha := a.toNat_lt
    refine ⟨[digit (a.toNat / 4), digit (a.toNat % 4 * 16)], 2, rfl, ?_, by decide⟩
    simp [(digit_ne_pad _ (show a.toNat / 4 < 64 by omega)).symm,
      (digit_ne_pad _ (show a.toNat % 4 * 16 < 64 by omega)).symm]
  | case3 a b =>
    have ha := a.toNat_lt
    have hb := b.toNat_lt
    refine ⟨[digit (a.toNat / 4), digit (a.toNat % 4 * 16 + b.toNat / 16),
      digit (b.toNat % 16 * 4)], 1, rfl, ?_, by decide⟩
    simp [(digit_ne_pad _ (show a.toNat / 4 < 64 by omega)).symm,
      (digit_ne_pad _ (show a.toNat % 4 * 16 + b.toNat / 16 < 64 by omega)).symm,
      (digit_ne_pad _ (show b.toNat % 16 * 4 < 64 by omega)).symm]
  | case4 a b c rest ih =>
    have ha := a.toNat_lt
    have hb := b.toNat_lt
    have hc := c.toNat_lt
    obtain ⟨digits, pads, heq, hnot, hpads⟩ := ih
    refine ⟨digit (a.toNat / 4) :: digit (a.toNat % 4 * 16 + b.toNat / 16) ::
      digit (b.toNat % 16 * 4 + c.toNat / 64) :: digit (c.toNat % 64) :: digits, pads, ?_, ?_, hpads⟩
    · rw [encode, heq]
      rfl
    · simp [hnot, (digit_ne_pad _ (show a.toNat / 4 < 64 by omega)).symm,
        (digit_ne_pad _ (show a.toNat % 4 * 16 + b.toNat / 16 < 64 by omega)).symm,
        (digit_ne_pad _ (show b.toNat % 16 * 4 + c.toNat / 64 < 64 by omega)).symm,
        (digit_ne_pad _ (show c.toNat % 64 < 64 by omega)).symm]

theorem unpad_append {digits : List Char} (h : '=' ∉ digits) (pads : Nat) :
    unpad (digits ++ List.replicate pads '=') = digits := by
  have hdrop : (List.replicate pads '=').dropWhile (· = '=') = [] := by
    rw [dropWhile_eq_nil_iff]
    intro c hc
    simp [eq_of_mem_replicate hc]
  have hkeep : digits.reverse.dropWhile (· = '=') = digits.reverse := by
    cases hrev : digits.reverse with
    | nil => rfl
    | cons c text =>
      have hmem : c ∈ digits := by
        rw [← mem_reverse, hrev]
        exact mem_cons_self
      have hne : c ≠ '=' := fun heq => h (heq ▸ hmem)
      rw [dropWhile_cons, if_neg (by simpa using hne)]
  rw [unpad, reverse_append, reverse_replicate, dropWhile_append, hdrop]
  simp [hkeep]

theorem pad_unpad_encode (bytes : List UInt8) : pad (unpad (encode bytes)) = encode bytes := by
  obtain ⟨digits, pads, heq, hnot, hpads⟩ := encode_eq_append bytes
  have hlength := length_encode bytes
  rw [heq, length_append, length_replicate] at hlength
  rw [heq, unpad_append hnot, pad]
  have hcount : (4 - digits.length % 4) % 4 = pads := by omega
  rw [hcount]

end Base64
