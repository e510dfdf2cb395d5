import Mathlib.Algebra.Group.Int.Defs
import Mathlib.Algebra.GroupWithZero.Nat
import Mathlib.Data.List.Basic

/-!
# Python's text functions

Lines and decimal numbers as Python reads them: the newlines of a process run with `text=True`,
`splitlines`, and `int`, which takes the digits of every script.  Texts have no lone surrogates.
-/

namespace PyText

open List Option

/-- Along the text; there is also an instance that goes over all characters. -/
instance (priority := 2000) decidableForallMem {p : Char → Prop} [DecidablePred p]
    (text : List Char) : Decidable (∀ c ∈ text, p c) :=
  List.decidableBAll p text

instance lawfulBEqText : LawfulBEq (List Char) := inferInstance

/-! ## Lines -/

/-- The characters at which `str.splitlines` breaks. -/
def lineBreak (c : Char) : Bool :=
  let n := c.toNat
  decide ((0x0A ≤ n ∧ n ≤ 0x0D) ∨ (0x1C ≤ n ∧ n ≤ 0x1E) ∨ n = 0x85 ∨ n = 0x2028 ∨ n = 0x2029)

/-- The translation of a text stream: `\r\n` and `\r` become `\n`. -/
def universalNewlines : List Char → List Char
  | [] => []
  | c :: rest =>
    if c = '\r' then
      if rest.head? = some '\n' then universalNewlines rest else '\n' :: universalNewlines rest
    else c :: universalNewlines rest

def breakLines : List Char → List (List Char)
  | [] => []
  | c :: rest =>
    if lineBreak c then [] :: breakLines rest
    else
      match breakLines rest with
      | [] => [[c]]
      | line :: lines => (c :: line) :: lines

/-- `str.splitlines`; `\r\n` is one break. -/
def splitlines (text : List Char) : List (List Char) := breakLines (universalNewlines text)

variable {text line : List Char} {c : Char}

theorem universalNewlines_append (h : '\r' ∉ text) (rest : List Char) :
    universalNewlines (text ++ rest) = text ++ universalNewlines rest := by
  induction text with
  | nil => rfl
  | cons c text ih =>
    rw [mem_cons, not_or] at h
    rw [cons_append, universalNewlines, if_neg (Ne.symm h.1), ih h.2, cons_append]

theorem universalNewlines_of_not_mem (h : '\r' ∉ text) : universalNewlines text = text := by
  have happend := universalNewlines_append h []
  simpa [universalNewlines] using happend

theorem not_mem_universalNewlines (text : List Char) : '\r' ∉ universalNewlines text := by
  induction text with
  | nil => exact not_mem_nil
  | cons c text ih =>
    unfold universalNewlines
    split_ifs with hcr hlf
    · exact ih
    · simpa using ih
    · exact fun hmem => (mem_cons.mp hmem).elim (fun h => hcr h.symm) ih

theorem universalNewlines_append_newline (text : List Char) :
    ∃ text', ∀ rest, universalNewlines (text ++ '\n' :: rest) =
      text' ++ '\n' :: universalNewlines rest := by
  induction text with
  | nil => exact ⟨[], fun rest => rfl⟩
  | cons c text ih =>
    obtain ⟨text', htext⟩ := ih
    by_cases hcr : c = '\r'
    · -- the next character is the same one for every `rest`
      have hhead : ∀ rest, (text ++ '\n' :: rest).head? = some (text.headD '\n') := by
        intro rest
        cases text <;> rfl
      by_cases hlf : text.headD '\n' = '\n'
      · refine ⟨text', fun rest => ?_⟩
        rw [cons_append, universalNewlines, if_pos hcr, if_pos ((hhead rest).trans (by rw [hlf])),
          htext]
      · refine ⟨'\n' :: text', fun rest => ?_⟩
        rw [cons_append, universalNewlines, if_pos hcr, hhead rest,
          if_neg (fun h => hlf (Option.some.inj h)), htext, cons_append]
    · refine ⟨c :: text', fun rest => ?_⟩
      rw [cons_append, universalNewlines, if_neg hcr, htext, cons_append]

theorem breakLines_cons_of_not_break (h : lineBreak c = false)
    {lines : List (List Char)} (htext : breakLines text = line :: lines) :
    breakLines (c :: text) = (c :: line) :: lines := by
  rw [breakLines, h, htext]
  rfl

theorem breakLines_cons_ne_nil (c : Char) (text : List Char) : breakLines (c :: text) ≠ [] := by
  rw [breakLines]
  split
  · exact cons_ne_nil _ _
  · split <;> exact cons_ne_nil _ _

theorem breakLines_append_newline (text rest : List Char) :
    breakLines (text ++ '\n' :: rest) = breakLines (text ++ ['\n']) ++ breakLines rest := by
  induction text with
  | nil => rfl
  | cons c text ih =>
    cases hbreak : lineBreak c with
    | true => simp only [cons_append, breakLines, hbreak, if_true, ih]
    | false =>
      cases htext : breakLines (text ++ ['\n']) with
      | nil =>
        -- a text that ends in a newline has a line
        cases text with
        | nil | cons d text => exact absurd htext (breakLines_cons_ne_nil _ _)
      | cons line lines =>
        rw [htext, cons_append] at ih
        rw [cons_append, cons_append, breakLines_cons_of_not_break hbreak ih,
          breakLines_cons_of_not_break hbreak htext, cons_append]

theorem breakLines_line (h : ∀ c ∈ line, lineBreak c = false) :
    breakLines (line ++ ['\n']) = [line] := by
  induction line with
  | nil => rfl
  | cons c line ih =>
    rw [forall_mem_cons] at h
    exact breakLines_cons_of_not_break h.1 (ih h.2)

theorem splitlines_append_newline (text rest : List Char) :
    splitlines (text ++ '\n' :: rest) = splitlines (text ++ ['\n']) ++ splitlines rest := by
  obtain ⟨text', htext⟩ := universalNewlines_append_newline text
  unfold splitlines
  rw [htext rest, htext [], breakLines_append_newline]
  rfl

theorem splitlines_line (h : ∀ c ∈ line, lineBreak c = false) :
    splitlines (line ++ ['\n']) = [line] := by
  have hcr : '\r' ∉ line := fun hmem => Bool.noConfusion (h _ hmem)
  unfold splitlines
  rw [universalNewlines_append hcr]
  exact breakLines_line h

theorem splitlines_universalNewlines (text : List Char) :
    splitlines (universalNewlines text) = splitlines text := by
  unfold splitlines
  rw [universalNewlines_of_not_mem (not_mem_universalNewlines text)]

theorem mem_intercalate {sep : List Char} {texts : List (List Char)}
    (h : c ∈ sep.intercalate texts) : c ∈ sep ∨ ∃ text ∈ texts, c ∈ text := by
  induction texts with
  | nil => exact absurd h not_mem_nil
  | cons text texts ih =>
    cases texts with
    | nil =>
      refine .inr ⟨text, mem_cons_self, ?_⟩
      simpa [List.intercalate] using h
    | cons next texts =>
      have hsplit : sep.intercalate (text :: next :: texts) =
          text ++ sep ++ sep.intercalate (next :: texts) := by
        simp [List.intercalate]
      rw [hsplit, mem_append, mem_append] at h
      rcases h with (htext | hsep) | hrest
      · exact .inr ⟨text, mem_cons_self, htext⟩
      · exact .inl hsep
      · exact (ih hrest).imp_right fun ⟨t, ht, hc⟩ => ⟨t, mem_cons_of_mem _ ht, hc⟩

theorem lineBreak_of_mem_breakLines (h : line ∈ breakLines text) (hc : c ∈ line) :
    lineBreak c = false := by
  induction text generalizing line with
  | nil => exact absurd h not_mem_nil
  | cons d text ih =>
    unfold breakLines at h
    split_ifs at h with hbreak
    · rcases mem_cons.mp h with rfl | hline
      · exact absurd hc not_mem_nil
      · exact ih hline hc
    · have hd : lineBreak d = false := Bool.eq_false_iff.mpr hbreak
      cases htext : breakLines text with
      | nil =>
        rw [htext, mem_singleton] at h
        rw [h, mem_singleton] at hc
        rw [hc, hd]
      | cons first lines =>
        rw [htext] at h ih
        rcases mem_cons.mp h with rfl | hline
        · rcases mem_cons.mp hc with rfl | hmem
          · exact hd
          · exact ih mem_cons_self hmem
        · exact ih (mem_cons_of_mem _ hline) hc

theorem mem_splitOn {sep : Char} {field : List Char} (h : field ∈ text.splitOn sep) :
    sep ∉ field ∧ ∀ c ∈ field, c ∈ text := by
  induction text generalizing field with
  | nil =>
    rw [splitOn_nil, mem_singleton] at h
    subst h
    exact ⟨not_mem_nil, fun _ hc => absurd hc not_mem_nil⟩
  | cons d text ih =>
    have hlater : ∀ {field : List Char}, field ∈ text.splitOn sep →
        sep ∉ field ∧ ∀ c ∈ field, c ∈ d :: text := fun hfield =>
      ⟨(ih hfield).1, fun c hc => mem_cons_of_mem d ((ih hfield).2 c hc)⟩
    rw [splitOn_cons_eq_if_modifyHead] at h
    split_ifs at h with hsep
    · rcases mem_cons.mp h with rfl | hfield
      · exact ⟨not_mem_nil, fun _ hc => absurd hc not_mem_nil⟩
      · exact hlater hfield
    · cases hfields : text.splitOn sep with
      | nil => exact absurd hfields (splitOn_ne_nil sep text)
      | cons first fields =>
        rw [hfields] at h hlater
        rcases mem_cons.mp h with rfl | hfield
        · obtain ⟨hfirst, hsub⟩ := hlater (mem_cons_self (a := first))
          refine ⟨?_, ?_⟩
          · rw [mem_cons, not_or]
            exact ⟨fun heq => hsep (beq_iff_eq.mpr heq.symm), hfirst⟩
          · rw [forall_mem_cons]
            exact ⟨mem_cons_self, hsub⟩
        · exact hlater (mem_cons_of_mem _ hfield)

/-! ## Decimal numbers -/

def decimalZeros : List Nat :=
  0x30 :: [0x660, 0x6F0, 0x7C0, 0x966, 0x9E6, 0xA66, 0xAE6, 0xB66, 0xBE6, 0xC66, 0xCE6, 0xD66, 0xDE6,
    0xE50, 0xED0, 0xF20, 0x1040, 0x1090, 0x17E0, 0x1810, 0x1946, 0x19D0, 0x1A80, 0x1A90, 0x1B50,
    0x1BB0, 0x1C40, 0x1C50, 0xA620, 0xA8D0, 0xA900, 0xA9D0, 0xA9F0, 0xAA50, 0xABF0, 0xFF10, 0x104A0,
    0x10D30, 0x11066, 0x110F0, 0x11136, 0x111D0, 0x112F0, 0x11450, 0x114D0, 0x11650, 0x116C0,
    0x11730, 0x118E0, 0x11950, 0x11C50, 0x11D50, 0x11DA0, 0x16A60, 0x16AC0, 0x16B50, 0x1D7CE,
    0x1D7D8, 0x1D7E2, 0x1D7EC, 0x1D7F6, 0x1E140, 0x1E2F0, 0x1E950, 0x1FBF0]

def digitValue (c : Char) : Option Nat :=
  (decimalZeros.find? fun z => decide (z ≤ c.toNat ∧ c.toNat < z + 10)).map fun z => c.toNat - z

def digitGroup (group : List Char) : Option (List Nat) :=
  if group = [] then none else group.mapM digitValue

/-- `sys.int_info.default_max_str_digits`. -/
def maxStrDigits : Nat := 4300

def decimal (text : List Char) : Option Nat := do
  let digits ← ((text.splitOn '_').mapM digitGroup).map List.flatten
  if maxStrDigits < digits.length then none
  else some (digits.foldl (fun n digit => 10 * n + digit) 0)

/-- The text of `int`, without the white space around it. -/
def signed : List Char → Option Int
  | '-' :: text => (decimal text).map fun n => -(n : Int)
  | '+' :: text => (decimal text).map fun n => (n : Int)
  | text => (decimal text).map fun n => (n : Int)

theorem digitValue_of_isDigit (h : c.isDigit = true) :
    digitValue c = some (c.toNat - '0'.toNat) := by
  have hrange : 0x30 ≤ c.toNat ∧ c.toNat < 0x30 + 10 := by
    have hdigit := Char.isDigit_iff_toNat.mp h
    have hlast : '9'.toNat = 0x39 := rfl
    have hfirst : '0'.toNat = 0x30 := rfl
    omega
  have hfirst : decimalZeros.find? (fun z => decide (z ≤ c.toNat ∧ c.toNat < z + 10)) = some 0x30 :=
    List.find?_cons_of_pos (decide_eq_true hrange)
  unfold digitValue
  rw [hfirst]
  rfl

theorem mapM_digitValue (h : ∀ c ∈ text, c.isDigit = true) :
    text.mapM digitValue = some (text.map fun c => c.toNat - '0'.toNat) := by
  induction text with
  | nil => rfl
  | cons c text ih =>
    rw [forall_mem_cons] at h
    rw [mapM_cons, digitValue_of_isDigit h.1, ih h.2]
    rfl

theorem decimal_toDigits {n : Nat} (h : n < 10 ^ maxStrDigits) :
    decimal (Nat.toDigits 10 n) = some n := by
  have hdigits : ∀ c ∈ Nat.toDigits 10 n, c.isDigit = true :=
    fun c hc => Nat.isDigit_of_mem_toDigits (by decide) (by decide) hc
  have hunderscore : '_' ∉ Nat.toDigits 10 n := fun hmem => absurd (hdigits _ hmem) (by decide)
  have hgroup : digitGroup (Nat.toDigits 10 n) =
      some ((Nat.toDigits 10 n).map fun c => c.toNat - '0'.toNat) := by
    unfold digitGroup
    rw [if_neg Nat.toDigits_ne_nil, mapM_digitValue hdigits]
  have hlength : (Nat.toDigits 10 n).length ≤ maxStrDigits :=
    (Nat.length_toDigits_le_iff (by decide) (by decide)).mpr h
  unfold decimal
  rw [splitOn_eq_singleton hunderscore, mapM_cons, hgroup]
  simp only [mapM_nil, Option.pure_def, bind_eq_bind, bind_some, map_some,
    flatten_cons, flatten_nil, append_nil, length_map]
  rw [if_neg (Nat.not_lt.mpr hlength), foldl_map]
  exact congrArg some (Nat.ofDigitChars_toDigits (by decide) (by decide))

theorem signed_repr {i : Int} (h : i.natAbs < 10 ^ maxStrDigits) : signed i.repr.toList = some i := by
  cases i with
  | ofNat n =>
    have hdecimal : decimal (Nat.toDigits 10 n) = some n := decimal_toDigits h
    show signed (String.ofList (Nat.toDigits 10 n)).toList = _
    rw [String.toList_ofList]
    -- the first digit is no sign
    cases htext : Nat.toDigits 10 n with
    | nil => exact absurd htext Nat.toDigits_ne_nil
    | cons c text =>
      have hdigit : c.isDigit = true :=
        Nat.isDigit_of_mem_toDigits (by decide) (by decide) (htext ▸ mem_cons_self)
      rw [htext] at hdecimal
      unfold signed
      split
      · exact absurd hdigit (by simp_all)
      · exact absurd hdigit (by simp_all)
      · rw [hdecimal]
        rfl
  | negSucc n =>
    have hdecimal : decimal (Nat.toDigits 10 (n + 1)) = some (n + 1) := decimal_toDigits h
    show signed ("-" ++ String.ofList (Nat.toDigits 10 (n + 1))).toList = _
    rw [String.toList_append, String.toList_ofList, String.toList_ofList, singleton_append,
      signed, hdecimal]
    rfl

theorem digitValue_lt {d : Nat} (h : digitValue c = some d) : d < 10 := by
  obtain ⟨z, hz, rfl⟩ := Option.map_eq_some_iff.mp h
  have hrange : z ≤ c.toNat ∧ c.toNat < z + 10 := by simpa using List.find?_some hz
  omega

theorem forall_mem_of_mapM {α β : Type} {f : α → Option β} {P : β → Prop}
    (hf : ∀ a b, f a = some b → P b) {as : List α} {bs : List β} (h : as.mapM f = some bs) :
    ∀ b ∈ bs, P b := by
  induction as generalizing bs with
  | nil =>
    cases h
    exact fun _ hb => absurd hb not_mem_nil
  | cons a as ih =>
    simp only [mapM_cons, Option.pure_def, bind_eq_bind, Option.bind_eq_some_iff] at h
    obtain ⟨b, hb, rest, hrest, hbs⟩ := h
    cases hbs
    exact forall_mem_cons.mpr ⟨hf a b hb, ih hrest⟩

theorem foldl_digits_lt {digits : List Nat} (h : ∀ d ∈ digits, d < 10) (n : Nat) :
    digits.foldl (fun n digit => 10 * n + digit) n < (n + 1) * 10 ^ digits.length := by
  induction digits generalizing n with
  | nil => simp
  | cons d digits ih =>
    rw [forall_mem_cons] at h
    calc (d :: digits).foldl (fun n digit => 10 * n + digit) n
        < (10 * n + d + 1) * 10 ^ digits.length := ih h.2 _
      _ ≤ ((n + 1) * 10) * 10 ^ digits.length := Nat.mul_le_mul_right _ (by omega)
      _ = (n + 1) * 10 ^ (d :: digits).length := by
        rw [length_cons, Nat.pow_succ, Nat.mul_assoc, Nat.mul_comm 10]

theorem decimal_lt {n : Nat} (h : decimal text = some n) : n < 10 ^ maxStrDigits := by
  simp only [decimal, bind_eq_bind, Option.bind_eq_some_iff, Option.map_eq_some_iff] at h
  obtain ⟨digits, ⟨groups, hgroups, rfl⟩, hn⟩ := h
  split_ifs at hn with hlength
  cases hn
  have hdigits : ∀ d ∈ groups.flatten, d < 10 := by
    have hgroup : ∀ group digits, digitGroup group = some digits → ∀ d ∈ digits, d < 10 := by
      intro group digits hdigits
      unfold digitGroup at hdigits
      split_ifs at hdigits
      exact forall_mem_of_mapM (fun _ _ => digitValue_lt) hdigits
    intro d hd
    obtain ⟨group, hmem, hd⟩ := mem_flatten.mp hd
    exact forall_mem_of_mapM hgroup hgroups group hmem d hd
  calc groups.flatten.foldl (fun n digit => 10 * n + digit) 0
      < (0 + 1) * 10 ^ groups.flatten.length := foldl_digits_lt hdigits 0
    _ ≤ 10 ^ maxStrDigits := by
      rw [Nat.zero_add, Nat.one_mul]
      exact Nat.pow_le_pow_right (by decide) (Nat.le_of_not_lt hlength)

theorem signed_lt {i : Int} (h : signed text = some i) : i.natAbs < 10 ^ maxStrDigits := by
  unfold signed at h
  split at h
  all_goals
    obtain ⟨_, hlift, rfl⟩ := Option.map_eq_some_iff.mp h
    obtain ⟨n, hn, hcast⟩ := Option.bind_eq_some_iff.mp hlift
    cases hcast
    have hlt := decimal_lt hn
    omega

/-! ## UTF-8 -/

def utf8Encode (s : String) : List UInt8 := s.toUTF8.data.toList

def utf8Decode (bytes : List UInt8) : Option String := String.fromUTF8? ⟨bytes.toArray⟩

theorem utf8Decode_utf8Encode (s : String) : utf8Decode (utf8Encode s) = some s := by
  have hbytes : (⟨s.toUTF8.data.toList.toArray⟩ : ByteArray) = s.toUTF8 := by
    rw [Array.toArray_toList]
  rw [utf8Decode, utf8Encode, hbytes, String.toUTF8_eq_toByteArray, String.fromUTF8?,
    dif_pos s.isValidUTF8]
  rfl

open String (utf8EncodeChar utf8EncodeChar_ne_nil length_utf8EncodeChar
  toByteArray_utf8EncodeChar_of_utf8DecodeChar?_eq_some)
open ByteArray (utf8DecodeChar? utf8DecodeChar?_append_eq_some isUTF8FirstByte_of_isSome_utf8DecodeChar?)

def encode (text : List Char) : List UInt8 := text.flatMap utf8EncodeChar

/-- `bytes.decode("utf-8", errors="ignore")`: a byte at which no character begins is dropped.  Python
drops a malformed part as a whole, but no character begins at any of its bytes. -/
def decodeIgnore : List UInt8 → List Char
  | [] => []
  | b :: rest =>
    match utf8DecodeChar? ⟨(b :: rest).toArray⟩ 0 with
    | some c => c :: decodeIgnore (rest.drop (c.utf8Size - 1))
    | none => decodeIgnore rest
termination_by bytes => bytes.length

/-- The longest beginning of a text that takes at most `n` bytes. -/
structure LongestFit (n : Nat) (text kept : List Char) : Prop where
  begins : kept <+: text
  fits : (encode kept).length ≤ n
  longest : ∀ other, other <+: text → (encode other).length ≤ n → other <+: kept

variable {bytes : List UInt8} {n : Nat}

theorem decodeChar_append (c : Char) (bytes : List UInt8) :
    utf8DecodeChar? ⟨(utf8EncodeChar c ++ bytes).toArray⟩ 0 = some c := by
  have happend := utf8DecodeChar?_append_eq_some
    (utf8DecodeChar?_utf8Encode_singleton (c := c)) ⟨bytes.toArray⟩
  have hbytes : [c].utf8Encode ++ ⟨bytes.toArray⟩ =
      (⟨(utf8EncodeChar c ++ bytes).toArray⟩ : ByteArray) := by
    apply ByteArray.ext
    simp [List.utf8Encode]
  rwa [hbytes] at happend

theorem decodeIgnore_append (c : Char) (bytes : List UInt8) :
    decodeIgnore (utf8EncodeChar c ++ bytes) = c :: decodeIgnore bytes := by
  have hchar := decodeChar_append c bytes
  have hlength := length_utf8EncodeChar c
  cases hfirst : utf8EncodeChar c with
  | nil => exact absurd hfirst utf8EncodeChar_ne_nil
  | cons b rest =>
    rw [hfirst, cons_append] at hchar
    rw [hfirst, length_cons] at hlength
    rw [cons_append, decodeIgnore, hchar]
    simp only [← hlength, Nat.add_sub_cancel, drop_left]

theorem not_first_of_tail (c : Char) : ∀ b ∈ (utf8EncodeChar c).tail, ¬b.IsUTF8FirstByte := by
  have hlow : ∀ n < 64, ¬(UInt8.ofNat n + 128).IsUTF8FirstByte := by decide
  have hmod : ∀ n, ¬(UInt8.ofNat (n % 64) + 128).IsUTF8FirstByte :=
    fun n => hlow _ (Nat.mod_lt n (by decide))
  rw [utf8EncodeChar.eq_1]
  split_ifs <;> simp [hmod]

theorem decodeIgnore_of_not_first (h : ∀ b ∈ bytes, ¬b.IsUTF8FirstByte) : decodeIgnore bytes = [] := by
  induction bytes with
  | nil => rw [decodeIgnore]
  | cons b rest ih =>
    rw [forall_mem_cons] at h
    have hnone : utf8DecodeChar? ⟨(b :: rest).toArray⟩ 0 = none := by
      rw [← not_isSome_iff_eq_none]
      exact fun hsome => h.1 (isUTF8FirstByte_of_isSome_utf8DecodeChar? hsome)
    rw [decodeIgnore, hnone]
    exact ih h.2

/-- A character that is cut is dropped: its first byte needs the others, which begin no character. -/
theorem decodeIgnore_take_char {c : Char} (h : n < c.utf8Size) :
    decodeIgnore ((utf8EncodeChar c).take n) = [] := by
  have htail := not_first_of_tail c
  cases hfirst : utf8EncodeChar c with
  | nil => exact absurd hfirst utf8EncodeChar_ne_nil
  | cons b rest =>
    cases n with
    | zero => rw [take_zero, decodeIgnore]
    | succ n =>
      have hnone : utf8DecodeChar? ⟨(b :: rest.take n).toArray⟩ 0 = none := by
        rw [eq_none_iff_forall_ne_some]
        intro d hd
        have hall := utf8DecodeChar?_append_eq_some hd ⟨(rest.drop n).toArray⟩
        have hbytes : (⟨(b :: rest.take n).toArray⟩ ++ ⟨(rest.drop n).toArray⟩ : ByteArray) =
            ⟨(utf8EncodeChar c ++ []).toArray⟩ := by
          apply ByteArray.ext
          simp [hfirst]
        rw [hbytes, decodeChar_append] at hall
        cases hall
        have hsize := congrArg ByteArray.size
          (toByteArray_utf8EncodeChar_of_utf8DecodeChar?_eq_some hd)
        simp [ByteArray.size] at hsize
        omega
      rw [hfirst] at htail
      rw [take_succ_cons, decodeIgnore, hnone]
      exact decodeIgnore_of_not_first fun b hb => htail b (mem_of_mem_take hb)

theorem decodeIgnore_take (n : Nat) (text : List Char) :
    LongestFit n text (decodeIgnore ((encode text).take n)) := by
  induction text generalizing n with
  | nil =>
    have hnil : decodeIgnore ((encode []).take n) = [] := by rw [encode, flatMap_nil, take_nil, decodeIgnore]
    rw [hnil]
    exact ⟨ nil_prefix, Nat.zero_le n, fun _ h _ => h⟩
  | cons c text ih =>
    have hcons : ∀ more, (encode (c :: more)).length = c.utf8Size + (encode more).length := by
      intro more
      rw [encode, flatMap_cons, length_append, length_utf8EncodeChar, encode]
    by_cases hn : c.utf8Size ≤ n
    · obtain ⟨hbegins, hfits, hlongest⟩ := ih (n - c.utf8Size)
      have htake : (encode (c :: text)).take n =
          utf8EncodeChar c ++ (encode text).take (n - c.utf8Size) := by
        rw [encode, flatMap_cons, take_append, length_utf8EncodeChar,
          take_of_length_le (by rwa [length_utf8EncodeChar]), encode]
      rw [htake, decodeIgnore_append]
      refine ⟨(prefix_cons_inj c).mpr hbegins, by rw [hcons]; omega, fun other hother hsize => ?_⟩
      rcases prefix_cons_iff.mp hother with rfl | ⟨more, rfl, hmore⟩
      · exact nil_prefix
      · rw [hcons] at hsize
        exact (prefix_cons_inj c).mpr (hlongest more hmore (by omega))
    · have htake : (encode (c :: text)).take n = (utf8EncodeChar c).take n := by
        rw [encode, flatMap_cons, take_append_of_le_length (by rw [length_utf8EncodeChar]; omega)]
      rw [htake, decodeIgnore_take_char (Nat.not_le.mp hn)]
      refine ⟨ nil_prefix, Nat.zero_le n, fun other hother hsize => ?_⟩
      rcases prefix_cons_iff.mp hother with rfl | ⟨more, rfl, -⟩
      · exact nil_prefix
      · rw [hcons] at hsize
        omega

end PyText
