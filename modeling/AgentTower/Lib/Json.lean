import Mathlib.Data.List.Sort

/-!
# JSON as Python reads, writes and compares it

`json.dumps(.., separators=(",", ":"), sort_keys=True)` and `json.loads`, on values whose objects are in
the order of insertion.  A float is the text that is printed for it; a text has no lone surrogates.
-/

inductive Json where
  | null
  | bool (b : Bool)
  | int (n : Int)
  | float (text : String)
  | str (s : String)
  | arr (items : List Json)
  | obj (members : List (String × Json))
  deriving Repr

namespace Json

/-! ## Writing -/

def hexDigit (n : Nat) : Char := if n < 10 then Char.ofNat (n + 48) else Char.ofNat (n - 10 + 97)

def hex4 (n : Nat) : List Char :=
  [hexDigit (n / 4096), hexDigit (n / 256 % 16), hexDigit (n / 16 % 16), hexDigit (n % 16)]

def shortEscape (c : Char) : Option Char :=
  if c = '"' then some '"'
  else if c = '\\' then some '\\'
  else if c = '\n' then some 'n'
  else if c = '\r' then some 'r'
  else if c = '\t' then some 't'
  else if c = '\x0c' then some 'f'
  else if c = '\x08' then some 'b'
  else none

/-- `ensure_ascii`; a character beyond the first plane is a pair of surrogates. -/
def escape (c : Char) : List Char :=
  match shortEscape c with
  | some e => ['\\', e]
  | none =>
    if 0x20 ≤ c.toNat ∧ c.toNat ≤ 0x7e then [c]
    else if c.toNat < 0x10000 then '\\' :: 'u' :: hex4 c.toNat
    else
      '\\' :: 'u' :: hex4 (0xd800 + (c.toNat - 0x10000) / 1024) ++
        '\\' :: 'u' :: hex4 (0xdc00 + (c.toNat - 0x10000) % 1024)

def quote (s : String) : List Char := '"' :: s.toList.flatMap escape ++ ['"']

mutual

def render : Json → List Char
  | .null => "null".toList
  | .bool true => "true".toList
  | .bool false => "false".toList
  | .int n => (toString n).toList
  | .float text => text.toList
  | .str s => quote s
  | .arr [] => ['[', ']']
  | .arr (v :: items) => '[' :: render v ++ renderItems items
  | .obj [] => ['{', '}']
  | .obj ((k, v) :: members) => '{' :: quote k ++ ':' :: render v ++ renderMembers members

def renderItems : List Json → List Char
  | [] => [']']
  | v :: items => ',' :: render v ++ renderItems items

def renderMembers : List (String × Json) → List Char
  | [] => ['}']
  | (k, v) :: members => ',' :: quote k ++ ':' :: render v ++ renderMembers members

end

mutual

def sortKeys : Json → Json
  | .arr items => .arr (sortItems items)
  | .obj members => .obj ((sortMembers members).insertionSort fun a b => a.1 ≤ b.1)
  | v => v

def sortItems : List Json → List Json
  | [] => []
  | v :: items => sortKeys v :: sortItems items

def sortMembers : List (String × Json) → List (String × Json)
  | [] => []
  | (k, v) :: members => (k, sortKeys v) :: sortMembers members

end

def dumps (v : Json) : List Char := render (sortKeys v)

/-! ## Reading -/

def isSpace (c : Char) : Bool := decide (c = ' ' ∨ c = '\t' ∨ c = '\n' ∨ c = '\r')

def skipSpace (text : List Char) : List Char := text.dropWhile isSpace

def hexValue (c : Char) : Option Nat :=
  if 48 ≤ c.toNat ∧ c.toNat ≤ 57 then some (c.toNat - 48)
  else if 97 ≤ c.toNat ∧ c.toNat ≤ 102 then some (c.toNat - 97 + 10)
  else if 65 ≤ c.toNat ∧ c.toNat ≤ 70 then some (c.toNat - 65 + 10)
  else none

def readHex4 : List Char → Option (Nat × List Char)
  | a :: b :: c :: d :: rest => do
    let a ← hexValue a
    let b ← hexValue b
    let c ← hexValue c
    let d ← hexValue d
    some (a * 4096 + b * 256 + c * 16 + d, rest)
  | _ => none

def readShortEscape (c : Char) : Option Char :=
  if c = '"' then some '"'
  else if c = '\\' then some '\\'
  else if c = '/' then some '/'
  else if c = 'b' then some '\x08'
  else if c = 'f' then some '\x0c'
  else if c = 'n' then some '\n'
  else if c = 'r' then some '\r'
  else if c = 't' then some '\t'
  else none

def readLowSurrogate (high : Nat) : List Char → Option (Char × List Char)
  | '\\' :: 'u' :: rest =>
    match readHex4 rest with
    | some (low, rest) =>
      if 0xdc00 ≤ low ∧ low < 0xe000 then
        some (Char.ofNat (0x10000 + ((high - 0xd800) * 1024 + (low - 0xdc00))), rest)
      else none
    | none => none
  | _ => none

def readEscape : List Char → Option (Char × List Char)
  | [] => none
  | c :: rest =>
    if c = 'u' then
      match readHex4 rest with
      | some (n, rest) =>
        if 0xd800 ≤ n ∧ n < 0xdc00 then readLowSurrogate n rest
        else if 0xdc00 ≤ n ∧ n < 0xe000 then none
        else some (Char.ofNat n, rest)
      | none => none
    else (readShortEscape c).map (·, rest)

def readChars : Nat → List Char → Option (List Char × List Char)
  | 0, _ | _ + 1, [] => none
  | fuel + 1, c :: rest =>
    if c = '"' then some ([], rest)
    else if c = '\\' then
      match readEscape rest with
      | some (c, rest) => (readChars fuel rest).map fun (cs, rest) => (c :: cs, rest)
      | none => none
    else if c.toNat < 0x20 then none
    else (readChars fuel rest).map fun (cs, rest) => (c :: cs, rest)

def readString (text : List Char) : Option (String × List Char) :=
  (readChars (text.length + 1) text).map fun (cs, rest) => (String.ofList cs, rest)

def splitDigits (text : List Char) : List Char × List Char :=
  (text.takeWhile Char.isDigit, text.dropWhile Char.isDigit)

/-- `0|[1-9][0-9]*`. -/
def splitWhole (text : List Char) : List Char × List Char :=
  if text.head? = some '0' then (['0'], text.tail) else splitDigits text

/-- `c?`. -/
def splitChar (c : Char) (text : List Char) : List Char × List Char :=
  if text.head? = some c then ([c], text.tail) else ([], text)

/-- `(\.[0-9]+)?`. -/
def splitFraction (text : List Char) : List Char × List Char :=
  if text.head? = some '.' ∧ (splitDigits text.tail).1 ≠ [] then
    ('.' :: (splitDigits text.tail).1, (splitDigits text.tail).2)
  else ([], text)

/-- `[-+]?[0-9]+`. -/
def splitSigned (text : List Char) : List Char × List Char :=
  let (minus, text₁) := splitChar '-' text
  let (sign, text₂) := if minus = [] then splitChar '+' text₁ else (minus, text₁)
  if (splitDigits text₂).1 = [] then ([], text)
  else (sign ++ (splitDigits text₂).1, (splitDigits text₂).2)

/-- `([eE]..)?`. -/
def splitExponent (text : List Char) : List Char × List Char :=
  if (text.head? = some 'e' ∨ text.head? = some 'E') ∧ (splitSigned text.tail).1 ≠ [] then
    (text.take 1 ++ (splitSigned text.tail).1, (splitSigned text.tail).2)
  else ([], text)

def intValue (sign whole : List Char) : Int :=
  if sign = [] then (Nat.ofDigitChars 10 whole 0 : Int) else -(Nat.ofDigitChars 10 whole 0 : Int)

def readDecimal (text : List Char) : Option (Json × List Char) :=
  let (sign, text₁) := splitChar '-' text
  let (whole, text₂) := splitWhole text₁
  let (fraction, text₃) := splitFraction text₂
  let (exponent, rest) := splitExponent text₃
  if whole = [] then none
  else if fraction = [] ∧ exponent = [] then some (.int (intValue sign whole), rest)
  else some (.float (String.ofList (sign ++ whole ++ fraction ++ exponent)), rest)

def literal (word : String) (text : List Char) : Option (List Char) :=
  if word.toList.isPrefixOf text then some (text.drop word.length) else none

def readNumber (text : List Char) : Option (Json × List Char) :=
  if text.head? = some 'N' then (literal "NaN" text).map (.float "NaN", ·)
  else if text.head? = some 'I' then (literal "Infinity" text).map (.float "Infinity", ·)
  else if text.take 2 = ['-', 'I'] then (literal "-Infinity" text).map (.float "-Infinity", ·)
  else readDecimal text

def setMember (members : List (String × Json)) (k : String) (v : Json) : List (String × Json) :=
  if members.any fun m => decide (m.1 = k) then
    members.map fun m => if m.1 = k then (k, v) else m
  else members ++ [(k, v)]

mutual

def readValue : Nat → List Char → Option (Json × List Char)
  | 0, _ | _ + 1, [] => none
  | fuel + 1, c :: rest =>
    if c = '"' then (readString rest).map fun (s, rest) => (.str s, rest)
    else if c = '{' then
      if (skipSpace rest).head? = some '}' then some (.obj [], (skipSpace rest).tail)
      else (readMembers fuel [] (skipSpace rest)).map fun (members, rest) => (.obj members, rest)
    else if c = '[' then
      if (skipSpace rest).head? = some ']' then some (.arr [], (skipSpace rest).tail)
      else (readItems fuel (skipSpace rest)).map fun (items, rest) => (.arr items, rest)
    else if c = 'n' then (literal "ull" rest).map (.null, ·)
    else if c = 't' then (literal "rue" rest).map (.bool true, ·)
    else if c = 'f' then (literal "alse" rest).map (.bool false, ·)
    else readNumber (c :: rest)

def readItems : Nat → List Char → Option (List Json × List Char)
  | 0, _ => none
  | fuel + 1, text =>
    match readValue fuel text with
    | none => none
    | some (v, rest) =>
      match skipSpace rest with
      | ']' :: rest => some ([v], rest)
      | ',' :: rest => (readItems fuel (skipSpace rest)).map fun (items, rest) => (v :: items, rest)
      | _ => none

/-- `members` are those in front. -/
def readMembers : Nat → List (String × Json) → List Char →
    Option (List (String × Json) × List Char)
  | fuel + 1, members, '"' :: rest =>
    match readString rest with
    | none => none
    | some (k, rest) =>
      match skipSpace rest with
      | ':' :: rest =>
        match readValue fuel (skipSpace rest) with
        | none => none
        | some (v, rest) =>
          match skipSpace rest with
          | '}' :: rest => some (setMember members k v, rest)
          | ',' :: rest => readMembers fuel (setMember members k v) (skipSpace rest)
          | _ => none
      | _ => none
  | _, _, _ => none

end

def loads (text : List Char) : Option Json :=
  match readValue (text.length + 1) (skipSpace text) with
  | some (v, rest) => if skipSpace rest = [] then some v else none
  | none => none

def floatText (text : String) : Bool :=
  match readNumber text.toList with
  | some (.float text', []) => decide (text' = text)
  | _ => false

mutual

def valid : Json → Bool
  | .float text => floatText text
  | .arr items => validItems items
  | .obj members => decide (members.map Prod.fst).Nodup && validMembers members
  | _ => true

def validItems : List Json → Bool
  | [] => true
  | v :: items => valid v && validItems items

def validMembers : List (String × Json) → Bool
  | [] => true
  | (_, v) :: members => valid v && validMembers members

end

/-! ## Comparisons -/

/-- The integer that a value is; `True` is one. -/
def toInt? : Json → Option Int
  | .bool b => some (if b then 1 else 0)
  | .int n => some n
  | _ => none

def isNumber : Json → Bool
  | .bool _ | .int _ | .float _ => true
  | _ => false

/-- What Python does with a float on one of the sides.  A `NaN` that was read is always the same
object, and what is compared inside of a list or an object is compared by identity first. -/
structure Floats where
  eq : Json → Json → Bool
  gt : Json → Json → Bool
  eq_self : ∀ text, eq (.float text) (.float text) = true

def numberEq (floats : Floats) (v w : Json) : Bool :=
  match v.toInt?, w.toInt? with
  | some m, some n => decide (m = n)
  | _, _ => v.isNumber && w.isNumber && floats.eq v w

mutual

/-- `v == w`; the members of an object have no order. -/
def pyEq (floats : Floats) : Json → Json → Bool
  | .null, .null => true
  | .str s, .str t => decide (s = t)
  | .arr items, .arr items' => eqItems floats items items'
  | .obj members, .obj members' =>
    decide (members.length = members'.length) && eqMembers floats members members'
  | v, w => numberEq floats v w

def eqItems (floats : Floats) : List Json → List Json → Bool
  | [], [] => true
  | v :: items, w :: items' => pyEq floats v w && eqItems floats items items'
  | _, _ => false

def eqMembers (floats : Floats) : List (String × Json) → List (String × Json) → Bool
  | [], _ => true
  | (k, v) :: members, members' =>
    (match members'.lookup k with
      | some w => pyEq floats v w
      | none => false) && eqMembers floats members members'

end

def numberGt (floats : Floats) (v w : Json) : Option Bool :=
  match v.toInt?, w.toInt? with
  | some m, some n => some (decide (n < m))
  | _, _ => if v.isNumber && w.isNumber then some (floats.gt v w) else none

mutual

/-- `v > w`; `none` is a `TypeError`. -/
def pyGt (floats : Floats) : Json → Json → Option Bool
  | .str s, .str t => some (decide (t < s))
  | .arr items, .arr items' => gtItems floats items items'
  | v, w => numberGt floats v w

def gtItems (floats : Floats) : List Json → List Json → Option Bool
  | [], _ => some false
  | _ :: _, [] => some true
  | v :: items, w :: items' => if pyEq floats v w then gtItems floats items items' else pyGt floats v w

end

/-- `bool(v)`; a float is given by its `repr`. -/
def truthy : Json → Bool
  | .null => false
  | .bool b => b
  | .int n => decide (n ≠ 0)
  | .float text => decide (text ∉ ["0.0", "-0.0"])
  | .str s => decide (s ≠ "")
  | .arr items => !items.isEmpty
  | .obj members => !members.isEmpty

def typeName : Json → String
  | .null => "NoneType"
  | .bool _ => "bool"
  | .int _ => "int"
  | .float _ => "float"
  | .str _ => "str"
  | .arr _ => "list"
  | .obj _ => "dict"

end Json
