import AgentTower.Lib.Base64
import AgentTower.Lib.JsonRoundTrip
import AgentTower.App.Envelope

/-!
# The paging params of the list methods

`limit`, `order_by` and `cursor_next` of `app_contract/reads.py`.  A cursor is the offset of the next
page with the order and the filters that it was issued under, as Base64 of JSON of at most 512
characters; there is none if it would have more (`encodeCursor_of_long`).
-/

namespace AgentTower.App

open List
open String (fromUTF8? ofList)

open Routing (pyRepr)

def defaultLimit : Nat := 50

def maxLimit : Nat := 200

def maxCursorBytes : Nat := 512

def validateLimit : Option Json → Except Failure Nat
  | none => .ok defaultLimit
  | some (.int raw) =>
    if raw < 1 ∨ (maxLimit : Int) < raw then
      .error (.validationFailed "limit" ("out of bounds [1, " ++ toString maxLimit ++ "]")
        ("limit must be in [1, " ++ toString maxLimit ++ "]"))
    else .ok raw.toNat
  | some _ =>
    .error (.validationFailed "limit" "must be an integer" "limit must be an integer")

theorem validateLimit_pos {value : Option Json} {limit : Nat} (h : validateLimit value = .ok limit) :
    0 < limit := by
  unfold validateLimit at h
  split at h
  · cases h
    decide
  · split_ifs at h with hrange
    cases h
    omega
  · cases h

inductive Direction where
  | asc | desc
  deriving DecidableEq, Repr

def Direction.text : Direction → String
  | .asc => "asc"
  | .desc => "desc"

def directions : List (String × Direction) := [("asc", .asc), ("desc", .desc)]

/-- `canonical` is what a cursor remembers. -/
structure OrderBy (ο : Type) where
  field : ο
  direction : Direction
  canonical : String
  deriving DecidableEq, Repr

/-- `fieldSet` are the names of a surface with what they stand for. -/
def validateOrderBy {ο : Type} (fieldSet : List (String × ο)) (defaultField : String × ο)
    (defaultDirection : Direction) : Option Json → Except Failure (OrderBy ο)
  | none | some .null =>
    .ok ⟨defaultField.2, defaultDirection, defaultField.1 ++ ":" ++ defaultDirection.text⟩
  | some (.str raw) =>
    if raw = "" then .error wrongType
    else
      let field := ofList (raw.toList.takeWhile (· ≠ ':'))
      let direction :=
        if ':' ∈ raw.toList then ofList ((raw.toList.dropWhile (· ≠ ':')).drop 1)
        else defaultDirection.text
      match fieldSet.lookup field with
      | none =>
        .error (.validationFailed "order_by" "unknown field"
          ("order_by field " ++ pyRepr field ++ " is not in this surface's closed set"))
      | some ofField =>
        match directions.lookup direction with
        | none =>
          .error (.validationFailed "order_by" "bad direction suffix"
            ("order_by direction must be asc or desc, got " ++ pyRepr direction))
        | some ofDirection => .ok ⟨ofField, ofDirection, field ++ ":" ++ direction⟩
  | some _ => .error wrongType
where
  wrongType : Failure :=
    .validationFailed "order_by" "wrong type" "order_by must be a non-empty string"

/-! ## Cursors -/

abbrev Filters := List (String × Json)

def cursorPayload (offset : Nat) (orderBy : String) (filters : Filters) : Json :=
  .obj [("offset", .int offset), ("order_by", .str orderBy), ("filters", .obj filters)]

def encodePayload (payload : Json) : List Char :=
  Base64.encode (ofList payload.dumps).toUTF8.data.toList

def encodeCursor (offset : Nat) (orderBy : String) (filters : Filters) : Option String :=
  let encoded := encodePayload (cursorPayload offset orderBy filters)
  if maxCursorBytes < encoded.length then none else some (ofList encoded)

def cursorFailure (reason message : String) : Failure :=
  .validationFailed "cursor_next" reason message

/-- What the `try` reads; `none` is an exception. -/
def readCursor (raw : String) : Option Json :=
  if raw.toList.all fun c => decide (c.toNat < 128) then
    match Base64.decode raw.toList with
    | none => none
    | some bytes =>
      match fromUTF8? ⟨bytes.toArray⟩ with
      | none => none
      | some decoded => Json.loads decoded.toList
  else none

/-- The checks of the body; `True` is an integer. -/
def cursorOffset (floats : Json.Floats) (body : Filters) (expectedOrderBy : String)
    (expectedFilters : Filters) : Except Failure Nat :=
  let get (key : String) : Json := (body.lookup key).getD .null
  if (get "order_by").pyEq floats (.str expectedOrderBy) = false then
    .error (cursorFailure "order_by changed mid-pagination"
      "cursor_next was issued under a different order_by")
  else if (get "filters").pyEq floats (.obj expectedFilters) = false then
    .error (cursorFailure "filters changed mid-pagination"
      "cursor_next was issued under a different filter set")
  else
    match (get "offset").toInt? with
    | some offset =>
      if offset < 0 then .error (cursorFailure "bad offset" "cursor_next has malformed offset")
      else .ok offset.toNat
    | none => .error (cursorFailure "bad offset" "cursor_next has malformed offset")

def decodeCursor (floats : Json.Floats) (expectedOrderBy : String) (expectedFilters : Filters) :
    Option Json → Except Failure Nat
  | none | some .null => .ok 0
  | some (.str raw) =>
    if maxCursorBytes < raw.length then
      .error (cursorFailure "too long"
        ("cursor_next exceeds " ++ toString maxCursorBytes ++ " chars"))
    else
      match readCursor raw with
      | none =>
        .error (cursorFailure "malformed" "cursor_next is not a valid daemon-issued cursor")
      | some (.obj body) => cursorOffset floats body expectedOrderBy expectedFilters
      | some _ => .error (cursorFailure "malformed" "cursor_next payload must be a JSON object")
  | some _ => .error (cursorFailure "wrong type" "cursor_next must be a string")

/-! ## The round trip -/

section RoundTrip

variable {offset : Nat} {orderBy : String} {filters : Filters}

theorem encodeCursor_eq_some {cursor : String} (h : encodeCursor offset orderBy filters = some cursor) :
    cursor = ofList (encodePayload (cursorPayload offset orderBy filters)) ∧
      cursor.length ≤ maxCursorBytes := by
  unfold encodeCursor at h
  dsimp only at h
  split_ifs at h with hlong
  have hcursor := Option.some.inj h
  refine ⟨hcursor.symm, ?_⟩
  rw [← hcursor, String.length_ofList]
  exact Nat.not_lt.mp hlong

theorem valid_cursorPayload (h : (Json.obj filters).valid = true) :
    (cursorPayload offset orderBy filters).valid = true := by
  have hkeys : ["offset", "order_by", "filters"].Nodup := by decide
  simp only [cursorPayload, Json.valid, Json.validMembers, map_cons, map_nil] at h ⊢
  simpa [hkeys] using h

theorem readCursor_encodePayload {payload : Json} (hvalid : payload.valid = true) :
    readCursor (ofList (encodePayload payload)) = some payload.sortKeys := by
  have hascii : ∀ bytes : List UInt8,
      ((Base64.encode bytes).all fun c => decide (c.toNat < 128)) = true := by
    intro bytes
    rw [all_eq_true]
    exact fun c hc => decide_eq_true (Base64.encode_ascii bytes c hc)
  have htext : fromUTF8? ⟨(ofList payload.dumps).toUTF8.data.toList.toArray⟩ =
      some (ofList payload.dumps) := PyText.utf8Decode_utf8Encode _
  simp only [readCursor, encodePayload, String.toList_ofList, hascii, if_true, Base64.decode_encode,
    htext]
  exact Json.loads_dumps hvalid

theorem cursorOffset_of_lookup {floats : Json.Floats} {body : Filters} {written : Json}
    (hoffset : body.lookup "offset" = some (.int offset))
    (horder : body.lookup "order_by" = some (.str orderBy))
    (hfilters : body.lookup "filters" = some written)
    (heq : written.pyEq floats (.obj filters) = true) :
    cursorOffset floats body orderBy filters = .ok offset := by
  have horderEq : (Json.str orderBy).pyEq floats (.str orderBy) = true := by simp [Json.pyEq]
  simp only [cursorOffset, horder, hfilters, hoffset, Option.getD_some, horderEq, heq,
    Bool.true_eq_false, if_false, Json.toInt?, Int.not_lt.mpr (Int.natCast_nonneg offset),
    Int.toNat_natCast]

theorem decodeCursor_encodeCursor (floats : Json.Floats) {cursor : String}
    (hvalid : (Json.obj filters).valid = true)
    (h : encodeCursor offset orderBy filters = some cursor) :
    decodeCursor floats orderBy filters (some (.str cursor)) = .ok offset := by
  obtain ⟨rfl, hlength⟩ := encodeCursor_eq_some h
  have hkeys : (([("offset", .int offset), ("order_by", .str orderBy),
      ("filters", .obj filters)] : Filters).map Prod.fst).Nodup := by
    show ["offset", "order_by", "filters"].Nodup
    decide
  have hoffset := Json.lookup_sortMembers hkeys (m := ("offset", .int offset)) (by simp)
  have horder := Json.lookup_sortMembers hkeys (m := ("order_by", .str orderBy)) (by simp)
  have hfilters := Json.lookup_sortMembers hkeys (m := ("filters", .obj filters)) (by simp)
  rw [decodeCursor, if_neg (Nat.not_lt.mpr hlength), readCursor_encodePayload (valid_cursorPayload hvalid)]
  exact cursorOffset_of_lookup hoffset horder hfilters (Json.pyEq_sortKeys _ hvalid)

end RoundTrip

theorem length_le_size (text : List Char) : text.length ≤ (ofList text).toUTF8.data.size := by
  rw [String.toUTF8_eq_toByteArray]
  show text.length ≤ (ofList text).utf8ByteSize
  induction text with
  | nil => exact Nat.zero_le _
  | cons c text ih =>
    have hpos := c.utf8Size_pos
    rw [String.ofList_cons, String.utf8ByteSize_append, String.utf8ByteSize_singleton, length_cons]
    omega

theorem encodeCursor_of_long {offset : Nat} {orderBy : String} {filters : Filters}
    (h : 384 < (cursorPayload offset orderBy filters).dumps.length) :
    encodeCursor offset orderBy filters = none := by
  have hlong : maxCursorBytes < (encodePayload (cursorPayload offset orderBy filters)).length := by
    have hsize := length_le_size (cursorPayload offset orderBy filters).dumps
    rw [encodePayload, Base64.length_encode, Array.length_toList, maxCursorBytes]
    omega
  simp only [encodeCursor, if_pos hlong]

theorem encodeCursor_of_long_filter {offset : Nat} {orderBy : String} {filters : Filters}
    {filter : String × Json} (h : filter ∈ filters) (hlong : 384 < filter.2.dumps.length) :
    encodeCursor offset orderBy filters = none := by
  have hpayload : ("filters", Json.obj filters) ∈ ([("offset", .int offset),
      ("order_by", .str orderBy), ("filters", .obj filters)] : Filters) := by simp
  apply encodeCursor_of_long
  calc 384 < filter.2.dumps.length := hlong
    _ ≤ (Json.obj filters).dumps.length := Json.length_dumps_le h
    _ ≤ (cursorPayload offset orderBy filters).dumps.length := Json.length_dumps_le hpayload

end AgentTower.App
