import AgentTower.Routing.Permissions

/-!
# Envelope rendering and body validation

A body is a list of bytes.  The size cap is on the serialized envelope, headers included, so the
size that is stored with a row is the size of the rendering and not of the body.
-/

namespace AgentTower.Routing

open Fallible (bind_eq_ok)

/-- One side of the envelope: the four identity fields that are frozen at enqueue time. -/
structure EnvelopeIdentity where
  agentId : String
  label : String
  role : Role
  capability : Option String
  deriving DecidableEq, Repr

/-- The identity that `send_input` captures from a registry record. -/
def AgentRecord.identity (a : AgentRecord) : EnvelopeIdentity :=
  ⟨a.agentId, a.label, a.role, some a.capability⟩

def continuation (b : UInt8) : Bool := 0x80 ≤ b && b ≤ 0xBF

/-- Whether strict UTF-8 decoding accepts the bytes: the well-formed sequences have one to four
bytes, without overlong forms, surrogates or code points past the last one. -/
def utf8Valid : List UInt8 → Bool
  | [] => true
  | a :: t =>
    if a < 0x80 then utf8Valid t
    else match t with
      | [] => false
      | b :: t =>
        if 0xC2 ≤ a && a ≤ 0xDF && continuation b then utf8Valid t
        else match t with
          | [] => false
          | c :: t =>
            if ((a = 0xE0 && 0xA0 ≤ b && b ≤ 0xBF) ||
                (a = 0xED && 0x80 ≤ b && b ≤ 0x9F) ||
                (0xE1 ≤ a && a ≤ 0xEF && a ≠ 0xED && continuation b)) && continuation c then
              utf8Valid t
            else match t with
              | [] => false
              | d :: t =>
                ((a = 0xF0 && 0x90 ≤ b && b ≤ 0xBF) || (0xF1 ≤ a && a ≤ 0xF3 && continuation b) ||
                  (a = 0xF4 && 0x80 ≤ b && b ≤ 0x8F)) && continuation c && continuation d &&
                utf8Valid t

def forbiddenBodyByte (b : UInt8) : Bool := (b < 0x20 || b = 0x7F) && b ≠ 0x09 && b ≠ 0x0A

def hexDigit (n : Nat) : Char := if n < 10 then Char.ofNat (48 + n) else Char.ofNat (87 + n)

def hexByte (b : UInt8) : String :=
  String.ofList [hexDigit (b.toNat / 16), hexDigit (b.toNat % 16)]

def bodyValidationError (code : Code) (message : String) : PyExc :=
  ⟨.bodyValidationError, some code, message⟩

/-- `decodeErrorText` is the interpreter's text of the `UnicodeDecodeError`. -/
def validateBody (decodeErrorText : List UInt8 → String) (body : List UInt8) :
    Except PyExc Unit :=
  if body.length = 0 then .error (bodyValidationError .bodyEmpty "body must not be empty")
  else if !utf8Valid body then
    .error (bodyValidationError .bodyInvalidEncoding
      ("body is not valid UTF-8: " ++ decodeErrorText body))
  else
    match body.find? forbiddenBodyByte with
    | some byte =>
      .error (bodyValidationError .bodyInvalidChars
        ("body contains disallowed byte 0x" ++ hexByte byte
          ++ " (only \\n and \\t are allowed among ASCII controls)"))
    | none => .ok ()

def encode (s : String) : List UInt8 := s.toList.flatMap String.utf8EncodeChar

/-- `[capability=…]`, left out for `None` and for the empty string. -/
def capabilityTag : Option String → String
  | none => ""
  | some c => if c = "" then "" else " [capability=" ++ c ++ "]"

def identityLine (i : EnvelopeIdentity) : String :=
  i.agentId ++ " \"" ++ i.label ++ "\" " ++ i.role.text ++ capabilityTag i.capability

def renderEnvelope (messageId : String) (sender target : EnvelopeIdentity) (body : List UInt8) :
    List UInt8 :=
  encode ("Message-Id: " ++ messageId ++ "\n" ++ "From: " ++ identityLine sender ++ "\n"
    ++ "To: " ++ identityLine target ++ "\n"
    ++ "Type: prompt\n"
    ++ "Priority: normal\n"
    ++ "Requires-Reply: yes\n"
    ++ "\n") ++ body

def serializeAndCheckSize (decodeErrorText : List UInt8 → String) (messageId : String)
    (sender target : EnvelopeIdentity) (body : List UInt8) (maxBytes : Nat) :
    Except PyExc (List UInt8) := do
  validateBody decodeErrorText body
  let rendered := renderEnvelope messageId sender target body
  if rendered.length > maxBytes then
    .error (bodyValidationError .bodyTooLarge
      ("serialized envelope is " ++ toString rendered.length ++ " bytes; max "
        ++ toString maxBytes))
  else .ok rendered

def defaultEnvelopeBodyMaxBytes : Nat := 65536

variable {decodeErrorText : List UInt8 → String} {body : List UInt8}

variable {messageId : String} {sender target : EnvelopeIdentity} {maxBytes : Nat} {e : PyExc}

theorem serializeAndCheckSize_eq_ok {rendered : List UInt8}
    (h : serializeAndCheckSize decodeErrorText messageId sender target body maxBytes
      = .ok rendered) :
    validateBody decodeErrorText body = .ok () ∧
      rendered = renderEnvelope messageId sender target body ∧ rendered.length ≤ maxBytes := by
  obtain ⟨_, hbody, h⟩ := bind_eq_ok.mp h
  simp only at h
  split at h
  · cases h
  · rename_i hsize
    have hrendered := (Except.ok.inj h).symm
    rw [hrendered]
    exact ⟨hbody, rfl, by omega⟩

theorem validateBody_error (h : validateBody decodeErrorText body = .error e) :
    e.cls = .bodyValidationError ∧ e.code ≠ some .sqliteLockConflict := by
  unfold validateBody at h
  split_ifs at h
  · cases h
    exact ⟨rfl, nofun⟩
  · cases h
    exact ⟨rfl, nofun⟩
  · split at h <;> cases h
    exact ⟨rfl, nofun⟩

theorem serializeAndCheckSize_error
    (h : serializeAndCheckSize decodeErrorText messageId sender target body maxBytes = .error e) :
    e.cls = .bodyValidationError ∧ e.code ≠ some .sqliteLockConflict := by
  unfold serializeAndCheckSize at h
  cases hbody : validateBody decodeErrorText body with
  | error e' =>
    rw [hbody] at h
    cases h
    exact validateBody_error hbody
  | ok u =>
    rw [hbody] at h
    simp only [bind, Except.bind] at h
    split at h <;> cases h
    exact ⟨rfl, nofun⟩

/-- A rendered envelope is longer than its body, so it satisfies the `CHECK` on the stored size
even though no code tests it. -/
theorem length_lt_renderEnvelope (messageId : String) (sender target : EnvelopeIdentity)
    (body : List UInt8) : body.length < (renderEnvelope messageId sender target body).length := by
  unfold renderEnvelope encode
  rw [List.length_append]
  simp only [String.toList_append, List.flatMap_append, List.length_append]
  have hM : 0 < ("Message-Id: ".toList.flatMap String.utf8EncodeChar).length := by decide
  omega

end AgentTower.Routing
