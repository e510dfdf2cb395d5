import Mathlib.Data.List.Basic

/-!
# Closed sets and exceptions of the queue

The closed sets of the `message_queue` columns, the error codes, and the exception classes.  A caught
exception is matched on its method resolution order.
-/

namespace AgentTower.Routing

inductive QueueState where
  | queued | blocked | delivered | canceled | failed
  deriving DecidableEq, Repr

/-- `_BLOCK_REASONS`. -/
inductive BlockReason where
  | senderRoleNotPermitted
  | targetRoleNotPermitted
  | targetNotActive
  | targetPaneMissing
  | targetContainerInactive
  | killSwitchOff
  | operatorDelayed
  deriving DecidableEq, Repr

/-- `_FAILURE_REASONS`. -/
inductive FailureReason where
  | attemptInterrupted
  | tmuxPasteFailed
  | dockerExecFailed
  | tmuxSendKeysFailed
  | paneDisappearedMidAttempt
  | sqliteLockConflict
  deriving DecidableEq, Repr

/-- `message_queue.operator_action`. -/
inductive OperatorAction where
  | approved | delayed | canceled
  deriving DecidableEq, Repr

inductive Origin where
  | direct | route
  deriving DecidableEq, Repr

namespace QueueState

def terminal : QueueState → Bool
  | .delivered | .failed | .canceled => true
  | .queued | .blocked => false

def text : QueueState → String
  | .queued => "queued"
  | .blocked => "blocked"
  | .delivered => "delivered"
  | .canceled => "canceled"
  | .failed => "failed"

end QueueState

def BlockReason.text : BlockReason → String
  | .senderRoleNotPermitted => "sender_role_not_permitted"
  | .targetRoleNotPermitted => "target_role_not_permitted"
  | .targetNotActive => "target_not_active"
  | .targetPaneMissing => "target_pane_missing"
  | .targetContainerInactive => "target_container_inactive"
  | .killSwitchOff => "kill_switch_off"
  | .operatorDelayed => "operator_delayed"

/-- Closed-set codes of `QueueServiceError` and its subclasses. -/
inductive Code where
  | agentNotFound
  | approvalNotApplicable
  | bodyEmpty
  | bodyInvalidChars
  | bodyInvalidEncoding
  | bodyTooLarge
  | delayNotApplicable
  | deliveryInProgress
  | messageIdNotFound
  | sqliteLockConflict
  | targetLabelAmbiguous
  | terminalStateCannotChange
  deriving DecidableEq, Repr

/-- The exception classes that the routing package raises or catches. -/
inductive ExcClass where
  | exception
  | queueServiceError
  | targetResolveError
  | tmuxDeliveryError
  | sqliteLockConflict
  | bodyValidationError
  | operationalError
  | integrityError
  | keyError
  | valueError
  | routeSourceScopeInvalid
  deriving DecidableEq, Repr

/-- The method resolution order, up to `Exception`. -/
def ExcClass.mro : ExcClass → List ExcClass
  | .exception => [.exception]
  | .queueServiceError => [.queueServiceError, .exception]
  | .targetResolveError => [.targetResolveError, .queueServiceError, .exception]
  | .tmuxDeliveryError => [.tmuxDeliveryError, .queueServiceError, .exception]
  | .sqliteLockConflict =>
      [.sqliteLockConflict, .tmuxDeliveryError, .queueServiceError, .exception]
  | .bodyValidationError => [.bodyValidationError, .queueServiceError, .exception]
  | .operationalError => [.operationalError, .exception]
  | .integrityError => [.integrityError, .exception]
  | .keyError => [.keyError, .exception]
  | .valueError => [.valueError, .exception]
  | .routeSourceScopeInvalid => [.routeSourceScopeInvalid, .exception]

/-- A raised exception.  `code` is the attribute of the same name where the class has one. -/
structure PyExc where
  cls : ExcClass
  code : Option Code
  message : String
  deriving DecidableEq, Repr

def PyExc.isinstance (e : PyExc) (c : ExcClass) : Bool := decide (c ∈ e.cls.mro)

def queueServiceError (code : Code) (message : String) : PyExc :=
  ⟨.queueServiceError, some code, message⟩

def targetResolveError (code : Code) (message : String) : PyExc :=
  ⟨.targetResolveError, some code, message⟩

def sqliteLockConflict (message : String) : PyExc :=
  ⟨.sqliteLockConflict, some .sqliteLockConflict, message⟩

def integrityError (message : String) : PyExc := ⟨.integrityError, none, message⟩

def operationalError (message : String) : PyExc := ⟨.operationalError, none, message⟩

def inLower (needle text : String) : Bool :=
  (text.toList.map Char.toLower).tails.any fun t => needle.toList.isPrefixOf t

/-- What `with_lock_retry` retries: an `OperationalError` about a locked or busy database. -/
def isLockConflict (e : PyExc) : Bool :=
  e.isinstance .operationalError &&
    (inLower "database is locked" e.message || inLower "database is busy" e.message)

/-- `_LOCK_RETRY_DELAYS_S` has three entries: three retries after the first attempt. -/
def lockRetries : Nat := 3

def lockRetryExhausted (last : PyExc) : PyExc :=
  sqliteLockConflict
    ("BEGIN IMMEDIATE failed after " ++ toString (lockRetries + 1) ++ " attempts: " ++ last.message)

example : isLockConflict (operationalError "database is locked") = true := by decide

/-- One character of `repr(str)` under the quote `q`.  Printable text stands for itself, and so does
here all text above U+00FF. -/
def reprChar (q c : Char) : String :=
  if c = q ∨ c = '\\' then String.ofList ['\\', c]
  else if c = '\n' then "\\n"
  else if c = '\r' then "\\r"
  else if c = '\t' then "\\t"
  else if c.toNat < 0x20 ∨ 0x7F ≤ c.toNat ∧ c.toNat ≤ 0xA0 ∨ c.toNat = 0xAD then
    String.ofList ['\\', 'x', Nat.digitChar (c.toNat / 16), Nat.digitChar (c.toNat % 16)]
  else String.ofList [c]

/-- `repr` of a `str`: single quotes, unless the text has a single quote and no double quote. -/
def pyRepr (s : String) : String :=
  let q : Char := if '\'' ∈ s.toList ∧ '"' ∉ s.toList then '"' else '\''
  String.ofList [q] ++ String.join (s.toList.map (reprChar q)) ++ String.ofList [q]

example : pyRepr "queued" = "'queued'" ∧ pyRepr "a\x1b" = "'a\\x1b'" := by decide

end AgentTower.Routing
