import AgentTower.Agents.Validation

/-!
# Params and envelopes of the `app.*` methods

A param is a JSON value of which the handlers ask the type; an absent one is `none` in the requests.
A handler answers with a success or with a `Failure`, whose code, message and details are those of
`app_contract/envelope.py`.
-/

namespace AgentTower.App

open Routing (pyRepr)

inductive Param where
  | null
  | text (s : String)
  | int (n : Int)
  | bool (b : Bool)
  /-- A float, a list or an object, as far as the handlers look at it. -/
  | other (typeName repr : String) (truthy : Bool)
  deriving DecidableEq, Repr

namespace Param

def typeName : Param → String
  | .null => "NoneType"
  | .text _ => "str"
  | .int _ => "int"
  | .bool _ => "bool"
  | .other typeName _ _ => typeName

def repr : Param → String
  | .null => "None"
  | .text s => pyRepr s
  | .int n => toString n
  | .bool true => "True"
  | .bool false => "False"
  | .other _ repr _ => repr

def truthy : Param → Bool
  | .null => false
  | .text s => decide (s ≠ "")
  | .int n => decide (n ≠ 0)
  | .bool b => b
  | .other _ _ truthy => truthy

end Param

/-- `params.get(..)`, where `None` stands for an absent key and for `null`. -/
def given : Option Param → Option Param
  | some .null => none
  | value => value

inductive FailureCode where
  | validationFailed | paneAlreadyRegistered | paneNotFound | agentNotFound | containerInactive
  | logAttachBlocked | routingDisabled | permissionDenied | internalError
  deriving DecidableEq, Repr

structure Failure where
  code : FailureCode
  message : String
  details : List (String × String)
  deriving DecidableEq, Repr

namespace Failure

def validationFailed (field reason message : String) : Failure :=
  ⟨.validationFailed, message, [("field", field), ("reason", reason)]⟩

def agentNotFound (agentId message : String) : Failure :=
  ⟨.agentNotFound, message, [("agent_id", agentId)]⟩

def internalError (message : String) : Failure := ⟨.internalError, message, []⟩

/-- `internal_error_logged`: the detail goes to stderr only. -/
def internalErrorLogged (operation : String) : Failure :=
  internalError (operation ++ " failed; see daemon stderr")

def unexpectedError (handlerName : String) : Failure :=
  internalError (handlerName ++ " raised an unexpected error; see daemon stderr")

end Failure

end AgentTower.App
