import Mathlib.Data.Option.Basic

/-!
# The event writer

`append_event` writes a line with one `os.write`, whose result it does not look at: it may return with
a part of the line in the file.  An exception of `fsync` or `close` comes after the write.  All the
components that have lines in `events.jsonl` call it.
-/

namespace AgentTower.Events

/-- How a call of `append_event` ends; `written` is what it has left in the file, a whole line or
not. -/
inductive AppendOutcome where
  | returned (whole : Bool)
  | oserror (excClass : String) (written : Option Bool)
  | exception (excClass : String) (written : Option Bool)
  deriving DecidableEq, Repr

namespace AppendOutcome

def written : AppendOutcome → Option Bool
  | .returned whole => some whole
  | .oserror _ written | .exception _ written => written

variable (o : AppendOutcome) (atStart : Bool)

def wholeLine : Bool := o.written.all id

/-- A whole line is one to a reader of the file only if what stands before it ends with a newline. -/
def isLine : Bool := atStart && decide (o.written = some true)

/-- The record of the call, if the file has gained a line. -/
def lines {ρ : Type} (record : ρ) : List ρ := if o.isLine atStart then [record] else []

def endsLine : Bool := o.written.getD atStart

end AppendOutcome

end AgentTower.Events
