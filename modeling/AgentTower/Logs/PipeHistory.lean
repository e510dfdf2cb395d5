import AgentTower.Logs.AttachHistory

/-!
# The pipe over a history of attaches and detaches

Any number of requests for one agent, whose calls act on the agent's pane.  An attach that inspects the
pane leaves its pipe open to the path, and a detach leaves it closed.  The attach of a path that is
attached already inspects nothing: its `pipe-pane -o` is a toggle, so the pipe that was open is closed.

What `list-panes` prints for the pane is a parameter; not every tmux knows the command of a pipe.
-/

namespace AgentTower.Logs

open Transition Option List
open Routing (AgentRow)
open String (ofList toList_injective toList_ofList)

/-! ## Calls -/

/-- The calls that change the pipe. -/
inductive PipeCall where
  | toggleOff
  | attach (containerSideLog : String)
  deriving DecidableEq, Repr

def PipeCall.pipeAfter (old : Option String) : PipeCall → Option String
  | .toggleOff => none
  -- `-o`: a pipe that is open is closed, and then none is opened
  | .attach log => if old.isSome then none else some (pipeInner log)

def pipeAfterCalls (pipe : Option String) (calls : List PipeCall) : Option String :=
  calls.foldl PipeCall.pipeAfter pipe

/-- The calls of `drivePipe`, up to the first that fails. -/
def driveCalls (c : AttachCall) (o : Outside) : List PipeCall :=
  let pane := parseListPanesOutput o.inspect.stdout
  let target := classifyPipeTarget pane.pipeCommand c.containerPath
  match checkDocker "tmux list-panes" o.inspect with
  | .error _ => []
  | .ok () =>
    if pane.pipeActive && target.isCanonical then []
    else if pane.pipeActive then
      .toggleOff :: match checkDocker "tmux pipe-pane toggle-off" o.toggleOff with
        | .error _ => []
        | .ok () => [.attach c.containerPath]
    else [.attach c.containerPath]

/-- The calls of `_attach_log_locked`. -/
def attachCalls (t : LogTables) (c : AttachCall) (o : Outside) : List PipeCall :=
  match checkOwner t c.agent.agentId c.hostPath, o.ensureFile with
  | .ok (), none =>
    match (LogAttachments.selectForAgentPath t.attachments c.agent.agentId c.hostPath).filter
        LogAttachmentRecord.active with
    | some _ => [.attach c.containerPath]
    | none => driveCalls c o
  | _, _ => []

/-- The calls of `_detach_log_locked`. -/
def detachCalls (t : LogTables) (agentId : String) : List PipeCall :=
  match LogAttachments.selectActiveForAgent t.attachments agentId with
  | none => []
  | some _ => [.toggleOff]

/-! ## The inspection -/

/-- The listing of the pane has the flag and the command of its pipe. -/
structure PrintsPipe (listing : Option String → String) : Prop where
  closed : listing none = "0 \n"
  opened : ∀ command, listing (some command) = "1 " ++ command ++ "\n"

structure Reads (state : PaneState) (pipe : Option String) : Prop where
  active : state.pipeActive = pipe.any fun command => decide (strip command ≠ "")
  command : strip state.pipeCommand = strip (pipe.getD "")

theorem strip_ofList_stripEnd (cs : List Char) :
    strip (ofList (stripEnd (fun c => decide (c = '\n')) cs)) = strip (ofList cs) := by
  rw [strip, toList_ofList, stripBy_stripEnd, strip, toList_ofList]
  intro c hc
  rw [of_decide_eq_true hc]
  decide

theorem strip_newline (cmd : String) : strip (ofList (cmd.toList ++ ['\n'])) = strip cmd := by
  have hend : stripEnd (fun c => decide (c = '\n')) (cmd.toList ++ ['\n']) =
      stripEnd (fun c => decide (c = '\n')) cmd.toList := by
    simp [stripEnd]
  rw [← strip_ofList_stripEnd, hend, strip_ofList_stripEnd, String.ofList_toList]

theorem parse_flagged (flag : Char) (hflag : flag = '0' ∨ flag = '1') (cs : List Char) :
    ∃ command, parseListPanesOutput (ofList (flag :: ' ' :: cs)) =
        ⟨decide (flag = '1' ∧ strip command ≠ ""), command⟩ ∧
      strip command = strip (ofList cs) := by
  have hnewline : decide (flag = '\n') = false := by rcases hflag with rfl | rfl <;> decide
  have hspace : decide (flag ≠ ' ') = true := by rcases hflag with rfl | rfl <;> decide
  have hline : stripBy (fun c => decide (c = '\n')) (flag :: ' ' :: cs) =
      flag :: ' ' :: stripEnd (fun c => decide (c = '\n')) cs := by
    have hblank : decide (' ' = '\n') = false := by decide
    rw [stripBy_eq, dropWhile_cons]
    simp only [hnewline, stripEnd_cons, hblank, and_false, if_false, Bool.false_eq_true]
  refine ⟨_, ?_, strip_ofList_stripEnd cs⟩
  simp only [parseListPanesOutput, toList_ofList, hline, takeWhile_cons,
    dropWhile_cons, hspace, if_true]
  simp

theorem PrintsPipe.reads {listing : Option String → String} (h : PrintsPipe listing)
    (pipe : Option String) : Reads (parseListPanesOutput (listing pipe)) pipe := by
  cases pipe with
  | none =>
    rw [h.closed]
    exact ⟨by decide, by decide⟩
  | some command =>
    have hline : listing (some command) = ofList ('1' :: ' ' :: (command.toList ++ ['\n'])) := by
      rw [h.opened]
      apply toList_injective
      simp
    obtain ⟨read, hparse, hread⟩ := parse_flagged '1' (.inr rfl) (command.toList ++ ['\n'])
    rw [strip_newline] at hread
    rw [hline, hparse]
    exact ⟨by simp [hread], hread⟩

/-! ## One attach -/

def OpenTo (pipe : Option String) (path : String) : Prop :=
  ∃ command, pipe = some command ∧ strip command = pipeInner path

theorem openTo_attach (path : String) : OpenTo (PipeCall.pipeAfter none (.attach path)) path :=
  ⟨pipeInner path, rfl, strip_pipeInner path⟩

theorem pipeInner_ne_empty (path : String) : pipeInner path ≠ "" := by
  intro h
  have hlist := congrArg String.toList h
  simp [pipeInner] at hlist

/-- No pipe of the pane has a blank command, which the inspection would take for no pipe. -/
def NotBlank (pipe : Option String) : Prop := ∀ command ∈ pipe, strip command ≠ ""

instance decidableNotBlank (pipe : Option String) : Decidable (NotBlank pipe) :=
  inferInstanceAs (Decidable (∀ command ∈ pipe, _))

theorem OpenTo.notBlank {pipe : Option String} {path : String} (h : OpenTo pipe path) :
    NotBlank pipe := by
  obtain ⟨command, rfl, hcommand⟩ := h
  intro command' hmem
  rw [← Option.some.inj hmem, hcommand]
  exact pipeInner_ne_empty path

theorem openTo_driveCalls {c : AttachCall} {o : Outside} {pipe : Option String}
    (hinspect : o.inspect.succeeded = true) (htoggle : o.toggleOff.succeeded = true)
    (hreads : Reads (parseListPanesOutput o.inspect.stdout) pipe) (hblank : NotBlank pipe) :
    OpenTo (pipeAfterCalls pipe (driveCalls c o)) c.containerPath := by
  simp only [driveCalls, checkDocker_of_succeeded hinspect, checkDocker_of_succeeded htoggle]
  cases pipe with
  | none =>
    have hactive := hreads.active
    simp only [any_none] at hactive
    simp only [hactive, Bool.false_and, Bool.false_eq_true, if_false]
    exact openTo_attach c.containerPath
  | some command =>
    have hcommand : strip command ≠ "" := hblank command rfl
    have hactive := hreads.active
    simp only [any_some, hcommand, ne_eq, not_false_eq_true, decide_true] at hactive
    have hread : strip (parseListPanesOutput o.inspect.stdout).pipeCommand = strip command :=
      hreads.command
    simp only [hactive, Bool.true_and, if_true]
    by_cases hpath : strip command = pipeInner c.containerPath
    · have hcanonical : (classifyPipeTarget (parseListPanesOutput o.inspect.stdout).pipeCommand
          c.containerPath).isCanonical = true := by
        simp only [classifyPipeTarget, hread, hpath, if_true]
        rw [if_neg (pipeInner_ne_empty _)]
      simp only [hcanonical, if_true]
      exact ⟨command, rfl, hpath⟩
    · have hforeign : (classifyPipeTarget (parseListPanesOutput o.inspect.stdout).pipeCommand
          c.containerPath).isCanonical = false := by
        simp only [classifyPipeTarget, hread, hcommand, hpath, if_false]
      simp only [hforeign, Bool.false_eq_true, if_false]
      exact openTo_attach c.containerPath

/-! ## Histories -/

structure PipeWorld where
  tables : LogTables
  /-- The command of the pane's pipe. -/
  pipe : Option String
  /-- The path of the last request if it was an attach that succeeded, `none` if it was a detach that
  did. -/
  last : Option (Option String)

inductive PipeRequest where
  | attach (containerPath hostPath : String) (source : AttachmentSource) (o : Outside)
  | detach (o : Outside)

def activeRow (t : LogTables) (agentId hostPath : String) : Option LogAttachmentRecord :=
  (LogAttachments.selectForAgentPath t.attachments agentId hostPath).filter LogAttachmentRecord.active

def noSecondAttach (agent : AgentRow) (w : PipeWorld) : PipeRequest → Bool
  | .attach _ hostPath _ _ => (activeRow w.tables agent.agentId hostPath).isNone || w.pipe.isNone
  | .detach _ => true

section History

variable (listing : Option String → String)

/-- Every call of docker succeeds, and the inspection has the listing of the pane. -/
def Outside.answered (o : Outside) (pipe : Option String) : Outside :=
  { o with
    inspect := ⟨0, listing pipe, "", none⟩
    toggleOff := ⟨0, "", "", none⟩
    attach := ⟨0, "", "", none⟩ }

def pipeStep (containerUser : String) (agent : AgentRow) (w : PipeWorld) :
    PipeRequest → Option PipeWorld
  | .attach containerPath hostPath source o =>
    let c : AttachCall := ⟨agent, containerUser, containerPath, hostPath, source⟩
    let o := o.answered listing w.pipe
    let pipe := pipeAfterCalls w.pipe (attachCalls w.tables c o)
    match attachLogLocked w.tables c o with
    | .ok attached => some ⟨attached.tables, pipe, some (some containerPath)⟩
    | .error _ => some ⟨w.tables, pipe, none⟩
  | .detach o =>
    let pipe := pipeAfterCalls w.pipe (detachCalls w.tables agent.agentId)
    match detachLogLocked w.tables agent.agentId (o.answered listing w.pipe) with
    | .ok detached => some ⟨{ w.tables with attachments := detached.attachments }, pipe, some none⟩
    | .error _ => some ⟨w.tables, pipe, none⟩

variable {listing} {containerUser : String} {agent : AgentRow} {w w' : PipeWorld}

/-! ## What a request leaves -/

/-- The pipe is not blank, and it is what the last request says. -/
structure PipeInv (w : PipeWorld) : Prop where
  notBlank : NotBlank w.pipe
  attached : ∀ path, w.last = some (some path) → OpenTo w.pipe path
  detached : w.last = some none → w.pipe = none

theorem PipeInv.failed {t : LogTables} {pipe : Option String} (h : NotBlank pipe) :
    PipeInv ⟨t, pipe, none⟩ :=
  ⟨h, (fun _ hlast => by cases hlast), fun hlast => by cases hlast⟩

theorem openTo_attachCalls (hprints : PrintsPipe listing) {c : AttachCall} {o : Outside}
    (hblank : NotBlank w.pipe) (howner : checkOwner w.tables c.agent.agentId c.hostPath = .ok ())
    (hfile : o.ensureFile = none)
    (hsecond : activeRow w.tables c.agent.agentId c.hostPath = none ∨ w.pipe = none) :
    OpenTo (pipeAfterCalls w.pipe (attachCalls w.tables c (o.answered listing w.pipe)))
      c.containerPath := by
  have hfile' : (o.answered listing w.pipe).ensureFile = none := hfile
  simp only [attachCalls, howner, hfile']
  cases hrow : (LogAttachments.selectForAgentPath w.tables.attachments c.agent.agentId
      c.hostPath).filter LogAttachmentRecord.active with
  | none => exact openTo_driveCalls rfl rfl (hprints.reads w.pipe) hblank
  | some r =>
    -- the pipe is closed, so that `-o` opens it
    have hclosed : w.pipe = none := by
      rcases hsecond with hnone | hclosed
      · rw [activeRow, hrow] at hnone
        cases hnone
      · exact hclosed
    rw [hclosed]
    exact openTo_attach c.containerPath

theorem attachCalls_cases (t : LogTables) (c : AttachCall) (o : Outside) :
    (attachCalls t c o = [] ∧ ∃ e, attachLogLocked t c o = .error e) ∨
      (checkOwner t c.agent.agentId c.hostPath = .ok () ∧ o.ensureFile = none) := by
  unfold attachCalls attachLogLocked
  cases howner : checkOwner t c.agent.agentId c.hostPath with
  | error e => exact .inl ⟨rfl, e, rfl⟩
  | ok _ =>
    cases hfile : o.ensureFile with
    | none => exact .inr ⟨rfl, rfl⟩
    | some message => exact .inl ⟨rfl, _, rfl⟩

theorem PipeInv.attach (hprints : PrintsPipe listing) {containerPath hostPath : String}
    {source : AttachmentSource} {o : Outside} (h : PipeInv w)
    (hsecond : noSecondAttach agent w (.attach containerPath hostPath source o) = true)
    (hstep : pipeStep listing containerUser agent w (.attach containerPath hostPath source o)
      = some w') : PipeInv w' := by
  simp only [noSecondAttach, Bool.or_eq_true, isNone_iff_eq_none] at hsecond
  simp only [pipeStep] at hstep
  rcases attachCalls_cases w.tables ⟨agent, containerUser, containerPath, hostPath, source⟩
    (o.answered listing w.pipe) with ⟨hnone, e, herror⟩ | ⟨howner, hfile⟩
  · rw [herror, hnone] at hstep
    cases hstep
    exact .failed h.notBlank
  · -- the calls are made, whether the transaction then succeeds or not
    have hopen := openTo_attachCalls hprints h.notBlank howner hfile hsecond
    split at hstep <;> cases hstep
    · refine ⟨hopen.notBlank, fun path hlast => ?_, fun hlast => by cases hlast⟩
      cases hlast
      exact hopen
    · exact .failed hopen.notBlank

theorem PipeInv.detach {o : Outside} (h : PipeInv w)
    (hstep : pipeStep listing containerUser agent w (.detach o) = some w') : PipeInv w' := by
  have hclosed : NotBlank none := fun command h => absurd h (not_mem_none command)
  simp only [pipeStep, detachLogLocked, detachCalls] at hstep
  cases hrow : LogAttachments.selectActiveForAgent w.tables.attachments agent.agentId with
  | none =>
    simp only [hrow] at hstep
    cases hstep
    exact .failed h.notBlank
  | some existing =>
    simp only [hrow] at hstep
    split at hstep <;> cases hstep
    · exact ⟨hclosed, (fun _ hlast => by cases hlast), fun _ => rfl⟩
    · exact .failed hclosed

theorem PipeInv.step (hprints : PrintsPipe listing) {r : PipeRequest} (h : PipeInv w)
    (hok : noSecondAttach agent w r = true)
    (hstep : pipeStep listing containerUser agent w r = some w') : PipeInv w' := by
  cases r with
  | attach containerPath hostPath source o => exact h.attach hprints hok hstep
  | detach o => exact h.detach hstep

end History

def fullListing (pipe : Option String) : String :=
  match pipe with
  | none => "0 \n"
  | some command => "1 " ++ command ++ "\n"

/-- The listing of a tmux that does not know the command. -/
def flagListing (pipe : Option String) : String := if pipe.isSome then "1 \n" else "0 \n"

def pipeStart : PipeWorld := ⟨LogTables.empty, some "cat >> /tmp/other", none⟩

def attachTo (path attachmentId now : String) : PipeRequest :=
  .attach path path .explicit (sampleOutside attachmentId now)

end AgentTower.Logs
