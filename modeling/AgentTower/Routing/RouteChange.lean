import AgentTower.Routing.RouteWorker

/-!
# What a step of the routing worker can change

`Change` is the one inversion of `step`: a step moves the worker, commits one of its two transactions,
moves audit entries between the buffer, the file and the worker's stack, or belongs to the environment.
-/

namespace AgentTower.Routing.RouteWorker

open List
open Events (AppendOutcome)

variable {maxPending : Nat} {env : RouteEnv} {s s' : State maxPending}

/-- What the `except` clauses make of an exception. -/
inductive Handled (j : Job) (winner target : AgentRecord) (e : PyExc) : Stage → Prop where
  | skip : e.isinstance .queueServiceError = true →
      Handled j winner target e
        (.advancing (skippedOutcome j (some winner) (some target) (.queue e.code) none))
  | duplicate : e.isinstance .integrityError = true →
      Handled j winner target e (.advancing (matchedOutcome j winner target))

variable {j : Job} {winner : AgentRecord} {stage : Stage} {survivors : List AuditEntry}
  {entry : AuditEntry} {l : WorkerLabel}

theorem exceptEnqueue_handled {target : AgentRecord} {e : PyExc}
    (h : exceptEnqueue j winner target e = some stage) : Handled j winner target e stage := by
  unfold exceptEnqueue at h
  split_ifs at h with hqueue hintegrity
  · cases h
    exact .skip hqueue
  · cases h
    exact .duplicate hintegrity

/-- An `OperationalError` that gets as far as the `except` clauses ends the batch. -/
theorem exceptEnqueue_operationalError (j : Job) (winner target : AgentRecord) (message : String) :
    exceptEnqueue j winner target (operationalError message) = none := by
  have hqueue : (operationalError message).isinstance .queueServiceError = false := by
    simp [PyExc.isinstance, operationalError, ExcClass.mro]
  have hintegrity : (operationalError message).isinstance .integrityError = false := by
    simp [PyExc.isinstance, operationalError, ExcClass.mro]
  simp [exceptEnqueue, hqueue, hintegrity]

/-! ## Moves of the worker -/

inductive StageMove (env : RouteEnv) (s : State maxPending) (j : Job) :
    WorkerLabel → Stage → Stage → Prop where
  | unmatched {source : Option AgentRecord} :
      getAgentById s.agents j.ev.sourceAgentId = source →
      (∀ a, source = some a → inScope j.route j.ev a = false) →
      StageMove env s j .lookupSource .matching (.advancing (.noMatch source))
  | matched (source : AgentRecord) :
      StageMove env s j .lookupSource .matching (.arbitrating source)
  | won (source winner : AgentRecord) :
      StageMove env s j .arbitrate (.arbitrating source) (.resolving source winner)
  | noMaster (source : AgentRecord) {reason : SkipReason} :
      (∀ code, reason ≠ .queue code) →
      StageMove env s j .arbitrate (.arbitrating source)
        (.advancing (skippedOutcome j none none reason none))
  | rendered (source winner target : AgentRecord) (body : List UInt8) :
      StageMove env s j .resolve (.resolving source winner) (.enqueuing winner target body)
  | unresolved (source winner : AgentRecord) {target : Option AgentRecord} {reason : SkipReason}
      {subReason : Option String} :
      (∀ code, reason ≠ .queue code) →
      StageMove env s j .resolve (.resolving source winner)
        (.advancing (skippedOutcome j (some winner) target reason subReason))
  | prepared {winner target resolved : AgentRecord} {body : List UInt8} {m : NewMessage}
      {decision : Decision} {messageId ts : String}
      {routingEnabled containerActive paneResolvable : Bool} :
      prepareSend env.toEnv s.agents routingEnabled winner (routeRequest j target body) messageId ts
        containerActive paneResolvable = .ok (m, decision, resolved) →
      StageMove env s j (.gate messageId ts routingEnabled containerActive paneResolvable)
        (.enqueuing winner target body) (.inserting winner target m decision 0)
  | refused {winner target : AgentRecord} {body : List UInt8} {messageId ts : String} {e : PyExc}
      {routingEnabled containerActive paneResolvable : Bool} {stage : Stage} :
      prepareSend env.toEnv s.agents routingEnabled winner (routeRequest j target body) messageId ts
        containerActive paneResolvable = .error e →
      Handled j winner target e stage →
      StageMove env s j (.gate messageId ts routingEnabled containerActive paneResolvable)
        (.enqueuing winner target body) stage
  | rejected {winner target : AgentRecord} {m : NewMessage} {decision : Decision} {attempts : Nat}
      {e : PyExc} {stage : Stage} :
      s.messageQueue.get m.messageId = none →
      (decision.insert m).apply s.messageQueue = .error e →
      Handled j winner target e stage →
      StageMove env s j .commit (.inserting winner target m decision attempts) stage
  | retried {winner target : AgentRecord} {m : NewMessage} {decision : Decision} {attempts : Nat}
      {message : String} :
      isLockConflict (operationalError message) = true → attempts < lockRetries →
      StageMove env s j (.fail message) (.inserting winner target m decision attempts)
        (.inserting winner target m decision (attempts + 1))
  | exhausted {winner target : AgentRecord} {m : NewMessage} {decision : Decision} {attempts : Nat}
      {message : String} {stage : Stage} :
      isLockConflict (operationalError message) = true → ¬ attempts < lockRetries →
      Handled j winner target (lockRetryExhausted (operationalError message)) stage →
      StageMove env s j (.fail message) (.inserting winner target m decision attempts) stage
  | readBack (winner target : AgentRecord) :
      StageMove env s j .readBack (.inserted winner target)
        (.advancing (matchedOutcome j winner target))

theorem matchSource_move (env : RouteEnv) (s : State maxPending) (j : Job) :
    StageMove env s j .lookupSource .matching (matchSource s.agents j) := by
  unfold matchSource
  split
  · rename_i hsource
    exact .unmatched hsource nofun
  · rename_i source hsource
    split_ifs with hscope
    · exact .matched source
    · refine .unmatched hsource fun a ha => ?_
      cases ha
      exact Bool.eq_false_iff.mpr hscope

theorem arbitrate_move (env : RouteEnv) (s : State maxPending) (j : Job) (source : AgentRecord) :
    StageMove env s j .arbitrate (.arbitrating source) (arbitrate s.agents j source) := by
  unfold arbitrate
  split
  · exact .won source _
  · rename_i hpick
    exact .noMaster source (pickMaster_reason hpick)

theorem resolveAndRender_move {source : AgentRecord}
    (h : resolveAndRender env s.agents j source winner = some stage) :
    StageMove env s j .resolve (.resolving source winner) stage := by
  unfold resolveAndRender at h
  split at h
  · cases h
  · rename_i htarget
    cases h
    exact .unresolved source winner (resolveRouteTarget_reason htarget)
  · split at h <;> cases h
    · exact .rendered source winner _ _
    · exact .unresolved source winner (by nofun)

def Stage.isEmitting : Stage → Bool
  | .emitting _ => true
  | _ => false

inductive Move (env : RouteEnv) (s : State maxPending) : WorkerLabel → Worker → Worker → Prop where
  | listed : Move env s .listRoutes .listing (.cycle (listRoutes s.routes))
  | unlisted (message : String) : Move env s (.fail message) .listing .idle
  | cycleEnd (l : WorkerLabel) (routes : List RouteRow) : Move env s l (.cycle routes) .idle
  | nextRoute (l : WorkerLabel) (route : RouteRow) (rest : List RouteRow) :
      Move env s l (.cycle (route :: rest)) (.cycle rest)
  | selected {route : RouteRow} {rest : List RouteRow} {scope : ParsedSourceScope} :
      parseSourceScopeValue route.sourceScope = .ok scope →
      Move env s .next (.cycle (route :: rest)) (.batch route
        (EventLog.selectEventsAfterCursor s.events route.lastConsumedEventId route.eventType
          env.batchSize) rest)
  | batchEnd (l : WorkerLabel) (route : RouteRow) (events : List Event) (rest : List RouteRow) :
      Move env s l (.batch route events rest) (.cycle rest)
  | nextEvent (route : RouteRow) (ev : Event) (later : List Event) (rest : List RouteRow) :
      Move env s .refetch (.batch route (ev :: later) rest)
        (.job ⟨route, ev, later, rest⟩ .matching)
  | stage {l : WorkerLabel} {j : Job} {stage stage' : Stage} :
      StageMove env s j l stage stage' → Move env s l (.job j stage) (.job j stage')
  | abandoned (l : WorkerLabel) (j : Job) {stage : Stage} : stage.isEmitting = false →
      Move env s l (.job j stage) (.cycle j.rest)

/-! ## Audit steps -/

section

variable (s : State maxPending)

/-- An entry is out of the worker's hands: in the file, in the buffer, or known to be lost. -/
def State.Stored (entry : AuditEntry) : Prop :=
  entry ∈ s.file ∨ entry ∈ s.pending.items ∨ entry ∈ s.lost

def State.Accounted (entry : AuditEntry) : Prop :=
  s.Stored entry ∨ entry ∈ s.worker.held

/-- Room for `n` more entries in the buffer. -/
def State.hasRoom (n : Nat) : Bool :=
  decide (s.pending.items.length + n ≤ maxPending)

/-- `_emit` lets go of no entry: after an `OSError` the buffer does not overflow, and with any other
end of the append the entry is a line of the file. -/
def State.emitKeeps (outcome : AppendOutcome) : Bool :=
  match outcome with
  | .returned _ | .exception _ _ => outcome.isLine s.atStart
  | .oserror _ _ => s.hasRoom 1

def keepsRecords : Label → Bool
  | .worker (.append outcome) =>
    match s.worker, outcome with
    | .draining snapshot survivors, .exception _ _ =>
      outcome.isLine s.atStart && decide (snapshot.length ≤ 1) && survivors.isEmpty
    | .draining _ _, .returned _ => outcome.isLine s.atStart
    | .draining _ _, .oserror _ _ => true
    | _, _ => s.emitKeeps outcome
  | .worker .rebuffer =>
    match s.worker with
    | .draining _ survivors => s.hasRoom survivors.length
    | _ => true
  | .emitOther _ outcome => s.emitKeeps outcome
  | .crash | .stop => s.pending.items.isEmpty && s.worker.held.isEmpty
  | _ => true

end

inductive AuditMove : Worker → Worker → Prop where
  | same (w : Worker) : AuditMove w w
  | idle (w : Worker) : AuditMove w .idle
  | draining (w : Worker) (snapshot survivors : List AuditEntry) :
      AuditMove w (.draining snapshot survivors)
  | listing (w : Worker) : AuditMove w .listing
  | emitted (j : Job) (entry : AuditEntry) :
      AuditMove (.job j (.emitting entry)) (.batch j.route j.later j.rest)
  | raised (j : Job) (entry : AuditEntry) :
      AuditMove (.job j (.emitting entry)) (.cycle j.rest)

def State.Frame (s s' : State maxPending) : Prop :=
  ∃ file atStart pending worker lost,
    s' = { s with file, atStart, pending, worker, lost }

/-- The entry that the `_emit` of another thread brings. -/
def Label.brings : Label → Option AuditEntry
  | .emitOther eventType _ => some (.other eventType)
  | _ => none

structure Audited (s : State maxPending) (l : Label) (s' : State maxPending) : Prop where
  frame : s.Frame s'
  worker : AuditMove s.worker s'.worker
  accounted : ∀ entry, s'.Accounted entry ↔ s.Accounted entry ∨ l.brings = some entry
  kept : keepsRecords s l = true → s'.lost = s.lost

namespace State

theorem Frame.refl (s : State maxPending) : s.Frame s := ⟨_, _, _, _, _, rfl⟩

theorem Frame.trans {s₁ s₂ : State maxPending} (h₁ : s.Frame s₁) (h₂ : s₁.Frame s₂) :
    s.Frame s₂ := by
  obtain ⟨_, _, _, _, _, rfl⟩ := h₁
  obtain ⟨_, _, _, _, _, rfl⟩ := h₂
  exact ⟨_, _, _, _, _, rfl⟩

theorem Frame.work (h : s.Frame s') (w : Worker) : s.Frame (s'.work w) :=
  h.trans ⟨_, _, _, _, _, rfl⟩

variable {entry x : AuditEntry} {outcome : AppendOutcome}

/-! ### `write` and `writeOrLose` -/

section

variable (s : State maxPending) (entry : AuditEntry) (outcome : AppendOutcome)

theorem frame_write : s.Frame (s.write entry outcome) := ⟨_, _, _, _, _, rfl⟩

theorem frame_writeOrLose : s.Frame (s.writeOrLose entry outcome) := by
  unfold writeOrLose
  split <;> exact ⟨_, _, _, _, _, rfl⟩

theorem worker_writeOrLose : (s.writeOrLose entry outcome).worker = s.worker := by
  unfold writeOrLose
  split <;> rfl

theorem writeOrLose_of_isLine (h : outcome.isLine s.atStart = true) :
    s.writeOrLose entry outcome = s.write entry outcome := if_pos h

end

theorem stored_write : (s.write entry outcome).Stored x ↔
    s.Stored x ∨ outcome.isLine s.atStart = true ∧ x = entry := by
  unfold write Stored AppendOutcome.lines
  split <;> grind

theorem stored_writeOrLose : (s.writeOrLose entry outcome).Stored x ↔ s.Stored x ∨ x = entry := by
  unfold writeOrLose
  split
  · rename_i hline
    rw [stored_write]
    simp [hline]
  · rename_i hline
    simp only [Stored, write, AppendOutcome.lines, hline]
    grind

/-! ### `buffer` -/

theorem frame_buffer (s : State maxPending) (entry : AuditEntry) : s.Frame (s.buffer entry) :=
  ⟨_, _, _, _, _, rfl⟩

theorem stored_buffer : (s.buffer entry).Stored x ↔ s.Stored x ∨ x = entry := by
  have hsplit : x ∈ s.pending.evicted entry ∨ x ∈ (s.pending.append entry).items ↔
      x ∈ s.pending.items ∨ x = entry := by
    rw [← mem_append, s.pending.evicted_append_items entry, mem_append, mem_singleton]
  unfold buffer Stored
  grind

theorem buffer_of_room (entry : AuditEntry) (h : s.pending.items.length < maxPending) :
    (s.buffer entry).lost = s.lost ∧
      (s.buffer entry).pending.items = s.pending.items ++ [entry] := by
  refine ⟨?_, Deque.items_append_of_room h entry⟩
  show s.lost ++ s.pending.evicted entry = s.lost
  rw [Deque.evicted_of_room h, List.append_nil]

theorem foldl_buffer (entries : List AuditEntry) (s : State maxPending) :
    s.Frame (entries.foldl buffer s) ∧
      (∀ x, (entries.foldl buffer s).Stored x ↔ s.Stored x ∨ x ∈ entries) ∧
      (s.hasRoom entries.length = true → (entries.foldl buffer s).lost = s.lost) := by
  -- the room shrinks by one with every entry
  induction entries generalizing s with
  | nil => exact ⟨.refl s, fun x => by simp, fun _ => rfl⟩
  | cons entry entries ih =>
    obtain ⟨hframe, hstored, hlost⟩ := ih (s.buffer entry)
    refine ⟨(frame_buffer s entry).trans hframe, fun x => ?_, fun hroom => ?_⟩
    · rw [foldl_cons, hstored x, stored_buffer, or_assoc, mem_cons]
    · have hle : s.pending.items.length + (entries.length + 1) ≤ maxPending :=
        of_decide_eq_true hroom
      obtain ⟨hkept, hitems⟩ := s.buffer_of_room entry (by omega)
      rw [foldl_cons, hlost ?_, hkept]
      apply decide_eq_true
      rw [hitems, length_append, length_singleton]
      omega

/-! ### `emit` -/

section

variable (s : State maxPending) (entry : AuditEntry) (outcome : AppendOutcome)

theorem frame_emit : s.Frame (s.emit entry outcome).1 := by
  cases outcome with
  | returned | exception => exact s.frame_writeOrLose entry _
  | oserror => exact (s.frame_write entry _).trans (frame_buffer _ entry)

theorem worker_emit : (s.emit entry outcome).1.worker = s.worker := by
  cases outcome with
  | returned | exception => exact s.worker_writeOrLose entry _
  | oserror => rfl

end

theorem stored_emit : (s.emit entry outcome).1.Stored x ↔ s.Stored x ∨ x = entry := by
  cases outcome with
  | returned | exception => exact stored_writeOrLose
  | oserror =>
    refine stored_buffer.trans ?_
    rw [stored_write]
    grind

theorem lost_emit {outcome : AppendOutcome} (h : s.emitKeeps outcome = true) :
    (s.emit entry outcome).1.lost = s.lost := by
  cases outcome with
  | returned | exception =>
    show (s.writeOrLose entry _).lost = s.lost
    rw [writeOrLose_of_isLine s entry _ h]
    rfl
  | oserror excClass written =>
    have hroom : (s.write entry (.oserror excClass written)).pending.items.length < maxPending :=
      of_decide_eq_true h
    exact (buffer_of_room entry hroom).1

end State

/-! ### The audit steps of the system -/

theorem State.accounted_work (s : State maxPending) (w : Worker) (x : AuditEntry) :
    (s.work w).Accounted x ↔ s.Stored x ∨ x ∈ w.held :=
  Iff.rfl

theorem audited_startCycle (hworker : s.worker = .idle) :
    Audited s (.worker .startCycle)
      { s with pending := Deque.empty, worker := .draining s.pending.items [] } := by
  refine ⟨⟨_, _, _, _, _, rfl⟩, .draining _ _ _, fun x => ?_, fun _ => rfl⟩
  simp only [State.Accounted, State.Stored, hworker, Worker.held, Deque.empty, Label.brings,
    reduceCtorEq, append_nil, not_mem_nil]
  tauto

theorem audited_rebuffer (hworker : s.worker = .draining [] survivors) :
    Audited s (.worker .rebuffer) ((survivors.foldl State.buffer s).work .listing) := by
  obtain ⟨hframe, hstored, hlost⟩ := State.foldl_buffer survivors s
  refine ⟨hframe.work _, .listing _, fun x => ?_, fun hkept => hlost ?_⟩
  · rw [State.accounted_work, hstored x, State.Accounted, hworker]
    simp [Worker.held, Label.brings]
  · simpa only [keepsRecords, hworker] using hkept

theorem audited_drainOne {snapshot : List AuditEntry}
    (hworker : s.worker = .draining (entry :: snapshot) survivors) (outcome : AppendOutcome) :
    Audited s (.worker (.append outcome)) (drainOne s entry snapshot survivors outcome) := by
  cases outcome with
  | returned whole =>
    refine ⟨(s.frame_writeOrLose entry _).work _, .draining _ _ _, fun x => ?_, fun hkept => ?_⟩
    · rw [drainOne, State.accounted_work, State.stored_writeOrLose, State.Accounted, hworker]
      simp [Worker.held, Label.brings, or_assoc]
    · simp only [keepsRecords, hworker] at hkept
      show (s.writeOrLose entry _).lost = s.lost
      rw [State.writeOrLose_of_isLine s entry _ hkept]
      rfl
  | oserror excClass written =>
    refine ⟨(s.frame_write entry _).work _, .draining _ _ _, fun x => ?_, fun _ => rfl⟩
    rw [drainOne, State.accounted_work, State.stored_write, State.Accounted, hworker]
    simp only [Worker.held, Label.brings, mem_append, mem_cons, not_mem_nil, reduceCtorEq]
    tauto
  | exception excClass written =>
    refine ⟨(s.frame_writeOrLose entry _).trans ⟨_, _, _, _, _, rfl⟩, .idle _, fun x => ?_,
      fun hkept => ?_⟩
    · have hstored : (s.writeOrLose entry (.exception excClass written)).Stored x ↔ _ :=
        State.stored_writeOrLose
      unfold State.Stored at hstored
      simp only [drainOne, State.Accounted, State.Stored, hworker, Worker.held, Label.brings,
        mem_append, mem_cons, not_mem_nil, reduceCtorEq]
      tauto
    · simp only [keepsRecords, hworker, Bool.and_eq_true, decide_eq_true_eq, length_cons,
        List.isEmpty_iff] at hkept
      -- the entry is a line of the file and nothing was behind it
      obtain ⟨⟨hline, hlength⟩, rfl⟩ := hkept
      have hsnapshot : snapshot = [] := List.length_eq_zero_iff.mp (by omega)
      subst hsnapshot
      show (s.writeOrLose entry _).lost ++ [] = s.lost
      rw [State.writeOrLose_of_isLine s entry _ hline, List.append_nil]
      rfl

/-- The job's last step, whether or not `_emit` returns. -/
theorem audited_emit (hworker : s.worker = .job j (.emitting entry))
    (outcome : AppendOutcome) {w : Worker} (hmove : AuditMove (.job j (.emitting entry)) w)
    (hheld : w.held = []) :
    Audited s (.worker (.append outcome)) ((s.emit entry outcome).1.work w) := by
  refine ⟨(s.frame_emit entry outcome).work w, ?_, fun x => ?_, fun hkept => ?_⟩
  · rw [hworker]
    exact hmove
  · rw [State.accounted_work, State.stored_emit, hheld, State.Accounted, hworker]
    simp [Worker.held, Label.brings]
  · simp only [keepsRecords, hworker] at hkept
    exact State.lost_emit hkept

theorem audited_emitOther (s : State maxPending) (eventType : String) (outcome : AppendOutcome) :
    Audited s (.emitOther eventType outcome) (s.emit (.other eventType) outcome).1 := by
  refine ⟨s.frame_emit _ outcome, ?_, fun x => ?_, fun hkept => State.lost_emit hkept⟩
  · rw [State.worker_emit]
    exact .same _
  · rw [State.Accounted, State.stored_emit, State.worker_emit, State.Accounted, Label.brings,
      Option.some_inj, eq_comm (a := x)]
    tauto

theorem audited_otherAppend (s : State maxPending) (whole : Bool) :
    Audited s (.otherAppend whole) { s with atStart := whole } :=
  ⟨⟨_, _, _, _, _, rfl⟩, .same _, fun x => by simp [State.Accounted, State.Stored, Label.brings],
    fun _ => rfl⟩

theorem audited_crashed {l : Label} (s : State maxPending) (hl : l = .crash ∨ l = .stop) :
    Audited s l s.crashed := by
  have hbrings : l.brings = none := by rcases hl with rfl | rfl <;> rfl
  refine ⟨⟨_, _, _, _, _, rfl⟩, .idle _, fun x => ?_, fun hkept => ?_⟩
  · simp only [State.Accounted, State.Stored, State.crashed, Deque.empty, Worker.held, hbrings,
      mem_append, not_mem_nil, reduceCtorEq]
    tauto
  · have hempty : s.pending.items = [] ∧ s.worker.held = [] := by
      rcases hl with rfl | rfl <;>
        simpa only [keepsRecords, Bool.and_eq_true, List.isEmpty_iff] using hkept
    show s.lost ++ s.pending.items ++ s.worker.held = s.lost
    rw [hempty.1, hempty.2, List.append_nil, List.append_nil]

/-! ## The inversion -/

inductive Change (env : RouteEnv) (s : State maxPending) : Label → State maxPending → Prop where
  | moved {l : WorkerLabel} {w : Worker} :
      Move env s l s.worker w → Change env s (.worker l) (s.work w)
  | inserted {j : Job} {winner target : AgentRecord} {m : NewMessage} {decision : Decision}
      {attempts : Nat} {q : MessageQueue} :
      s.worker = .job j (.inserting winner target m decision attempts) →
      (decision.insert m).apply s.messageQueue = .ok q →
      Change env s (.worker .commit) { s with
        messageQueue := q
        events := EventLog.insert s.events .audit m.target.agentId
          (env.renderExcerpt m.envelopeBody) m.enqueuedAt
        worker := .job j (.inserted winner target) }
  | advanced {j : Job} {outcome : Outcome} :
      s.worker = .job j (.advancing outcome) →
      Change env s (.worker .commit) (commitAdvance s j outcome)
  | audited {l : Label} {s' : State maxPending} : Audited s l s' → Change env s l s'
  | observed (eventType : EventType) (sourceAgentId excerpt observedAt : String) :
      Change env s (.observe eventType sourceAgentId excerpt observedAt)
        { s with events := EventLog.insert s.events eventType sourceAgentId excerpt observedAt }
  | routeAdded {route : RouteRow} {routes : Routes} :
      route.lastConsumedEventId ≤ s.events.maxId →
      route.routeId ∉ s.created.map RouteRow.routeId →
      s.routes.insert route = some routes →
      Change env s (.addRoute route)
        { s with routes, created := s.created ++ [route] }
  | enabledSet (routeId : String) (enabled : Bool) :
      Change env s (.setEnabled routeId enabled)
        { s with routes := updateEnabled s.routes routeId enabled }
  | routeRemoved (routeId : String) :
      Change env s (.removeRoute routeId)
        { s with routes := s.routes.delete fun r => decide (r.routeId = routeId) }
  | registered (agents : List AgentRecord) :
      Change env s (.register agents) { s with agents }
  | queued (op : DaoOp) :
      Change env s (.queue op) { s with messageQueue := op.perform s.messageQueue }

theorem move_goto {next : Option Stage} (hemitting : stage.isEmitting = false)
    (hstage : ∀ stage', next = some stage' → StageMove env s j l stage stage') :
    Move env s l (.job j stage) (j.goto next) := by
  cases next with
  | none => exact .abandoned l j hemitting
  | some stage' => exact .stage (hstage stage' rfl)

theorem stepJob_change (hworker : s.worker = .job j stage) (h : stepJob env s j stage l = some s') :
    Change env s (.worker l) s' := by
  have hmoved : ∀ {w : Worker}, Move env s l (.job j stage) w →
      Change env s (.worker l) (s.work w) := fun hmove => .moved (hworker ▸ hmove)
  -- one case for each line of `stepJob`, in its order
  unfold stepJob at h
  split at h
  case h_1 => cases h; exact hmoved (.stage (matchSource_move env s j))
  case h_2 source => cases h; exact hmoved (.stage (arbitrate_move env s j source))
  case h_3 => cases h; exact hmoved (move_goto rfl fun _ hnext => resolveAndRender_move hnext)
  case h_4 =>
    split at h
    · rename_i e hprepare
      cases h
      exact hmoved (move_goto rfl fun _ hnext => .refused hprepare (exceptEnqueue_handled hnext))
    · rename_i hprepare
      cases h
      exact hmoved (.stage (.prepared hprepare))
  case h_5 =>
    unfold commitInsert at h
    split_ifs at h with hfresh
    split at h
    · rename_i q happly
      cases h
      exact .inserted hworker happly
    · rename_i e happly
      cases h
      refine hmoved (move_goto rfl fun _ hnext => .rejected ?_ happly (exceptEnqueue_handled hnext))
      simpa using hfresh
  case h_6 message =>
    cases h
    apply hmoved
    unfold failInsert
    split_ifs with hlock hattempts
    · exact .stage (.retried hlock hattempts)
    · exact move_goto rfl fun _ hnext => .exhausted hlock hattempts (exceptEnqueue_handled hnext)
    · -- not a lock conflict: the error leaves the retry loop as it is
      rw [exceptEnqueue_operationalError]
      exact .abandoned _ j rfl
  case h_7 winner target => cases h; exact hmoved (.stage (.readBack winner target))
  case h_8 => cases h; exact .advanced hworker
  case h_9 entry outcome =>
    have haudited {w : Worker} := audited_emit (w := w) hworker outcome
    split at h <;> rename_i s₁ hemit <;> cases h
    · have hchange := haudited (.emitted j entry) rfl
      rw [hemit] at hchange
      exact .audited hchange
    · have hchange := haudited (.raised j entry) rfl
      rw [hemit] at hchange
      exact .audited hchange
  case h_10 | h_11 =>
    cases h
    rw [exceptEnqueue_operationalError]
    exact hmoved (.abandoned _ j rfl)
  case h_12 | h_13 | h_14 | h_15 => cases h; exact hmoved (.abandoned _ j rfl)
  case h_16 => cases h

theorem stepWorker_change (h : stepWorker env s l = some s') : Change env s (.worker l) s' := by
  have hmoved : ∀ {w w' : Worker}, s.worker = w → Move env s l w w' →
      Change env s (.worker l) (s.work w') := fun hworker hmove => .moved (hworker ▸ hmove)
  unfold stepWorker at h
  split at h
  case h_1 hworker => cases h; exact .audited (audited_startCycle hworker)
  case h_2 outcome hworker => cases h; exact .audited (audited_drainOne hworker outcome)
  case h_3 hworker => cases h; exact .audited (audited_rebuffer hworker)
  case h_4 hworker => cases h; exact hmoved hworker .listed
  case h_5 hworker => cases h; exact hmoved hworker (.unlisted _)
  case h_6 hworker | h_9 hworker => cases h; exact hmoved hworker (.cycleEnd _ _)
  case h_7 hworker =>
    split at h
    · cases h
      exact hmoved hworker (.nextRoute _ _ _)
    · rename_i hscope
      cases h
      exact hmoved hworker (.selected hscope)
  case h_8 hworker => cases h; exact hmoved hworker (.nextRoute _ _ _)

  case h_11 hworker =>
    split at h
    · cases h
      exact hmoved hworker (.batchEnd _ _ _ _)
    · split_ifs at h
      · cases h
        exact hmoved hworker (.nextEvent _ _ _ _)
      · cases h
        exact hmoved hworker (.batchEnd _ _ _ _)
  case h_10 hworker | h_12 hworker | h_13 hworker => cases h; exact hmoved hworker (.batchEnd _ _ _ _)
  case h_14 hworker => exact stepJob_change hworker h
  case h_15 => cases h

theorem step_job (hworker : s.worker = .job j stage) (l : WorkerLabel) :
    step env s (.worker l) = stepJob env s j stage l := by
  obtain ⟨_, _, _, _, _, _, _, _, _, _⟩ := s
  cases hworker
  rfl

theorem step_change {l : Label} (h : step env s l = some s') : Change env s l s' := by
  cases l with
  | worker l => exact stepWorker_change h
  | observe => cases h; exact .observed _ _ _ _
  | addRoute route =>
    change addRoute s route = some s' at h
    unfold addRoute at h
    split_ifs at h with hguard
    split at h <;> cases h
    rename_i routes hinsert
    exact .routeAdded hguard.1 hguard.2 hinsert
  | setEnabled => cases h; exact .enabledSet _ _
  | removeRoute => cases h; exact .routeRemoved _
  | register => cases h; exact .registered _
  | queue op => cases h; exact .queued op
  | emitOther eventType outcome => cases h; exact .audited (audited_emitOther s eventType outcome)
  | otherAppend whole => cases h; exact .audited (audited_otherAppend s whole)
  | crash => cases h; exact .audited (audited_crashed s (.inl rfl))
  | stop => cases h; exact .audited (audited_crashed s (.inr rfl))

end AgentTower.Routing.RouteWorker
