import AgentTower.Lib.Lru
import AgentTower.Lib.Pool
import AgentTower.App.Envelope
import AgentTower.Routing.Send

/-!
# Retries of `app.send_input`

A call with an idempotency key looks the key up, sends, and records its answer under the key, but only
a success: a refusal of the kill switch is sent again by its retry.  After a success every retry is a
replay, as long as the calls in between use fewer other keys than the store has room for.
-/

namespace AgentTower.App

open Transition Sql List
open Routing (AgentRecord PyExc Env QueueState BlockReason MessageQueue DaoOp Origin pyRepr
  resolveTarget prepareSend)

/-! ## Requests -/

def maxEntries : Nat := 256

def maxKeyLength : Nat := 256

def sendInputPayloadMaxBytes : Nat := 16384

/-- The payload; of an object only `json.dumps(payload, sort_keys=True).encode("utf-8")` is used,
which may raise. -/
inductive PayloadParam where
  | object (bodyBytes : Option (List UInt8))
  | other
  deriving DecidableEq, Repr

structure SendInputRequest where
  targetAgentId : Option Param
  payload : Option PayloadParam
  idempotencyKey : Option Param
  deriving DecidableEq, Repr

structure SendInputArgs where
  targetAgentId : String
  bodyBytes : Option (List UInt8)
  idempotencyKey : Option String
  deriving DecidableEq, Repr

def validateTargetParam : Option Param → Except Failure String
  | some (.text target) => if target = "" then .error failure else .ok target
  | _ => .error failure
where
  failure : Failure :=
    .validationFailed "target_agent_id" "missing or wrong type"
      "target_agent_id must be a non-empty string"

def validatePayloadParam : Option PayloadParam → Except Failure (Option (List UInt8))
  | some (.object bodyBytes) => .ok bodyBytes
  | _ => .error (.validationFailed "payload" "missing or wrong type" "payload must be a JSON object")

def validateIdempotencyKey (value : Option Param) : Except Failure (Option String) :=
  match given value with
  | none => .ok none
  | some (.text key) =>
    if maxKeyLength < key.length then
      .error (.validationFailed "idempotency_key" "too long"
        ("idempotency_key exceeds " ++ toString maxKeyLength ++ " chars"))
    else .ok (some key)
  | some _ =>
    .error (.validationFailed "idempotency_key" "wrong type"
      "idempotency_key must be a string when provided")

def validateSendInput (r : SendInputRequest) : Except Failure SendInputArgs := do
  let targetAgentId ← validateTargetParam r.targetAgentId
  let bodyBytes ← validatePayloadParam r.payload
  let idempotencyKey ← validateIdempotencyKey r.idempotencyKey
  pure ⟨targetAgentId, bodyBytes, idempotencyKey⟩

/-! ## Calls -/

structure SendInputResult where
  messageId : String
  state : QueueState
  deduplicated : Bool
  deriving DecidableEq, Repr

def SendInputResult.replay (r : SendInputResult) : SendInputResult := { r with deduplicated := true }

abbrev IdempotencyStore := Lru String SendInputResult maxEntries

def hostOperatorSender : AgentRecord :=
  ⟨Agents.hostOperatorSentinel, "", "", .master, "", "host-operator", true⟩

/-- What a call reads on its way to the insert, each at its own moment: the agents when the target is
resolved the first time and the second, the kill switch, the container and the pane.  `raises` is an
exception of the transaction, which is then rolled back. -/
structure SendReads where
  agentsAtResolve : List AgentRecord
  agents : List AgentRecord
  routingEnabled : Bool
  containerActive : Bool
  paneResolvable : Bool
  messageId : String
  ts : String
  raises : Option PyExc
  deriving DecidableEq, Repr

inductive SendPhase where
  /-- The key was not found. -/
  | started (args : SendInputArgs)
  | inserted (args : SendInputArgs) (messageId : String)
  | answered (result : Except Failure SendInputResult)
  deriving DecidableEq

/-- `created` is the message that the call has put into the queue. -/
structure SendCall where
  request : SendInputRequest
  phase : SendPhase
  created : Option String
  deriving DecidableEq

def beginSend (store : IdempotencyStore) (r : SendInputRequest) : IdempotencyStore × SendCall :=
  match validateSendInput r with
  | .error f => (store, ⟨r, .answered (.error f), none⟩)
  | .ok args =>
    match args.idempotencyKey with
    | none => (store, ⟨r, .started args, none⟩)
    | some key =>
      match store.get? key with
      | some recorded => (store.touch key, ⟨r, .answered (.ok recorded.replay), none⟩)
      | none => (store, ⟨r, .started args, none⟩)

/-- The clauses for what `resolve_target_agent_id` raises. -/
def mapResolveError (target : String) (e : PyExc) : Failure :=
  if e.isinstance .targetResolveError then
    .agentNotFound target ("target_agent_id " ++ pyRepr target ++ ": " ++ e.message)
  else .internalErrorLogged "target resolution"

/-- The clauses for what `send_input` raises; it has no error with one of the codes that are mapped to
`routing_disabled` and `permission_denied`. -/
def mapSendError (target : String) (e : PyExc) : Failure :=
  if e.isinstance .queueServiceError then
    match e.code with
    | some .agentNotFound | some .targetLabelAmbiguous => .agentNotFound target e.message
    | _ => .internalErrorLogged "send_input"
  else .internalErrorLogged "send_input"

def enqueue (env : Env) (q : MessageQueue) (args : SendInputArgs) (reads : SendReads) :
    Except Failure (MessageQueue × String) :=
  match resolveTarget args.targetAgentId reads.agentsAtResolve with
  | .error e => .error (mapResolveError args.targetAgentId e)
  | .ok _ =>
    match args.bodyBytes with
    | none =>
      .error (.validationFailed "payload" "not serializable" "payload is not JSON-serializable")
    | some body =>
      if sendInputPayloadMaxBytes < body.length then
        .error (.validationFailed "payload" "too large"
          ("payload exceeds the " ++ toString sendInputPayloadMaxBytes ++
            "-byte app.send_input limit when serialized"))
      else
        match prepareSend env reads.agents reads.routingEnabled hostOperatorSender
            ⟨args.targetAgentId, body, .direct, none, none⟩ reads.messageId reads.ts
            reads.containerActive reads.paneResolvable, reads.raises with
        | .error e, _ => .error (mapSendError args.targetAgentId e)
        | .ok _, some e => .error (mapSendError args.targetAgentId e)
        | .ok (m, decision, _), none =>
          match (decision.insert m).apply q with
          | .error e => .error (mapSendError args.targetAgentId e)
          | .ok q' => .ok (q', m.messageId)

/-- The answer is made of the row as it is read back; other transactions may have come before.  An
exception after the commit leaves the row where it is. -/
def answerOf (q : MessageQueue) (messageId : String) (raises : Bool) :
    Except Failure SendInputResult :=
  if raises then .error (.internalErrorLogged "send_input")
  else
    match q.get messageId with
    | none => .error (.internalErrorLogged "send_input")
    | some row =>
      if row.state = .blocked ∧ row.blockReason = some .killSwitchOff then
        .error ⟨.routingDisabled, "FEAT-009 global routing kill switch is off", []⟩
      else if row.state = .blocked ∧ row.blockReason = some .senderRoleNotPermitted then
        .error ⟨.permissionDenied, "FEAT-009 per-message permission gate refused the send",
          [("reason", "feat009_permission_gate")]⟩
      else .ok ⟨messageId, row.state, false⟩

def recordAnswer (store : IdempotencyStore) (key : Option String)
    (result : Except Failure SendInputResult) : IdempotencyStore :=
  match key, result with
  | some key, .ok r => store.record key r
  | _, _ => store

/-! ## Runs -/

/-- A session; its calls stay in the list after their answers. -/
structure SessionState where
  queue : MessageQueue
  store : IdempotencyStore
  calls : List SendCall

/-- `other` is any other transaction on the queue. -/
inductive SessionLabel where
  | sendInput (r : SendInputRequest)
  | enqueue (i : Nat) (reads : SendReads)
  | answer (i : Nat) (raises : Bool)
  | other (op : DaoOp)

def sessionStep (env : Env) (s : SessionState) : SessionLabel → Option SessionState
  | .sendInput r =>
    let (store, call) := beginSend s.store r
    some { s with store, calls := s.calls ++ [call] }
  | .enqueue i reads =>
    match s.calls[i]? with
    | some ⟨request, .started args, _⟩ =>
      match enqueue env s.queue args reads with
      | .error f => some { s with calls := s.calls.set i ⟨request, .answered (.error f), none⟩ }
      | .ok (q, messageId) =>
        some { s with
          queue := q
          calls := s.calls.set i ⟨request, .inserted args messageId, some messageId⟩ }
    | _ => none
  | .answer i raises =>
    match s.calls[i]? with
    | some ⟨request, .inserted args messageId, created⟩ =>
      let result := answerOf s.queue messageId raises
      some { s with
        store := recordAnswer s.store args.idempotencyKey result
        calls := s.calls.set i ⟨request, .answered result, created⟩ }
    | _ => none
  | .other op => some { s with queue := op.perform s.queue }

def requestKey (r : SendInputRequest) : Option String :=
  match validateSendInput r with
  | .ok args => args.idempotencyKey
  | .error _ => none

def SendCall.key (c : SendCall) : Option String := requestKey c.request

def SendCall.running (c : SendCall) : Bool :=
  match c.phase with
  | .started _ | .inserted _ _ => true
  | .answered _ => false

/-- Calls with the key are made one after another; the other keys are those of `others`. -/
def oneAtATime (key : String) (others : Finset String) (s : SessionState) : SessionLabel → Bool
  | .sendInput r =>
    match requestKey r with
    | none => true
    | some j =>
      if j = key then s.calls.all fun c => decide (c.key ≠ some key) || !c.running
      else decide (j ∈ others)
  | _ => true

/-! ## Calls with one key -/

/-- Of two calls with the key the earlier has been answered, and after a success the later is its
replay and has sent nothing. -/
def Retries (key : String) (c d : SendCall) : Prop :=
  c.key = some key → d.key = some key → c.running = false ∧
    ∀ r, c.phase = .answered (.ok r) → d.created = none ∧ d.phase = .answered (.ok r.replay)

/-- `stored`: the response of a success with the key is safe in the store. -/
structure CallInv (key : String) (others : Finset String) (store : IdempotencyStore)
    (c : SendCall) : Prop where
  stored : c.key = some key → ∀ r, c.phase = .answered (.ok r) →
    ∃ recorded : SendInputResult, recorded.replay = r.replay ∧
      Lru.Recent key recorded others store
  args : ∀ args messageId, c.phase = .started args ∨ c.phase = .inserted args messageId →
    c.key = args.idempotencyKey
  keys : ∀ j, c.key = some j → j = key ∨ j ∈ others

structure SessionInv (key : String) (others : Finset String) (s : SessionState) : Prop where
  retries : s.calls.Pairwise (Retries key)
  calls : ∀ c ∈ s.calls, CallInv key others s.store c

theorem beginSend_cases (store : IdempotencyStore) (r : SendInputRequest) :
    (∃ key recorded, requestKey r = some key ∧ store.get? key = some recorded ∧
      beginSend store r = (store.touch key, ⟨r, .answered (.ok recorded.replay), none⟩)) ∨
    ∃ phase, beginSend store r = (store, ⟨r, phase, none⟩) ∧
      (∀ key, requestKey r = some key → store.get? key = none) ∧
      (∀ result, phase ≠ .answered (.ok result)) ∧
      ∀ args messageId, phase = .started args ∨ phase = .inserted args messageId →
        requestKey r = args.idempotencyKey := by
  unfold beginSend requestKey
  cases validateSendInput r with
  | error f =>
    refine .inr ⟨.answered (.error f), rfl, nofun, nofun, ?_⟩
    rintro args messageId (h | h) <;> cases h
  | ok args =>
    have hstarted : ∀ args' messageId, SendPhase.started args = .started args' ∨
        SendPhase.started args = .inserted args' messageId →
        args.idempotencyKey = args'.idempotencyKey := by
      rintro args' messageId (h | h)
      · cases h
        rfl
      · cases h
    simp only
    cases hkey : args.idempotencyKey with
    | none =>
      rw [hkey] at hstarted
      exact .inr ⟨.started args, rfl, nofun, nofun, hstarted⟩
    | some key =>
      rw [hkey] at hstarted
      cases hget : store.get? key with
      | some recorded => exact .inl ⟨key, recorded, rfl, hget, by simp only [hget]⟩
      | none =>
        refine .inr ⟨.started args, by simp only [hget], ?_, nofun, hstarted⟩
        rintro j ⟨⟩
        exact hget

variable {key : String} {others : Finset String} {s s' : SessionState}

variable {store : IdempotencyStore} {c : SendCall} {r : SendInputRequest} {i : Nat} {env : Env}

theorem CallInv.mono {store' : IdempotencyStore} (h : CallInv key others store c)
    (hkept : ∀ recorded, Lru.Recent key recorded others store →
      Lru.Recent key recorded others store') : CallInv key others store' c where
  stored hkey r hr :=
    have ⟨recorded, hreplay, hrecent⟩ := h.stored hkey r hr
    ⟨recorded, hreplay, hkept recorded hrecent⟩
  args := h.args
  keys := h.keys

theorem recent_touch_any {recorded : SendInputResult} {j : String}
    (h : Lru.Recent key recorded others store) (hj : j = key ∨ j ∈ others) :
    Lru.Recent key recorded others (store.touch j) := by
  by_cases hjk : j = key
  · subst hjk
    exact Lru.recent_touch h.get?
  · exact h.touch hjk (hj.resolve_left hjk)

/-! ### A call begins -/

theorem oneAtATime_answered
    (hok : oneAtATime key others s (.sendInput r) = true) (hkey : requestKey r = some key) :
    ∀ c ∈ s.calls, c.key = some key → c.running = false := by
  intro c hc hckey
  unfold oneAtATime at hok
  simp only [hkey, if_true] at hok
  have hc' := all_eq_true.mp hok c hc
  simpa [hckey] using hc'

theorem oneAtATime_keys {j : String}
    (hok : oneAtATime key others s (.sendInput r) = true) (hj : requestKey r = some j) :
    j = key ∨ j ∈ others := by
  unfold oneAtATime at hok
  simp only [hj] at hok
  split_ifs at hok with hjk
  · exact .inl hjk
  · exact .inr (of_decide_eq_true hok)

theorem SessionInv.append (h : SessionInv key others s) (hretries : ∀ d ∈ s.calls, Retries key d c)
    (hkept : ∀ recorded, Lru.Recent key recorded others s.store →
      Lru.Recent key recorded others store) (hc : CallInv key others store c) :
    SessionInv key others { s with store, calls := s.calls ++ [c] } where
  retries := pairwise_append.mpr ⟨h.retries, pairwise_singleton _ _,
    fun d hd e he => mem_singleton.mp he ▸ hretries d hd⟩
  calls d hd := by
    rcases mem_append.mp hd with hd | hd
    · exact (h.calls d hd).mono hkept
    · rw [mem_singleton.mp hd]
      exact hc

theorem SessionInv.begin (h : SessionInv key others s)
    (hok : oneAtATime key others s (.sendInput r) = true) :
    SessionInv key others
      { s with store := (beginSend s.store r).1, calls := s.calls ++ [(beginSend s.store r).2] } := by
  rcases beginSend_cases s.store r with ⟨j, found, hj, hget, hbegin⟩ |
    ⟨phase, hbegin, hmiss, hphase, hargs⟩
  · -- a replay, of the response that an earlier success has stored
    rw [hbegin]
    refine h.append (fun c hc hckey hkey => ⟨oneAtATime_answered hok hkey c hc hckey, ?_⟩)
      (fun _ hrecent => recent_touch_any hrecent (oneAtATime_keys hok hj)) ⟨?_, ?_, ?_⟩
    · intro r' hr'
      obtain ⟨recorded, hreplay, hrecent⟩ := (h.calls c hc).stored hckey r' hr'
      have hsame := hrecent.get?
      cases hj.symm.trans hkey
      rw [hget] at hsame
      cases hsame
      exact ⟨rfl, by rw [hreplay]⟩
    · intro hkey r' hr'
      cases hr'
      cases hj.symm.trans hkey
      exact ⟨found, rfl, Lru.recent_touch hget⟩
    · rintro args messageId (hstarted | hstarted) <;> cases hstarted
    · exact fun _ => oneAtATime_keys hok
  · -- a miss, so there has been no success with the key
    rw [hbegin]
    refine h.append (fun c hc hckey hkey => ⟨oneAtATime_answered hok hkey c hc hckey, ?_⟩)
      (fun _ hrecent => hrecent) ⟨?_, hargs, fun _ => oneAtATime_keys hok⟩
    · intro r' hr'
      obtain ⟨recorded, -, hrecent⟩ := (h.calls c hc).stored hckey r' hr'
      have hnone := hmiss key hkey
      rw [hrecent.get?] at hnone
      cases hnone
    · exact fun _ r' hr' => absurd hr' (hphase r')

/-! ### A call goes on -/

section

variable (h : SessionInv key others s)
include h

theorem SessionInv.retries_set {c' : SendCall}
    (hc : s.calls[i]? = some c) (hrunning : c.running = true) (hkey : c'.key = c.key) :
    (s.calls.set i c').Pairwise (Retries key) := by
  refine Pool.pairwise_set h.retries hc (fun d hd => ?_) (fun d hd => ?_)
  · intro hdkey hckey
    rw [hkey] at hckey
    obtain ⟨hanswered, hreplay⟩ := hd hdkey hckey
    refine ⟨hanswered, fun r hr => ?_⟩
    have hphase := (hreplay r hr).2
    unfold SendCall.running at hrunning
    rw [hphase] at hrunning
    cases hrunning
  · intro hckey hdkey
    rw [hkey] at hckey
    have hanswered := (hd hckey hdkey).1
    rw [hrunning] at hanswered
    cases hanswered

theorem SessionInv.no_success {j : Nat} {d : SendCall}
    (hc : s.calls[i]? = some c) (hrunning : c.running = true) (hd : s.calls[j]? = some d)
    (hne : j ≠ i) (hckey : c.key = some key) (hdkey : d.key = some key) (r : SendInputResult) :
    d.phase ≠ .answered (.ok r) := by
  intro hphase
  rcases Pool.pairwise_other h.retries hc hd hne with hcd | hdc
  · have hanswered := (hcd hckey hdkey).1
    rw [hrunning] at hanswered
    cases hanswered
  · have hreplayed := ((hdc hdkey hckey).2 r hphase).2
    unfold SendCall.running at hrunning
    rw [hreplayed] at hrunning
    cases hrunning

theorem SessionInv.enqueue {reads : SendReads}
    (hstep : sessionStep env s (.enqueue i reads) = some s') : SessionInv key others s' := by
  unfold sessionStep at hstep
  simp only at hstep
  split at hstep
  · rename_i request args created hget
    have hcall := h.calls _ (mem_of_getElem? hget)
    have hkey : requestKey request = args.idempotencyKey := hcall.args args "" (.inl rfl)
    split at hstep
    · rename_i f hf
      cases hstep
      refine ⟨h.retries_set hget rfl rfl, fun d hd => ?_⟩
      rcases mem_or_eq_of_mem_set hd with hd | rfl
      · exact h.calls d hd
      · refine ⟨nofun, ?_, hcall.keys⟩
        rintro args' messageId' (hphase | hphase) <;> cases hphase
    · rename_i q messageId hq
      cases hstep
      refine ⟨h.retries_set hget rfl rfl, fun d hd => ?_⟩
      rcases mem_or_eq_of_mem_set hd with hd | rfl
      · exact h.calls d hd
      · refine ⟨nofun, ?_, hcall.keys⟩
        rintro args' messageId' (hphase | hphase)
        · cases hphase
        · cases hphase
          exact hkey
  · cases hstep

end

theorem recent_recordAnswer {recorded : SendInputResult}
    {j : Option String} {result : Except Failure SendInputResult}
    (hcard : others.card < maxEntries) (h : Lru.Recent key recorded others store)
    (hj : ∀ k, j = some k → k ≠ key ∧ k ∈ others) :
    Lru.Recent key recorded others (recordAnswer store j result) := by
  unfold recordAnswer
  split
  · rename_i k r
    obtain ⟨hne, hmem⟩ := hj k rfl
    exact h.record hne hmem hcard
  · exact h

theorem SessionInv.answer (hcard : others.card < maxEntries)
    (h : SessionInv key others s) {raises : Bool}
    (hstep : sessionStep env s (.answer i raises) = some s') : SessionInv key others s' := by
  unfold sessionStep at hstep
  simp only at hstep
  split at hstep <;> cases hstep
  rename_i request args messageId created hget
  have hcall := h.calls _ (mem_of_getElem? hget)
  have hkey : requestKey request = args.idempotencyKey := hcall.args args messageId (.inr rfl)
  refine ⟨h.retries_set hget rfl rfl, fun d hd => ?_⟩
  rcases Pool.mem_set hd with rfl | ⟨j, hne, hd⟩
  · refine ⟨fun hckey r hr => ?_, ?_, hcall.keys⟩
    · change requestKey request = some key at hckey
      rw [hkey] at hckey
      refine ⟨r, rfl, ?_⟩
      show Lru.Recent key r others (recordAnswer s.store args.idempotencyKey _)
      rw [hckey, SendPhase.answered.inj hr]
      exact Lru.recent_record (by decide)
    · rintro args' messageId' (hphase | hphase) <;> cases hphase
  · have hd' := h.calls d (mem_of_getElem? hd)
    by_cases hckey : requestKey request = some key
    · -- no other call with the key has had a success
      exact ⟨fun hdkey r hr => absurd hr (h.no_success hget rfl hd hne hckey hdkey r), hd'.args,
        hd'.keys⟩
    · refine hd'.mono fun recorded hrecent => recent_recordAnswer hcard hrecent fun k hk => ?_
      rw [← hkey] at hk
      have hkne : k ≠ key := fun hkk => hckey (hkk ▸ hk)
      exact ⟨hkne, (hcall.keys k hk).resolve_left hkne⟩

theorem SessionInv.step (hcard : others.card < maxEntries)
    (h : SessionInv key others s) {l : SessionLabel} (hok : oneAtATime key others s l = true)
    (hstep : sessionStep env s l = some s') : SessionInv key others s' := by
  cases l with
  | sendInput r =>
    cases hstep
    exact h.begin hok
  | enqueue i reads => exact h.enqueue hstep
  | answer i raises => exact h.answer hcard hstep
  | other op =>
    cases hstep
    exact ⟨h.retries, h.calls⟩

/-- If the first call with the key has had a success, every later one is its replay, and of all of them
only the first has put a row into the queue. -/
theorem retries_replay_success {env : Env} {q : MessageQueue} {store : IdempotencyStore}
    (hcard : others.card < maxEntries)
    (h : Reach (sessionStep env) (fun s l => oneAtATime key others s l = true) ⟨q, store, []⟩ s)
    {first : SendCall} {later : List SendCall} {r : SendInputResult}
    (hcalls : s.calls.filter (fun c => decide (c.key = some key)) = first :: later)
    (hfirst : first.phase = .answered (.ok r)) :
    ((first :: later).filterMap SendCall.created).length ≤ 1 ∧
      ∀ c ∈ later, c.phase = .answered (.ok { r with deduplicated := true }) := by
  have hinv : SessionInv key others s :=
    h.invariant (SessionInv key others) ⟨.nil, fun _ hc => absurd hc not_mem_nil⟩
      fun _ _ _ hinv hok hstep => hinv.step hcard hok hstep
  have hkey : ∀ c ∈ first :: later, c.key = some key := by
    intro c hc
    rw [← hcalls] at hc
    exact of_decide_eq_true (mem_filter.mp hc).2
  have hpairs := hinv.retries.filter fun c => decide (c.key = some key)
  rw [hcalls, pairwise_cons] at hpairs
  have hreplay : ∀ c ∈ later, c.created = none ∧ c.phase = .answered (.ok r.replay) := by
    intro c hc
    have hretry := hpairs.1 c hc (hkey first mem_cons_self) (hkey c (mem_cons_of_mem _ hc))
    exact hretry.2 r hfirst
  refine ⟨?_, fun c hc => (hreplay c hc).2⟩
  have hnone : later.filterMap SendCall.created = [] :=
    filterMap_eq_nil_iff.mpr fun c hc => (hreplay c hc).1
  rw [filterMap_cons]
  split
  · rw [hnone]
    exact Nat.zero_le 1
  · rw [hnone]
    exact le_refl 1

/-! ## A session -/

def sendEnv : Env := ⟨fun _ => "hi", fun _ => "8f43", fun _ => "", 65536⟩

def builderSlave : AgentRecord := ⟨"agt_000000000001", "c0", "%0", .slave, "claude", "builder", true⟩

def sampleSend : SendInputRequest :=
  ⟨some (.text "builder"), some (.object (some "\x7b\x7d".toUTF8.toList)), some (.text "k1")⟩

def sampleReads (routingEnabled : Bool) (messageId : String) : SendReads :=
  ⟨[builderSlave], [builderSlave], routingEnabled, true, true, messageId, "t1", none⟩

def emptySession : SessionState := ⟨Table.empty, Lru.empty, []⟩

def retryLabels (routingEnabled : Bool) : List SessionLabel :=
  [.sendInput sampleSend, .enqueue 0 (sampleReads routingEnabled "m1"), .answer 0 false,
    .sendInput sampleSend]

theorem retries_replay_success_once :
    ∃ s first later, Reach (sessionStep sendEnv)
        (fun s l => oneAtATime "k1" ∅ s l = true) emptySession s ∧
      s.calls.filter (fun c => decide (c.key = some "k1")) = first :: later ∧
      first.phase = .answered (.ok ⟨"m1", .queued, false⟩) ∧ later.length = 1 ∧
      ((first :: later).filterMap SendCall.created).length ≤ 1 := by
  obtain ⟨s, hs, hfilter⟩ : ∃ s, runWhile (sessionStep sendEnv) (oneAtATime "k1" ∅) emptySession
      (retryLabels true) = some s ∧ s.calls.filter (fun c => decide (c.key = some "k1")) =
        [⟨sampleSend, .answered (.ok ⟨"m1", .queued, false⟩), some "m1"⟩,
          ⟨sampleSend, .answered (.ok ⟨"m1", .queued, true⟩), none⟩] := by
    decide +kernel
  have hreach := reach_of_runWhile .start hs
  exact ⟨s, _, _, hreach, hfilter, rfl, rfl,
    (retries_replay_success (by decide) hreach hfilter rfl).1⟩

/-- The kill switch is off for the call and on for its retry: two rows, and another answer. -/
theorem retry_after_refusal_sends :
    ∃ s, Reach (sessionStep sendEnv) (fun s l => oneAtATime "k1" ∅ s l = true) emptySession s ∧
      s.calls = [⟨sampleSend, .answered (.error ⟨.routingDisabled,
            "FEAT-009 global routing kill switch is off", []⟩), some "m1"⟩,
          ⟨sampleSend, .answered (.ok ⟨"m2", .queued, false⟩), some "m2"⟩] ∧
      s.queue.rows.map (fun row => (row.messageId, row.state)) =
        [("m1", .blocked), ("m2", .queued)] :=
  exists_reachWhile (retryLabels false ++ [.enqueue 1 (sampleReads true "m2"), .answer 1 false])
    (by decide +kernel)

end AgentTower.App
