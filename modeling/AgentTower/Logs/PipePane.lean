import AgentTower.Lib.PyText
import AgentTower.Routing.Errors

/-!
# Driving `tmux pipe-pane`

The argument vector of an attach, which is also stored, what `LogService` reads from the results of its
calls, and the classification of the pipe that a pane has, which compares with the output of
`shlex.quote`.
-/

namespace AgentTower.Logs

open List

/-! ## Texts -/

/-- The characters that `str.strip` removes. -/
def isSpace (c : Char) : Bool :=
  let n := c.toNat
  decide ((9 ≤ n ∧ n ≤ 13) ∨ (28 ≤ n ∧ n ≤ 32) ∨ n = 0x85 ∨ n = 0xA0 ∨ n = 0x1680 ∨
    (0x2000 ≤ n ∧ n ≤ 0x200A) ∨ n = 0x2028 ∨ n = 0x2029 ∨ n = 0x202F ∨ n = 0x205F ∨ n = 0x3000)

def stripBy (p : Char → Bool) (cs : List Char) : List Char :=
  ((cs.dropWhile p).reverse.dropWhile p).reverse

def strip (s : String) : String := String.ofList (stripBy isSpace s.toList)

section Strip

variable {p q : Char → Bool}

def stripEnd (p : Char → Bool) (cs : List Char) : List Char := (cs.reverse.dropWhile p).reverse

theorem stripBy_eq (p : Char → Bool) (cs : List Char) : stripBy p cs = stripEnd p (cs.dropWhile p) :=
  rfl

theorem stripEnd_cons (p : Char → Bool) (c : Char) (cs : List Char) :
    stripEnd p (c :: cs) = if stripEnd p cs = [] ∧ p c = true then [] else c :: stripEnd p cs := by
  unfold stripEnd
  rw [reverse_cons, dropWhile_append]
  cases hrest : cs.reverse.dropWhile p with
  | nil => cases hc : p c <;> simp [hc]
  | cons d ds => simp

section

variable (h : ∀ c, p c = true → q c = true)
include h

theorem dropWhile_stripEnd (cs : List Char) :
    (stripEnd p cs).dropWhile q = stripEnd p (cs.dropWhile q) := by
  induction cs with
  | nil => rfl
  | cons c cs ih =>
    rw [stripEnd_cons, dropWhile_cons]
    by_cases hq : q c = true
    · rw [if_pos hq]
      split_ifs with hend
      · rw [← ih, hend.1]
      · rw [dropWhile_cons, if_pos hq, ih]
    · rw [if_neg hq, if_neg fun hend => hq (h c hend.2), dropWhile_cons, if_neg hq, stripEnd_cons,
        if_neg fun hend => hq (h c hend.2)]

theorem stripEnd_stripEnd (cs : List Char) : stripEnd q (stripEnd p cs) = stripEnd q cs := by
  unfold stripEnd
  rw [reverse_reverse]
  congr 1
  induction cs.reverse with
  | nil => rfl
  | cons c cs ih =>
    rw [dropWhile_cons]
    split_ifs with hp
    · rw [ih, dropWhile_cons, if_pos (h c hp)]
    · rfl

theorem stripBy_stripEnd (cs : List Char) : stripBy q (stripEnd p cs) = stripBy q cs := by
  rw [stripBy_eq, dropWhile_stripEnd h, stripEnd_stripEnd h, ← stripBy_eq]

end

theorem stripBy_of_ends {c d : Char} {cs : List Char} (hc : p c = false) (hd : p d = false) :
    stripBy p (c :: cs ++ [d]) = c :: cs ++ [d] := by
  rw [stripBy_eq, cons_append, dropWhile_cons, if_neg (by simp [hc])]
  unfold stripEnd
  rw [← cons_append, reverse_append, reverse_singleton, singleton_append,
    dropWhile_cons, if_neg (by simp [hd]), reverse_cons, reverse_reverse]

end Strip

def capped (cap : Nat) (cs : List Char) : String :=
  if cap < cs.length then String.ofList (cs.take (cap - 1) ++ ['…']) else String.ofList cs

/-- What `shlex` leaves unquoted: ASCII word characters and a few signs. -/
def shellSafe (c : Char) : Bool :=
  c.isAlphanum || decide (c ∈ ['_', '@', '%', '+', '=', ':', ',', '.', '/', '-'])

def shlexQuote (s : String) : String :=
  if s = "" then "''"
  else if s.toList.all shellSafe then s
  else
    "'" ++ String.join (s.toList.map fun c => if c = '\'' then "'\"'\"'" else c.toString) ++ "'"

def shlexJoin (argv : List String) : String := String.intercalate " " (argv.map shlexQuote)

/-! ## Argument vectors -/

def execEnvArgs : List String := ["-e", "LANG=C.UTF-8", "-e", "LC_ALL=C.UTF-8"]

def dockerExec (containerUser containerId inner : String) : List String :=
  ["docker", "exec"] ++ execEnvArgs ++ ["-u", containerUser, containerId, "sh", "-lc", inner]

def pipeInner (containerSideLog : String) : String := "cat >> " ++ shlexQuote containerSideLog

theorem isSpace_of_shellSafe {c : Char} (h : shellSafe c = true) : isSpace c = false := by
  have hsigns : ∀ d ∈ ['_', '@', '%', '+', '=', ':', ',', '.', '/', '-'], isSpace d = false := by
    decide
  unfold shellSafe Char.isAlphanum Char.isAlpha Char.isUpper Char.isLower Char.isDigit at h
  simp only [Bool.or_eq_true, Bool.and_eq_true, decide_eq_true_eq, UInt32.le_iff_toNat_le] at h
  rcases h with hrange | hsign
  · change ((65 ≤ c.toNat ∧ c.toNat ≤ 90) ∨ (97 ≤ c.toNat ∧ c.toNat ≤ 122)) ∨
      (48 ≤ c.toNat ∧ c.toNat ≤ 57) at hrange
    simp only [isSpace, decide_eq_false_iff_not]
    omega
  · exact hsigns c hsign

theorem shlexQuote_getLast (s : String) :
    ∃ front last, (shlexQuote s).toList = front ++ [last] ∧ isSpace last = false := by
  unfold shlexQuote
  split_ifs with hempty hsafe
  · exact ⟨['\''], '\'', rfl, by decide⟩
  · have hne : s.toList ≠ [] := fun h => hempty (String.toList_injective h)
    refine ⟨s.toList.dropLast, s.toList.getLast hne, (dropLast_concat_getLast hne).symm, ?_⟩
    exact isSpace_of_shellSafe (all_eq_true.mp hsafe _ (getLast_mem hne))
  · refine ⟨_, '\'', by rw [String.toList_append]; rfl, by decide⟩

theorem strip_pipeInner (containerSideLog : String) :
    strip (pipeInner containerSideLog) = pipeInner containerSideLog := by
  obtain ⟨front, last, hlist, hlast⟩ := shlexQuote_getLast containerSideLog
  have hinner : (pipeInner containerSideLog).toList = 'c' :: ("at >> ".toList ++ front) ++ [last] := by
    rw [pipeInner, String.toList_append, hlist]
    simp
  rw [strip, hinner, stripBy_of_ends (by decide) hlast, ← hinner, String.ofList_toList]

def buildAttachArgv (containerUser containerId paneShortForm containerSideLog : String) :
    List String :=
  dockerExec containerUser containerId
    ("tmux pipe-pane -o -t " ++ shlexQuote paneShortForm ++ " " ++
      shlexQuote (pipeInner containerSideLog))

def pipeCommandCap : Nat := 4096

/-- The text of `log_attachments.pipe_pane_command`. -/
def renderPipeCommandForAudit (containerUser containerId paneShortForm containerSideLog : String) :
    String :=
  let rendered :=
    shlexJoin (buildAttachArgv containerUser containerId paneShortForm containerSideLog)
  capped pipeCommandCap (rendered.toList.filter fun c => decide (32 ≤ c.toNat ∨ c = '\t'))

/-! ## Results -/

inductive DockerFailure where
  | dockerUnavailable | dockerExecTimeout
  deriving DecidableEq, Repr

structure DockerExecResult where
  returncode : Int
  stdout : String
  stderr : String
  failureKind : Option DockerFailure
  deriving DecidableEq, Repr

inductive RegistrationCode where
  | logPathInUse | internalError | pipePaneFailed | dockerUnavailable | dockerExecTimeout
  | attachmentNotFound
  deriving DecidableEq, Repr

structure RegistrationError where
  code : RegistrationCode
  message : String
  deriving DecidableEq, Repr

def DockerFailure.code : DockerFailure → RegistrationCode
  | .dockerUnavailable => .dockerUnavailable
  | .dockerExecTimeout => .dockerExecTimeout

def DockerFailure.text : DockerFailure → String
  | .dockerUnavailable => "docker_unavailable"
  | .dockerExecTimeout => "docker_exec_timeout"

def stderrCap : Nat := 2048

def sanitizePipePaneStderr (stderr : String) : String :=
  let kept := stderr.toList.filterMap fun c =>
    if c = '\n' ∨ c = '\r' ∨ c = '\t' then some ' '
    else if c.toNat < 0x20 ∨ c.toNat = 0x7F then none
    else some c
  capped stderrCap (stripBy isSpace kept)

def pipePaneStderrPatterns : List String :=
  ["session not found", "pane not found", "no current target"]

/-- `_stderr_matches_pipe_pane_failure`; the patterns are ASCII. -/
def stderrMatchesPipePaneFailure (stderr : String) : Bool :=
  pipePaneStderrPatterns.any fun p => Routing.inLower p stderr

def orElse (a b : String) : String := if a = "" then b else a

/-- What the three callers make of a result: a docker failure has its own code, everything else that
went wrong is `pipe_pane_failed`. -/
def checkDocker (op : String) (r : DockerExecResult) : Except RegistrationError Unit :=
  match r.failureKind with
  | some kind => .error ⟨kind.code, op ++ ": " ++ orElse (sanitizePipePaneStderr r.stderr) kind.text⟩
  | none =>
    if r.returncode ≠ 0 ∨ stderrMatchesPipePaneFailure r.stderr = true then
      .error ⟨.pipePaneFailed,
        op ++ " failed: " ++ orElse (sanitizePipePaneStderr r.stderr) "non-zero exit"⟩
    else .ok ()

structure PaneState where
  pipeActive : Bool
  pipeCommand : String
  deriving DecidableEq, Repr

def parseListPanesOutput (output : String) : PaneState :=
  let line := stripBy (fun c => decide (c = '\n')) output.toList
  if line = [] then ⟨false, ""⟩
  else
    let flag := line.takeWhile fun c => decide (c ≠ ' ')
    let cmd := String.ofList ((line.dropWhile fun c => decide (c ≠ ' ')).drop 1)
    ⟨decide (flag = ['1'] ∧ strip cmd ≠ ""), cmd⟩

structure PipeTargetClassification where
  isCanonical : Bool
  foreignTarget : Option String
  deriving DecidableEq, Repr

def classifyPipeTarget (pipeCommand expectedCanonicalPath : String) : PipeTargetClassification :=
  if strip pipeCommand = "" then ⟨false, none⟩
  else if strip pipeCommand = pipeInner expectedCanonicalPath then ⟨true, none⟩
  else ⟨false, some (strip pipeCommand)⟩

def priorPipeTargetCap : Nat := 2048

def sanitizePriorPipeTarget (value : String) : String :=
  let kept := value.toList.filterMap fun c =>
    if c.toNat = 0 then none
    else if c.toNat < 0x20 ∨ c.toNat = 0x7F then some ' '
    else some c
  capped priorPipeTargetCap (stripBy isSpace kept)

example : classifyPipeTarget (parseListPanesOutput "1 cat >> /tmp/a.log\n").pipeCommand "/tmp/a.log"
    = ⟨true, none⟩ := by decide

example : (classifyPipeTarget "cat >> /tmp/x; cat >> /tmp/a.log" "/tmp/a.log").isCanonical = false := by
  decide

end AgentTower.Logs
