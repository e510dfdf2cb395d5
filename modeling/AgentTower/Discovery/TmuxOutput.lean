import AgentTower.Agents.Validation
import Mathlib.Data.List.Infix

/-!
# What a scan reads from tmux

The parsers of the pane scan and the adapter that runs `docker exec` for it.  `tmux list-panes` prints
a line for each pane, ten fields with tabs between them; nothing in the format protects a tab or a line
break inside a field.
-/

namespace AgentTower.Discovery

open List
open String (ofList toList_ofList)

open Agents (sanitizeText)
open Logs (isSpace stripBy strip)
open PyText (lineBreak splitlines universalNewlines)

/-! ## Parsers -/

structure ParsedPane where
  tmuxSessionName : String
  tmuxWindowIndex : Int
  tmuxPaneIndex : Int
  tmuxPaneId : String
  panePid : Int
  paneTty : String
  paneCurrentCommand : String
  paneCurrentPath : String
  paneTitle : String
  paneActive : Bool
  deriving DecidableEq, Repr

structure MalformedRow where
  rawLine : String
  expectedFields : Nat
  actualFields : Nat
  deriving DecidableEq, Repr

/-- `int` leaves the separators 0x1C to 0x1F in place, which `strip` removes. -/
def intSpace (c : Char) : Bool := isSpace c && !decide (0x1C ≤ c.toNat ∧ c.toNat ≤ 0x1F)

def pyInt (field : List Char) : Option Int := PyText.signed (stripBy intSpace field)

def parseBool (field : List Char) : Option Bool :=
  if stripBy isSpace field = ['1'] then some true
  else if stripBy isSpace field = ['0'] then some false
  else none

def malformedRow (line : List Char) : MalformedRow :=
  ⟨ofList (line.take 256), 10, (line.splitOn '\t').length⟩

def parseRow (line : List Char) : Except MalformedRow ParsedPane :=
  match line.splitOn '\t' with
  | [session, window, pane, paneId, pid, tty, command, path, title, focus] =>
    match pyInt window, pyInt pane, pyInt pid, parseBool focus with
    | some windowIndex, some paneIndex, some panePid, some active =>
      .ok
        { tmuxSessionName := ofList session
          tmuxWindowIndex := windowIndex
          tmuxPaneIndex := paneIndex
          tmuxPaneId := ofList paneId
          panePid
          paneTty := ofList tty
          paneCurrentCommand := ofList command
          paneCurrentPath := ofList path
          paneTitle := ofList title
          paneActive := active }
    | _, _, _, _ => .error (malformedRow line)
  | _ => .error (malformedRow line)

def rstripCr (line : List Char) : List Char := (line.reverse.dropWhile (· == '\r')).reverse

def outputLines (stdout : String) : List (List Char) :=
  ((splitlines stdout.toList).map rstripCr).filter fun line => decide (line ≠ [])

def rowError : Except MalformedRow ParsedPane → Option MalformedRow
  | .ok _ => none
  | .error row => some row

def parseListPanes (stdout : String) : List ParsedPane × List MalformedRow :=
  let rows := (outputLines stdout).map parseRow
  (rows.filterMap Except.toOption, rows.filterMap rowError)

def parseSocketListing (stdout : String) : List String :=
  ((outputLines stdout).filter fun name =>
    !decide ('/' ∈ name) && decide (name ≠ ['.'] ∧ name ≠ ['.', '.'])).map ofList

/-! ## The adapter -/

inductive ErrorCode where
  | dockerUnavailable | dockerExecFailed | dockerExecTimeout | tmuxUnavailable | tmuxNoServer
  | socketDirMissing | socketUnreadable | outputMalformed | benchUserUnresolved
  deriving DecidableEq, Repr

structure TmuxError where
  code : ErrorCode
  message : String
  containerId : Option String
  tmuxSocketPath : Option String
  partialPanes : List ParsedPane
  malformedRows : List MalformedRow
  deriving DecidableEq, Repr

/-- What ends a call of the adapter; no handler of the scan takes `raised`. -/
inductive Fault where
  | tmux (e : TmuxError)
  | raised
  deriving DecidableEq, Repr

/-- The end of a `docker exec`; the two texts are decoded, with their newlines translated.  `raised` is
every other exception, such as output that cannot be decoded. -/
inductive RunResult where
  | dockerMissing
  | timeoutExpired
  | fileNotFound (exc : String)
  | raised
  | completed (returncode : Int) (stdout stderr : String)
  deriving DecidableEq, Repr

def bound (text : String) : String := (sanitizeText text 2048).1

/-- `_run`, and the look-up of the binary before it. -/
def run (containerId : String) (socketPath : Option String) :
    RunResult → Except Fault (Int × String × String)
  | .dockerMissing =>
    .error (.tmux ⟨.dockerUnavailable, "docker binary not found on PATH", none, none, [], []⟩)
  | .timeoutExpired =>
    .error (.tmux
      ⟨.dockerExecTimeout, "docker exec exceeded 5.0s budget", some containerId, socketPath, [], []⟩)
  | .fileNotFound exc =>
    .error (.tmux ⟨.dockerUnavailable, bound ("docker binary not found or not executable: " ++ exc),
        some containerId, socketPath, [], []⟩)
  | .raised => .error .raised
  | .completed returncode stdout stderr => .ok (returncode, stdout, stderr)

def containsAny (patterns : List String) (text : String) : Bool :=
  patterns.any fun pattern => decide (pattern.toList <:+: text.toList.map Char.toLower)

def classifyTmuxFailure (stderr : String) : ErrorCode :=
  if containsAny ["tmux: not found", "tmux: command not found", "executable file not found",
      "exec: \"tmux\""] stderr then .tmuxUnavailable
  else if containsAny ["no server running", "error connecting to", "no current server"] stderr then
    .tmuxNoServer
  else .dockerExecFailed

def classifySocketListingFailure (stderr : String) : ErrorCode :=
  if containsAny ["permission denied", "operation not permitted"] stderr then .socketUnreadable
  else if containsAny ["no such file or directory", "cannot access"] stderr then .socketDirMissing
  else .dockerExecFailed

def exitedMessage (command : String) (returncode : Int) (stderr : String) : String :=
  bound (command ++ " exited " ++ toString returncode ++ ": " ++ strip stderr)

def listSocketDir (containerId uid : String) (r : RunResult) : Except Fault (List String) := do
  let (returncode, stdout, stderr) ← run containerId none r
  if returncode ≠ 0 then
    .error (.tmux
      ⟨classifySocketListingFailure stderr, exitedMessage ("ls /tmp/tmux-" ++ uid) returncode stderr,
        some containerId, none, [], []⟩)
  else pure (parseSocketListing stdout)

def listPanes (containerId socketPath : String) (r : RunResult) : Except Fault (List ParsedPane) := do
  let (returncode, stdout, stderr) ← run containerId (some socketPath) r
  if returncode ≠ 0 then
    .error (.tmux ⟨classifyTmuxFailure stderr, exitedMessage "tmux list-panes" returncode stderr,
        some containerId, some socketPath, [], []⟩)
  else
    let (parsed, malformed) := parseListPanes stdout
    if malformed ≠ [] ∧ parsed = [] then
      .error (.tmux ⟨.outputMalformed,
          bound (toString malformed.length ++ " tmux list-panes rows malformed or unparseable"),
          some containerId, some socketPath, [], malformed⟩)
    else if malformed ≠ [] then
      .error (.tmux ⟨.outputMalformed,
          bound (toString malformed.length ++ " of " ++ toString (parsed.length + malformed.length) ++
            " tmux list-panes rows malformed"),
          some containerId, some socketPath, parsed, malformed⟩)
    else pure parsed

/-! ## What tmux prints -/

namespace ParsedPane

def textFields (p : ParsedPane) : List (List Char) :=
  [p.tmuxSessionName.toList, p.tmuxPaneId.toList, p.paneTty.toList, p.paneCurrentCommand.toList,
    p.paneCurrentPath.toList, p.paneTitle.toList]

def numbers (p : ParsedPane) : List Int := [p.tmuxWindowIndex, p.tmuxPaneIndex, p.panePid]

def fields (p : ParsedPane) : List (List Char) :=
  [p.tmuxSessionName.toList, p.tmuxWindowIndex.repr.toList, p.tmuxPaneIndex.repr.toList,
    p.tmuxPaneId.toList, p.panePid.repr.toList, p.paneTty.toList, p.paneCurrentCommand.toList,
    p.paneCurrentPath.toList, p.paneTitle.toList, if p.paneActive then ['1'] else ['0']]

/-- The line of a pane with these fields; any text is possible in the fields that hold one. -/
def line (p : ParsedPane) : List Char := ['\t'].intercalate p.fields

def plain (p : ParsedPane) : Bool :=
  (p.textFields.all fun field => field.all fun c => !decide (c = '\t') && !lineBreak c) &&
    p.numbers.all fun i => decide (i.natAbs < 10 ^ PyText.maxStrDigits)

end ParsedPane

/-- The standard output of a `tmux list-panes` that found these panes. -/
def listPanesStdout (panes : List ParsedPane) : String :=
  ofList (universalNewlines (panes.flatMap fun p => p.line ++ ['\n']))

/-! ## A line is read back -/

variable {space : Char → Bool} {text : List Char} {i : Int} {c : Char}

theorem dropWhile_of_none (h : ∀ c ∈ text, space c = false) : text.dropWhile space = text := by
  cases text with
  | nil => rfl
  | cons c text => exact dropWhile_cons_of_neg (by simp [h c mem_cons_self])

theorem stripBy_of_none (h : ∀ c ∈ text, space c = false) : stripBy space text = text := by
  unfold stripBy
  rw [dropWhile_of_none h, dropWhile_of_none fun c hc => h c (mem_reverse.mp hc),
    reverse_reverse]

def numeral (c : Char) : Bool := c == '-' || c.isDigit

theorem numeral_of_mem_repr (h : c ∈ i.repr.toList) : numeral c = true := by
  have hdigits : ∀ n : Nat, ∀ d ∈ Nat.toDigits 10 n, numeral d = true := fun n d hd => by
    rw [numeral, Nat.isDigit_of_mem_toDigits (by decide) (by decide) hd, Bool.or_true]
  cases i with
  | ofNat n =>
    have hmem : c ∈ (ofList (Nat.toDigits 10 n)).toList := h
    rw [toList_ofList] at hmem
    exact hdigits n c hmem
  | negSucc n =>
    have hmem : c ∈ ("-" ++ ofList (Nat.toDigits 10 (n + 1))).toList := h
    rw [String.toList_append, toList_ofList, toList_ofList, singleton_append, mem_cons] at hmem
    rcases hmem with rfl | hmem
    · rfl
    · exact hdigits (n + 1) c hmem

theorem plain_of_numeral (h : numeral c = true) :
    c ≠ '\t' ∧ lineBreak c = false ∧ intSpace c = false := by
  have hrange : c.toNat = 0x2D ∨ (0x30 ≤ c.toNat ∧ c.toNat ≤ 0x39) := by
    rcases Bool.or_eq_true_iff.mp h with hminus | hdigit
    · rw [eq_of_beq hminus]
      exact .inl rfl
    · exact .inr (Char.isDigit_iff_toNat.mp hdigit)
  refine ⟨fun htab => ?_, decide_eq_false ?_, ?_⟩
  · rw [htab] at hrange
    exact absurd hrange (by decide)
  · omega
  · have hspace : isSpace c = false := decide_eq_false (by omega)
    rw [intSpace, hspace, Bool.false_and]

theorem pyInt_repr (h : i.natAbs < 10 ^ PyText.maxStrDigits) : pyInt i.repr.toList = some i := by
  unfold pyInt
  rw [stripBy_of_none fun c hc => (plain_of_numeral (numeral_of_mem_repr hc)).2.2]
  exact PyText.signed_repr h

namespace ParsedPane

variable {p : ParsedPane} {field : List Char} {c : Char}

theorem plain_iff : p.plain = true ↔
    (∀ field ∈ p.textFields, ∀ c ∈ field, c ≠ '\t' ∧ lineBreak c = false) ∧
      ∀ i ∈ p.numbers, i.natAbs < 10 ^ PyText.maxStrDigits := by
  simp only [plain, Bool.and_eq_true, all_eq_true, Bool.not_eq_true', decide_eq_false_iff_not,
    decide_eq_true_iff, ne_eq]

theorem mem_fields (h : field ∈ p.fields) :
    field ∈ p.textFields ∨ ∀ c ∈ field, numeral c = true := by
  have hfocus : ∀ c ∈ (if p.paneActive then ['1'] else ['0'] : List Char), numeral c = true := by
    cases p.paneActive <;> decide
  simp only [fields, mem_cons, not_mem_nil, or_false] at h
  simp only [textFields, mem_cons, not_mem_nil, or_false]
  rcases h with h | h | h | h | h | h | h | h | h | h
  case inr.inl | inr.inr.inl | inr.inr.inr.inr.inl =>
    exact .inr fun c hc => numeral_of_mem_repr (h ▸ hc)
  case inr.inr.inr.inr.inr.inr.inr.inr.inr => exact .inr (h ▸ hfocus)
  all_goals exact .inl (by simp [h])

section

variable (h : p.plain = true)
include h

theorem of_mem_fields (hfield : field ∈ p.fields)
    (hc : c ∈ field) : c ≠ '\t' ∧ lineBreak c = false := by
  rcases mem_fields hfield with htext | hnumeral
  · exact (plain_iff.mp h).1 field htext c hc
  · have hplain := plain_of_numeral (hnumeral c hc)
    exact ⟨hplain.1, hplain.2.1⟩

theorem line_splitOn : p.line.splitOn '\t' = p.fields :=
  splitOn_intercalate _ (fun _ hfield hmem => (of_mem_fields h hfield hmem).1 rfl) (cons_ne_nil _ _)

theorem lineBreak_of_mem_line (hc : c ∈ p.line) : lineBreak c = false := by
  rcases PyText.mem_intercalate hc with htab | ⟨field, hfield, hmem⟩
  · rw [mem_singleton.mp htab]
    decide
  · exact (of_mem_fields h hfield hmem).2

theorem parseRow_line : parseRow p.line = .ok p := by
  have hnumber : ∀ i ∈ p.numbers, pyInt i.repr.toList = some i :=
    fun i hi => pyInt_repr ((plain_iff.mp h).2 i hi)
  have hwindow := hnumber p.tmuxWindowIndex (by simp [numbers])
  have hpane := hnumber p.tmuxPaneIndex (by simp [numbers])
  have hpid := hnumber p.panePid (by simp [numbers])
  have hfocus : parseBool (if p.paneActive then ['1'] else ['0']) = some p.paneActive := by
    cases p.paneActive <;> rfl
  unfold parseRow
  rw [line_splitOn h]
  simp only [fields, hwindow, hpane, hpid, hfocus, String.ofList_toList]

theorem line_ne_nil : p.line ≠ [] := by
  intro hnil
  have hlength := congrArg List.length (line_splitOn h)
  rw [hnil, splitOn_nil] at hlength
  cases hlength

theorem rstripCr_line : rstripCr p.line = p.line := by
  have hcr : ∀ c ∈ p.line.reverse, (c == '\r') = false := by
    intro c hc
    refine beq_false_of_ne fun heq => ?_
    have hbreak := lineBreak_of_mem_line h (mem_reverse.mp hc)
    rw [heq] at hbreak
    exact absurd hbreak (by decide)
  unfold rstripCr
  rw [dropWhile_of_none hcr, reverse_reverse]

end

end ParsedPane

theorem splitlines_printed (panes : List ParsedPane) :
    splitlines (panes.flatMap fun p => p.line ++ ['\n']) =
      panes.flatMap fun p => splitlines (p.line ++ ['\n']) := by
  induction panes with
  | nil => rfl
  | cons p panes ih =>
    rw [flatMap_cons, flatMap_cons, ← ih, append_assoc, singleton_append]
    exact PyText.splitlines_append_newline _ _

theorem splitlines_listPanesStdout (panes : List ParsedPane) :
    splitlines (listPanesStdout panes).toList =
      panes.flatMap fun p => splitlines (p.line ++ ['\n']) := by
  unfold listPanesStdout
  rw [toList_ofList, PyText.splitlines_universalNewlines]
  exact splitlines_printed panes

theorem mem_parseListPanes {panes : List ParsedPane} {p : ParsedPane} (hmem : p ∈ panes)
    (h : p.plain = true) : p ∈ (parseListPanes (listPanesStdout panes)).1 := by
  have hlines : p.line ∈ splitlines (listPanesStdout panes).toList := by
    rw [splitlines_listPanesStdout]
    refine mem_flatMap.mpr ⟨p, hmem, ?_⟩
    rw [PyText.splitlines_line fun c hc => ParsedPane.lineBreak_of_mem_line h hc]
    exact mem_singleton.mpr rfl
  have hline : p.line ∈ outputLines (listPanesStdout panes) :=
    mem_filter.mpr ⟨mem_map.mpr ⟨p.line, hlines, ParsedPane.rstripCr_line h⟩,
      decide_eq_true (ParsedPane.line_ne_nil h)⟩
  refine mem_filterMap.mpr ⟨.ok p, ?_, rfl⟩
  exact mem_map.mpr ⟨p.line, hline, ParsedPane.parseRow_line h⟩

theorem outputLines_printed {panes : List ParsedPane} (h : ∀ p ∈ panes, p.plain = true) :
    outputLines (ofList (panes.flatMap fun p => p.line ++ ['\n'])) = panes.map ParsedPane.line := by
  unfold outputLines
  rw [toList_ofList, splitlines_printed]
  induction panes with
  | nil => rfl
  | cons p panes ih =>
    have hp := h p mem_cons_self
    rw [flatMap_cons, PyText.splitlines_line fun c hc => ParsedPane.lineBreak_of_mem_line hp hc,
      singleton_append, map_cons, ParsedPane.rstripCr_line hp, filter_cons,
      if_pos (decide_eq_true (ParsedPane.line_ne_nil hp)), ih fun q hq => h q (mem_cons_of_mem _ hq),
      map_cons]

/-! ## What is read can be printed -/

theorem lineBreak_of_mem_outputLines {stdout : String} (h : text ∈ outputLines stdout) (hc : c ∈ text) :
    lineBreak c = false := by
  obtain ⟨line, hline, rfl⟩ := mem_map.mp (mem_filter.mp h).1
  have hmem : c ∈ line :=
    mem_reverse.mp ((dropWhile_sublist _).subset (mem_reverse.mp hc))
  exact PyText.lineBreak_of_mem_breakLines hline hmem

theorem fields_of_parseRow {p : ParsedPane} (h : parseRow text = .ok p) :
    (∀ field ∈ p.textFields, field ∈ text.splitOn '\t') ∧
      ∀ i ∈ p.numbers, ∃ field, pyInt field = some i := by
  unfold parseRow at h
  split at h
  · rename_i session window pane paneId pid tty command path title focus hfields
    split at h
    · rename_i windowIndex paneIndex panePid active hwindow hpane hpid hfocus
      cases h
      refine ⟨fun field hfield => ?_, fun i hi => ?_⟩
      · simp only [ParsedPane.textFields, toList_ofList, mem_cons, not_mem_nil, or_false] at hfield
        rw [hfields]
        rcases hfield with rfl | rfl | rfl | rfl | rfl | rfl <;> simp
      · simp only [ParsedPane.numbers, mem_cons, not_mem_nil, or_false] at hi
        rcases hi with rfl | rfl | rfl
        · exact ⟨window, hwindow⟩
        · exact ⟨pane, hpane⟩
        · exact ⟨pid, hpid⟩
    · cases h
  · cases h

theorem plain_of_mem_parseListPanes {stdout : String} {p : ParsedPane}
    (h : p ∈ (parseListPanes stdout).1) : p.plain = true := by
  obtain ⟨row, hrow, hp⟩ := mem_filterMap.mp h
  obtain ⟨line, hline, rfl⟩ := mem_map.mp hrow
  cases hparse : parseRow line with
  | error e =>
    rw [hparse] at hp
    cases hp
  | ok p' =>
    rw [hparse] at hp
    cases hp
    obtain ⟨htexts, hnumbers⟩ := fields_of_parseRow hparse
    refine ParsedPane.plain_iff.mpr ⟨fun field hfield c hc => ?_, fun i hi => ?_⟩
    · obtain ⟨htab, hsub⟩ := PyText.mem_splitOn (htexts field hfield)
      exact ⟨fun heq => htab (heq ▸ hc), lineBreak_of_mem_outputLines hline (hsub c hc)⟩
    · obtain ⟨field, hfield⟩ := hnumbers i hi
      exact PyText.signed_lt hfield

theorem parseListPanes_of_plain {panes : List ParsedPane} (h : ∀ p ∈ panes, p.plain = true) :
    parseListPanes (ofList (panes.flatMap fun p => p.line ++ ['\n'])) = (panes, []) := by
  have hrows : (panes.map ParsedPane.line).map parseRow =
      panes.map fun p => (.ok p : Except MalformedRow ParsedPane) := by
    rw [map_map]
    exact map_congr_left fun p hp => ParsedPane.parseRow_line (h p hp)
  unfold parseListPanes
  rw [outputLines_printed h, hrows]
  simp only [filterMap_map, Function.comp_def, Except.toOption, rowError, filterMap_none,
    filterMap_some]

/-- Panes are read back, in order, exactly when no text of theirs has a tab or a line break and no number
more digits than `int` takes. -/
theorem parseListPanes_printed (panes : List ParsedPane) :
    parseListPanes (ofList (panes.flatMap fun p => p.line ++ ['\n'])) = (panes, []) ↔
      ∀ p ∈ panes, p.plain = true := by
  constructor
  · intro hparsed p hp
    have hread : (parseListPanes (ofList (panes.flatMap fun p => p.line ++ ['\n']))).1 = panes :=
      congrArg Prod.fst hparsed
    exact plain_of_mem_parseListPanes (hread.symm ▸ hp)
  · exact parseListPanes_of_plain

def titledPane (paneId title : String) : ParsedPane :=
  ⟨"main", 0, 0, paneId, 100, "/dev/pts/1", "bash", "/w", title, true⟩

/-- `str.splitlines` ends a line at U+2028 as well. -/
theorem separator_in_title_breaks_row :
    let p := titledPane "%0" "a\u2028b"
    (∀ field ∈ p.textFields, '\t' ∉ field ∧ '\n' ∉ field) ∧
      (parseListPanes (ofList (p.line ++ ['\n']))).1 = [] ∧
      (parseListPanes (ofList (p.line ++ ['\n']))).2.map MalformedRow.actualFields = [9, 2] := by
  decide +kernel

end AgentTower.Discovery
