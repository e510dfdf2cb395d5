import AgentTower.Logs.PipePane
import AgentTower.Logs.Redaction

/-!
# What is done with a redacted text

The classifier takes the escape sequences out of a redacted record, and an excerpt has its white space
collapsed and is cut.  Either may bring the parts of a token together, or end a word.
-/

namespace AgentTower.Logs

open Subst TokenPattern List PyText

variable {p : TokenPattern} {prev prev' : Option Char} {c : Char} {text out body rest post : List Char}

/-! ## Records of the classifier -/

/-- `_ANSI_ESCAPE_RE`: a control sequence, an operating system command, a sequence with an intermediate
byte, or one with a letter.  No two of them begin alike. -/
def isEscape : List Char → Bool
  | '\x1b' :: '[' :: rest => rest.getLast?.any Char.isAlpha &&
      rest.dropLast.all fun c => c.isDigit || decide (c ∈ ";:?<>=".toList)
  | '\x1b' :: ']' :: rest =>
    match rest.reverse with
    | '\x07' :: s | '\\' :: '\x1b' :: s => s.all fun c => c != '\x07' && c != '\x1b'
    | _ => false
  | ['\x1b', a, b] => decide (a.toNat ∈ List.range' 0x20 0x10 ∧ b.toNat ∈ List.range' 0x30 0x4f)
  | ['\x1b', a] => a.isAlpha
  | _ => false

def stripAnsi (text : List Char) : List Char :=
  if '\x1b' ∈ text then sub (fun _ body _ => isEscape body = true) [] none 0 text else text

/-- The `redacted_record` of `classify`. -/
def redactedRecord (record : List Char) : List Char := stripAnsi (redactOneLine record)

abbrev Escape := Anywhere fun body => isEscape body = true

theorem head_of_isEscape (h : isEscape body = true) : ∃ rest, body = '\x1b' :: rest := by
  unfold isEscape at h
  split at h <;> first | exact ⟨_, rfl⟩ | cases h

theorem noMatch_escape (h : c ≠ '\x1b') : NoMatch Escape prev (c :: text) := by
  rintro body post htext - hbody
  obtain ⟨rest, rfl⟩ := head_of_isEscape hbody
  exact h (cons.inj htext).1

theorem rewrites_stripAnsi (text : List Char) : Rewrites Escape [] none text (stripAnsi text) := by
  unfold stripAnsi
  split
  · exact rewrites_sub none text
  · rename_i hnone
    have hfree : ∀ prev, Free Escape prev text := by
      induction text with
      | nil => exact fun _ => trivial
      | cons c text ih =>
        rw [mem_cons, not_or] at hnone
        exact fun _ => ⟨noMatch_escape (Ne.symm hnone.1), ih hnone.2 _⟩
    have hsub : Rewrites Escape [] none text _ := rewrites_sub none text
    rwa [sub_of_free (hfree none)] at hsub

theorem stripAnsi_of_rewrites (h : Rewrites Escape [] prev text out) : stripAnsi text = out :=
  (rewrites_stripAnsi text).eq_sub.trans h.anywhere.eq_sub.symm

theorem stripAnsi_split {pre : List Char} (h : stripAnsi text = pre ++ post) :
    ∃ a b, text = a ++ b ∧ stripAnsi a = pre ∧ stripAnsi b = post := by
  obtain ⟨a, b, htext, ha, hb⟩ := (rewrites_stripAnsi text).split (Nat.zero_le 1) h
  exact ⟨a, b, htext, stripAnsi_of_rewrites ha, stripAnsi_of_rewrites hb⟩

/-- A token that is there when the sequences are taken out, with one of them inside it or next to it. -/
def TokenAtSeam (p : TokenPattern) (text : List Char) : Prop :=
  ∃ a b c, text = a ++ (b ++ c) ∧ stripAnsi text = stripAnsi a ++ (stripAnsi b ++ stripAnsi c) ∧
    p.Matches (stripAnsi a).getLast? (stripAnsi b) (stripAnsi c).head? ∧
    ¬(stripAnsi b = b ∧ (stripAnsi a).getLast? = a.getLast? ∧ (stripAnsi c).head? = c.head?)

def secretKey : List Char := "sk-AAAAAAAAAAAAAAAAAAAAAAAA".toList

def HasEscape (text : List Char) : Prop :=
  ∃ pre body post, text = pre ++ (body ++ post) ∧ isEscape body = true

theorem noMatch_backslash : NoMatch Escape prev ('\x1b' :: '\\' :: text) := by
  rintro body post htext - hbody
  obtain ⟨rest, rfl⟩ := head_of_isEscape hbody
  match rest with
  | [] => cases hbody
  | [d] | [d, e] | d :: e :: f :: rest =>
    obtain rfl : '\\' = d := (cons.inj (cons.inj htext).2).1
    have hbody : isEscape _ = true := hbody
    simp [isEscape] at hbody

theorem free_of_not_hasEscape (h : ¬HasEscape text) : Free Escape prev text := by
  induction text generalizing prev with
  | nil => trivial
  | cons c text ih =>
    refine ⟨fun body post htext _ hbody => h ⟨[], body, post, htext, hbody⟩, ih ?_⟩
    rintro ⟨pre, body, post, rfl, hbody⟩
    exact h ⟨c :: pre, body, post, rfl, hbody⟩

section

variable {pre : List Char}

theorem no_escape_in_control : isEscape ('\x1b' :: '[' :: (pre ++ '\x1b' :: rest)) ≠ true := by
  intro h
  obtain ⟨hlast, hparams⟩ := Bool.and_eq_true_iff.mp h
  cases rest with
  | nil => simp at hlast
  | cons d rest => cases all_eq_true.mp hparams '\x1b' (by simp)

/-- The text of a command has no escape character, so one in it is that of the terminator. -/
theorem terminator_of_command (h : isEscape ('\x1b' :: ']' :: (pre ++ '\x1b' :: rest)) = true) :
    rest = ['\\'] := by
  unfold isEscape at h
  simp only at h
  rw [reverse_append, reverse_cons, append_assoc] at h
  have hall : ∀ {s : List Char}, (s.all fun c => c != '\x07' && c != '\x1b') = true →
      '\x1b' ∉ s := fun hs hmem => by cases all_eq_true.mp hs _ hmem
  rw [← reverse_reverse rest]
  generalize rest.reverse = r at h
  split at h
  · rename_i s hr
    cases r with
    | nil => cases hr
    | cons x r =>
      obtain ⟨-, rfl⟩ := cons.inj hr
      exact absurd (by simp) (hall h)
  · rename_i s _ hr
    rcases r with _ | ⟨x, _ | ⟨y, r⟩⟩
    · cases hr
    · obtain ⟨rfl, -⟩ := cons.inj hr
      rfl
    · obtain ⟨-, hr⟩ := cons.inj hr
      obtain ⟨-, rfl⟩ := cons.inj hr
      exact absurd (by simp) (hall h)
  · cases h

/-- The only escape character inside a sequence is that of the terminator `ESC \`. -/
theorem escape_inside (h : isEscape (pre ++ '\x1b' :: rest) = true) (hne : pre ≠ []) :
    rest = ['\\'] := by
  obtain ⟨first, pre, rfl⟩ := exists_cons_of_ne_nil hne
  obtain ⟨tail, htail⟩ := head_of_isEscape h
  obtain ⟨rfl, -⟩ := cons.inj htail
  rcases pre with _ | ⟨x, pre⟩
  · rcases rest with _ | ⟨b, _ | ⟨d, rest⟩⟩
    · cases h
    · simp [isEscape] at h
    · cases h
  · by_cases hcontrol : x = '['
    · exact absurd (hcontrol ▸ h) no_escape_in_control
    by_cases hcommand : x = ']'
    · exact terminator_of_command (hcommand ▸ h)
    -- of the two short forms, the one with an intermediate byte ends with no escape character
    unfold isEscape at h
    split at h
    · rename_i heq
      cases heq
      exact absurd rfl hcontrol
    · rename_i heq
      cases heq
      exact absurd rfl hcommand
    · rename_i heq
      cases pre with
      | nil =>
        cases heq
        exact absurd (of_decide_eq_true h).2 (by decide)
      | cons y pre => simp at heq
    · rename_i heq
      simp at heq
    · cases h

end

theorem kept_of_strip (h : Rewrites Escape [] prev text (c :: out)) :
    ∃ pre rest, text = pre ++ c :: rest ∧ NoMatch Escape none (c :: rest) ∧ stripAnsi rest = out := by
  generalize hout : c :: out = out' at h
  induction h with
  | nil => cases hout
  | miss hnot hrest =>
    cases hout
    exact ⟨[], _, rfl, hnot, stripAnsi_of_rewrites hrest⟩
  | @hit prev body rest out' _ _ _ _ ih =>
    obtain ⟨pre, rest, rfl, hkept⟩ := ih hout
    exact ⟨body ++ pre, rest, (append_assoc ..).symm, hkept⟩

theorem kept_in_strip {pre : List Char} (h : Rewrites Escape [] prev text out)
    (htext : text = pre ++ '\x1b' :: rest) (hnot : NoMatch Escape none ('\x1b' :: rest)) :
    (∃ before, out = before ++ '\x1b' :: stripAnsi rest) ∨ rest.head? = some '\\' := by
  induction h generalizing pre with
  | nil => simp at htext
  | @miss prev x tail out _ hrest ih =>
    cases pre with
    | nil =>
      cases htext
      exact .inl ⟨[], by rw [stripAnsi_of_rewrites hrest]; rfl⟩
    | cons y pre =>
      obtain ⟨rfl, htail⟩ := cons.inj htext
      exact (ih htail).imp_left fun ⟨before, hout⟩ => ⟨x :: before, by rw [hout]; rfl⟩
  | @hit prev body tail out hne hmatch _ _ ih =>
    rcases append_eq_append_iff.mp htext with ⟨a, rfl, htail⟩ | ⟨a, rfl, htail⟩
    · exact ih htail
    · cases a with
      | nil => exact ih (show _ = [] ++ _ from htail.symm)
      | cons y a =>
        obtain ⟨rfl, rfl⟩ := cons.inj htail
        cases pre with
        | nil => exact absurd hmatch (hnot ('\x1b' :: a) tail rfl nofun)
        | cons z pre =>
          rw [escape_inside hmatch nofun]
          exact .inr rfl

/-- An escape character that begins no sequence begins one without the sequences behind it. -/
def EscapeLeft (text : List Char) : Prop :=
  ∃ pre rest, text = pre ++ '\x1b' :: rest ∧ NoMatch Escape none ('\x1b' :: rest) ∧
    ¬NoMatch Escape none ('\x1b' :: stripAnsi rest)

theorem hasEscape_stripAnsi_iff : HasEscape (stripAnsi text) ↔ EscapeLeft text := by
  constructor
  · rintro ⟨pre, body, post, hstrip, hbody⟩
    obtain ⟨a, b, rfl, -, hb⟩ := stripAnsi_split hstrip
    obtain ⟨tail, rfl⟩ := head_of_isEscape hbody
    have hrewrites := rewrites_stripAnsi b
    rw [hb] at hrewrites
    obtain ⟨before, rest, rfl, hnot, hrest⟩ := kept_of_strip hrewrites
    refine ⟨a ++ before, rest, (append_assoc ..).symm, hnot, fun hnone => ?_⟩
    rw [hrest] at hnone
    exact hnone ('\x1b' :: tail) post rfl nofun hbody
  · rintro ⟨pre, rest, htext, hnot, hbegins⟩
    rcases kept_in_strip (rewrites_stripAnsi text) htext hnot with ⟨before, hout⟩ | hbackslash
    · rw [hout]
      by_contra hnone
      refine hbegins fun body post hbody _ hescape => hnone ⟨before, body, post, ?_, hescape⟩
      rw [hbody]
    · obtain ⟨tail, rfl⟩ := head?_eq_some_iff.mp hbackslash
      have hkept : Rewrites Escape [] none ('\\' :: tail) _ :=
        .miss (noMatch_escape (by decide)) (rewrites_sub _ tail)
      rw [stripAnsi_of_rewrites hkept] at hbegins
      exact absurd noMatch_backslash hbegins

/-- Nothing is left to remove, and no rule of the classifier sees a sequence, if and only if no escape
character is left to begin one. -/
theorem stripAnsi_clean (text : List Char) :
    (¬HasEscape (stripAnsi text) ∧ stripAnsi (stripAnsi text) = stripAnsi text ∧
      ∀ record, redactOneLine record = text → ¬HasEscape (redactedRecord record)) ↔
        ¬EscapeLeft text := by
  rw [← hasEscape_stripAnsi_iff]
  refine ⟨fun h => h.1, fun h => ⟨h, ?_, ?_⟩⟩
  · exact (rewrites_stripAnsi _).eq_of_free (free_of_not_hasEscape h)
  · rintro record rfl
    exact h

/-- A sequence between an escape character and a letter: without it they are one. -/
theorem escape_made_by_strip :
    stripAnsi "\x1b\x1b[mc".toList = "\x1bc".toList ∧ stripAnsi "\x1bc".toList = [] ∧
      HasEscape (redactedRecord "\x1b\x1b[mc".toList) :=
  ⟨by decide +kernel, by decide +kernel, [], "\x1bc".toList, [], by decide +kernel, by decide⟩

/-! ## Excerpts of events -/

def truncateExcerpt (redactedRecord : List Char) (capBytes : Int) (marker : List Char) :
    Except String (List Char) :=
  if capBytes ≤ 0 then .error s!"cap_bytes must be > 0; got {capBytes}"
  else if (encode redactedRecord).length ≤ capBytes then .ok redactedRecord
  else if (encode marker).length ≥ capBytes then
    .ok (decodeIgnore ((encode marker).take capBytes.toNat))
  else
    let available := capBytes.toNat - (encode marker).length
    .ok (decodeIgnore ((encode redactedRecord).take available) ++ marker)

/-- The excerpt of an event is the record, or the longest beginning of it that leaves room for the
marker, and the marker. -/
theorem truncateExcerpt_longest (redactedRecord marker : List Char) {capBytes : Int}
    (hcap : 1 ≤ capBytes) :
    ∃ excerpt, truncateExcerpt redactedRecord capBytes marker = .ok excerpt ∧
      (encode excerpt).length ≤ capBytes ∧
      ((encode redactedRecord).length ≤ capBytes → excerpt = redactedRecord) ∧
      (capBytes < (encode redactedRecord).length → (encode marker).length < capBytes →
        ∃ kept, LongestFit (capBytes.toNat - (encode marker).length) redactedRecord kept ∧
          excerpt = kept ++ marker) := by
  unfold truncateExcerpt
  rw [if_neg (Int.not_le.mpr hcap)]
  split_ifs with hfits hmarker
  · exact ⟨_, rfl, hfits, fun _ => rfl, fun h => absurd hfits (Int.not_le.mpr h)⟩
  · refine ⟨_, rfl, ?_, fun h => absurd h hfits, fun _ h => absurd hmarker (Int.not_le.mpr h)⟩
    have hcut := (decodeIgnore_take capBytes.toNat marker).fits
    omega
  · have hkept := decodeIgnore_take (capBytes.toNat - (encode marker).length) redactedRecord
    refine ⟨_, rfl, ?_, fun h => absurd h hfits, fun _ _ => ⟨_, hkept, rfl⟩⟩
    have hlength := hkept.fits
    rw [encode, flatMap_append, length_append, ← encode, ← encode]
    omega

theorem truncateExcerpt_longest_cut :
    ∃ kept, LongestFit 2 "éé".toList kept ∧
      truncateExcerpt "éé".toList 3 "+".toList = .ok (kept ++ "+".toList) := by
  obtain ⟨excerpt, hok, -, -, hcut⟩ :=
    truncateExcerpt_longest "éé".toList "+".toList (show (1 : Int) ≤ 3 by decide)
  obtain ⟨kept, hkept, rfl⟩ := hcut (by decide) (by decide)
  exact ⟨kept, hkept, hok⟩

/-! ## Excerpts -/

abbrev Spaces := Anywhere fun body : List Char => ∀ c ∈ body, isSpace c = true

def collapseSpaces (text : List Char) : List Char := sub Spaces [' '] none 0 text

def redactMultiline (text : List Char) : List Char :=
  List.intercalate ['\n'] ((text.splitOn '\n').map redactOneLine)

def redactorFailedPlaceholder : List Char := "[excerpt unavailable: redactor failed]".toList

/-- `decoded` is the body as UTF-8, `none` if it is none. -/
def renderExcerpt (decoded : Option (List Char)) (cap : Nat) : List Char :=
  match decoded with
  | none => redactorFailedPlaceholder
  | some text =>
    let oneLine := collapseSpaces (redactMultiline text)
    if oneLine.length ≤ cap then oneLine else oneLine.take cap ++ ['…']

theorem not_space_of_word (h : word c = true) : isSpace c = false := by
  refine isSpace_of_shellSafe ?_
  rcases Bool.or_eq_true_iff.mp h with h | h
  · simp [shellSafe, h]
  · rw [beq_iff_eq.mp h]
    decide

theorem not_space_of_tail (hp : p ∈ unanchoredPatterns) (h : p.tail c = true) : isSpace c = false := by
  cases hb : p.bounded with
  | true => exact not_space_of_word ((regular_of_mem hp).tail_word hb c h)
  | false =>
    simp only [unanchoredPatterns, mem_cons, not_mem_nil, or_false] at hp
    rcases hp with rfl | rfl | rfl | rfl
    · cases hb
    · cases hb
    · cases hb
    · simp only [bearer, Bool.or_eq_true, beq_iff_eq] at h
      rcases h with ((h | rfl) | rfl) | rfl
      · exact not_space_of_word h
      all_goals decide

theorem not_word_of_space (h : isSpace c = true) : word c = false := by
  by_contra hword
  rw [not_space_of_word (Bool.not_eq_false _ ▸ hword)] at h
  cases h

theorem free_congr (h : prev.any word = prev'.any word) (hfree : Free p.Matches prev text) :
    Free p.Matches prev' text := by
  cases text with
  | nil => trivial
  | cons c text =>
    refine ⟨fun body post htext hne hmatch => hfree.1 body post htext hne ?_, hfree.2⟩
    exact ⟨h.trans hmatch.start, hmatch.token, hmatch.stop⟩

theorem free_lines (hp : p.Regular) {lines : List (List Char)}
    (h : ∀ line ∈ lines, Free p.Matches none line) :
    Free p.Matches none (List.intercalate ['\n'] lines) := by
  induction lines with
  | nil => trivial
  | cons line lines ih =>
    rw [forall_mem_cons] at h
    cases lines with
    | nil => simpa [List.intercalate] using h.1
    | cons next lines =>
      have hjoin : List.intercalate ['\n'] (line :: next :: lines)
          = line ++ '\n' :: List.intercalate ['\n'] (next :: lines) := by simp [List.intercalate]
      rw [hjoin]
      have hline := h.1
      rw [← append_nil line] at hline
      refine free_of_agree hp hline (fun c hc => ?_) (fun _ => rfl)
        ⟨noMatch_of_not_word hp rfl, free_congr ?_ (ih h.2)⟩
      · cases hc
        decide
      · rfl

/-! ### Collapsing -/

theorem rewrites_collapse (text : List Char) :
    Rewrites Spaces [' '] none text (collapseSpaces text) := rewrites_sub none text

theorem collapse_of_rewrites (h : Rewrites Spaces [' '] prev text out) : collapseSpaces text = out :=
  h.anywhere.eq_sub.symm

theorem head_of_collapse (text : List Char) :
    (collapseSpaces text).head?.any word = text.head?.any word := by
  have h := rewrites_collapse text
  generalize collapseSpaces text = out at h
  cases h with
  | nil | miss => rfl
  | @hit _ body rest out hne hspaces =>
    cases body with
    | nil => exact absurd rfl hne
    | cons c body => exact (not_word_of_space (hspaces c mem_cons_self)).symm

theorem last_of_collapse (h : Rewrites Spaces [' '] prev text out) :
    (out.getLast?.or prev).any word = (text.getLast?.or prev).any word := by
  induction h with
  | nil => rfl
  | miss _ _ ih => rwa [getLast?_cons_or, getLast?_cons_or]
  | @hit prev body rest out hne hspaces _ _ ih =>
    have hbody := not_word_of_space (hspaces _ (getLast_mem hne))
    rw [singleton_append, getLast?_cons_or, List.getLast?_append, Option.or_assoc, ← ih,
      List.getLast?_eq_some_getLast hne]
    cases out.getLast? with
    | none => exact hbody.symm
    | some c => rfl

theorem any_last_collapse (text : List Char) :
    (collapseSpaces text).getLast?.any word = text.getLast?.any word := by
  simpa using last_of_collapse (rewrites_collapse text)

theorem eq_of_collapse (h : Rewrites Spaces [' '] prev text out)
    (hout : ∀ c ∈ out, isSpace c = false) : text = out := by
  induction h with
  | nil => rfl
  | miss _ _ ih => rw [ih (forall_mem_cons.mp hout).2]
  | hit => cases (forall_mem_cons.mp hout).1

theorem collapse_of_no_space (h : ∀ c ∈ text, isSpace c = false) : collapseSpaces text = text := by
  suffices hrewrites : ∀ prev, Rewrites Spaces [' '] prev text text from
    collapse_of_rewrites (hrewrites none)
  induction text with
  | nil => exact .nil
  | cons c text ih =>
    rw [forall_mem_cons] at h
    refine fun prev => .miss (fun body post htext hne hspaces => ?_) (ih h.2 _)
    obtain ⟨d, body, rfl⟩ := exists_cons_of_ne_nil hne
    obtain ⟨rfl, -⟩ := cons.inj htext
    rw [hspaces c mem_cons_self] at h
    cases h.1

theorem spaces_of_collapse (h : Rewrites Spaces [' '] prev text out) (hout : out = [' ']) :
    text ≠ [] ∧ ∀ c ∈ text, isSpace c = true := by
  cases h with
  | nil => cases hout
  | miss hmiss =>
    cases hout
    exact absurd (fun c hc => mem_singleton.mp hc ▸ by decide) (hmiss [' '] _ rfl nofun)
  | hit hne hspaces _ hrest =>
    obtain rfl := (cons.inj hout).2
    cases hrest
    rw [append_nil]
    exact ⟨hne, hspaces⟩

theorem collapse_spaces (hne : body ≠ []) (h : ∀ c ∈ body, isSpace c = true) :
    collapseSpaces body = [' '] := by
  have hhit : Rewrites Spaces [' '] none (body ++ []) ([' '] ++ []) :=
    .hit hne h (fun a b hab ha => absurd (append_eq_nil_iff.mp hab.symm).1 ha) (.nil _)
  simpa using collapse_of_rewrites hhit

theorem collapse_append {a b : List Char}
    (h : a.getLast?.any isSpace = false ∨ b.head?.any isSpace = false) :
    collapseSpaces (a ++ b) = collapseSpaces a ++ collapseSpaces b := by
  refine collapse_of_rewrites ((rewrites_collapse a).append (rewrites_collapse b) ?_)
  rintro t u ⟨s, rfl⟩ ⟨v, rfl⟩ ht hu hspaces
  rcases h with h | h
  · rw [List.getLast?_append_of_ne_nil _ ht, List.getLast?_eq_some_getLast ht, Option.any_some,
      hspaces _ (mem_append_left _ (getLast_mem ht))] at h
    cases h
  · rw [List.head?_append_of_ne_nil _ hu, List.head?_eq_some_head hu, Option.any_some,
      hspaces _ (mem_append_right _ (head_mem hu))] at h
    cases h

theorem space_of_mem_collapse (h : Rewrites Spaces [' '] prev text out) (hc : c ∈ out)
    (hspace : isSpace c = true) : c = ' ' := by
  induction h with
  | nil => cases hc
  | miss hmiss _ ih =>
    rcases mem_cons.mp hc with rfl | hc
    · refine absurd (fun d hd => ?_) (hmiss [c] _ rfl nofun)
      rwa [mem_singleton.mp hd]
    · exact ih hc
  | hit _ _ _ _ ih =>
    rcases mem_cons.mp hc with rfl | hc
    · rfl
    · exact ih hc

/-! ### Tokens that the collapse or the cut makes -/

/-- White space of any kind after `Bearer`, and a token behind it, among the first `cap` characters. -/
def BearerJoined (text : List Char) (cap : Nat) : Prop :=
  ∃ a ws run c, text = a ++ ("Bearer".toList ++ (ws ++ run)) ++ c ∧ a.getLast?.any word = false ∧
    ws ≠ [] ∧ (∀ c ∈ ws, isSpace c = true) ∧ bearer.isRun run = true ∧
    (collapseSpaces (a ++ ("Bearer".toList ++ (ws ++ run)))).length ≤ cap

/-- The text up to the cut ends with a token. -/
def TokenCutOff (p : TokenPattern) (text : List Char) (cap : Nat) : Prop :=
  ∃ a b c, text = a ++ b ++ c ∧ p.Matches a.getLast? b none ∧ (collapseSpaces (a ++ b)).length = cap

theorem bounded_or_bearer (hp : p ∈ unanchoredPatterns) : p.bounded = true ∨ p = bearer := by
  simp only [unanchoredPatterns, mem_cons, not_mem_nil, or_false] at hp
  rcases hp with rfl | rfl | rfl | rfl <;> simp [openaiKey, githubToken, awsAccessKey]

theorem no_space_of_bounded (hp : p ∈ unanchoredPatterns) (hb : p.bounded = true)
    {next : Option Char} (h : p.Matches prev body next) : ∀ c ∈ body, isSpace c = false := by
  have hheads : ∀ p ∈ unanchoredPatterns, p.bounded = true → ∀ head ∈ p.heads, ∀ c ∈ head,
      isSpace c = false := by decide
  obtain ⟨head, hhead, run, rfl, hrun, -⟩ := h.split
  intro c hc
  rcases mem_append.mp hc with hc | hc
  · exact hheads p hp hb head hhead c hc
  · exact not_space_of_tail hp (hrun c hc)

theorem excerpt_eq (text : List Char) (cap : Nat) :
    ∃ e, (e = [] ∧ (collapseSpaces (redactMultiline text)).length ≤ cap ∨
        e = ['…'] ∧ cap < (collapseSpaces (redactMultiline text)).length) ∧
      renderExcerpt (some text) cap = (collapseSpaces (redactMultiline text)).take cap ++ e := by
  unfold renderExcerpt
  simp only
  split
  · rename_i hshort
    exact ⟨[], .inl ⟨rfl, hshort⟩, by rw [take_of_length_le hshort, append_nil]⟩
  · rename_i hlong
    exact ⟨_, .inr ⟨rfl, Nat.lt_of_not_le hlong⟩, rfl⟩

theorem not_contains_redactMultiline (hp : p ∈ unanchoredPatterns) (text : List Char) :
    ¬p.Contains (redactMultiline text) := by
  refine not_contains_of_free (regular_of_mem hp) (free_lines (regular_of_mem hp) fun line hl => ?_)
  obtain ⟨l, -, rfl⟩ := mem_map.mp hl
  exact (redactOneLine_settled l).1 p hp

theorem any_ends_of_no_space (h : ∀ c ∈ text, isSpace c = false) :
    text.head?.any isSpace = false ∧ text.getLast?.any isSpace = false := by
  constructor <;> rw [Option.any_eq_false]
  · exact fun c hc => h c (mem_of_mem_head? hc)
  · exact fun c hc => h c (mem_of_getLast? hc)

/-- A token of the excerpt, which is `k` and perhaps the ellipsis, comes from the collapse or the cut. -/
theorem made_of_contains {k e tail : List Char} (hp : p ∈ unanchoredPatterns)
    (hclean : ¬p.Contains text) (hone : collapseSpaces text = k ++ tail)
    (hend : e = [] ∧ tail = [] ∨ e = ['…']) (h : p.Contains (k ++ e)) :
    BearerJoined text k.length ∨ e = ['…'] ∧ TokenCutOff p text k.length := by
  obtain ⟨pre, body, post, hsplit, hmatch⟩ := h
  obtain ⟨post₀, hk, hpost⟩ : ∃ post₀, k = pre ++ body ++ post₀ ∧ post = post₀ ++ e := by
    rw [← append_assoc] at hsplit
    rcases append_eq_append_iff.mp hsplit with ⟨x, hx, he⟩ | ⟨x, hx, he⟩
    · cases x with
      | nil => exact ⟨[], by simpa using hx.symm, by simpa using he.symm⟩
      | cons y x =>
        -- the ellipsis is in no token
        rcases hend with ⟨rfl, -⟩ | rfl
        · cases he
        · obtain ⟨rfl, hnil⟩ := cons.inj he
          obtain ⟨rfl, -⟩ := append_eq_nil_iff.mp hnil.symm
          have hne : body ≠ [] := fun hnil => by
            have hlong := hmatch.twenty_le (regular_of_mem hp)
            rw [hnil] at hlong
            cases hlong
          have hlast := congrArg List.getLast? hx
          rw [List.getLast?_append_of_ne_nil _ hne, List.getLast?_concat] at hlast
          exact absurd (by decide) (hmatch.no_mark (regular_of_mem hp) (mem_of_getLast? hlast))
    · exact ⟨x, hx, he⟩
  rw [hk, append_assoc (pre ++ body)] at hone
  obtain ⟨ab, c, rfl, hab, hc⟩ := (rewrites_collapse text).split (by decide) hone
  obtain ⟨a, b, rfl, ha, hb⟩ := hab.split (by decide) rfl
  have hstart : a.getLast?.any word = false := by
    have hlast := last_of_collapse ha
    rw [Option.or_none, Option.or_none] at hlast
    exact hlast.symm.trans hmatch.start
  rcases bounded_or_bearer hp with hbounded | rfl
  · obtain rfl := eq_of_collapse hb (no_space_of_bounded hp hbounded hmatch)
    by_cases hcut : post₀ = [] ∧ e = ['…']
    · refine .inr ⟨hcut.2, a, b, c, rfl, ⟨hstart, hmatch.token, fun _ => rfl⟩, ?_⟩
      rw [collapse_of_rewrites hab, hk, hcut.1, append_nil]
    · refine absurd ⟨a, b, c, append_assoc .., hstart, hmatch.token, fun _ => ?_⟩ hclean
      have hstop := hmatch.stop hbounded
      rw [← head_of_collapse c, collapse_of_rewrites hc]
      rw [hpost] at hstop
      cases post₀ with
      | cons y post₀ => exact hstop
      | nil =>
        rcases hend with ⟨-, rfl⟩ | he
        · rfl
        · exact absurd ⟨rfl, he⟩ hcut
  · obtain ⟨head, hhead, ⟨run, rfl⟩, hrun⟩ := hmatch.token
    obtain rfl : head = "Bearer ".toList := mem_singleton.mp hhead
    rw [drop_left] at hrun
    obtain ⟨b₁, b₂, rfl, h₁, h₂⟩ :=
      hb.split (by decide) (show _ = "Bearer".toList ++ ([' '] ++ run) from rfl)
    obtain ⟨ws, b₃, rfl, hws, h₃⟩ := h₂.split (by decide) rfl
    obtain rfl := eq_of_collapse h₁ (by decide)
    obtain rfl := eq_of_collapse h₃ fun c hc => not_space_of_tail hp ((isRun_iff.mp hrun).1 c hc)
    obtain ⟨hne, hspaces⟩ := spaces_of_collapse hws rfl
    refine .inl ⟨a, ws, _, c, rfl, hstart, hne, hspaces, hrun, ?_⟩
    rw [collapse_of_rewrites hab, hk]
    simp

theorem contains_of_bearerJoined {cap : Nat} (h : BearerJoined text cap) (e : List Char) :
    bearer.Contains ((collapseSpaces text).take cap ++ e) := by
  obtain ⟨a, ws, run, c, rfl, hstart, hne, hspaces, hrun, hlength⟩ := h
  have hno : ∀ c ∈ run, isSpace c = false := fun c hc =>
    not_space_of_tail (show bearer ∈ unanchoredPatterns by simp [unanchoredPatterns])
      ((isRun_iff.mp hrun).1 c hc)
  have hrunne : run ≠ [] := ne_nil_of_length_pos (Nat.lt_of_lt_of_le (by decide) (isRun_iff.mp hrun).2.1)
  have hbearer : collapseSpaces "Bearer".toList = "Bearer".toList := collapse_of_no_space (by decide)
  have hjoined : collapseSpaces (a ++ ("Bearer".toList ++ (ws ++ run)))
      = collapseSpaces a ++ ("Bearer ".toList ++ run) := by
    rw [collapse_append (.inr rfl), collapse_append (.inl rfl),
      collapse_append (.inr (any_ends_of_no_space hno).1), hbearer,
      collapse_spaces hne hspaces, collapse_of_no_space hno]
    rfl
  rw [collapse_append, take_append, take_of_length_le hlength, hjoined]
  · refine ⟨collapseSpaces a, "Bearer ".toList ++ run, _, by simp only [append_assoc]; rfl,
      (any_last_collapse a).trans hstart, ⟨_, mem_singleton_self _, prefix_append _ _, ?_⟩,
      fun hb => by cases hb⟩
    rwa [drop_left]
  · left
    rw [← append_assoc, ← append_assoc, List.getLast?_append_of_ne_nil _ hrunne]
    exact (any_ends_of_no_space hno).2

theorem contains_of_tokenCutOff {cap : Nat} {e : List Char} (hp : p ∈ unanchoredPatterns)
    (hclean : ¬p.Contains text) (h : TokenCutOff p text cap) (he : e.head?.any word = false) :
    p.Contains ((collapseSpaces text).take cap ++ e) := by
  obtain ⟨a, b, c, rfl, hmatch, hlength⟩ := h
  rcases bounded_or_bearer hp with hbounded | rfl
  · have hno := no_space_of_bounded hp hbounded hmatch
    have hne : b ≠ [] := fun hnil => by
      have hlong := hmatch.twenty_le (regular_of_mem hp)
      rw [hnil] at hlong
      cases hlong
    rw [collapse_append, take_left' hlength, collapse_append (.inr (any_ends_of_no_space hno).1),
      collapse_of_no_space hno]
    · exact ⟨collapseSpaces a, b, e, append_assoc .., (any_last_collapse a).trans hmatch.start,
        hmatch.token, fun _ => he⟩
    · left
      rw [List.getLast?_append_of_ne_nil _ hne]
      exact (any_ends_of_no_space hno).2
  · exact absurd ⟨a, b, c, append_assoc .., hmatch.start, hmatch.token, fun hb => by cases hb⟩ hclean

theorem BearerJoined.mono {m n : Nat} (h : BearerJoined text m) (hle : m ≤ n) :
    BearerJoined text n := by
  obtain ⟨a, ws, run, c, htext, hstart, hne, hspaces, hrun, hlength⟩ := h
  exact ⟨a, ws, run, c, htext, hstart, hne, hspaces, hrun, hlength.trans hle⟩

/-- For every body, also one that is no UTF-8, and every cap: an excerpt is one line of at most
`cap + 1` characters in which no pattern matches any part, if and only if the placeholder is not longer
than that, or neither the collapse nor the cut of the redacted text makes a token. -/
theorem renderExcerpt_clean (decoded : Option (List Char)) (cap : Nat) :
    ((∀ c ∈ renderExcerpt decoded cap, isSpace c = true → c = ' ') ∧
        (renderExcerpt decoded cap).length ≤ cap + 1 ∧
        ∀ p ∈ unanchoredPatterns, ¬p.Contains (renderExcerpt decoded cap)) ↔
      (decoded = none → redactorFailedPlaceholder.length ≤ cap + 1) ∧
        ∀ text, decoded = some text → ¬BearerJoined (redactMultiline text) cap ∧
          ∀ p ∈ unanchoredPatterns, ¬TokenCutOff p (redactMultiline text) cap := by
  cases decoded with
  | none =>
    refine ⟨fun h => ⟨fun _ => h.2.1, fun _ h => by cases h⟩, fun h =>
      ⟨show ∀ c ∈ redactorFailedPlaceholder, _ by decide, h.1 rfl,
        fun p hp => not_contains_of_free (regular_of_mem hp) ?_⟩⟩
    rw [← append_nil (renderExcerpt none cap)]
    exact free_marked (regular_of_mem hp) (show marked redactorFailedPlaceholder = true by decide) trivial
  | some text =>
    obtain ⟨e, hend, hexcerpt⟩ := excerpt_eq text cap
    have hclean : ∀ p ∈ unanchoredPatterns, ¬p.Contains (redactMultiline text) :=
      fun p hp => not_contains_redactMultiline hp text
    rw [hexcerpt]
    constructor
    · rintro ⟨-, -, h⟩
      refine ⟨(fun hnone => by cases hnone), ?_⟩
      rintro _ ⟨⟩
      refine ⟨fun hjoined => h bearer ?_ (contains_of_bearerJoined hjoined e), fun p hp hcut =>
        h p hp (contains_of_tokenCutOff hp (hclean p hp) hcut ?_)⟩
      · simp [unanchoredPatterns]
      · rcases hend with ⟨rfl, -⟩ | ⟨rfl, -⟩ <;> rfl
    · rintro ⟨-, h⟩
      obtain ⟨hjoined, hcut⟩ := h text rfl
      refine ⟨fun c hc hspace => ?_, ?_, fun p hp hcontains => ?_⟩
      · rcases mem_append.mp hc with hc | hc
        · exact space_of_mem_collapse (rewrites_collapse _) (mem_of_mem_take hc) hspace
        · rcases hend with ⟨rfl, -⟩ | ⟨rfl, -⟩
          · cases hc
          · rw [mem_singleton.mp hc] at hspace
            cases hspace
      · have hkept := length_take_le cap (collapseSpaces (redactMultiline text))
        rw [length_append]
        rcases hend with ⟨rfl, -⟩ | ⟨rfl, -⟩ <;> simp only [length_nil, length_singleton] <;> omega
      · have hends : e = [] ∧ (collapseSpaces (redactMultiline text)).drop cap = [] ∨ e = ['…'] :=
          hend.imp (fun h => ⟨h.1, drop_of_length_le h.2⟩) And.left
        rcases made_of_contains hp (hclean p hp) (take_append_drop cap _).symm hends hcontains with
          hmade | ⟨he, hmade⟩
        · exact hjoined (hmade.mono (length_take_le _ _))
        · rcases hend with ⟨rfl, -⟩ | ⟨-, hlong⟩
          · cases he
          · rw [length_take_of_le hlong.le] at hmade
            exact hcut p hp hmade

/-- A tab after `Bearer`, and a key that is cut before its underscore. -/
theorem excerpt_makes_tokens :
    bearer.Contains (renderExcerpt (some "Bearer\tAAAAAAAAAAAAAAAA".toList) 240) ∧
      openaiKey.Contains (renderExcerpt (some (secretKey ++ "_".toList)) 27) := by
  have htab : renderExcerpt (some "Bearer\tAAAAAAAAAAAAAAAA".toList) 240
      = "Bearer AAAAAAAAAAAAAAAA".toList := by decide +kernel
  have hcut : renderExcerpt (some (secretKey ++ "_".toList)) 27 = secretKey ++ "…".toList := by
    decide +kernel
  rw [htab, hcut]
  exact ⟨⟨[], "Bearer AAAAAAAAAAAAAAAA".toList, [], rfl, by decide⟩, ⟨[], secretKey, "…".toList, rfl, by decide⟩⟩

end AgentTower.Logs
