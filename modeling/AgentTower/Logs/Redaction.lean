import AgentTower.Lib.PyText
import AgentTower.Lib.Subst
import Mathlib.Data.List.TakeWhile

/-!
# Redaction of a line

`redact_one_line` replaces the matches of four patterns, one pattern after the other, and then looks at
the line as a whole.  A replacement begins and ends with a character that no token has, and what comes
next to it is no word character: so it neither makes nor uncovers a match.
-/

namespace AgentTower.Logs

open Subst List

/-! ## The patterns -/

/-- `\w` under `re.ASCII`. -/
def word (c : Char) : Bool := c.isAlphanum || c == '_'

/-- `\bhead[tail]{least,most}`, and `\b` at the end if `bounded`.  Every head begins with a word
character, so the first `\b` is about the character before it. -/
structure TokenPattern where
  heads : List (List Char)
  tail : Char → Bool
  least : Nat
  most : Option Nat
  bounded : Bool
  replacement : List Char

namespace TokenPattern

def isRun (p : TokenPattern) (run : List Char) : Bool :=
  run.all p.tail && decide (p.least ≤ run.length) && p.most.all fun n => decide (run.length ≤ n)

/-- The expression matches `body` between `prev` and `next`. -/
structure Matches (p : TokenPattern) (prev : Option Char) (body : List Char) (next : Option Char) :
    Prop where
  start : prev.any word = false
  token : ∃ head ∈ p.heads, head <+: body ∧ p.isRun (body.drop head.length) = true
  stop : p.bounded = true → next.any word = false

instance (p : TokenPattern) (prev : Option Char) (body : List Char) (next : Option Char) :
    Decidable (p.Matches prev body next) :=
  decidable_of_iff (prev.any word = false ∧
      (∃ head ∈ p.heads, head <+: body ∧ p.isRun (body.drop head.length) = true) ∧
      (p.bounded = true → next.any word = false))
    ⟨fun h => ⟨h.1, h.2.1, h.2.2⟩, fun h => ⟨h.start, h.token, h.stop⟩⟩

def Contains (p : TokenPattern) (text : List Char) : Prop :=
  ∃ pre body post, text = pre ++ (body ++ post) ∧ p.Matches pre.getLast? body post.head?

end TokenPattern

def openaiKey : TokenPattern :=
  ⟨["sk-".toList], Char.isAlphanum, 20, none, true, "<redacted:openai-key>".toList⟩

def githubToken : TokenPattern :=
  ⟨["ghp_".toList, "ghs_".toList], Char.isAlphanum, 20, none, true,
    "<redacted:github-token>".toList⟩

def awsAccessKey : TokenPattern :=
  ⟨["AKIA".toList], fun c => c.isUpper || c.isDigit, 16, some 16, true,
    "<redacted:aws-access-key>".toList⟩

def bearer : TokenPattern :=
  ⟨["Bearer ".toList], fun c => word c || c == '-' || c == '.' || c == '=', 16, none, false,
    "Bearer <redacted:bearer>".toList⟩

def unanchoredPatterns : List TokenPattern := [openaiKey, githubToken, awsAccessKey, bearer]

/-- `_JWT_PATTERN.fullmatch`: three parts that are not empty. -/
def isJwt (line : List Char) : Bool :=
  line.all (fun c => word c || c == '-' || c == '.') &&
    decide ((line.splitOn '.').map List.isEmpty = [false, false, false])

def redactJwt (line : List Char) : List Char :=
  if isJwt line ∧ 32 ≤ line.length then "<redacted:jwt>".toList else line

/-- The first group of `_ENV_PATTERN`. -/
def isSecretName (name : List Char) : Bool :=
  name.head?.any (fun c => c.isUpper || c == '_') &&
    name.all (fun c => c.isUpper || c.isDigit || c == '_') &&
    ["API_KEY", "APIKEY", "TOKEN", "SECRET", "PASSWORD", "AUTH"].any fun s =>
      s.toList.isSuffixOf (name.drop 1)

def redactEnv (line : List Char) : List Char :=
  let name := line.takeWhile (· != '=')
  let value := line.drop (name.length + 1)
  if isSecretName name ∧ value ≠ [] ∧ '\n' ∉ value then name ++ '=' :: "<redacted:env-secret>".toList
  else line

def TokenPattern.sub (p : TokenPattern) (line : List Char) : List Char :=
  Subst.sub p.Matches p.replacement none 0 line

def redactOneLine (line : List Char) : List Char :=
  redactEnv (redactJwt (unanchoredPatterns.foldl (fun out p => p.sub out) line))

/-! ## What the patterns have in common -/

/-- Characters of no token. -/
def marks : List Char := ['<', '>', ':', '[', ']', '\n', '…']

/-- Every end of the text has a mark among its first twenty characters. -/
def marked : List Char → Bool
  | [] => true
  | c :: s => (c :: s.take 19).any (fun d => decide (d ∈ marks)) && marked s

namespace TokenPattern

/-- The part of the replacement that is a part of the match. -/
def kept (p : TokenPattern) : List Char := p.replacement.takeWhile (· != '<')

structure Regular (p : TokenPattern) : Prop where
  head_word : ∀ head ∈ p.heads, head.head?.any word = true
  head_long : ∀ head ∈ p.heads, 20 ≤ head.length + p.least
  least_pos : 0 < p.least
  marks : ∀ c ∈ marks, p.tail c = false ∧ ∀ head ∈ p.heads, c ∉ head
  kept : (p.kept = [] ∨ p.heads = [p.kept]) ∧ p.kept.getLast?.any word = false
  marked : marked p.replacement = true
  opened : (p.replacement.dropWhile (· != '<')).head? = some '<'
  most : p.bounded = false → p.most = none
  tail_word : p.bounded = true → ∀ c, p.tail c = true → word c = true
  word_tail : p.bounded = false → ∀ c, word c = true → p.tail c = true

end TokenPattern

theorem regular_of_mem {p : TokenPattern} (hp : p ∈ unanchoredPatterns) : p.Regular := by
  simp only [unanchoredPatterns, mem_cons, not_mem_nil, or_false] at hp
  rcases hp with rfl | rfl | rfl | rfl <;>
    refine ⟨by decide, by decide, by decide, by decide, by decide, by decide, by decide, by decide,
      fun hb c hc => ?_, fun hb c hc => ?_⟩
  · simp_all [openaiKey, word]
  · cases hb
  · simp_all [githubToken, word]
  · cases hb
  · simp only [awsAccessKey, Bool.or_eq_true] at hc
    unfold word Char.isAlphanum Char.isAlpha
    rcases hc with hc | hc <;> simp [hc]
  · cases hb
  · cases hb
  · simp [bearer, hc]

namespace TokenPattern

variable {p q : TokenPattern} {prev prev' next : Option Char} {c : Char}
  {text body rest out run v x y : List Char}

theorem isRun_iff : p.isRun run = true ↔
    (∀ c ∈ run, p.tail c = true) ∧ p.least ≤ run.length ∧ ∀ n ∈ p.most, run.length ≤ n := by
  simp only [isRun, Bool.and_eq_true, all_eq_true, decide_eq_true_eq, and_assoc]
  cases p.most <;> simp

namespace Matches

section

variable (h : p.Matches prev body next)
include h

theorem split :
    ∃ head ∈ p.heads, ∃ run, body = head ++ run ∧ (∀ c ∈ run, p.tail c = true) ∧
      p.least ≤ run.length := by
  obtain ⟨head, hhead, ⟨run, rfl⟩, hrun⟩ := h.token
  rw [drop_left, isRun_iff] at hrun
  exact ⟨head, hhead, run, rfl, hrun.1, hrun.2.1⟩

theorem first_word (hp : p.Regular) : body.head?.any word = true := by
  obtain ⟨head, hhead, run, rfl, -⟩ := h.split
  have hword := hp.head_word head hhead
  cases head with
  | nil => cases hword
  | cons c head => exact hword

theorem no_mark (hp : p.Regular) (hc : c ∈ body) : c ∉ Logs.marks := by
  intro hmark
  obtain ⟨head, hhead, run, rfl, hrun, -⟩ := h.split
  obtain ⟨htail, hnot⟩ := hp.marks c hmark
  rcases mem_append.mp hc with hc | hc
  · exact hnot head hhead hc
  · rw [hrun c hc] at htail
    cases htail

theorem twenty_le (hp : p.Regular) : 20 ≤ body.length := by
  obtain ⟨head, hhead, run, rfl, -, hleast⟩ := h.split
  have hlong := hp.head_long head hhead
  rw [length_append]
  omega

theorem last_word (hp : p.Regular) (hb : p.bounded = true) : body.getLast?.any word = true := by
  obtain ⟨head, hhead, run, rfl, hrun, hleast⟩ := h.split
  have hne : run ≠ [] := ne_nil_of_length_pos (Nat.lt_of_lt_of_le hp.least_pos hleast)
  rw [List.getLast?_append_of_ne_nil _ hne, List.getLast?_eq_some_getLast hne]
  exact hp.tail_word hb _ (hrun _ (getLast_mem hne))

end

/-- A match that is not bounded goes on as long as it can. -/
theorem next_not_word (h : p.Matches prev body rest.head?) (hp : p.Regular)
    (hmax : ∀ a b, rest = a ++ b → a ≠ [] → ¬p.Matches prev (body ++ a) b.head?) :
    rest.head?.any word = false := by
  cases hb : p.bounded with
  | true => exact h.stop hb
  | false =>
    cases rest with
    | nil => rfl
    | cons c rest =>
      by_contra hword
      rw [List.head?_cons, Option.any_some, Bool.not_eq_false] at hword
      obtain ⟨head, hhead, ⟨run, rfl⟩, hrun⟩ := h.token
      rw [drop_left, isRun_iff] at hrun
      refine hmax [c] rest rfl nofun ⟨h.start, ⟨head, hhead, ?_, ?_⟩, fun hbounded => ?_⟩
      · rw [append_assoc]
        exact prefix_append _ _
      · rw [append_assoc, drop_left, isRun_iff, hp.most hb]
        refine ⟨fun d hd => ?_, ?_, nofun⟩
        · rcases mem_append.mp hd with hd | hd
          · exact hrun.1 d hd
          · rw [mem_singleton.mp hd]
            exact hp.word_tail hb c hword
        · rw [length_append]
          exact Nat.le_add_right_of_le hrun.2.1
      · rw [hb] at hbounded
        cases hbounded

end Matches

/-! ## Texts without a match -/

theorem not_contains_of_free (hp : p.Regular) (h : Free p.Matches none text) : ¬p.Contains text := by
  rintro ⟨pre, body, post, rfl, hmatch⟩
  have hrest := h.drop
  rw [Option.or_none] at hrest
  have hfirst := hmatch.first_word hp
  cases body with
  | nil => cases hfirst
  | cons c body => exact hrest.1 (c :: body) post rfl nofun hmatch

theorem noMatch_of_not_word (hp : p.Regular) (h : text.head?.any word = false) :
    NoMatch p.Matches prev text := by
  rintro body post rfl hne hmatch
  have hfirst := hmatch.first_word hp
  rw [List.head?_append_of_ne_nil _ hne, hfirst] at h
  cases h

/-- A match ends before the first mark.  If `y` follows instead of a mark, and the end of `v` is not in
the middle of a word, the match is there as well. -/
theorem noMatch_of_agree (hp : p.Regular) (h : NoMatch p.Matches prev (v ++ y))
    (hx : ∀ c ∈ x.head?, c ∈ Logs.marks)
    (hword : v.getLast?.any word = true → y.head?.any word = false) :
    NoMatch p.Matches prev (v ++ x) := by
  intro body post htext hne hmatch
  obtain ⟨a, rfl, rfl⟩ : ∃ a, v = body ++ a ∧ post = a ++ x := by
    rcases append_eq_append_iff.mp htext with ⟨a, hbody, hxa⟩ | ⟨a, hv, hpost⟩
    · cases a with
      | nil => exact ⟨[], by rw [hbody]; simp, by rw [hxa]; rfl⟩
      | cons c a =>
        have hc : c ∈ body := by rw [hbody]; simp
        exact absurd (hx c (by rw [hxa]; rfl)) (hmatch.no_mark hp hc)
    · exact ⟨a, hv, hpost⟩
  refine h body (a ++ y) (append_assoc ..) hne ⟨hmatch.start, hmatch.token, fun hb => ?_⟩
  cases a with
  | nil =>
    rw [append_nil] at hword
    exact hword (hmatch.last_word hp hb)
  | cons c a => exact hmatch.stop hb

theorem free_of_agree (hp : p.Regular) (h : Free p.Matches prev (v ++ y))
    (hx : ∀ c ∈ x.head?, c ∈ Logs.marks)
    (hword : v.getLast?.any word = true → y.head?.any word = false)
    (hfree : Free p.Matches (v.getLast?.or prev) x) : Free p.Matches prev (v ++ x) := by
  induction v generalizing prev with
  | nil => exact hfree
  | cons c v ih =>
    rw [getLast?_cons_or] at hfree
    refine ⟨noMatch_of_agree (v := c :: v) hp h.1 hx hword, ih h.2 (fun hlast => hword ?_) hfree⟩
    cases v with
    | nil => cases hlast
    | cons d v => exact hlast

theorem free_marked (hp : p.Regular) {m : List Char} (hm : marked m = true)
    (hfree : Free p.Matches (m.getLast?.or prev) out) : Free p.Matches prev (m ++ out) := by
  induction m generalizing prev with
  | nil => exact hfree
  | cons c m ih =>
    rw [getLast?_cons_or] at hfree
    obtain ⟨hmark, hm⟩ := Bool.and_eq_true_iff.mp hm
    refine ⟨fun body post htext _ hmatch => ?_, ih hm hfree⟩
    -- a match would have one of the marks
    obtain ⟨d, hd, hmark⟩ := any_eq_true.mp hmark
    refine hmatch.no_mark hp ?_ (of_decide_eq_true hmark)
    have htext : (c :: m) ++ out = body ++ post := htext
    refine mem_of_mem_take (i := 20) ?_
    have htake : (body ++ post).take 20 = body.take 20 := take_append_of_le_length (hmatch.twenty_le hp)
    rw [← htake, ← htext, take_append]
    exact mem_append_left _ hd

/-! ## Replacing keeps a text without a match -/

theorem agree_of_rewrites (hq : q.Regular) (h : Rewrites q.Matches q.replacement prev text out) :
    ∃ v x y, out = v ++ x ∧ text = v ++ y ∧ (∀ c ∈ x.head?, c ∈ Logs.marks) ∧
      ((v.getLast?.or prev).any word = true → y.head?.any word = false) := by
  induction h with
  | nil prev => exact ⟨[], [], [], rfl, rfl, nofun, fun _ => rfl⟩
  | @miss prev c rest out _ _ ih =>
    obtain ⟨v, x, y, rfl, rfl, hx, hword⟩ := ih
    refine ⟨c :: v, x, y, rfl, rfl, hx, ?_⟩
    rwa [getLast?_cons_or]
  | @hit prev body rest out _ hmatch _ _ ih =>
    obtain ⟨y, hy⟩ : ∃ y, body ++ rest = q.kept ++ y := by
      rcases hq.kept.1 with hnil | hheads
      · exact ⟨_, by rw [hnil]; rfl⟩
      · obtain ⟨head, hhead, run, hbody, -⟩ := hmatch.split
        rw [hheads, mem_singleton] at hhead
        exact ⟨run ++ rest, by rw [hbody, hhead, append_assoc]⟩
    refine ⟨q.kept, q.replacement.dropWhile (· != '<') ++ out, y, ?_, hy, ?_, fun hprev => ?_⟩
    · rw [← append_assoc, kept, takeWhile_append_dropWhile]
    · intro c hc
      rw [List.head?_append, hq.opened] at hc
      cases hc
      decide
    · have hlast := hq.kept.2
      cases hkept : q.kept.getLast? with
      | none =>
        rw [hkept, Option.none_or, hmatch.start] at hprev
        cases hprev
      | some c =>
        rw [hkept] at hlast hprev
        rw [Option.some_or, hlast] at hprev
        cases hprev

theorem free_of_rewrites (hp : p.Regular) (hq : q.Regular)
    (h : Rewrites q.Matches q.replacement prev text out) (hfree : p = q ∨ Free p.Matches prev text)
    (hprev : prev' = prev ∨ text.head?.any word = false) : Free p.Matches prev' out := by
  induction h generalizing prev' with
  | nil prev => trivial
  | @miss prev c rest out hmiss hrest ih =>
    have hnone : NoMatch p.Matches prev (c :: rest) := by
      rcases hfree with rfl | hfree
      · exact hmiss
      · exact hfree.1
    refine ⟨?_, ih (hfree.imp_right fun hfree => hfree.2) (.inl rfl)⟩
    obtain ⟨v, x, y, rfl, rfl, hx, hword⟩ := agree_of_rewrites hq hrest
    rcases hprev with rfl | hfirst
    · rw [← getLast?_cons_or c v none, Option.or_none] at hword
      exact noMatch_of_agree (v := c :: v) hp hnone hx hword
    · exact noMatch_of_not_word hp hfirst
  | @hit prev body rest out _ hmatch hmax _ ih =>
    exact free_marked hp hq.marked
      (ih (hfree.imp_right Free.drop) (.inr (hmatch.next_not_word hq hmax)))

end TokenPattern

open TokenPattern

variable {p : TokenPattern} {line name : List Char}

/-! ## The line -/

/-- Each substitution takes its own matches away and makes none of the patterns before it. -/
theorem free_foldl_sub {done todo : List TokenPattern} (hall : ∀ p ∈ done ++ todo, p.Regular)
    (hdone : ∀ p ∈ done, Free p.Matches none line) :
    ∀ p ∈ done ++ todo, Free p.Matches none (todo.foldl (fun out p => p.sub out) line) := by
  induction todo generalizing done line with
  | nil => simpa using hdone
  | cons q todo ih =>
    rw [append_cons] at hall ⊢
    refine ih hall fun p hp => ?_
    have hq : q.Regular := hall q (by simp)
    refine free_of_rewrites (hall p (mem_append_left _ hp)) hq (rewrites_sub none line) ?_ (.inl rfl)
    rcases mem_append.mp hp with hp | hp
    · exact .inr (hdone p hp)
    · exact .inl (mem_singleton.mp hp)

theorem foldl_sub_of_free (h : ∀ p ∈ unanchoredPatterns, Free p.Matches none line) :
    unanchoredPatterns.foldl (fun out p => p.sub out) line = line := by
  refine List.foldlRecOn (motive := (· = line)) _ _ rfl fun out hout p hp => ?_
  rw [hout]
  exact sub_of_free (h p hp)

theorem redactEnv_cases (line : List Char) :
    redactEnv line = line ∨ ∃ name value, line = name ++ '=' :: value ∧ isSecretName name = true ∧
      '=' ∉ name ∧ redactEnv line = name ++ '=' :: "<redacted:env-secret>".toList := by
  by_cases h : isSecretName (line.takeWhile (· != '=')) = true ∧
      line.drop ((line.takeWhile (· != '=')).length + 1) ≠ [] ∧
      '\n' ∉ line.drop ((line.takeWhile (· != '=')).length + 1)
  · right
    have hline := takeWhile_append_dropWhile (p := (· != '=')) (l := line)
    have hfirst := List.head?_dropWhile_not (· != '=') line
    refine ⟨line.takeWhile (· != '='), (line.dropWhile (· != '=')).tail, ?_, h.1, fun hmem => ?_,
      if_pos h⟩
    · cases hrest : line.dropWhile (· != '=') with
      | nil =>
        rw [hrest, append_nil] at hline
        rw [hline] at h
        simp at h
      | cons c rest =>
        rw [hrest] at hfirst hline
        have hc : c = '=' := by simpa using hfirst
        rw [hc] at hline
        exact hline.symm
    · have hne := mem_takeWhile_imp hmem
      cases hne
  · exact .inl (if_neg h)

theorem redactEnv_secret (hname : isSecretName name = true) (hnot : '=' ∉ name) :
    redactEnv (name ++ '=' :: "<redacted:env-secret>".toList)
      = name ++ '=' :: "<redacted:env-secret>".toList := by
  have htake : (name ++ '=' :: "<redacted:env-secret>".toList).takeWhile (· != '=') = name := by
    rw [takeWhile_append_of_pos fun c hc => by simpa using fun heq : c = '=' => hnot (heq ▸ hc)]
    exact append_nil _
  have hdrop : (name ++ '=' :: "<redacted:env-secret>".toList).drop (name.length + 1)
      = "<redacted:env-secret>".toList := by
    rw [← drop_drop, drop_left]
    rfl
  simp only [redactEnv, htake, hdrop]
  exact if_pos ⟨hname, by decide, by decide⟩

theorem free_redactEnv (hp : p.Regular) (h : Free p.Matches none line) :
    Free p.Matches none (redactEnv line) := by
  rcases redactEnv_cases line with hsame | ⟨name, value, rfl, -, -, heq⟩
  · rwa [hsame]
  · rw [heq, append_cons]
    rw [append_cons] at h
    refine free_of_agree hp h (fun c hc => ?_) (fun hlast => ?_) ?_
    · cases hc
      decide
    · rw [List.getLast?_concat] at hlast
      cases hlast
    · rw [← append_nil "<redacted:env-secret>".toList]
      exact free_marked hp (by decide) trivial

theorem redactJwt_of_mark (h : '<' ∈ line) : redactJwt line = line := by
  refine if_neg fun hjwt => ?_
  have hall := (Bool.and_eq_true_iff.mp hjwt.1).1
  have hmark := all_eq_true.mp hall '<' h
  cases hmark

/-- What is redacted has no match, and neither of the two rewrites of a whole line applies to it. -/
theorem redactOneLine_settled (line : List Char) :
    (∀ p ∈ unanchoredPatterns, Free p.Matches none (redactOneLine line)) ∧
      redactJwt (redactOneLine line) = redactOneLine line ∧
      redactEnv (redactOneLine line) = redactOneLine line := by
  have hfold : ∀ p ∈ unanchoredPatterns,
      Free p.Matches none (unanchoredPatterns.foldl (fun out p => p.sub out) line) :=
    free_foldl_sub (fun _ => regular_of_mem) (forall_mem_nil _)
  unfold redactOneLine
  generalize unanchoredPatterns.foldl (fun out p => p.sub out) line = z at hfold ⊢
  by_cases hjwt : isJwt z ∧ 32 ≤ z.length
  · rw [redactJwt, if_pos hjwt]
    refine ⟨fun p hp => ?_, redactJwt_of_mark (by decide), rfl⟩
    rw [← append_nil "<redacted:jwt>".toList]
    exact free_marked (regular_of_mem hp) (by decide) trivial
  · have hz : redactJwt z = z := if_neg hjwt
    rw [hz]
    refine ⟨fun p hp => free_redactEnv (regular_of_mem hp) (hfold p hp), ?_⟩
    rcases redactEnv_cases z with hsame | ⟨name, value, -, hname, hnot, heq⟩
    · rw [hsame]
      exact ⟨hz, hsame⟩
    · rw [heq]
      exact ⟨redactJwt_of_mark (by simp), redactEnv_secret hname hnot⟩

/-- For every line: redacting it again changes nothing, and no pattern matches any part of the result. -/
theorem redactOneLine_clean (line : List Char) :
    redactOneLine (redactOneLine line) = redactOneLine line ∧
      ∀ p ∈ unanchoredPatterns, ¬p.Contains (redactOneLine line) := by
  obtain ⟨hfree, hjwt, henv⟩ := redactOneLine_settled line
  refine ⟨?_, fun p hp => not_contains_of_free (regular_of_mem hp) (hfree p hp)⟩
  conv_lhs => rw [redactOneLine, foldl_sub_of_free hfree, hjwt, henv]

end AgentTower.Logs
