import WanRouter.Local.SyslogFields

/-!
# The grammar of the accepted syslog lines

What the parser accepts is exactly the texts of these lines.  The pattern does not
require a tag free of colons or blanks: its tag goes up to the first colon after
its first character, and if there is none it is the last blank before a colon.
-/

namespace WanRouter

open Backtracking Pattern

/-- The rest of the line, up to a newline. -/
def currentLine (s : List Char) : List Char := s.takeWhile dot

/-- A line as the pattern takes it apart. -/
structure ParsedLine (u : UnicodeData) where
  priority : List Char
  timestamp : SyslogTimestamp u
  gap : List Char
  hostname : List Char
  gap' : List Char
  tag : List Char
  gap'' : List Char
  message : List Char
  ignored : List Char
  block_priority : Block u.isDigit priority
  block_gap : Block u.isSpace gap
  block_hostname : Block (fun c ↦ !u.isSpace c) hostname
  block_gap' : Block u.isSpace gap'
  block_tag : Block dot tag
  tag_tail : ':' ∉ tag.tail
  -- A tag is one blank only where no other tag can be found.
  tag_head : Stops u.isSpace tag ∨ ∃ c, tag = [c] ∧ u.isSpace c = true ∧
    ':' ∉ currentLine (gap'' ++ (message ++ ignored))
  gap''_isSpace : ∀ c ∈ gap'', u.isSpace c = true
  gap''_stops : Stops u.isSpace (message ++ ignored)
  message_dot : ∀ c ∈ message, dot c = true
  message_stops : Stops dot ignored

variable {u : UnicodeData}

namespace ParsedLine

def afterTag (line : ParsedLine u) : List Char := line.gap'' ++ (line.message ++ line.ignored)

def text (line : ParsedLine u) : List Char :=
  ['<'] ++ (line.priority ++ (['>'] ++ (line.timestamp.text ++ (line.gap ++ (line.hostname ++
    (line.gap' ++ (line.tag ++ ([':'] ++ line.afterTag))))))))

def event (line : ParsedLine u) (now later : ℤ) (raw : String) : SyslogEvent :=
  let category := categorizeMessage u (String.ofList line.message)
  { timestamp := parseTimestamp u now later line.timestamp.text
    facility := String.ofList line.tag
    severity := severityNames.getD (u.digitsValue line.priority % 8) "unknown"
    hostname := String.ofList line.hostname
    message := String.ofList line.message
    category := category.1
    raw := raw
    metadata := category.2 }

end ParsedLine

/-! ## The lines are accepted -/

/-- The part of the pattern after the tag. -/
def afterTagPattern (u : UnicodeData) : Pattern Char :=
  concat [literal [':'], zeroOrMore u.isSpace, group (zeroOrMore dot)]

theorem successes_afterTag {s : List Char} (h : s.head? ≠ some ':') :
    (afterTagPattern u).successes s = [] := by
  apply successes_seq_eq_nil_of_left
  apply successes_literal_eq_nil
  rintro ⟨rest, rfl⟩
  exact h rfl

namespace ParsedLine

variable (line : ParsedLine u)

theorem first_afterTag : ∃ whole, (afterTagPattern u).first ([':'] ++ line.afterTag) =
    some ⟨whole, [line.message], line.ignored⟩ := by
  have hnone : (concat []).first line.ignored = some (⟨[], [], line.ignored⟩ : Success Char) := rfl
  have hgap : (zeroOrMore u.isSpace).first line.afterTag =
      some ⟨line.gap'', [], line.message ++ line.ignored⟩ :=
    first_zeroOrMore line.gap''_isSpace line.gap''_stops
  have hmessage := first_group (first_zeroOrMore line.message_dot line.message_stops)
  exact ⟨_, first_concat_cons (first_literal [':'] line.afterTag)
    (first_concat_cons hgap (first_concat_cons hmessage hnone))⟩

theorem first_tag : ∃ whole, (seq (group (oneOrMoreLazy dot)) (afterTagPattern u)).first
      (line.tag ++ ([':'] ++ line.afterTag)) =
    some ⟨whole, [line.tag, line.message], line.ignored⟩ := by
  obtain ⟨whole, hafter⟩ := line.first_afterTag
  refine ⟨_, first_group_lazy line.block_tag ?_ hafter⟩
  intro w z hw hz htag
  apply successes_afterTag
  obtain ⟨c, w, rfl⟩ := List.exists_cons_of_ne_nil hw
  obtain ⟨d, z, rfl⟩ := List.exists_cons_of_ne_nil hz
  have htail := line.tag_tail
  rw [htag] at htail
  rintro ⟨⟩
  exact htail (by simp)

/-- The tag is found although the blanks before it are taken first. -/
theorem first_gap' : ∃ whole,
    (seq (oneOrMore u.isSpace) (seq (group (oneOrMoreLazy dot)) (afterTagPattern u))).first
      (line.gap' ++ (line.tag ++ ([':'] ++ line.afterTag))) =
    some ⟨whole, [line.tag, line.message], line.ignored⟩ := by
  obtain ⟨whole, htag⟩ := line.first_tag
  rcases line.tag_head with hhead | ⟨c, hc, hspace, hline⟩
  · exact ⟨_, first_seq (first_oneOrMore line.block_gap'
      (hhead.append line.block_tag.ne_nil _)) htag⟩
  · have hcolon : Stops u.isSpace ([':'] ++ line.afterTag) := by
      rintro d ⟨⟩
      exact u.isSpace_ascii ':' (by decide)
    obtain ⟨later, hlater⟩ := successes_oneOrMore_concat line.block_gap' hspace hcolon
    rw [hc] at htag ⊢
    refine ⟨_, first_seq_of_skipped hlater ?_ htag⟩
    intro m hm
    obtain rfl := List.mem_singleton.mp hm
    apply successes_group_lazy_eq_nil_iff.mpr
    intro x y hxy hx
    apply successes_afterTag
    intro hy
    -- the tag would be the colon with the text up to the next colon
    obtain ⟨y, rfl⟩ := List.head?_eq_some_iff.mp hy
    obtain ⟨d, x, rfl⟩ := List.exists_cons_of_ne_nil hx.ne_nil
    have hafter : line.afterTag = x ++ ':' :: y := (List.cons.inj hxy).2
    apply hline
    change ':' ∈ currentLine line.afterTag
    rw [hafter, currentLine, List.takeWhile_append_of_pos fun e he ↦ hx.all e (by simp [he])]
    simp [dot]

/-- The pattern takes a line apart into its parts. -/
theorem first_text : ∃ whole, (syslogPattern u).first line.text = some ⟨whole,
    [line.priority, line.timestamp.text, line.hostname, line.tag, line.message],
    line.ignored⟩ := by
  obtain ⟨whole, hgap'⟩ := line.first_gap'
  have hhost := first_seq
    (first_group (first_oneOrMore line.block_hostname
      (line.block_gap'.stops (fun c hc ↦ by rw [hc, Bool.not_true]) _))) hgap'
  have hstamp := first_seq
    (first_group (first_timestamp line.timestamp
      (line.block_gap.stops (fun _ ↦ u.isDigit_of_isSpace) _)))
    (first_seq (first_oneOrMore line.block_gap
      (line.block_hostname.stops (fun c hc ↦ by simpa using hc) _)) hhost)
  have hclose (rest : List Char) : Stops u.isDigit (['>'] ++ rest) :=
    Strptime.stops_isDigit_cons u (by decide) rest
  exact ⟨_, first_seq (first_literal ['<'] _)
    (first_seq (first_group (first_oneOrMore line.block_priority (hclose _)))
      (first_seq (first_literal ['>'] _) hstamp))⟩

end ParsedLine

/-! ## Nothing else is accepted -/

theorem exists_timestamp {s rest : List Char} (h : (timestampPattern u).Consumes s rest) :
    ∃ t : SyslogTimestamp u, s = t.text ++ rest := by
  simp only [timestampPattern, consumes_cons, consumes_nil, consumes_oneOrMore,
    consumes_literal] at h
  obtain ⟨-, ⟨word, hword, hword', rfl⟩, -, ⟨blanks, hblanks, hblanks', rfl⟩,
    -, ⟨day, hday, hday', rfl⟩, -, ⟨gap, hgap, hgap', rfl⟩, -, ⟨hour, hhour, hhour', rfl⟩,
    -, rfl, -, ⟨minute, hminute, hminute', rfl⟩, -, rfl, -, ⟨second, hsecond, hsecond', rfl⟩,
    rfl⟩ := h
  exact ⟨⟨word, blanks, day, gap, hour, minute, second, ⟨hword, hword'⟩, ⟨hblanks, hblanks'⟩,
    ⟨hday, hday'⟩, ⟨hgap, hgap'⟩, ⟨hhour, hhour'⟩, ⟨hminute, hminute'⟩, ⟨hsecond, hsecond'⟩⟩,
    by simp [SyslogTimestamp.text]⟩

theorem stops_dropWhile (p : Char → Bool) (s : List Char) : Stops p (s.dropWhile p) := by
  intro c hc
  have hhead := List.head?_dropWhile_not p s
  rwa [Option.mem_def.mp hc] at hhead

/-- The text up to the first colon of the line. -/
theorem exists_colon {s : List Char} (h : ':' ∈ currentLine s) :
    ∃ x y, s = x ++ ([':'] ++ y) ∧ (∀ c ∈ x, dot c = true) ∧ ':' ∉ x := by
  obtain ⟨x, y, hline, hx⟩ := List.eq_append_cons_of_mem h
  refine ⟨x, y ++ s.dropWhile dot, ?_, ?_, hx⟩
  · have hsplit := List.takeWhile_append_dropWhile (p := dot) (l := s)
    rw [← currentLine, hline] at hsplit
    simpa using hsplit.symm
  · intro c hc
    have hmem : c ∈ currentLine s := by rw [hline]; exact List.mem_append_left _ hc
    exact List.mem_takeWhile_imp hmem

theorem colon_mem_currentLine {x : List Char} (hx : ∀ c ∈ x, dot c = true) (y : List Char) :
    ':' ∈ currentLine (x ++ ([':'] ++ y)) := by
  rw [currentLine, List.takeWhile_append_of_pos hx]
  simp [dot]

/-- The blanks before a tag and a tag can be chosen as the pattern chooses them. -/
theorem exists_tag {gap tag : List Char} (hgap : Block u.isSpace gap)
    (htag : Block dot tag) (rest : List Char) :
    ∃ gap' tag' rest', gap ++ (tag ++ ([':'] ++ rest)) = gap' ++ (tag' ++ ([':'] ++ rest')) ∧
      Block u.isSpace gap' ∧ Block dot tag' ∧ ':' ∉ tag'.tail ∧
      (Stops u.isSpace tag' ∨ ∃ c, tag' = [c] ∧ u.isSpace c = true ∧ ':' ∉ currentLine rest') := by
  let blanks := tag.takeWhile u.isSpace
  have hsplit : blanks ++ tag.dropWhile u.isSpace = tag := List.takeWhile_append_dropWhile
  have hblanks : ∀ c ∈ blanks, u.isSpace c = true := fun c hc ↦ List.mem_takeWhile_imp hc
  have hstops := stops_dropWhile u.isSpace tag
  have hgap' : Block u.isSpace (gap ++ blanks) := by
    refine ⟨by simp [hgap.ne_nil], ?_⟩
    intro c hc
    exact (List.mem_append.mp hc).elim (hgap.all c) (hblanks c)
  cases hrest : tag.dropWhile u.isSpace with
  | cons c x =>
      rw [hrest] at hsplit hstops
      have hdot : ∀ d ∈ c :: x, dot d = true := fun d hd ↦
        htag.all d (by rw [← hsplit]; exact List.mem_append_right _ hd)
      obtain ⟨x', y, hxy, hx', hcolon⟩ := exists_colon
        (colon_mem_currentLine (fun d hd ↦ hdot d (List.mem_cons_of_mem c hd)) rest)
      refine ⟨gap ++ blanks, c :: x', y, ?_, hgap', ⟨by simp, ?_⟩, hcolon, Or.inl ?_⟩
      · rw [← hsplit, List.append_assoc, List.append_assoc, List.cons_append, hxy]
        rfl
      · intro d hd
        rcases List.mem_cons.mp hd with rfl | hd
        · exact hdot d (by simp)
        · exact hx' d hd
      · intro d hd
        exact hstops d hd
  | nil =>
      rw [hrest, List.append_nil] at hsplit
      by_cases hline : ':' ∈ currentLine rest
      · -- the colon after the blanks can begin the tag
        obtain ⟨x, y, rfl, hx, hcolon⟩ := exists_colon hline
        refine ⟨gap ++ blanks, ':' :: x, y, ?_, hgap', ⟨by simp, ?_⟩, hcolon, Or.inl ?_⟩
        · rw [hsplit]
          simp
        · intro d hd
          rcases List.mem_cons.mp hd with rfl | hd
          · rfl
          · exact hx d hd
        · rintro d ⟨⟩
          exact u.isSpace_ascii ':' (by decide)
      · obtain ⟨initial, c, hlast⟩ := List.eq_nil_or_concat tag |>.resolve_left htag.ne_nil
        rw [List.concat_eq_append] at hlast
        have hc : c ∈ tag := by simp [hlast]
        refine ⟨gap ++ initial, [c], rest, ?_, ⟨by simp [hgap.ne_nil], ?_⟩, ⟨by simp, ?_⟩,
          by simp, Or.inr ⟨c, rfl, ?_, hline⟩⟩
        · rw [hlast]
          simp
        · intro d hd
          rcases List.mem_append.mp hd with hd | hd
          · exact hgap.all d hd
          · exact hblanks d (by rw [hsplit, hlast]; exact List.mem_append_left _ hd)
        · intro d hd
          obtain rfl := List.mem_singleton.mp hd
          exact htag.all d hc
        · exact hblanks c (hsplit ▸ hc)

theorem exists_message (u : UnicodeData) (s : List Char) :
    ∃ gap message ignored, s = gap ++ (message ++ ignored) ∧ (∀ c ∈ gap, u.isSpace c = true) ∧
      Stops u.isSpace (message ++ ignored) ∧ (∀ c ∈ message, dot c = true) ∧ Stops dot ignored := by
  let body := s.dropWhile u.isSpace
  have hbody : body.takeWhile dot ++ body.dropWhile dot = body := List.takeWhile_append_dropWhile
  refine ⟨s.takeWhile u.isSpace, body.takeWhile dot, body.dropWhile dot, ?_,
    fun c hc ↦ List.mem_takeWhile_imp hc, ?_, fun c hc ↦ List.mem_takeWhile_imp hc,
    stops_dropWhile _ _⟩
  · rw [hbody]
    exact List.takeWhile_append_dropWhile.symm
  · rw [hbody]
    exact stops_dropWhile _ _

theorem exists_line {s rest : List Char} (h : (syslogPattern u).Consumes s rest) :
    ∃ line : ParsedLine u, s = line.text := by
  simp only [syslogPattern, consumes_cons, consumes_nil, consumes_group, consumes_oneOrMore,
    consumes_oneOrMoreLazy, consumes_zeroOrMore, consumes_literal] at h
  obtain ⟨_, rfl, _, ⟨priority, hpriority, hpriority', rfl⟩, _, rfl, _, htimestamp,
    _, ⟨gap, hgap, hgap', rfl⟩, _, ⟨host, hhost, hhost', rfl⟩, _, ⟨blanks, hblanks, hblanks', rfl⟩,
    _, ⟨tag, htag, htag', rfl⟩, after, rfl, -⟩ := h
  obtain ⟨timestamp, rfl⟩ := exists_timestamp htimestamp
  obtain ⟨gap', tag', after', heq, hblock, hblock', htail, hhead⟩ :=
    exists_tag ⟨hblanks, hblanks'⟩ ⟨htag, htag'⟩ after
  obtain ⟨gap'', message, ignored, rfl, hspace, hstops, hdot, hstops'⟩ := exists_message u after'
  refine ⟨{
    priority := priority
    timestamp := timestamp
    gap := gap
    hostname := host
    gap' := gap'
    tag := tag'
    gap'' := gap''
    message := message
    ignored := ignored
    block_priority := ⟨hpriority, hpriority'⟩
    block_gap := ⟨hgap, hgap'⟩
    block_hostname := ⟨hhost, hhost'⟩
    block_gap' := hblock
    block_tag := hblock'
    tag_tail := htail
    tag_head := hhead
    gap''_isSpace := hspace
    gap''_stops := hstops
    message_dot := hdot
    message_stops := hstops' }, ?_⟩
  rw [heq]
  rfl

/-! ## The outcomes of the parser -/

/-- The parser accepts the text of a line, whose parts are the fields of the event; only a
priority of too many digits raises. -/
theorem parse_text_eq (line : ParsedLine u) (now later : ℤ) {raw : String}
    (hraw : u.strip raw.toList = line.text) :
    parseSyslogMessage u now later raw =
      (u.int line.priority).map fun _ ↦ some (line.event now later raw) := by
  obtain ⟨whole, hfirst⟩ := line.first_text
  rw [parseSyslogMessage, hraw, hfirst]
  by_cases hlimit : UnicodeData.maxStrDigits < line.priority.length
  · simp [UnicodeData.int, hlimit, Except.map]
  · simp [UnicodeData.int, hlimit, Except.map, ParsedLine.event]

theorem parse_eq_none (now later : ℤ) {raw : String}
    (hraw : ∀ line : ParsedLine u, u.strip raw.toList ≠ line.text) :
    parseSyslogMessage u now later raw = .ok none := by
  have hnone : (syslogPattern u).first (u.strip raw.toList) = none := by
    rw [first_eq_none_iff, List.eq_nil_iff_forall_not_mem]
    intro m hm
    obtain ⟨line, hline⟩ := exists_line ⟨m, hm, rfl⟩
    exact hraw line hline
  rw [parseSyslogMessage, hnone]

/-- A text can be taken apart in one way only. -/
theorem parts_of_text_eq {line line' : ParsedLine u} (h : line.text = line'.text) :
    line.priority = line'.priority ∧ ∀ now later raw,
      line.event now later raw = line'.event now later raw := by
  obtain ⟨_, hfirst⟩ := line.first_text
  obtain ⟨_, hfirst'⟩ := line'.first_text
  rw [h, hfirst'] at hfirst
  simp only [Option.some.injEq, Success.mk.injEq, List.cons.injEq] at hfirst
  obtain ⟨-, ⟨hpriority, htimestamp, hhost, htag, hmessage, -⟩, -⟩ := hfirst
  refine ⟨hpriority.symm, fun now later raw ↦ ?_⟩
  simp only [ParsedLine.event, hpriority, htimestamp, hhost, htag, hmessage]

/-- What the parser answers with an event, and when it raises. -/
theorem parse_cases (u : UnicodeData) (now later : ℤ) (raw : String) :
    (∃ line : ParsedLine u, u.strip raw.toList = line.text ∧
      (line.priority.length ≤ UnicodeData.maxStrDigits ∧
          parseSyslogMessage u now later raw = .ok (some (line.event now later raw)) ∨
        UnicodeData.maxStrDigits < line.priority.length ∧
          parseSyslogMessage u now later raw =
            .error (UnicodeData.intLimitError line.priority.length))) ∨
      (∀ line : ParsedLine u, u.strip raw.toList ≠ line.text) ∧
        parseSyslogMessage u now later raw = .ok none := by
  by_cases hline : ∃ line : ParsedLine u, u.strip raw.toList = line.text
  · obtain ⟨line, hraw⟩ := hline
    refine Or.inl ⟨line, hraw, ?_⟩
    rw [parse_text_eq line now later hraw, UnicodeData.int]
    by_cases hlimit : UnicodeData.maxStrDigits < line.priority.length
    · rw [if_pos hlimit]
      exact Or.inr ⟨hlimit, rfl⟩
    · rw [if_neg hlimit]
      exact Or.inl ⟨Nat.not_lt.mp hlimit, rfl⟩
  · have hnone : ∀ line : ParsedLine u, u.strip raw.toList ≠ line.text :=
      fun line hraw ↦ hline ⟨line, hraw⟩
    exact Or.inr ⟨hnone, parse_eq_none now later hnone⟩

theorem parse_eq_some_iff (u : UnicodeData) (now later : ℤ) (raw : String)
    (event : SyslogEvent) :
    parseSyslogMessage u now later raw = .ok (some event) ↔
      ∃ line : ParsedLine u, u.strip raw.toList = line.text ∧
        line.priority.length ≤ UnicodeData.maxStrDigits ∧ event = line.event now later raw := by
  rcases parse_cases u now later raw with ⟨line, hraw, ⟨hle, hparse⟩ | ⟨hlt, hparse⟩⟩ |
    ⟨hnone, hparse⟩ <;> rw [hparse]
  · constructor
    · rintro ⟨⟩
      exact ⟨line, hraw, hle, rfl⟩
    · rintro ⟨line', hraw', -, rfl⟩
      rw [(parts_of_text_eq (hraw.symm.trans hraw')).2]
  · refine iff_of_false (by simp) ?_
    rintro ⟨line', hraw', hle, -⟩
    rw [← (parts_of_text_eq (hraw.symm.trans hraw')).1] at hle
    omega
  · refine iff_of_false (by simp) ?_
    rintro ⟨line, hraw, -⟩
    exact hnone line hraw

theorem parse_eq_none_iff (u : UnicodeData) (now later : ℤ) (raw : String) :
    parseSyslogMessage u now later raw = .ok none ↔
      ∀ line : ParsedLine u, u.strip raw.toList ≠ line.text := by
  rcases parse_cases u now later raw with ⟨line, hraw, ⟨-, hparse⟩ | ⟨-, hparse⟩⟩ |
    ⟨hnone, hparse⟩ <;> rw [hparse]
  · exact iff_of_false (by simp) fun h ↦ h line hraw
  · exact iff_of_false (by simp) fun h ↦ h line hraw
  · exact iff_of_true rfl hnone

theorem parse_eq_error_iff (u : UnicodeData) (now later : ℤ) (raw error : String) :
    parseSyslogMessage u now later raw = .error error ↔
      ∃ line : ParsedLine u, u.strip raw.toList = line.text ∧
        UnicodeData.maxStrDigits < line.priority.length ∧
        error = UnicodeData.intLimitError line.priority.length := by
  rcases parse_cases u now later raw with ⟨line, hraw, ⟨hle, hparse⟩ | ⟨hlt, hparse⟩⟩ |
    ⟨hnone, hparse⟩ <;> rw [hparse]
  · refine iff_of_false (by simp) ?_
    rintro ⟨line', hraw', hlt, -⟩
    rw [← (parts_of_text_eq (hraw.symm.trans hraw')).1] at hlt
    omega
  · constructor
    · rintro ⟨⟩
      exact ⟨line, hraw, hlt, rfl⟩
    · rintro ⟨line', hraw', -, rfl⟩
      rw [(parts_of_text_eq (hraw.symm.trans hraw')).1]
  · refine iff_of_false (by simp) ?_
    rintro ⟨line, hraw, -⟩
    exact hnone line hraw

/-- The parser accepts exactly the texts of the lines and returns their parts, and it raises
exactly for the lines whose priority has too many digits. -/
theorem parse_exact (u : UnicodeData) (now later : ℤ) (raw : String) :
    (∀ event, parseSyslogMessage u now later raw = .ok (some event) ↔
      ∃ line : ParsedLine u, u.strip raw.toList = line.text ∧
        line.priority.length ≤ UnicodeData.maxStrDigits ∧ event = line.event now later raw) ∧
    (parseSyslogMessage u now later raw = .ok none ↔
      ∀ line : ParsedLine u, u.strip raw.toList ≠ line.text) ∧
    ∀ error, parseSyslogMessage u now later raw = .error error ↔
      ∃ line : ParsedLine u, u.strip raw.toList = line.text ∧
        UnicodeData.maxStrDigits < line.priority.length ∧
        error = UnicodeData.intLimitError line.priority.length :=
  ⟨parse_eq_some_iff u now later raw, parse_eq_none_iff u now later raw,
    parse_eq_error_iff u now later raw⟩

/-- Without another colon a blank is taken for the tag. -/
example : (parseSyslogMessage .ascii 0 0 "<13>Feb  6 20:21:11 ER605  : up").toOption.join.map
    SyslogEvent.facility = some " " := by decide

end WanRouter
