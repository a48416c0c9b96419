import WanRouter.Local.SyslogReceiver

/-!
# The fields of a well-formed syslog line

The parts of a line carry what makes them well formed.  The pattern finds them by
going through the line once: the greedy parts stop at the separators, and the lazy
tag stops at the first colon after it.
-/

namespace WanRouter

open Backtracking Pattern Strptime

/-- A word, a day and a time of day. -/
structure SyslogTimestamp (u : UnicodeData) where
  word : List Char
  blanks : List Char
  day : List Char
  blanks' : List Char
  hour : List Char
  minute : List Char
  second : List Char
  block_word : Block u.isWord word
  block_blanks : Block u.isSpace blanks
  block_day : Block u.isDigit day
  block_blanks' : Block u.isSpace blanks'
  block_hour : Block u.isDigit hour
  block_minute : Block u.isDigit minute
  block_second : Block u.isDigit second

structure SyslogLine (u : UnicodeData) where
  priority : List Char
  timestamp : SyslogTimestamp u
  hostname : List Char
  tag : List Char
  message : List Char
  block_priority : Block u.isDigit priority
  priority_limit : priority.length ≤ UnicodeData.maxStrDigits
  block_hostname : Block (fun c ↦ !u.isSpace c) hostname
  block_tag : Block dot tag
  tag_colon : ':' ∉ tag
  tag_head : Stops u.isSpace tag
  message_dot : ∀ c ∈ message, dot c = true
  message_head : Stops u.isSpace message
  message_last : ∀ c ∈ message.getLast?, u.isSpace c = false

variable {u : UnicodeData}

def SyslogTimestamp.text (t : SyslogTimestamp u) : List Char :=
  t.word ++ (t.blanks ++ (t.day ++ (t.blanks' ++ (t.hour ++ ([':'] ++ (t.minute ++
    ([':'] ++ t.second)))))))

namespace SyslogLine

/-- The line up to the colon after the tag, with a text behind it. -/
def textBefore (line : SyslogLine u) (rest : List Char) : List Char :=
  ['<'] ++ (line.priority ++ (['>'] ++ (line.timestamp.text ++ ([' '] ++ (line.hostname ++
    ([' '] ++ (line.tag ++ ([':'] ++ rest))))))))

/-- `<PRI>timestamp host tag: message`. -/
def text (line : SyslogLine u) : List Char := line.textBefore ([' '] ++ line.message)

def event (line : SyslogLine u) (now later : ℤ) (raw : String) : SyslogEvent :=
  let category := categorizeMessage u (String.ofList line.message)
  { timestamp := parseTimestamp u now later line.timestamp.text
    facility := String.ofList line.tag
    severity := severityNames.getD (u.digitsValue line.priority % 8) "unknown"
    hostname := String.ofList line.hostname
    message := String.ofList line.message
    category := category.1
    raw := raw
    metadata := category.2 }

theorem event_timestamp (line : SyslogLine u) (now later : ℤ) (raw : String) :
    (line.event now later raw).timestamp = parseTimestamp u now later line.timestamp.text := by
  rw [event]

end SyslogLine

/-! ## The match -/

theorem first_timestamp (t : SyslogTimestamp u) {rest : List Char} (hrest : Stops u.isDigit rest) :
    (timestampPattern u).first (t.text ++ rest) = some ⟨t.text, [], rest⟩ := by
  have hdigit {x : List Char} (hx : Block u.isDigit x) (y : List Char) :
      Stops u.isSpace (x ++ y) := hx.stops (fun _ ↦ u.isSpace_of_isDigit) y
  have hnone : (concat []).first rest = some ⟨[], [], rest⟩ := rfl
  have htime := first_concat_cons (first_oneOrMore t.block_hour (stops_isDigit_colon u _))
    (first_concat_cons (first_literal [':'] _)
      (first_concat_cons (first_oneOrMore t.block_minute (stops_isDigit_colon u _))
        (first_concat_cons (first_literal [':'] _)
          (first_concat_cons (first_oneOrMore t.block_second hrest) hnone))))
  have hday := first_concat_cons
    (first_oneOrMore t.block_day (t.block_blanks'.stops (fun _ ↦ u.isDigit_of_isSpace) _))
    (first_concat_cons (first_oneOrMore t.block_blanks' (hdigit t.block_hour _)) htime)
  have hword := first_concat_cons
    (first_oneOrMore t.block_word (t.block_blanks.stops (fun c hc ↦ ?_) _))
    (first_concat_cons (first_oneOrMore t.block_blanks (hdigit t.block_day _)) hday)
  · simpa [timestampPattern, SyslogTimestamp.text, Success.append] using hword
  · cases hw : u.isWord c with
    | false => rfl
    | true =>
        rw [u.isSpace_of_isWord c hw] at hc
        exact hc.symm

/-- The pattern takes a line apart at its separators. -/
theorem first_syslogPattern (line : SyslogLine u) {blanks : List Char}
    (hblanks : ∀ c ∈ blanks, u.isSpace c = true) :
    ∃ whole, (syslogPattern u).first (line.textBefore (blanks ++ line.message)) =
      some ⟨whole, [line.priority, line.timestamp.text, line.hostname, line.tag, line.message],
        []⟩ := by
  have hnone : (concat []).first [] = some (⟨[], [], []⟩ : Success Char) := rfl
  have hend : Stops dot [] := by
    rintro c ⟨⟩
  have hall : (zeroOrMore dot).first (line.message ++ []) = some ⟨line.message, [], []⟩ :=
    first_zeroOrMore line.message_dot hend
  rw [List.append_nil] at hall
  have hskip : (zeroOrMore u.isSpace).first (blanks ++ line.message) =
      some ⟨blanks, [], line.message⟩ := first_zeroOrMore hblanks line.message_head
  have hmessage := first_concat_cons (first_literal [':'] _)
    (first_concat_cons hskip (first_concat_cons (first_group hall) hnone))
  -- a shorter tag would have to be followed by a colon
  have hshortest (w z : List Char) (_ : w ≠ []) (hz : z ≠ []) (htag : line.tag = w ++ z) :
      (concat [literal [':'], zeroOrMore u.isSpace, group (zeroOrMore dot)]).successes
        (z ++ ([':'] ++ (blanks ++ line.message))) = [] := by
    obtain ⟨c, z, rfl⟩ := List.exists_cons_of_ne_nil hz
    have hc : c ≠ ':' := by
      rintro rfl
      exact line.tag_colon (by simp [htag])
    have hnot : ¬[':'] <+: c :: (z ++ ([':'] ++ (blanks ++ line.message))) := by
      rw [List.cons_prefix_cons]
      exact fun h ↦ hc h.1.symm
    exact successes_seq_eq_nil_of_left (successes_literal_eq_nil hnot)
  have htag := first_group_lazy line.block_tag hshortest hmessage
  change (concat [group (oneOrMoreLazy dot), literal [':'], zeroOrMore u.isSpace,
    group (zeroOrMore dot)]).first _ = _ at htag
  have hhost := first_concat_cons
    (first_group (first_oneOrMore line.block_hostname
      ((block_blank u).stops (fun c hc ↦ by rw [hc, Bool.not_true]) _)))
    (first_concat_cons
      (first_oneOrMore (block_blank u) (line.tag_head.append line.block_tag.ne_nil _)) htag)
  have hstamp := first_concat_cons
    (first_group (first_timestamp line.timestamp
      ((block_blank u).stops (fun _ ↦ u.isDigit_of_isSpace) _)))
    (first_concat_cons
      (first_oneOrMore (block_blank u) (line.block_hostname.stops (fun c hc ↦ by simpa using hc) _))
      hhost)
  have hclose (rest : List Char) : Stops u.isDigit (['>'] ++ rest) :=
    stops_isDigit_cons u (by decide) rest
  have hline := first_concat_cons (first_literal ['<'] _)
    (first_concat_cons (first_group (first_oneOrMore line.block_priority (hclose _)))
      (first_concat_cons (first_literal ['>'] _) hstamp))
  exact ⟨_, hline⟩

/-! ## The event -/

theorem SyslogLine.parse_textBefore (line : SyslogLine u) (now later : ℤ) {raw : String}
    {blanks : List Char} (hblanks : ∀ c ∈ blanks, u.isSpace c = true)
    (hraw : u.strip raw.toList = line.textBefore (blanks ++ line.message)) :
    parseSyslogMessage u now later raw = .ok (some (line.event now later raw)) := by
  obtain ⟨whole, hfirst⟩ := first_syslogPattern line hblanks
  have hpri : u.int line.priority = .ok (u.digitsValue line.priority) :=
    if_neg (Nat.not_lt.mpr line.priority_limit)
  rw [parseSyslogMessage, hraw, hfirst]
  simp only [hpri]
  rfl

theorem SyslogLine.textBefore_eq (line : SyslogLine u) (rest : List Char) :
    line.textBefore rest = line.textBefore [] ++ rest := by
  simp only [textBefore, List.append_assoc, List.append_nil]

theorem SyslogLine.getLast?_textBefore (line : SyslogLine u) :
    (line.textBefore []).getLast? = some ':' := by
  simp [textBefore, List.getLast?_append, List.getLast?_cons]

/-- A line with whitespace around it is parsed to the event of its fields. -/
theorem SyslogLine.parse_text (line : SyslogLine u) (now later : ℤ) {raw : String}
    {lead trail : List Char} (hlead : ∀ c ∈ lead, u.isSpace c = true)
    (htrail : ∀ c ∈ trail, u.isSpace c = true)
    (hraw : raw.toList = lead ++ (line.text ++ trail)) :
    parseSyslogMessage u now later raw = .ok (some (line.event now later raw)) := by
  have hhead (rest : List Char) : ∀ c ∈ (line.textBefore rest).head?, u.isSpace c = false := by
    rintro c ⟨⟩
    exact u.isSpace_ascii '<' (by decide)
  have hne (rest : List Char) : line.textBefore rest ≠ [] := List.cons_ne_nil _ _
  by_cases hempty : line.message = []
  · -- without a message the blank after the colon is stripped too
    have hsplit : raw.toList = lead ++ (line.textBefore [] ++ ([' '] ++ trail)) := by
      rw [hraw, text, hempty, List.append_nil, textBefore_eq, List.append_assoc]
    have hblank : ∀ c ∈ [' '] ++ trail, u.isSpace c = true := by
      simpa [isSpace_blank u] using htrail
    have hlast : ∀ c ∈ (line.textBefore []).getLast?, u.isSpace c = false := by
      rw [getLast?_textBefore]
      rintro c ⟨⟩
      exact u.isSpace_ascii ':' (by decide)
    have hstrip := u.strip_of_ends hlead hblank (hne []) (hhead []) hlast
    have hbody : u.strip raw.toList = line.textBefore ([] ++ line.message) := by
      rw [hsplit, hstrip, hempty, List.append_nil]
    exact line.parse_textBefore now later (by simp) hbody
  · have hlast : ∀ c ∈ line.text.getLast?, u.isSpace c = false := by
      rw [text, textBefore_eq, ← List.append_assoc, List.getLast?_append_of_ne_nil _ hempty]
      exact line.message_last
    have hstrip : u.strip (lead ++ (line.text ++ trail)) = line.text :=
      u.strip_of_ends hlead htrail (hne _) (hhead _) hlast
    rw [← hraw] at hstrip
    exact line.parse_textBefore now later (block_blank u).all hstrip

/-- The parser recovers the fields of every well-formed line. -/
theorem parse_recovers_fields (line : SyslogLine u) (now later : ℤ) (raw : String)
    (lead trail : List Char) (hlead : ∀ c ∈ lead, u.isSpace c = true)
    (htrail : ∀ c ∈ trail, u.isSpace c = true)
    (hraw : raw.toList = lead ++ (line.text ++ trail)) :
    ∃ event, parseSyslogMessage u now later raw = .ok (some event) ∧
      event.hostname.toList = line.hostname ∧ event.facility.toList = line.tag ∧
      event.message.toList = line.message ∧
      severityNames[u.digitsValue line.priority % 8]? = some event.severity ∧
      (event.category, event.metadata) = categorizeMessage u event.message := by
  refine ⟨_, line.parse_text now later hlead htrail hraw, String.toList_ofList,
    String.toList_ofList, String.toList_ofList, ?_, rfl⟩
  have hlt : u.digitsValue line.priority % 8 < severityNames.length :=
    Nat.mod_lt _ (by decide)
  simp only [SyslogLine.event, List.getD_eq_getElem?_getD]
  rw [List.getElem?_eq_getElem hlt, Option.getD_some]

/-- A router line with a tag of two words and a message with brackets. -/
def linkBackupLine : SyslogLine .ascii where
  priority := "133".toList
  timestamp :=
    { word := "Feb".toList
      blanks := "  ".toList
      day := "6".toList
      blanks' := " ".toList
      hour := "20".toList
      minute := "21".toList
      second := "11".toList
      block_word := by decide
      block_blanks := by decide
      block_day := by decide
      block_blanks' := block_blank .ascii
      block_hour := by decide
      block_minute := by decide
      block_second := by decide }
  hostname := "ER605".toList
  tag := "Link Backup".toList
  message := "[osg] Backup [WAN/LAN2] took effect.".toList
  block_priority := by decide
  priority_limit := by decide
  block_hostname := by decide
  block_tag := by decide
  tag_colon := by decide
  tag_head := by rintro c ⟨⟩; rfl
  message_dot := List.all_eq_true.mp (by decide)
  message_head := by rintro c ⟨⟩; rfl
  message_last := by rintro c ⟨⟩; rfl

theorem linkBackupLine_fields :
    ∃ event, parseSyslogMessage .ascii 0 0
        " <133>Feb  6 20:21:11 ER605 Link Backup: [osg] Backup [WAN/LAN2] took effect.\n" =
        .ok (some event) ∧
      event.hostname.toList = "ER605".toList ∧ event.facility.toList = "Link Backup".toList ∧
      event.message.toList = "[osg] Backup [WAN/LAN2] took effect.".toList ∧
      severityNames[UnicodeData.ascii.digitsValue "133".toList % 8]? = some event.severity ∧
      (event.category, event.metadata) = categorizeMessage .ascii event.message :=
  parse_recovers_fields linkBackupLine 0 0
    " <133>Feb  6 20:21:11 ER605 Link Backup: [osg] Backup [WAN/LAN2] took effect.\n" [' '] ['\n']
    (List.all_eq_true.mp (by decide)) (List.all_eq_true.mp (by decide)) (by decide)

end WanRouter
