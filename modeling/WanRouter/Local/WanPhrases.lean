import WanRouter.Local.SyslogReceiver

/-!
# WAN phrases

What the WAN patterns look for, said without patterns: a head, a text without line
breaks and one of the tails.  A search reports the first phrase of the table that
occurs, at its leftmost place and with the shortest text there.
-/

namespace WanRouter

open Backtracking Pattern

structure WanPhrase where
  head : List Char
  tails : List (List Char)
  eventType : String
  deriving DecidableEq

def wanPhrases : List WanPhrase :=
  [⟨"Backup [".toList, ["] took effect".toList], "failover_activated"⟩,
    ⟨"Backup [".toList, ["] was down".toList], "failover_deactivated"⟩,
    ⟨"physical connection status of [".toList, ["] was down".toList], "link_down"⟩,
    ⟨"online detection result of [".toList, ["] was online".toList, "] was offline".toList],
      "online_detection"⟩]

namespace WanPhrase

/-- A text starts with the phrase around `w`. -/
def Reads (k : WanPhrase) (w text : List Char) : Prop :=
  Block dot w ∧ ∃ tail ∈ k.tails, ∃ rest, text = k.head ++ (w ++ (tail ++ rest))

def Occurs (k : WanPhrase) (message : List Char) : Prop :=
  ∃ before text w, message = before ++ text ∧ k.Reads w text

/-- The leftmost place of the phrase in a message is where `text` starts. -/
def Leftmost (k : WanPhrase) (message text : List Char) : Prop :=
  (∃ w, k.Reads w text) ∧ ∃ before, message = before ++ text ∧
    ∀ before' text', message = before' ++ text' → before'.length < before.length →
      ∀ w, ¬k.Reads w text'

/-- The text `w` is the one that a search for the phrase reports. -/
def Found (k : WanPhrase) (message w : List Char) : Prop :=
  ∃ text, k.Leftmost message text ∧ k.Reads w text ∧ ∀ w', k.Reads w' text → w.length ≤ w'.length

variable {k : WanPhrase} {message text text' w w' : List Char}

theorem Leftmost.unique (h : k.Leftmost message text) (h' : k.Leftmost message text') :
    text = text' := by
  obtain ⟨⟨w, hw⟩, before, hbefore, hleft⟩ := h
  obtain ⟨⟨w', hw'⟩, before', hbefore', hleft'⟩ := h'
  have hle : before.length ≤ before'.length :=
    Nat.not_lt.mp fun hlt ↦ hleft before' text' hbefore' hlt w' hw'
  have hle' : before'.length ≤ before.length :=
    Nat.not_lt.mp fun hlt ↦ hleft' before text hbefore hlt w hw
  exact (List.append_inj (hbefore.symm.trans hbefore') (Nat.le_antisymm hle hle')).2

theorem Leftmost.infix_of_reads (h : k.Leftmost message text) (hw : k.Reads w text) :
    ∃ tail ∈ k.tails, k.head ++ (w ++ tail) <:+: message := by
  obtain ⟨-, before, rfl, -⟩ := h
  obtain ⟨-, tail, htail, rest, rfl⟩ := hw
  exact ⟨tail, htail, before, rest, by simp⟩

/-- Of two readings at one place the shorter is a prefix of the longer. -/
theorem Reads.prefix_of_length_le (h : k.Reads w text) (h' : k.Reads w' text)
    (hle : w.length ≤ w'.length) : w <+: w' := by
  obtain ⟨-, tail, -, rest, rfl⟩ := h
  obtain ⟨-, tail', -, rest', heq⟩ := h'
  have hrest := List.append_cancel_left heq
  exact List.prefix_of_prefix_length_le ⟨_, hrest⟩ (List.prefix_append _ _) hle

theorem Found.occurs (h : k.Found message w) :
    k.Occurs message := by
  obtain ⟨text, ⟨-, before, hmessage, -⟩, hreads, -⟩ := h
  exact ⟨before, text, w, hmessage, hreads⟩

end WanPhrase

/-! ## Patterns and phrases -/

/-- The pattern of the table looks for the phrase. -/
def Denotes (p : Pattern Char × String) (k : WanPhrase) : Prop :=
  p.2 = k.eventType ∧ ∃ tail, p.1 = concat (literal k.head :: group (oneOrMoreLazy dot) :: tail) ∧
    ∀ s, (concat tail).successes s ≠ [] ↔ ∃ t ∈ k.tails, t <+: s

/-- A tail without alternatives. -/
theorem denotes_literal (head tail eventType : String) :
    Denotes (bracketPattern head [literal tail.toList], eventType)
      ⟨head.toList, [tail.toList], eventType⟩ := by
  refine ⟨rfl, _, rfl, fun s ↦ ?_⟩
  change (seq (literal tail.toList) empty).successes s ≠ [] ↔ _
  rw [successes_literal_seq_ne_nil_iff]
  constructor
  · rintro ⟨rest, rfl, -⟩
    exact ⟨_, List.mem_singleton_self _, List.prefix_append _ _⟩
  · rintro ⟨t, ht, rest, rfl⟩
    obtain rfl := List.mem_singleton.mp ht
    exact ⟨rest, rfl, List.cons_ne_nil _ _⟩

/-- A tail that ends in one of two words. -/
theorem denotes_either (head tail one other eventType : String) :
    Denotes (bracketPattern head
        [literal tail.toList, oneOf [literal one.toList, literal other.toList]], eventType)
      ⟨head.toList, [tail.toList ++ one.toList, tail.toList ++ other.toList], eventType⟩ := by
  refine ⟨rfl, _, rfl, fun s ↦ ?_⟩
  change (seq (literal tail.toList) (seq (oneOf _) empty)).successes s ≠ [] ↔ _
  have hmem (l t : List Char) : ⟨l, [], t⟩ ∈ (literal l).successes (l ++ t) :=
    mem_successes_literal.mpr ⟨t, rfl, rfl⟩
  have hwords (rest : List Char) :
      (seq (oneOf [literal one.toList, literal other.toList]) empty).successes rest ≠ [] ↔
        one.toList <+: rest ∨ other.toList <+: rest := by
    constructor
    · intro h
      by_contra hnone
      obtain ⟨hone, hother⟩ := not_or.mp hnone
      refine h (successes_seq_eq_nil_of_left ?_)
      simp only [oneOf, successes, successes_literal_eq_nil hone, successes_literal_eq_nil hother]
      cases rest <;> rfl
    · rintro (⟨t, rfl⟩ | ⟨t, rfl⟩)
      · have hone := hmem one.toList t
        exact List.ne_nil_of_mem (mem_successes_seq.mpr
          ⟨_, mem_successes_alt.mpr (Or.inl hone), _, mem_successes_empty.mpr rfl, rfl⟩)
      · have hother := hmem other.toList t
        exact List.ne_nil_of_mem (mem_successes_seq.mpr ⟨_, mem_successes_alt.mpr
          (Or.inr (mem_successes_alt.mpr (Or.inl hother))), _, mem_successes_empty.mpr rfl, rfl⟩)
  rw [successes_literal_seq_ne_nil_iff]
  constructor
  · rintro ⟨rest, rfl, hrest⟩
    rcases (hwords rest).mp hrest with hone | hother
    · exact ⟨_, List.mem_cons_self, (List.prefix_append_right_inj _).mpr hone⟩
    · exact ⟨_, List.mem_cons_of_mem _ (List.mem_singleton_self _),
        (List.prefix_append_right_inj _).mpr hother⟩
  · rintro ⟨t, ht, rest, rfl⟩
    rcases List.mem_cons.mp ht with rfl | ht
    · refine ⟨one.toList ++ rest, List.append_assoc _ _ _, ?_⟩
      exact (hwords _).mpr (Or.inl (List.prefix_append _ _))
    · obtain rfl := List.mem_singleton.mp ht
      refine ⟨other.toList ++ rest, List.append_assoc _ _ _, ?_⟩
      exact (hwords _).mpr (Or.inr (List.prefix_append _ _))

section Denotes

variable {p : Pattern Char × String} {k : WanPhrase} {text message : List Char}

/-- The pattern matches where the phrase stands. -/
theorem Denotes.successes_ne_nil_iff (h : Denotes p k) :
    p.1.successes text ≠ [] ↔ ∃ w, k.Reads w text := by
  obtain ⟨-, tail, hp, htail⟩ := h
  rw [hp]
  change (seq (literal k.head) (seq (group (oneOrMoreLazy dot)) (concat tail))).successes text ≠
    [] ↔ _
  rw [successes_literal_seq_ne_nil_iff]
  constructor
  · rintro ⟨rest, rfl, hrest⟩
    rw [ne_eq, successes_group_lazy_eq_nil_iff] at hrest
    push Not at hrest
    obtain ⟨w, y, rfl, hw, hy⟩ := hrest
    obtain ⟨t, ht, rest, rfl⟩ := (htail y).mp hy
    exact ⟨w, hw, t, ht, rest, rfl⟩
  · rintro ⟨w, hw, t, ht, rest, rfl⟩
    refine ⟨w ++ (t ++ rest), rfl, fun hnil ↦ ?_⟩
    exact (htail _).mpr ⟨t, ht, List.prefix_append _ _⟩
      (successes_group_lazy_eq_nil_iff.mp hnil w _ rfl hw)

/-- The group of its match is the shortest text that the phrase can stand around. -/
theorem Denotes.reads_of_first (h : Denotes p k) {m : Success Char} (hm : p.1.first text = some m) :
    k.Reads (m.groups.headD []) text ∧
      ∀ w, k.Reads w text → (m.groups.headD []).length ≤ w.length := by
  obtain ⟨w, hw, t, ht, rest, rfl⟩ :=
    h.successes_ne_nil_iff.mp (List.ne_nil_of_mem (mem_of_first hm))
  obtain ⟨-, tail, hp, htail⟩ := h
  rw [hp] at hm
  change (seq (literal k.head) (seq (group (oneOrMoreLazy dot)) (concat tail))).first _ = _ at hm
  rw [first_literal_seq, Option.map_eq_some_iff] at hm
  obtain ⟨m₁, hm₁, rfl⟩ := hm
  obtain ⟨x, y, m', hs, hx, hy, rfl, hleast⟩ := shortest_of_first hm₁
  change k.Reads x _ ∧ ∀ w', k.Reads w' _ → x.length ≤ w'.length
  constructor
  · obtain ⟨t', ht', rest', rfl⟩ := (htail y).mp (List.ne_nil_of_mem (mem_of_first hy))
    exact ⟨hx, t', ht', rest', by rw [hs]⟩
  · rintro w' ⟨hw', t', ht', rest', heq⟩
    refine hleast w' (t' ++ rest') (List.append_cancel_left heq) hw' ?_
    exact (htail _).mpr ⟨t', ht', List.prefix_append _ _⟩

theorem Denotes.search_eq_none_iff (h : Denotes p k) :
    p.1.search message = none ↔ ¬k.Occurs message := by
  rw [Pattern.search_eq_none_iff]
  constructor
  · rintro hnone ⟨before, text, w, hmessage, hw⟩
    exact h.successes_ne_nil_iff.mpr ⟨w, hw⟩ (hnone before text hmessage)
  · intro hnot before text hmessage
    by_contra hne
    obtain ⟨w, hw⟩ := h.successes_ne_nil_iff.mp hne
    exact hnot ⟨before, text, w, hmessage, hw⟩

theorem Denotes.found_of_search (h : Denotes p k) {m : Success Char}
    (hm : p.1.search message = some m) : k.Found message (m.groups.headD []) := by
  obtain ⟨before, text, hmessage, hfirst, hleft⟩ := search_eq_some_iff.mp hm
  obtain ⟨hreads, hleast⟩ := h.reads_of_first hfirst
  refine ⟨text, ⟨⟨_, hreads⟩, before, hmessage, fun before' text' hmessage' hlt w hw ↦ ?_⟩, hreads,
    hleast⟩
  exact h.successes_ne_nil_iff.mpr ⟨w, hw⟩ (hleft before' text' hmessage' hlt)

end Denotes

theorem wanPatterns_denote : List.Forall₂ Denotes wanPatterns wanPhrases :=
  .cons (denotes_literal _ _ _) (.cons (denotes_literal _ _ _) (.cons (denotes_literal _ _ _)
    (.cons (denotes_either _ _ _ _ _) .nil)))

/-! ## The search through the table -/

open Classical in
/-- The first phrase of the table that occurs in a message. -/
noncomputable def firstPhrase? (phrases : List WanPhrase) (message : List Char) :
    Option WanPhrase :=
  phrases.find? fun k ↦ decide (k.Occurs message)

/-- The patterns report the first phrase that occurs, with the text that is found there. -/
theorem findSome?_denotes {ps : List (Pattern Char × String)} {ks : List WanPhrase}
    (h : List.Forall₂ Denotes ps ks) (message : List Char) :
    let reported := ps.findSome? fun p ↦
      (p.1.search message).map fun m ↦ (p.2, m.groups.headD [])
    (∃ k w, reported = some (k.eventType, w) ∧ firstPhrase? ks message = some k ∧
        k.Found message w) ∨
      (reported = none ∧ firstPhrase? ks message = none) := by
  induction h with
  | nil => exact Or.inr ⟨rfl, rfl⟩
  | @cons p k ps ks hp _ ih =>
      cases hsearch : p.1.search message with
      | none =>
          have hnot : ¬k.Occurs message := hp.search_eq_none_iff.mp hsearch
          have hskip : firstPhrase? (k :: ks) message = firstPhrase? ks message :=
            List.find?_cons_of_neg (by simpa using hnot)
          simp only [List.findSome?_cons, hsearch, Option.map_none, hskip]
          exact ih
      | some m =>
          have hfound := hp.found_of_search hsearch
          have hfirst : firstPhrase? (k :: ks) message = some k :=
            List.find?_cons_of_pos (by simpa using hfound.occurs)
          simp only [List.findSome?_cons, hsearch, Option.map_some]
          exact Or.inl ⟨k, _, by rw [hp.1], hfirst, hfound⟩

theorem wanEvent?_cases (message : List Char) :
    (∃ k w, wanEvent? message = some (k.eventType, w) ∧
        firstPhrase? wanPhrases message = some k ∧ k.Found message w) ∨
      (wanEvent? message = none ∧ firstPhrase? wanPhrases message = none) :=
  findSome?_denotes wanPatterns_denote message

end WanRouter
