import WanRouter.Shared.DurationText

/-!
# Texts put together from parts

The texts of the alerts are lines, and lines are parts with separators between them.
A text is read by splitting it again, which finds the parts if no part contains the
separator.
-/

namespace WanRouter

open TelegramNotifier

/-! ## Parts and their separators -/

/-- A text put together from parts is read by splitting it at the separator. -/
theorem splitOn_intercalate_toList {c : Char} {parts : List String}
    (h : ∀ part ∈ parts, c ∉ part.toList) (hne : parts ≠ []) :
    (c.toString.intercalate parts).toList.splitOn c = parts.map String.toList := by
  rw [String.toList_intercalate, Char.toString_eq_singleton, String.toList_singleton]
  apply List.splitOn_intercalate
  · intro text htext
    obtain ⟨part, hpart, rfl⟩ := List.mem_map.mp htext
    exact h part hpart
  · exact List.map_eq_nil_iff.not.mpr hne

theorem notMem_of_mem_splitOn {c : Char} {part text : List Char} (h : part ∈ text.splitOn c) :
    c ∉ part := by
  rw [List.splitOn_eq_splitOnP] at h
  induction text generalizing part with
  | nil =>
      obtain rfl := List.mem_singleton.mp h
      exact List.not_mem_nil
  | cons d text ih =>
      rw [List.splitOnP_cons_eq_if_modifyHead] at h
      obtain ⟨first, rest, hsplit⟩ :=
        List.exists_cons_of_ne_nil (List.splitOnP_ne_nil (· == c) text)
      rw [hsplit] at h ih
      by_cases hd : d = c
      · rw [if_pos (beq_iff_eq.mpr hd)] at h
        rcases List.mem_cons.mp h with rfl | h
        · exact List.not_mem_nil
        · exact ih h
      · rw [if_neg (by simpa using hd), List.modifyHead_cons] at h
        rcases List.mem_cons.mp h with rfl | h
        · exact List.not_mem_cons_of_ne_of_not_mem (Ne.symm hd) (ih List.mem_cons_self)
        · exact ih (List.mem_cons_of_mem _ h)

theorem notMem_intercalate {c : Char} {separator : String} {parts : List String}
    (hseparator : c ∉ separator.toList) (h : ∀ part ∈ parts, c ∉ part.toList) :
    c ∉ (separator.intercalate parts).toList := by
  induction parts with
  | nil =>
      rw [String.intercalate_nil]
      exact List.not_mem_nil
  | cons part parts ih =>
      have hrest := ih fun p hp ↦ h p (List.mem_cons_of_mem _ hp)
      have hpart := h part List.mem_cons_self
      cases parts with
      | nil => simpa using hpart
      | cons next parts =>
          rw [String.intercalate_cons_cons, String.toList_append, String.toList_append]
          simp only [List.mem_append, not_or]
          exact ⟨⟨hpart, hseparator⟩, hrest⟩

/-! ## Labels -/

theorem dropPrefix?_toList_append (label text : String) :
    (label ++ text).toList.dropPrefix? label.toList = some text.toList := by
  rw [String.toList_append]
  exact List.dropPrefix?_append_of_beq _ (beq_self_eq_true _)

theorem dropSuffix?_toList_append (text suffix : String) :
    (text ++ suffix).toList.dropSuffix? suffix.toList = some text.toList :=
  List.dropSuffix?_eq_some_iff.mpr ⟨suffix.toList, String.toList_append, beq_self_eq_true _⟩

theorem eq_of_dropPrefix? {label line rest : List Char} (h : line.dropPrefix? label = some rest) :
    line = label ++ rest := by
  obtain ⟨start, heq, hstart⟩ := List.dropPrefix?_eq_some_iff.mp h
  rw [heq, eq_of_beq hstart]

theorem eq_of_dropSuffix? {line rest ending : List Char}
    (h : line.dropSuffix? ending = some rest) : line = rest ++ ending := by
  obtain ⟨last, heq, hlast⟩ := List.dropSuffix?_eq_some_iff.mp h
  rw [heq, eq_of_beq hlast]

/-! ## Lines -/

abbrev OneLine (text : String) : Prop := '\n' ∉ text.toList

theorem OneLine.append {s t : String} (hs : OneLine s) (ht : OneLine t) : OneLine (s ++ t) := by
  rw [OneLine, String.toList_append, List.mem_append]
  exact fun h ↦ h.elim hs ht

theorem oneLine_toString (n : ℤ) : OneLine (toString n) := fun hmem ↦
  absurd (UnicodeData.ascii.isSpace_toString n '\n' hmem) (by decide)

/-- The alert has this title, and its message consists of these lines. -/
structure AlertEvent.Reads (alert : AlertEvent) (title : String) (lines : List String) : Prop where
  title : alert.title = title
  message : alert.message = "\n".intercalate lines

/-- The lines of the text that is sent for an alert. -/
def alertLines (alert : AlertEvent) (lines : List String) : List String :=
  (severityEmoji alert.severity ++ " " ++ alert.title) :: "" :: lines

theorem splitOn_alertText {alert : AlertEvent} {lines : List String}
    (hmessage : alert.message = "\n".intercalate lines) (hne : lines ≠ [])
    (htitle : OneLine alert.title) (hlines : ∀ line ∈ lines, OneLine line) :
    (alertText alert).toList.splitOn '\n' = (alertLines alert lines).map String.toList := by
  have htext : alertText alert = "\n".intercalate (alertLines alert lines) := by
    rw [alertText, hmessage, alertLines, String.intercalate_cons_cons,
      String.intercalate_cons_of_ne_nil hne]
    simp only [String.append_assoc, String.empty_append]
    rfl
  have hemoji : OneLine (severityEmoji alert.severity ++ " ") := by
    cases alert.severity <;> decide
  rw [htext]
  apply splitOn_intercalate_toList (c := '\n') _ (List.cons_ne_nil _ _)
  simp only [List.forall_mem_cons]
  exact ⟨hemoji.append htitle, by decide, hlines⟩

/-! ## Durations -/

def readDuration? (text : List Char) : Option ℤ :=
  (readParts? (String.ofList text)).map durations.total

theorem readDuration?_formatDuration (n : ℤ) :
    readDuration? (formatDuration n).toList = some n := by
  rw [readDuration?, String.ofList_toList, formatDuration_eq,
    readParts?_renderParts (durations.canonical_numeral n).ne_nil, Option.map_some,
    durations.total_numeral]

theorem oneLine_formatDuration (n : ℤ) : OneLine (formatDuration n) := by
  rw [formatDuration_eq, renderParts]
  apply notMem_intercalate (by decide)
  intro text htext
  obtain ⟨part, -, rfl⟩ := List.mem_map.mp htext
  rw [toList_partText]
  intro hmem
  rcases List.mem_append.mp hmem with hamount | hletter
  · exact oneLine_toString part.amount hamount
  · have hunit := List.mem_singleton.mp hletter
    cases hu : part.unit <;> simp [hu, DurationUnit.letter] at hunit

end WanRouter
