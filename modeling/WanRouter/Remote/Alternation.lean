import WanRouter.Lib.EdgeDetector
import WanRouter.Remote.SentinelRuns

/-!
# The alerts of the sentinel alternate

The flag of the loop follows the last alert handed over, once its send is over.
The flag of the store can be clear after a LOST alert only through a record that
is not older than the evaluation that decided it, so the next evaluation, which
comes within the threshold, finds the heartbeat present.
-/

namespace WanRouter

open HeartbeatStore RemoteAlertEngine EdgeDetector SentinelEvent

/-- No exception, and both tests of an evaluation see the same clock reading. -/
def SentinelEvent.Regular (telegram : TelegramNotifier) : SentinelEvent → Prop
  | .evaluate now now' _ => now = now'
  | .probeRaised => False
  | .sent reply => ∀ alert, telegram.sendAlert alert reply ≠ .raised
  | _ => True

namespace RemoteSentinel

def evaluationTimes (es : List SentinelEvent) : List ℤ := es.filterMap evaluatedAt?

def LastLost (titles : List String) : Prop := titles.getLast? = some lostTitle

/-- How the flag of the loop and the last alert are related at each position. -/
def FlagAgrees (titles : List String) (wasMissing : Bool) : MonitorPosition → Prop
  | .sleeping => wasMissing = true ↔ LastLost titles
  | .probing => wasMissing = false ∧ ¬LastLost titles
  | .sendingLost _ => LastLost titles
  | .sendingRecovered _ => ¬LastLost titles

structure AlertInvariant (lastEvaluation : Option ℤ) (s : RemoteSentinel)
    (titles : List String) : Prop where
  alternates : Alternates lostTitle recoveredTitle titles
  flag : FlagAgrees titles s.wasMissing s.position
  fresh : s.position = .probing ∨ LastLost titles →
    ∃ t₀, lastEvaluation = some t₀ ∧
      (s.store.alertedMissing = false → ∃ t, s.store.lastHeartbeat = some t ∧ t₀ ≤ t)

theorem lostTitle_ne_recoveredTitle : lostTitle ≠ recoveredTitle := by decide

theorem not_lastLost_concat_recovered (titles : List String) :
    ¬LastLost (titles ++ [recoveredTitle]) := by
  simp [LastLost, lostTitle_ne_recoveredTitle.symm]

theorem alternates_concat_lost {titles : List String}
    (h : Alternates lostTitle recoveredTitle titles) (hlast : ¬LastLost titles) :
    Alternates lostTitle recoveredTitle (titles ++ [lostTitle]) := by
  have hnext := h.concat lostTitle_ne_recoveredTitle
  rw [LastLost] at hlast
  rwa [if_neg hlast] at hnext

theorem alternates_concat_recovered {titles : List String}
    (h : Alternates lostTitle recoveredTitle titles) (hlast : LastLost titles) :
    Alternates lostTitle recoveredTitle (titles ++ [recoveredTitle]) := by
  have hnext := h.concat lostTitle_ne_recoveredTitle
  rw [LastLost] at hlast
  rwa [if_pos hlast] at hnext

variable {s t : RemoteSentinel} {e : SentinelEvent} {o : List AlertEvent}
  {lastEvaluation : Option ℤ} {titles : List String}

/-- With the last evaluation at most the threshold ago, a LOST alert is only decided
when the last alert was not LOST. -/
theorem AlertInvariant.not_lastLost (h : AlertInvariant lastEvaluation s titles) {now : ℤ}
    (hgap : ∀ t₀ ∈ lastEvaluation, now - t₀ ≤ s.store.threshold)
    (hmissing : s.store.isMissing now = true) (halerted : s.store.alertedMissing = false) :
    ¬LastLost titles := by
  intro hlast
  obtain ⟨t₀, ht₀, hrecord⟩ := h.fresh (Or.inr hlast)
  obtain ⟨t, ht, hle⟩ := hrecord halerted
  have hlate := (isMissing_eq_true_iff _ _).mp hmissing t ht
  have hsoon := hgap t₀ ht₀
  omega

theorem AlertInvariant.step (h : AlertInvariant lastEvaluation s titles)
    (htrans : Transition s e t o) (hregular : e.Regular s.telegram)
    (hclock : ∀ t₀ ∈ lastEvaluation, ∀ now ∈ e.readings, t₀ ≤ now)
    (hgap : ∀ t₀ ∈ lastEvaluation, ∀ now ∈ e.evaluatedAt?, now - t₀ ≤ s.store.threshold) :
    AlertInvariant (e.evaluatedAt?.or lastEvaluation) t
      (titles ++ o.map AlertEvent.title) := by
  cases htrans with
  | record now payload =>
      rw [List.map_nil, List.append_nil]
      refine ⟨h.alternates, h.flag, ?_⟩
      intro hlost
      obtain ⟨t₀, ht₀, -⟩ := h.fresh hlost
      exact ⟨t₀, ht₀, fun _ ↦ ⟨now, rfl, hclock t₀ ht₀ now (by simp [readings])⟩⟩
  | decideLost now now' now'' hpos hmissing halerted =>
      have hnot := h.not_lastLost (fun t₀ ht₀ ↦ hgap t₀ ht₀ now rfl) hmissing halerted
      have hflag := h.flag
      rw [hpos] at hflag
      have hwas : s.wasMissing = false := by simpa [hnot, FlagAgrees] using hflag
      rw [List.map_nil, List.append_nil]
      exact ⟨h.alternates, ⟨hwas, hnot⟩, fun _ ↦ ⟨now, rfl, fun hfalse ↦ by simp at hfalse⟩⟩
  | handRecovered now now' now'' hpos hquiet hwas hmissing =>
      have hflag := h.flag
      rw [hpos] at hflag
      have hlast : LastLost titles := hflag.mp hwas
      have hnot := not_lastLost_concat_recovered titles
      refine ⟨alternates_concat_recovered h.alternates hlast, hnot, ?_⟩
      rintro (hprobing | hlost)
      · cases hprobing
      · exact absurd hlost hnot
  | idle now now' now'' hpos hquiet hidle =>
      have hnow : now = now' := hregular
      subst hnow
      rw [List.map_nil, List.append_nil]
      refine ⟨h.alternates, h.flag, ?_⟩
      intro hlost
      refine ⟨now, rfl, ?_⟩
      intro halerted
      -- The flag is clear and the loop awaits a recovery, so `record` has run and
      -- the RECOVERED branch was due.
      exfalso
      have hflag := h.flag
      rw [hpos] at hflag hlost
      have hwas : s.wasMissing = true := hflag.mpr (hlost.resolve_left (by simp))
      have hpresent : s.store.isMissing now = false := hquiet.resolve_right (by simp [halerted])
      simp [hwas, hpresent] at hidle
  | handLost result now now' hpos =>
      have hflag := h.flag
      rw [hpos] at hflag
      have hlost : LastLost (titles ++ [lostTitle]) := by simp [LastLost]
      exact ⟨alternates_concat_lost h.alternates hflag.2, hlost,
        fun _ ↦ h.fresh (Or.inl hpos)⟩
  | probeRaised hpos => exact hregular.elim
  | sentLost alert reply hpos =>
      have hflag := h.flag
      rw [hpos] at hflag
      rw [List.map_nil, List.append_nil]
      cases hsend : s.telegram.sendAlert alert reply with
      | raised => exact absurd hsend (hregular alert)
      | returned ok =>
          exact ⟨h.alternates, ⟨fun _ ↦ hflag, fun _ ↦ rfl⟩, fun _ ↦ h.fresh (Or.inr hflag)⟩
  | sentRecovered alert reply hpos =>
      have hflag := h.flag
      rw [hpos] at hflag
      rw [List.map_nil, List.append_nil]
      cases hsend : s.telegram.sendAlert alert reply with
      | raised => exact absurd hsend (hregular alert)
      | returned ok =>
          refine ⟨h.alternates, ⟨fun hfalse ↦ by simp [finishSend] at hfalse, ?_⟩, ?_⟩
          · exact fun hlost ↦ absurd hlost hflag
          · rintro (hprobing | hlost)
            · cases hprobing
            · exact absurd hlost hflag

theorem evaluationTimes_mem_readings (es : List SentinelEvent) {t : ℤ}
    (ht : t ∈ evaluationTimes es) : t ∈ es.flatMap readings := by
  obtain ⟨e, he, het⟩ := List.mem_filterMap.mp ht
  refine List.mem_flatMap.mpr ⟨e, he, ?_⟩
  cases e <;> simp_all [evaluatedAt?, readings]

theorem getLast?_evaluationTimes_concat (es : List SentinelEvent) (e : SentinelEvent) :
    (evaluationTimes (es ++ [e])).getLast? =
      e.evaluatedAt?.or (evaluationTimes es).getLast? := by
  rw [evaluationTimes, List.filterMap_append, List.getLast?_append]
  cases e <;> rfl

/-- Regular runs with evaluations at most the threshold apart keep the invariant. -/
theorem alertInvariant_run (config : RemoteHeartbeatConfig) (telegram : TelegramNotifier)
    {es : List SentinelEvent} {s : RemoteSentinel} {out : List AlertEvent}
    (hrun : Machine.run RemoteSentinel.step (init config telegram) es = some (s, out)) :
    (es.flatMap readings).Pairwise (· ≤ ·) → (∀ e ∈ es, e.Regular telegram) →
    (evaluationTimes es).IsChain (fun t t' ↦ t' - t ≤ (ofConfig config).threshold) →
    AlertInvariant (evaluationTimes es).getLast? s (out.map AlertEvent.title) := by
  refine Machine.run_induction RemoteSentinel.step (P := fun es s out ↦
    (es.flatMap readings).Pairwise (· ≤ ·) → (∀ e ∈ es, e.Regular telegram) →
    (evaluationTimes es).IsChain (fun t t' ↦ t' - t ≤ (ofConfig config).threshold) →
    AlertInvariant (evaluationTimes es).getLast? s (out.map AlertEvent.title)) ?_ ?_ es s out hrun
  · intro _ _ _
    refine ⟨trivial, by simp [FlagAgrees, init, LastLost], ?_⟩
    rintro (hprobing | hlost)
    · cases hprobing
    · simp [LastLost] at hlost
  · intro es m out e t o hrun ih hstep hclock hregular hgaps
    rw [List.flatMap_append, List.pairwise_append] at hclock
    rw [evaluationTimes, List.filterMap_append, List.isChain_append] at hgaps
    have hinv := ih hclock.1 (fun e he ↦ hregular e (by simp [he])) hgaps.1
    have htelegram : m.telegram = telegram := run_telegram hrun
    have hthreshold : m.store.threshold = (ofConfig config).threshold := by
      rw [run_store hrun, run_threshold]
    rw [List.map_append, getLast?_evaluationTimes_concat]
    apply hinv.step (transition_of_step hstep)
    · rw [htelegram]
      exact hregular e (by simp)
    · intro t₀ ht₀ now hnow
      have hmem := evaluationTimes_mem_readings es (List.mem_of_getLast? ht₀)
      exact hclock.2.2 t₀ hmem now (by simpa using hnow)
    · intro t₀ ht₀ now hnow
      rw [hthreshold]
      exact hgaps.2.2 t₀ ht₀ now (by simp [Option.mem_def.mp hnow])

/-- With a nondecreasing clock, no exceptions, one reading per evaluation and
evaluations at most the threshold apart, the alerts are LOST, RECOVERED, LOST, … -/
theorem sentinel_alerts_alternate (config : RemoteHeartbeatConfig)
    (telegram : TelegramNotifier) {es : List SentinelEvent} {s : RemoteSentinel}
    {out : List AlertEvent}
    (hrun : Machine.run RemoteSentinel.step (init config telegram) es = some (s, out))
    (hclock : (es.flatMap readings).Pairwise (· ≤ ·))
    (hregular : ∀ e ∈ es, e.Regular telegram)
    (hgaps : (evaluationTimes es).IsChain (fun t t' ↦
      t' - t ≤ config.expectedInterval * config.missedThreshold * microsPerSecond)) :
    Alternates "CONNECTION LOST TO LOCAL MONITOR" "LOCAL MONITOR RECOVERED"
      (out.map AlertEvent.title) :=
  (alertInvariant_run config telegram hrun hclock hregular hgaps).alternates

/-- An outage from the start that ends with a heartbeat after five seconds. -/
def shortOutage : List SentinelEvent :=
  [.evaluate 0 0 0, .probed .disabled 0 0, .sent .delivered, .record 5000000 emptyPayload,
    .evaluate 10000000 10000000 10000000, .sent .delivered]

theorem shortOutage_alternates :
    ∃ s out, Machine.run RemoteSentinel.step (init {} {}) shortOutage = some (s, out) ∧
      out.map AlertEvent.title = [lostTitle, recoveredTitle] ∧
      Alternates "CONNECTION LOST TO LOCAL MONITOR" "LOCAL MONITOR RECOVERED"
        (out.map AlertEvent.title) := by
  have hclock : (shortOutage.flatMap readings).Pairwise (· ≤ ·) := by decide
  have hregular : ∀ e ∈ shortOutage, e.Regular {} := by
    simp [shortOutage, Regular, TelegramNotifier.sendAlert, TelegramNotifier.sendMessage]
  exact ⟨_, _, rfl, rfl, sentinel_alerts_alternate {} {} rfl hclock hregular (by decide)⟩

end RemoteSentinel

end WanRouter
