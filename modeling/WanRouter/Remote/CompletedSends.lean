import WanRouter.Lib.Simulation
import WanRouter.Remote.Alternation
import WanRouter.Remote.LateHeartbeats

/-!
# The sends that return

The flag of the loop is only assigned behind a send that returned, whatever it
returned.  So it tells which alert was sent last, and a recovery is announced again
and again until its send returns.
-/

namespace WanRouter

open HeartbeatStore RemoteAlertEngine

namespace RemoteSentinel

/-- The alert whose send returns in this step. -/
def completion (s : RemoteSentinel) : SentinelEvent → List AlertEvent
  | .sent reply =>
      match s.position with
      | .sendingLost alert | .sendingRecovered alert =>
          if s.telegram.sendAlert alert reply = .raised then [] else [alert]
      | _ => []
  | _ => []

/-- The alerts of a run whose sends returned, in order. -/
def completed (s : RemoteSentinel) (es : List SentinelEvent) : List AlertEvent :=
  Machine.translated step completion s es

/-- The alert that is being sent. -/
def AlertSent (s : RemoteSentinel) : Prop :=
  match s.position with
  | .sendingLost alert => alert.title = lostTitle
  | .sendingRecovered alert => alert.title = recoveredTitle ∧ s.wasMissing = true
  | _ => True

/-- Every RECOVERED comes directly after a LOST. -/
def RecoversLoss (titles : List String) : Prop :=
  (recoveredTitle :: titles).IsChain fun before title ↦ title = recoveredTitle → before = lostTitle

/-- The flag tells whether the last send that returned was that of a LOST alert. -/
structure SendInvariant (s : RemoteSentinel) (titles : List String) : Prop where
  recovers : RecoversLoss titles
  flag : s.wasMissing = true ↔ LastLost titles
  sent : AlertSent s

variable {config : RemoteHeartbeatConfig} {telegram : TelegramNotifier}
  {s t : RemoteSentinel} {e : SentinelEvent} {es : List SentinelEvent}
  {out o : List AlertEvent} {titles : List String}

theorem RecoversLoss.concat_lost (h : RecoversLoss titles) :
    RecoversLoss (titles ++ [lostTitle]) := by
  rw [RecoversLoss, ← List.cons_append, List.isChain_append]
  refine ⟨h, List.isChain_singleton _, ?_⟩
  intro before _ title htitle heq
  obtain rfl : lostTitle = title := by simpa using htitle
  exact absurd heq lostTitle_ne_recoveredTitle

theorem RecoversLoss.concat_recovered (h : RecoversLoss titles) (hlast : LastLost titles) :
    RecoversLoss (titles ++ [recoveredTitle]) := by
  rw [RecoversLoss, ← List.cons_append, List.isChain_append]
  refine ⟨h, List.isChain_singleton _, ?_⟩
  intro before hbefore title _ _
  rw [List.getLast?_cons, hlast] at hbefore
  simpa using hbefore.symm

theorem lastLost_concat_lost (titles : List String) : LastLost (titles ++ [lostTitle]) := by
  simp [LastLost]

/-- A step in which no send returns leaves the flag as it is. -/
theorem SendInvariant.frame (h : SendInvariant s titles) (hnone : completion s e = [])
    (hwas : t.wasMissing = s.wasMissing) (hsent : AlertSent t) :
    SendInvariant t (titles ++ (completion s e).map AlertEvent.title) := by
  rw [hnone, List.map_nil, List.append_nil]
  exact ⟨h.recovers, hwas ▸ h.flag, hsent⟩

theorem completion_sentLost {alert : AlertEvent} (hpos : s.position = .sendingLost alert)
    (reply : BotReply) : completion s (.sent reply) =
      if s.telegram.sendAlert alert reply = .raised then [] else [alert] := by
  rw [completion, hpos]

theorem completion_sentRecovered {alert : AlertEvent}
    (hpos : s.position = .sendingRecovered alert) (reply : BotReply) :
    completion s (.sent reply) =
      if s.telegram.sendAlert alert reply = .raised then [] else [alert] := by
  rw [completion, hpos]

theorem SendInvariant.step (h : SendInvariant s titles) (htrans : Transition s e t o) :
    SendInvariant t (titles ++ (completion s e).map AlertEvent.title) := by
  have hsent := h.sent
  rw [AlertSent] at hsent
  cases htrans with
  | record now payload => exact h.frame rfl rfl h.sent
  | decideLost now now' now'' hpos hmissing halerted => exact h.frame rfl rfl trivial
  | handRecovered now now' now'' hpos hquiet hwas hmissing =>
      exact h.frame rfl rfl ⟨rfl, hwas⟩
  | idle now now' now'' hpos hquiet hidle => exact h.frame rfl rfl h.sent
  | handLost result now now' hpos => exact h.frame rfl rfl rfl
  | probeRaised hpos => exact h.frame rfl rfl trivial
  | sentLost alert reply hpos =>
      rw [hpos] at hsent
      have hcompletion := completion_sentLost hpos reply
      cases hsend : s.telegram.sendAlert alert reply with
      | raised => exact h.frame (by rw [hcompletion, if_pos hsend]) rfl trivial
      | returned ok =>
          rw [hcompletion, if_neg (by simp [hsend]), List.map_singleton, hsent]
          exact ⟨h.recovers.concat_lost, iff_of_true rfl (lastLost_concat_lost titles), trivial⟩
  | sentRecovered alert reply hpos =>
      rw [hpos] at hsent
      have hcompletion := completion_sentRecovered hpos reply
      cases hsend : s.telegram.sendAlert alert reply with
      | raised => exact h.frame (by rw [hcompletion, if_pos hsend]) rfl trivial
      | returned ok =>
          rw [hcompletion, if_neg (by simp [hsend]), List.map_singleton, hsent.1]
          refine ⟨h.recovers.concat_recovered (h.flag.mp hsent.2), ?_, trivial⟩
          exact iff_of_false Bool.false_ne_true (not_lastLost_concat_recovered titles)

theorem sendInvariant_run (hrun : Machine.run step (init config telegram) es = some (s, out)) :
    SendInvariant s ((completed (init config telegram) es).map AlertEvent.title) := by
  refine Machine.run_induction step (P := fun es s _ ↦
    SendInvariant s ((completed (init config telegram) es).map AlertEvent.title)) ?_ ?_ es s out
    hrun
  · refine ⟨List.isChain_singleton _, ?_, trivial⟩
    exact iff_of_false Bool.false_ne_true (by simp [LastLost, completed])
  · intro es m out e t o hbefore ih hstep
    rw [completed, Machine.translated_concat step completion hbefore hstep, List.map_append]
    exact ih.step (transition_of_step hstep)

/-- Whatever the clock shows and whatever raises: of the alerts whose sends return, every
RECOVERED comes directly after a LOST, and an evaluation that decides no loss hands over a
RECOVERED exactly if the last of them is a LOST and the last heartbeat is not missing. -/
theorem recovery_handed_iff_owed (config : RemoteHeartbeatConfig) (telegram : TelegramNotifier)
    {es : List SentinelEvent} {s : RemoteSentinel} {out : List AlertEvent}
    (hrun : Machine.run step (init config telegram) es = some (s, out)) :
    RecoversLoss ((completed (init config telegram) es).map AlertEvent.title) ∧
    ∀ now now' now'' t o, step s (.evaluate now now' now'') = some (t, o) →
      (o = [createMonitorRecoveredAlert now''] ↔
        t.position ≠ .probing ∧
        LastLost ((completed (init config telegram) es).map AlertEvent.title) ∧
        ¬config.Silent (recordTimes es).getLast? now') := by
  have h := sendInvariant_run hrun
  refine ⟨h.recovers, ?_⟩
  intro now now' now'' t o heval
  rw [← h.flag, ← isMissing_iff_silent hrun]
  cases transition_of_step heval with
  | decideLost _ _ _ hpos hmissing halerted => exact iff_of_false (by simp) (by simp)
  | handRecovered _ _ _ hpos hquiet hwas hmissing =>
      exact iff_of_true rfl ⟨by simp, hwas, by simp [hmissing]⟩
  | idle _ _ _ hpos hquiet hidle =>
      refine iff_of_false (by simp) ?_
      rintro ⟨-, hwas, hpresent⟩
      rcases hidle with hidle | hidle
      · simp [hidle] at hwas
      · exact hpresent hidle

/-- An outage from the start; the send of the first RECOVERED raises. -/
def recoveryRaises : List SentinelEvent :=
  [.evaluate 0 0 0, .probed .disabled 0 0, .sent .delivered, .record 5000000 emptyPayload,
    .evaluate 10000000 10000000 10000000, .sent .otherError]

theorem recovery_handed_again :
    ∃ s out t o, Machine.run step (init {} {}) recoveryRaises = some (s, out) ∧
      step s (.evaluate 20000000 20000000 20000000) = some (t, o) ∧
      o = [createMonitorRecoveredAlert 20000000] := by
  obtain ⟨s, out, t, o, hrun, heval, hpos⟩ : ∃ s out t o,
      Machine.run step (init {} {}) recoveryRaises = some (s, out) ∧
        step s (.evaluate 20000000 20000000 20000000) = some (t, o) ∧ t.position ≠ .probing :=
    ⟨_, _, _, _, rfl, rfl, by decide⟩
  have hlost : LastLost ((completed (init {} {}) recoveryRaises).map AlertEvent.title) := by
    rw [LastLost]
    decide
  have howed := (recovery_handed_iff_owed {} {} hrun).2 20000000 20000000 20000000 t o heval
  exact ⟨s, out, t, o, hrun, heval, howed.mpr ⟨hpos, hlost, fun hsilent ↦
    absurd (hsilent 5000000 rfl) (by decide)⟩⟩

end RemoteSentinel

end WanRouter
