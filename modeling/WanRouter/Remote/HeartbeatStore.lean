import WanRouter.Lib.Mealy
import WanRouter.Shared.Clock
import WanRouter.Shared.Config
import WanRouter.Shared.Models

/-!
# The heartbeat store

The model of `HeartbeatStore` in `remote/heartbeat_receiver.py`.  Every method
that reads the clock takes the reading as an argument.  A run of the store is any
list of calls at any readings, in the order in which the server and the monitor
loop make them.
-/

namespace WanRouter

open OrderedDict

structure HeartbeatStore where
  expectedInterval : ℤ := 60
  missedThreshold : ℤ := 3
  lastHeartbeat : Option ℤ := none
  lastPayload : Option HeartbeatPayload := none
  alertedMissing : Bool := false
  deriving DecidableEq

namespace HeartbeatStore

def ofConfig (config : RemoteHeartbeatConfig) : HeartbeatStore :=
  { expectedInterval := config.expectedInterval, missedThreshold := config.missedThreshold }

def record (self : HeartbeatStore) (now : ℤ) (payload : HeartbeatPayload) : HeartbeatStore :=
  { self with lastHeartbeat := some now, lastPayload := some payload, alertedMissing := false }

/-- `expected_interval * missed_threshold` in microseconds. -/
def threshold (self : HeartbeatStore) : ℤ :=
  self.expectedInterval * self.missedThreshold * microsPerSecond

/-- The comparison is exact to the microsecond.  The source compares the float of
`total_seconds()`, which gives the same answer for spans below `2^34` seconds. -/
def isMissing (self : HeartbeatStore) (now : ℤ) : Bool :=
  match self.lastHeartbeat with
  | none => true
  | some last => self.threshold < now - last

def shouldAlertMissing (self : HeartbeatStore) (now : ℤ) : HeartbeatStore × Bool :=
  if self.isMissing now && !self.alertedMissing then
    ({ self with alertedMissing := true }, true)
  else (self, false)

def getLastWanStates (self : HeartbeatStore) : Dict String WANState :=
  match self.lastPayload with
  | some payload => payload.wanStates
  | none => ∅

end HeartbeatStore

/-- No heartbeat was recorded, or the last one is more than the threshold ago. -/
def RemoteHeartbeatConfig.Silent (config : RemoteHeartbeatConfig) (lastRecord : Option ℤ)
    (now : ℤ) : Prop :=
  ∀ t ∈ lastRecord,
    config.expectedInterval * config.missedThreshold * microsPerSecond < now - t

namespace HeartbeatStore

theorem isMissing_eq_true_iff (self : HeartbeatStore) (now : ℤ) :
    self.isMissing now = true ↔ ∀ t ∈ self.lastHeartbeat, self.threshold < now - t := by
  cases hlast : self.lastHeartbeat <;> simp [isMissing, hlast]

/-- Without a record a missing heartbeat stays missing. -/
theorem isMissing_of_le (self : HeartbeatStore) {now now' : ℤ}
    (h : self.isMissing now = true) (hle : now ≤ now') : self.isMissing now' = true := by
  rw [isMissing_eq_true_iff] at h ⊢
  intro t ht
  have hold := h t ht
  omega

/-- What one evaluation can do. -/
theorem shouldAlertMissing_cases (self : HeartbeatStore) (now : ℤ) :
    (self.isMissing now = true ∧ self.alertedMissing = false ∧
      self.shouldAlertMissing now = ({ self with alertedMissing := true }, true)) ∨
    ((self.isMissing now = false ∨ self.alertedMissing = true) ∧
      self.shouldAlertMissing now = (self, false)) := by
  cases hm : self.isMissing now <;> cases ha : self.alertedMissing <;>
    simp [shouldAlertMissing, hm, ha]

/-! ## Runs -/

inductive Call where
  | record (now : ℤ) (payload : HeartbeatPayload)
  | isMissing (now : ℤ)
  | shouldAlertMissing (now : ℤ)
  deriving DecidableEq

inductive Answer where
  | recorded
  | missing (answer : Bool)
  | decision (answer : Bool)
  deriving DecidableEq

def Call.recordedAt? : Call → Option ℤ
  | .record now _ => some now
  | _ => none

def call (self : HeartbeatStore) : Call → HeartbeatStore × Answer
  | .record now payload => (self.record now payload, .recorded)
  | .isMissing now => (self, .missing (self.isMissing now))
  | .shouldAlertMissing now =>
      let decided := self.shouldAlertMissing now
      (decided.1, .decision decided.2)

def lastRecord (calls : List Call) : Option ℤ := (calls.filterMap Call.recordedAt?).getLast?

/-- How often `should_alert_missing` returned `True`. -/
def decisions (self : HeartbeatStore) (calls : List Call) : ℕ :=
  (Mealy.outputs call self calls).count (.decision true)

@[simp] theorem decisions_nil (self : HeartbeatStore) : self.decisions [] = 0 := rfl

theorem decisions_cons (self : HeartbeatStore) (c : Call) (calls : List Call) :
    self.decisions (c :: calls) =
      (self.call c).1.decisions calls + if (self.call c).2 = .decision true then 1 else 0 := by
  simp [decisions, List.count_cons]

theorem call_lastHeartbeat (self : HeartbeatStore) (c : Call) :
    (self.call c).1.lastHeartbeat = c.recordedAt?.or self.lastHeartbeat := by
  cases c with
  | record now payload => rfl
  | isMissing now => rfl
  | shouldAlertMissing now =>
      rcases self.shouldAlertMissing_cases now with ⟨-, -, h⟩ | ⟨-, h⟩ <;>
        simp [call, h, Call.recordedAt?]

theorem call_threshold (self : HeartbeatStore) (c : Call) :
    (self.call c).1.threshold = self.threshold := by
  cases c with
  | record now payload => rfl
  | isMissing now => rfl
  | shouldAlertMissing now =>
      rcases self.shouldAlertMissing_cases now with ⟨-, -, h⟩ | ⟨-, h⟩ <;>
        simp [call, h, threshold]

theorem run_threshold (self : HeartbeatStore) (calls : List Call) :
    (Mealy.run call self calls).threshold = self.threshold :=
  Mealy.run_frame call threshold call_threshold self calls

theorem run_lastHeartbeat (self : HeartbeatStore) (calls : List Call) :
    (Mealy.run call self calls).lastHeartbeat = (lastRecord calls).or self.lastHeartbeat :=
  Mealy.run_lastWrite call lastHeartbeat Call.recordedAt? call_lastHeartbeat self calls

/-- The store of a fresh sentinel is missing heartbeats exactly in a silence. -/
theorem isMissing_run_iff (config : RemoteHeartbeatConfig) (calls : List Call) (now : ℤ) :
    (Mealy.run call (ofConfig config) calls).isMissing now = true ↔
      config.Silent (lastRecord calls) now := by
  have hlast := run_lastHeartbeat (ofConfig config) calls
  rw [isMissing_eq_true_iff, run_threshold, hlast]
  simp [RemoteHeartbeatConfig.Silent, ofConfig, threshold]

/-! ## One decision in a silence -/

section Span

variable {self : HeartbeatStore} {span : List Call}

theorem decisions_of_alerted (hself : self.alertedMissing = true)
    (hspan : ∀ c ∈ span, c.recordedAt? = none) : self.decisions span = 0 := by
  induction span with
  | nil => rfl
  | cons c span ih =>
      have hrest := ih fun d hd ↦ hspan d (by simp [hd])
      have hc := hspan c (by simp)
      cases c with
      | record now payload => simp [Call.recordedAt?] at hc
      | isMissing now => simpa [decisions_cons, call] using hrest
      | shouldAlertMissing now =>
          have hkeep : self.shouldAlertMissing now = (self, false) := by
            simp [shouldAlertMissing, hself]
          simpa [decisions_cons, call, hkeep] using hrest

/-- From a store that has not alerted, a span decides once if it evaluates a
missing heartbeat and never otherwise. -/
theorem decisions_of_not_alerted (hself : self.alertedMissing = false)
    (hspan : ∀ c ∈ span, c.recordedAt? = none) :
    self.decisions span ≤ 1 ∧
      ∀ now, .shouldAlertMissing now ∈ span → self.isMissing now = true →
        self.decisions span = 1 := by
  induction span with
  | nil => simp
  | cons c span ih =>
      have hspan' : ∀ d ∈ span, d.recordedAt? = none := fun d hd ↦ hspan d (by simp [hd])
      obtain ⟨hle, hone⟩ := ih hspan'
      have hc := hspan c (by simp)
      cases c with
      | record now payload => simp [Call.recordedAt?] at hc
      | isMissing now => simpa [decisions_cons, call] using ⟨hle, hone⟩
      | shouldAlertMissing now =>
          rcases self.shouldAlertMissing_cases now with ⟨-, -, h⟩ | ⟨hquiet, h⟩
          · have hafter : decisions { self with alertedMissing := true } span = 0 :=
              decisions_of_alerted rfl hspan'
            simp [decisions_cons, call, h, hafter]
          · have hnot : self.isMissing now = false := hquiet.resolve_right (by simp [hself])
            have hcount : self.decisions (.shouldAlertMissing now :: span) =
                self.decisions span := by simp [decisions_cons, call, h]
            rw [hcount]
            refine ⟨hle, ?_⟩
            intro now' hmem hmissing
            rcases List.mem_cons.mp hmem with heq | hmem
            · cases heq
              simp [hnot] at hmissing
            · exact hone now' hmem hmissing

end Span

/-- The calls end where a silence begins: at the start or just after a record. -/
def StartsSilence (calls : List Call) : Prop :=
  calls = [] ∨ ∃ earlier now payload, calls = earlier ++ [.record now payload]

theorem alertedMissing_of_startsSilence (config : RemoteHeartbeatConfig) {calls : List Call}
    (h : StartsSilence calls) :
    (Mealy.run call (ofConfig config) calls).alertedMissing = false := by
  rcases h with rfl | ⟨earlier, now, payload, rfl⟩
  · rfl
  · simp [call, record]

theorem silent_of_decided {config : RemoteHeartbeatConfig} {calls : List Call} {now : ℤ}
    (h : ((Mealy.run call (ofConfig config) calls).shouldAlertMissing now).2 = true) :
    config.Silent (lastRecord calls) now := by
  rw [← isMissing_run_iff]
  rcases (Mealy.run call (ofConfig config) calls).shouldAlertMissing_cases now with
    ⟨hmissing, -, -⟩ | ⟨-, hkeep⟩
  · exact hmissing
  · simp [hkeep] at h

/-- Between two records there is at most one decision, there is one as soon as a
silence is evaluated, and there is none outside a silence. -/
theorem one_decision_per_silence (config : RemoteHeartbeatConfig) (pre span : List Call)
    (hspan : ∀ c ∈ span, c.recordedAt? = none) :
    (Mealy.run call (ofConfig config) pre).decisions span ≤ 1 ∧
    (StartsSilence pre → ∀ now, .shouldAlertMissing now ∈ span →
      config.Silent (lastRecord pre) now →
      (Mealy.run call (ofConfig config) pre).decisions span = 1) ∧
    ∀ calls now,
      ((Mealy.run call (ofConfig config) calls).shouldAlertMissing now).2 = true →
      config.Silent (lastRecord calls) now := by
  refine ⟨?_, ?_, ?_⟩
  · cases halerted : (Mealy.run call (ofConfig config) pre).alertedMissing with
    | true =>
        have hnone := decisions_of_alerted halerted hspan
        omega
    | false => exact (decisions_of_not_alerted halerted hspan).1
  · intro hpre now hmem hsilent
    have halerted := alertedMissing_of_startsSilence config hpre
    exact (decisions_of_not_alerted halerted hspan).2 now hmem
      ((isMissing_run_iff config pre now).mpr hsilent)
  · exact fun _ _ hdecided ↦ silent_of_decided hdecided

/-- A heartbeat at 0 s, evaluated before and, twice, after the three minutes. -/
theorem one_decision_after_record :
    (Mealy.run call (ofConfig {})
      [.record 0 { timestamp := 0, wanStates := ∅, recentEvents := [] }]).decisions
        [.shouldAlertMissing 179000000, .isMissing 181000000, .shouldAlertMissing 182000000,
          .shouldAlertMissing 181000000] = 1 :=
  (one_decision_per_silence {} _ _ (by decide)).2.1 (Or.inr ⟨[], 0, _, rfl⟩) 181000000 (by simp)
    (by
      rintro t ⟨⟩
      decide)

end HeartbeatStore

end WanRouter
