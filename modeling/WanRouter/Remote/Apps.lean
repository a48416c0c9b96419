import WanRouter.Lib.Machine
import WanRouter.Remote.HeartbeatStore

/-!
# The sentinel apps

The model of `create_app` in `remote/heartbeat_receiver.py`.  Stores are objects,
referred to by their index.  The handlers of every app read the module variable
`_store`, which each call of `create_app` rebinds, so all apps are served from the
store of the app created last.
-/

namespace WanRouter

structure HeartbeatResponse where
  status : String
  receivedAt : ℤ
  deriving DecidableEq

structure HealthResponse where
  status : String
  lastHeartbeat : Option ℤ
  heartbeatMissing : Bool
  deriving DecidableEq

/-- The module `remote.heartbeat_receiver` and the stores alive in the process. -/
structure ReceiverModule where
  objects : List HeartbeatStore
  /-- The global `_store`. -/
  store : Option ℕ := none
  /-- The store of each app created so far; no handler reads it. -/
  apps : List ℕ := []

inductive AppEvent where
  | createApp (store : Option ℕ)
  | heartbeat (app : ℕ) (now receivedAt : ℤ) (payload : HeartbeatPayload)
  | health (app : ℕ) (now : ℤ)

inductive AppOutput where
  | received (response : HeartbeatResponse)
  | reported (response : HealthResponse)
  deriving DecidableEq

namespace ReceiverModule

/-- Without an argument `create_app` makes a new store. -/
def createApp (self : ReceiverModule) : Option ℕ → ReceiverModule
  | some store => { self with store := some store, apps := self.apps ++ [store] }
  | none =>
      { objects := self.objects ++ [{}]
        store := some self.objects.length
        apps := self.apps ++ [self.objects.length] }

def receiveHeartbeat (self : ReceiverModule) (now receivedAt : ℤ) (payload : HeartbeatPayload) :
    Option (ReceiverModule × HeartbeatResponse) :=
  self.store.map fun store ↦
    ({ self with objects := self.objects.modify store (·.record now payload) },
      { status := "ok", receivedAt := receivedAt })

def health (self : ReceiverModule) (now : ℤ) : Option HealthResponse :=
  (self.store.bind (self.objects[·]?)).map fun store ↦
    { status := "ok"
      lastHeartbeat := store.lastHeartbeat
      heartbeatMissing := store.isMissing now }

/-- The requests go to apps that exist, and `create_app` is given stores that exist. -/
def step (self : ReceiverModule) : AppEvent → Option (ReceiverModule × List AppOutput)
  | .createApp store =>
      if ∀ ref ∈ store, ref < self.objects.length then some (self.createApp store, []) else none
  | .heartbeat app now receivedAt payload =>
      if app < self.apps.length then
        (self.receiveHeartbeat now receivedAt payload).map fun p ↦ (p.1, [.received p.2])
      else none
  | .health app now =>
      if app < self.apps.length then
        (self.health now).map fun response ↦ (self, [.reported response])
      else none

/-! ## The store behind the apps -/

/-- The global refers to the store of the app created last. -/
structure LatestStore (m : ReceiverModule) : Prop where
  store : m.store = m.apps.getLast?
  apps : ∀ ref ∈ m.apps, ref < m.objects.length

variable {m m' : ReceiverModule} {e : AppEvent} {out : List AppOutput}

theorem LatestStore.createApp (h : LatestStore m) {store : Option ℕ}
    (hstore : ∀ ref ∈ store, ref < m.objects.length) : LatestStore (m.createApp store) := by
  cases store with
  | none =>
      refine ⟨by simp [ReceiverModule.createApp], ?_⟩
      intro ref href
      have hlt : ref ∈ m.apps ∨ ref = m.objects.length := by
        simpa [ReceiverModule.createApp] using href
      rw [ReceiverModule.createApp, List.length_append, List.length_singleton]
      rcases hlt with hold | rfl
      · exact Nat.lt_succ_of_lt (h.apps ref hold)
      · exact Nat.lt_succ_self _
  | some store =>
      refine ⟨by simp [ReceiverModule.createApp], ?_⟩
      intro ref href
      have hlt : ref ∈ m.apps ∨ ref = store := by
        simpa [ReceiverModule.createApp] using href
      rcases hlt with hold | rfl
      · exact h.apps ref hold
      · exact hstore ref rfl

theorem LatestStore.step (h : LatestStore m) (hstep : step m e = some (m', out)) :
    LatestStore m' := by
  cases e with
  | createApp store =>
      simp only [ReceiverModule.step, Option.ite_none_right_eq_some] at hstep
      obtain ⟨hstore, heq⟩ := hstep
      cases heq
      exact h.createApp hstore
  | heartbeat app now receivedAt payload =>
      simp only [ReceiverModule.step, Option.ite_none_right_eq_some, Option.map_eq_some_iff,
        receiveHeartbeat] at hstep
      obtain ⟨-, p, ⟨ref, -, rfl⟩, heq⟩ := hstep
      cases heq
      refine ⟨h.store, ?_⟩
      intro other hother
      rw [List.length_modify]
      exact h.apps other hother
  | health app now =>
      simp only [ReceiverModule.step, Option.ite_none_right_eq_some,
        Option.map_eq_some_iff] at hstep
      obtain ⟨-, response, -, heq⟩ := hstep
      cases heq
      exact h

theorem latestStore_run {objects : List HeartbeatStore} {es : List AppEvent}
    (hrun : Machine.run step { objects := objects } es = some (m, out)) : LatestStore m := by
  refine Machine.run_induction step (P := fun _ m _ ↦ LatestStore m) ⟨rfl, by simp⟩ ?_ es m out
    hrun
  intro es m out e t o _ hm hlast
  exact hm.step hlast

/-! ## Which app is served from its own store -/

/-- A heartbeat sent to the app is recorded in its own store and changes the store of no
other app, and the health of the app is that of its own store. -/
def ServesOwnStore (self : ReceiverModule) (app : ℕ) : Prop :=
  ∀ ref store, self.apps[app]? = some ref → self.objects[ref]? = some store →
    (∀ now receivedAt payload, ∃ m',
      self.step (.heartbeat app now receivedAt payload) =
        some (m', [.received { status := "ok", receivedAt := receivedAt }]) ∧
      m'.objects[ref]? = some (store.record now payload) ∧
      ∀ other ∈ self.apps, other ≠ ref → m'.objects[other]? = self.objects[other]?) ∧
    ∀ now, self.step (.health app now) =
      some (self, [.reported
        { status := "ok"
          lastHeartbeat := store.lastHeartbeat
          heartbeatMissing := store.isMissing now }])

theorem servesOwnStore_of_store {app ref : ℕ} (hstore : m.store = some ref)
    (happ : m.apps[app]? = some ref) : ServesOwnStore m app := by
  intro ref' store href hobject
  obtain rfl : ref = ref' := Option.some.inj (happ.symm.trans href)
  have hlt : app < m.apps.length := (List.getElem?_eq_some_iff.mp happ).1
  refine ⟨?_, ?_⟩
  · intro now receivedAt payload
    refine ⟨{ m with objects := m.objects.modify ref (·.record now payload) }, ?_, ?_, ?_⟩
    · simp [step, receiveHeartbeat, hstore, hlt]
    · simp [hobject]
    · intro other _ hne
      simp [Ne.symm hne]
  · intro now
    simp [step, health, hstore, hlt, hobject]

/-- A heartbeat leaves every store alone to which the global does not refer. -/
theorem store_of_servesOwnStore {app ref current : ℕ} {store : HeartbeatStore}
    (hstore : m.store = some current) (happ : m.apps[app]? = some ref)
    (hobject : m.objects[ref]? = some store) (h : ServesOwnStore m app) : current = ref := by
  by_contra hne
  have hlt : app < m.apps.length := (List.getElem?_eq_some_iff.mp happ).1
  have hunchanged : ∀ now, some store = some (store.record now
      (HeartbeatPayload.mk 0 ∅ [] "0.1.0")) := by
    intro now
    obtain ⟨m', hstep, hrecorded, -⟩ :=
      (h ref store happ hobject).1 now 0 (HeartbeatPayload.mk 0 ∅ [] "0.1.0")
    simp only [step, if_pos hlt, receiveHeartbeat, hstore, Option.map_some, Option.some.injEq,
      Prod.mk.injEq] at hstep
    obtain ⟨rfl, -⟩ := hstep
    rw [← hrecorded]
    simp [hne, hobject]
  have hzero := congrArg (Option.bind · HeartbeatStore.lastHeartbeat) (hunchanged 0)
  have hone := congrArg (Option.bind · HeartbeatStore.lastHeartbeat) (hunchanged 1)
  rw [hzero] at hone
  exact absurd hone (by simp [HeartbeatStore.record])

/-- With distinct stores an app is served from its own store exactly while it is the app
created last. -/
theorem serves_own_store_iff_latest {objects : List HeartbeatStore} {es : List AppEvent}
    (hrun : Machine.run step { objects := objects } es = some (m, out))
    (hdistinct : m.apps.Nodup) {app : ℕ} (happ : app < m.apps.length) :
    ServesOwnStore m app ↔ app + 1 = m.apps.length := by
  have hlatest := latestStore_run hrun
  have hne : m.apps ≠ [] := List.ne_nil_of_length_pos (Nat.zero_lt_of_lt happ)
  have hstore : m.store = some (m.apps.getLast hne) := by
    rw [hlatest.store, List.getLast?_eq_some_getLast hne]
  have hget : m.apps[app]? = some m.apps[app] := List.getElem?_eq_getElem happ
  constructor
  · intro h
    have hlt := hlatest.apps m.apps[app] (List.getElem_mem happ)
    have heq := store_of_servesOwnStore hstore hget (List.getElem?_eq_getElem hlt) h
    rw [List.getLast_eq_getElem, hdistinct.getElem_inj_iff] at heq
    omega
  · intro h
    have hlast : m.apps.getLast hne = m.apps[app] := by
      rw [List.getLast_eq_getElem]
      congr 1
      omega
    exact servesOwnStore_of_store hstore (hlast ▸ hget)

theorem single_app_serves_own_store :
    ∃ m out, Machine.run step { objects := [{}] } [.createApp (some 0)] = some (m, out) ∧
      (ServesOwnStore m 0 ↔ 0 + 1 = m.apps.length) ∧ ServesOwnStore m 0 := by
  have hrun : ∃ m out,
      Machine.run step { objects := [{}] } [.createApp (some 0)] = some (m, out) ∧
        m.apps = [0] := ⟨_, _, rfl, rfl⟩
  obtain ⟨m, out, hrun, happs⟩ := hrun
  have h : ServesOwnStore m 0 ↔ 0 + 1 = m.apps.length :=
    serves_own_store_iff_latest hrun (by simp [happs]) (by simp [happs])
  exact ⟨m, out, hrun, h, h.mpr (by simp [happs])⟩

/-- A heartbeat sent to the first of two apps is recorded in the store of the second. -/
theorem first_of_two_apps_not_served :
    ∃ m out, Machine.run step { objects := [{}, {}] }
        [.createApp (some 0), .createApp (some 1)] = some (m, out) ∧
      m.apps = [0, 1] ∧ ¬ServesOwnStore m 0 := by
  refine ⟨_, _, rfl, rfl, ?_⟩
  intro h
  have hcurrent : (1 : ℕ) = 0 := store_of_servesOwnStore rfl rfl rfl h
  omega

example :
    (Machine.run step { objects := [{}, {}] }
      [.createApp (some 0), .createApp (some 1),
        .heartbeat 0 5 5 { timestamp := 5, wanStates := ∅, recentEvents := [] },
        .health 0 5]).map (fun p ↦
          (p.1.objects.map HeartbeatStore.lastHeartbeat, p.2)) =
      some ([none, some 5],
        [.received { status := "ok", receivedAt := 5 },
          .reported { status := "ok", lastHeartbeat := some 5, heartbeatMissing := false }]) := by
  decide

end ReceiverModule

end WanRouter
