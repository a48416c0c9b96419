import WanRouter.Lib.EdgeDetector
import WanRouter.Shared.Models

/-!
# The SNMP poller

The model of `SNMPPoller` in `local/snmp_poller.py`.  A poll reads the clock
once and makes one `get_cmd` request for the next hop and one for each
configured interface; what the requests give is an argument of the poll.
-/

namespace WanRouter

open OrderedDict EdgeDetector

/-- The value of one variable binding: its text, and its `int(...)` unless that raises. -/
structure VarBind where
  prettyPrint : String
  toInt? : Option ℤ := none
  deriving DecidableEq

inductive GetCmdReply where
  | raised
  | answered (errorIndication : Option String) (errorStatus : ℤ) (varBinds : List VarBind)
  deriving DecidableEq

/-- `{gw: name for name, gw in wan_gateways.items()}`. -/
def invertGateways (wanGateways : Dict String String) : Dict String String :=
  Dict.ofList (wanGateways.items.map fun p ↦ (p.2, p.1))

structure SNMPPoller where
  wanGateways : Dict String String
  wanInterfaces : Dict String ℤ := ∅
  gatewayToWan : Dict String String := invertGateways wanGateways
  lastStates : Dict String WANState := ∅
  lastUnknownGateway : Option String := none
  gatewayToWan_eq : gatewayToWan = invertGateways wanGateways := by rfl

/-- What the router answers during one poll. -/
structure PollInput where
  now : ℤ
  nextHop : GetCmdReply
  links : String → GetCmdReply := fun _ ↦ .raised

namespace SNMPPoller

def getNextHop : GetCmdReply → Option String
  | .raised => none
  | .answered errorIndication errorStatus varBinds =>
      if errorIndication.isSome ∨ errorStatus ≠ 0 then none
      else varBinds.head?.map VarBind.prettyPrint

/-- The next hop the router answered.  An empty text is falsy, so it is no answer. -/
def answeredHop (reply : GetCmdReply) : Option String := (getNextHop reply).filter (· ≠ "")

/-- The inner loop of `_get_if_oper_status`; a failing `int(...)` ends it. -/
def recordLink (name : String) (results : Dict String Bool) : List VarBind → Dict String Bool
  | [] => results
  | varBind :: rest =>
      match varBind.toInt? with
      | some status => recordLink name (results.set name (status = 1)) rest
      | none => results

def getIfOperStatus (self : SNMPPoller) (links : String → GetCmdReply) : Dict String Bool :=
  self.wanInterfaces.keys.foldl (fun results name ↦
    match links name with
    | .raised => results
    | .answered errorIndication errorStatus varBinds =>
        if errorIndication.isSome ∨ errorStatus ≠ 0 then results
        else recordLink name results varBinds) ∅

def activeWan (self : SNMPPoller) (nextHop : Option String) : Option String :=
  match nextHop with
  | some hop => if hop = "" then none else self.gatewayToWan.get? hop
  | none => none

def unknownGateway (nextHop activeWan : Option String) : Option String :=
  match nextHop with
  | some hop => if hop ≠ "" ∧ activeWan.getD "" = "" then some hop else none
  | none => none

/-- The start of the current status period: kept while the status does not change. -/
def carriedSince (lastStates : Dict String WANState) (name : String)
    (status : InterfaceStatus) (now : ℤ) : ℤ :=
  match lastStates.get? name with
  | some previous => if previous.status = status then previous.since else now
  | none => now

def wanState (self : SNMPPoller) (input : PollInput) (name : String) : WANState :=
  let status : InterfaceStatus :=
    if self.activeWan (getNextHop input.nextHop) = some name then .up else .down
  { interface := name
    status := status
    since := carriedSince self.lastStates name status input.now
    linkUp := (self.getIfOperStatus input.links).get? name }

/-- The states of one poll. -/
def states (self : SNMPPoller) (input : PollInput) : Dict String WANState :=
  self.wanGateways.mapItems fun name _gateway ↦ self.wanState input name

def poll (self : SNMPPoller) (input : PollInput) : SNMPPoller × Dict String WANState :=
  let nextHop := getNextHop input.nextHop
  ({ self with
      lastStates := self.states input
      lastUnknownGateway := unknownGateway nextHop (self.activeWan nextHop) },
    self.states input)

/-! ## What a poll reports -/

@[simp] theorem keys_states (self : SNMPPoller) (input : PollInput) :
    (self.states input).keys = self.wanGateways.keys := Dict.keys_mapItems _ _

theorem get?_states (self : SNMPPoller) (input : PollInput) {name : String}
    (h : name ∈ self.wanGateways.keys) :
    (self.states input).get? name = some (self.wanState input name) := by
  obtain ⟨gateway, hg⟩ := Dict.exists_get?_of_mem_keys h
  rw [states, Dict.get?_mapItems, hg]
  rfl

theorem values_states (self : SNMPPoller) (input : PollInput) :
    (self.states input).values = self.wanGateways.keys.map (self.wanState input) := by
  rw [states, Dict.values_mapItems, Dict.keys, List.map_map]
  rfl

@[simp] theorem map_interface_wanState (self : SNMPPoller) (input : PollInput)
    (names : List String) :
    (names.map (self.wanState input)).map WANState.interface = names := by
  rw [List.map_map]
  exact List.map_id names

theorem nodup_values_interface (self : SNMPPoller) (input : PollInput) :
    ((self.states input).values.map WANState.interface).Nodup := by
  rw [values_states, map_interface_wanState]
  exact self.wanGateways.keys_nodup

theorem wanState_status (self : SNMPPoller) (input : PollInput) (name : String) :
    (self.wanState input name).status =
      indicator .up .down (self.activeWan (getNextHop input.nextHop)) name := rfl

theorem wanState_status_ne_unknown (self : SNMPPoller) (input : PollInput) (name : String) :
    (self.wanState input name).status ≠ .unknown := by
  rw [wanState_status, indicator]
  split_ifs <;> simp

/-- Two pollers with the same map resolve a next hop alike. -/
theorem activeWan_congr {p q : SNMPPoller} (h : p.wanGateways = q.wanGateways)
    (nextHop : Option String) : p.activeWan nextHop = q.activeWan nextHop := by
  unfold activeWan
  rw [p.gatewayToWan_eq, q.gatewayToWan_eq, h]

theorem activeWan_mem_keys (self : SNMPPoller) {nextHop : Option String} {name : String}
    (h : self.activeWan nextHop = some name) : name ∈ self.wanGateways.keys := by
  cases nextHop with
  | none => simp [activeWan] at h
  | some hop =>
      by_cases hhop : hop = ""
      · simp [activeWan, hhop] at h
      · simp only [activeWan, if_neg hhop, self.gatewayToWan_eq, invertGateways] at h
        obtain ⟨p, hp, hpe⟩ := List.mem_map.mp (Dict.mem_of_get?_ofList h)
        cases hpe
        exact List.mem_map.mpr ⟨p, hp, rfl⟩

/-- With distinct addresses the inverted map finds the WAN of every gateway. -/
theorem activeWan_of_gateway (self : SNMPPoller) (hdistinct : self.wanGateways.values.Nodup)
    {name gateway : String} (h : self.wanGateways.get? name = some gateway)
    (hgateway : gateway ≠ "") : self.activeWan (some gateway) = some name := by
  rw [activeWan]
  simp only [if_neg hgateway, self.gatewayToWan_eq, invertGateways]
  apply Dict.get?_ofList_of_nodup
  · simpa [Function.comp_def, Dict.values] using hdistinct
  · exact List.mem_map.mpr ⟨(name, gateway), Dict.get?_eq_some_iff.mp h, rfl⟩

theorem activeWan_of_answered (self : SNMPPoller) (hdistinct : self.wanGateways.values.Nodup)
    {name gateway : String} (h : self.wanGateways.get? name = some gateway)
    {reply : GetCmdReply} (hreply : answeredHop reply = some gateway) :
    self.activeWan (getNextHop reply) = some name := by
  obtain ⟨hhop, hne⟩ := Option.filter_eq_some_iff.mp hreply
  rw [hhop]
  exact self.activeWan_of_gateway hdistinct h (by simpa using hne)

/-! ## The WAN that is UP -/

def reportsUp (states : Dict String WANState) (name : String) : Prop :=
  (states.get? name).map WANState.status = some .up

theorem reportsUp_states_iff (self : SNMPPoller) (input : PollInput) (name : String) :
    reportsUp (self.states input) name ↔
      self.activeWan (getNextHop input.nextHop) = some name := by
  constructor
  · intro h
    have hmem : name ∈ self.wanGateways.keys := by
      by_contra hno
      have hnone := Dict.get?_eq_none_iff.mpr ((self.keys_states input).symm ▸ hno)
      simp [reportsUp, hnone] at h
    rw [reportsUp, self.get?_states input hmem, Option.map_some, Option.some.injEq,
      wanState_status] at h
    exact (indicator_eq_on_iff (by decide) _ _).mp h
  · intro h
    rw [reportsUp, self.get?_states input (self.activeWan_mem_keys h), Option.map_some,
      wanState_status, indicator_of_eq h]

end SNMPPoller

end WanRouter
