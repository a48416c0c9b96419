import WanRouter.Local.SyslogReceiver

/-!
# Dispatch of the syslog events

What a stretch of a run of the receiver delivers and counts is determined by the
events that its datagrams parse to.  Stretches compose, so the account of a run
is the account of its steps.
-/

namespace WanRouter

open Mealy

/-- The event that a datagram parses to, if it parses to one. -/
def Datagram.event? (u : UnicodeData) (d : Datagram) : Option SyslogEvent :=
  match parseSyslogMessage u d.now d.later d.text with
  | .ok event => event
  | .error _ => none

def ReceiverEvent.parsed? (u : UnicodeData) : ReceiverEvent → Option SyslogEvent
  | .datagramReceived d => d.event? u
  | .resetCount => none

namespace ReceiverOutput

variable {κ : Type*}

def delivery? : ReceiverOutput κ → Option (κ × SyslogEvent)
  | .delivered callback event => some (callback, event)
  | _ => none

def count? : ReceiverOutput κ → Option ℕ
  | .count n => some n
  | _ => none

end ReceiverOutput

namespace SyslogReceiver

open ReceiverOutput

variable {κ : Type*} {u : UnicodeData} {m m' m'' : SyslogReceiver κ}
  {out out' : List (ReceiverOutput κ)} {ds ds' : List (κ × SyslogEvent)} {n n' : ℕ}

/-- A stretch from `m` to `m'` puts out `out`: its deliveries are `ds`, and the counts it
returns and the one it leaves are `n` above the count it found. -/
structure Accounts (m m' : SyslogReceiver κ) (ds : List (κ × SyslogEvent)) (n : ℕ)
    (out : List (ReceiverOutput κ)) : Prop where
  callbacks : m'.callbacks = m.callbacks
  delivered : out.filterMap delivery? = ds
  counted : (out.filterMap count?).sum + m'.messageCount = m.messageCount + n

theorem Accounts.append (h : Accounts m m' ds n out) (h' : Accounts m' m'' ds' n' out') :
    Accounts m m'' (ds ++ ds') (n + n') (out ++ out') where
  callbacks := h'.callbacks.trans h.callbacks
  delivered := by rw [List.filterMap_append, h.delivered, h'.delivered]
  counted := by
    have hfirst := h.counted
    have hsecond := h'.counted
    rw [List.filterMap_append, List.sum_append]
    omega

/-! ## The steps -/

theorem accounts_nil (m : SyslogReceiver κ) : Accounts m m [] 0 [] := ⟨rfl, rfl, by simp⟩

theorem accounts_error (m : SyslogReceiver κ) (text : String) :
    Accounts m m [] 0 [.error text] := ⟨rfl, rfl, Nat.zero_add _⟩

theorem accounts_delivered (m : SyslogReceiver κ) (c : κ) (event : SyslogEvent) :
    Accounts m m [(c, event)] 0 [.delivered c event] := ⟨rfl, rfl, Nat.zero_add _⟩

theorem accounts_resetCount (m : SyslogReceiver κ) :
    Accounts m m.resetCount.1 [] 0 [.count m.resetCount.2] where
  callbacks := rfl
  delivered := rfl
  counted := by simp [count?, resetCount]

theorem accounts_resetTimes (m : SyslogReceiver κ) (n : ℕ) :
    Accounts m (m.resetTimes n).1 [] 0 (m.resetTimes n).2 := by
  induction n generalizing m with
  | zero => exact accounts_nil m
  | succ n ih => exact (accounts_resetCount m).append (ih m.resetCount.1)

/-- The loop calls every callback once, whatever the ones before did. -/
theorem accounts_callEach (event : SyslogEvent) (m : SyslogReceiver κ)
    (reaction : ℕ → Reaction) (callbacks : List κ) :
    Accounts m (m.callEach event reaction callbacks).1 (callbacks.map fun c ↦ (c, event)) 0
      (m.callEach event reaction callbacks).2 := by
  induction callbacks generalizing m reaction with
  | nil => exact accounts_nil m
  | cons c callbacks ih =>
      let m' := (m.resetTimes (reaction 0).resets).1
      have hresets : Accounts m m' [] 0 (m.resetTimes (reaction 0).resets).2 :=
        accounts_resetTimes m _
      have herrors : Accounts m' m' [] 0
          ((reaction 0).raised.toList.map fun e ↦ .error ("Callback error: " ++ e)) := by
        cases (reaction 0).raised with
        | none => exact accounts_nil m'
        | some e => exact accounts_error m' _
      have hrest := ih m' fun i ↦ reaction (i + 1)
      exact (accounts_delivered m c event).append ((hresets.append herrors).append hrest)

theorem accounts_onEvent (m : SyslogReceiver κ) (event : SyslogEvent) (reaction : ℕ → Reaction) :
    Accounts m (m.onEvent event reaction).1 (m.callbacks.map fun c ↦ (c, event)) 1
      (m.onEvent event reaction).2 := by
  have h := accounts_callEach event { m with messageCount := m.messageCount + 1 } reaction
    m.callbacks
  exact ⟨h.callbacks, h.delivered, h.counted⟩

/-- The deliveries that a list of parsed events calls for. -/
def deliveries (m : SyslogReceiver κ) (parsed : List SyslogEvent) : List (κ × SyslogEvent) :=
  parsed.flatMap fun event ↦ m.callbacks.map fun c ↦ (c, event)

theorem accounts_step (m : SyslogReceiver κ) (e : ReceiverEvent) :
    Accounts m (step u m e).1 (m.deliveries (e.parsed? u).toList) (e.parsed? u).toList.length
      (step u m e).2 := by
  cases e with
  | resetCount => exact accounts_resetCount m
  | datagramReceived d =>
      cases hparse : parseSyslogMessage u d.now d.later d.text with
      | error e =>
          simp only [step, datagramReceived, ReceiverEvent.parsed?, Datagram.event?, hparse]
          exact accounts_error m _
      | ok event? =>
          simp only [step, datagramReceived, ReceiverEvent.parsed?, Datagram.event?, hparse]
          cases event? with
          | none => exact accounts_nil m
          | some event =>
              have h := accounts_onEvent m event d.reaction
              simpa [deliveries] using h

theorem accounts_run (m : SyslogReceiver κ) (es : List ReceiverEvent) :
    Accounts m (run (step u) m es) (m.deliveries (es.filterMap (·.parsed? u)))
      (es.filterMap (·.parsed? u)).length (outputs (step u) m es).flatten := by
  induction es generalizing m with
  | nil => exact accounts_nil m
  | cons e es ih =>
      have hstep := accounts_step (u := u) m e
      have hrest := ih (step u m e).1
      have hsplit : (e :: es).filterMap (·.parsed? u) =
          (e.parsed? u).toList ++ es.filterMap (·.parsed? u) := by
        cases hparsed : e.parsed? u <;> simp [hparsed]
      have hsame : (step u m e).1.deliveries = m.deliveries := by
        funext parsed
        rw [deliveries, deliveries, hstep.callbacks]
      rw [hsame] at hrest
      rw [hsplit, deliveries, List.flatMap_append, List.length_append]
      exact hstep.append hrest

/-! ## Delivery and count -/

/-- A new receiver with the callbacks registered in order. -/
def withCallbacks (callbacks : List κ) : SyslogReceiver κ := callbacks.foldl addCallback {}

theorem callbacks_foldl_addCallback (m : SyslogReceiver κ) (callbacks : List κ) :
    callbacks.foldl addCallback m = { m with callbacks := m.callbacks ++ callbacks } := by
  induction callbacks generalizing m with
  | nil => simp
  | cons c callbacks ih => simp [ih, addCallback]

theorem withCallbacks_eq (callbacks : List κ) :
    withCallbacks callbacks = { callbacks := callbacks, messageCount := 0 } :=
  callbacks_foldl_addCallback {} callbacks

/-- Every datagram that parses is delivered once to every callback, in order, nothing else is
delivered, and the counts that were returned and the one that is left add up to the number of
such datagrams. -/
theorem dispatch_exact (u : UnicodeData) (callbacks : List κ) (es : List ReceiverEvent) :
    let out := (outputs (step u) (withCallbacks callbacks) es).flatten
    let parsed := es.filterMap (·.parsed? u)
    out.filterMap delivery? = (parsed.flatMap fun e ↦ callbacks.map fun c ↦ (c, e)) ∧
      (out.filterMap count?).sum + (run (step u) (withCallbacks callbacks) es).messageCount =
        parsed.length := by
  rw [withCallbacks_eq]
  have h := accounts_run (u := u) { callbacks := callbacks, messageCount := 0 } es
  exact ⟨h.delivered, h.counted.trans (Nat.zero_add _)⟩

end SyslogReceiver

end WanRouter
