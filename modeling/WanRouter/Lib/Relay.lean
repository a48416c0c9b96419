import Mathlib.Algebra.Order.Group.Multiset
import WanRouter.Lib.Simulation

/-!
# A sender, a lossy network and a receiver

Two machines and the messages in flight between them.  Some outputs of the sender
are messages; the network delivers them late, in any order, or not at all, but
never twice.  The arrival of a message is an event of the receiver, which may
carry more than the message, such as a reading of the receiver's clock.

What the two machines do in a run is a run of each of them, and what arrived or
was lost or is still in flight is what was sent.
-/

namespace Relay

open Machine

variable {σ τ ε δ ω χ μ ι : Type*}

structure Parties (σ τ ε δ ω χ μ ι : Type*) where
  sender : σ → ε → Option (σ × List ω)
  receiver : τ → δ → Option (τ × List χ)
  message? : ω → Option μ
  arrival : ι → μ → δ
  /-- The events of the receiver that are not arrivals. -/
  isOwn : δ → Bool

structure State (σ τ μ : Type*) where
  sender : σ
  receiver : τ
  inFlight : List μ

inductive Event (ε δ ι : Type*) where
  | sender (e : ε)
  | receiver (e : δ)
  | deliver (i : ℕ) (x : ι)
  | lose (i : ℕ)

inductive Output (ω χ : Type*) where
  | sender (o : ω)
  | receiver (o : χ)

namespace Output

def sender? : Output ω χ → Option ω
  | .sender o => some o
  | .receiver _ => none

def receiver? : Output ω χ → Option χ
  | .sender _ => none
  | .receiver o => some o

theorem filterMap_sender? (o : List ω) :
    (o.map (Output.sender : ω → Output ω χ)).filterMap sender? = o := by
  simp [List.filterMap_map, Function.comp_def, sender?]

theorem filterMap_receiver? (o : List χ) :
    (o.map (Output.receiver : χ → Output ω χ)).filterMap receiver? = o := by
  simp [List.filterMap_map, Function.comp_def, receiver?]

theorem filterMap_sender?_receiver (o : List χ) :
    (o.map (Output.receiver : χ → Output ω χ)).filterMap sender? = [] := by
  simp [sender?]

theorem filterMap_receiver?_sender (o : List ω) :
    (o.map (Output.sender : ω → Output ω χ)).filterMap receiver? = [] := by
  simp [receiver?]

end Output

variable (p : Parties σ τ ε δ ω χ μ ι)

def step (s : State σ τ μ) : Event ε δ ι → Option (State σ τ μ × List (Output ω χ))
  | .sender e =>
      (p.sender s.sender e).map fun q ↦
        ({ s with sender := q.1, inFlight := s.inFlight ++ q.2.filterMap p.message? },
          q.2.map .sender)
  | .receiver e =>
      if p.isOwn e then
        (p.receiver s.receiver e).map fun q ↦ ({ s with receiver := q.1 }, q.2.map .receiver)
      else none
  | .deliver i x =>
      match s.inFlight[i]? with
      | some message =>
          (p.receiver s.receiver (p.arrival x message)).map fun q ↦
            ({ s with receiver := q.1, inFlight := s.inFlight.eraseIdx i }, q.2.map .receiver)
      | none => none
  | .lose i =>
      if i < s.inFlight.length then some ({ s with inFlight := s.inFlight.eraseIdx i }, [])
      else none

/-! ## What a step can do -/

inductive Transition (s : State σ τ μ) :
    Event ε δ ι → State σ τ μ → List (Output ω χ) → Prop
  | sender (e : ε) {m : σ} {o : List ω} (hstep : p.sender s.sender e = some (m, o)) :
      Transition s (.sender e)
        { s with sender := m, inFlight := s.inFlight ++ o.filterMap p.message? } (o.map .sender)
  | receiver (e : δ) {m : τ} {o : List χ} (hown : p.isOwn e = true)
      (hstep : p.receiver s.receiver e = some (m, o)) :
      Transition s (.receiver e) { s with receiver := m } (o.map .receiver)
  | deliver (i : ℕ) (x : ι) {message : μ} {m : τ} {o : List χ}
      (hmessage : s.inFlight[i]? = some message)
      (hstep : p.receiver s.receiver (p.arrival x message) = some (m, o)) :
      Transition s (.deliver i x)
        { s with receiver := m, inFlight := s.inFlight.eraseIdx i } (o.map .receiver)
  | lose (i : ℕ) (hi : i < s.inFlight.length) :
      Transition s (.lose i) { s with inFlight := s.inFlight.eraseIdx i } []

variable {p} {s t : State σ τ μ} {e : Event ε δ ι} {es : List (Event ε δ ι)}
  {o out : List (Output ω χ)}

theorem transition_of_step (h : step p s e = some (t, o)) : Transition p s e t o := by
  cases e with
  | sender e =>
      obtain ⟨⟨m, o'⟩, hstep, heq⟩ := Option.map_eq_some_iff.mp h
      cases heq
      exact .sender e hstep
  | receiver e =>
      rw [step, Option.ite_none_right_eq_some] at h
      obtain ⟨hown, h⟩ := h
      obtain ⟨⟨m, o'⟩, hstep, heq⟩ := Option.map_eq_some_iff.mp h
      cases heq
      exact .receiver e hown hstep
  | deliver i x =>
      cases hmessage : s.inFlight[i]? with
      | none => simp [step, hmessage] at h
      | some message =>
          simp only [step, hmessage] at h
          obtain ⟨⟨m, o'⟩, hstep, heq⟩ := Option.map_eq_some_iff.mp h
          cases heq
          exact .deliver i x hmessage hstep
  | lose i =>
      rw [step, Option.ite_none_right_eq_some] at h
      obtain ⟨hi, heq⟩ := h
      cases heq
      exact .lose i hi

/-! ## The two machines in a run -/

def senderEvents (es : List (Event ε δ ι)) : List ε :=
  es.filterMap fun
    | .sender e => some e
    | _ => none

variable (p) in
/-- What a step is for the receiver. -/
def toReceiver (s : State σ τ μ) : Event ε δ ι → List δ
  | .sender _ => []
  | .receiver e => if p.isOwn e then [e] else []
  | .deliver i x => s.inFlight[i]?.toList.map (p.arrival x)
  | .lose _ => []

variable (p) in
def receiverEvents (s : State σ τ μ) (es : List (Event ε δ ι)) : List δ :=
  translated (step p) (toReceiver p) s es

/-- The sender runs as if it were alone. -/
theorem run_sender (hrun : run (step p) s es = some (t, out)) :
    run p.sender s.sender (senderEvents es) = some (t.sender, out.filterMap Output.sender?) := by
  refine run_induction (step p)
    (P := fun es t out ↦ run p.sender s.sender (senderEvents es) =
      some (t.sender, out.filterMap Output.sender?)) rfl ?_ es t out hrun
  intro es m out e t o _ ih hstep
  rw [senderEvents, List.filterMap_append, ← senderEvents, List.filterMap_append]
  cases transition_of_step hstep with
  | sender e hsender =>
      rw [Output.filterMap_sender?]
      exact (run_append_eq_some p.sender).mpr
        ⟨_, _, _, ih, (run_singleton p.sender _ e).trans hsender, rfl⟩
  | receiver e hown hreceiver =>
      rw [Output.filterMap_sender?_receiver, List.append_nil]
      exact (congrArg _ (List.append_nil _)).trans ih
  | deliver i x hmessage hreceiver =>
      rw [Output.filterMap_sender?_receiver, List.append_nil]
      exact (congrArg _ (List.append_nil _)).trans ih
  | lose i hi => exact (congrArg _ (List.append_nil _)).trans (by rw [ih, List.filterMap_nil,
      List.append_nil])

/-- The receiver runs as if its arrivals came from nowhere. -/
theorem run_receiver (hrun : run (step p) s es = some (t, out)) :
    run p.receiver s.receiver (receiverEvents p s es) =
      some (t.receiver, out.filterMap Output.receiver?) := by
  have hanswer : ∀ (s : State σ τ μ) (s' : τ) (e : Event ε δ ι) (t : State σ τ μ)
      (o : List (Output ω χ)), s.receiver = s' → step p s e = some (t, o) →
      ∃ t' o', run p.receiver s' (toReceiver p s e) = some (t', o') ∧ t.receiver = t' ∧
        o.filterMap Output.receiver? = o'.filterMap some := by
    rintro s _ e t o rfl hstep
    cases transition_of_step hstep with
    | sender e hsender => exact ⟨_, [], rfl, rfl, Output.filterMap_receiver?_sender _⟩
    | @receiver e m o hown hreceiver =>
        refine ⟨m, o, ?_, rfl, ?_⟩
        · rw [toReceiver, if_pos hown]
          exact (run_singleton p.receiver _ e).trans hreceiver
        · rw [Output.filterMap_receiver?, List.filterMap_some]
    | @deliver i x message m o hmessage hreceiver =>
        refine ⟨m, o, ?_, rfl, ?_⟩
        · rw [toReceiver, hmessage]
          exact (run_singleton p.receiver _ _).trans hreceiver
        · rw [Output.filterMap_receiver?, List.filterMap_some]
    | lose i hi => exact ⟨_, [], rfl, rfl, rfl⟩
  obtain ⟨t', out', hrun', rfl, hsame⟩ := run_simulation hanswer rfl hrun
  rw [receiverEvents, hrun', hsame, List.filterMap_some]

/-! ## The messages of a run -/

variable (p) in
def sent (out : List (Output ω χ)) : List μ :=
  (out.filterMap Output.sender?).filterMap p.message?

/-- The messages that a step delivers, or loses. -/
def deliveredBy (s : State σ τ μ) : Event ε δ ι → List μ
  | .sender _ => []
  | .receiver _ => []
  | .deliver i _ => s.inFlight[i]?.toList
  | .lose _ => []

def lostBy (s : State σ τ μ) : Event ε δ ι → List μ
  | .sender _ => []
  | .receiver _ => []
  | .deliver _ _ => []
  | .lose i => s.inFlight[i]?.toList

variable (p) in
def delivered (s : State σ τ μ) (es : List (Event ε δ ι)) : List μ :=
  translated (step p) deliveredBy s es

variable (p) in
def lost (s : State σ τ μ) (es : List (Event ε δ ι)) : List μ :=
  translated (step p) lostBy s es

theorem sent_append (out o : List (Output ω χ)) : sent p (out ++ o) = sent p out ++ sent p o := by
  simp [sent]

theorem sent_map_sender (o : List ω) :
    sent p (o.map .sender) = o.filterMap p.message? := by
  rw [sent, Output.filterMap_sender?]

theorem sent_map_receiver (o : List χ) : sent p (o.map .receiver) = [] := by
  rw [sent, Output.filterMap_sender?_receiver, List.filterMap_nil]

theorem toList_add_eraseIdx (l : List μ) (i : ℕ) :
    (l[i]?.toList : Multiset μ) + l.eraseIdx i = l := by
  by_cases hi : i < l.length
  · rw [List.getElem?_eq_getElem hi, Option.toList_some, Multiset.coe_add]
    exact Multiset.coe_eq_coe.mpr (List.getElem_cons_eraseIdx_perm hi)
  · rw [List.getElem?_eq_none (Nat.not_lt.mp hi), List.eraseIdx_of_length_le (Nat.not_lt.mp hi),
      Option.toList_none, Multiset.coe_nil, zero_add]

/-- One step moves messages from the sender to the network and from there out of it. -/
theorem step_conserves (hstep : step p s e = some (t, o)) :
    (s.inFlight : Multiset μ) + sent p o = deliveredBy s e + lostBy s e + t.inFlight := by
  cases transition_of_step hstep with
  | sender e hsender =>
      rw [sent_map_sender, Multiset.coe_add, deliveredBy, lostBy, Multiset.coe_nil, zero_add,
        zero_add]
  | receiver e hown hreceiver =>
      rw [sent_map_receiver, deliveredBy, lostBy, Multiset.coe_nil, add_zero, zero_add, zero_add]
  | deliver i x hmessage hreceiver =>
      rw [sent_map_receiver, deliveredBy, lostBy, Multiset.coe_nil, add_zero, add_zero,
        toList_add_eraseIdx]
  | lose i hi =>
      rw [sent, List.filterMap_nil, List.filterMap_nil, deliveredBy, lostBy, Multiset.coe_nil,
        add_zero, zero_add, toList_add_eraseIdx]

/-- What was sent is what was delivered or lost or is in flight, each message once. -/
theorem run_conserves (hs : s.inFlight = []) (hrun : run (step p) s es = some (t, out)) :
    (sent p out : Multiset μ) = delivered p s es + lost p s es + t.inFlight := by
  refine run_induction (step p)
    (P := fun es t out ↦
      (sent p out : Multiset μ) = delivered p s es + lost p s es + t.inFlight)
    ?_ ?_ es t out hrun
  · rw [hs]
    rfl
  · intro es m out e t o hbefore ih hstep
    have hdelivered : delivered p s (es ++ [e]) = delivered p s es ++ deliveredBy m e :=
      translated_concat _ _ hbefore hstep
    have hlost : lost p s (es ++ [e]) = lost p s es ++ lostBy m e :=
      translated_concat _ _ hbefore hstep
    calc (sent p (out ++ o) : Multiset μ)
        = delivered p s es + lost p s es + m.inFlight + sent p o := by
          rw [sent_append, ← Multiset.coe_add, ih]
      _ = delivered p s es + lost p s es + (m.inFlight + sent p o) := add_assoc _ _ _
      _ = delivered p s es + lost p s es + (deliveredBy m e + lostBy m e + t.inFlight) := by
          rw [step_conserves hstep]
      _ = (delivered p s es + deliveredBy m e) + (lost p s es + lostBy m e) + t.inFlight := by
          rw [← add_assoc, add_add_add_comm]
      _ = delivered p s (es ++ [e]) + lost p s (es ++ [e]) + t.inFlight := by
          rw [hdelivered, hlost, Multiset.coe_add, Multiset.coe_add]

/-- A message in flight was sent. -/
theorem mem_sent_of_mem_inFlight (hs : s.inFlight = [])
    (hrun : run (step p) s es = some (t, out)) {message : μ} (h : message ∈ t.inFlight) :
    message ∈ sent p out := by
  have hmem : message ∈ (sent p out : Multiset μ) := by
    rw [run_conserves hs hrun, Multiset.mem_add]
    exact Or.inr h
  exact hmem

/-- A message in flight was put out by a step of the sender. -/
theorem exists_sender_of_mem_inFlight (hs : s.inFlight = [])
    (hrun : run (step p) s es = some (t, out)) {message : μ} (h : message ∈ t.inFlight) :
    ∃ pre e post n o n' o', es = pre ++ .sender e :: post ∧ run (step p) s pre = some (n, o) ∧
      p.sender n.sender e = some (n', o') ∧ message ∈ o'.filterMap p.message? := by
  obtain ⟨output, houtput, hmessage⟩ :=
    List.mem_filterMap.mp (mem_sent_of_mem_inFlight hs hrun h)
  obtain ⟨output', hmem, hsender⟩ := List.mem_filterMap.mp houtput
  obtain ⟨pre, e, post, n, o, n', o', rfl, hpre, hstep, hin⟩ :=
    exists_step_of_mem_run (step p) hrun hmem
  have hshown : output ∈ o'.filterMap Output.sender? := List.mem_filterMap.mpr ⟨_, hin, hsender⟩
  cases transition_of_step hstep with
  | sender e hlocal =>
      rw [Output.filterMap_sender?] at hshown
      exact ⟨pre, e, post, n, o, _, _, rfl, hpre, hlocal,
        List.mem_filterMap.mpr ⟨output, hshown, hmessage⟩⟩
  | receiver e hown hreceiver =>
      rw [Output.filterMap_sender?_receiver] at hshown
      exact (List.not_mem_nil hshown).elim
  | deliver i x hflight hreceiver =>
      rw [Output.filterMap_sender?_receiver] at hshown
      exact (List.not_mem_nil hshown).elim
  | lose i hi => exact (List.not_mem_nil hshown).elim

/-- What the receiver takes in was sent and then delivered. -/
theorem sent_before_received {message? : δ → Option μ}
    (harrival : ∀ x m, message? (p.arrival x m) = some m)
    (hown : ∀ e, p.isOwn e = true → message? e = none) (hs : s.inFlight = [])
    (hrun : run (step p) s es = some (t, out)) {received : δ}
    (h : received ∈ receiverEvents p s es) {message : μ}
    (hmessage : message? received = some message) :
    ∃ pre e mid i x post n o n' o',
      es = pre ++ .sender e :: (mid ++ .deliver i x :: post) ∧ received = p.arrival x message ∧
      run (step p) s pre = some (n, o) ∧ p.sender n.sender e = some (n', o') ∧
      message ∈ o'.filterMap p.message? := by
  obtain ⟨before, e, post, m, o, rfl, hbefore, hmem⟩ := exists_step_of_mem_translated _ _ hrun h
  cases e with
  | sender e => exact (List.not_mem_nil hmem).elim
  | lose i => exact (List.not_mem_nil hmem).elim
  | receiver e =>
      -- The receiver takes in nothing by itself.
      rw [toReceiver] at hmem
      split_ifs at hmem with he
      · obtain rfl := List.mem_singleton.mp hmem
        rw [hown _ he] at hmessage
        cases hmessage
      · exact (List.not_mem_nil hmem).elim
  | deliver i x =>
      obtain ⟨arrived, hflight, rfl⟩ := List.mem_map.mp hmem
      rw [harrival] at hmessage
      obtain rfl := Option.some.inj hmessage
      obtain ⟨pre, e, mid, n, o, n', o', rfl, hpre, hsender, hput⟩ :=
        exists_sender_of_mem_inFlight hs hbefore
          (List.mem_of_getElem? (Option.mem_toList.mp hflight))
      exact ⟨pre, e, mid, i, x, post, n, o, n', o', by simp, rfl, hpre, hsender, hput⟩

end Relay
