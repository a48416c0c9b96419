import WanRouter.Lib.Machine
import Mathlib.Algebra.Order.Ring.Int
import Mathlib.Data.List.Pairwise
import Mathlib.Tactic.Linarith
import Mathlib.Tactic.Ring

/-!
# Machines in real time

Some steps of a machine belong to a task that sleeps from time to time.  A timed run
gives every step its time, on a clock that does not go back, and the task does not
go on before its sleep is over.  So what it does once between two sleeps happens at
times that are spaced like the sleeps.  If its steps are moreover prompt, the task
makes a whole lap, from one sleep to the next, whenever enough time has passed.
-/

namespace TimedMachine

/-- A machine with a task.  A step of the task that leaves it asleep tells for how long. -/
structure Task (σ ε ω : Type*) where
  step : σ → ε → Option (σ × List ω)
  own : ε → Bool
  asleep : σ → Bool
  pause : σ → List ω → ℤ

structure Timed (σ : Type*) where
  state : σ
  clock : ℤ
  /-- The task does not go on before this time. -/
  wake : ℤ

structure Entry (ε ω : Type*) where
  time : ℤ
  event : ε
  outputs : List ω

variable {σ ε ω : Type*}

def start (s : σ) (now : ℤ) : Timed σ := ⟨s, now, now⟩

def outputs (log : List (Entry ε ω)) : List ω := log.flatMap Entry.outputs

/-- The times of the marks that the steps set. -/
def times (mark : ε → List ω → ℕ) (log : List (Entry ε ω)) : List ℤ :=
  log.flatMap fun x ↦ List.replicate (mark x.event x.outputs) x.time

namespace Task

variable (k : Task σ ε ω)

/-- The wake time after a step that the task made at `now`. -/
def nextWake (s : σ) (out : List ω) (now : ℤ) : ℤ :=
  if k.asleep s then now + k.pause s out else now

def timedStep (s : Timed σ) (p : ℤ × ε) : Option (Timed σ × List (Entry ε ω)) :=
  if s.clock ≤ p.1 ∧ (k.own p.2 = true → s.wake ≤ p.1) then
    (k.step s.state p.2).map fun q ↦
      (⟨q.1, p.1, if k.own p.2 then k.nextWake q.1 q.2 p.1 else s.wake⟩, [⟨p.1, p.2, q.2⟩])
  else none

/-- No step comes more than `lag` after the task could go on: the task is not kept waiting. -/
def Prompt (lag : ℤ) (s : Timed σ) (es : List (ℤ × ε)) : Prop :=
  Machine.Along k.timedStep (fun s p ↦ p.1 ≤ s.wake + lag) s es

instance (lag : ℤ) (s : Timed σ) (es : List (ℤ × ε)) : Decidable (k.Prompt lag s es) :=
  inferInstanceAs (Decidable (Machine.Along k.timedStep (fun s p ↦ p.1 ≤ s.wake + lag) s es))

/-! ## What a step can do -/

inductive Transition (s : Timed σ) : ℤ × ε → Timed σ → List (Entry ε ω) → Prop
  | own {now : ℤ} {e : ε} {t : σ} {o : List ω} (hown : k.own e = true) (hclock : s.clock ≤ now)
      (hwake : s.wake ≤ now) (hstep : k.step s.state e = some (t, o)) :
      Transition s (now, e) ⟨t, now, k.nextWake t o now⟩ [⟨now, e, o⟩]
  | other {now : ℤ} {e : ε} {t : σ} {o : List ω} (hother : k.own e = false)
      (hclock : s.clock ≤ now) (hstep : k.step s.state e = some (t, o)) :
      Transition s (now, e) ⟨t, now, s.wake⟩ [⟨now, e, o⟩]

variable {k} {s t : Timed σ} {p : ℤ × ε} {es : List (ℤ × ε)} {log l : List (Entry ε ω)}

theorem transition_of_step (h : k.timedStep s p = some (t, l)) : k.Transition s p t l := by
  obtain ⟨now, e⟩ := p
  rw [timedStep] at h
  split_ifs at h with hguard hown
  · obtain ⟨⟨t', o⟩, hstep, heq⟩ := Option.map_eq_some_iff.mp h
    cases heq
    exact .own hown hguard.1 (hguard.2 hown) hstep
  · obtain ⟨⟨t', o⟩, hstep, heq⟩ := Option.map_eq_some_iff.mp h
    cases heq
    exact .other (Bool.eq_false_iff.mpr hown) hguard.1 hstep

theorem Transition.untimed (h : k.Transition s p t l) :
    k.step s.state p.2 = some (t.state, outputs l) := by
  cases h with
  | own hown hclock hwake hstep => simpa [outputs] using hstep
  | other hother hclock hstep => simpa [outputs] using hstep

theorem Transition.clock_eq (h : k.Transition s p t l) : t.clock = p.1 := by
  cases h <;> rfl

theorem Transition.clock_le (h : k.Transition s p t l) : s.clock ≤ t.clock := by
  cases h with
  | own hown hclock hwake hstep => exact hclock
  | other hother hclock hstep => exact hclock

theorem outputs_append (log l : List (Entry ε ω)) :
    outputs (log ++ l) = outputs log ++ outputs l := List.flatMap_append

theorem times_append (mark : ε → List ω → ℕ) (log l : List (Entry ε ω)) :
    times mark (log ++ l) = times mark log ++ times mark l := List.flatMap_append

/-- Without its times a timed run is a run of the machine. -/
theorem run_untimed (hrun : Machine.run k.timedStep s es = some (t, log)) :
    Machine.run k.step s.state (es.map Prod.snd) = some (t.state, outputs log) := by
  refine Machine.run_induction k.timedStep
    (P := fun es t log ↦ Machine.run k.step s.state (es.map Prod.snd) =
      some (t.state, outputs log)) rfl ?_ es t log hrun
  intro es m log p t l _ ih hstep
  rw [List.map_append, List.map_singleton, Machine.run_append_eq_some]
  refine ⟨m.state, outputs log, outputs l, ih, ?_, outputs_append log l⟩
  rw [Machine.run_singleton]
  exact (transition_of_step hstep).untimed

/-! ## Spacing -/

/-- Facts about the steps of the task in states with an invariant. -/
structure Regular (k : Task σ ε ω) (I : σ → Prop) : Prop where
  keeps : ∀ {s e t o}, I s → k.step s e = some (t, o) → I t
  asleep_eq : ∀ {s e t o}, k.own e = false → k.step s e = some (t, o) → k.asleep t = k.asleep s

/-- The task sets at most one mark between two sleeps, which are at least `gap` long.  The
budget says whether the mark may still come. -/
structure MarksOnce (k : Task σ ε ω) (I : σ → Prop) (mark : ε → List ω → ℕ)
    (budget : σ → ℕ) (gap : ℤ) : Prop extends Regular k I where
  other : ∀ {s e t o}, I s → k.own e = false → k.step s e = some (t, o) →
    mark e o = 0 ∧ budget t ≤ budget s
  begins : ∀ {s e t o}, I s → k.asleep s = true → k.own e = true → k.step s e = some (t, o) →
    mark e o + budget t ≤ 1
  continues : ∀ {s e t o}, I s → k.asleep s = false → k.own e = true →
    k.step s e = some (t, o) → mark e o + budget t ≤ budget s
  gap_le : ∀ {s e t o}, I s → k.own e = true → k.step s e = some (t, o) →
    k.asleep t = true → gap ≤ k.pause t o

/-- The times of the marks so far, and how the next one is kept away from them. -/
structure Spaced (k : Task σ ε ω) (I : σ → Prop) (budget : σ → ℕ) (gap : ℤ) (s : Timed σ)
    (marked : List ℤ) : Prop where
  inv : I s.state
  pairwise : marked.Pairwise fun a b ↦ a + gap ≤ b
  past : ∀ a ∈ marked, a ≤ s.clock
  asleep : k.asleep s.state = true → ∀ a ∈ marked, a + gap ≤ s.wake
  budget_le : k.asleep s.state = false → budget s.state ≤ 1
  awake : k.asleep s.state = false → budget s.state ≠ 0 → ∀ a ∈ marked, a + gap ≤ s.clock

variable {I : σ → Prop} {mark : ε → List ω → ℕ} {budget : σ → ℕ} {gap : ℤ}
  {marked : List ℤ}

/-- What a step of the task needs: a new mark is `gap` after the others, and then none follows. -/
theorem Spaced.own (h : Spaced k I budget gap s marked) {now : ℤ} {t : σ} {o : List ω}
    {n : ℕ} (hI : I t) (hclock : s.clock ≤ now) (hn : n + budget t ≤ 1)
    (hnew : n + budget t ≠ 0 → ∀ a ∈ marked, a + gap ≤ now)
    (hpause : k.asleep t = true → gap ≤ k.pause t o) :
    Spaced k I budget gap ⟨t, now, k.nextWake t o now⟩ (marked ++ List.replicate n now) := by
  have hpast : ∀ a ∈ marked ++ List.replicate n now, a ≤ now := by
    intro a ha
    rcases List.mem_append.mp ha with ha | ha
    · exact (h.past a ha).trans hclock
    · exact (List.eq_of_mem_replicate ha).le
  refine ⟨hI, ?_, hpast, ?_, fun _ ↦ (Nat.le_add_left _ _).trans hn, ?_⟩
  · rw [List.pairwise_append]
    refine ⟨h.pairwise, List.pairwise_replicate.mpr (Or.inl (by omega)), ?_⟩
    intro a ha b hb
    obtain ⟨hne, rfl⟩ := List.mem_replicate.mp hb
    exact hnew (by omega) a ha
  · intro hasleep a ha
    have hle := hpast a ha
    have hlong := hpause hasleep
    simp only [nextWake, hasleep, if_true]
    omega
  · intro _ hbudget a ha
    change budget t ≠ 0 at hbudget
    rcases List.mem_append.mp ha with ha | ha
    · exact hnew (by omega) a ha
    · exact absurd (List.mem_replicate.mp ha).1 (by omega)

theorem times_entry (now : ℤ) (e : ε) (o : List ω) :
    times mark [(⟨now, e, o⟩ : Entry ε ω)] = List.replicate (mark e o) now :=
  List.flatMap_singleton ..

theorem Spaced.step (h : Spaced k I budget gap s marked)
    (hmarks : k.MarksOnce I mark budget gap) (htrans : k.Transition s p t l) :
    Spaced k I budget gap t (marked ++ times mark l) := by
  cases htrans with
  | @own now e t o hown hclock hwake hstep =>
      rw [times_entry]
      have hI := hmarks.keeps h.inv hstep
      have hpause := hmarks.gap_le h.inv hown hstep
      cases hasleep : k.asleep s.state with
      | true =>
          apply h.own hI hclock (hmarks.begins h.inv hasleep hown hstep) ?_ hpause
          exact fun _ a ha ↦ (h.asleep hasleep a ha).trans hwake
      | false =>
          have hle := hmarks.continues h.inv hasleep hown hstep
          apply h.own hI hclock (hle.trans (h.budget_le hasleep)) ?_ hpause
          exact fun hne a ha ↦ (h.awake hasleep (by omega) a ha).trans hclock
  | @other now e t o hother hclock hstep =>
      obtain ⟨hmark, hbudget⟩ := hmarks.other h.inv hother hstep
      have hsame := hmarks.asleep_eq hother hstep
      rw [times_entry, hmark, List.replicate_zero, List.append_nil]
      refine ⟨hmarks.keeps h.inv hstep, h.pairwise, fun a ha ↦ (h.past a ha).trans hclock,
        fun hasleep ↦ h.asleep (hsame ▸ hasleep),
        fun hawake ↦ hbudget.trans (h.budget_le (hsame ▸ hawake)), ?_⟩
      intro hawake hne a ha
      change budget t ≠ 0 at hne
      exact (h.awake (hsame ▸ hawake) (by omega) a ha).trans hclock

/-- The marks of a run are spaced like the sleeps of the task. -/
theorem MarksOnce.pairwise_times (hmarks : k.MarksOnce I mark budget gap) {init : σ}
    {begin : ℤ} (hI : I init) (hasleep : k.asleep init = true)
    (hrun : Machine.run k.timedStep (start init begin) es = some (t, log)) :
    (times mark log).Pairwise fun a b ↦ a + gap ≤ b := by
  have hspaced : Spaced k I budget gap t (times mark log) := by
    refine Machine.run_induction k.timedStep
      (P := fun _ t log ↦ Spaced k I budget gap t (times mark log)) ?_ ?_ es t log hrun
    · refine ⟨hI, List.Pairwise.nil, by simp [times], by simp [times], ?_, by simp [times]⟩
      intro hawake
      exact absurd (hasleep.symm.trans hawake) Bool.true_eq_false.mp
    · intro es m log p t l _ ih hstep
      rw [times_append]
      exact ih.step hmarks (transition_of_step hstep)
  exact hspaced.pairwise

/-- Times between `a` and `b` that are spaced by `gap`. -/
theorem length_mul_gap_le {a b : ℤ} {ts : List ℤ} (hts : ts.Pairwise fun x y ↦ x + gap ≤ y)
    (hmem : ∀ x ∈ ts, a ≤ x ∧ x ≤ b) (hne : ts ≠ []) : (ts.length - 1) * gap ≤ b - a := by
  induction ts generalizing a with
  | nil => exact absurd rfl hne
  | cons x ts ih =>
      obtain ⟨hfirst, hrest⟩ := List.pairwise_cons.mp hts
      have hx := hmem x List.mem_cons_self
      rcases eq_or_ne ts [] with rfl | hts'
      · simp only [List.length_singleton, Nat.cast_one, sub_self, zero_mul]
        omega
      · have hle := ih hrest (a := x + gap)
          (fun y hy ↦ ⟨hfirst y hy, (hmem y (List.mem_cons_of_mem x hy)).2⟩) hts'
        rw [List.length_cons, Nat.cast_add_one]
        linarith

/-- How many of the times lie in a window. -/
theorem length_window_le {ts : List ℤ} (hts : ts.Pairwise fun x y ↦ x + gap ≤ y)
    (hgap : 0 < gap) (a : ℤ) {width : ℤ} (hwidth : 0 ≤ width) :
    ((ts.filter fun x ↦ a ≤ x ∧ x ≤ a + width).length : ℤ) ≤ width / gap + 1 := by
  rcases eq_or_ne (ts.filter fun x ↦ a ≤ x ∧ x ≤ a + width) [] with hnil | hne
  · rw [hnil, List.length_nil, Nat.cast_zero]
    have hdiv := Int.ediv_nonneg hwidth hgap.le
    omega
  · have hle := length_mul_gap_le (a := a) (b := a + width) (hts.filter _)
      (fun x hx ↦ by simpa using (List.mem_filter.mp hx).2) hne
    have hdiv := (Int.le_ediv_iff_mul_le hgap).mpr (hle.trans_eq (add_sub_cancel_left a width))
    omega

/-! ## Laps -/

/-- A lap of the task has fewer than `most` steps after its first one, which its work counts
down, and it is followed by a sleep that is not longer than `longest`. -/
structure Works (k : Task σ ε ω) (I : σ → Prop) (work : σ → ℕ) (most : ℕ) (longest : ℤ) : Prop
    extends Regular k I where
  work_other : ∀ {s e t o}, I s → k.own e = false → k.step s e = some (t, o) → work t = work s
  work_own : ∀ {s e t o}, I s → k.asleep s = false → k.own e = true →
    k.step s e = some (t, o) → work t < work s
  work_lt : ∀ {s}, I s → k.asleep s = false → work s < most
  pause_mem : ∀ {s e t o}, I s → k.own e = true → k.step s e = some (t, o) →
    k.asleep t = true → 0 ≤ k.pause t o ∧ k.pause t o ≤ longest
  longest_nonneg : 0 ≤ longest

/-- What holds of a prompt run at any time. -/
structure Steady (k : Task σ ε ω) (I : σ → Prop) (longest lag : ℤ) (s : Timed σ) : Prop where
  inv : I s.state
  clock_le : s.clock ≤ s.wake + lag
  wake_le : s.wake ≤ s.clock + longest
  wake_le_of_awake : k.asleep s.state = false → s.wake ≤ s.clock

/-- After the time `T` the task has begun a lap and is still at work, or has just fallen asleep. -/
inductive InLap (k : Task σ ε ω) (T : ℤ) (s₀ : σ) : List (ℤ × ε) → σ → List ω → Prop
  | begin {es : List (ℤ × ε)} {s t : σ} {now : ℤ} {e : ε} {out o : List ω}
      (hbefore : Machine.run k.step s₀ (es.map Prod.snd) = some (s, out)) (hlate : T < now)
      (hown : k.own e = true) (hasleep : k.asleep s = true) (hstep : k.step s e = some (t, o)) :
      InLap k T s₀ (es ++ [(now, e)]) t (out ++ o)
  | go {es : List (ℤ × ε)} {s t : σ} {p : ℤ × ε} {out o : List ω} (h : InLap k T s₀ es s out)
      (hawake : k.asleep s = false) (hstep : k.step s p.2 = some (t, o)) :
      InLap k T s₀ (es ++ [p]) t (out ++ o)

/-- The task has made a whole lap after the time `T`. -/
inductive LapMade (k : Task σ ε ω) (T : ℤ) (s₀ : σ) : List (ℤ × ε) → σ → List ω → Prop
  | made {es : List (ℤ × ε)} {s : σ} {out : List ω} (h : InLap k T s₀ es s out)
      (hasleep : k.asleep s = true) : LapMade k T s₀ es s out
  | go {es : List (ℤ × ε)} {s t : σ} {p : ℤ × ε} {out o : List ω} (h : LapMade k T s₀ es s out)
      (hstep : k.step s p.2 = some (t, o)) : LapMade k T s₀ (es ++ [p]) t (out ++ o)

/-- How long each part of the way to a whole lap can take. -/
inductive Stage (k : Task σ ε ω) (work : σ → ℕ) (most : ℕ) (longest lag T : ℤ) (s₀ : σ) :
    List (ℤ × ε) → Timed σ → List (Entry ε ω) → Prop
  | before {es : List (ℤ × ε)} {s : Timed σ} {log : List (Entry ε ω)}
      (hawake : k.asleep s.state = false → s.wake + work s.state * lag ≤ T + most * lag)
      (hasleep : k.asleep s.state = true → s.wake ≤ T + longest + most * lag) :
      Stage k work most longest lag T s₀ es s log
  | inLap {es : List (ℤ × ε)} {s : Timed σ} {log : List (Entry ε ω)}
      (h : InLap k T s₀ es s.state (outputs log)) (hawake : k.asleep s.state = false)
      (hwork : s.wake + work s.state * lag ≤ T + longest + 2 * most * lag) :
      Stage k work most longest lag T s₀ es s log
  | made {es : List (ℤ × ε)} {s : Timed σ} {log : List (Entry ε ω)}
      (h : LapMade k T s₀ es s.state (outputs log)) : Stage k work most longest lag T s₀ es s log

variable {work : σ → ℕ} {most : ℕ} {longest lag T : ℤ} {s₀ : σ}

theorem Steady.step (h : Steady k I longest lag s) (hworks : k.Works I work most longest)
    (hlag : 0 ≤ lag) (htrans : k.Transition s p t l) (hprompt : p.1 ≤ s.wake + lag) :
    Steady k I longest lag t := by
  cases htrans with
  | @own now e t o hown hclock hwake hstep =>
      have hlongest := hworks.longest_nonneg
      cases hasleep : k.asleep t with
      | true =>
          obtain ⟨hnonneg, hle⟩ := hworks.pause_mem h.inv hown hstep hasleep
          refine ⟨hworks.keeps h.inv hstep, ?_, ?_, fun hawake ↦ ?_⟩
          · simp only [nextWake, hasleep, if_true]
            omega
          · simp only [nextWake, hasleep, if_true]
            omega
          · exact absurd (hasleep.symm.trans hawake) Bool.true_eq_false.mp
      | false =>
          refine ⟨hworks.keeps h.inv hstep, ?_, ?_, fun _ ↦ ?_⟩ <;>
            simp only [nextWake, hasleep, if_false, Bool.false_eq_true] <;> omega
  | @other now e t o hother hclock hstep =>
      have hsame := hworks.asleep_eq hother hstep
      refine ⟨hworks.keeps h.inv hstep, hprompt, ?_, ?_⟩
      · have hle := h.wake_le
        change s.wake ≤ now + longest
        omega
      · exact fun hawake ↦ (h.wake_le_of_awake (hsame ▸ hawake)).trans hclock

/-- One more step of the task is worth one more `lag`. -/
theorem add_mul_lag_le {m n : ℕ} (h : m < n) (hlag : 0 ≤ lag) :
    lag + (m : ℤ) * lag ≤ n * lag := by
  have hle : ((m + 1 : ℕ) : ℤ) * lag ≤ n * lag :=
    mul_le_mul_of_nonneg_right (Int.ofNat_le.mpr h) hlag
  rw [Nat.cast_add_one, add_one_mul] at hle
  omega

/-- A state at a time that is not after `T`. -/
theorem Steady.stage (h : Steady k I longest lag t) (hworks : k.Works I work most longest)
    (hlag : 0 ≤ lag) (hT : t.clock ≤ T) : Stage k work most longest lag T s₀ es t log := by
  have hmost : 0 ≤ (most : ℤ) * lag := mul_nonneg (Int.natCast_nonneg most) hlag
  refine .before (fun hawake ↦ ?_) (fun _ ↦ ?_)
  · have hle := h.wake_le_of_awake hawake
    have hlt := add_mul_lag_le (hworks.work_lt h.inv hawake) hlag
    omega
  · have hle := h.wake_le
    omega

theorem nextWake_of_asleep {u : σ} (h : k.asleep u = true) (o : List ω) (now : ℤ) :
    k.nextWake u o now = now + k.pause u o := if_pos h

theorem nextWake_of_awake {u : σ} (h : k.asleep u = false) (o : List ω) (now : ℤ) :
    k.nextWake u o now = now := if_neg (by simp [h])

/-- The step with which the task begins a lap. -/
theorem Stage.begin (hworks : k.Works I work most longest) (hlag : 0 ≤ lag) {now : ℤ} {e : ε}
    {u : σ} {o : List ω} (hI : I u)
    (hbefore : Machine.run k.step s₀ (es.map Prod.snd) = some (s.state, outputs log))
    (hlate : T < now) (hown : k.own e = true) (hasleep : k.asleep s.state = true)
    (hstep : k.step s.state e = some (u, o)) (hnow : now ≤ T + longest + most * lag + lag) :
    Stage k work most longest lag T s₀ (es ++ [(now, e)]) ⟨u, now, k.nextWake u o now⟩
      (log ++ [⟨now, e, o⟩]) := by
  have hlap : InLap k T s₀ (es ++ [(now, e)]) u (outputs (log ++ [⟨now, e, o⟩])) := by
    rw [outputs_append, show outputs [(⟨now, e, o⟩ : Entry ε ω)] = o by simp [outputs]]
    exact .begin hbefore hlate hown hasleep hstep
  cases hu : k.asleep u with
  | true => exact .made (.made hlap hu)
  | false =>
      refine .inLap hlap hu ?_
      have hlt := add_mul_lag_le (hworks.work_lt hI hu) hlag
      rw [nextWake_of_awake hu]
      linarith

/-- The steps that belong to a lap. -/
theorem Stage.goOn (hworks : k.Works I work most longest) (hlag : 0 ≤ lag)
    (hs : Steady k I longest lag s) (h : InLap k T s₀ es s.state (outputs log))
    (hawake : k.asleep s.state = false)
    (hwork : s.wake + work s.state * lag ≤ T + longest + 2 * most * lag)
    (htrans : k.Transition s p t l) (hprompt : p.1 ≤ s.wake + lag) :
    Stage k work most longest lag T s₀ (es ++ [p]) t (log ++ l) := by
  have hlap : InLap k T s₀ (es ++ [p]) t.state (outputs (log ++ l)) := by
    rw [outputs_append]
    exact .go h hawake htrans.untimed
  cases htrans with
  | @own now e u o hown hclock hwake hstep =>
      cases hu : k.asleep u with
      | true => exact .made (.made hlap hu)
      | false =>
          refine .inLap hlap hu ?_
          have hlt := add_mul_lag_le (hworks.work_own hs.inv hawake hown hstep) hlag
          rw [nextWake_of_awake hu]
          change now + work u * lag ≤ _
          change now ≤ _ at hprompt
          omega
  | @other now e u o hother hclock hstep =>
      refine .inLap hlap ((hworks.asleep_eq hother hstep).trans hawake) ?_
      rw [hworks.work_other hs.inv hother hstep]
      exact hwork

theorem Stage.step (h : Stage k work most longest lag T s₀ es s log)
    (hworks : k.Works I work most longest) (hlag : 0 ≤ lag) (hs : Steady k I longest lag s)
    (hbefore : Machine.run k.step s₀ (es.map Prod.snd) = some (s.state, outputs log))
    (htrans : k.Transition s p t l) (hprompt : p.1 ≤ s.wake + lag) :
    Stage k work most longest lag T s₀ (es ++ [p]) t (log ++ l) := by
  cases h with
  | inLap h hawake hwork => exact goOn hworks hlag hs h hawake hwork htrans hprompt
  | made h =>
      refine .made ?_
      rw [outputs_append]
      exact .go h htrans.untimed
  | before hawake hasleep =>
      have ht := hs.step hworks hlag htrans hprompt
      rcases le_or_gt p.1 T with hearly | hlate
      · exact ht.stage hworks hlag (htrans.clock_eq.trans_le hearly)
      · cases htrans with
        | @own now e u o hown hclock hwake hstep =>
            change now ≤ _ at hprompt
            cases hs' : k.asleep s.state with
            | true =>
                have hle := hasleep hs'
                exact begin hworks hlag ht.inv hbefore hlate hown hs' hstep (by omega)
            | false =>
                -- The lap that is not over yet began before `T`.
                have hle := hawake hs'
                have hlt := add_mul_lag_le (hworks.work_own hs.inv hs' hown hstep) hlag
                have hnonneg : 0 ≤ (work u : ℤ) * lag :=
                  mul_nonneg (Int.natCast_nonneg _) hlag
                refine .before (fun hu ↦ ?_) (fun hu ↦ ?_)
                · rw [nextWake_of_awake hu]
                  change now + work u * lag ≤ _
                  omega
                · have hpause := (hworks.pause_mem hs.inv hown hstep hu).2
                  rw [nextWake_of_asleep hu]
                  change now + k.pause u o ≤ _
                  omega
        | @other now e u o hother hclock hstep =>
            have hsame := hworks.asleep_eq hother hstep
            refine .before (fun hu ↦ ?_) (fun hu ↦ hasleep (hsame ▸ hu))
            rw [hworks.work_other hs.inv hother hstep]
            exact hawake (hsame ▸ hu)

theorem steady_start (hworks : k.Works I work most longest) (hlag : 0 ≤ lag) {u : σ} (hI : I u)
    (now : ℤ) : Steady k I longest lag (start u now) :=
  ⟨hI, le_add_of_nonneg_right hlag, le_add_of_nonneg_right hworks.longest_nonneg, fun _ ↦ le_rfl⟩

theorem Steady.run (h : Steady k I longest lag s) (hworks : k.Works I work most longest)
    (hlag : 0 ≤ lag) (hrun : Machine.run k.timedStep s es = some (t, log))
    (hprompt : k.Prompt lag s es) : Steady k I longest lag t := by
  refine Machine.run_induction_along k.timedStep (P := fun _ t _ ↦ Steady k I longest lag t) h ?_
    hrun hprompt
  intro es m log p t l _ ih hok hstep
  exact ih.step hworks hlag (transition_of_step hstep) hok

/-- When the clock shows so late a time, a prompt task has made a whole lap after `T`. -/
theorem Works.lapMade (hworks : k.Works I work most longest) (hlag : 0 ≤ lag)
    (hs : Steady k I longest lag s) (hT : s.clock ≤ T)
    (hrun : Machine.run k.timedStep s es = some (t, log)) (hprompt : k.Prompt lag s es)
    (hlate : T + longest + (2 * most + 1) * lag < t.clock) :
    LapMade k T s.state es t.state (outputs log) := by
  have ht := hs.run hworks hlag hrun hprompt
  have hstage : Stage k work most longest lag T s.state es t log := by
    have hboth : Steady k I longest lag t ∧
        Stage k work most longest lag T s.state es t log := by
      refine Machine.run_induction_along k.timedStep
        (P := fun es t log ↦ Steady k I longest lag t ∧
          Stage k work most longest lag T s.state es t log)
        ⟨hs, hs.stage hworks hlag hT⟩ ?_ hrun hprompt
      intro es m log p t l hbefore ih hok hstep
      have htrans := transition_of_step hstep
      exact ⟨ih.1.step hworks hlag htrans hok,
        ih.2.step hworks hlag ih.1 (run_untimed hbefore) htrans hok⟩
    exact hboth.2
  have hclock := ht.clock_le
  have hlongest := hworks.longest_nonneg
  have hmost : 0 ≤ (most : ℤ) * lag := mul_nonneg (Int.natCast_nonneg most) hlag
  have hnonneg : 0 ≤ (work t.state : ℤ) * lag := mul_nonneg (Int.natCast_nonneg _) hlag
  have hbound : T + longest + (2 * most + 1) * lag = T + longest + 2 * (most * lag) + lag := by
    ring
  rw [hbound] at hlate
  cases hstage with
  | made h => exact h
  | inLap h hawake hwork =>
      rw [mul_assoc] at hwork
      omega
  | before hawake hasleep =>
      cases hcase : k.asleep t.state with
      | true =>
          have hle := hasleep hcase
          omega
      | false =>
          have hle := hawake hcase
          omega

end Task

end TimedMachine
