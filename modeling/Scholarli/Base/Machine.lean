/-!
# Event-driven machines

A machine is a set of initial states and a partial step function: `step s e`
is `none` when the event `e` cannot happen in `s`, or when the program traps
while handling it. The same definition is replayed on concrete events and
reasoned about over all of them.

* `Reaches ok s` — `s` ends some run all of whose steps satisfy `ok`, a
  condition on the state before the step and the event. `Reachable` is the
  unconditional case.
* `Reaches.invariant` — the one induction over runs: an invariant that holds
  initially and survives every step that satisfies `ok`.
* `recording` — the machine with a ghost component that is computed from the
  steps taken and never read by them.
* `run`/`runUnder` — replay of a list of events, the second one checking a
  condition before each step; `after` is the state a replay ends in.
-/

namespace Scholarli.Base

/-- Initial states and a partial step function. -/
structure Machine (σ ε : Type) where
  init : σ → Prop
  step : σ → ε → Option σ

namespace Machine

variable {σ ε γ : Type} {M : Machine σ ε} {ok : σ → ε → Prop}

/-- The states at the end of the runs whose steps all satisfy `ok`. -/
inductive Reaches (M : Machine σ ε) (ok : σ → ε → Prop) : σ → Prop
  | init {s : σ} (h : M.init s) : Reaches M ok s
  | step {s s' : σ} {e : ε} (hs : Reaches M ok s) (hok : ok s e)
      (h : M.step s e = some s') : Reaches M ok s'

/-- The states at the end of any run. -/
def Reachable (M : Machine σ ε) : σ → Prop := M.Reaches fun _ _ => True

/-- **Invariant rule.** What holds initially and survives every admissible
step holds at the end of every admissible run. -/
theorem Reaches.invariant {P : σ → Prop} (hinit : ∀ s, M.init s → P s)
    (hstep : ∀ s e s', P s → ok s e → M.step s e = some s' → P s')
    {s : σ} (h : M.Reaches ok s) : P s := by
  induction h with
  | init h => exact hinit _ h
  | step _ hok h ih => exact hstep _ _ _ ih hok h

/-- Fewer conditions admit more runs. -/
theorem Reaches.mono {ok' : σ → ε → Prop} (himp : ∀ s e, ok s e → ok' s e) {s : σ}
    (h : M.Reaches ok s) : M.Reaches ok' s := by
  induction h with
  | init h => exact .init h
  | step _ hok h ih => exact ih.step (himp _ _ hok) h

/-- An admissible run is a run. -/
theorem Reaches.reachable {s : σ} (h : M.Reaches ok s) : M.Reachable s :=
  h.mono fun _ _ _ => trivial

/-- The machine with a ghost component, updated by `record` from the state
before each step. -/
def recording (M : Machine σ ε) (start : γ) (record : σ → ε → γ → γ) :
    Machine (σ × γ) ε where
  init p := M.init p.1 ∧ p.2 = start
  step p e := (M.step p.1 e).map fun s' => (s', record p.1 e p.2)

/-- Replay the events from `s`. -/
def run (M : Machine σ ε) (s : σ) : List ε → Option σ
  | [] => some s
  | e :: es => (M.step s e).bind fun s' => M.run s' es

/-- What a replay preserves step by step it preserves as a whole. -/
theorem run_invariant {P : σ → Prop}
    (hstep : ∀ s e s', P s → M.step s e = some s' → P s') :
    ∀ (es : List ε) {s s' : σ}, P s → M.run s es = some s' → P s'
  | [], s, s', hs, h => by
    obtain rfl := Option.some.inj h
    exact hs
  | e :: es, s, s', hs, h => by
    obtain ⟨s₁, h₁, h₂⟩ := Option.bind_eq_some_iff.mp h
    exact run_invariant hstep es (hstep s e s₁ hs h₁) h₂

/-- A replay of events that are admissible in any state ends in a state
reached under `ok`. -/
theorem run_reaches : ∀ (es : List ε) {s s' : σ}, (∀ e ∈ es, ∀ s, ok s e) →
    M.Reaches ok s → M.run s es = some s' → M.Reaches ok s'
  | [], s, s', _, hs, h => by
    obtain rfl := Option.some.inj h
    exact hs
  | e :: es, s, s', hok, hs, h => by
    obtain ⟨s₁, h₁, h₂⟩ := Option.bind_eq_some_iff.mp h
    refine run_reaches es (fun e' he' => hok e' (List.mem_cons_of_mem _ he')) ?_ h₂
    exact hs.step (hok e List.mem_cons_self s) h₁

/-- Replay the events from `s`, checking `ok` before each step. -/
def runUnder (M : Machine σ ε) (ok : σ → ε → Bool) (s : σ) : List ε → Option σ
  | [] => some s
  | e :: es => if ok s e then (M.step s e).bind fun s' => M.runUnder ok s' es else none

/-- A replay that passes every check ends in a state reached under `ok`, if
that is what the check is for. -/
theorem runUnder_reaches {check : σ → ε → Bool} (hcheck : ∀ s e, check s e = true → ok s e) :
    ∀ (es : List ε) {s s' : σ}, M.Reaches ok s → M.runUnder check s es = some s' →
      M.Reaches ok s'
  | [], s, s', hs, h => by
    obtain rfl := Option.some.inj h
    exact hs
  | e :: es, s, s', hs, h => by
    obtain ⟨hok, h⟩ := Option.ite_none_right_eq_some.mp h
    obtain ⟨s₁, h₁, h₂⟩ := Option.bind_eq_some_iff.mp h
    exact runUnder_reaches hcheck es (hs.step (hcheck s e hok) h₁) h₂

/-- A replay from an initial state ends in a reachable state. -/
theorem run_reachable :
    ∀ (es : List ε) {s s' : σ}, M.Reachable s → M.run s es = some s' → M.Reachable s' :=
  fun es _ _ hs h =>
    run_invariant (fun _ _ _ hs hstep => hs.step trivial hstep) es hs h

/-- The state after the events from `s`; `s` itself, if they are impossible. -/
def after (M : Machine σ ε) (s : σ) (es : List ε) : σ := (M.run s es).getD s

theorem after_reachable {s : σ} (hs : M.Reachable s) (es : List ε) :
    M.Reachable (M.after s es) := by
  unfold after
  cases h : M.run s es with
  | none => exact hs
  | some s' => exact run_reachable es hs h

end Machine

end Scholarli.Base
