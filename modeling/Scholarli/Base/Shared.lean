import Mathlib.Data.List.Forall2
import Mathlib.Logic.Function.Basic
import Mathlib.Logic.Relation
import Mathlib.Order.Defs.PartialOrder
import Scholarli.Base.Machine

/-!
# Clients of a shared store

Any number of copies of one machine, next to a store that their steps write.
The clients take their steps in any order; what the store promises at a step
is a condition on the store, the client's state and its event.

* `Table κ α` — entries under keys, ordered by extension: a later table has
  the entries of an earlier one, and maybe more. `set` is a write, and an
  extension if the key is free.
* `Selects` — a list of entries under pairwise different keys, in some order:
  what a query returns that may miss entries. `Lists` is a list of all of them.
* `Machine.sharing` — the machine of all clients with the store.
* `client_reaches` — the rule that takes the clients apart. If what a client
  relies on is not lost as the store grows, then every client is at the end
  of a run of its own machine in which every step relied on the store as it is
  *now*. Invariants of one client's runs then hold of each of them.
-/

namespace Scholarli.Base

/-! ## Tables -/

/-- What is stored under each key. -/
def Table (κ α : Type) := κ → Option α

namespace Table

variable {κ α γ : Type} {s t : Table κ α} {k : κ} {a : α}

/-- A table is extended by those that have all of its entries. -/
instance : Preorder (Table κ α) where
  le s t := ∀ k a, s k = some a → t k = some a
  le_refl _ _ _ h := h
  le_trans _ _ _ hst htu k a h := htu k a (hst k a h)

section Set

variable [DecidableEq κ]

def set (t : Table κ α) (k : κ) (a : α) : Table κ α := Function.update t k (some a)

theorem set_self (t : Table κ α) (k : κ) (a : α) : t.set k a k = some a := by
  unfold set
  exact Function.update_self k (some a) t

theorem set_of_ne (t : Table κ α) {j : κ} (h : j ≠ k) (a : α) : t.set k a j = t j := by
  unfold set
  exact Function.update_of_ne h (some a) t

/-- A write to a free key loses nothing. -/
theorem le_set (h : t k = none) (a : α) : t ≤ t.set k a := by
  intro j b hj
  have hne : j ≠ k := by
    intro heq
    rw [heq, h] at hj
    cases hj
  rw [set_of_ne t hne]
  exact hj

/-- Where an entry comes from. -/
theorem set_cases {j : κ} {b : α} (h : t.set k a j = some b) :
    (j = k ∧ b = a) ∨ t j = some b := by
  by_cases hj : j = k
  · subst hj
    rw [set_self] at h
    exact Or.inl ⟨rfl, (Option.some.inj h).symm⟩
  · rw [set_of_ne t hj] at h
    exact Or.inr h

end Set

/-- The list has entries of the table, under pairwise different keys. -/
def Selects (t : Table κ α) (xs : List α) : Prop :=
  ∃ keys : List κ, keys.Nodup ∧ List.Forall₂ (fun k a => t k = some a) keys xs

/-- The list has all entries of the table. -/
def Lists (t : Table κ α) (xs : List α) : Prop :=
  ∃ keys : List κ, keys.Nodup ∧ List.Forall₂ (fun k a => t k = some a) keys xs ∧
    ∀ k a, t k = some a → k ∈ keys

theorem Lists.selects {xs : List α} (h : t.Lists xs) : t.Selects xs := by
  obtain ⟨keys, hnodup, hkeys, -⟩ := h
  exact ⟨keys, hnodup, hkeys⟩

theorem Selects.mono {xs : List α} (h : s.Selects xs) (hle : s ≤ t) : t.Selects xs := by
  obtain ⟨keys, hnodup, hkeys⟩ := h
  exact ⟨keys, hnodup, hkeys.imp fun k a hk => hle k a hk⟩

/-- What is selected is under one of the keys. -/
theorem exists_key_of_mem {keys : List κ} {xs : List α}
    (h : List.Forall₂ (fun k a => t k = some a) keys xs) {x : α} (hx : x ∈ xs) :
    ∃ k ∈ keys, t k = some x := by
  induction h with
  | nil => cases hx
  | @cons k y keys ys hk _ ih =>
    rcases List.mem_cons.mp hx with rfl | hx
    · exact ⟨k, List.mem_cons_self, hk⟩
    · obtain ⟨k', hk', hx'⟩ := ih hx
      exact ⟨k', List.mem_cons_of_mem k hk', hx'⟩

theorem Selects.exists_key {xs : List α} (h : t.Selects xs) {x : α} (hx : x ∈ xs) :
    ∃ k, t k = some x := by
  obtain ⟨keys, -, hkeys⟩ := h
  obtain ⟨k, -, hk⟩ := exists_key_of_mem hkeys hx
  exact ⟨k, hk⟩

/-- All entries are in a list of all entries. -/
theorem Lists.mem {xs : List α} (h : t.Lists xs) (hk : t k = some a) : a ∈ xs := by
  obtain ⟨keys, -, hkeys, hall⟩ := h
  have hmem := hall k a hk
  clear hall
  induction hkeys with
  | nil => cases hmem
  | @cons j y keys ys hj _ ih =>
    rcases List.mem_cons.mp hmem with rfl | hmem
    · rw [hk] at hj
      obtain rfl := Option.some.inj hj
      exact List.mem_cons_self
    · exact List.mem_cons_of_mem _ (ih hmem)

/-- What tells the entries of the table apart tells those of a selection
apart. -/
theorem Selects.nodup_map {xs : List α} (h : t.Selects xs) {f : α → γ}
    (hf : ∀ k k' a a', t k = some a → t k' = some a' → f a = f a' → k = k') :
    (xs.map f).Nodup := by
  obtain ⟨keys, hnodup, hkeys⟩ := h
  induction hkeys with
  | nil => exact List.nodup_nil
  | @cons k a keys xs hk hkeys ih =>
    obtain ⟨hnotin, hnodup⟩ := List.nodup_cons.mp hnodup
    rw [List.map_cons, List.nodup_cons]
    refine ⟨?_, ih hnodup⟩
    intro hmem
    obtain ⟨a', ha', heq⟩ := List.mem_map.mp hmem
    -- an equal entry further on would have the same key
    obtain ⟨k', hk', hka'⟩ := exists_key_of_mem hkeys ha'
    rw [hf k k' a a' hk hka' heq.symm] at hnotin
    exact hnotin hk'

end Table

/-! ## Clients -/

/-- The store, and the state of each client. -/
structure World (S ι σ : Type) where
  store : S
  clients : ι → σ

namespace Machine

variable {S ι σ ε : Type} {M : Machine σ ε} {start : S → Prop} {write : S → σ → ε → S}

section Sharing

variable [DecidableEq ι]

/-- Copies of the machine around a store: a step is one of one client, and
`write` is what it does to the store. -/
def sharing (M : Machine σ ε) (start : S → Prop) (write : S → σ → ε → S) :
    Machine (World S ι σ) (ι × ε) where
  init w := start w.store ∧ ∀ i, M.init (w.clients i)
  step w e := (M.step (w.clients e.1) e.2).map fun x' =>
    { store := write w.store (w.clients e.1) e.2
      clients := Function.update w.clients e.1 x' }

/-- The step condition of the store, at the client that takes the step. -/
def Admits (ok : S → σ → ε → Prop) (w : World S ι σ) (e : ι × ε) : Prop :=
  ok w.store (w.clients e.1) e.2

/-- **Inversion.** One client takes a step, and the others stay. -/
theorem sharing_step_cases {w w' : World S ι σ} {i : ι} {e : ε}
    (h : (M.sharing start write).step w (i, e) = some w') :
    ∃ x', M.step (w.clients i) e = some x' ∧
      w'.store = write w.store (w.clients i) e ∧ w'.clients i = x' ∧
      ∀ j, j ≠ i → w'.clients j = w.clients j := by
  obtain ⟨x', hx', rfl⟩ := Option.map_eq_some_iff.mp h
  refine ⟨x', hx', rfl, ?_, ?_⟩
  · exact Function.update_self i x' w.clients
  · intro j hj
    exact Function.update_of_ne hj x' w.clients

/-- A step that a client can take is one of all of them together. -/
theorem sharing_step_of_step {w : World S ι σ} {i : ι} {e : ε} {x' : σ}
    (h : M.step (w.clients i) e = some x') :
    ∃ w', (M.sharing start write).step w (i, e) = some w' ∧ w'.clients i = x' := by
  refine ⟨_, Option.map_eq_some_iff.mpr ⟨x', h, rfl⟩, ?_⟩
  exact Function.update_self i x' w.clients

/-- The events of one client, in their order. -/
def own (i : ι) (es : List (ι × ε)) : List ε :=
  es.filterMap fun e => if e.1 = i then some e.2 else none

/-- **A client sees its own events only**, whatever the others do in between. -/
theorem run_own (i : ι) (es : List (ι × ε)) {w w' : World S ι σ}
    (h : (M.sharing start write).run w es = some w') :
    M.run (w.clients i) (own i es) = some (w'.clients i) := by
  induction es generalizing w with
  | nil =>
    obtain rfl := Option.some.inj h
    rfl
  | cons e es ih =>
    obtain ⟨j, e⟩ := e
    obtain ⟨w₁, h₁, h₂⟩ := Option.bind_eq_some_iff.mp h
    obtain ⟨x', hx', -, hself, hothers⟩ := sharing_step_cases h₁
    by_cases hij : j = i
    · subst hij
      have hown : own j ((j, e) :: es) = e :: own j es := by simp [own]
      rw [hown]
      show (M.step _ _).bind _ = _
      rw [hx', Option.bind_some, ← hself]
      exact ih h₂
    · have hown : own i ((j, e) :: es) = own i es := by simp [own, hij]
      rw [hown, ← hothers i (Ne.symm hij)]
      exact ih h₂

variable [Preorder S] {ok R : S → σ → ε → Prop} {Q : S → Prop}

/-- **Rule for clients.** Let `R` be a condition that a growing store does
not lose, and let every step that the store admits grow it, keep its
invariant, and satisfy `R` of the store after it. Then each client is at the
end of a run under `R` of the store as it is now. -/
theorem client_reaches (hmono : ∀ s t x e, s ≤ t → R s x e → R t x e)
    (hstart : ∀ s, start s → Q s)
    (hstep : ∀ s x e x', Q s → M.Reaches (R s) x → ok s x e → M.step x e = some x' →
      s ≤ write s x e ∧ Q (write s x e) ∧ R (write s x e) x e)
    {w : World S ι σ} (h : (M.sharing start write).Reaches (Admits ok) w) :
    Q w.store ∧ ∀ i, M.Reaches (R w.store) (w.clients i) := by
  refine h.invariant (P := fun w => Q w.store ∧ ∀ i, M.Reaches (R w.store) (w.clients i)) ?_ ?_
  · intro w hinit
    exact ⟨hstart _ hinit.1, fun i => .init (hinit.2 i)⟩
  · intro w e w' hinv hok hs
    obtain ⟨i, e⟩ := e
    obtain ⟨hQ, hclients⟩ := hinv
    obtain ⟨x', hx', hstore, hself, hothers⟩ := sharing_step_cases hs
    obtain ⟨hgrow, hQ', hR⟩ := hstep _ _ _ _ hQ (hclients i) hok hx'
    rw [hstore]
    refine ⟨hQ', ?_⟩
    intro j
    -- what earlier steps relied on is still in the store
    have hj := (hclients j).mono fun x e => hmono _ _ x e hgrow
    by_cases hij : j = i
    · subst hij
      rw [hself]
      exact hj.step hR hx'
    · rw [hothers j hij]
      exact hj

end Sharing

/-- A step under the condition. -/
def StepUnder (M : Machine σ ε) (ok : σ → ε → Prop) (s s' : σ) : Prop :=
  ∃ e, ok s e ∧ M.step s e = some s'

/-- Any number of them. -/
abbrev StepsUnder (M : Machine σ ε) (ok : σ → ε → Prop) : σ → σ → Prop :=
  Relation.ReflTransGen (M.StepUnder ok)

variable {ok : σ → ε → Prop}

theorem Reaches.trans {s s' : σ} (h : M.Reaches ok s) (hs : M.StepsUnder ok s s') :
    M.Reaches ok s' := by
  induction hs with
  | refl => exact h
  | tail _ hstep ih =>
    obtain ⟨e, hok, he⟩ := hstep
    exact ih.step hok he

/-- A replay of events that are admissible in any state, from a state reached
under `ok`. -/
theorem Reaches.after {s : σ} (h : M.Reaches ok s) {es : List ε} (hok : ∀ e ∈ es, ∀ s, ok s e) :
    M.Reaches ok (M.after s es) := by
  unfold Machine.after
  cases hrun : M.run s es with
  | none => exact h
  | some s' => exact run_reaches es hok h hrun

/-- The same for one event that is admissible here. -/
theorem Reaches.after_singleton {s : σ} (h : M.Reaches ok s) {e : ε} (hok : ok s e) :
    M.Reaches ok (M.after s [e]) := by
  unfold Machine.after
  cases hrun : M.run s [e] with
  | none => exact h
  | some s' =>
    obtain ⟨s₁, h₁, hs'⟩ := Option.bind_eq_some_iff.mp hrun
    obtain rfl := Option.some.inj hs'
    exact h.step hok h₁

end Machine

end Scholarli.Base
