import Mathlib.Data.List.Nodup
import Scholarli.Base.Shared

/-!
# Interleavings of clients

The clients of a shared table take their steps in some order. If each step
writes to a key that was free, then that order does not matter: any other
interleaving of what the clients did can be replayed too, and ends in the same
world (`run_eq_of_own`).

* `outs` — what the steps of a run put out, in their order.
* `own_outs` — what a client puts out depends on its own events only, so two
  interleavings put out the same up to the order (`perm_of_own`).
* `puts_perm` — and writes to different keys commute.
-/

namespace Scholarli.Base

variable {κ α ι σ ε β : Type}

/-! ## Writing in any order -/

namespace Table

variable [DecidableEq κ]

/-- The entry is written, if there is one. -/
def put (t : Table κ α) : Option (κ × α) → Table κ α
  | none => t
  | some p => t.set p.1 p.2

/-- The entries are written one after the other. -/
def puts (t : Table κ α) (ps : List (κ × α)) : Table κ α :=
  ps.foldl (fun t p => t.set p.1 p.2) t

theorem puts_toList_append (t : Table κ α) (o : Option (κ × α)) (ps : List (κ × α)) :
    t.puts (o.toList ++ ps) = (t.put o).puts ps := by
  cases o <;> rfl

theorem set_comm {k k' : κ} (h : k ≠ k') (t : Table κ α) (a a' : α) :
    (t.set k a).set k' a' = (t.set k' a').set k a :=
  Function.update_comm h _ _ t

/-- Under different keys, the order of the writes is not visible. -/
theorem puts_perm {ps qs : List (κ × α)} (hperm : ps.Perm qs) (hkeys : (ps.map (·.1)).Nodup)
    (t : Table κ α) : t.puts ps = t.puts qs := by
  refine hperm.foldl_eq' ?_ t
  intro p hp q hq t
  by_cases hkey : p.1 = q.1
  · rw [List.inj_on_of_nodup_map hkeys hp hq hkey]
  · exact set_comm hkey t p.2 q.2

end Table

namespace Machine

variable {M : Machine σ ε} {ok : σ → ε → Prop}

/-! ## What a run puts out -/

/-- The outputs of the steps, as the events happen. -/
def outs (M : Machine σ ε) (out : σ → ε → Option β) (s : σ) : List ε → List β
  | [] => []
  | e :: es => (out s e).toList ++
    match M.step s e with
    | some s' => M.outs out s' es
    | none => []

theorem outs_cons {out : σ → ε → Option β} {s s' : σ} {e : ε} (h : M.step s e = some s')
    (es : List ε) : M.outs out s (e :: es) = (out s e).toList ++ M.outs out s' es := by
  rw [outs, h]

theorem map_outs {γ : Type} (f : β → γ) (out : σ → ε → Option β) :
    ∀ (es : List ε) (s : σ),
      M.outs (fun s e => (out s e).map f) s es = (M.outs out s es).map f
  | [], _ => rfl
  | e :: es, s => by
    have hfirst : ((out s e).map f).toList = (out s e).toList.map f := by
      cases out s e <;> rfl
    cases hs : M.step s e with
    | none => simp [outs, hs, hfirst]
    | some s' => rw [outs_cons hs, outs_cons hs, map_outs f out es s', List.map_append, hfirst]

/-- A run with its events, every step under the condition. -/
inductive Runs (M : Machine σ ε) (ok : σ → ε → Prop) : σ → List ε → σ → Prop
  | nil (s : σ) : Runs M ok s [] s
  | cons {s s₁ s' : σ} {e : ε} {es : List ε} (hok : ok s e) (hs : M.step s e = some s₁)
      (hes : Runs M ok s₁ es s') : Runs M ok s (e :: es) s'

theorem Runs.run_eq {s s' : σ} {es : List ε} (h : M.Runs ok s es s') : M.run s es = some s' := by
  induction h with
  | nil s => rfl
  | cons _ hs _ ih =>
    show (M.step _ _).bind _ = _
    rw [hs]
    exact ih

/-- Along the run, the states before its steps were reached. -/
theorem Runs.reaches {s s' : σ} {es : List ε} (h : M.Runs ok s es s') (hreach : M.Reaches ok s) :
    M.Runs (fun s e => M.Reaches ok s ∧ ok s e) s es s' := by
  induction h with
  | nil s => exact .nil s
  | cons hok hs _ ih => exact .cons ⟨hreach, hok⟩ hs (ih (hreach.step hok hs))

/-! ## Projections to the clients -/

section Sharing

variable [DecidableEq ι] {S : Type} {start : S → Prop} {write : S → σ → ε → S}

theorem own_cons_self (i : ι) (e : ε) (es : List (ι × ε)) :
    own i ((i, e) :: es) = e :: own i es := by
  simp [own]

theorem own_cons_of_ne {i j : ι} (h : j ≠ i) (e : ε) (es : List (ι × ε)) :
    own i ((j, e) :: es) = own i es := by
  simp [own, h]

theorem own_append (i : ι) (es fs : List (ι × ε)) : own i (es ++ fs) = own i es ++ own i fs :=
  List.filterMap_append

/-- Lists that are the same for each client are the same up to the order. -/
theorem perm_of_own {es fs : List (ι × ε)} (h : ∀ i, own i es = own i fs) : es.Perm fs := by
  classical
  have hcount : ∀ (i : ι) (e : ε) (es : List (ι × ε)), (own i es).count e = es.count (i, e) := by
    intro i e es
    induction es with
    | nil => rfl
    | cons p es ih =>
      obtain ⟨j, e'⟩ := p
      by_cases hij : j = i
      · subst hij
        rw [own_cons_self, List.count_cons, List.count_cons, ih]
        simp
      · rw [own_cons_of_ne hij, ih, List.count_cons_of_ne]
        intro heq
        exact hij (congrArg Prod.fst heq)
  refine List.perm_iff_count.mpr ?_
  intro p
  obtain ⟨i, e⟩ := p
  rw [← hcount, ← hcount, h i]

/-- **What a client puts out** depends on its own events only. -/
theorem own_outs (out : σ → ε → Option β) (i : ι) :
    ∀ (es : List (ι × ε)) {w w' : World S ι σ}, (M.sharing start write).run w es = some w' →
      own i ((M.sharing start write).outs
        (fun w e => (out (w.clients e.1) e.2).map fun b => (e.1, b)) w es) =
      M.outs out (w.clients i) (own i es)
  | [], _, _, _ => rfl
  | (j, e) :: es, w, w', h => by
    obtain ⟨w₁, h₁, h₂⟩ := Option.bind_eq_some_iff.mp h
    obtain ⟨x', hx', -, hself, hothers⟩ := sharing_step_cases h₁
    rw [outs_cons h₁, own_append, own_outs out i es h₂]
    by_cases hij : j = i
    · subst hij
      rw [own_cons_self, outs_cons hx', hself]
      congr 1
      cases out (w.clients j) e <;> simp [own]
    · rw [own_cons_of_ne hij, hothers i (Ne.symm hij)]
      cases out (w.clients j) e <;> simp [own, hij]

/-- The outputs of all clients. -/
def writes (M : Machine (World S ι σ) (ι × ε)) (out : σ → ε → Option β) (w : World S ι σ)
    (es : List (ι × ε)) : List β :=
  M.outs (fun w e => out (w.clients e.1) e.2) w es

/-- Two interleavings put out the same, up to the order. -/
theorem writes_perm (out : σ → ε → Option β) {es fs : List (ι × ε)}
    (hown : ∀ i, own i es = own i fs) {w w₁ w₂ : World S ι σ}
    (hes : (M.sharing start write).run w es = some w₁)
    (hfs : (M.sharing start write).run w fs = some w₂) :
    ((M.sharing start write).writes out w es).Perm ((M.sharing start write).writes out w fs) := by
  have htagged : ∀ gs, (M.sharing start write).writes out w gs =
      ((M.sharing start write).outs
        (fun w e => (out (w.clients e.1) e.2).map fun b => (e.1, b)) w gs).map Prod.snd := by
    intro gs
    rw [← map_outs]
    unfold writes
    simp only [Option.map_map, Function.comp_def, Option.map_id']
  rw [htagged, htagged]
  refine (perm_of_own ?_).map Prod.snd
  intro i
  rw [own_outs out i es hes, own_outs out i fs hfs, hown i]

/-- The clients together can do what each of them can. -/
theorem run_of_own :
    ∀ (es : List (ι × ε)) {w : World S ι σ}, (∀ i, ∃ x', M.run (w.clients i) (own i es) = some x') →
      ∃ w', (M.sharing start write).run w es = some w'
  | [], w, _ => ⟨w, rfl⟩
  | (j, e) :: es, w, h => by
    obtain ⟨x', hx'⟩ := h j
    rw [own_cons_self] at hx'
    obtain ⟨x₁, h₁, -⟩ := Option.bind_eq_some_iff.mp hx'
    obtain ⟨w₁, hw₁, -⟩ : ∃ w₁, (M.sharing start write).step w (j, e) = some w₁ ∧
        w₁.clients j = x₁ := sharing_step_of_step h₁
    obtain ⟨x₂, h₂, -, hself, hothers⟩ := sharing_step_cases hw₁
    have hrest : ∀ i, ∃ x', M.run (w₁.clients i) (own i es) = some x' := by
      intro i
      obtain ⟨y, hy⟩ := h i
      by_cases hij : j = i
      · subst hij
        rw [own_cons_self] at hy
        obtain ⟨y₁, hy₁, hy⟩ := Option.bind_eq_some_iff.mp hy
        rw [h₂] at hy₁
        obtain rfl := Option.some.inj hy₁
        rw [hself]
        exact ⟨y, hy⟩
      · rw [own_cons_of_ne hij] at hy
        rw [hothers i (Ne.symm hij)]
        exact ⟨y, hy⟩
    obtain ⟨w', hw'⟩ := run_of_own es hrest
    refine ⟨w', ?_⟩
    show ((M.sharing start write).step w (j, e)).bind _ = _
    rw [hw₁]
    exact hw'

end Sharing

/-! ## Interleavings -/

section Tables

variable [DecidableEq κ] [DecidableEq ι] {start : Table κ α → Prop}
  {write : Table κ α → σ → ε → Table κ α} {out : σ → ε → Option (κ × α)}

/-- The table has been written what the clients have put out. -/
theorem store_of_run (hwrite : ∀ t x e, write t x e = t.put (out x e)) :
    ∀ (es : List (ι × ε)) {w w' : World (Table κ α) ι σ},
      (M.sharing start write).run w es = some w' →
      w'.store = w.store.puts ((M.sharing start write).writes out w es)
  | [], w, w', h => by
    obtain rfl := Option.some.inj h
    rfl
  | (j, e) :: es, w, w', h => by
    obtain ⟨w₁, h₁, h₂⟩ := Option.bind_eq_some_iff.mp h
    obtain ⟨x', -, hstore, -, -⟩ := sharing_step_cases h₁
    unfold writes
    rw [outs_cons h₁, Table.puts_toList_append, ← hwrite, ← hstore]
    exact store_of_run hwrite es h₂

variable {ok : World (Table κ α) ι σ → ι × ε → Prop}

/-- If every step writes to a free key, no key is written twice, nor one that
was taken before. -/
theorem nodup_writes (hwrite : ∀ t x e, write t x e = t.put (out x e))
    (hfree : ∀ w e w' p, ok w e → (M.sharing start write).step w e = some w' →
      out (w.clients e.1) e.2 = some p → w.store p.1 = none)
    {es : List (ι × ε)} {w w' : World (Table κ α) ι σ}
    (h : (M.sharing start write).Runs ok w es w') :
    (((M.sharing start write).writes out w es).map (·.1)).Nodup ∧
    ∀ p ∈ (M.sharing start write).writes out w es, w.store p.1 = none := by
  induction h with
  | nil w => exact ⟨List.nodup_nil, fun p hp => by cases hp⟩
  | @cons w w₁ w' e es hok hs _ ih =>
    obtain ⟨hnodup, hlater⟩ := ih
    obtain ⟨x', -, hstore, -, -⟩ := sharing_step_cases hs
    rw [hwrite] at hstore
    unfold writes at hnodup hlater ⊢
    rw [outs_cons hs]
    cases hout : out (w.clients e.1) e.2 with
    | none =>
      rw [hout] at hstore
      have hstore : w₁.store = w.store := hstore
      rw [hstore] at hlater
      exact ⟨hnodup, hlater⟩
    | some p =>
      rw [hout] at hstore
      have hstore : w₁.store = w.store.set p.1 p.2 := hstore
      have hfirst := hfree w e w₁ p hok hs hout
      refine ⟨List.nodup_cons.mpr ⟨?_, hnodup⟩, ?_⟩
      · intro hmem
        obtain ⟨q, hq, hkey⟩ := List.mem_map.mp hmem
        have htaken := hlater q hq
        rw [hstore, show q.1 = p.1 from hkey, Table.set_self] at htaken
        cases htaken
      · intro q hq
        rcases List.mem_cons.mp hq with rfl | hq
        · exact hfirst
        · have hnone := hlater q hq
          have hle : w.store ≤ w₁.store := by
            rw [hstore]
            exact Table.le_set hfirst p.2
          cases hold : w.store q.1 with
          | none => rfl
          | some a =>
            rw [hle q.1 a hold] at hnone
            cases hnone

/-- **Interleavings.** Let every step of a run write to a free key. Then each
list of events in which every client does the same, in the same order, is a run
to the same world. -/
theorem run_eq_of_own (hwrite : ∀ t x e, write t x e = t.put (out x e))
    (hfree : ∀ w e w' p, ok w e → (M.sharing start write).step w e = some w' →
      out (w.clients e.1) e.2 = some p → w.store p.1 = none)
    {es fs : List (ι × ε)} {w w' : World (Table κ α) ι σ}
    (h : (M.sharing start write).Runs ok w es w') (hown : ∀ i, own i es = own i fs) :
    (M.sharing start write).run w fs = some w' := by
  obtain ⟨w₂, hfs⟩ : ∃ w₂, (M.sharing start write).run w fs = some w₂ := by
    refine run_of_own fs ?_
    intro i
    rw [← hown i]
    exact ⟨_, run_own i es h.run_eq⟩
  have hclients : w₂.clients = w'.clients := by
    funext i
    have hi := run_own i fs hfs
    rw [← hown i, run_own i es h.run_eq] at hi
    exact (Option.some.inj hi).symm
  have hstore : w₂.store = w'.store := by
    rw [store_of_run hwrite fs hfs, store_of_run hwrite es h.run_eq]
    have hnodup := (nodup_writes hwrite hfree h).1
    exact (Table.puts_perm (writes_perm out hown h.run_eq hfs) hnodup _).symm
  rw [hfs]
  obtain ⟨store₂, clients₂⟩ := w₂
  obtain ⟨store', clients'⟩ := w'
  obtain rfl : store₂ = store' := hstore
  obtain rfl : clients₂ = clients' := hclients
  rfl

end Tables

end Machine

end Scholarli.Base
