import Mathlib.Algebra.Ring.Parity
import Mathlib.Data.List.Perm.Basic
import Scholarli.Base.Roster
import Scholarli.Base.Shared

/-!
# Timetables

What a roster means: a table from slots to elements. The order in which the
elements were added is forgotten, and nothing else is (`ofList_eq_iff_perm`).

* `flip` — the one operation. An element claims its slot if that is free,
  gives it up if it has it, and does nothing if another one has it. It is what
  `toggle` does to the table (`ofList_toggle`).
* `flips_apply` — slots are independent: what a sequence of flips does to a
  slot is what those of its elements do that belong there, in their order.
  Sequences that agree slot by slot are the same (`flips_congr`), however they
  are interleaved.
* `presses_replicate` — one element alone in its slot comes and goes.
-/

namespace Scholarli.Base

namespace Table

variable {α κ τ : Type} {key : α → κ} {slot : α → τ} [DecidableEq κ]

/-- What `x` does to the slot it belongs to. -/
def press (key : α → κ) (x : α) : Option α → Option α
  | none => some x
  | some y => if key y = key x then none else some y

/-- One element after the other, in one slot. -/
def presses (key : α → κ) (xs : List α) (o : Option α) : Option α :=
  xs.foldl (fun o x => press key x o) o

variable [DecidableEq τ]

def flip (key : α → κ) (slot : α → τ) (x : α) (t : Table τ α) : Table τ α :=
  Function.update t (slot x) (press key x (t (slot x)))

def flips (key : α → κ) (slot : α → τ) (xs : List α) (t : Table τ α) : Table τ α :=
  xs.foldl (fun t x => flip key slot x t) t

omit [DecidableEq κ] in
/-- The table of a list. -/
def ofList (slot : α → τ) (xs : List α) : Table τ α := fun s => xs.find? fun x => slot x = s

theorem flip_self (t : Table τ α) (x : α) :
    flip key slot x t (slot x) = press key x (t (slot x)) := by
  unfold flip
  exact Function.update_self (slot x) _ t

theorem flip_of_ne (t : Table τ α) {x : α} {s : τ} (h : s ≠ slot x) :
    flip key slot x t s = t s := by
  unfold flip
  exact Function.update_of_ne h _ t

theorem flips_append (xs ys : List α) (t : Table τ α) :
    flips key slot (xs ++ ys) t = flips key slot ys (flips key slot xs t) :=
  List.foldl_append

/-- **Slots are independent.** -/
theorem flips_apply (xs : List α) (t : Table τ α) (s : τ) :
    flips key slot xs t s = presses key (xs.filter fun x => slot x = s) (t s) := by
  induction xs generalizing t with
  | nil => rfl
  | cons x xs ih =>
    show flips key slot xs (flip key slot x t) s = _
    rw [ih]
    by_cases hs : slot x = s
    · subst hs
      rw [flip_self, List.filter_cons_of_pos (by simp)]
      rfl
    · rw [flip_of_ne t (Ne.symm hs), List.filter_cons_of_neg (by simpa using hs)]

/-- Sequences that agree slot by slot do the same. -/
theorem flips_congr {xs ys : List α}
    (h : ∀ s, (xs.filter fun x => slot x = s) = ys.filter fun x => slot x = s) (t : Table τ α) :
    flips key slot xs t = flips key slot ys t := by
  funext s
  rw [flips_apply, flips_apply, h s]

/-- **An element alone in its slot**: an even number of presses changes nothing. -/
theorem presses_replicate (key : α → κ) (x : α) (n : Nat) :
    presses key (List.replicate n x) none = (if Even n then none else some x) ∧
    presses key (List.replicate n x) (some x) = if Even n then some x else none := by
  induction n with
  | zero => exact ⟨rfl, rfl⟩
  | succ n ih =>
    obtain ⟨hnone, hsome⟩ := ih
    have hclaim : press key x none = some x := rfl
    have hleave : press key x (some x) = none := if_pos rfl
    refine ⟨?_, ?_⟩
    · show presses key (List.replicate n x) (press key x none) = _
      rw [hclaim, hsome]
      by_cases hn : Even n <;> simp [hn, Nat.even_add_one]
    · show presses key (List.replicate n x) (press key x (some x)) = _
      rw [hleave, hnone]
      by_cases hn : Even n <;> simp [hn, Nat.even_add_one]

section OfList

omit [DecidableEq κ]

/-- Among distinct slots, the table has exactly the elements of the list. -/
theorem ofList_eq_some_iff {xs : List α} (h : (xs.map slot).Nodup) {s : τ} {x : α} :
    ofList slot xs s = some x ↔ x ∈ xs ∧ slot x = s := by
  unfold ofList
  constructor
  · intro hfind
    refine ⟨List.mem_of_find?_eq_some hfind, ?_⟩
    simpa using List.find?_some hfind
  · intro hx
    obtain ⟨hmem, rfl⟩ := hx
    induction xs with
    | nil => cases hmem
    | cons y ys ih =>
      rw [List.map_cons, List.nodup_cons] at h
      rcases List.mem_cons.mp hmem with rfl | hmem
      · exact List.find?_cons_of_pos (by simp)
      · have hne : slot y ≠ slot x := by
          intro heq
          rw [heq] at h
          exact h.1 (List.mem_map_of_mem hmem)
        rw [List.find?_cons_of_neg (by simpa using hne)]
        exact ih h.2 hmem

theorem ofList_eq_none_iff {xs : List α} {s : τ} :
    ofList slot xs s = none ↔ ∀ x ∈ xs, slot x ≠ s := by
  unfold ofList
  simp [List.find?_eq_none]

/-- **The order is all that is forgotten.** -/
theorem ofList_eq_iff_perm {xs ys : List α} (hxs : (xs.map slot).Nodup)
    (hys : (ys.map slot).Nodup) : ofList slot xs = ofList slot ys ↔ xs.Perm ys := by
  have hmem : ∀ {zs : List α}, (zs.map slot).Nodup → ∀ x,
      x ∈ zs ↔ ofList slot zs (slot x) = some x := by
    intro zs hzs x
    rw [ofList_eq_some_iff hzs]
    simp
  constructor
  · intro heq
    refine (List.perm_ext_iff_of_nodup hxs.of_map hys.of_map).mpr ?_
    intro x
    rw [hmem hxs, hmem hys, heq]
  · intro hperm
    funext s
    refine Option.ext ?_
    intro x
    rw [ofList_eq_some_iff hxs, ofList_eq_some_iff hys, hperm.mem_iff]

end OfList

/-- **Refinement.** Toggling in the list is flipping in the table, if what has
the key of `x` has its slot. -/
theorem ofList_toggle {xs : List α} {x : α} (h : (xs.map slot).Nodup)
    (hx : Agrees key slot x xs) :
    ofList slot (toggle key slot x xs) = flip key slot x (ofList slot xs) := by
  have h' : ((toggle key slot x xs).map slot).Nodup := nodup_slots_toggle h x
  funext s
  by_cases hs : s = slot x
  · subst hs
    rw [flip_self]
    by_cases habsent : ∀ y ∈ xs, key y ≠ key x
    · by_cases hfree : ∀ y ∈ xs, slot y ≠ slot x
      · -- `x` is appended
        rw [toggle_of_absent habsent, if_pos hfree] at h' ⊢
        rw [ofList_eq_none_iff.mpr hfree]
        exact (ofList_eq_some_iff h').mpr ⟨List.mem_append_right xs List.mem_cons_self, rfl⟩
      · -- `x` is refused
        obtain ⟨y, hy, hslot⟩ : ∃ y ∈ xs, slot y = slot x := by simpa using hfree
        rw [toggle_of_rejects ⟨habsent, y, hy, hslot⟩, (ofList_eq_some_iff h).mpr ⟨hy, hslot⟩]
        exact (if_neg (habsent y hy)).symm
    · -- `x` is removed, and the slot is free
      obtain ⟨y, hy, hkey⟩ : ∃ y ∈ xs, key y = key x := by simpa using habsent
      have hslot := hx y hy hkey
      rw [(ofList_eq_some_iff h).mpr ⟨hy, hslot⟩]
      show _ = if key y = key x then none else some y
      rw [if_pos hkey, ofList_eq_none_iff]
      obtain ⟨z, before, after, -, hz, hxs, herase⟩ :=
        List.exists_of_eraseP (p := fun z => decide (key z = key x)) hy (by simpa using hkey)
      have hz : slot z = slot x := by
        refine hx z ?_ (by simpa using hz)
        rw [hxs]
        exact List.mem_append_right before List.mem_cons_self
      rw [toggle_of_mem hy hkey, herase]
      intro w hw hslotw
      rw [hxs, List.map_append, List.map_cons] at h
      refine (List.nodup_cons.mp (List.nodup_middle.mp h)).1 ?_
      rw [hz, ← hslotw, ← List.map_append]
      exact List.mem_map_of_mem hw
  · rw [flip_of_ne _ hs]
    refine Option.ext ?_
    intro y
    rw [ofList_eq_some_iff h', ofList_eq_some_iff h]
    constructor
    · intro hy
      obtain ⟨hmem, rfl⟩ := hy
      rcases mem_of_mem_toggle hmem with hmem | rfl
      · exact ⟨hmem, rfl⟩
      · exact absurd rfl hs
    · intro hy
      obtain ⟨hmem, rfl⟩ := hy
      refine ⟨mem_toggle_of_key_ne hmem ?_, rfl⟩
      intro hkey
      exact hs (hx y hmem hkey)

end Table

end Scholarli.Base
