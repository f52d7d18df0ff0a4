import Mathlib.Data.Finset.Card
import Mathlib.Data.List.Nodup

/-!
# Rosters: lists with distinct keys and distinct slots

A roster is a list whose elements are told apart by a key and occupy
pairwise different slots. The one operation is `toggle`: an element whose
key is present is removed (the first occurrence, by index); otherwise it is
appended if its slot is free, and the list stays as it is if not.

`Roster.toggle` is the invariant; `mem_toggle_of_key_ne` says that toggling
an element never loses another one, for arbitrary lists. Which keys are there
after a toggle is `exists_key_toggle_of_ne` and `exists_key_toggle_self`. Toggles of different
keys and slots commute (`toggle_comm`), and a second toggle of the same
element undoes the first (`toggle_toggle_of_free`, `toggle_toggle_of_mem`),
except that what was removed comes back at the end. A list whose slots are
distinct is no longer than there are slots (`length_le_card_of_slots`).
-/

namespace Scholarli.Base

variable {α κ τ : Type} {key : α → κ} {slot : α → τ}

/-- Pairwise distinct keys and pairwise distinct slots. -/
structure Roster (key : α → κ) (slot : α → τ) (xs : List α) : Prop where
  keys : (xs.map key).Nodup
  slots : (xs.map slot).Nodup

theorem Roster.nil : Roster key slot [] := ⟨List.nodup_nil, List.nodup_nil⟩

theorem nodup_map_concat {f : α → κ} {xs : List α} {x : α}
    (h : (xs.map f).Nodup) (hx : ∀ y ∈ xs, f y ≠ f x) : ((xs ++ [x]).map f).Nodup := by
  rw [List.map_append, List.map_singleton]
  refine h.append (List.nodup_singleton _) ?_
  intro k hk hk'
  obtain ⟨y, hy, rfl⟩ := List.mem_map.mp hk
  exact hx y hy (List.mem_singleton.mp hk')

/-- **Pigeonhole.** -/
theorem length_le_card_of_slots {xs : List α} {slots : Finset τ} (h : (xs.map slot).Nodup)
    (hslot : ∀ x ∈ xs, slot x ∈ slots) : xs.length ≤ slots.card := by
  classical
  have hsubset : (xs.map slot).toFinset ⊆ slots := by
    intro t ht
    obtain ⟨x, hx, rfl⟩ := List.mem_map.mp (List.mem_toFinset.mp ht)
    exact hslot x hx
  calc xs.length = (xs.map slot).length := List.length_map slot |>.symm
    _ = (xs.map slot).toFinset.card := (List.toFinset_card_of_nodup h).symm
    _ ≤ slots.card := Finset.card_le_card hsubset

/-- Appending an element with a new key and a free slot. -/
theorem Roster.concat {xs : List α} {x : α} (h : Roster key slot xs)
    (hkey : ∀ y ∈ xs, key y ≠ key x) (hslot : ∀ y ∈ xs, slot y ≠ slot x) :
    Roster key slot (xs ++ [x]) :=
  ⟨nodup_map_concat h.keys hkey, nodup_map_concat h.slots hslot⟩

theorem Roster.eraseIdx {xs : List α} (h : Roster key slot xs) (i : Nat) :
    Roster key slot (xs.eraseIdx i) :=
  ⟨h.keys.sublist ((List.eraseIdx_sublist xs i).map key),
    h.slots.sublist ((List.eraseIdx_sublist xs i).map slot)⟩

variable [DecidableEq κ] [DecidableEq τ]

/-- Remove the first element with the key of `x`; if there is none, append
`x` unless its slot is taken. -/
def toggle (key : α → κ) (slot : α → τ) (x : α) (xs : List α) : List α :=
  match xs.findIdx? fun y => key y = key x with
  | some i => xs.eraseIdx i
  | none => if ∀ y ∈ xs, slot y ≠ slot x then xs ++ [x] else xs

/-- Toggling an element whose key is not there. -/
theorem toggle_of_not_any {x : α} {xs : List α}
    (h : ¬(xs.any fun y => decide (key y = key x)) = true) :
    toggle key slot x xs = if ∀ y ∈ xs, slot y ≠ slot x then xs ++ [x] else xs := by
  have hnone : (xs.findIdx? fun y => decide (key y = key x)) = none := by
    rw [List.findIdx?_eq_none_iff]
    intro y hy
    rw [Bool.eq_false_iff]
    intro hkey
    exact h (List.any_eq_true.mpr ⟨y, hy, hkey⟩)
  unfold toggle
  rw [hnone]

/-- Toggling keeps the slots apart, whatever the keys are. -/
theorem nodup_slots_toggle {xs : List α} (h : (xs.map slot).Nodup) (x : α) :
    ((toggle key slot x xs).map slot).Nodup := by
  unfold toggle
  split
  next i _ => exact h.sublist ((List.eraseIdx_sublist xs i).map slot)
  next =>
    split
    next hslot => exact nodup_map_concat h hslot
    next => exact h

/-- Toggling keeps a roster a roster. -/
theorem Roster.toggle {xs : List α} (h : Roster key slot xs) (x : α) :
    Roster key slot (toggle key slot x xs) := by
  unfold Base.toggle
  split
  next i _ => exact h.eraseIdx i
  next hnone =>
    split
    next hslot =>
      refine h.concat (fun y hy => ?_) hslot
      simpa using List.findIdx?_eq_none_iff.mp hnone y hy
    next => exact h

/-- Toggling an element keeps every element with another key. -/
theorem mem_toggle_of_key_ne {x y : α} {xs : List α} (hy : y ∈ xs)
    (hne : key y ≠ key x) : y ∈ toggle key slot x xs := by
  unfold toggle
  split
  next i hi =>
    -- what is removed has the key of `x`, so `y` is at another index
    obtain ⟨hlt, hkey, -⟩ := List.findIdx?_eq_some_iff_getElem.mp hi
    obtain ⟨j, hj⟩ := List.mem_iff_getElem?.mp hy
    refine List.mem_eraseIdx_iff_getElem?.mpr ⟨j, ?_, hj⟩
    intro heq
    subst heq
    rw [List.getElem?_eq_getElem hlt] at hj
    obtain rfl := Option.some.inj hj
    exact hne (by simpa using hkey)
  next =>
    split
    next => exact List.mem_append_left _ hy
    next => exact hy

/-! ## Two toggles -/

/-- The toggle is refused: the key is not there, and the slot is taken. -/
def Rejects (key : α → κ) (slot : α → τ) (x : α) (xs : List α) : Prop :=
  (∀ y ∈ xs, key y ≠ key x) ∧ ∃ y ∈ xs, slot y = slot x

/-- What has the key of `x` has its slot. -/
def Agrees (key : α → κ) (slot : α → τ) (x : α) (xs : List α) : Prop :=
  ∀ y ∈ xs, key y = key x → slot y = slot x

theorem toggle_of_absent {x : α} {xs : List α} (h : ∀ y ∈ xs, key y ≠ key x) :
    toggle key slot x xs = if ∀ y ∈ xs, slot y ≠ slot x then xs ++ [x] else xs := by
  refine toggle_of_not_any ?_
  intro hany
  obtain ⟨y, hy, hkey⟩ := List.any_eq_true.mp hany
  exact h y hy (of_decide_eq_true hkey)

theorem toggle_of_mem {x y : α} {xs : List α} (hy : y ∈ xs) (hkey : key y = key x) :
    toggle key slot x xs = xs.eraseP fun z => key z = key x := by
  rw [List.eraseP_eq_eraseIdx]
  unfold toggle
  cases hidx : xs.findIdx? fun z => decide (key z = key x) with
  | some i => rfl
  | none =>
    have hne := List.findIdx?_eq_none_iff.mp hidx y hy
    exact absurd hkey (by simpa using hne)

theorem toggle_of_rejects {x : α} {xs : List α} (h : Rejects key slot x xs) :
    toggle key slot x xs = xs := by
  obtain ⟨habsent, y, hy, hslot⟩ := h
  rw [toggle_of_absent habsent, if_neg]
  intro hfree
  exact hfree y hy hslot

/-- A toggle that is not refused appends the element or removes one. -/
theorem toggle_of_not_rejects {x : α} {xs : List α} (h : ¬Rejects key slot x xs) :
    toggle key slot x xs = xs ++ [x] ∨
    ∃ i, i < xs.length ∧ toggle key slot x xs = xs.eraseIdx i := by
  unfold toggle
  split
  next i hi =>
    obtain ⟨hlt, -, -⟩ := List.findIdx?_eq_some_iff_getElem.mp hi
    exact Or.inr ⟨i, hlt, rfl⟩
  next hnone =>
    left
    rw [if_pos]
    intro y hy hslot
    refine h ⟨?_, y, hy, hslot⟩
    intro z hz hkey
    have hne := List.findIdx?_eq_none_iff.mp hnone z hz
    exact absurd hkey (by simpa using hne)

theorem mem_of_mem_toggle {x y : α} {xs : List α} (h : y ∈ toggle key slot x xs) :
    y ∈ xs ∨ y = x := by
  unfold toggle at h
  split at h
  next i _ => exact Or.inl (List.mem_of_mem_eraseIdx h)
  next =>
    split at h
    next =>
      rcases List.mem_append.mp h with h | h
      · exact Or.inl h
      · exact Or.inr (List.mem_singleton.mp h)
    next => exact Or.inl h

/-- Toggling `x` changes the presence of no other key. -/
theorem exists_key_toggle_of_ne {x : α} {xs : List α} {k : κ} (hne : k ≠ key x) :
    (∃ y ∈ toggle key slot x xs, key y = k) ↔ ∃ y ∈ xs, key y = k := by
  constructor
  · intro h
    obtain ⟨y, hy, hkey⟩ := h
    rcases mem_of_mem_toggle hy with hy | rfl
    · exact ⟨y, hy, hkey⟩
    · exact absurd hkey.symm hne
  · intro h
    obtain ⟨y, hy, hkey⟩ := h
    refine ⟨y, mem_toggle_of_key_ne hy ?_, hkey⟩
    rw [hkey]
    exact hne

/-- Among distinct keys, the key of `x` is present after the toggle exactly if
`x` was appended: a removal takes the one occurrence there is. -/
theorem exists_key_toggle_self {x : α} {xs : List α} (hkeys : (xs.map key).Nodup) :
    (∃ y ∈ toggle key slot x xs, key y = key x) ↔
      (∀ y ∈ xs, key y ≠ key x) ∧ ∀ y ∈ xs, slot y ≠ slot x := by
  by_cases habsent : ∀ y ∈ xs, key y ≠ key x
  · rw [toggle_of_absent habsent]
    by_cases hfree : ∀ y ∈ xs, slot y ≠ slot x
    · rw [if_pos hfree]
      refine iff_of_true ⟨x, ?_, rfl⟩ ⟨habsent, hfree⟩
      exact List.mem_append_right xs List.mem_cons_self
    · rw [if_neg hfree]
      refine iff_of_false ?_ fun h => hfree h.2
      intro h
      obtain ⟨y, hy, hkey⟩ := h
      exact habsent y hy hkey
  · obtain ⟨y, hy, hkey⟩ : ∃ y ∈ xs, key y = key x := by simpa using habsent
    refine iff_of_false ?_ fun h => habsent h.1
    obtain ⟨z, before, after, -, hz, hxs, herase⟩ :=
      List.exists_of_eraseP (p := fun z => decide (key z = key x)) hy (by simpa using hkey)
    rw [toggle_of_mem hy hkey, herase]
    intro h
    obtain ⟨w, hw, hwkey⟩ := h
    have hzkey : key z = key x := by simpa using hz
    -- `z` was removed, and `w`, which stayed, would have its key
    rw [hxs, List.map_append, List.map_cons] at hkeys
    refine (List.nodup_cons.mp (List.nodup_middle.mp hkeys)).1 ?_
    rw [hzkey, ← hwkey, ← List.map_append]
    exact List.mem_map_of_mem hw

section
variable {a b : α} {xs : List α}

omit [DecidableEq τ] in
/-- Whether the slot of `b` is free does not depend on an element of another
slot being removed. -/
private theorem free_eraseP_iff (hslot : slot a ≠ slot b) (ha : Agrees key slot a xs) :
    (∀ y ∈ xs.eraseP fun z => key z = key a, slot y ≠ slot b) ↔ ∀ y ∈ xs, slot y ≠ slot b := by
  constructor
  · intro h y hy heq
    by_cases hkey : key y = key a
    · exact hslot ((ha y hy hkey).symm.trans heq)
    · exact h y ((List.mem_eraseP_of_neg (by simpa using hkey)).mpr hy) heq
  · intro h y hy
    exact h y (List.mem_of_mem_eraseP hy)

/-- A removal commutes with any toggle of another key and slot, exactly. -/
theorem toggle_comm_of_mem (hkey : key a ≠ key b) (hslot : slot a ≠ slot b)
    (ha : Agrees key slot a xs) {y : α} (hy : y ∈ xs) (hya : key y = key a) :
    toggle key slot b (toggle key slot a xs) = toggle key slot a (toggle key slot b xs) := by
  rw [toggle_of_mem hy hya]
  by_cases hb : ∀ z ∈ xs, key z ≠ key b
  · -- `b` is appended, or refused, on both sides
    have hb' : ∀ z ∈ xs.eraseP fun z => key z = key a, key z ≠ key b :=
      fun z hz => hb z (List.mem_of_mem_eraseP hz)
    rw [toggle_of_absent hb, toggle_of_absent hb']
    by_cases hfree : ∀ z ∈ xs, slot z ≠ slot b
    · rw [if_pos hfree, if_pos ((free_eraseP_iff hslot ha).mpr hfree),
        toggle_of_mem (List.mem_append_left [b] hy) hya,
        List.eraseP_append_left (by simpa using hya) [b] hy]
    · rw [if_neg hfree, if_neg (fun h => hfree ((free_eraseP_iff hslot ha).mp h)),
        toggle_of_mem hy hya]
  · -- both are removed
    obtain ⟨z, hz, hzb⟩ : ∃ z ∈ xs, key z = key b := by
      simpa using hb
    have hza : z ∈ xs.eraseP fun z => key z = key a := by
      refine (List.mem_eraseP_of_neg ?_).mpr hz
      simpa [hzb] using hkey.symm
    have hyb : y ∈ xs.eraseP fun z => key z = key b := by
      refine (List.mem_eraseP_of_neg ?_).mpr hy
      simpa [hya] using hkey
    rw [toggle_of_mem hza hzb, toggle_of_mem hz hzb, toggle_of_mem hyb hya]
    refine List.eraseP_comm fun w _ => ?_
    by_cases hw : key w = key a
    · right
      simpa [hw] using hkey
    · left
      simpa using hw

/-- Two absent elements of different keys and slots do not get in each other's
way. -/
theorem toggle_comm_of_absent (hkey : key a ≠ key b) (hslot : slot a ≠ slot b)
    (ha : ∀ y ∈ xs, key y ≠ key a) (hb : ∀ y ∈ xs, key y ≠ key b) :
    (toggle key slot b (toggle key slot a xs)).Perm
      (toggle key slot a (toggle key slot b xs)) := by
  have hconcat : ∀ {a b : α}, key a ≠ key b → slot a ≠ slot b → (∀ y ∈ xs, key y ≠ key b) →
      toggle key slot b (xs ++ [a]) =
        if ∀ y ∈ xs, slot y ≠ slot b then xs ++ [a] ++ [b] else xs ++ [a] := by
    intro a b hkey hslot hb
    have hb' : ∀ y ∈ xs ++ [a], key y ≠ key b := by
      simpa [or_imp, forall_and] using ⟨hb, hkey⟩
    have hfree : (∀ y ∈ xs ++ [a], slot y ≠ slot b) ↔ ∀ y ∈ xs, slot y ≠ slot b := by
      simp [or_imp, forall_and, hslot]
    rw [toggle_of_absent hb']
    simp only [hfree]
  rw [toggle_of_absent ha, toggle_of_absent hb]
  by_cases hfa : ∀ y ∈ xs, slot y ≠ slot a
  · by_cases hfb : ∀ y ∈ xs, slot y ≠ slot b
    · rw [if_pos hfa, if_pos hfb, hconcat hkey hslot hb, hconcat hkey.symm hslot.symm ha,
        if_pos hfa, if_pos hfb, List.append_assoc, List.append_assoc]
      exact List.Perm.append_left xs (List.Perm.swap b a [])
    · rw [if_pos hfa, if_neg hfb, hconcat hkey hslot hb, if_neg hfb, toggle_of_absent ha,
        if_pos hfa]
  · by_cases hfb : ∀ y ∈ xs, slot y ≠ slot b
    · rw [if_neg hfa, if_pos hfb, hconcat hkey.symm hslot.symm ha, if_neg hfa,
        toggle_of_absent hb, if_pos hfb]
    · rw [if_neg hfa, if_neg hfb, toggle_of_absent ha, toggle_of_absent hb, if_neg hfa,
        if_neg hfb]

/-- **Toggles of different keys and slots commute**, up to the order of what
they append. -/
theorem toggle_comm (hkey : key a ≠ key b) (hslot : slot a ≠ slot b)
    (ha : Agrees key slot a xs) (hb : Agrees key slot b xs) :
    (toggle key slot b (toggle key slot a xs)).Perm
      (toggle key slot a (toggle key slot b xs)) := by
  by_cases hpa : ∀ y ∈ xs, key y ≠ key a
  · by_cases hpb : ∀ y ∈ xs, key y ≠ key b
    · exact toggle_comm_of_absent hkey hslot hpa hpb
    · obtain ⟨z, hz, hzb⟩ : ∃ z ∈ xs, key z = key b := by simpa using hpb
      rw [toggle_comm_of_mem hkey.symm hslot.symm hb hz hzb]
  · obtain ⟨y, hy, hya⟩ : ∃ y ∈ xs, key y = key a := by simpa using hpa
    rw [toggle_comm_of_mem hkey hslot ha hy hya]

/-- Toggling `b` does not change whether `a` is refused. -/
theorem rejects_toggle_iff (hkey : key a ≠ key b) (hslot : slot a ≠ slot b)
    (hb : Agrees key slot b xs) :
    Rejects key slot a (toggle key slot b xs) ↔ Rejects key slot a xs := by
  constructor
  · intro h
    obtain ⟨habsent, y, hy, hya⟩ := h
    refine ⟨?_, ?_⟩
    · intro z hz hza
      refine habsent z (mem_toggle_of_key_ne hz ?_) hza
      rw [hza]
      exact hkey
    · rcases mem_of_mem_toggle hy with hy | rfl
      · exact ⟨y, hy, hya⟩
      · exact absurd hya.symm hslot
  · intro h
    obtain ⟨habsent, y, hy, hya⟩ := h
    refine ⟨?_, y, mem_toggle_of_key_ne hy ?_, hya⟩
    · intro z hz
      rcases mem_of_mem_toggle hz with hz | rfl
      · exact habsent z hz
      · exact hkey.symm
    · -- an element with the key of `b` has its slot, not that of `a`
      intro hyb
      exact hslot (hya.symm.trans (hb y hy hyb))

end

/-- What a toggle appends, the next one removes. -/
theorem toggle_toggle_of_free {x : α} {xs : List α} (habsent : ∀ y ∈ xs, key y ≠ key x)
    (hfree : ∀ y ∈ xs, slot y ≠ slot x) :
    toggle key slot x xs = xs ++ [x] ∧ toggle key slot x (xs ++ [x]) = xs := by
  have hmem : x ∈ xs ++ [x] := List.mem_append_right xs List.mem_cons_self
  refine ⟨?_, ?_⟩
  · rw [toggle_of_absent habsent, if_pos hfree]
  · rw [toggle_of_mem hmem rfl, List.eraseP_append_right _ (by simpa using habsent),
      List.eraseP_cons_of_pos (by simp), List.append_nil]

/-- What a toggle removes, the next one appends: the slots are distinct, so the
slot of what was removed is free. -/
theorem toggle_toggle_of_mem {x y : α} {xs : List α} (hslots : (xs.map slot).Nodup)
    (hsame : ∀ z ∈ xs, key z = key x → z = x) (hy : y ∈ xs) (hkey : key y = key x) :
    ∃ before after, xs = before ++ x :: after ∧
      toggle key slot x xs = before ++ after ∧
      ¬Rejects key slot x (before ++ after) ∧
      toggle key slot x (before ++ after) = before ++ after ++ [x] := by
  obtain ⟨z, before, after, -, hz, hxs, herase⟩ :=
    List.exists_of_eraseP (p := fun z => decide (key z = key x)) hy (by simpa using hkey)
  have hzx : z = x := by
    refine hsame z ?_ (by simpa using hz)
    rw [hxs]
    exact List.mem_append_right before List.mem_cons_self
  subst hzx
  -- no other element has its slot, so none has its key
  have hfree : ∀ w ∈ before ++ after, slot w ≠ slot z := by
    rw [hxs, List.map_append, List.map_cons] at hslots
    have hnodup := (List.nodup_middle.mp hslots)
    intro w hw heq
    refine (List.nodup_cons.mp hnodup).1 ?_
    rw [← heq, ← List.map_append]
    exact List.mem_map_of_mem hw
  have habsent : ∀ w ∈ before ++ after, key w ≠ key z := by
    intro w hw hkey
    have hmem : w ∈ xs := by
      rw [hxs]
      exact (List.Sublist.append_left (List.sublist_cons_self z after) before).subset hw
    exact hfree w hw (congrArg slot (hsame w hmem hkey))
  refine ⟨before, after, hxs, ?_, ?_, ?_⟩
  · rw [toggle_of_mem hy hkey, herase]
  · intro hrejects
    obtain ⟨-, w, hw, hslot⟩ := hrejects
    exact hfree w hw hslot
  · rw [toggle_of_absent habsent, if_pos hfree]

end Scholarli.Base
