import Scholarli.Base.Dict

/-!
# What one value has of another

A reader asks a dictionary for some of its entries and gets plain values; a
dictionary that was put together from them has no more than the one they were
read from. `Value.Within` says "no more than", at every depth. `Dict.Offers`
is one entry of it: whatever is read from an entry, the dictionary offers
(`offers_string`, `offers_int`, `offers_optional`), and a dictionary all of
whose entries are offered is within (`within_set`, `within_setIfLet`).
-/

namespace Scholarli.Base

variable {β : Type}

namespace Value

/-- What the first value has, the second one has: the same plain value, up to
the bridging of booleans, and every entry of a dictionary, at any depth. -/
inductive Within : Value β → Value β → Prop
  | same (v : Value β) : Within v v
  | bridged (b : Bool) : Within (.int (if b then 1 else 0)) (.bool b)
  | dict {d d' : Dict β} (hkeys : ∀ k, d' k = none → d k = none)
      (h : ∀ k v v', d k = some v → d' k = some v' → Within v v') :
      Within (.dict d) (.dict d')

/-- The number that is read from a value is within it. -/
theorem within_of_int? {v : Value β} {n : Int} (h : v.int? = some n) : Within (.int n) v := by
  cases v with
  | int m =>
    obtain rfl : m = n := Option.some.inj h
    exact .same _
  | bool b =>
    obtain rfl := Option.some.inj h
    exact .bridged b
  | string _ | null | array _ | dict _ | other _ | boxed _ => cases h

end Value

namespace Dict

/-- An entry of the dictionary has at least what the value has. -/
def Offers (d : Dict β) (k : String) (v : Value β) : Prop :=
  ∃ v', d k = some v' ∧ v.Within v'

/-- A dictionary is within another one that offers all its entries. -/
theorem within_iff {d d' : Dict β} :
    (Value.dict d).Within (.dict d') ↔ ∀ k v, d k = some v → d'.Offers k v := by
  refine ⟨?_, ?_⟩
  · intro h k v hv
    cases h with
    | same _ => exact ⟨v, hv, .same v⟩
    | dict hkeys h =>
      cases hv' : d' k with
      | none =>
        rw [hkeys k hv'] at hv
        cases hv
      | some v' => exact ⟨v', hv', h k v v' hv hv'⟩
  · intro h
    refine .dict ?_ ?_
    · intro k hnone
      cases hv : d k with
      | none => rfl
      | some v =>
        obtain ⟨v', hv', -⟩ := h k v hv
        rw [hnone] at hv'
        cases hv'
    · intro k v v' hv hv'
      obtain ⟨w, hw, hwithin⟩ := h k v hv
      rw [hv'] at hw
      obtain rfl := Option.some.inj hw
      exact hwithin

variable {d d' : Dict β}

theorem within_empty : (Value.dict (Dict.empty : Dict β)).Within (.dict d') := by
  refine within_iff.mpr ?_
  intro k v hv
  cases hv

theorem within_set {k : String} {v : Value β} (h : (Value.dict d).Within (.dict d'))
    (hoffers : d'.Offers k v) : (Value.dict (d.set k v)).Within (.dict d') := by
  refine within_iff.mpr ?_
  intro k' v' hv'
  rw [set_apply] at hv'
  by_cases hk : k' = k
  · rw [if_pos hk] at hv'
    obtain rfl := Option.some.inj hv'
    rw [hk]
    exact hoffers
  · rw [if_neg hk] at hv'
    exact within_iff.mp h k' v' hv'

theorem within_setIfLet {k : String} {v : Option (Value β)}
    (h : (Value.dict d).Within (.dict d')) (hoffers : ∀ w, v = some w → d'.Offers k w) :
    (Value.dict (d.setIfLet k v)).Within (.dict d') := by
  cases v with
  | none => exact h
  | some w => exact within_set h (hoffers w rfl)

/-! What is read from an entry, the entry offers. -/

theorem offers_string {k s : String} (h : d.cast k Value.string? = some s) :
    d.Offers k (.string s) := by
  obtain ⟨v, hv, hs⟩ := Option.bind_eq_some_iff.mp h
  obtain rfl := Value.string?_eq_some_iff.mp hs
  exact ⟨_, hv, .same _⟩

theorem offers_int {k : String} {n : Int} (h : d.cast k Value.int? = some n) :
    d.Offers k (.int n) := by
  obtain ⟨v, hv, hn⟩ := Option.bind_eq_some_iff.mp h
  exact ⟨v, hv, Value.within_of_int? hn⟩

/-- An optional entry is offered when it is there. -/
theorem offers_optional {k : String} {s : Option String}
    (h : d.castOptional k Value.string? = some s) :
    ∀ w, s.map Value.string = some w → d.Offers k w := by
  intro w hw
  obtain ⟨text, rfl, rfl⟩ := Option.map_eq_some_iff.mp hw
  unfold castOptional at h
  split at h
  next => cases h
  next => cases h
  next v _ hv =>
    obtain ⟨text', htext, hsome⟩ := Option.map_eq_some_iff.mp h
    obtain rfl := Option.some.inj hsome
    obtain rfl := Value.string?_eq_some_iff.mp htext
    exact ⟨_, hv, .same _⟩

end Dict

end Scholarli.Base
