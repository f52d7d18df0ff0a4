import Mathlib.Logic.Function.Basic

/-!
# String-keyed dictionaries of `Any`

A Swift value of type `[String : Any]` maps keys to values whose type is
only known at run time; readers get at them with conditional casts. This
file is that data type, for an arbitrary type `β` of Swift values that may
be boxed in an `Any` besides the plain ones:

* `Value β` — a boxed value. `null` is `NSNull`, and also a nil `Optional`
  that was boxed (a dictionary literal boxes the `Optional` itself).
* `Dict β` — the dictionary, as its lookup function. Two dictionaries are
  equal exactly when every lookup agrees, at every depth, which is what
  equality of Swift dictionaries means; the order of keys is not visible.
* `assign`/`set`/`setIfLet` — `d[k] = v` for an optional, a present and an
  `if let`-bound value. Assigning nil removes the key.
* `cast`/`castOptional` — `d[k] as? T` and `d[k] as? T?`. The second one
  succeeds with nil on an absent key, so "absent" and "of the wrong type"
  are told apart.
* `Occurs` — a value is part of another one, at any depth.
* `Storable` — no boxed Swift value anywhere, at any depth: what a document
  database can hold. `Document` carries the proof.
-/

namespace Scholarli.Base

/-- A value of static type `Any`. `other` stands for the storable kinds that
no reader asks for (timestamps, bytes, references, fractional numbers). -/
inductive Value (β : Type) where
  | string (s : String)
  | int (n : Int)
  | bool (b : Bool)
  | null
  | array (xs : List (Value β))
  | dict (d : String → Option (Value β))
  | other (kind : String)
  | boxed (b : β)

/-- A `[String : Any]` dictionary, as its lookup function. -/
abbrev Dict (β : Type) := String → Option (Value β)

variable {α β : Type}

namespace Value

/-- `as? String` on a boxed value. -/
def string? : Value β → Option String
  | .string s => some s
  | _ => none

theorem string?_eq_some_iff {v : Value β} {s : String} :
    v.string? = some s ↔ v = .string s := by
  cases v <;> simp [string?]

/-- `as? Int` on a boxed value. A stored boolean comes back as an `NSNumber`,
which bridges to `0` or `1`. -/
def int? : Value β → Option Int
  | .int n => some n
  | .bool b => some (if b then 1 else 0)
  | _ => none

/-- `as? [String : Any]` on a boxed value. -/
def dict? : Value β → Option (Dict β)
  | .dict d => some d
  | _ => none

/-- `as? T` for a boxed Swift type, recognised by `f`. -/
def boxed? (f : β → Option α) : Value β → Option α
  | .boxed b => f b
  | _ => none

/-- `w` is the value itself, or occurs in an element or under a key of it. -/
inductive Occurs (w : Value β) : Value β → Prop
  | here : Occurs w w
  | array {xs : List (Value β)} {x : Value β} (hx : x ∈ xs) (h : Occurs w x) :
      Occurs w (.array xs)
  | dict {d : Dict β} {k : String} {v : Value β} (hk : d k = some v) (h : Occurs w v) :
      Occurs w (.dict d)

theorem Occurs.trans {u v w : Value β} (huv : Occurs u v) (hvw : Occurs v w) : Occurs u w := by
  induction hvw with
  | here => exact huv
  | array hx _ ih => exact .array hx ih
  | dict hk _ ih => exact .dict hk ih

/-- No boxed Swift value occurs in the value, at any depth. -/
inductive Storable : Value β → Prop
  | string (s : String) : Storable (.string s)
  | int (n : Int) : Storable (.int n)
  | bool (b : Bool) : Storable (.bool b)
  | null : Storable .null
  | array {xs : List (Value β)} (h : ∀ x ∈ xs, Storable x) : Storable (.array xs)
  | dict {d : Dict β} (h : ∀ k v, d k = some v → Storable v) : Storable (.dict d)
  | other (kind : String) : Storable (.other kind)

/-- A storable value is no Swift value of any boxed type. -/
theorem Storable.boxed?_eq_none {v : Value β} (h : v.Storable) (f : β → Option α) :
    v.boxed? f = none := by
  cases h <;> rfl

end Value

namespace Dict

/-- `[:]`. -/
def empty : Dict β := fun _ => none

/-- `d[k] = v` for an optional `v`: nil removes the key. -/
def assign (d : Dict β) (k : String) (v : Option (Value β)) : Dict β :=
  Function.update d k v

/-- `d[k] = v` for a value. -/
def set (d : Dict β) (k : String) (v : Value β) : Dict β :=
  d.assign k (some v)

/-- `if let v = v { d[k] = v }`: nil leaves the dictionary alone. -/
def setIfLet (d : Dict β) (k : String) : Option (Value β) → Dict β
  | none => d
  | some v => d.set k v

/-- `d[k] as? T`. -/
def cast (d : Dict β) (k : String) (as : Value β → Option α) : Option α :=
  (d k).bind as

/-- `d[k] as? T?`: succeeds with nil on an absent or null entry. -/
def castOptional (d : Dict β) (k : String) (as : Value β → Option α) :
    Option (Option α) :=
  match d k with
  | none => some none
  | some .null => some none
  | some v => (as v).map some

@[simp] theorem empty_apply (k : String) : (empty : Dict β) k = none := rfl

@[simp] theorem assign_apply (d : Dict β) (k k' : String) (v : Option (Value β)) :
    d.assign k v k' = if k' = k then v else d k' :=
  Function.update_apply d k v k'

@[simp] theorem set_apply (d : Dict β) (k k' : String) (v : Value β) :
    d.set k v k' = if k' = k then some v else d k' :=
  assign_apply d k k' (some v)

/-- The entry written by `if let` is the bound value, when the key was absent. -/
@[simp] theorem setIfLet_apply (d : Dict β) (k k' : String) (v : Option (Value β)) :
    d.setIfLet k v k' = if k' = k then v <|> d k' else d k' := by
  cases v <;> simp [setIfLet]

/-- Every value of the dictionary is storable. -/
def Storable (d : Dict β) : Prop := ∀ k v, d k = some v → v.Storable

theorem Storable.empty : (empty : Dict β).Storable :=
  fun _ _ h => nomatch h

theorem Storable.set {d : Dict β} (h : d.Storable) (k : String) {v : Value β}
    (hv : v.Storable) : (d.set k v).Storable := by
  intro k' v' h'
  rw [set_apply] at h'
  split at h'
  next =>
    obtain rfl := Option.some.inj h'
    exact hv
  next => exact h k' v' h'

theorem Storable.setIfLet {d : Dict β} (h : d.Storable) (k : String)
    {v : Option (Value β)} (hv : ∀ w, v = some w → w.Storable) :
    (d.setIfLet k v).Storable := by
  cases v with
  | none => exact h
  | some w => exact h.set k (hv w rfl)

/-- A dictionary of storable values never holds a boxed Swift value, so a cast
to an optional one comes out nil, whether it fails or succeeds. -/
theorem Storable.castOptional_boxed {d : Dict β} (h : d.Storable) (k : String)
    (f : β → Option α) :
    d.castOptional k (Value.boxed? f) = none ∨
    d.castOptional k (Value.boxed? f) = some none := by
  unfold castOptional
  split
  next => exact Or.inr rfl
  next => exact Or.inr rfl
  next v _ hv =>
    left
    rw [(h k v hv).boxed?_eq_none]
    rfl

end Dict

/-- A stored document: a dictionary with the proof that it can be stored. -/
structure Document (β : Type) where
  data : Dict β
  storable : data.Storable

end Scholarli.Base
