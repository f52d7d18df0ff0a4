import Mathlib.Data.Finmap
import Scholarli.Database.Handlers

/-!
# The verdict on a username

`verifyUsername` goes through `data?.values`, the values of a dictionary in
whatever order they come, and has two early exits with different answers:
"taken" at the name it looks for, and no answer at a value that is no string.
`loop_eq_scan` puts the loop into that form (`Base.scan`), so the verdict does
not depend on the order exactly if the document does not make both exits
possible: `username_verdict_iff`.

The document is a finite map, and an order of its values is a list with the
same values, each as often.
-/

namespace Scholarli

open Base

/-- The document of all usernames: any map from strings to values. -/
abbrev UsernamesDocument := Finmap fun _ : String => Value Boxed

namespace UsernamesDocument

/-- An order in which the values of the dictionary may be enumerated. -/
def Enumerates (data : UsernamesDocument) (names : List (Value Boxed)) : Prop :=
  (names : Multiset (Value Boxed)) = data.entries.map fun entry => entry.2

/-- The name is among the values. -/
def Has (data : UsernamesDocument) (username : String) : Prop :=
  ∃ key, data.lookup key = some (.string username)

/-- Some value is no string. -/
def Malformed (data : UsernamesDocument) : Prop :=
  ∃ key v, data.lookup key = some v ∧ v.string? = none

theorem exists_enumerates (data : UsernamesDocument) : ∃ names, data.Enumerates names :=
  Quotient.exists_rep (data.entries.map fun entry => entry.2)

theorem Enumerates.perm_iff {data : UsernamesDocument} {names names' : List (Value Boxed)}
    (h : data.Enumerates names) : data.Enumerates names' ↔ names'.Perm names := by
  unfold Enumerates at h ⊢
  rw [← h, Multiset.coe_eq_coe]

theorem Enumerates.mem_iff {data : UsernamesDocument} {names : List (Value Boxed)}
    (h : data.Enumerates names) {v : Value Boxed} :
    v ∈ names ↔ ∃ key, data.lookup key = some v := by
  rw [← Multiset.mem_coe, show (names : Multiset (Value Boxed)) = _ from h, Multiset.mem_map]
  constructor
  · intro hmem
    obtain ⟨⟨key, v'⟩, hentry, rfl⟩ := hmem
    exact ⟨key, Finmap.lookup_eq_some_iff.mpr hentry⟩
  · intro hlookup
    obtain ⟨key, hkey⟩ := hlookup
    exact ⟨⟨key, v⟩, Finmap.lookup_eq_some_iff.mp hkey, rfl⟩

end UsernamesDocument

namespace verifyUsername

/-- What a value makes the loop return, if it is one of the two exits. -/
def exit (username : String) (name : Value Boxed) : Option (Option Bool) :=
  match name.string? with
  | some n => if n = username then some (some false) else none
  | none => some none

theorem loop_eq_scan (username : String) : ∀ listOfNames : List (Value Boxed),
    loop username listOfNames = scan (exit username) (some true) listOfNames
  | [] => rfl
  | name :: listOfNames => by
    unfold loop scan
    rw [loop_eq_scan username listOfNames]
    cases hname : name.string? with
    | none => simp [exit, hname]
    | some n =>
      by_cases hn : n = username
      · simp [exit, hname, hn]
      · simp [exit, hname, hn]

theorem exit_eq_some_iff {username : String} {name : Value Boxed} {verdict : Option Bool} :
    exit username name = some verdict ↔
    name = .string username ∧ verdict = some false ∨ name.string? = none ∧ verdict = none := by
  unfold exit
  cases hname : name.string? with
  | none =>
    have hne : name ≠ .string username := by
      intro heq
      rw [heq] at hname
      cases hname
    simp [hne, eq_comm]
  | some n =>
    obtain rfl := Value.string?_eq_some_iff.mp hname
    by_cases hn : n = username
    · simp [hn, eq_comm]
    · simp [hn]

/-- The two exits disagree, and either one agrees with itself. -/
theorem exits_agree_iff (username : String) (names : List (Value Boxed)) :
    (∀ x ∈ names, ∀ y ∈ names, ∀ a b, exit username x = some a → exit username y = some b →
      a = b) ↔
    ¬(.string username ∈ names ∧ ∃ v ∈ names, v.string? = none) := by
  constructor
  · intro h hboth
    obtain ⟨hname, v, hv, hnone⟩ := hboth
    have heq := h _ hname v hv (some false) none (exit_eq_some_iff.mpr (Or.inl ⟨rfl, rfl⟩))
      (exit_eq_some_iff.mpr (Or.inr ⟨hnone, rfl⟩))
    cases heq
  · intro h x hx y hy a b ha hb
    rcases exit_eq_some_iff.mp ha with ⟨rfl, rfl⟩ | ⟨hxnone, rfl⟩
    · rcases exit_eq_some_iff.mp hb with ⟨-, rfl⟩ | ⟨hynone, -⟩
      · rfl
      · exact absurd ⟨hx, y, hy, hynone⟩ h
    · rcases exit_eq_some_iff.mp hb with ⟨rfl, -⟩ | ⟨-, rfl⟩
      · exact absurd ⟨hy, x, hx, hxnone⟩ h
      · rfl

/-- What `verifyUsername` calls its completion with, for the values in this
order. -/
def passes (username : String) (names : List (Value Boxed)) : List (Option Bool) :=
  calls fun completion => handler username completion (.values names)

theorem passes_eq (username : String) (names : List (Value Boxed)) :
    passes username names = [scan (exit username) (some true) names] := by
  rw [← loop_eq_scan]
  exact calls_of_eq_elim (x := some (verifyUsername username (.values names)))
    fun completion => handler_eq username completion (.values names)

end verifyUsername

open verifyUsername

/-- Two orders of the values are given the same verdict. -/
def OrderIndependent (data : UsernamesDocument) (username : String) : Prop :=
  ∀ names names', data.Enumerates names → data.Enumerates names' →
    passes username names = passes username names'

/-- Of a document of strings the verdict is whether the name is among them. -/
def DecidesStrings (data : UsernamesDocument) (username : String) : Prop :=
  ¬data.Malformed → ∀ names, data.Enumerates names →
    (data.Has username → passes username names = [some false]) ∧
    (¬data.Has username → passes username names = [some true])

theorem orderIndependent_iff (data : UsernamesDocument) (username : String) :
    OrderIndependent data username ↔ ¬(data.Has username ∧ data.Malformed) := by
  obtain ⟨names, hnames⟩ := data.exists_enumerates
  have horders : OrderIndependent data username ↔
      ∀ names', names'.Perm names →
        scan (exit username) (some true) names' = scan (exit username) (some true) names := by
    unfold OrderIndependent
    simp only [passes_eq, List.cons.injEq, and_true, hnames.perm_iff]
    constructor
    · intro h names' hperm
      exact h names' names hperm (List.Perm.refl names)
    · intro h names₁ names₂ h₁ h₂
      rw [h names₁ h₁, h names₂ h₂]
  have hmalformed : data.Malformed ↔ ∃ v ∈ names, v.string? = none := by
    unfold UsernamesDocument.Malformed
    simp only [hnames.mem_iff]
    exact exists_comm.trans (by simp)
  rw [horders, scan_perm_iff, exits_agree_iff, hnames.mem_iff, hmalformed]
  rfl

theorem decidesStrings (data : UsernamesDocument) (username : String) :
    DecidesStrings data username := by
  intro hstrings names hnames
  have hexit : ∀ v ∈ names, ∀ verdict, exit username v = some verdict →
      v = .string username ∧ verdict = some false := by
    intro v hv verdict hverdict
    rcases exit_eq_some_iff.mp hverdict with h | ⟨hnone, -⟩
    · exact h
    · obtain ⟨key, hkey⟩ := hnames.mem_iff.mp hv
      exact absurd ⟨key, v, hkey, hnone⟩ hstrings
  rw [passes_eq]
  rcases scan_cases (exit username) (some true) names with
    ⟨hnone, hscan⟩ | ⟨v, hv, hanswer⟩
  · refine ⟨?_, fun _ => by rw [hscan]⟩
    intro hhas
    have hfound := hnone _ (hnames.mem_iff.mpr hhas)
    rw [exit_eq_some_iff.mpr (Or.inl ⟨rfl, rfl⟩)] at hfound
    cases hfound
  · obtain ⟨rfl, hverdict⟩ := hexit v hv _ hanswer
    refine ⟨fun _ => by rw [hverdict], ?_⟩
    intro hnot
    exact absurd (hnames.mem_iff.mp hv) hnot

/-- **When the verdict does not depend on the order** in which the dictionary
is enumerated: exactly if the document does not have both the name and a value
that is no string. Of strings the verdict is always right. -/
theorem username_verdict_iff (data : UsernamesDocument) (username : String) :
    (OrderIndependent data username ∧ DecidesStrings data username) ↔
    ¬((∃ key, data.lookup key = some (.string username)) ∧
      ∃ key v, data.lookup key = some v ∧ v.string? = none) := by
  rw [and_iff_left (decidesStrings data username)]
  exact orderIndependent_iff data username

/-- The name "ada" beside a number. -/
def adaAndSeven : UsernamesDocument :=
  [⟨"0", .string "ada"⟩, ⟨"1", .int 7⟩].toFinmap

/-- "ada" is taken if it comes first, and there is no answer if the number does. -/
theorem username_verdict_depends_on_order :
    ¬(OrderIndependent adaAndSeven "ada" ∧ DecidesStrings adaAndSeven "ada") := by
  intro h
  have hname : adaAndSeven.Enumerates [.string "ada", .int 7] := rfl
  have hnumber : adaAndSeven.Enumerates [.int 7, .string "ada"] :=
    Multiset.coe_eq_coe.mpr (List.Perm.swap _ _ [])
  have heq : [some false] = [none] := h.1 _ _ hname hnumber
  cases heq

end Scholarli
