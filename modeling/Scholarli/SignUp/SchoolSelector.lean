import Scholarli.SignUp.Account

/-!
# `SchoolSelectorViewController`

The school list arrives once, in a callback of `viewDidLoad`, and preselects
its first entry. Every selection goes through `updateNewUser`, which writes
the school to `newUserData["school"]` at once and starts a course-list query
whose callback writes it a second time, from the copy it captured
(`courseListArrived`). The segue to the class chooser starts one more query,
for `currentSelection`.

`list[0]` and `skewls[row]` trap on an index out of range; a handler that
traps is `none`.
-/

namespace Scholarli

open Base (Value Dict)

structure SchoolSelectorViewController where
  listOfSchools : Option (List School) := some []
  currentSelection : Option School := none
  errorText : Label := ⟨some "Error Text", false⟩
  /-- The rows `SchoolPicker` offered at its last reload. -/
  schoolPickerRows : Nat := 0

namespace SchoolSelectorViewController

/-- `newUserData["school"] = school`. -/
def writeSchool (newUserData : Data) (school : Option School) : Data :=
  newUserData.assign "school" (school.map fun s => .boxed (.school s))

def viewDidLoad (vc : SchoolSelectorViewController) :
    SchoolSelectorViewController × List Call :=
  ({ vc with errorText := { vc.errorText with isHidden := true } }, [.getSchoolList])

def updateNewUser (vc : SchoolSelectorViewController) (newUserData : Data) :
    Reaction SchoolSelectorViewController where
  vc := vc
  -- the callback of the query writes the school once more
  newUserData := writeSchool newUserData vc.currentSelection
  calls := match vc.currentSelection with
    | some skewl => [.courseListForNewUser skewl]
    | none => []

def numberOfRowsInComponent (vc : SchoolSelectorViewController) : Nat :=
  match vc.listOfSchools with
  | some skewls => skewls.length
  | none => 1

/-- `pickerView(_:titleForRow:)`. -/
def titleForRow (vc : SchoolSelectorViewController) (row : Nat) : Option String :=
  match vc.listOfSchools with
  | some skewls => skewls[row]?.map (·.displayName)
  | none => some "Loading..."

/-- The callback of `getSchoolList` in `viewDidLoad`. -/
def schoolListArrived (vc : SchoolSelectorViewController) (newUserData : Data) :
    Option (List School) → Option (Reaction SchoolSelectorViewController)
  | none => some { vc, newUserData }
  | some list => do
    -- an empty list traps here
    let first ← list[0]?
    let vc := { vc with listOfSchools := some list, currentSelection := some first }
    let r := vc.updateNewUser newUserData
    return { r with vc := { r.vc with schoolPickerRows := r.vc.numberOfRowsInComponent } }

/-- `pickerView(_:didSelectRow:)`. -/
def didSelectRow (vc : SchoolSelectorViewController) (newUserData : Data) (row : Nat) :
    Option (Reaction SchoolSelectorViewController) :=
  match vc.listOfSchools with
  | some skewls => do
    let school ← skewls[row]?
    return { vc with currentSelection := some school }.updateNewUser newUserData
  | none => some { vc, newUserData }

def continueAction (vc : SchoolSelectorViewController) (newUserData : Data) :
    Reaction SchoolSelectorViewController :=
  match vc.currentSelection with
  | some _ => { vc, newUserData, segue := some "signUpSegueThree" }
  | none => { vc := { vc with errorText := ⟨some "Please Select a School", false⟩ }, newUserData }

/-- The queries that `prepare(for:sender:)` starts. -/
def prepare (vc : SchoolSelectorViewController) (identifier : String) : List Call :=
  if identifier = "signUpSegueThree" then
    match vc.currentSelection with
    | some school => [.courseListForChooseClasses school]
    | none => []
  else []

/-- The callback of the query that `updateNewUser` started for `skewl`. -/
def courseListArrived (newUserData : Data) (skewl : School) (crsList : List Course) : Data :=
  writeSchool newUserData (some { skewl with courseList := some crsList })

inductive Event where
  | schoolListArrived (schoolList : Option (List School))
  | didSelectRow (row : Nat)
  | continueAction
  | courseListArrived (skewl : School) (crsList : List Course)

/-- The picker reports only rows it offered. -/
def handle (vc : SchoolSelectorViewController) (newUserData : Data) :
    Event → Option (Reaction SchoolSelectorViewController)
  | .schoolListArrived schoolList => vc.schoolListArrived newUserData schoolList
  | .didSelectRow row =>
    if row < vc.schoolPickerRows then vc.didSelectRow newUserData row else none
  | .continueAction => some (vc.continueAction newUserData)
  | .courseListArrived skewl crsList =>
    some { vc, newUserData := courseListArrived newUserData skewl crsList }

@[simp] theorem schoolOf_writeSchool (newUserData : Data) (school : Option School) :
    schoolOf (writeSchool newUserData school) = school := by
  cases school <;> simp [schoolOf, writeSchool, Dict.cast, Value.boxed?, Boxed.school?]

/-- The three things a handler does: select a school (write it and query its
courses), nothing but perhaps leave with a selection, or write the captured
school a second time. -/
inductive Handles (vc : SchoolSelectorViewController) (newUserData : Data) :
    Event → Reaction SchoolSelectorViewController → Prop
  | select {e : Event} {vc' : SchoolSelectorViewController} (school : School)
      (hcurrent : vc'.currentSelection = some school)
      (hevent : (∃ list, e = .schoolListArrived list) ∨ ∃ row, e = .didSelectRow row) :
      Handles vc newUserData e
        { vc := vc', newUserData := writeSchool newUserData (some school),
          calls := [.courseListForNewUser school] }
  | keep {e : Event} {vc' : SchoolSelectorViewController} {segue : Option String}
      (hcurrent : vc'.currentSelection = vc.currentSelection)
      (hsegue : segue = none ∨ segue = some "signUpSegueThree" ∧ vc.currentSelection ≠ none) :
      Handles vc newUserData e { vc := vc', newUserData, segue }
  | rewrite (skewl : School) (crsList : List Course) :
      Handles vc newUserData (.courseListArrived skewl crsList)
        { vc, newUserData := courseListArrived newUserData skewl crsList }

theorem handles_of_handle {vc : SchoolSelectorViewController} {newUserData : Data} {e : Event}
    {r : Reaction SchoolSelectorViewController} (hr : vc.handle newUserData e = some r) :
    Handles vc newUserData e r := by
  cases e with
  | schoolListArrived schoolList =>
    cases schoolList with
    | none =>
      obtain rfl := Option.some.inj hr
      exact .keep rfl (Or.inl rfl)
    | some list =>
      obtain ⟨first, -, hr⟩ := Option.bind_eq_some_iff.mp hr
      obtain rfl := Option.some.inj hr
      exact .select first rfl (Or.inl ⟨_, rfl⟩)
  | didSelectRow row =>
    obtain ⟨-, hr⟩ := Option.ite_none_right_eq_some.mp hr
    unfold didSelectRow at hr
    split at hr
    next skewls _ =>
      obtain ⟨school, -, hr⟩ := Option.bind_eq_some_iff.mp hr
      obtain rfl := Option.some.inj hr
      exact .select school rfl (Or.inr ⟨row, rfl⟩)
    next =>
      obtain rfl := Option.some.inj hr
      exact .keep rfl (Or.inl rfl)
  | continueAction =>
    obtain rfl := Option.some.inj hr
    unfold continueAction
    split
    next school hsome => exact .keep rfl (Or.inr ⟨rfl, by rw [hsome]; simp⟩)
    next => exact .keep rfl (Or.inl rfl)
  | courseListArrived skewl crsList =>
    obtain rfl := Option.some.inj hr
    exact .rewrite skewl crsList

end SchoolSelectorViewController

end Scholarli
