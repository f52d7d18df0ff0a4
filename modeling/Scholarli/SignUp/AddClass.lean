import Scholarli.SignUp.ChooseClasses

/-!
# `AddClassViewController`

The form for a new class: title, room, and one picker that serves teachers
or periods, according to `currentSelectorItem`; a popup adds a teacher to
the staff. The form's data is collected in the untyped `classData`, and
`updateUserInfo` copies only the picker value of the *current* mode there.

Mirroring notes:
- A picker reports only rows that it offered at its last reload; whether it
  is hidden at that moment is not assumed (a spinning wheel may settle late).
- While an alert is up, its button is the only thing that can be tapped. The
  success alert carries the course it was built for; if building the course
  threw, it has no button at all. The alert of a refused teacher changes
  nothing and is left out.
- `UITextField.text` reads back as the empty string after it is set to nil.
- The five controls that the popup disables are set together: `formEnabled`.
  A disabled text field that is being edited can still change.
- Button titles, animations, hidden flags and the position of a picker are
  left out: no handler reads them.
-/

namespace Scholarli

open Base (Value Dict)

inductive CurrentSelector where
  | teacher | period
  deriving Repr, DecidableEq

structure AddClassViewController where
  school : Option School := none
  classTitle : Option String := some ""
  roomNumber : Option String := some ""
  currentSelectorItem : CurrentSelector := .teacher
  classData : Data := Dict.empty
  currentPeriod : Option Int := none
  currentTeacher : Option Faculty := none
  currentTeacherRow : Option Nat := none
  scheduleToReturn : Option Schedule := none
  errorClass : Label := ⟨some "Error Text", false⟩
  teacherFirst : Option String := some ""
  teacherLast : Option String := some ""
  currentNewTeacherTitle : Option FacTitle := none
  addTeacherData : Data := Dict.empty
  /-- The rows `Picker` offered at its last reload. -/
  pickerRows : Nat := 0
  /-- The controls of the form are enabled. -/
  formEnabled : Bool := true
  /-- `TeacherView` is on screen. -/
  teacherViewShown : Bool := false
  /-- The success alert, with the course its button is for. -/
  successAlert : Option (Option Course) := none

namespace AddClassViewController

def periodCount (vc : AddClassViewController) : Option Int :=
  vc.school.bind (·.maxStudentCourseLoad)

/-- The row of `Picker` that the period was picked in. -/
def currentPeriodRow (vc : AddClassViewController) : Option Int :=
  vc.currentPeriod.map fun per => per - 1

def viewDidLoad (vc : AddClassViewController) : AddClassViewController :=
  { vc with errorClass := { vc.errorClass with isHidden := true } }

def updateUserInfo (vc : AddClassViewController) : AddClassViewController :=
  { vc with
    classData :=
      let classData := vc.classData
        |>.setIfLet "displayName" (vc.classTitle.map .string)
        |>.setIfLet "classroom" (vc.roomNumber.map .string)
      -- of the two picker values only that of the current mode is copied
      let classData := match vc.currentSelectorItem with
        | .period => classData.setIfLet "period" (vc.currentPeriod.map .int)
        | .teacher =>
          classData.setIfLet "teacher" (vc.currentTeacher.map fun t => .boxed (.faculty t))
      classData.setIfLet "schoolId" (vc.school.map fun s => .string s.id) }

/-! ## The pickers -/

/-- `pickerView(_:numberOfRowsInComponent:)` for `Picker`. -/
def numberOfRowsInComponent (vc : AddClassViewController) : Nat :=
  match vc.currentSelectorItem with
  | .teacher =>
    match vc.school with
    | some school =>
      match school.staff with
      | some fac => fac.length
      | none => 1
    | none => 1
  | .period =>
    match vc.periodCount with
    | some periods => periods.toNat
    | none => 1

/-- `pickerView(_:titleForRow:)` for `Picker`; `none` is an index out of range. -/
def titleForRow (vc : AddClassViewController) (row : Nat) : Option String :=
  match vc.currentSelectorItem with
  | .teacher =>
    match vc.school with
    | some school =>
      match school.staff with
      | some fac => fac[row]?.map (·.fullLastName)
      | none => some "No Teachers Available"
    | none => some "error"
  | .period => some (toString (row + 1))

/-- `pickerView(_:titleForRow:)` for `TeacherPicker`, which has a row for each
of `FacTitle.count` titles. -/
def teacherTitleForRow (row : Nat) : Option String :=
  FacTitle.allValues[row]?.map (·.rawValue)

/-- `self.Picker.reloadAllComponents()`. -/
def reloadAllComponents (vc : AddClassViewController) : AddClassViewController :=
  { vc with pickerRows := vc.numberOfRowsInComponent }

/-- `pickerView(_:didSelectRow:)` for `Picker`; `none` is an index out of range. -/
def pickerDidSelectRow (vc : AddClassViewController) (row : Nat) :
    Option AddClassViewController :=
  match vc.currentSelectorItem with
  | .teacher =>
    match vc.school.bind (·.staff) with
    | some fac => do
      let teacher ← fac[row]?
      return { vc with currentTeacher := some teacher, currentTeacherRow := some row }
    | none => some vc
  | .period => some { vc with currentPeriod := some (row + 1) }

/-- `pickerView(_:didSelectRow:)` for `TeacherPicker`. -/
def teacherPickerDidSelectRow (vc : AddClassViewController) (row : Nat) :
    Option AddClassViewController :=
  FacTitle.allValues[row]?.map fun title => { vc with currentNewTeacherTitle := some title }

/-! ## The form -/

/-- The begin and end actions of the two text fields. -/
inductive TextFieldAction where
  | titleStart | roomNumStart | title | roomNum
  deriving Repr, DecidableEq

def textField (vc : AddClassViewController) : TextFieldAction → AddClassViewController
  | .titleStart | .roomNumStart | .title | .roomNum => vc.updateUserInfo

/-- `Teacher(_:)`: the present mode is flushed before it is left. -/
def teacher (vc : AddClassViewController) : AddClassViewController :=
  { vc.updateUserInfo with currentSelectorItem := .teacher }.reloadAllComponents

/-- `Period(_:)`. -/
def period (vc : AddClassViewController) : AddClassViewController :=
  { vc.updateUserInfo with currentSelectorItem := .period }.reloadAllComponents

def verification (vc : AddClassViewController) : Option String :=
  let returnStr :=
    (if UserInfoViewController.isMissing vc.classTitle then "Please specify a class title. "
      else "")
      ++ (if vc.currentTeacher.isNone then "Please select a teacher. " else "")
      ++ (if vc.currentPeriod.isNone then "Please choose a period. " else "")
  if returnStr = "" then none else some returnStr

/-- `AddClass(_:)`, with the identifier of the new document. -/
def addClass (vc : AddClassViewController) (documentID : String) : AddClassViewController :=
  let vc := vc.updateUserInfo
  match vc.verification with
  | some errorMessage => { vc with errorClass := ⟨some errorMessage, false⟩ }
  | none =>
    let vc := { vc with errorClass := { vc.errorClass with isHidden := true } }
    match vc.school with
    | none => vc
    | some _ =>
      match Course.ofRefData documentID vc.classData with
      | .ok newCrs => { vc with successAlert := some (some newCrs) }
      | .error _ => { vc with successAlert := some none }

/-- The handler of the success alert's button, up to the segue. -/
def okHandler (vc : AddClassViewController) (newCrs : Course) : AddClassViewController :=
  let result := verifyNewCourseToSchedule newCrs vc.scheduleToReturn
  { vc with
    successAlert := none
    -- without a schedule the check passes, and the append does nothing
    scheduleToReturn :=
      if result then appendCourse vc.scheduleToReturn newCrs else vc.scheduleToReturn }

/-! ## The popup -/

def addTeacher (vc : AddClassViewController) : AddClassViewController :=
  { vc with teacherViewShown := true, formEnabled := false, currentNewTeacherTitle := some .Mr }

def updateNewTeacherInfo (vc : AddClassViewController) : AddClassViewController :=
  { vc with
    addTeacherData := vc.addTeacherData
      |>.setIfLet "firstName" (vc.teacherFirst.map .string)
      |>.setIfLet "lastName" (vc.teacherLast.map .string)
      |>.setIfLet "title" (vc.currentNewTeacherTitle.map fun t => .boxed (.facTitle t)) }

/-- The begin and end actions of the two name fields. -/
inductive NameFieldAction where
  | firstNameStart | firstNameEnd | lastNameStart | lastNameEnd
  deriving Repr, DecidableEq

def nameField (vc : AddClassViewController) : NameFieldAction → AddClassViewController
  | .firstNameStart | .firstNameEnd | .lastNameStart | .lastNameEnd => vc.updateNewTeacherInfo

def verifyNewTeacher (vc : AddClassViewController) : Option String :=
  let returnStr :=
    (if UserInfoViewController.isMissing vc.teacherLast then "Please Specify a Last Name. "
      else "")
      ++ (if vc.currentNewTeacherTitle.isNone then "Please select a Title. " else "")
  if returnStr = "" then none else some returnStr

/-- What both ways out of the popup end with. -/
def closeTeacherView (vc : AddClassViewController) : AddClassViewController :=
  { vc.reloadAllComponents with
    teacherViewShown := false, formEnabled := true
    teacherLast := some "", teacherFirst := some "" }

/-- `self.school?.Staff?.append(teacher)`. -/
def appendStaff (vc : AddClassViewController) (teacher : Faculty) : AddClassViewController :=
  { vc with school := vc.school.map fun s => { s with staff := s.staff.map (· ++ [teacher]) } }

/-- `endAddTeacher(_:)`, with the identifier of the new document. -/
def endAddTeacher (vc : AddClassViewController) (documentID : String) :
    AddClassViewController :=
  let vc := vc.updateNewTeacherInfo
  match vc.verifyNewTeacher with
  | some _ => vc
  | none =>
    match vc.school with
    | none => vc.closeTeacherView
    | some _ =>
      match Faculty.ofRefData documentID vc.addTeacherData with
      | .ok teacher => (vc.appendStaff teacher).closeTeacherView
      | .error _ => vc.closeTeacherView

/-! ## Events -/

inductive Event where
  | editClassTitle (text : String)
  | editRoomNumber (text : String)
  | textField (action : TextFieldAction)
  | teacher
  | period
  | pickerDidSelectRow (row : Nat)
  | teacherPickerDidSelectRow (row : Nat)
  | addTeacher
  | editTeacherFirst (text : String)
  | editTeacherLast (text : String)
  | nameField (action : NameFieldAction)
  | endAddTeacher (documentID : String)
  | cancelAddTeacher
  | addClass (documentID : String)
  | ok
  | cancel

/-- The event on a form without an alert. -/
def formStep (vc : AddClassViewController) : Event → Option AddClassViewController
  | .editClassTitle text => some { vc with classTitle := some text }
  | .editRoomNumber text => some { vc with roomNumber := some text }
  | .textField action => some (vc.textField action)
  | .teacher => if vc.formEnabled then some vc.teacher else none
  | .period => if vc.formEnabled then some vc.period else none
  | .pickerDidSelectRow row => if row < vc.pickerRows then vc.pickerDidSelectRow row else none
  | .teacherPickerDidSelectRow row =>
    if row < FacTitle.count then vc.teacherPickerDidSelectRow row else none
  | .addTeacher => some vc.addTeacher
  | .editTeacherFirst text => some { vc with teacherFirst := some text }
  | .editTeacherLast text => some { vc with teacherLast := some text }
  | .nameField action => some (vc.nameField action)
  | .endAddTeacher documentID =>
    if vc.teacherViewShown then some (vc.endAddTeacher documentID) else none
  | .cancelAddTeacher => if vc.teacherViewShown then some vc.closeTeacherView else none
  | .addClass documentID => if vc.formEnabled then some (vc.addClass documentID) else none
  | .ok => none
  | .cancel => some vc

/-- The view controller's part of handling an event. -/
def step (vc : AddClassViewController) (e : Event) : Option AddClassViewController :=
  match vc.successAlert with
  | none => vc.formStep e
  | some newCrs? =>
    match newCrs?, e with
    | some newCrs, .ok => some (vc.okHandler newCrs)
    | _, _ => none

/-- The segue an event performs. -/
def segue : Event → Option String
  | .ok => some "returnToSignUpChooseClass"
  | .cancel => some "cancelAddClass"
  | _ => none

def handle (vc : AddClassViewController) (newUserData : Data) (e : Event) :
    Option (Reaction AddClassViewController) :=
  (vc.step e).map fun vc => { vc, newUserData, segue := segue e }

/-- The queries that `prepare(for:sender:)` starts: the same for both ways out. -/
def prepare (identifier : String) (newUserData : Data) : List Call :=
  if identifier = "cancelAddClass" ∨ identifier = "returnToSignUpChooseClass" then
    match schoolOf newUserData with
    | some school => [.courseListForReturn identifier school]
    | none => []
  else []

end AddClassViewController

/-- What `ChooseClassesViewController.prepare(for:sender:)` assigns to the form. -/
def ChooseClassesViewController.prepareAddClass (vc : ChooseClassesViewController)
    (identifier : String) (destinationVC : AddClassViewController) : AddClassViewController :=
  if identifier = "chooseClassToAddClass" then
    { destinationVC with school := vc.userSchool, scheduleToReturn := vc.currentUserSchedule }
  else destinationVC

/-! ## What an event does to the schedule -/

/-- A new course has the id of its document and the period that was read. -/
theorem Course.ofRefData_ok {documentID : String} {data : Data} {course : Course}
    (h : Course.ofRefData documentID data = .ok course) :
    course.id = documentID ∧ data.cast "period" Value.int? = some course.period := by
  unfold Course.ofRefData at h
  obtain ⟨displayName, -, h⟩ := guardLet_bind_ok h
  obtain ⟨teacher, -, h⟩ := guardLet_bind_ok h
  obtain ⟨schoolId, -, h⟩ := guardLet_bind_ok h
  obtain ⟨period, hperiod, h⟩ := guardLet_bind_ok h
  obtain ⟨classroom, -, h⟩ := guardLet_bind_ok h
  obtain rfl := Except.ok.inj h
  exact ⟨rfl, hperiod⟩

namespace AddClassViewController

/-- **Inversion** of a submission: the fields are flushed, and the only thing
it puts up is a message, or an alert for the course it has built. -/
theorem addClass_cases (vc : AddClassViewController) (documentID : String) :
    ∃ errorClass successAlert,
      vc.addClass documentID = { vc.updateUserInfo with errorClass, successAlert } ∧
      ∀ newCrs, successAlert = some (some newCrs) → vc.successAlert = some (some newCrs) ∨
        vc.school ≠ none ∧
          Course.ofRefData documentID vc.updateUserInfo.classData = .ok newCrs := by
  unfold addClass
  dsimp only
  split
  next => exact ⟨_, vc.successAlert, rfl, fun _ h => Or.inl h⟩
  next =>
    split
    next => exact ⟨_, vc.successAlert, rfl, fun _ h => Or.inl h⟩
    next school hschool =>
      split
      next newCrs hok =>
        refine ⟨_, _, rfl, fun course hcourse => Or.inr ⟨?_, ?_⟩⟩
        · rw [show vc.school = some school from hschool]
          simp
        · obtain rfl : newCrs = course := by simpa using hcourse
          exact hok
      next =>
        refine ⟨_, _, rfl, fun course hcourse => ?_⟩
        cases hcourse

/-- **Inversion** of a row of `Picker`. -/
theorem pickerDidSelectRow_cases {vc vc' : AddClassViewController} {row : Nat}
    (h : vc.pickerDidSelectRow row = some vc') :
    (vc.currentSelectorItem = .teacher ∧ ∃ fac teacher, vc.school.bind (·.staff) = some fac ∧
      fac[row]? = some teacher ∧
      vc' = { vc with currentTeacher := some teacher, currentTeacherRow := some row }) ∨
    vc' = vc ∨
    (vc.currentSelectorItem = .period ∧ vc' = { vc with currentPeriod := some (row + 1) }) := by
  unfold pickerDidSelectRow at h
  split at h
  next hmode =>
    split at h
    next fac hfac =>
      obtain ⟨teacher, hteacher, h⟩ := Option.bind_eq_some_iff.mp h
      exact Or.inl ⟨hmode, fac, teacher, hfac, hteacher, (Option.some.inj h).symm⟩
    next => exact Or.inr (Or.inl (Option.some.inj h).symm)
  next hmode => exact Or.inr (Or.inr ⟨hmode, (Option.some.inj h).symm⟩)

/-- **Inversion** of the popup's submission: it is refused, or the popup is
closed, with a new member of the staff if one could be built. -/
theorem endAddTeacher_cases (vc : AddClassViewController) (documentID : String) :
    (vc.updateNewTeacherInfo.verifyNewTeacher ≠ none ∧
      vc.endAddTeacher documentID = vc.updateNewTeacherInfo) ∨
    (vc.updateNewTeacherInfo.verifyNewTeacher = none ∧
      (vc.endAddTeacher documentID = vc.updateNewTeacherInfo.closeTeacherView ∨
        ∃ teacher,
          Faculty.ofRefData documentID vc.updateNewTeacherInfo.addTeacherData = .ok teacher ∧
          vc.endAddTeacher documentID =
            (vc.updateNewTeacherInfo.appendStaff teacher).closeTeacherView)) := by
  unfold endAddTeacher
  dsimp only
  split
  next message hmessage => exact Or.inl ⟨by rw [hmessage]; simp, rfl⟩
  next hnone =>
    refine Or.inr ⟨hnone, ?_⟩
    split
    next => exact Or.inl rfl
    next =>
      split
      next teacher hteacher => exact Or.inr ⟨teacher, hteacher, rfl⟩
      next => exact Or.inl rfl

/-- What every event but the alert's button leaves alone: the schedule and
all of the school but its staff. -/
structure SameOwner (vc vc' : AddClassViewController) : Prop where
  schedule : vc'.scheduleToReturn = vc.scheduleToReturn
  school : (vc'.school.map fun s => { s with staff := none }) =
    vc.school.map fun s => { s with staff := none }

theorem SameOwner.schoolId {vc vc' : AddClassViewController} (h : SameOwner vc vc') :
    vc'.school.map (·.id) = vc.school.map (·.id) := by
  have hids := congrArg (Option.map (·.id)) h.school
  rw [Option.map_map, Option.map_map] at hids
  exact hids

theorem SameOwner.exists_staff {vc vc' : AddClassViewController} (h : SameOwner vc vc')
    {school' : School} (hschool' : vc'.school = some school') :
    ∃ school staff, vc.school = some school ∧ school' = { school with staff } := by
  have hschool := h.school
  rw [hschool', Option.map_some] at hschool
  obtain ⟨school, hsome, heq⟩ := Option.map_eq_some_iff.mp hschool.symm
  refine ⟨school, school'.staff, hsome, ?_⟩
  calc school' = { ({ school' with staff := none } : School) with staff := school'.staff } := rfl
    _ = { school with staff := school'.staff } := by rw [← heq]

theorem endAddTeacher_sameOwner (vc : AddClassViewController) (documentID : String) :
    SameOwner vc (vc.endAddTeacher documentID) ∧
    (vc.endAddTeacher documentID).successAlert = vc.successAlert := by
  rcases endAddTeacher_cases vc documentID with ⟨-, heq⟩ | ⟨-, heq | ⟨teacher, -, heq⟩⟩
  · rw [heq]
    exact ⟨⟨rfl, rfl⟩, rfl⟩
  · rw [heq]
    exact ⟨⟨rfl, rfl⟩, rfl⟩
  · rw [heq]
    refine ⟨⟨rfl, ?_⟩, rfl⟩
    show (vc.school.map _).map _ = _
    rw [Option.map_map]
    rfl

theorem pickerDidSelectRow_sameOwner {vc vc' : AddClassViewController} {row : Nat}
    (h : vc.pickerDidSelectRow row = some vc') :
    SameOwner vc vc' ∧ vc'.successAlert = vc.successAlert := by
  rcases pickerDidSelectRow_cases h with ⟨-, fac, teacher, -, -, rfl⟩ | rfl | ⟨-, rfl⟩
  · exact ⟨⟨rfl, rfl⟩, rfl⟩
  · exact ⟨⟨rfl, rfl⟩, rfl⟩
  · exact ⟨⟨rfl, rfl⟩, rfl⟩

/-- A submission only ever puts up an alert for the document it created. -/
theorem addClass_sameOwner (vc : AddClassViewController) (documentID : String) :
    SameOwner vc (vc.addClass documentID) ∧
    ∀ newCrs, (vc.addClass documentID).successAlert = some (some newCrs) →
      vc.successAlert = some (some newCrs) ∨ newCrs.id = documentID := by
  obtain ⟨errorClass, successAlert, heq, halert⟩ := addClass_cases vc documentID
  rw [heq]
  refine ⟨⟨rfl, rfl⟩, fun newCrs hnew => (halert newCrs hnew).imp_right ?_⟩
  intro h
  exact (Course.ofRefData_ok h.2).1

/-- On a form without an alert every event keeps the schedule, and only a
submission puts up an alert with a course: that of the new document. -/
theorem formStep_sameOwner {vc vc' : AddClassViewController} {e : Event}
    (hnone : vc.successAlert = none) (h : vc.formStep e = some vc') :
    SameOwner vc vc' ∧
    ∀ newCrs, vc'.successAlert = some (some newCrs) → e = .addClass newCrs.id := by
  -- all events but a submission leave the alert down
  have hquiet : SameOwner vc vc' ∧ vc'.successAlert = vc.successAlert →
      SameOwner vc vc' ∧
      ∀ newCrs, vc'.successAlert = some (some newCrs) → e = .addClass newCrs.id := by
    intro h
    obtain ⟨hsame, heq⟩ := h
    refine ⟨hsame, fun newCrs hcrs => ?_⟩
    rw [heq, hnone] at hcrs
    exact nomatch hcrs
  cases e with
  | editClassTitle text =>
    obtain rfl := Option.some.inj h
    exact hquiet ⟨⟨rfl, rfl⟩, rfl⟩
  | editRoomNumber text =>
    obtain rfl := Option.some.inj h
    exact hquiet ⟨⟨rfl, rfl⟩, rfl⟩
  | textField action =>
    obtain rfl := Option.some.inj h
    cases action <;> exact hquiet ⟨⟨rfl, rfl⟩, rfl⟩
  | teacher =>
    obtain ⟨-, h⟩ := Option.ite_none_right_eq_some.mp h
    obtain rfl := Option.some.inj h
    exact hquiet ⟨⟨rfl, rfl⟩, rfl⟩
  | period =>
    obtain ⟨-, h⟩ := Option.ite_none_right_eq_some.mp h
    obtain rfl := Option.some.inj h
    exact hquiet ⟨⟨rfl, rfl⟩, rfl⟩
  | pickerDidSelectRow row =>
    obtain ⟨-, h⟩ := Option.ite_none_right_eq_some.mp h
    exact hquiet (pickerDidSelectRow_sameOwner h)
  | teacherPickerDidSelectRow row =>
    obtain ⟨-, h⟩ := Option.ite_none_right_eq_some.mp h
    obtain ⟨title, -, rfl⟩ := Option.map_eq_some_iff.mp h
    exact hquiet ⟨⟨rfl, rfl⟩, rfl⟩
  | addTeacher =>
    obtain rfl := Option.some.inj h
    exact hquiet ⟨⟨rfl, rfl⟩, rfl⟩
  | editTeacherFirst text =>
    obtain rfl := Option.some.inj h
    exact hquiet ⟨⟨rfl, rfl⟩, rfl⟩
  | editTeacherLast text =>
    obtain rfl := Option.some.inj h
    exact hquiet ⟨⟨rfl, rfl⟩, rfl⟩
  | nameField action =>
    obtain rfl := Option.some.inj h
    cases action <;> exact hquiet ⟨⟨rfl, rfl⟩, rfl⟩
  | endAddTeacher documentID =>
    obtain ⟨-, h⟩ := Option.ite_none_right_eq_some.mp h
    obtain rfl := Option.some.inj h
    exact hquiet (endAddTeacher_sameOwner vc documentID)
  | cancelAddTeacher =>
    obtain ⟨-, h⟩ := Option.ite_none_right_eq_some.mp h
    obtain rfl := Option.some.inj h
    exact hquiet ⟨⟨rfl, rfl⟩, rfl⟩
  | addClass documentID =>
    obtain ⟨-, h⟩ := Option.ite_none_right_eq_some.mp h
    obtain rfl := Option.some.inj h
    obtain ⟨hsame, halert⟩ := addClass_sameOwner vc documentID
    refine ⟨hsame, fun newCrs hcrs => ?_⟩
    rcases halert newCrs hcrs with hold | hid
    · rw [hnone] at hold
      exact nomatch hold
    · rw [hid]
  | ok => exact nomatch h
  | cancel =>
    obtain rfl := Option.some.inj h
    exact hquiet ⟨⟨rfl, rfl⟩, rfl⟩

/-- **What an event does to the schedule**: the alert's button runs its
handler; every other event keeps it. -/
theorem step_cases {vc vc' : AddClassViewController} {e : Event} (h : vc.step e = some vc') :
    (∃ newCrs, e = .ok ∧ vc.successAlert = some (some newCrs) ∧ vc' = vc.okHandler newCrs) ∨
    (e ≠ .ok ∧ SameOwner vc vc' ∧
      ∀ newCrs, vc'.successAlert = some (some newCrs) → e = .addClass newCrs.id) := by
  unfold step at h
  split at h
  next hnone =>
    refine Or.inr ⟨?_, formStep_sameOwner hnone h⟩
    intro hok
    subst hok
    exact nomatch h
  next newCrs? halert =>
    split at h
    next newCrs =>
      obtain rfl := Option.some.inj h
      exact Or.inl ⟨newCrs, rfl, halert, rfl⟩
    next => exact nomatch h

end AddClassViewController

end Scholarli
