import Scholarli.SignUp.ClassForm
import Scholarli.SignUp.SchoolSelector

/-!
# The rows of the pickers

A picker asks for its number of rows when it is reloaded, and from then on
reports and titles any of these rows; the handlers index the list that is
there by then. The class form has one picker for two lists, and remembers a
row for each of them while it shows the other.

* `SchoolSelectorViewController.RowsInv` — the selector's picker has a row for
  each school of the list, which is replaced together with a reload.
* `AddClassViewController.PickerInv` — the form's picker offers no more rows
  than its mode has now: both mode buttons reload as they switch, and the
  staff only grows. The remembered rows are where the selection is.
* `picker_accesses_in_range_iff` — no access is out of range but one: the
  preselection of the first school, if the list has none.
-/

namespace Scholarli

open Base (Machine)

/-! ## The school selector -/

namespace SchoolSelectorViewController

/-- The school selector by itself, with any shared record at each event. -/
def machine : Machine SchoolSelectorViewController (Data × Event) where
  init vc := vc = (viewDidLoad {}).1
  step vc e := (vc.handle e.1 e.2).map (·.vc)

/-- The picker offers no row beyond the list. -/
def RowsInv (vc : SchoolSelectorViewController) : Prop :=
  ∀ skewls, vc.listOfSchools = some skewls → vc.schoolPickerRows ≤ skewls.length

theorem handle_rowsInv {vc : SchoolSelectorViewController} {newUserData : Data} {e : Event}
    {r : Reaction SchoolSelectorViewController} (h : vc.RowsInv)
    (hr : vc.handle newUserData e = some r) : r.vc.RowsInv := by
  cases e with
  | schoolListArrived schoolList =>
    cases schoolList with
    | none =>
      obtain rfl := Option.some.inj hr
      exact h
    | some list =>
      obtain ⟨first, -, hr⟩ := Option.bind_eq_some_iff.mp hr
      obtain rfl := Option.some.inj hr
      intro skewls hskewls
      obtain rfl := Option.some.inj hskewls
      exact Nat.le_refl list.length
  | didSelectRow row =>
    obtain ⟨-, hr⟩ := Option.ite_none_right_eq_some.mp hr
    unfold didSelectRow at hr
    split at hr
    next =>
      obtain ⟨school, -, hr⟩ := Option.bind_eq_some_iff.mp hr
      obtain rfl := Option.some.inj hr
      exact h
    next =>
      obtain rfl := Option.some.inj hr
      exact h
  | continueAction =>
    obtain rfl := Option.some.inj hr
    unfold continueAction
    split
    next => exact h
    next => exact h
  | courseListArrived skewl crsList =>
    obtain rfl := Option.some.inj hr
    exact h

/-- **Run lemma.** -/
theorem rowsInv_of_reachable {vc : SchoolSelectorViewController} (h : machine.Reachable vc) :
    vc.RowsInv := by
  refine h.invariant ?_ ?_
  · intro vc hinit
    obtain rfl : vc = (viewDidLoad {}).1 := hinit
    exact fun skewls _ => Nat.zero_le skewls.length
  · intro vc e vc' hinv _ hs
    obtain ⟨r, hr, rfl⟩ := Option.map_eq_some_iff.mp hs
    exact handle_rowsInv hinv hr

/-- The accesses `list[0]` and `skewls[row]` are in range: the list that
arrives is taken, and every offered row has a title and can be picked. -/
structure InRange (vc : SchoolSelectorViewController) (newUserData : Data)
    (schoolList : Option (List School)) : Prop where
  list : vc.schoolListArrived newUserData schoolList ≠ none
  skewls : ∀ row < vc.schoolPickerRows,
    vc.titleForRow row ≠ none ∧ vc.didSelectRow newUserData row ≠ none

/-- The list that arrives is taken exactly if it is not an empty one. -/
theorem schoolListArrived_ne_none_iff (vc : SchoolSelectorViewController) (newUserData : Data)
    (schoolList : Option (List School)) :
    vc.schoolListArrived newUserData schoolList ≠ none ↔ schoolList ≠ some [] := by
  cases schoolList with
  | none => simp [schoolListArrived]
  | some list =>
    cases list with
    | nil => simp [schoolListArrived]
    | cons first list => simp [schoolListArrived]

theorem RowsInv.skewls {vc : SchoolSelectorViewController} (h : vc.RowsInv) (newUserData : Data)
    {row : Nat} (hrow : row < vc.schoolPickerRows) :
    vc.titleForRow row ≠ none ∧ vc.didSelectRow newUserData row ≠ none := by
  unfold titleForRow didSelectRow
  cases hlist : vc.listOfSchools with
  | none => simp
  | some skewls =>
    have hrows := h skewls hlist
    have hlt : row < skewls.length := by omega
    simp [List.getElem?_eq_getElem hlt]

end SchoolSelectorViewController

/-! ## The class form -/

namespace AddClassViewController

/-- The rows that `Picker` has in a mode, whichever it is in. -/
def rowsIn (vc : AddClassViewController) (mode : CurrentSelector) : Nat :=
  { vc with currentSelectorItem := mode }.numberOfRowsInComponent

/-- The form's invariant, as far as `Picker` goes. -/
structure PickerInv (vc : AddClassViewController) : Prop where
  rows : vc.pickerRows ≤ vc.rowsIn vc.currentSelectorItem
  teacher : ∀ row, vc.currentTeacherRow = some row →
    ∃ fac teacher, vc.school.bind (·.staff) = some fac ∧ vc.currentTeacher = some teacher ∧
      fac[row]? = some teacher
  period : ∀ p, vc.currentPeriod = some p → 1 ≤ p ∧ p ≤ vc.rowsIn .period

theorem rowsIn_period {vc : AddClassViewController} {periods : Int}
    (h : vc.periodCount = some periods) : vc.rowsIn .period = periods.toNat := by
  have h' : ({ vc with currentSelectorItem := .period } : AddClassViewController).periodCount =
      some periods := h
  unfold rowsIn numberOfRowsInComponent
  simp only [h']

/-- A switch to any mode is made with a reload. -/
theorem PickerInv.reload {vc : AddClassViewController} (h : PickerInv vc) (mode : CurrentSelector) :
    PickerInv { vc.updateUserInfo with currentSelectorItem := mode }.reloadAllComponents :=
  ⟨Nat.le_refl _, h.teacher, h.period⟩

theorem PickerInv.closeTeacherView {vc : AddClassViewController} (h : PickerInv vc) :
    PickerInv vc.closeTeacherView :=
  ⟨Nat.le_refl _, h.teacher, h.period⟩

theorem staff_appendStaff (vc : AddClassViewController) (teacher : Faculty) :
    (vc.appendStaff teacher).school.bind (·.staff) =
      (vc.school.bind (·.staff)).map (· ++ [teacher]) := by
  show (vc.school.map _).bind _ = _
  cases vc.school with
  | none => rfl
  | some school => rfl

/-- A new member of the staff comes last: no row changes its meaning. -/
theorem rowsIn_le_appendStaff (vc : AddClassViewController) (teacher : Faculty)
    (mode : CurrentSelector) : vc.rowsIn mode ≤ (vc.appendStaff teacher).rowsIn mode := by
  cases mode with
  | teacher =>
    unfold rowsIn numberOfRowsInComponent appendStaff
    cases vc.school with
    | none => exact Nat.le_refl _
    | some school =>
      obtain ⟨displayName, id, type, streetAddress, city, zipCode, state, courseList, staff, max⟩ :=
        school
      cases staff with
      | none => exact Nat.le_refl _
      | some fac =>
        show fac.length ≤ (fac ++ [teacher]).length
        rw [List.length_append]
        omega
  | period =>
    unfold rowsIn numberOfRowsInComponent periodCount appendStaff
    cases vc.school with
    | none => exact Nat.le_refl _
    | some school => exact Nat.le_refl _

theorem PickerInv.appendStaff {vc : AddClassViewController} (h : PickerInv vc)
    (teacher : Faculty) : PickerInv (vc.appendStaff teacher) := by
  refine ⟨?_, ?_, ?_⟩
  · exact Nat.le_trans h.rows (rowsIn_le_appendStaff vc teacher vc.currentSelectorItem)
  · intro row hrow
    obtain ⟨fac, current, hfac, hcurrent, hat⟩ := h.teacher row hrow
    refine ⟨fac ++ [teacher], current, ?_, hcurrent, ?_⟩
    · rw [staff_appendStaff, hfac]
      rfl
    · rw [List.getElem?_append_left (List.getElem?_eq_some_iff.mp hat).1]
      exact hat
  · intro p hp
    obtain ⟨hone, hle⟩ := h.period p hp
    have hgrow := rowsIn_le_appendStaff vc teacher .period
    exact ⟨hone, by omega⟩

theorem PickerInv.endAddTeacher {vc : AddClassViewController} (h : PickerInv vc)
    (documentID : String) : PickerInv (vc.endAddTeacher documentID) := by
  have h' : PickerInv vc.updateNewTeacherInfo := ⟨h.rows, h.teacher, h.period⟩
  rcases endAddTeacher_cases vc documentID with ⟨-, heq⟩ | ⟨-, heq | ⟨teacher, -, heq⟩⟩
  · rw [heq]
    exact h'
  · rw [heq]
    exact h'.closeTeacherView
  · rw [heq]
    exact (h'.appendStaff teacher).closeTeacherView

/-- What is picked is remembered with its row. -/
theorem PickerInv.pickerDidSelectRow {vc vc' : AddClassViewController} {row : Nat}
    (h : PickerInv vc) (hrow : row < vc.pickerRows) (hs : vc.pickerDidSelectRow row = some vc') :
    PickerInv vc' := by
  rcases pickerDidSelectRow_cases hs with ⟨-, fac, teacher, hfac, hteacher, rfl⟩ | rfl |
    ⟨hmode, rfl⟩
  · refine ⟨h.rows, ?_, h.period⟩
    intro row' hrow'
    obtain rfl := Option.some.inj hrow'
    exact ⟨fac, teacher, hfac, rfl, hteacher⟩
  · exact h
  · refine ⟨h.rows, h.teacher, ?_⟩
    intro p hp
    obtain rfl := Option.some.inj hp
    have hrows := h.rows
    rw [hmode] at hrows
    show 1 ≤ (row : Int) + 1 ∧ (row : Int) + 1 ≤ vc.rowsIn .period
    omega

theorem PickerInv.addClass {vc : AddClassViewController} (h : PickerInv vc) (documentID : String) :
    PickerInv (vc.addClass documentID) := by
  obtain ⟨errorClass, successAlert, heq, -⟩ := addClass_cases vc documentID
  rw [heq]
  exact ⟨h.rows, h.teacher, h.period⟩

theorem formStep_pickerInv {vc vc' : AddClassViewController} {e : Event} (h : PickerInv vc)
    (hs : vc.formStep e = some vc') : PickerInv vc' := by
  cases e with
  | teacher =>
    obtain ⟨-, hs⟩ := Option.ite_none_right_eq_some.mp hs
    obtain rfl := Option.some.inj hs
    exact h.reload .teacher
  | period =>
    obtain ⟨-, hs⟩ := Option.ite_none_right_eq_some.mp hs
    obtain rfl := Option.some.inj hs
    exact h.reload .period
  | pickerDidSelectRow row =>
    obtain ⟨hrow, hs⟩ := Option.ite_none_right_eq_some.mp hs
    exact h.pickerDidSelectRow hrow hs
  | endAddTeacher documentID =>
    obtain ⟨-, hs⟩ := Option.ite_none_right_eq_some.mp hs
    obtain rfl := Option.some.inj hs
    exact h.endAddTeacher documentID
  | cancelAddTeacher =>
    obtain ⟨-, hs⟩ := Option.ite_none_right_eq_some.mp hs
    obtain rfl := Option.some.inj hs
    exact h.closeTeacherView
  | addClass documentID =>
    obtain ⟨-, hs⟩ := Option.ite_none_right_eq_some.mp hs
    obtain rfl := Option.some.inj hs
    exact h.addClass documentID
  | teacherPickerDidSelectRow row =>
    obtain ⟨-, hs⟩ := Option.ite_none_right_eq_some.mp hs
    obtain ⟨title, -, rfl⟩ := Option.map_eq_some_iff.mp hs
    exact ⟨h.rows, h.teacher, h.period⟩
  | textField action =>
    obtain rfl := Option.some.inj hs
    cases action <;> exact ⟨h.rows, h.teacher, h.period⟩
  | nameField action =>
    obtain rfl := Option.some.inj hs
    cases action <;> exact ⟨h.rows, h.teacher, h.period⟩
  | ok => cases hs
  | editClassTitle text | editRoomNumber text | addTeacher | editTeacherFirst text
    | editTeacherLast text | cancel =>
    -- text, popup and navigation
    obtain rfl := Option.some.inj hs
    exact ⟨h.rows, h.teacher, h.period⟩

/-- **Step lemma.** -/
theorem step_pickerInv {vc vc' : AddClassViewController} {e : Event} (h : PickerInv vc)
    (hs : vc.step e = some vc') : PickerInv vc' := by
  unfold step at hs
  split at hs
  next => exact formStep_pickerInv h hs
  next =>
    split at hs
    next =>
      obtain rfl := Option.some.inj hs
      exact ⟨h.rows, h.teacher, h.period⟩
    next => cases hs

/-- **Run lemma.** -/
theorem pickerInv_of_reachable {vc : AddClassViewController} (h : machine.Reachable vc) :
    PickerInv vc := by
  refine h.invariant (P := PickerInv) ?_ fun _ _ _ hinv _ hs => step_pickerInv hinv hs
  intro vc hinit
  obtain ⟨school, scheduleToReturn, -, rfl⟩ := hinit
  refine ⟨Nat.zero_le _, ?_, ?_⟩
  · intro row hrow
    cases hrow
  · intro p hp
    cases hp

/-- The accesses `fac[row]` and `FacTitle.allValues[row]` are in range on
every offered row; and a row that a mode button returns to is offered by the
reloaded picker and is where the selection is. -/
structure PickersInRange (vc : AddClassViewController) : Prop where
  fac : ∀ row < vc.pickerRows, vc.titleForRow row ≠ none ∧ vc.pickerDidSelectRow row ≠ none
  allValues : ∀ row < FacTitle.count,
    teacherTitleForRow row ≠ none ∧ vc.teacherPickerDidSelectRow row ≠ none
  teacherRow : ∀ row, vc.currentTeacherRow = some row → row < vc.teacher.pickerRows ∧
    ∃ fac teacher, vc.teacher.school.bind (·.staff) = some fac ∧
      vc.teacher.currentTeacher = some teacher ∧ fac[row]? = some teacher
  periodRow : ∀ row, vc.currentPeriodRow = some row → 0 ≤ row ∧ row < vc.period.pickerRows ∧
    vc.period.currentPeriod = some (row + 1) ∧
    ∀ periods, vc.periodCount = some periods → row < periods

theorem PickerInv.fac {vc : AddClassViewController} (h : PickerInv vc) {row : Nat}
    (hrow : row < vc.pickerRows) :
    vc.titleForRow row ≠ none ∧ vc.pickerDidSelectRow row ≠ none := by
  have hrows := h.rows
  unfold rowsIn numberOfRowsInComponent at hrows
  unfold titleForRow AddClassViewController.pickerDidSelectRow
  cases hmode : vc.currentSelectorItem with
  | period => simp
  | teacher =>
    cases hschool : vc.school with
    | none => simp
    | some school =>
      cases hstaff : school.staff with
      | none => simp [hstaff]
      | some fac =>
        have hlt : row < fac.length := by
          simp only [hmode, hschool, hstaff] at hrows
          omega
        simp [hstaff, List.getElem?_eq_getElem hlt]

/-- A row that was remembered is still offered, and still means the same. -/
theorem PickerInv.teacherRow {vc : AddClassViewController} (h : PickerInv vc) {row : Nat}
    (hrow : vc.currentTeacherRow = some row) : row < vc.teacher.pickerRows ∧
    ∃ fac teacher, vc.teacher.school.bind (·.staff) = some fac ∧
      vc.teacher.currentTeacher = some teacher ∧ fac[row]? = some teacher := by
  obtain ⟨fac, teacher, hfac, hteacher, hat⟩ := h.teacher row hrow
  refine ⟨?_, fac, teacher, hfac, hteacher, hat⟩
  obtain ⟨school, hschool, hstaff⟩ := Option.bind_eq_some_iff.mp hfac
  show row < vc.rowsIn .teacher
  unfold rowsIn numberOfRowsInComponent
  simp only [hschool, hstaff]
  exact (List.getElem?_eq_some_iff.mp hat).1

theorem PickerInv.periodRow {vc : AddClassViewController} (h : PickerInv vc) {row : Int}
    (hrow : vc.currentPeriodRow = some row) : 0 ≤ row ∧ row < vc.period.pickerRows ∧
    vc.period.currentPeriod = some (row + 1) ∧
    ∀ periods, vc.periodCount = some periods → row < periods := by
  obtain ⟨p, hp, rfl⟩ := Option.map_eq_some_iff.mp hrow
  obtain ⟨hone, hle⟩ := h.period p hp
  have hoffered : p - 1 < vc.rowsIn .period := by omega
  refine ⟨by omega, hoffered, ?_, ?_⟩
  · show vc.currentPeriod = _
    rw [hp, Int.sub_add_cancel]
  · intro periods hperiods
    rw [rowsIn_period hperiods] at hoffered
    omega

theorem PickerInv.pickersInRange {vc : AddClassViewController} (h : PickerInv vc) :
    vc.PickersInRange := by
  refine ⟨fun _ hrow => h.fac hrow, ?_, fun _ hrow => h.teacherRow hrow,
    fun _ hrow => h.periodRow hrow⟩
  intro row hrow
  have hlt : row < FacTitle.allValues.length := hrow
  unfold teacherTitleForRow teacherPickerDidSelectRow
  simp [List.getElem?_eq_getElem hlt]

end AddClassViewController

/-! ## Both screens -/

/-- **Which accesses of the picker handlers are in range**: all of them, in
every reachable state of both screens and for every school list that arrives,
exactly if this list is not empty. -/
theorem picker_accesses_in_range_iff {selector : SchoolSelectorViewController}
    (hselector : SchoolSelectorViewController.machine.Reachable selector)
    {form : AddClassViewController} (hform : AddClassViewController.machine.Reachable form)
    (newUserData : Data) (schoolList : Option (List School)) :
    (selector.InRange newUserData schoolList ∧ form.PickersInRange) ↔ schoolList ≠ some [] := by
  have hrows := SchoolSelectorViewController.rowsInv_of_reachable hselector
  have hpickers := (AddClassViewController.pickerInv_of_reachable hform).pickersInRange
  rw [and_iff_left hpickers, ← selector.schoolListArrived_ne_none_iff newUserData schoolList]
  constructor
  · exact fun h => h.list
  · exact fun hlist => ⟨hlist, fun row hrow => hrows.skewls newUserData hrow⟩

/-- A teacher and a period are picked, and a teacher is added. -/
def pickAndHire : List AddClassViewController.Event :=
  [.teacher, .pickerDidSelectRow 0, .period, .pickerDidSelectRow 2, .addTeacher,
    .editTeacherLast "Curie", .endAddTeacher "t2"]

/-- A selector with one school, and a form with both selections and a new
teacher. -/
theorem picker_accesses_in_range_hired :
    ∃ selector form, SchoolSelectorViewController.machine.Reachable selector ∧
      AddClassViewController.machine.Reachable form ∧ selector.schoolPickerRows = 1 ∧
      form.currentTeacherRow = some 0 ∧ form.currentPeriodRow = some 2 ∧
      selector.InRange Base.Dict.empty (some [morristown]) ∧ form.PickersInRange := by
  have hselector := Machine.run_reachable (M := SchoolSelectorViewController.machine)
    [(Base.Dict.empty, .schoolListArrived (some [morristown]))] (.init rfl) rfl
  have hform := Machine.run_reachable (M := AddClassViewController.machine) pickAndHire
    (.init AddClassViewController.staffedForm_init) rfl
  obtain ⟨hlist, hpickers⟩ := (picker_accesses_in_range_iff hselector hform Base.Dict.empty
    (some [morristown])).mpr (by simp)
  exact ⟨_, _, hselector, hform, rfl, rfl, rfl, hlist, hpickers⟩

/-- An answer without documents is an empty list of schools, of which the
selector takes the first one. -/
theorem picker_accesses_empty_list :
    ∃ schoolList, getSchoolList (.documents []) = some schoolList ∧
      SchoolSelectorViewController.machine.Reachable
        (SchoolSelectorViewController.viewDidLoad {}).1 ∧
      ¬(SchoolSelectorViewController.viewDidLoad {}).1.InRange Base.Dict.empty schoolList := by
  refine ⟨some [], rfl, .init rfl, ?_⟩
  intro h
  exact h.list rfl

end Scholarli
