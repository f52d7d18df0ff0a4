import Scholarli.SignUp.ClassForm

/-!
# The teacher that the popup shows

The title of a new teacher is kept twice: as the row that `TeacherPicker`
shows and in `currentNewTeacherTitle`. A turn of the wheel sets both. Opening
the popup resets the title to `Mr` and leaves the wheel alone; closing it
turns the wheel back to its first row, which is `Mr`, and leaves the title
alone. So they agree while the popup is open, as long as every tap on "Add a
Teacher" finds the wheel at its first row. The button stays enabled while the
popup is open, and there the wheel may be anywhere.

No handler reads the position of the wheel, so it is not part of the view
controller's state but of the record kept beside it:

* `TeacherPicker` — the row shown, and whether a tap on the button has set the
  title to `Mr` behind it.
* `PopupInv` — what the title is while the popup is open, in either case, and
  that the name fields have a text. `step_popupInv` is the step lemma,
  `popupInv_of_reachable` the run lemma.
* `saved_teacher_shown_iff` — the teacher that is saved is the one shown
  exactly if the title was not set behind the wheel.
-/

namespace Scholarli.AddClassViewController

open Base (Machine Value Dict)

/-- What `TeacherPicker` shows. -/
structure TeacherPicker where
  row : Nat := 0
  /-- "Add a Teacher" was tapped with the wheel away from its first row, and
  the wheel has not been turned since. -/
  overridden : Bool := false

/-- The wheel after an event: turned by the user, or by `selectRow` where the
popup closes. -/
def TeacherPicker.after (vc : AddClassViewController) (e : Event) (picker : TeacherPicker) :
    TeacherPicker :=
  match e with
  | .teacherPickerDidSelectRow row => { row }
  | .addTeacher => { picker with overridden := decide (picker.row ≠ 0) }
  | .endAddTeacher _ =>
    -- a refused submission leaves the popup as it is
    if vc.updateNewTeacherInfo.verifyNewTeacher = none then { row := 0 } else picker
  | .cancelAddTeacher => { row := 0 }
  | _ => picker

/-- The form with the position of `TeacherPicker`. -/
def popup : Machine (AddClassViewController × TeacherPicker) Event :=
  machine.recording {} TeacherPicker.after

/-- The title while the popup is open, and the name fields at any time. -/
structure PopupInv (vc : AddClassViewController) (picker : TeacherPicker) : Prop where
  first : ∃ text, vc.teacherFirst = some text
  last : ∃ text, vc.teacherLast = some text
  shown : vc.teacherViewShown = true → picker.overridden = false →
    vc.currentNewTeacherTitle = FacTitle.allValues[picker.row]?
  reset : vc.teacherViewShown = true → picker.overridden = true →
    vc.currentNewTeacherTitle = some .Mr ∧ picker.row ≠ 0

/-- Closing the popup empties the name fields and turns the wheel back. -/
theorem closeTeacherView_popupInv (vc : AddClassViewController) :
    PopupInv vc.closeTeacherView { row := 0 } := by
  refine ⟨⟨"", rfl⟩, ⟨"", rfl⟩, ?_, ?_⟩
  · intro hshown
    cases hshown
  · intro hshown
    cases hshown

theorem PopupInv.updateNewTeacherInfo {vc : AddClassViewController} {picker : TeacherPicker}
    (h : PopupInv vc picker) : PopupInv vc.updateNewTeacherInfo picker :=
  ⟨h.first, h.last, h.shown, h.reset⟩

theorem PopupInv.addTeacher {vc : AddClassViewController} {picker : TeacherPicker}
    (h : PopupInv vc picker) :
    PopupInv vc.addTeacher { picker with overridden := decide (picker.row ≠ 0) } := by
  refine ⟨h.first, h.last, ?_, ?_⟩
  · intro _ hfirst
    have hrow : picker.row = 0 := by simpa using hfirst
    show some FacTitle.Mr = FacTitle.allValues[picker.row]?
    rw [hrow]
    rfl
  · intro _ haway
    exact ⟨rfl, by simpa using haway⟩

theorem PopupInv.endAddTeacher {vc : AddClassViewController} {picker : TeacherPicker}
    (h : PopupInv vc picker) (documentID : String) :
    PopupInv (vc.endAddTeacher documentID)
      (picker.after vc (.endAddTeacher documentID)) := by
  show PopupInv _ (if vc.updateNewTeacherInfo.verifyNewTeacher = none then { row := 0 } else picker)
  rcases endAddTeacher_cases vc documentID with ⟨hrefused, heq⟩ |
    ⟨hverified, heq | ⟨teacher, -, heq⟩⟩
  · rw [heq, if_neg hrefused]
    exact h.updateNewTeacherInfo
  · rw [heq, if_pos hverified]
    exact closeTeacherView_popupInv _
  · rw [heq, if_pos hverified]
    exact closeTeacherView_popupInv _

/-- The rows of `Picker` do not touch the popup. -/
theorem PopupInv.pickerDidSelectRow {vc vc' : AddClassViewController} {picker : TeacherPicker}
    {row : Nat} (h : PopupInv vc picker) (hs : vc.pickerDidSelectRow row = some vc') :
    PopupInv vc' picker := by
  rcases pickerDidSelectRow_cases hs with ⟨-, fac, teacher, -, -, rfl⟩ | rfl | ⟨-, rfl⟩
  · exact ⟨h.first, h.last, h.shown, h.reset⟩
  · exact h
  · exact ⟨h.first, h.last, h.shown, h.reset⟩

theorem PopupInv.addClass {vc : AddClassViewController} {picker : TeacherPicker}
    (h : PopupInv vc picker) (documentID : String) : PopupInv (vc.addClass documentID) picker := by
  obtain ⟨errorClass, successAlert, heq, -⟩ := addClass_cases vc documentID
  rw [heq]
  exact ⟨h.first, h.last, h.shown, h.reset⟩

theorem formStep_popupInv {vc vc' : AddClassViewController} {picker : TeacherPicker} {e : Event}
    (h : PopupInv vc picker) (hs : vc.formStep e = some vc') :
    PopupInv vc' (picker.after vc e) := by
  cases e with
  | teacherPickerDidSelectRow row =>
    obtain ⟨-, hs⟩ := Option.ite_none_right_eq_some.mp hs
    obtain ⟨title, htitle, rfl⟩ := Option.map_eq_some_iff.mp hs
    refine ⟨h.first, h.last, fun _ _ => htitle.symm, ?_⟩
    intro _ hoverridden
    cases hoverridden
  | addTeacher =>
    obtain rfl := Option.some.inj hs
    exact h.addTeacher
  | endAddTeacher documentID =>
    obtain ⟨-, hs⟩ := Option.ite_none_right_eq_some.mp hs
    obtain rfl := Option.some.inj hs
    exact h.endAddTeacher documentID
  | cancelAddTeacher =>
    obtain ⟨-, hs⟩ := Option.ite_none_right_eq_some.mp hs
    obtain rfl := Option.some.inj hs
    exact closeTeacherView_popupInv vc
  | editTeacherFirst text =>
    obtain rfl := Option.some.inj hs
    exact ⟨⟨text, rfl⟩, h.last, h.shown, h.reset⟩
  | editTeacherLast text =>
    obtain rfl := Option.some.inj hs
    exact ⟨h.first, ⟨text, rfl⟩, h.shown, h.reset⟩
  | nameField action =>
    obtain rfl := Option.some.inj hs
    cases action <;> exact h.updateNewTeacherInfo
  | pickerDidSelectRow row =>
    obtain ⟨-, hs⟩ := Option.ite_none_right_eq_some.mp hs
    exact h.pickerDidSelectRow hs
  | addClass documentID =>
    obtain ⟨-, hs⟩ := Option.ite_none_right_eq_some.mp hs
    obtain rfl := Option.some.inj hs
    exact h.addClass documentID
  | textField action =>
    obtain rfl := Option.some.inj hs
    cases action <;> exact ⟨h.first, h.last, h.shown, h.reset⟩
  | teacher | period =>
    obtain ⟨-, hs⟩ := Option.ite_none_right_eq_some.mp hs
    obtain rfl := Option.some.inj hs
    exact ⟨h.first, h.last, h.shown, h.reset⟩
  | ok => cases hs
  | editClassTitle text | editRoomNumber text | cancel =>
    obtain rfl := Option.some.inj hs
    exact ⟨h.first, h.last, h.shown, h.reset⟩

/-- **Step lemma.** -/
theorem step_popupInv {vc vc' : AddClassViewController} {picker : TeacherPicker} {e : Event}
    (h : PopupInv vc picker) (hs : vc.step e = some vc') : PopupInv vc' (picker.after vc e) := by
  unfold step at hs
  split at hs
  next => exact formStep_popupInv h hs
  next =>
    split at hs
    next =>
      obtain rfl := Option.some.inj hs
      exact ⟨h.first, h.last, h.shown, h.reset⟩
    next => cases hs

/-- **Run lemma.** -/
theorem popupInv_of_reachable {vc : AddClassViewController} {picker : TeacherPicker}
    (h : popup.Reachable (vc, picker)) : PopupInv vc picker := by
  refine h.invariant (P := fun s => PopupInv s.1 s.2) ?_ ?_
  · intro s hinit
    obtain ⟨vc, picker⟩ := s
    obtain ⟨⟨school, scheduleToReturn, -, rfl⟩, rfl⟩ : machine.init vc ∧ picker = {} := hinit
    refine ⟨⟨"", rfl⟩, ⟨"", rfl⟩, ?_, ?_⟩
    · intro hshown
      cases hshown
    · intro hshown
      cases hshown
  · intro s e s' hinv _ hs
    obtain ⟨vc', hvc', rfl⟩ := Option.map_eq_some_iff.mp hs
    exact step_popupInv hinv hvc'

/-! ## What is saved -/

/-- The submission that led from `vc` to `vc'` saved what the popup showed:
the new member decodes, has the names of the text fields and the title of the
row, and is the staff's last member. -/
def SavesShown (vc : AddClassViewController) (row : Nat) (documentID : String)
    (vc' : AddClassViewController) : Prop :=
  ∃ teacher, Faculty.ofRefData documentID vc.updateNewTeacherInfo.addTeacherData = .ok teacher ∧
    vc.teacherLast = some teacher.lastName ∧ vc.teacherFirst = teacher.firstName ∧
    FacTitle.allValues[row]? = some teacher.title ∧
    vc'.school.bind (·.staff) = (vc.school.bind (·.staff)).map (· ++ [teacher])

/-- Only the first row is `Mr`. -/
theorem eq_zero_of_allValues_eq_Mr {row : Nat} (h : FacTitle.allValues[row]? = some .Mr) :
    row = 0 := by
  cases row with
  | zero => rfl
  | succ row =>
    have hmem : FacTitle.Mr ∈ FacTitle.allValues.tail := by
      refine List.mem_of_getElem? (i := row) ?_
      rw [List.getElem?_tail]
      exact h
    exact absurd hmem (by decide)

theorem verifyNewTeacher_eq_none {vc : AddClassViewController} (h : vc.verifyNewTeacher = none) :
    ∃ title, vc.currentNewTeacherTitle = some title := by
  cases htitle : vc.currentNewTeacherTitle with
  | some title => exact ⟨title, rfl⟩
  | none =>
    unfold verifyNewTeacher at h
    rw [ite_eq_left_iff] at h
    have hempty := by_contra fun hne => nomatch h hne
    rw [String.append_eq_empty_iff, htitle] at hempty
    exact absurd hempty.2 (by decide)

/-- The new member is built from what the name fields and the title hold at
the submission, whatever `addTeacherData` held before. -/
theorem ofRefData_newTeacher {vc : AddClassViewController} {first last : String}
    {title : FacTitle} (hfirst : vc.teacherFirst = some first) (hlast : vc.teacherLast = some last)
    (htitle : vc.currentNewTeacherTitle = some title) (documentID : String) :
    ∃ teacher, Faculty.ofRefData documentID vc.updateNewTeacherInfo.addTeacherData = .ok teacher ∧
      teacher.lastName = last ∧ teacher.firstName = some first ∧ teacher.title = title := by
  have hlastName : vc.updateNewTeacherInfo.addTeacherData.cast "lastName" Value.string? =
      some last := by
    simp [updateNewTeacherInfo, Dict.cast, hlast, htitle, Value.string?]
  have hfirstName : vc.updateNewTeacherInfo.addTeacherData.castOptional "firstName"
      Value.string? = some (some first) := by
    simp [updateNewTeacherInfo, Dict.castOptional, hfirst, hlast, htitle, Value.string?]
  have hfacTitle : vc.updateNewTeacherInfo.addTeacherData.cast "title"
      (Value.boxed? Boxed.facTitle?) = some title := by
    simp [updateNewTeacherInfo, Dict.cast, htitle, Value.boxed?, Boxed.facTitle?]
  unfold Faculty.ofRefData
  rw [hlastName, hfirstName, hfacTitle]
  exact ⟨_, rfl, rfl, rfl, rfl⟩

/-- **When the teacher that is saved is the one shown.** After any events, a
submission that passes verification at a school with a staff saves the teacher
in the popup exactly if the last tap on "Add a Teacher" found the wheel at its
first row, or the wheel has been turned since. -/
theorem saved_teacher_shown_iff {vc vc' : AddClassViewController} {picker : TeacherPicker}
    (h : popup.Reachable (vc, picker)) {documentID : String}
    (hs : vc.step (.endAddTeacher documentID) = some vc')
    (hverified : vc.updateNewTeacherInfo.verifyNewTeacher = none) {school : School}
    (hschool : vc.school = some school) {staff : List Faculty} (hstaff : school.staff = some staff) :
    SavesShown vc picker.row documentID vc' ↔ picker.overridden = false := by
  obtain ⟨⟨first, hfirst⟩, ⟨last, hlast⟩, hshown, hreset⟩ := popupInv_of_reachable h
  obtain ⟨title, htitle⟩ := verifyNewTeacher_eq_none hverified
  replace htitle : vc.currentNewTeacherTitle = some title := htitle
  obtain ⟨teacher, hteacher, hteacherLast, hteacherFirst, hteacherTitle⟩ :=
    ofRefData_newTeacher hfirst hlast htitle documentID
  -- the popup is open: its button was tapped
  obtain ⟨hopen, hvc'⟩ : vc.teacherViewShown = true ∧ vc.endAddTeacher documentID = vc' := by
    unfold step at hs
    split at hs
    next =>
      obtain ⟨hopen, hs⟩ := Option.ite_none_right_eq_some.mp hs
      exact ⟨hopen, Option.some.inj hs⟩
    next =>
      split at hs
      next => contradiction
      next => cases hs
  have hsaved : vc'.school.bind (·.staff) = (vc.school.bind (·.staff)).map (· ++ [teacher]) := by
    have hschool' : vc.updateNewTeacherInfo.school = some school := hschool
    rw [← hvc']
    unfold endAddTeacher
    simp only [hverified, hschool', hteacher]
    show (vc.school.map _).bind _ = _
    rw [hschool, Option.map_some, Option.bind_some, Option.bind_some, hstaff]
  constructor
  · intro hsaves
    obtain ⟨teacher', hteacher', -, -, hrow, -⟩ := hsaves
    rw [hteacher] at hteacher'
    obtain rfl := Except.ok.inj hteacher'
    cases hoverridden : picker.overridden with
    | false => rfl
    | true =>
      -- the title is `Mr`, and the wheel shows another row
      obtain ⟨hMr, haway⟩ := hreset hopen hoverridden
      rw [hMr] at htitle
      rw [hteacherTitle, ← Option.some.inj htitle] at hrow
      exact absurd (eq_zero_of_allValues_eq_Mr hrow) haway
  · intro hfree
    refine ⟨teacher, hteacher, ?_, ?_, ?_, hsaved⟩
    · rw [hlast, hteacherLast]
    · rw [hfirst, hteacherFirst]
    · rw [hteacherTitle, ← hshown hopen hfree, htitle]

/-- The popup is opened, and the wheel turned to "Ms.". -/
def turnToMs : List Event := [.addTeacher, .teacherPickerDidSelectRow 2]

/-- "Ms. Curie" is saved as she is shown. -/
theorem saved_teacher_shown_curie :
    ∃ vc picker vc', popup.Reachable (vc, picker) ∧
      vc.step (.endAddTeacher "t2") = some vc' ∧ picker.row = 2 ∧
      SavesShown vc picker.row "t2" vc' := by
  have hinit : popup.Reachable (staffedForm, {}) := .init ⟨staffedForm_init, rfl⟩
  have hreach := Machine.run_reachable
    (turnToMs ++ ([.editTeacherLast "Curie"] : List Event)) hinit rfl
  exact ⟨_, _, _, hreach, rfl, rfl,
    (saved_teacher_shown_iff hreach rfl rfl rfl rfl).mpr rfl⟩

/-- A second tap on "Add a Teacher" makes her a "Mr.", while the wheel still
shows "Ms.". -/
theorem saved_teacher_not_shown :
    ¬∀ vc picker vc' documentID school staff, popup.Reachable (vc, picker) →
      vc.step (.endAddTeacher documentID) = some vc' →
      vc.updateNewTeacherInfo.verifyNewTeacher = none → vc.school = some school →
      school.staff = some staff → SavesShown vc picker.row documentID vc' := by
  intro h
  have hinit : popup.Reachable (staffedForm, {}) := .init ⟨staffedForm_init, rfl⟩
  have hreach := Machine.run_reachable
    (turnToMs ++ ([.addTeacher, .editTeacherLast "Curie"] : List Event)) hinit rfl
  obtain ⟨teacher, hteacher, -, -, hrow, -⟩ := h _ _ _ "t2" _ _ hreach rfl rfl rfl rfl
  obtain rfl := Except.ok.inj hteacher
  cases hrow

end Scholarli.AddClassViewController
