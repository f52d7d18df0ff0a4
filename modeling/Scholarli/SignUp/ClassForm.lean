import Scholarli.Base.Machine
import Scholarli.SignUp.AddClass

/-!
# A verified form is the course on screen

`updateUserInfo` copies the picker value of the current mode only, so the
other value must have reached `classData` before its mode was left. It has:
both mode buttons flush before they switch.

* `Entry` — the state of one key: up to date while the picker is in the
  other mode, and absent as long as nothing was picked.
* `FormInv` — both keys, the text fields, and that every teacher who can be
  picked survives the codec (fetched staff by `getFaculty_bare`, popup staff
  by `Faculty.ofRefData_bare`). `formStep_formInv` is the step lemma,
  `formInv_of_reachable` the run lemma.
* `FormInv.updateUserInfo_entries` — after a flush both keys hold the values
  on screen, in either mode; the course is then read off them.
-/

namespace Scholarli

open Base (Machine Value Dict)

/-- A new teacher is bare if the form's data has neither account nor schedule. -/
theorem Faculty.ofRefData_bare {documentID : String} {data : Data} {f : Faculty}
    (hacct : data "account" = none) (hsched : data "schedule" = none)
    (h : Faculty.ofRefData documentID data = .ok f) : f.IsBare := by
  have hacct' : (data.castOptional "account" (Value.boxed? Boxed.account?)).join = none := by
    simp [Dict.castOptional, hacct]
  have hsched' : (data.castOptional "schedule" (Value.boxed? Boxed.schedule?)).join = none := by
    simp [Dict.castOptional, hsched]
  unfold Faculty.ofRefData at h
  rw [hacct', hsched'] at h
  obtain ⟨lastName, -, h⟩ := guardLet_bind_ok h
  obtain ⟨firstName, -, h⟩ := guardLet_bind_ok h
  obtain ⟨title, -, h⟩ := guardLet_bind_ok h
  obtain rfl := Except.ok.inj h
  exact ⟨rfl, rfl⟩

namespace AddClassViewController

/-- The form by itself, for a school whose staff was fetched. -/
def machine : Machine AddClassViewController Event where
  init vc := ∃ school scheduleToReturn,
    (∀ s fac, school = some s → s.staff = some fac → ∃ r, getFaculty r = some fac) ∧
    vc = viewDidLoad { school, scheduleToReturn }
  step := step

/-- One picker key of `classData`: up to date while its mode is not the
current one, and absent until something was picked. -/
structure Entry (elsewhere : Prop) (picked stored : Option (Value Boxed)) : Prop where
  flushed : elsewhere → stored = picked
  absent : picked = none → stored = none

theorem Entry.orElse_eq {elsewhere : Prop} {picked stored : Option (Value Boxed)}
    (h : Entry elsewhere picked stored) : (picked <|> stored) = picked := by
  cases picked with
  | none => exact h.absent rfl
  | some v => rfl

/-- An entry that holds what was picked is one for any mode. -/
theorem Entry.of_eq {elsewhere : Prop} {picked stored : Option (Value Boxed)}
    (h : stored = picked) : Entry elsewhere picked stored :=
  ⟨fun _ => h, fun hnone => h.trans hnone⟩

/-- What `updateUserInfo` would store for the teacher. -/
def teacherValue (vc : AddClassViewController) : Option (Value Boxed) :=
  vc.currentTeacher.map fun t => .boxed (.faculty t)

/-- What `updateUserInfo` would store for the period. -/
def periodValue (vc : AddClassViewController) : Option (Value Boxed) :=
  vc.currentPeriod.map .int

/-- The form's invariant. -/
structure FormInv (vc : AddClassViewController) : Prop where
  title : ∃ text, vc.classTitle = some text
  room : ∃ text, vc.roomNumber = some text
  teacher : Entry (vc.currentSelectorItem = .period) vc.teacherValue (vc.classData "teacher")
  period : Entry (vc.currentSelectorItem = .teacher) vc.periodValue (vc.classData "period")
  staffBare : ∀ s fac, vc.school = some s → s.staff = some fac → ∀ f ∈ fac, f.IsBare
  teacherBare : ∀ f, vc.currentTeacher = some f → f.IsBare
  newTeacherBare : vc.addTeacherData "account" = none ∧ vc.addTeacherData "schedule" = none

/-- After a flush both picker keys hold what is on screen. -/
theorem FormInv.updateUserInfo_entries {vc : AddClassViewController} (h : FormInv vc) :
    vc.updateUserInfo.classData "teacher" = vc.teacherValue ∧
    vc.updateUserInfo.classData "period" = vc.periodValue := by
  cases hmode : vc.currentSelectorItem with
  | teacher =>
    -- the current mode's value is stored now, the other one was on leaving its mode
    have hteacher := h.teacher.orElse_eq
    have hperiod := h.period.flushed hmode
    refine ⟨?_, ?_⟩
    · simpa [updateUserInfo, hmode, teacherValue] using hteacher
    · simpa [updateUserInfo, hmode, periodValue] using hperiod
  | period =>
    have hteacher := h.teacher.flushed hmode
    have hperiod := h.period.orElse_eq
    refine ⟨?_, ?_⟩
    · simpa [updateUserInfo, hmode, teacherValue] using hteacher
    · simpa [updateUserInfo, hmode, periodValue] using hperiod

/-- A flush, and a switch to any mode after it, keeps the invariant. -/
theorem FormInv.updateUserInfo {vc : AddClassViewController} (h : FormInv vc)
    (mode : CurrentSelector) :
    FormInv { vc.updateUserInfo with currentSelectorItem := mode } := by
  obtain ⟨hteacher, hperiod⟩ := h.updateUserInfo_entries
  exact ⟨h.title, h.room, .of_eq hteacher, .of_eq hperiod, h.staffBare, h.teacherBare,
    h.newTeacherBare⟩

theorem FormInv.flush {vc : AddClassViewController} (h : FormInv vc) :
    FormInv vc.updateUserInfo :=
  h.updateUserInfo vc.currentSelectorItem

/-- The new teacher's data gets no account and no schedule. -/
theorem FormInv.updateNewTeacherInfo {vc : AddClassViewController} (h : FormInv vc) :
    FormInv vc.updateNewTeacherInfo := by
  obtain ⟨hacct, hsched⟩ := h.newTeacherBare
  refine ⟨h.title, h.room, h.teacher, h.period, h.staffBare, h.teacherBare, ?_, ?_⟩
  · simpa [AddClassViewController.updateNewTeacherInfo] using hacct
  · simpa [AddClassViewController.updateNewTeacherInfo] using hsched

/-- The popup's ways out touch nothing but the popup and the picker. -/
theorem FormInv.closeTeacherView {vc : AddClassViewController} (h : FormInv vc) :
    FormInv vc.closeTeacherView :=
  ⟨h.title, h.room, h.teacher, h.period, h.staffBare, h.teacherBare, h.newTeacherBare⟩

theorem FormInv.appendStaff {vc : AddClassViewController} (h : FormInv vc) {teacher : Faculty}
    (hbare : teacher.IsBare) : FormInv (vc.appendStaff teacher) := by
  refine ⟨h.title, h.room, h.teacher, h.period, ?_, h.teacherBare, h.newTeacherBare⟩
  intro s' fac' hs' hfac' f hf
  obtain ⟨s, hs, rfl⟩ := Option.map_eq_some_iff.mp hs'
  obtain ⟨fac, hfac, rfl⟩ := Option.map_eq_some_iff.mp hfac'
  rcases List.mem_append.mp hf with hf | hf
  · exact h.staffBare s fac hs hfac f hf
  · obtain rfl := List.mem_singleton.mp hf
    exact hbare

theorem FormInv.endAddTeacher {vc : AddClassViewController} (h : FormInv vc)
    (documentID : String) : FormInv (vc.endAddTeacher documentID) := by
  have h' := h.updateNewTeacherInfo
  rcases endAddTeacher_cases vc documentID with ⟨-, heq⟩ | ⟨-, heq | ⟨teacher, hteacher, heq⟩⟩
  · rw [heq]
    exact h'
  · rw [heq]
    exact h'.closeTeacherView
  · rw [heq]
    obtain ⟨hacct, hsched⟩ := h'.newTeacherBare
    exact (h'.appendStaff (Faculty.ofRefData_bare hacct hsched hteacher)).closeTeacherView

/-- A picker row only changes the value of the current mode. -/
theorem FormInv.pickerDidSelectRow {vc vc' : AddClassViewController} {row : Nat}
    (h : FormInv vc) (hs : vc.pickerDidSelectRow row = some vc') : FormInv vc' := by
  rcases pickerDidSelectRow_cases hs with ⟨hmode, fac, t, hfac, ht, rfl⟩ | rfl | ⟨hmode, rfl⟩
  · obtain ⟨school, hschool, hstaff⟩ := Option.bind_eq_some_iff.mp hfac
    refine ⟨h.title, h.room, ⟨?_, nofun⟩, h.period, h.staffBare, ?_, h.newTeacherBare⟩
    · intro hother
      have hother : vc.currentSelectorItem = .period := hother
      rw [hmode] at hother
      cases hother
    · intro f hf
      obtain rfl := Option.some.inj hf
      exact h.staffBare school fac hschool hstaff _ (List.mem_of_getElem? ht)
  · exact h
  · refine ⟨h.title, h.room, h.teacher, ⟨?_, nofun⟩, h.staffBare, h.teacherBare,
      h.newTeacherBare⟩
    intro hother
    have hother : vc.currentSelectorItem = .teacher := hother
    rw [hmode] at hother
    cases hother

/-- A submission is a flush and, at most, an alert. -/
theorem FormInv.addClass {vc : AddClassViewController} (h : FormInv vc) (documentID : String) :
    FormInv (vc.addClass documentID) := by
  obtain ⟨title, room, teacher, period, staffBare, teacherBare, newTeacherBare⟩ := h.flush
  obtain ⟨errorClass, successAlert, heq, -⟩ := addClass_cases vc documentID
  rw [heq]
  exact ⟨title, room, teacher, period, staffBare, teacherBare, newTeacherBare⟩

theorem formStep_formInv {vc vc' : AddClassViewController} {e : Event} (h : FormInv vc)
    (hs : vc.formStep e = some vc') : FormInv vc' := by
  cases e with
  | editClassTitle text =>
    obtain rfl := Option.some.inj hs
    exact ⟨⟨text, rfl⟩, h.room, h.teacher, h.period, h.staffBare, h.teacherBare,
      h.newTeacherBare⟩
  | editRoomNumber text =>
    obtain rfl := Option.some.inj hs
    exact ⟨h.title, ⟨text, rfl⟩, h.teacher, h.period, h.staffBare, h.teacherBare,
      h.newTeacherBare⟩
  | textField action =>
    obtain rfl := Option.some.inj hs
    cases action <;> exact h.flush
  | teacher =>
    obtain ⟨-, hs⟩ := Option.ite_none_right_eq_some.mp hs
    obtain rfl := Option.some.inj hs
    obtain ⟨title, room, teacher, period, staffBare, teacherBare, newBare⟩ :=
      h.updateUserInfo .teacher
    exact ⟨title, room, teacher, period, staffBare, teacherBare, newBare⟩
  | period =>
    obtain ⟨-, hs⟩ := Option.ite_none_right_eq_some.mp hs
    obtain rfl := Option.some.inj hs
    obtain ⟨title, room, teacher, period, staffBare, teacherBare, newBare⟩ :=
      h.updateUserInfo .period
    exact ⟨title, room, teacher, period, staffBare, teacherBare, newBare⟩
  | pickerDidSelectRow row =>
    obtain ⟨-, hs⟩ := Option.ite_none_right_eq_some.mp hs
    exact h.pickerDidSelectRow hs
  | teacherPickerDidSelectRow row =>
    obtain ⟨-, hs⟩ := Option.ite_none_right_eq_some.mp hs
    obtain ⟨title, -, rfl⟩ := Option.map_eq_some_iff.mp hs
    exact ⟨h.title, h.room, h.teacher, h.period, h.staffBare, h.teacherBare, h.newTeacherBare⟩
  | nameField action =>
    obtain rfl := Option.some.inj hs
    cases action <;> exact h.updateNewTeacherInfo
  | endAddTeacher documentID =>
    obtain ⟨-, hs⟩ := Option.ite_none_right_eq_some.mp hs
    obtain rfl := Option.some.inj hs
    exact h.endAddTeacher documentID
  | cancelAddTeacher =>
    obtain ⟨-, hs⟩ := Option.ite_none_right_eq_some.mp hs
    obtain rfl := Option.some.inj hs
    exact h.closeTeacherView
  | addClass documentID =>
    obtain ⟨-, hs⟩ := Option.ite_none_right_eq_some.mp hs
    obtain rfl := Option.some.inj hs
    exact h.addClass documentID
  | ok => exact nomatch hs
  | addTeacher | editTeacherFirst text | editTeacherLast text | cancel =>
    -- popup state and navigation
    obtain rfl := Option.some.inj hs
    exact ⟨h.title, h.room, h.teacher, h.period, h.staffBare, h.teacherBare, h.newTeacherBare⟩

/-- **Step lemma.** -/
theorem step_formInv {vc vc' : AddClassViewController} {e : Event} (h : FormInv vc)
    (hs : vc.step e = some vc') : FormInv vc' := by
  unfold step at hs
  split at hs
  next => exact formStep_formInv h hs
  next =>
    split at hs
    next =>
      obtain rfl := Option.some.inj hs
      exact ⟨h.title, h.room, h.teacher, h.period, h.staffBare, h.teacherBare,
        h.newTeacherBare⟩
    next => exact nomatch hs

/-- **Run lemma.** -/
theorem formInv_of_reachable {vc : AddClassViewController} (h : machine.Reachable vc) :
    FormInv vc := by
  refine h.invariant (P := FormInv) ?_ fun _ _ _ hinv _ hs => step_formInv hinv hs
  intro vc hinit
  obtain ⟨school, scheduleToReturn, hstaff, rfl⟩ := hinit
  refine ⟨⟨"", rfl⟩, ⟨"", rfl⟩, .of_eq rfl, .of_eq rfl, ?_, nofun, rfl, rfl⟩
  intro s fac hs hfac
  obtain ⟨r, hr⟩ := hstaff s fac hs hfac
  exact getFaculty_bare hr

/-- A form that passes verification has a title, a teacher and a period. -/
theorem verification_eq_none {vc : AddClassViewController} (h : vc.verification = none) :
    (∃ t, vc.currentTeacher = some t) ∧ ∃ p, vc.currentPeriod = some p := by
  unfold verification at h
  rw [ite_eq_left_iff] at h
  have hempty := by_contra fun hne => nomatch h hne
  simp only [String.append_eq_empty_iff] at hempty
  obtain ⟨⟨-, hteacher⟩, hperiod⟩ := hempty
  refine ⟨?_, ?_⟩
  · cases ht : vc.currentTeacher with
    | none => simp [ht] at hteacher
    | some t => exact ⟨t, rfl⟩
  · cases hp : vc.currentPeriod with
    | none => simp [hp] at hperiod
    | some p => exact ⟨p, rfl⟩

/-- **A verified form becomes exactly the course on screen.** After any
events, if a tap on `AddClass` passes verification and there is a school,
the tap builds a course from the values on screen and offers it, and the
document it writes decodes to the same course. -/
theorem verified_form_is_course {vc : AddClassViewController} (h : machine.Reachable vc)
    (documentID : String) {school : School} (hschool : vc.school = some school)
    (hverified : vc.updateUserInfo.verification = none) :
    ∃ course, Course.ofRefData documentID vc.updateUserInfo.classData = .ok course ∧
      (vc.addClass documentID).successAlert = some (some course) ∧
      course.id = documentID ∧
      vc.classTitle = some course.displayName ∧
      vc.roomNumber = course.classroom ∧
      vc.currentTeacher = some course.teacher ∧
      vc.currentPeriod = some course.period ∧
      course.schoolId = school.id ∧
      Course.ofData course.data = .ok course := by
  have hinv := formInv_of_reachable h
  obtain ⟨hteacher, hperiod⟩ := hinv.updateUserInfo_entries
  obtain ⟨title, htitle⟩ := hinv.title
  obtain ⟨room, hroom⟩ := hinv.room
  obtain ⟨⟨t, ht⟩, ⟨p, hp⟩⟩ := verification_eq_none hverified
  have ht : vc.currentTeacher = some t := ht
  have hp : vc.currentPeriod = some p := hp
  have hname : vc.updateUserInfo.classData "displayName" = some (.string title) := by
    cases hmode : vc.currentSelectorItem <;> simp [updateUserInfo, hmode, htitle]
  have hclassroom : vc.updateUserInfo.classData "classroom" = some (.string room) := by
    cases hmode : vc.currentSelectorItem <;> simp [updateUserInfo, hmode, hroom]
  have hschoolId : vc.updateUserInfo.classData "schoolId" = some (.string school.id) := by
    cases hmode : vc.currentSelectorItem <;> simp [updateUserInfo, hmode, hschool]
  have hok : Course.ofRefData documentID vc.updateUserInfo.classData =
      .ok ⟨title, documentID, t, school.id, p, some room⟩ := by
    simp [Course.ofRefData, Dict.cast, Dict.castOptional, hname, hteacher, hperiod,
      hclassroom, hschoolId, teacherValue, periodValue, ht, hp, Value.string?, Value.int?,
      Value.boxed?, Boxed.faculty?, guardLet, bind, Except.bind, pure, Except.pure]
  refine ⟨_, hok, ?_, rfl, htitle, hroom, ht, hp, rfl, ?_⟩
  · have hschool' : vc.updateUserInfo.school = some school := hschool
    unfold addClass
    simp only [hverified, hschool', hok]
  · exact (Course.ofData_data_eq_self_iff _).mpr (hinv.teacherBare t ht)

/-- A form that was just presented, for a school with one teacher. -/
def staffedForm : AddClassViewController :=
  viewDidLoad { school := some { morristown with staff := some [kappel.bare] } }

theorem staffedForm_init : machine.init staffedForm := by
  refine ⟨_, none, ?_, rfl⟩
  intro s fac hs hfac
  obtain rfl := Option.some.inj hs
  obtain rfl := Option.some.inj hfac
  exact ⟨.documents [kappel.document], rfl⟩

/-- A form filled in with the pickers in turn: teacher, period, teacher. -/
theorem verified_form_is_course_filled :
    ∃ vc, machine.Reachable vc ∧ vc.updateUserInfo.verification = none ∧
      ∃ course, (vc.addClass "c2").successAlert = some (some course) ∧
        course.displayName = "Pre-Calculus" ∧ course.period = 3 ∧
        Course.ofData course.data = .ok course := by
  have hreach := Machine.run_reachable (M := machine)
    [.editClassTitle "Pre-Calculus", .teacher, .pickerDidSelectRow 0, .period,
      .pickerDidSelectRow 2, .teacher] (.init staffedForm_init) rfl
  obtain ⟨course, -, halert, -, htitle, -, -, hperiod, -, hdecode⟩ :=
    verified_form_is_course hreach "c2" rfl rfl
  exact ⟨_, hreach, rfl, course, halert, (Option.some.inj htitle).symm,
    (Option.some.inj hperiod).symm, hdecode⟩

end AddClassViewController

end Scholarli
