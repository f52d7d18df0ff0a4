import Scholarli.Database.Store
import Scholarli.SignUp.Checkmarks
import Scholarli.SignUp.Periods

/-!
# Many clients, one database

What one client writes, the others read. The class form has the two handlers
that write: `AddClass(_:)` a course and `endAddTeacher(_:)` a teacher, each
through an initialiser that takes the collection and calls `setData` on a new
document of it. `cloud` is the machine of any number of clients in the
sign-up process, next to the database that they share.

`Firestore` is what the database promises, and it is little: the documents in
an answer are documents of the collection, each at most once, but any of them
may be missing and the order is arbitrary, so an answer may be stale or
partial; answers may fail, and come at any time; and a new document gets an
id that is not in use anywhere. Of the answer for a username nothing is
promised.

* `addClass_write_cases`, `endAddTeacher_write_cases` — what a form writes is
  what it shows: the course of its alert, the new member of its staff.
-/

namespace Scholarli

open Base (Machine Document Table World Value Dict)

/-- Every field of a new course was read from the form's data. -/
theorem Course.ofRefData_fields {documentID : String} {data : Data} {course : Course}
    (h : Course.ofRefData documentID data = .ok course) :
    course.id = documentID ∧
    data.cast "teacher" (Value.boxed? Boxed.faculty?) = some course.teacher ∧
    data.cast "schoolId" Value.string? = some course.schoolId := by
  unfold Course.ofRefData at h
  obtain ⟨displayName, -, h⟩ := guardLet_bind_ok h
  obtain ⟨teacher, hteacher, h⟩ := guardLet_bind_ok h
  obtain ⟨schoolId, hschoolId, h⟩ := guardLet_bind_ok h
  obtain ⟨period, -, h⟩ := guardLet_bind_ok h
  obtain ⟨classroom, -, h⟩ := guardLet_bind_ok h
  obtain rfl := Except.ok.inj h
  exact ⟨rfl, hteacher, hschoolId⟩

theorem Faculty.ofRefData_id {documentID : String} {data : Data} {teacher : Faculty}
    (h : Faculty.ofRefData documentID data = .ok teacher) : teacher.id = documentID := by
  unfold Faculty.ofRefData at h
  obtain ⟨lastName, -, h⟩ := guardLet_bind_ok h
  obtain ⟨firstName, -, h⟩ := guardLet_bind_ok h
  obtain ⟨title, -, h⟩ := guardLet_bind_ok h
  obtain rfl := Except.ok.inj h
  rfl

/-! ## What a form writes -/

/-- The document of a course in the catalogue of a school. -/
def Course.write (schoolID : String) (course : Course) : Write :=
  ⟨⟨courseListPath schoolID, course.id⟩, course.document⟩

/-- The document of a teacher in the faculty of a school. -/
def Faculty.write (schoolID : String) (teacher : Faculty) : Write :=
  ⟨⟨facultyPath schoolID, teacher.id⟩, teacher.document⟩

namespace AddClassViewController

/-- What `AddClass(_:)` hands to `setData`, through `Course(ref:data:)`. -/
def addClassWrite (vc : AddClassViewController) (documentID : String) : Option Write :=
  let vc := vc.updateUserInfo
  match vc.verification with
  | some _ => none
  | none =>
    match vc.school with
    | none => none
    | some school =>
      match Course.ofRefData documentID vc.classData with
      | .ok newCrs => some (newCrs.write school.id)
      | .error _ => none

/-- What `endAddTeacher(_:)` hands to `setData`, through `Faculty(ref:data:)`. -/
def endAddTeacherWrite (vc : AddClassViewController) (documentID : String) : Option Write :=
  let vc := vc.updateNewTeacherInfo
  match vc.verifyNewTeacher with
  | some _ => none
  | none =>
    match vc.school with
    | none => none
    | some school =>
      match Faculty.ofRefData documentID vc.addTeacherData with
      | .ok teacher => some (teacher.write school.id)
      | .error _ => none

/-- The document that an event writes. -/
def write? (vc : AddClassViewController) : Event → Option Write
  | .addClass documentID => vc.addClassWrite documentID
  | .endAddTeacher documentID => vc.endAddTeacherWrite documentID
  | _ => none

/-- **Inversion** of a submission, with its write: nothing is written and no
button is offered, or the alert offers the course that is written. -/
theorem addClass_write_cases (vc : AddClassViewController) (documentID : String) :
    (((vc.addClass documentID).successAlert = vc.successAlert ∨
        (vc.addClass documentID).successAlert = some none) ∧
      vc.addClassWrite documentID = none) ∨
    ∃ school newCrs, vc.school = some school ∧
      Course.ofRefData documentID vc.updateUserInfo.classData = .ok newCrs ∧
      (vc.addClass documentID).successAlert = some (some newCrs) ∧
      vc.addClassWrite documentID = some (newCrs.write school.id) := by
  cases hverified : vc.updateUserInfo.verification with
  | some errorMessage =>
    refine Or.inl ⟨Or.inl ?_, ?_⟩
    · simp only [addClass, hverified]
      rfl
    · simp only [addClassWrite, hverified]
  | none =>
    cases hschool : vc.updateUserInfo.school with
    | none =>
      refine Or.inl ⟨Or.inl ?_, ?_⟩
      · simp only [addClass, hverified, hschool]
        rfl
      · simp only [addClassWrite, hverified, hschool]
    | some school =>
      cases hok : Course.ofRefData documentID vc.updateUserInfo.classData with
      | error e =>
        refine Or.inl ⟨Or.inr ?_, ?_⟩
        · simp only [addClass, hverified, hschool, hok]
        · simp only [addClassWrite, hverified, hschool, hok]
      | ok newCrs =>
        refine Or.inr ⟨school, newCrs, hschool, rfl, ?_, ?_⟩
        · simp only [addClass, hverified, hschool, hok]
        · simp only [addClassWrite, hverified, hschool, hok]

/-- **Inversion** of the popup's submission, with its write: the school stays
and nothing is written, or its staff gets the teacher that is. -/
theorem endAddTeacher_write_cases (vc : AddClassViewController) (documentID : String) :
    ((vc.endAddTeacher documentID).school = vc.school ∧
      vc.endAddTeacherWrite documentID = none) ∨
    ∃ school teacher, vc.school = some school ∧
      Faculty.ofRefData documentID vc.updateNewTeacherInfo.addTeacherData = .ok teacher ∧
      (vc.endAddTeacher documentID).school =
        some { school with staff := school.staff.map (· ++ [teacher]) } ∧
      vc.endAddTeacherWrite documentID = some (teacher.write school.id) := by
  cases hverified : vc.updateNewTeacherInfo.verifyNewTeacher with
  | some message =>
    refine Or.inl ⟨?_, ?_⟩
    · simp only [endAddTeacher, hverified]
      rfl
    · simp only [endAddTeacherWrite, hverified]
  | none =>
    cases hschool : vc.updateNewTeacherInfo.school with
    | none =>
      refine Or.inl ⟨?_, ?_⟩
      · simp only [endAddTeacher, hverified, hschool]
        rfl
      · simp only [endAddTeacherWrite, hverified, hschool]
    | some school =>
      cases hok : Faculty.ofRefData documentID vc.updateNewTeacherInfo.addTeacherData with
      | error e =>
        refine Or.inl ⟨?_, ?_⟩
        · simp only [endAddTeacher, hverified, hschool, hok]
          rfl
        · simp only [endAddTeacherWrite, hverified, hschool, hok]
      | ok teacher =>
        refine Or.inr ⟨school, teacher, hschool, rfl, ?_, ?_⟩
        · simp only [endAddTeacher, hverified, hschool, hok]
          show vc.updateNewTeacherInfo.school.map _ = _
          rw [hschool, Option.map_some]
        · simp only [endAddTeacherWrite, hverified, hschool, hok]

theorem endAddTeacher_currentTeacher (vc : AddClassViewController) (documentID : String) :
    (vc.endAddTeacher documentID).currentTeacher = vc.currentTeacher := by
  rcases endAddTeacher_cases vc documentID with ⟨-, heq⟩ | ⟨-, heq | ⟨teacher, -, heq⟩⟩
  · rw [heq]
    rfl
  · rw [heq]
    rfl
  · rw [heq]
    rfl

theorem step_addClass {vc vc' : AddClassViewController} {documentID : String}
    (h : vc.step (.addClass documentID) = some vc') :
    vc.successAlert = none ∧ vc' = vc.addClass documentID := by
  unfold step at h
  split at h
  next hnone =>
    obtain ⟨-, h⟩ := Option.ite_none_right_eq_some.mp h
    exact ⟨hnone, (Option.some.inj h).symm⟩
  next =>
    split at h
    next => contradiction
    next => cases h

theorem step_endAddTeacher {vc vc' : AddClassViewController} {documentID : String}
    (h : vc.step (.endAddTeacher documentID) = some vc') :
    vc' = vc.endAddTeacher documentID := by
  unfold step at h
  split at h
  next =>
    obtain ⟨-, h⟩ := Option.ite_none_right_eq_some.mp h
    exact (Option.some.inj h).symm
  next =>
    split at h
    next => contradiction
    next => cases h

theorem SameOwner.periodCount {vc vc' : AddClassViewController} (h : SameOwner vc vc') :
    vc'.periodCount = vc.periodCount := by
  have hmax := congrArg (Option.bind · (·.maxStudentCourseLoad)) h.school
  unfold AddClassViewController.periodCount
  rw [Option.bind_map, Option.bind_map] at hmax
  exact hmax

/-- A new course is for the form's school, with the teacher on screen. -/
theorem FormInv.ofRefData_course {vc : AddClassViewController} (h : FormInv vc)
    {documentID : String} {school : School} {course : Course} (hschool : vc.school = some school)
    (hok : Course.ofRefData documentID vc.updateUserInfo.classData = .ok course) :
    course.id = documentID ∧ course.schoolId = school.id ∧
      vc.currentTeacher = some course.teacher := by
  obtain ⟨hid, hteacher, hschoolId⟩ := Course.ofRefData_fields hok
  refine ⟨hid, ?_, ?_⟩
  · have hentry : vc.updateUserInfo.classData "schoolId" = some (.string school.id) := by
      cases hmode : vc.currentSelectorItem <;>
        simp [AddClassViewController.updateUserInfo, hmode, hschool]
    unfold Dict.cast at hschoolId
    rw [hentry] at hschoolId
    exact (Option.some.inj hschoolId).symm
  · -- the teacher that was read is the one that was flushed
    unfold Dict.cast at hteacher
    rw [h.updateUserInfo_entries.1] at hteacher
    obtain ⟨v, hv, hboxed⟩ := Option.bind_eq_some_iff.mp hteacher
    obtain ⟨teacher, hcurrent, rfl⟩ := Option.map_eq_some_iff.mp hv
    obtain rfl : teacher = course.teacher := Option.some.inj hboxed
    exact hcurrent

/-- A course that a submission writes is that of the form: for its school, with
the teacher on screen and a period of the school day. -/
theorem addClass_written {vc vc' : AddClassViewController} (hreach : machine.Reachable vc)
    {documentID : String} (hs : vc.step (.addClass documentID) = some vc') {write : Write}
    (hwrite : vc.addClassWrite documentID = some write) :
    ∃ (school : School) (course : Course), vc.school = some school ∧
      write = course.write school.id ∧ course.id = documentID ∧ course.schoolId = school.id ∧
      vc.currentTeacher = some course.teacher ∧
      ∀ m, school.maxStudentCourseLoad = some m → InDay m course.period := by
  obtain ⟨-, rfl⟩ := step_addClass hs
  rcases addClass_write_cases vc documentID with ⟨-, hnone⟩ |
    ⟨school, course, hschool, hok, halert, hsome⟩
  · rw [hnone] at hwrite
    cases hwrite
  · rw [hsome] at hwrite
    obtain rfl := Option.some.inj hwrite
    obtain ⟨hid, hschoolId, hteacher⟩ := (formInv_of_reachable hreach).ofRefData_course hschool hok
    refine ⟨school, course, hschool, rfl, hid, hschoolId, hteacher, ?_⟩
    intro m hm
    have hoffers := offers_of_reachable (hreach.step trivial hs)
    refine (hoffers.alert course halert).2 m ?_
    rw [(addClass_sameOwner vc documentID).1.periodCount]
    unfold periodCount
    rw [hschool]
    exact hm

/-- A teacher that the popup writes is a new one of the form's school. -/
theorem endAddTeacher_written {vc : AddClassViewController} (hreach : machine.Reachable vc)
    {documentID : String} {write : Write}
    (hwrite : vc.endAddTeacherWrite documentID = some write) :
    ∃ (school : School) (teacher : Faculty), vc.school = some school ∧
      write = teacher.write school.id ∧
      teacher.id = documentID ∧ teacher.IsBare := by
  rcases endAddTeacher_write_cases vc documentID with ⟨-, hnone⟩ |
    ⟨school, teacher, hschool, hok, -, hsome⟩
  · rw [hnone] at hwrite
    cases hwrite
  · rw [hsome] at hwrite
    obtain rfl := Option.some.inj hwrite
    have hform := (formInv_of_reachable hreach).updateNewTeacherInfo
    obtain ⟨hacct, hsched⟩ := hform.newTeacherBare
    exact ⟨school, teacher, hschool, rfl, Faculty.ofRefData_id hok,
      Faculty.ofRefData_bare hacct hsched hok⟩

end AddClassViewController

/-! ## The database and its clients -/

/-- The collection that a query reads. -/
def Call.collection? : Call → Option String
  | .verifyUsername _ => none
  | .getSchoolList => some "schools"
  | .courseListForNewUser school => some (courseListPath school.id)
  | .courseListForChooseClasses school => some (courseListPath school.id)
  | .courseListForReturn _ school => some (courseListPath school.id)
  | .getFaculty school => some (facultyPath school.id)

theorem Call.collection?_of_catalogue? {call : Call} {school : School}
    (h : call.catalogue? = some school) : call.collection? = some (courseListPath school.id) := by
  cases call with
  | courseListForNewUser _ | courseListForChooseClasses _ | courseListForReturn _ _ =>
    obtain rfl := Option.some.inj h
    rfl
  | verifyUsername _ | getSchoolList | getFaculty _ => cases h

/-- The id of the document that a submission would create. -/
def Event.documentID? : Event → Option String
  | .input (.addClass (.addClass documentID)) => some documentID
  | .input (.addClass (.endAddTeacher documentID)) => some documentID
  | _ => none

/-- The document that a step writes: only forms do, and only the screen that is
shown gets input. -/
def Flow.write? (flow : Flow) : Event → Option Write
  | .input (.addClass e) =>
    match flow.screens[flow.screens.length - 1]? with
    | some (.addClass vc) => vc.write? e
    | _ => none
  | _ => none

/-- What the database promises about a step of a client. -/
structure Firestore (store : Store) (flow : Flow) (e : Event) : Prop where
  answers : ∀ k docs request path, e = .documents k docs → flow.requests[k]? = some request →
    request.call.collection? = some path → (store.collection path).Selects docs
  fresh : ∀ documentID, e.documentID? = some documentID → ∀ path, store ⟨path, documentID⟩ = none

/-- Any number of clients, and the database. -/
def cloud (ι : Type) [DecidableEq ι] (lower : String → String) :
    Machine (World Store ι Flow) (ι × Event) :=
  (signUp lower).sharing Store.Sound fun store flow e => store.setData (flow.write? e)

namespace Flow

variable {lower : String → String} {flow flow' : Flow} {e : Event}

/-- **Inversion.** A step that writes is one of a form. -/
theorem form_of_write? {write : Write} (hs : flow.step lower e = some flow')
    (hwrite : flow.write? e = some write) :
    ∃ vc vc' ae, e = .input (.addClass ae) ∧ .addClass vc ∈ flow.screens ∧
      vc.step ae = some vc' ∧ vc.write? ae = some write := by
  unfold write? at hwrite
  split at hwrite
  next ae =>
    split at hwrite
    next vc hvc =>
      cases steps_of_step hs with
      | deliver hd hdel =>
        cases hd with
        | input hinput =>
          obtain ⟨screen, r, hi, hr, -⟩ := hdel
          rw [hvc] at hi
          obtain rfl := Option.some.inj hi
          cases Screen.handled_of_handle hr with
          | addClass hstep =>
            exact ⟨vc, _, ae, rfl, List.mem_of_getElem? hvc, hstep, hwrite⟩
    next => cases hwrite
  next => cases hwrite

/-- What a step writes has the id it was given. -/
theorem documentID_of_write? {write : Write} (hreach : (signUp lower).Reachable flow)
    (hs : flow.step lower e = some flow') (hwrite : flow.write? e = some write) :
    e.documentID? = some write.docRef.documentID := by
  obtain ⟨vc, vc', ae, rfl, hvc, hstep, hwrite⟩ := form_of_write? hs hwrite
  have hform := form_of_reachable hreach vc hvc
  cases ae with
  | addClass documentID =>
    obtain ⟨_, course, -, rfl, rfl, -⟩ :=
      AddClassViewController.addClass_written hform hstep hwrite
    rfl
  | endAddTeacher documentID =>
    obtain ⟨_, teacher, -, rfl, rfl, -⟩ :=
      AddClassViewController.endAddTeacher_written hform hwrite
    rfl
  | editClassTitle _ | editRoomNumber _ | textField _ | teacher | period
    | pickerDidSelectRow _ | teacherPickerDidSelectRow _ | addTeacher | editTeacherFirst _
    | editTeacherLast _ | nameField _ | cancelAddTeacher | ok | cancel => cases hwrite

/-- An admissible step only adds to the database. -/
theorem le_setData {store : Store} (hreach : (signUp lower).Reachable flow)
    (hok : Firestore store flow e) (hs : flow.step lower e = some flow') :
    store ≤ store.setData (flow.write? e) := by
  refine Store.le_setData ?_
  intro write hwrite
  exact hok.fresh _ (documentID_of_write? hreach hs hwrite) _

end Flow

end Scholarli
