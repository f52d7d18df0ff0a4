import Mathlib.Data.List.Nodup
import Scholarli.Base.Shared
import Scholarli.Database.Handlers
import Scholarli.Objects.Injectivity

/-!
# The database

Firestore as the clients see it: documents under a collection path and an id.
The app reads `schools` and, of each school, the two collections that its
clients write: `courseList` and `faculty`.

Mirroring notes:
- `db.collection(path)` takes the path as a string, with the id of the school
  in the middle. The id is any string here; Firestore refuses some of them.
- `setData` is called without a completion handler, so a client goes on as if
  the document were stored. The store has what was handed to `setData`;
  whether a query already sees it is left open by its answer (`Table.Selects`).

`Sound` is what the clients make of the two collections: only documents that
the encoders wrote, each under its own id, for a school of the database; those
of courses with a teacher who is stored for the same school, and a period of
its day. From a sound store a query always gets a list
(`Sound.getCourseList_eq`, `Sound.getFaculty_eq`).
-/

namespace Scholarli

open Base (Document Table)

/-- `db.collection(path).document(documentID)`. -/
structure DocumentReference where
  path : String
  documentID : String
  deriving DecidableEq

/-- The documents of the database. -/
abbrev Store := Table DocumentReference (Document Boxed)

/-- `"schools/\(id)/courseList"`. -/
def courseListPath (schoolID : String) : String := "schools/" ++ schoolID ++ "/courseList"

/-- `"schools/\(id)/faculty"`. -/
def facultyPath (schoolID : String) : String := "schools/" ++ schoolID ++ "/faculty"

theorem courseListPath_inj {a b : String} (h : courseListPath a = courseListPath b) : a = b := by
  unfold courseListPath at h
  rw [String.append_left_inj, String.append_right_inj] at h
  exact h

theorem facultyPath_inj {a b : String} (h : facultyPath a = facultyPath b) : a = b := by
  unfold facultyPath at h
  rw [String.append_left_inj, String.append_right_inj] at h
  exact h

theorem courseListPath_getLast? (a : String) : (courseListPath a).toList.getLast? = some 't' := by
  unfold courseListPath
  rw [String.toList_append, List.getLast?_append]
  rfl

theorem facultyPath_getLast? (a : String) : (facultyPath a).toList.getLast? = some 'y' := by
  unfold facultyPath
  rw [String.toList_append, List.getLast?_append]
  rfl

/-- The paths end differently. -/
theorem courseListPath_ne_facultyPath (a b : String) : courseListPath a ≠ facultyPath b := by
  intro h
  have hlast := courseListPath_getLast? a
  rw [h, facultyPath_getLast?] at hlast
  exact absurd hlast (by decide)

theorem courseListPath_ne_schools (a : String) : courseListPath a ≠ "schools" := by
  intro h
  have hlast := courseListPath_getLast? a
  rw [h] at hlast
  exact absurd hlast (by decide)

theorem facultyPath_ne_schools (a : String) : facultyPath a ≠ "schools" := by
  intro h
  have hlast := facultyPath_getLast? a
  rw [h] at hlast
  exact absurd hlast (by decide)

/-- A document handed to `setData`. -/
structure Write where
  docRef : DocumentReference
  document : Document Boxed

/-- What is read off the documents is read off the records they decode to. -/
theorem DecodesTo.map_decoded {α γ : Type} {init : Data → Except Thrown α}
    {docs : List (Document Boxed)} {xs : List α} (h : DecodesTo init docs xs) (f : α → γ) :
    docs.map (fun doc => (decoded init doc).map f) = (xs.map f).map some := by
  induction h with
  | nil => rfl
  | @cons doc x docs xs hdoc _ ih =>
    rw [List.map_cons, decoded_eq_some_iff.mpr hdoc, ih]
    rfl

theorem DecodesTo.exists_record {α : Type} {init : Data → Except Thrown α}
    {docs : List (Document Boxed)} {xs : List α} (h : DecodesTo init docs xs)
    {doc : Document Boxed} (hdoc : doc ∈ docs) : ∃ x ∈ xs, init doc.data = .ok x := by
  induction h with
  | nil => cases hdoc
  | @cons d x docs xs hd _ ih =>
    rcases List.mem_cons.mp hdoc with rfl | hdoc
    · exact ⟨x, List.mem_cons_self, hd⟩
    · obtain ⟨y, hy, hdecode⟩ := ih hdoc
      exact ⟨y, List.mem_cons_of_mem x hy, hdecode⟩

namespace Store

/-- The documents of a collection, by id. -/
def collection (store : Store) (path : String) : Table String (Document Boxed) :=
  fun documentID => store ⟨path, documentID⟩

theorem collection_mono {store store' : Store} (h : store ≤ store') (path : String) :
    store.collection path ≤ store'.collection path :=
  fun documentID document hdoc => h ⟨path, documentID⟩ document hdoc

/-- `docRef.setData(data)`, if it is called. -/
def setData (store : Store) : Option Write → Store
  | none => store
  | some write => store.set write.docRef write.document

/-- What the write was for is under its reference. -/
theorem setData_eq (store : Store) (write : Write) :
    store.setData (some write) write.docRef = some write.document :=
  Table.set_self store write.docRef write.document

/-- A write to a free reference loses nothing. -/
theorem le_setData {store : Store} {write : Option Write}
    (h : ∀ w, write = some w → store w.docRef = none) : store ≤ store.setData write := by
  cases write with
  | none => exact le_refl store
  | some w => exact Table.le_set (h w rfl) w.document

/-- Where a document comes from. -/
theorem setData_cases {store : Store} {write : Option Write} {docRef : DocumentReference}
    {document : Document Boxed} (h : store.setData write docRef = some document) :
    write = some ⟨docRef, document⟩ ∨ store docRef = some document := by
  cases write with
  | none => exact Or.inr h
  | some w =>
    rcases Table.set_cases h with ⟨rfl, rfl⟩ | hold
    · exact Or.inl rfl
    · exact Or.inr hold

/-- The course is stored for its school. -/
def HasCourse (store : Store) (course : Course) : Prop :=
  store ⟨courseListPath course.schoolId, course.id⟩ = some course.document

/-- The teacher is stored for the school. -/
def HasFaculty (store : Store) (schoolID : String) (teacher : Faculty) : Prop :=
  store ⟨facultyPath schoolID, teacher.id⟩ = some teacher.document

/-- The school is read from the collection of schools. -/
def HasSchool (store : Store) (school : School) : Prop :=
  ∃ documentID document, store ⟨"schools", documentID⟩ = some document ∧
    School.ofData document.data = .ok school

/-- Some school of that id has the period in its day. -/
def HasPeriod (store : Store) (schoolID : String) (period : Int) : Prop :=
  ∃ school m, store.HasSchool school ∧ school.id = schoolID ∧
    school.maxStudentCourseLoad = some m ∧ 1 ≤ period ∧ period ≤ m

theorem HasCourse.mono {store store' : Store} {course : Course} (h : store.HasCourse course)
    (hle : store ≤ store') : store'.HasCourse course :=
  hle _ _ h

theorem HasFaculty.mono {store store' : Store} {schoolID : String} {teacher : Faculty}
    (h : store.HasFaculty schoolID teacher) (hle : store ≤ store') :
    store'.HasFaculty schoolID teacher :=
  hle _ _ h

theorem HasSchool.mono {store store' : Store} {school : School} (h : store.HasSchool school)
    (hle : store ≤ store') : store'.HasSchool school := by
  obtain ⟨documentID, document, hdoc, hdecode⟩ := h
  exact ⟨documentID, document, hle _ _ hdoc, hdecode⟩

theorem HasPeriod.mono {store store' : Store} {schoolID : String} {period : Int}
    (h : store.HasPeriod schoolID period) (hle : store ≤ store') :
    store'.HasPeriod schoolID period := by
  obtain ⟨school, m, hschool, hrest⟩ := h
  exact ⟨school, m, hschool.mono hle, hrest⟩

/-- What the two collections of a school hold. -/
structure Sound (store : Store) : Prop where
  course : ∀ schoolID documentID document,
    store ⟨courseListPath schoolID, documentID⟩ = some document →
    ∃ course : Course, course.id = documentID ∧ course.schoolId = schoolID ∧
      document = course.document ∧ course.teacher.IsBare ∧
      store.HasFaculty schoolID course.teacher ∧ store.HasPeriod schoolID course.period
  faculty : ∀ schoolID documentID document,
    store ⟨facultyPath schoolID, documentID⟩ = some document →
    ∃ teacher : Faculty, teacher.id = documentID ∧ document = teacher.document ∧
      teacher.IsBare ∧ ∃ school, store.HasSchool school ∧ school.id = schoolID
  unique : ∀ a b documentID,
    store ⟨courseListPath a, documentID⟩ ≠ none →
    store ⟨courseListPath b, documentID⟩ ≠ none → a = b

/-- A database without courses and faculty is sound. -/
theorem sound_of_unwritten {store : Store}
    (hcourses : ∀ schoolID documentID, store ⟨courseListPath schoolID, documentID⟩ = none)
    (hfaculty : ∀ schoolID documentID, store ⟨facultyPath schoolID, documentID⟩ = none) :
    store.Sound := by
  refine ⟨?_, ?_, ?_⟩
  · intro schoolID documentID document hdoc
    rw [hcourses] at hdoc
    cases hdoc
  · intro schoolID documentID document hdoc
    rw [hfaculty] at hdoc
    cases hdoc
  · intro a b documentID ha
    exact absurd (hcourses a documentID) ha

namespace Sound

variable {store : Store} {schoolID : String} {docs : List (Document Boxed)}

/-- A stored course reads back as it is. -/
theorem ofData_course (h : store.Sound) {documentID : String} {document : Document Boxed}
    {course : Course} (hdoc : store ⟨courseListPath schoolID, documentID⟩ = some document)
    (hcourse : Course.ofData document.data = .ok course) :
    store.HasCourse course ∧ course.schoolId = schoolID := by
  obtain ⟨stored, hid, hschool, rfl, hbare, -⟩ := h.course _ _ _ hdoc
  have hdecode := (Course.ofData_data_eq_self_iff stored).mpr hbare
  rw [show Course.ofData stored.document.data = _ from hdecode] at hcourse
  obtain rfl := Except.ok.inj hcourse
  refine ⟨?_, hschool⟩
  unfold HasCourse
  rw [hschool, hid]
  exact hdoc

theorem ofData_faculty (h : store.Sound) {documentID : String} {document : Document Boxed}
    {teacher : Faculty} (hdoc : store ⟨facultyPath schoolID, documentID⟩ = some document)
    (hteacher : Faculty.ofData document.data = .ok teacher) :
    store.HasFaculty schoolID teacher := by
  obtain ⟨stored, hid, rfl, hbare, -⟩ := h.faculty _ _ _ hdoc
  have hdecode := (Faculty.ofData_data_eq_self_iff stored).mpr hbare
  rw [show Faculty.ofData stored.document.data = _ from hdecode] at hteacher
  obtain rfl := Except.ok.inj hteacher
  unfold HasFaculty
  rw [hid]
  exact hdoc

/-- What is known of a stored course. -/
theorem of_hasCourse (h : store.Sound) {course : Course} (hcourse : store.HasCourse course) :
    course.teacher.IsBare ∧ store.HasFaculty course.schoolId course.teacher ∧
      store.HasPeriod course.schoolId course.period := by
  obtain ⟨stored, -, -, hdoc, hrest⟩ := h.course _ _ _ hcourse
  obtain rfl : course = stored := Course.data_injective (congrArg Document.data hdoc)
  exact hrest

/-- **One course for an id**, whatever the school. -/
theorem course_eq (h : store.Sound) {a b : Course} (ha : store.HasCourse a)
    (hb : store.HasCourse b) (hid : a.id = b.id) : a = b := by
  have hschool : a.schoolId = b.schoolId := by
    refine h.unique _ _ a.id ?_ ?_
    · rw [show store ⟨courseListPath a.schoolId, a.id⟩ = _ from ha]
      exact Option.some_ne_none _
    · rw [hid, show store ⟨courseListPath b.schoolId, b.id⟩ = _ from hb]
      exact Option.some_ne_none _
  have hdoc : a.document = b.document := by
    unfold HasCourse at ha hb
    rw [hschool, hid, hb] at ha
    exact (Option.some.inj ha).symm
  exact Course.data_injective (congrArg Document.data hdoc)

/-- What a query for the catalogue gets decodes. -/
theorem getCourseList_eq (h : store.Sound)
    (hdocs : (store.collection (courseListPath schoolID)).Selects docs) :
    ∃ crsList, getCourseList (.documents docs) = some crsList := by
  rw [← Option.ne_none_iff_exists', getCourseList_ne_none_iff]
  intro doc hdoc
  obtain ⟨documentID, hkey⟩ := hdocs.exists_key hdoc
  obtain ⟨course, -, -, rfl, -⟩ := h.course _ _ _ hkey
  exact ⟨_, Course.ofData_data course⟩

/-- What a query for the staff gets decodes. -/
theorem getFaculty_eq (h : store.Sound)
    (hdocs : (store.collection (facultyPath schoolID)).Selects docs) :
    ∃ facList, getFaculty (.documents docs) = some facList := by
  rw [← Option.isSome_iff_exists]
  show (getFaculty.loop docs []).isSome = true
  rw [getFaculty.loop_eq_collect, collect_decoded_isSome_iff]
  intro doc hdoc
  obtain ⟨documentID, hkey⟩ := hdocs.exists_key hdoc
  obtain ⟨teacher, -, rfl, -⟩ := h.faculty _ _ _ hkey
  exact ⟨_, Faculty.ofData_data teacher⟩

/-- What it delivers is stored, for that school. -/
theorem mem_getCourseList (h : store.Sound)
    (hdocs : (store.collection (courseListPath schoolID)).Selects docs) {crsList : List Course}
    (hlist : getCourseList (.documents docs) = some crsList) :
    ∀ course ∈ crsList, store.HasCourse course ∧ course.schoolId = schoolID := by
  intro course hcourse
  obtain ⟨docs', hdocs', hmem⟩ := getCourseList_mem hlist
  cases hdocs'
  obtain ⟨doc, hdoc, hdecode⟩ := hmem course hcourse
  obtain ⟨documentID, hkey⟩ := hdocs.exists_key hdoc
  exact h.ofData_course hkey hdecode

theorem mem_getFaculty (h : store.Sound)
    (hdocs : (store.collection (facultyPath schoolID)).Selects docs) {facList : List Faculty}
    (hlist : getFaculty (.documents docs) = some facList) :
    ∀ teacher ∈ facList, store.HasFaculty schoolID teacher := by
  intro teacher hteacher
  obtain ⟨docs', hdocs', hdecodes⟩ := getFaculty_eq_some_iff.mp hlist
  cases hdocs'
  obtain ⟨doc, hdoc, hdecode⟩ := hdecodes.exists_doc hteacher
  obtain ⟨documentID, hkey⟩ := hdocs.exists_key hdoc
  exact h.ofData_faculty hkey hdecode

/-- From all documents of the collection, all courses are delivered. -/
theorem mem_getCourseList_of_lists (h : store.Sound)
    (hdocs : (store.collection (courseListPath schoolID)).Lists docs) {crsList : List Course}
    (hlist : getCourseList (.documents docs) = some crsList) {course : Course}
    (hschool : course.schoolId = schoolID) (hcourse : store.HasCourse course) :
    course ∈ crsList := by
  obtain ⟨hbare, -⟩ := h.of_hasCourse hcourse
  unfold HasCourse at hcourse
  rw [hschool] at hcourse
  have hdoc : course.document ∈ docs := hdocs.mem hcourse
  obtain ⟨docs', hdocs', hdecodes⟩ := getCourseList_eq_some_iff.mp hlist
  cases hdocs'
  obtain ⟨delivered, hmem, hdecode⟩ := hdecodes.exists_record hdoc
  rw [show Course.ofData course.document.data = _ from
    (Course.ofData_data_eq_self_iff course).mpr hbare] at hdecode
  obtain rfl := Except.ok.inj hdecode
  exact hmem

/-- And no id is delivered twice. -/
theorem nodup_getCourseList (h : store.Sound)
    (hdocs : (store.collection (courseListPath schoolID)).Selects docs) {crsList : List Course}
    (hlist : getCourseList (.documents docs) = some crsList) :
    (crsList.map fun c => c.id).Nodup := by
  obtain ⟨docs', hdocs', hdecodes⟩ := getCourseList_eq_some_iff.mp hlist
  cases hdocs'
  have hnodup : (docs.map fun doc => (decoded Course.ofData doc).map fun c => c.id).Nodup := by
    refine hdocs.nodup_map ?_
    intro k k' doc doc' hk hk' heq
    obtain ⟨course, hid, -, rfl, -⟩ := h.course _ _ _ hk
    obtain ⟨course', hid', -, rfl, -⟩ := h.course _ _ _ hk'
    have hdecode : ∀ c : Course, decoded Course.ofData c.document =
        some { c with teacher := c.teacher.bare } :=
      fun c => decoded_eq_some_iff.mpr (Course.ofData_data c)
    rw [hdecode, hdecode] at heq
    rw [← hid, ← hid']
    exact Option.some.inj heq
  rw [hdecodes.map_decoded] at hnodup
  exact List.Nodup.of_map some hnodup

end Sound

end Store

end Scholarli
