import Scholarli.Base.Completion
import Scholarli.Database.Queries

/-!
# The query handlers, statement by statement

`Queries.lean` has each handler as a function to what the completion is
called with. That the handler calls it at most once is read off the source
there; here it is proved. Each handler is written out with the source's
statements (loops, early returns and calls) in an arbitrary monad, and
`handler_eq` says that it amounts to one call or none: whichever the function
of `Queries.lean` says. What a completion is then called with is the whole
answer: `DecodesTo` relates a list to the documents it was read from, one
element each, and no handler delivers a shorter one.

Mirroring notes:
- A `try` whose `catch` clauses all return is a `match` on the result with a
  `return` in the error branch. The two clauses of `getSchoolList` do the
  same and are one branch here.
- `getCourseList` has a clause for `firebaseInterpretationError` that
  returns, and a catch-all that falls through with `tempCourse` still nil.
- `print` and `dump` are left out.
-/

namespace Scholarli

open Base

variable {m : Type → Type} [Monad m]

def verifyUsername.handler (username : String) (completion : Option Bool → m Unit) :
    UsernamesResponse → m Unit
  | .error => do
    completion none
    return
  | .noDocument => do
    completion none
    return
  | .values listOfNames => do
    for name in listOfNames do
      if let some n := name.string? then
        if n = username then
          completion (some false)
          return
      else
        completion none
        return
    completion (some true)
    return

def getSchoolList.handler (completion : Option (List School) → m Unit) :
    DocumentsResponse → m Unit
  | .error => completion none
  | .noSnapshot => do
    completion none
    return
  | .documents documents => do
    let mut schoolList : List School := []
    for document in documents do
      match School.ofData document.data with
      | .ok school => schoolList := schoolList ++ [school]
      | .error _ => return
    completion (some schoolList)

def getFaculty.handler (completion : List Faculty → m Unit) : DocumentsResponse → m Unit
  | .error => return
  | .noSnapshot => return
  | .documents docs => do
    let mut facList : List Faculty := []
    for document in docs do
      match Faculty.ofData document.data with
      | .ok fac => facList := facList ++ [fac]
      | .error _ => return
    completion facList

def getCourseList.handler (completion : List Course → m Unit) : DocumentsResponse → m Unit
  | .error => return
  | .noSnapshot => return
  | .documents documents => do
    let mut courseList : List Course := []
    for doc in documents do
      let mut tempCourse : Option Course := none
      match Course.ofData doc.data with
      | .ok course => tempCourse := some course
      | .error (.firebaseInterpretationError _) => return
      | .error _ => pure ()
      if let some tempCrs := tempCourse then
        courseList := courseList ++ [tempCrs]
    completion courseList

/-! ## The loops collect -/

/-- `try?` on a decoded document. -/
def decoded {α : Type} (init : Data → Except Thrown α) (document : Document Boxed) : Option α :=
  (init document.data).toOption

theorem decoded_eq_some_iff {α : Type} {init : Data → Except Thrown α}
    {document : Document Boxed} {a : α} :
    decoded init document = some a ↔ init document.data = .ok a := by
  unfold decoded
  cases init document.data <;> simp [Except.toOption]

theorem decoded_eq_none_iff {α : Type} {init : Data → Except Thrown α}
    {document : Document Boxed} :
    decoded init document = none ↔ ∃ e, init document.data = .error e := by
  unfold decoded
  cases init document.data <;> simp [Except.toOption]

theorem getSchoolList.loop_eq_collect : ∀ (documents : List (Document Boxed))
    (schoolList : List School),
    loop documents schoolList = collect (decoded School.ofData) documents schoolList
  | [], schoolList => rfl
  | document :: documents, schoolList => by
    unfold loop collect
    cases h : School.ofData document.data with
    | ok school =>
      rw [decoded_eq_some_iff.mpr h]
      exact loop_eq_collect documents _
    | error e => rw [decoded_eq_none_iff.mpr ⟨e, h⟩]

theorem getFaculty.loop_eq_collect : ∀ (docs : List (Document Boxed)) (facList : List Faculty),
    loop docs facList = collect (decoded Faculty.ofData) docs facList
  | [], facList => rfl
  | document :: docs, facList => by
    unfold loop collect
    cases h : Faculty.ofData document.data with
    | ok fac =>
      rw [decoded_eq_some_iff.mpr h]
      exact loop_eq_collect docs _
    | error e => rw [decoded_eq_none_iff.mpr ⟨e, h⟩]

/-- The catch-all of `getCourseList` is never reached, so this loop gives up
on every error too. -/
theorem getCourseList.loop_eq_collect : ∀ (documents : List (Document Boxed))
    (courseList : List Course),
    loop documents courseList = collect (decoded Course.ofData) documents courseList
  | [], courseList => rfl
  | doc :: documents, courseList => by
    unfold loop collect
    cases h : Course.ofData doc.data with
    | ok course =>
      rw [decoded_eq_some_iff.mpr h]
      exact loop_eq_collect documents _
    | error e =>
      obtain ⟨e', rfl⟩ := Course.ofData_error h
      rw [decoded_eq_none_iff.mpr ⟨_, h⟩]

/-! ## What a handler delivers -/

/-- One element for each document, in order: what the document decodes to. -/
def DecodesTo {α : Type} (init : Data → Except Thrown α) (docs : List (Document Boxed))
    (xs : List α) : Prop :=
  List.Forall₂ (fun doc x => init doc.data = .ok x) docs xs

theorem collect_decoded_eq_some_iff {α : Type} {init : Data → Except Thrown α}
    {docs : List (Document Boxed)} {xs : List α} :
    collect (decoded init) docs [] = some xs ↔ DecodesTo init docs xs := by
  rw [collect_eq_some_iff]
  simp only [List.nil_append, exists_eq_left', decoded_eq_some_iff]
  rfl

/-- What is in a delivered list was decoded from one of the documents. -/
theorem DecodesTo.exists_doc {α : Type} {init : Data → Except Thrown α}
    {docs : List (Document Boxed)} {xs : List α} (h : DecodesTo init docs xs) {x : α}
    (hx : x ∈ xs) : ∃ doc ∈ docs, init doc.data = .ok x := by
  induction h with
  | nil => cases hx
  | @cons doc y docs ys hdoc _ ih =>
    rcases List.mem_cons.mp hx with rfl | hx
    · exact ⟨doc, List.mem_cons_self, hdoc⟩
    · obtain ⟨doc', hmem, hdoc'⟩ := ih hx
      exact ⟨doc', List.mem_cons_of_mem _ hmem, hdoc'⟩

theorem getSchoolList_eq_some_iff {r : DocumentsResponse} {schoolList : List School} :
    getSchoolList r = some (some schoolList) ↔
    ∃ docs, r = .documents docs ∧ DecodesTo School.ofData docs schoolList := by
  cases r with
  | error => simp [getSchoolList]
  | noSnapshot => simp [getSchoolList]
  | documents docs =>
    simp [getSchoolList, getSchoolList.loop_eq_collect, collect_decoded_eq_some_iff]

theorem getFaculty_eq_some_iff {r : DocumentsResponse} {facList : List Faculty} :
    getFaculty r = some facList ↔
    ∃ docs, r = .documents docs ∧ DecodesTo Faculty.ofData docs facList := by
  cases r with
  | error => simp [getFaculty]
  | noSnapshot => simp [getFaculty]
  | documents docs => simp [getFaculty, getFaculty.loop_eq_collect, collect_decoded_eq_some_iff]

theorem getCourseList_eq_some_iff {r : DocumentsResponse} {courseList : List Course} :
    getCourseList r = some courseList ↔
    ∃ docs, r = .documents docs ∧ DecodesTo Course.ofData docs courseList := by
  cases r with
  | error => simp [getCourseList]
  | noSnapshot => simp [getCourseList]
  | documents docs =>
    simp [getCourseList, getCourseList.loop_eq_collect, collect_decoded_eq_some_iff]

/-- The schools of a list are decoded ones. -/
theorem getSchoolList_mem {r : DocumentsResponse} {schoolList : List School}
    (h : getSchoolList r = some (some schoolList)) :
    ∀ school ∈ schoolList, ∃ data, School.ofData data = .ok school := by
  obtain ⟨docs, -, hdecodes⟩ := getSchoolList_eq_some_iff.mp h
  intro school hschool
  obtain ⟨doc, -, hdoc⟩ := hdecodes.exists_doc hschool
  exact ⟨doc.data, hdoc⟩

/-- The courses of a list are decoded from the documents of the answer. -/
theorem getCourseList_mem {r : DocumentsResponse} {courseList : List Course}
    (h : getCourseList r = some courseList) :
    ∃ docs, r = .documents docs ∧
      ∀ course ∈ courseList, ∃ doc ∈ docs, Course.ofData doc.data = .ok course := by
  obtain ⟨docs, hr, hdecodes⟩ := getCourseList_eq_some_iff.mp h
  exact ⟨docs, hr, fun course hcourse => hdecodes.exists_doc hcourse⟩

/-! ## Each handler is at most one call -/

section
variable [LawfulMonad m]

/-- `verifyUsername` always calls back, and with what it found. -/
theorem verifyUsername.handler_eq (username : String) (completion : Option Bool → m Unit)
    (r : UsernamesResponse) :
    handler username completion r = completion (verifyUsername username r) := by
  cases r with
  | error => simp [handler, verifyUsername]
  | noDocument => simp [handler, verifyUsername]
  | values listOfNames =>
    simp only [handler, verifyUsername]
    induction listOfNames with
    | nil => simp [loop]
    | cons name listOfNames ih =>
      rw [List.forIn_cons]
      unfold loop
      cases hname : name.string? with
      | none => simp
      | some n =>
        by_cases hn : n = username
        · simp [hn]
        · simp only [hn, if_false, pure_bind]
          exact ih

theorem getSchoolList.handler_eq (completion : Option (List School) → m Unit)
    (r : DocumentsResponse) :
    handler completion r = (getSchoolList r).elim (pure ()) completion := by
  cases r with
  | error => rfl
  | noSnapshot => simp [handler, getSchoolList]
  | documents documents =>
    simp only [handler, getSchoolList, loop_eq_collect, Option.elim_map]
    refine forIn_collect ?_ ?_ (fun _ => rfl) (fun _ => rfl) documents []
    · intro document school h s
      simp [decoded_eq_some_iff.mp h]
    · intro document h s
      obtain ⟨e, he⟩ := decoded_eq_none_iff.mp h
      simp [he]

theorem getFaculty.handler_eq (completion : List Faculty → m Unit) (r : DocumentsResponse) :
    handler completion r = (getFaculty r).elim (pure ()) completion := by
  cases r with
  | error => rfl
  | noSnapshot => rfl
  | documents docs =>
    simp only [handler, getFaculty, loop_eq_collect]
    refine forIn_collect ?_ ?_ (fun _ => rfl) (fun _ => rfl) docs []
    · intro document fac h s
      simp [decoded_eq_some_iff.mp h]
    · intro document h s
      obtain ⟨e, he⟩ := decoded_eq_none_iff.mp h
      simp [he]

theorem getCourseList.handler_eq (completion : List Course → m Unit) (r : DocumentsResponse) :
    handler completion r = (getCourseList r).elim (pure ()) completion := by
  cases r with
  | error => rfl
  | noSnapshot => rfl
  | documents documents =>
    simp only [handler, getCourseList, loop_eq_collect]
    refine forIn_collect ?_ ?_ (fun _ => rfl) (fun _ => rfl) documents []
    · intro doc course h s
      simp [decoded_eq_some_iff.mp h]
    · intro doc h s
      obtain ⟨e, he⟩ := decoded_eq_none_iff.mp h
      obtain ⟨e', rfl⟩ := Course.ofData_error he
      simp [he]

end

/-! ## When a handler answers -/

/-- The documents all decode. -/
def AllDecoded {α : Type} (init : Data → Except Thrown α) (docs : List (Document Boxed)) : Prop :=
  ∀ doc ∈ docs, ∃ a, init doc.data = .ok a

theorem collect_decoded_isSome_iff {α : Type} (init : Data → Except Thrown α)
    (docs : List (Document Boxed)) (acc : List α) :
    (collect (decoded init) docs acc).isSome ↔ AllDecoded init docs := by
  rw [collect_isSome_iff]
  refine forall₂_congr fun doc _ => ?_
  rw [Option.isSome_iff_exists]
  exact exists_congr fun a => decoded_eq_some_iff

theorem verifyUsername.answersOnce (username : String) (r : UsernamesResponse) :
    AnswersOnce fun completion => handler username completion r :=
  (answersOnce_iff_of_eq_elim (x := some (verifyUsername username r))
    fun completion => handler_eq username completion r).mpr rfl

/-- The school list is delivered, or its absence, unless a document of the
snapshot does not decode. -/
theorem getSchoolList.answersOnce_iff (r : DocumentsResponse) :
    (AnswersOnce fun completion => handler completion r) ↔
    ∀ docs, r = .documents docs → AllDecoded School.ofData docs := by
  rw [answersOnce_iff_of_eq_elim fun completion => handler_eq completion r]
  cases r with
  | error => simp [getSchoolList]
  | noSnapshot => simp [getSchoolList]
  | documents docs =>
    simp only [getSchoolList, loop_eq_collect, Option.isSome_map, collect_decoded_isSome_iff,
      DocumentsResponse.documents.injEq, forall_eq']

theorem getFaculty.answersOnce_iff (r : DocumentsResponse) :
    (AnswersOnce fun completion => handler completion r) ↔
    ∃ docs, r = .documents docs ∧ AllDecoded Faculty.ofData docs := by
  rw [answersOnce_iff_of_eq_elim fun completion => handler_eq completion r]
  cases r with
  | error => simp [getFaculty]
  | noSnapshot => simp [getFaculty]
  | documents docs =>
    simp only [getFaculty, loop_eq_collect, collect_decoded_isSome_iff,
      DocumentsResponse.documents.injEq, exists_eq_left']

theorem getCourseList.answersOnce_iff (r : DocumentsResponse) :
    (AnswersOnce fun completion => handler completion r) ↔
    ∃ docs, r = .documents docs ∧ AllDecoded Course.ofData docs := by
  rw [answersOnce_iff_of_eq_elim fun completion => handler_eq completion r]
  cases r with
  | error => simp [getCourseList]
  | noSnapshot => simp [getCourseList]
  | documents docs =>
    simp only [getCourseList, loop_eq_collect, collect_decoded_isSome_iff,
      DocumentsResponse.documents.injEq, exists_eq_left']

/-! ## No list is shortened -/

/-- A course without a teacher does not decode, and the teacher's own error
does not get out. -/
theorem Course.ofData_error_of_teacher {data teacherData : Data} {e : Thrown}
    (hteacher : data.cast "teacher" Value.dict? = some teacherData)
    (he : Faculty.ofData teacherData = .error e) :
    ∃ e', Course.ofData data = .error (.firebaseInterpretationError e') := by
  cases hdata : Course.ofData data with
  | error e' =>
    obtain ⟨e'', rfl⟩ := Course.ofData_error hdata
    exact ⟨e'', rfl⟩
  | ok course =>
    unfold Course.ofData at hdata
    obtain ⟨displayName, -, hdata⟩ := guardLet_bind_ok hdata
    obtain ⟨teacherData', hteacher', hdata⟩ := guardLet_bind_ok hdata
    obtain ⟨schoolId, -, hdata⟩ := guardLet_bind_ok hdata
    obtain ⟨period, -, hdata⟩ := guardLet_bind_ok hdata
    obtain ⟨classroom, -, hdata⟩ := guardLet_bind_ok hdata
    obtain ⟨id, -, hdata⟩ := guardLet_bind_ok hdata
    rw [hteacher] at hteacher'
    obtain rfl := Option.some.inj hteacher'
    rw [he] at hdata
    cases hdata

/-- **A delivered list is never shortened.** Whatever a handler calls its
completion with has one element for each document of the answer, in order, the
one that the document decodes to. The clause of `getCourseList` that would skip
a course is never reached: a course decodes or throws a
`firebaseInterpretationError`, also if its teacher throws something else. -/
theorem delivered_lists_complete (r : DocumentsResponse) :
    (∀ courseList ∈ calls fun completion => getCourseList.handler completion r,
      ∃ docs, r = .documents docs ∧ DecodesTo Course.ofData docs courseList) ∧
    (∀ facList ∈ calls fun completion => getFaculty.handler completion r,
      ∃ docs, r = .documents docs ∧ DecodesTo Faculty.ofData docs facList) ∧
    (∀ schoolList, some schoolList ∈ calls (fun completion => getSchoolList.handler completion r) →
      ∃ docs, r = .documents docs ∧ DecodesTo School.ofData docs schoolList) ∧
    (∀ data, (∃ course, Course.ofData data = .ok course) ∨
      ∃ e, Course.ofData data = .error (.firebaseInterpretationError e)) ∧
    (∀ data teacherData e, data.cast "teacher" Value.dict? = some teacherData →
      Faculty.ofData teacherData = .error e →
      ∃ e', Course.ofData data = .error (.firebaseInterpretationError e')) := by
  refine ⟨?_, ?_, ?_, ?_, ?_⟩
  · intro courseList hcall
    rw [calls_of_eq_elim fun completion => getCourseList.handler_eq completion r,
      Option.mem_toList] at hcall
    exact getCourseList_eq_some_iff.mp hcall
  · intro facList hcall
    rw [calls_of_eq_elim fun completion => getFaculty.handler_eq completion r,
      Option.mem_toList] at hcall
    exact getFaculty_eq_some_iff.mp hcall
  · intro schoolList hcall
    rw [calls_of_eq_elim fun completion => getSchoolList.handler_eq completion r,
      Option.mem_toList] at hcall
    exact getSchoolList_eq_some_iff.mp hcall
  · intro data
    cases hdata : Course.ofData data with
    | ok course => exact Or.inl ⟨course, rfl⟩
    | error e =>
      obtain ⟨e', rfl⟩ := Course.ofData_error hdata
      exact Or.inr ⟨e', rfl⟩
  · intro data teacherData e hteacher he
    exact Course.ofData_error_of_teacher hteacher he

/-- Two courses are delivered for two documents; a teacher called "Sir" is an
error of the course. -/
theorem delivered_lists_complete_two_courses :
    (∃ docs, DecodesTo Course.ofData docs
      [preCalculus, { preCalculus with id := "c2", period := 5 }]) ∧
    (∃ docs, DecodesTo Faculty.ofData docs [kappel.bare]) ∧
    (∃ docs schoolList, schoolList.length = 1 ∧ DecodesTo School.ofData docs schoolList) ∧
    ∃ e', Course.ofData (preCalculus.data.set "teacher"
      (.dict (kappel.bare.data.set "title" (.string "Sir")))) =
        .error (.firebaseInterpretationError e') := by
  have hcourses : calls (fun completion => getCourseList.handler completion (.documents
      [preCalculus.document, { preCalculus with id := "c2", period := 5 }.document])) =
      [[preCalculus, { preCalculus with id := "c2", period := 5 }]] := rfl
  have hfaculty : calls (fun completion => getFaculty.handler completion
      (.documents [kappel.document])) = [[kappel.bare]] := rfl
  obtain ⟨schoolList, hschools, hlength⟩ : ∃ schoolList,
      calls (fun completion => getSchoolList.handler completion
        (.documents [morristownDocument])) = [some schoolList] ∧ schoolList.length = 1 :=
    ⟨_, rfl, rfl⟩
  refine ⟨?_, ?_, ?_, ?_⟩
  · obtain ⟨docs, -, hdecodes⟩ := (delivered_lists_complete _).1 _ (hcourses ▸ List.mem_cons_self)
    exact ⟨docs, hdecodes⟩
  · obtain ⟨docs, -, hdecodes⟩ := (delivered_lists_complete _).2.1 _
      (hfaculty ▸ List.mem_cons_self)
    exact ⟨docs, hdecodes⟩
  · obtain ⟨docs, -, hdecodes⟩ := (delivered_lists_complete _).2.2.1 _
      (hschools ▸ List.mem_cons_self)
    exact ⟨docs, schoolList, hlength, hdecodes⟩
  · exact (delivered_lists_complete .error).2.2.2.2 _ _
      (.stringToTypeError (.invalidString "Sir")) rfl rfl

end Scholarli
