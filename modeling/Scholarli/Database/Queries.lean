import Scholarli.Objects.Codec

/-!
# The Firestore queries

The handlers of `verifyUsername`, `getSchoolList`, `School.getFaculty` and
`School.getCourseList`, as functions from what Firestore answers to what the
completion is called with. `none` is a handler that returns without calling
its completion; that no handler calls it twice is proved in `Handlers.lean`,
where the handlers are written out statement by statement.

A response is an error, a missing snapshot, or a list of documents of any
content. The loops over documents are kept as loops with their accumulator,
because each of them treats a document that does not decode differently:
`getFaculty` and `getSchoolList` give up on any error, `getCourseList` gives
up on a `firebaseInterpretationError` and skips the document otherwise.
-/

namespace Scholarli

open Base (Value Dict Document)

/-- What `getDocuments` hands to its callback. -/
inductive DocumentsResponse where
  | error
  | noSnapshot
  | documents (docs : List (Document Boxed))

/-- What `getDocument` on the usernames document hands to its callback: the
values of the document, in the order in which they are enumerated. -/
inductive UsernamesResponse where
  | error
  | noDocument
  | values (names : List (Value Boxed))

/-- The loop of `verifyUsername` over the stored names. -/
def verifyUsername.loop (username : String) : List (Value Boxed) → Option Bool
  | [] => some true
  | name :: listOfNames =>
    match name.string? with
    | some n => if n = username then some false else loop username listOfNames
    | none => none

/-- `verifyUsername(username:completion:)`: the argument of the completion,
which is always called. -/
def verifyUsername (username : String) : UsernamesResponse → Option Bool
  | .error => none
  | .noDocument => none
  | .values listOfNames => verifyUsername.loop username listOfNames

def getSchoolList.loop : List (Document Boxed) → List School → Option (List School)
  | [], schoolList => some schoolList
  | document :: documents, schoolList =>
    match School.ofData document.data with
    | .ok school => loop documents (schoolList ++ [school])
    | .error _ => none

/-- `getSchoolList(completion:)`: `some x` calls the completion with `x`. -/
def getSchoolList : DocumentsResponse → Option (Option (List School))
  | .error => some none
  | .noSnapshot => some none
  | .documents documents => (getSchoolList.loop documents []).map some

def getFaculty.loop : List (Document Boxed) → List Faculty → Option (List Faculty)
  | [], facList => some facList
  | document :: docs, facList =>
    match Faculty.ofData document.data with
    | .ok fac => loop docs (facList ++ [fac])
    | .error _ => none

/-- `School.getFaculty(completion:)`. -/
def getFaculty : DocumentsResponse → Option (List Faculty)
  | .error => none
  | .noSnapshot => none
  | .documents docs => getFaculty.loop docs []

def getCourseList.loop : List (Document Boxed) → List Course → Option (List Course)
  | [], courseList => some courseList
  | doc :: documents, courseList =>
    match Course.ofData doc.data with
    | .ok course => loop documents (courseList ++ [course])
    | .error (.firebaseInterpretationError _) => none
    -- the catch-all leaves `tempCourse` nil and carries on
    | .error _ => loop documents courseList

/-- `School.getCourseList(completion:)`. -/
def getCourseList : DocumentsResponse → Option (List Course)
  | .error => none
  | .noSnapshot => none
  | .documents documents => getCourseList.loop documents []

/-! ## What the loops deliver -/

/-- One undecodable document and the school list is never delivered. -/
theorem getSchoolList.loop_eq_none {document : Document Boxed} {e : Thrown}
    (he : School.ofData document.data = .error e) (after : List (Document Boxed)) :
    ∀ (before : List (Document Boxed)) (schoolList : List School),
      getSchoolList.loop (before ++ document :: after) schoolList = none
  | [], schoolList => by
    rw [List.nil_append]
    unfold getSchoolList.loop
    rw [he]
  | d :: before, schoolList => by
    rw [List.cons_append]
    unfold getSchoolList.loop
    split
    next school _ => exact loop_eq_none he after before _
    next => rfl

/-- Faculty delivered by the loop is bare if the accumulator is: the
documents are stored ones. -/
theorem getFaculty.loop_bare : ∀ (docs : List (Document Boxed)) (facList : List Faculty)
    {result : List Faculty}, (∀ f ∈ facList, f.IsBare) →
    getFaculty.loop docs facList = some result → ∀ f ∈ result, f.IsBare
  | [], facList, result, hacc, h => by
    obtain rfl := Option.some.inj h
    exact hacc
  | document :: docs, facList, result, hacc, h => by
    unfold getFaculty.loop at h
    split at h
    next fac hfac =>
      refine loop_bare docs _ ?_ h
      intro f hf
      rcases List.mem_append.mp hf with hf | hf
      · exact hacc f hf
      · obtain rfl := List.mem_singleton.mp hf
        exact Faculty.ofData_bare document.storable hfac
    next => exact absurd h (by simp)

/-- Fetched faculty has neither account nor schedule. -/
theorem getFaculty_bare {r : DocumentsResponse} {facList : List Faculty}
    (h : getFaculty r = some facList) : ∀ f ∈ facList, f.IsBare := by
  cases r with
  | error => exact absurd h (by simp [getFaculty])
  | noSnapshot => exact absurd h (by simp [getFaculty])
  | documents docs => exact getFaculty.loop_bare docs [] (by simp) h

/-- The response has documents, and all of them decode to courses. -/
def DocumentsResponse.AllDecode : DocumentsResponse → Prop
  | .error => False
  | .noSnapshot => False
  | .documents docs => ∀ doc ∈ docs, ∃ course, Course.ofData doc.data = .ok course

/-- The loop delivers exactly if every document decodes: whatever goes wrong in
a course is a `firebaseInterpretationError`, on which the loop gives up. -/
theorem getCourseList.loop_ne_none_iff : ∀ (documents : List (Document Boxed))
    (courseList : List Course), getCourseList.loop documents courseList ≠ none ↔
      ∀ doc ∈ documents, ∃ course, Course.ofData doc.data = .ok course
  | [], courseList => by simp [getCourseList.loop]
  | doc :: documents, courseList => by
    unfold getCourseList.loop
    rw [List.forall_mem_cons]
    split
    next course hcourse =>
      rw [getCourseList.loop_ne_none_iff documents]
      simp [hcourse]
    next e herror => simp [herror]
    next e hne herror =>
      -- the catch-all is never reached: no course throws anything else
      obtain ⟨e', he'⟩ := Course.ofData_error herror
      exact absurd he' (hne e')

theorem getCourseList_ne_none_iff (r : DocumentsResponse) :
    getCourseList r ≠ none ↔ r.AllDecode := by
  cases r with
  | error => simp [getCourseList, DocumentsResponse.AllDecode]
  | noSnapshot => simp [getCourseList, DocumentsResponse.AllDecode]
  | documents docs => exact getCourseList.loop_ne_none_iff docs []

/-! ## Stored schools -/

/-- The school is read back from what it is written as, and the list that
contains its document is delivered. -/
def School.SurvivesStorage (s : School) : Prop :=
  (∃ s' : School, School.ofData s.data = .ok s' ∧
    s'.displayName = s.displayName ∧ s'.id = s.id ∧ s'.type = s.type ∧
    s'.streetAddress = s.streetAddress ∧ s'.city = s.city ∧ s'.zipCode = s.zipCode ∧
    s'.state = s.state ∧ s'.maxStudentCourseLoad = s.maxStudentCourseLoad) ∧
  ∃ schoolList, getSchoolList (.documents [s.document]) = some (some schoolList)

/-- **No school survives.** Whatever its fields, decoding throws on the type,
so neither part of the law holds, and a single document written by
`School(ref:…)` keeps `getSchoolList` from delivering any list it occurs in. -/
theorem school_never_survivesStorage (s : School) :
    School.ofData s.data = .error (invalidKeys "type") ∧
    ¬s.SurvivesStorage ∧
    ∀ before after, getSchoolList (.documents (before ++ s.document :: after)) = none := by
  have hdecode := School.ofData_data s
  refine ⟨hdecode, ?_, ?_⟩
  · intro hsurvives
    obtain ⟨⟨s', hs', -⟩, -⟩ := hsurvives
    rw [hdecode] at hs'
    exact absurd hs' (by simp)
  · intro before after
    have hloop : getSchoolList.loop (before ++ s.document :: after) [] = none :=
      getSchoolList.loop_eq_none hdecode after before []
    show (getSchoolList.loop (before ++ s.document :: after) []).map some = none
    rw [hloop]
    rfl

/-- The school of the commented-out developer screen. -/
def morristown : School where
  displayName := "Morristown High School"
  id := "mhs"
  type := .Public
  streetAddress := "104 W Main St."
  city := "Morristown"
  zipCode := "07869"
  state := "NJ"
  maxStudentCourseLoad := some 8

/-- Its document as the school list reads it, with the type by name. -/
def morristownDocument : Document Boxed where
  data := Dict.empty
    |>.set "displayName" (.string "Morristown High School")
    |>.set "id" (.string "mhs")
    |>.set "type" (.string "Public")
    |>.set "streetAddress" (.string "104 W Main St.")
    |>.set "city" (.string "Morristown")
    |>.set "zipCode" (.string "07869")
    |>.set "state" (.string "NJ")
    |>.set "maxStudentCourseLoad" (.int 8)
  storable := .set (.set (.set (.set (.set (.set (.set (.set .empty _ (.string _)) _
    (.string _)) _ (.string _)) _ (.string _)) _ (.string _)) _ (.string _)) _ (.string _)) _
    (.int _)

/-- A first-period course there. -/
def preCalculus : Course where
  displayName := "Pre-Calculus"
  id := "c1"
  teacher := kappel.bare
  schoolId := "mhs"
  period := 1
  classroom := some "214"

theorem morristown_not_survivesStorage : ¬morristown.SurvivesStorage := by
  intro hsurvives
  obtain ⟨⟨s', hs', -⟩, -⟩ := hsurvives
  rw [School.ofData_data] at hs'
  exact absurd hs' (by simp)

end Scholarli
