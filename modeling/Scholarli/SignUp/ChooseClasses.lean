import Scholarli.Base.Roster
import Scholarli.SignUp.Account
import Mathlib.Data.List.Infix
import Mathlib.Data.List.Sort

/-!
# `ChooseClassesViewController`

The class chooser: a table of courses (the school's catalogue, or search
results), a schedule that taps add to and remove from, and a button that
leads to the form for a new class.

Mirroring notes:
- The table is what `reloadData` last rendered: one `Cell` per row that
  `numberOfRowsInSection` announced, in the state `cellForRowAt` gave it.
  Taps change the accessory of a rendered cell in place.
- The two branches of `didSelectRowAt` (full list, search results) are the
  same code over two arrays; `tapRow` is that code, `didSelectRowAt` picks
  the array. In both, an index out of range traps, in the closure of
  `contains` or when the course to add is read: `none`.
- `lowercased()` is a parameter (`lower`): full Unicode lowercasing is not
  spelled out. `contains` is substring containment, which Foundation denies
  for the empty string.
- `searchBarCancelButtonClicked` ends editing, which calls the end-editing
  handler back if the search bar was being edited.
- `sort` is an insertion sort. Only the periods are read from the result.

Left out: `userSelectedCourses`, the search bar's text and cancel button,
which nothing reads, and the animations.
-/

namespace Scholarli

open Base (Value Dict toggle toggle_of_absent)

/-- The loop of `verifyNewCourseToSchedule` over the course load. -/
def verifyNewCourseToSchedule.loop (periodToCheck : Int) : List Course → Bool
  | [] => true
  | currentCourse :: crsLd =>
    if currentCourse.period = periodToCheck then false else loop periodToCheck crsLd

/-- `verifyNewCourseToSchedule(courseToAdd:schedule:)`: without a schedule or
a load every course passes. -/
def verifyNewCourseToSchedule (courseToAdd : Course) (schedule : Option Schedule) : Bool :=
  match schedule with
  | none => true
  | some sched =>
    match sched.courseLoad with
    | none => true
    | some crsLd => verifyNewCourseToSchedule.loop courseToAdd.period crsLd

/-- `self.currentUserSchedule?.courseLoad`. -/
def courseLoadOf (schedule : Option Schedule) : Option (List Course) :=
  schedule.bind (·.courseLoad)

/-- `schedule?.courseLoad?.append(course)`: nothing happens on nil. -/
def appendCourse (schedule : Option Schedule) (course : Course) : Option Schedule :=
  schedule.map fun s => { s with courseLoad := s.courseLoad.map (· ++ [course]) }

/-- `schedule?.courseLoad?.remove(at: ind)`. -/
def removeCourse (schedule : Option Schedule) (ind : Nat) : Option Schedule :=
  schedule.map fun s => { s with courseLoad := s.courseLoad.map (·.eraseIdx ind) }

/-- The loop of `periodLabelTextGenerator`, with its manual index `x`. -/
def periodLabelTextGenerator.loop (count : Nat) : List Course → Nat → String → String
  | [], _, textToReturn => textToReturn
  | course :: courses, x, textToReturn =>
    loop count courses (x + 1)
      (if x + 1 = count then textToReturn ++ toString course.period
       else textToReturn ++ (toString course.period ++ ", "))

/-- `periodLabelTextGenerator(schedule:count:)`. -/
def periodLabelTextGenerator (schedule : Schedule) (count : Int) : String :=
  match schedule.courseLoad with
  | none => toString count ++ " courses selected"
  | some courses =>
    let sorted := courses.insertionSort fun crsOne crsTwo => crsOne.period ≤ crsTwo.period
    let textToReturn := periodLabelTextGenerator.loop sorted.length sorted 0 "Periods Selected: "
    if textToReturn = "Periods Selected: " then "No Courses Selected" else textToReturn

/-- Foundation's `String.contains(_:)`. -/
def contains (s t : String) : Bool := t ≠ "" && decide (t.toList <:+: s.toList)

/-- What a row shows: a course (title, teacher, period), the placeholder
"Please Select a School", or an error text. -/
inductive RowContent where
  | course (c : Course)
  | pleaseSelectASchool
  | error (text : String)

/-- A `CourseTableViewCell`. -/
structure Cell where
  content : RowContent
  checkmark : Bool

/-- The course a cell shows, if any. -/
def Cell.course? (cell : Cell) : Option Course :=
  match cell.content with
  | .course c => some c
  | _ => none

structure ChooseClassesViewController where
  userSchool : Option School := none
  searchResults : Option (List Course) := some []
  showAllCourses : Bool := true
  currentUserSchedule : Option Schedule := none
  periods : Option String := some "No Courses Selected"
  errors : Label := ⟨some "Error Message", true⟩
  /-- What the table view shows since the last `reloadData`. -/
  tableView : List Cell := []
  /-- The search bar is being edited. -/
  searchbarEditing : Bool := false

namespace ChooseClassesViewController

variable (lower : String → String)

/-- `self.userSchool?.CourseList`. -/
def courseList (vc : ChooseClassesViewController) : Option (List Course) :=
  vc.userSchool.bind (·.courseList)

def viewDidLoad (vc : ChooseClassesViewController) : ChooseClassesViewController :=
  { vc with
    errors := { vc.errors with isHidden := true }
    currentUserSchedule := match vc.userSchool with
      | some school =>
        some { maxCourseCount := school.maxStudentCourseLoad, courseLoad := some [] }
      | none => vc.currentUserSchedule }

/-! ## The table's data source -/

def numberOfRowsInSection (vc : ChooseClassesViewController) : Nat :=
  if vc.showAllCourses then
    match vc.courseList with
    | some courses => courses.length
    | none => 1
  else
    match vc.searchResults with
    | some data => data.length
    | none => 0

/-- The cell of a course, as both branches of `cellForRowAt` render it. -/
def courseCell (vc : ChooseClassesViewController) (course : Course) : Cell :=
  match courseLoadOf vc.currentUserSchedule with
  | none => ⟨.error "Error Retrieving User Schedule", false⟩
  | some crsLd => ⟨.course course, crsLd.any fun crs => crs.id = course.id⟩

/-- `tableView(_:cellForRowAt:)`; `none` is an index out of range. -/
def cellForRowAt (vc : ChooseClassesViewController) (row : Nat) : Option Cell :=
  if vc.showAllCourses then
    match vc.courseList with
    | some courses => courses[row]?.map vc.courseCell
    | none => some ⟨.pleaseSelectASchool, false⟩
  else
    match vc.searchResults with
    | some data => data[row]?.map vc.courseCell
    | none => some ⟨.error "Error Loading Courses", false⟩

/-- `self.tableView.reloadData()`: every announced row is rendered anew. -/
def reloadData (vc : ChooseClassesViewController) : ChooseClassesViewController :=
  { vc with tableView := (List.range vc.numberOfRowsInSection).filterMap vc.cellForRowAt }

/-! ## Taps -/

/-- `cell.accessoryType = …` on the rendered cell of a row. -/
def mark (vc : ChooseClassesViewController) (row : Nat) (checkmark : Bool) :
    ChooseClassesViewController :=
  { vc with tableView := vc.tableView.modify row fun cell => { cell with checkmark } }

/-- An early exit with its message shown. -/
def fail (vc : ChooseClassesViewController) (text : String) : ChooseClassesViewController :=
  { vc with errors := ⟨some text, false⟩ }

/-- The body of either branch of `didSelectRowAt`, over the array it indexes. -/
def tapRow (vc : ChooseClassesViewController) (courses userCourses : List Course) (row : Nat) :
    Option ChooseClassesViewController := do
  let course ← courses[row]?
  if userCourses.any fun crs => crs.id = course.id then
    -- Remove Course
    let vc := vc.mark row false
    match userCourses.findIdx? fun crs => crs.id = course.id with
    | some ind =>
      return { vc with currentUserSchedule := removeCourse vc.currentUserSchedule ind }
    | none => return vc
  else
    -- Add Course
    match vc.currentUserSchedule with
    | none => return vc.fail "No user schedule found"
    | some sched =>
      if verifyNewCourseToSchedule course (some sched) then
        return { vc.mark row true with
                 currentUserSchedule := appendCourse vc.currentUserSchedule course }
      else
        -- the text is set, but the label is not shown
        let text := "You have already selected a course for period " ++ toString course.period
        return { vc.mark row false with errors := { vc.errors with text := some text } }

/-- The label refresh at the end of `didSelectRowAt`. -/
def refreshPeriods (vc : ChooseClassesViewController) : ChooseClassesViewController :=
  match vc.currentUserSchedule with
  | some sched =>
    match sched.maxCourseCount with
    | some cnt => { vc with periods := some (periodLabelTextGenerator sched cnt) }
    | none => vc
  | none => vc

/-- `tableView(_:didSelectRowAt:)`; `none` is an index out of range. -/
def didSelectRowAt (vc : ChooseClassesViewController) (row : Nat) :
    Option ChooseClassesViewController :=
  match vc.tableView[row]? with
  | none => some vc
  | some _ =>
    match vc.courseList with
    | none => some (vc.fail "No courses found")
    | some courses =>
      match vc.searchResults with
      | none => some (vc.fail "Unable to load search results")
      | some resultCourses =>
        match courseLoadOf vc.currentUserSchedule with
        | none => some (vc.fail "No user schedule found")
        | some userCourses =>
          (vc.tapRow (if vc.showAllCourses then courses else resultCourses) userCourses row).map
            refreshPeriods

/-! ## The search bar -/

def searchBarTextDidBeginEditing (vc : ChooseClassesViewController) :
    ChooseClassesViewController :=
  { vc with showAllCourses := false, searchResults := some [], searchbarEditing := true }

def searchBarTextDidEndEditing (vc : ChooseClassesViewController) :
    ChooseClassesViewController :=
  { vc with showAllCourses := true, searchResults := some [],
            searchbarEditing := false }.reloadData

/-- `searchBar.endEditing(true)` calls the handler above back, if editing. -/
def searchBarCancelButtonClicked (vc : ChooseClassesViewController) :
    ChooseClassesViewController :=
  if vc.searchbarEditing then vc.searchBarTextDidEndEditing else vc

/-- The loop of `searchBar(_:textDidChange:)`: three criteria, in order. -/
def searchLoop (lowerCasedText : String) : List Course → List Course → List Course
  | [], searchResults => searchResults
  | course :: fullData, searchResults =>
    searchLoop lowerCasedText fullData
      (if contains (lower course.displayName) lowerCasedText then searchResults ++ [course]
       else if contains (lower course.teacher.fullLastName) lowerCasedText then
         searchResults ++ [course]
       else if contains (lower (toString course.period)) lowerCasedText then
         searchResults ++ [course]
       else searchResults)

/-- `searchBar(_:textDidChange:)`: without a catalogue it returns before the
reload. -/
def searchBarTextDidChange (vc : ChooseClassesViewController) (searchText : String) :
    ChooseClassesViewController :=
  match vc.courseList with
  | none => { vc with searchResults := some [] }
  | some fullData =>
    { vc with searchResults := some (searchLoop lower (lower searchText) fullData []) }.reloadData

/-! ## Callbacks and navigation -/

/-- The callback of `getFaculty` in `addClass(_:)`, before the segue. -/
def facultyArrived (vc : ChooseClassesViewController) (school : School)
    (facList : List Faculty) : ChooseClassesViewController :=
  { vc with userSchool := some { school with staff := some facList } }

/-- What the school selector's callback assigns: catalogue and a new, empty
schedule, without a reload. -/
def schoolArrived (vc : ChooseClassesViewController) (school : School)
    (crsList : List Course) : ChooseClassesViewController :=
  { vc with
    userSchool := some { school with courseList := some crsList }
    currentUserSchedule :=
      some { maxCourseCount := school.maxStudentCourseLoad, courseLoad := some [] } }

/-- The period summary that the segue after a submission writes, to `errors`. -/
def writeSummary (vc : ChooseClassesViewController) (scheduleToReturn : Option Schedule) :
    ChooseClassesViewController :=
  match scheduleToReturn with
  | some sched =>
    match sched.maxCourseCount with
    | some count =>
      { vc with errors := { vc.errors with text := some (periodLabelTextGenerator sched count) } }
    | none => vc
  | none => vc

/-- What the callback of either return segue of the class form assigns. -/
def scheduleReturned (vc : ChooseClassesViewController) (identifier : String) (school : School)
    (crsList : List Course) (scheduleToReturn : Option Schedule) :
    ChooseClassesViewController :=
  let filled := { vc with
    userSchool := some { school with courseList := some crsList }
    currentUserSchedule := scheduleToReturn }.reloadData
  if identifier = "returnToSignUpChooseClass" then filled.writeSummary scheduleToReturn
  else filled

/-- `prepare(for:sender:)`, its effect on `newUserData`. -/
def prepare (vc : ChooseClassesViewController) (identifier : String) (newUserData : Data) : Data :=
  -- in the storyboard, this is the segue that leads to the chooser
  if identifier = "signUpSegueThree" then
    newUserData.assign "schedule" (vc.currentUserSchedule.map fun s => .boxed (.schedule s))
  else newUserData

inductive Event where
  | viewDidAppear
  | searchBarTextDidBeginEditing
  | searchBarTextDidChange (searchText : String)
  | searchBarCancelButtonClicked
  | searchBarTextDidEndEditing
  | didSelectRowAt (row : Nat)
  | addClass
  | tapToContinue
  | facultyArrived (school : School) (facList : List Faculty)
  | schoolArrived (school : School) (crsList : List Course)
  | scheduleReturned (identifier : String) (school : School) (crsList : List Course)
      (scheduleToReturn : Option Schedule)

/-- The view controller's part of handling an event. -/
def step (vc : ChooseClassesViewController) : Event → Option ChooseClassesViewController
  | .viewDidAppear => some vc.reloadData
  | .searchBarTextDidBeginEditing => some vc.searchBarTextDidBeginEditing
  | .searchBarTextDidChange searchText => some (vc.searchBarTextDidChange lower searchText)
  | .searchBarCancelButtonClicked => some vc.searchBarCancelButtonClicked
  | .searchBarTextDidEndEditing => some vc.searchBarTextDidEndEditing
  | .didSelectRowAt row => vc.didSelectRowAt row
  | .addClass => some vc
  | .tapToContinue => some vc
  | .facultyArrived school facList => some (vc.facultyArrived school facList)
  | .schoolArrived school crsList => some (vc.schoolArrived school crsList)
  | .scheduleReturned identifier school crsList scheduleToReturn =>
    some (vc.scheduleReturned identifier school crsList scheduleToReturn)

/-- The queries an event starts: `addClass(_:)` asks for the faculty of the
school in `newUserData`; without one it presents an alert. -/
def calls (newUserData : Data) : Event → List Call
  | .addClass =>
    match schoolOf newUserData with
    | some school => [.getFaculty school]
    | none => []
  | _ => []

/-- The segue an event performs. -/
def segue : Event → Option String
  | .tapToContinue => some "signUpSegueFour"
  | .facultyArrived _ _ => some "chooseClassToAddClass"
  | _ => none

def handle (vc : ChooseClassesViewController) (newUserData : Data) (e : Event) :
    Option (Reaction ChooseClassesViewController) :=
  (vc.step lower e).map fun vc =>
    { vc, newUserData, calls := calls newUserData e, segue := segue e }

/-! ## What a tap does -/

/-- The array that `didSelectRowAt` and `cellForRowAt` index. -/
def shownArray (vc : ChooseClassesViewController) : Option (List Course) :=
  if vc.showAllCourses then vc.courseList else vc.searchResults

/-- The course a tap on the row acts on, once every guard has passed. -/
def tapTarget (vc : ChooseClassesViewController) (row : Nat) : Option Course := do
  let _ ← vc.tableView[row]?
  let courses ← vc.courseList
  let resultCourses ← vc.searchResults
  let _ ← courseLoadOf vc.currentUserSchedule
  (if vc.showAllCourses then courses else resultCourses)[row]?

end ChooseClassesViewController

theorem verifyNewCourseToSchedule.loop_eq_true_iff (periodToCheck : Int) (crsLd : List Course) :
    verifyNewCourseToSchedule.loop periodToCheck crsLd = true ↔
    ∀ c ∈ crsLd, c.period ≠ periodToCheck := by
  induction crsLd with
  | nil => simp [loop]
  | cons currentCourse crsLd ih =>
    unfold loop
    split
    next heq => simp [heq]
    next hne => simp [hne, ih]

/-- The check passes exactly when no course of the load has the period. -/
theorem verifyNewCourseToSchedule_some_iff {sched : Schedule} {load : List Course}
    (hload : sched.courseLoad = some load) (course : Course) :
    verifyNewCourseToSchedule course (some sched) = true ↔
    ∀ c ∈ load, c.period ≠ course.period := by
  unfold verifyNewCourseToSchedule
  simp only [hload]
  exact verifyNewCourseToSchedule.loop_eq_true_iff course.period load

theorem courseLoadOf_eq_some_iff {schedule : Option Schedule} {load : List Course} :
    courseLoadOf schedule = some load ↔
    ∃ sched, schedule = some sched ∧ sched.courseLoad = some load :=
  Option.bind_eq_some_iff

namespace ChooseClassesViewController

variable {lower : String → String}

/-- The fields a tap leaves alone; of the table it only changes checkmarks. -/
structure SameRows (vc vc' : ChooseClassesViewController) : Prop where
  school : vc'.userSchool = vc.userSchool
  results : vc'.searchResults = vc.searchResults
  showAll : vc'.showAllCourses = vc.showAllCourses
  shown : vc'.tableView.map Cell.course? = vc.tableView.map Cell.course?

theorem SameRows.refl (vc : ChooseClassesViewController) : SameRows vc vc :=
  ⟨rfl, rfl, rfl, rfl⟩

theorem mark_sameRows (vc : ChooseClassesViewController) (row : Nat) (b : Bool) :
    SameRows vc (vc.mark row b) := by
  refine ⟨rfl, rfl, rfl, ?_⟩
  show (vc.tableView.modify row _).map Cell.course? = _
  apply List.ext_getElem?
  intro i
  rw [List.getElem?_map, List.getElem?_map, List.getElem?_modify]
  cases vc.tableView[i]? with
  | none => rfl
  | some cell =>
    by_cases hi : row = i
    · simp [hi, Cell.course?]
    · simp [hi]

/-- The refresh at the end of a tap only writes the `periods` label. -/
theorem refreshPeriods_eq (vc : ChooseClassesViewController) :
    ∃ periods, vc.refreshPeriods = { vc with periods := periods } := by
  unfold refreshPeriods
  split
  next =>
    split
    next => exact ⟨_, rfl⟩
    next => exact ⟨vc.periods, rfl⟩
  next => exact ⟨vc.periods, rfl⟩

theorem refreshPeriods_schedule (vc : ChooseClassesViewController) :
    vc.refreshPeriods.currentUserSchedule = vc.currentUserSchedule := by
  obtain ⟨periods, heq⟩ := refreshPeriods_eq vc
  rw [heq]

theorem refreshPeriods_sameRows (vc : ChooseClassesViewController) :
    SameRows vc vc.refreshPeriods := by
  obtain ⟨periods, heq⟩ := refreshPeriods_eq vc
  rw [heq]
  exact ⟨rfl, rfl, rfl, rfl⟩

/-- The summary after a submission only writes the text of `errors`. -/
theorem writeSummary_eq (vc : ChooseClassesViewController) (schedule : Option Schedule) :
    ∃ text, vc.writeSummary schedule = { vc with errors := { vc.errors with text := text } } := by
  unfold writeSummary
  split
  next =>
    split
    next => exact ⟨_, rfl⟩
    next => exact ⟨vc.errors.text, rfl⟩
  next => exact ⟨vc.errors.text, rfl⟩

theorem writeSummary_schedule (vc : ChooseClassesViewController) (schedule : Option Schedule) :
    (vc.writeSummary schedule).currentUserSchedule = vc.currentUserSchedule := by
  obtain ⟨text, heq⟩ := writeSummary_eq vc schedule
  rw [heq]

theorem writeSummary_sameRows (vc : ChooseClassesViewController) (schedule : Option Schedule) :
    SameRows vc (vc.writeSummary schedule) := by
  obtain ⟨text, heq⟩ := writeSummary_eq vc schedule
  rw [heq]
  exact ⟨rfl, rfl, rfl, rfl⟩

/-- Whatever the return segue, the callback assigns the form's schedule. -/
theorem scheduleReturned_schedule (vc : ChooseClassesViewController) (identifier : String)
    (school : School) (crsList : List Course) (schedule : Option Schedule) :
    (vc.scheduleReturned identifier school crsList schedule).currentUserSchedule = schedule := by
  unfold scheduleReturned
  dsimp only
  split
  next => exact writeSummary_schedule _ _
  next => rfl

theorem SameRows.trans {vc₁ vc₂ vc₃ : ChooseClassesViewController}
    (h₁ : SameRows vc₁ vc₂) (h₂ : SameRows vc₂ vc₃) : SameRows vc₁ vc₃ :=
  ⟨h₂.school.trans h₁.school, h₂.results.trans h₁.results, h₂.showAll.trans h₁.showAll,
    h₂.shown.trans h₁.shown⟩

/-- **Inversion** of the body of a tap: a course that is selected is removed, at
its first index; another one is appended if its period is free, and refused
with a message if it is not. -/
inductive TappedRow (vc : ChooseClassesViewController) (row : Nat) (load : List Course)
    (course : Course) : ChooseClassesViewController → Prop
  | removed {ind : Nat} (hind : (load.findIdx? fun crs => crs.id = course.id) = some ind) :
      TappedRow vc row load course
        { vc.mark row false with
          currentUserSchedule := removeCourse vc.currentUserSchedule ind }
  | added (habsent : ∀ crs ∈ load, crs.id ≠ course.id)
      (hfree : ∀ crs ∈ load, crs.period ≠ course.period) :
      TappedRow vc row load course
        { vc.mark row true with
          currentUserSchedule := appendCourse vc.currentUserSchedule course }
  | refused (habsent : ∀ crs ∈ load, crs.id ≠ course.id)
      (htaken : ¬∀ crs ∈ load, crs.period ≠ course.period) {text : String} (htext : text ≠ "") :
      TappedRow vc row load course
        { vc.mark row false with errors := { vc.errors with text := some text } }

/-- The body traps exactly when the row is out of range. -/
theorem tappedRow_of_tapRow {vc vc' : ChooseClassesViewController} {courses load : List Course}
    {row : Nat} (hload : courseLoadOf vc.currentUserSchedule = some load)
    (h : vc.tapRow courses load row = some vc') :
    ∃ course, courses[row]? = some course ∧ TappedRow vc row load course vc' := by
  obtain ⟨sched, hsched, hcl⟩ := courseLoadOf_eq_some_iff.mp hload
  obtain ⟨course, hcourse, h⟩ := Option.bind_eq_some_iff.mp h
  refine ⟨course, hcourse, ?_⟩
  split at h
  next hany =>
    cases hidx : load.findIdx? fun crs => decide (crs.id = course.id) with
    | none =>
      obtain ⟨crs, hcrs, hid⟩ := List.any_eq_true.mp hany
      rw [List.findIdx?_eq_none_iff.mp hidx crs hcrs] at hid
      cases hid
    | some ind =>
      simp only [hidx] at h
      obtain rfl := Option.some.inj h
      exact .removed hidx
  next hany =>
    have habsent : ∀ crs ∈ load, crs.id ≠ course.id := by
      simpa [List.any_eq_true] using hany
    have hverify := verifyNewCourseToSchedule_some_iff hcl course
    simp only [hsched] at h
    split at h
    next hok =>
      obtain rfl := Option.some.inj h
      rw [← hsched]
      exact .added habsent (hverify.mp hok)
    next hno =>
      obtain rfl := Option.some.inj h
      refine .refused habsent (fun hfree => hno (hverify.mpr hfree)) ?_
      rw [Ne, String.append_eq_empty_iff]
      intro hempty
      exact absurd hempty.1 (by decide)

/-- **The body of a tap** toggles the course at the index in the load, and the
rows show what they showed. -/
theorem tapRow_spec {vc vc' : ChooseClassesViewController} {courses load : List Course}
    {row : Nat} {sched : Schedule} (hsched : vc.currentUserSchedule = some sched)
    (hload : sched.courseLoad = some load) (h : vc.tapRow courses load row = some vc') :
    ∃ course, courses[row]? = some course ∧
      vc'.currentUserSchedule =
        some { sched with courseLoad := some (toggle (·.id) (·.period) course load) } ∧
      SameRows vc vc' := by
  obtain ⟨course, hcourse, htapped⟩ :=
    tappedRow_of_tapRow (courseLoadOf_eq_some_iff.mpr ⟨sched, hsched, hload⟩) h
  refine ⟨course, hcourse, ?_⟩
  cases htapped with
  | @removed ind hind =>
    refine ⟨?_, rfl, rfl, rfl, (mark_sameRows vc row false).shown⟩
    show removeCourse vc.currentUserSchedule ind = _
    unfold Base.toggle
    rw [hind, hsched]
    simp only [removeCourse, Option.map_some, hload]
  | added habsent hfree =>
    refine ⟨?_, rfl, rfl, rfl, (mark_sameRows vc row true).shown⟩
    show appendCourse vc.currentUserSchedule course = _
    rw [toggle_of_absent habsent, if_pos hfree, hsched]
    simp only [appendCourse, Option.map_some, hload]
  | refused habsent htaken _ =>
    refine ⟨?_, rfl, rfl, rfl, (mark_sameRows vc row false).shown⟩
    show vc.currentUserSchedule = _
    rw [toggle_of_absent habsent, if_neg htaken, hsched, ← hload]
    cases sched
    rfl

/-- **Inversion** of a tap: a guard fails, with a message at most, or the body
runs on the target and the label is refreshed after it. -/
inductive Tap (vc : ChooseClassesViewController) (row : Nat) :
    ChooseClassesViewController → Prop
  | ignored (htarget : vc.tapTarget row = none) : Tap vc row vc
  | failed (htarget : vc.tapTarget row = none) (text : String) : Tap vc row (vc.fail text)
  | ran {vc₁ : ChooseClassesViewController} {courses load : List Course} {course : Course}
      (htarget : vc.tapTarget row = some course) (hcourse : courses[row]? = some course)
      (hload : courseLoadOf vc.currentUserSchedule = some load)
      (h : vc.tapRow courses load row = some vc₁) : Tap vc row vc₁.refreshPeriods

theorem tap_of_didSelectRowAt {vc vc' : ChooseClassesViewController} {row : Nat}
    (h : vc.didSelectRowAt row = some vc') : Tap vc row vc' := by
  unfold didSelectRowAt at h
  split at h
  next hcell =>
    obtain rfl := Option.some.inj h
    exact .ignored (by simp [tapTarget, hcell])
  next cell hcell =>
    split at h
    next hcl =>
      obtain rfl := Option.some.inj h
      exact .failed (by simp [tapTarget, hcl]) _
    next courses hcl =>
      split at h
      next hsr =>
        obtain rfl := Option.some.inj h
        exact .failed (by simp [tapTarget, hsr]) _
      next resultCourses hsr =>
        split at h
        next hld =>
          obtain rfl := Option.some.inj h
          exact .failed (by simp [tapTarget, hld]) _
        next load hld =>
          obtain ⟨vc₁, h₁, rfl⟩ := Option.map_eq_some_iff.mp h
          obtain ⟨course, hcourse, -⟩ := Option.bind_eq_some_iff.mp h₁
          exact .ran (by simp [tapTarget, hcell, hcl, hsr, hld, hcourse]) hcourse hld h₁

/-- **What a tap does**: nothing to the schedule if a guard fails, else it
toggles the target in the load. -/
theorem didSelectRowAt_cases {vc vc' : ChooseClassesViewController} {row : Nat}
    (h : vc.didSelectRowAt row = some vc') :
    SameRows vc vc' ∧
    ((vc.tapTarget row = none ∧ vc'.currentUserSchedule = vc.currentUserSchedule) ∨
      ∃ sched load course, vc.currentUserSchedule = some sched ∧
        sched.courseLoad = some load ∧ vc.tapTarget row = some course ∧
        vc'.currentUserSchedule =
          some { sched with courseLoad := some (toggle (·.id) (·.period) course load) }) := by
  cases tap_of_didSelectRowAt h with
  | ignored htarget => exact ⟨SameRows.refl vc, Or.inl ⟨htarget, rfl⟩⟩
  | failed htarget text => exact ⟨⟨rfl, rfl, rfl, rfl⟩, Or.inl ⟨htarget, rfl⟩⟩
  | @ran vc₁ courses load course htarget hcourse hld h₁ =>
    obtain ⟨sched, hsched, hload⟩ := courseLoadOf_eq_some_iff.mp hld
    obtain ⟨course', hcourse', hs, hrows⟩ := tapRow_spec hsched hload h₁
    rw [hcourse] at hcourse'
    obtain rfl := Option.some.inj hcourse'
    refine ⟨hrows.trans (refreshPeriods_sameRows vc₁), Or.inr
      ⟨sched, load, course, hsched, hload, htarget, ?_⟩⟩
    rw [refreshPeriods_schedule, hs]

/-- The event looks for a course: it changes what the table shows. -/
def Event.browses : Event → Bool
  | .viewDidAppear => true
  | .searchBarTextDidBeginEditing => true
  | .searchBarTextDidChange _ => true
  | .searchBarCancelButtonClicked => true
  | .searchBarTextDidEndEditing => true
  | _ => false

/-- The fields that browsing leaves alone. -/
structure SameSubject (vc vc' : ChooseClassesViewController) : Prop where
  school : vc'.userSchool = vc.userSchool
  schedule : vc'.currentUserSchedule = vc.currentUserSchedule
  periods : vc'.periods = vc.periods

/-- **Frame.** -/
theorem step_browses {vc vc' : ChooseClassesViewController} {e : Event}
    (he : e.browses = true) (h : vc.step lower e = some vc') : SameSubject vc vc' := by
  cases e with
  | searchBarTextDidChange searchText =>
    obtain rfl := Option.some.inj h
    unfold searchBarTextDidChange
    split
    next => exact ⟨rfl, rfl, rfl⟩
    next => exact ⟨rfl, rfl, rfl⟩
  | searchBarCancelButtonClicked =>
    obtain rfl := Option.some.inj h
    unfold searchBarCancelButtonClicked
    split
    next => exact ⟨rfl, rfl, rfl⟩
    next => exact ⟨rfl, rfl, rfl⟩
  | viewDidAppear | searchBarTextDidBeginEditing | searchBarTextDidEndEditing =>
    obtain rfl := Option.some.inj h
    exact ⟨rfl, rfl, rfl⟩
  | didSelectRowAt row | addClass | tapToContinue | facultyArrived school facList
    | schoolArrived school crsList
    | scheduleReturned identifier school crsList scheduleToReturn => cases he

/-- The callback of a query that hands the chooser its schedule. -/
def Event.isLoad : Event → Bool
  | .schoolArrived _ _ => true
  | .scheduleReturned _ _ _ _ => true
  | _ => false

/-- What an event does to the schedule. -/
inductive ScheduleStep (vc : ChooseClassesViewController) :
    Event → ChooseClassesViewController → Prop
  | arrived {vc' : ChooseClassesViewController} (school : School) (crsList : List Course)
      (h : vc'.currentUserSchedule =
        some { maxCourseCount := school.maxStudentCourseLoad, courseLoad := some [] }) :
      ScheduleStep vc (.schoolArrived school crsList) vc'
  | returned {vc' : ChooseClassesViewController} (identifier : String) (school : School)
      (crsList : List Course) (scheduleToReturn : Option Schedule)
      (h : vc'.currentUserSchedule = scheduleToReturn) :
      ScheduleStep vc (.scheduleReturned identifier school crsList scheduleToReturn) vc'
  | tapped {vc' : ChooseClassesViewController} {row : Nat} {sched : Schedule}
      {load : List Course} {course : Course} (hsched : vc.currentUserSchedule = some sched)
      (hload : sched.courseLoad = some load) (htarget : vc.tapTarget row = some course)
      (h : vc'.currentUserSchedule =
        some { sched with courseLoad := some (toggle (·.id) (·.period) course load) }) :
      ScheduleStep vc (.didSelectRowAt row) vc'
  | kept {e : Event} {vc' : ChooseClassesViewController}
      (hload : e.isLoad = false)
      (htap : ∀ row, e = .didSelectRowAt row → vc.tapTarget row = none)
      (h : vc'.currentUserSchedule = vc.currentUserSchedule) : ScheduleStep vc e vc'

/-- **Inversion**, as far as the schedule goes. -/
theorem scheduleStep_of_step {vc vc' : ChooseClassesViewController} {e : Event}
    (hs : vc.step lower e = some vc') : ScheduleStep vc e vc' := by
  cases e with
  | schoolArrived school crsList =>
    obtain rfl := Option.some.inj hs
    exact .arrived school crsList rfl
  | scheduleReturned identifier school crsList scheduleToReturn =>
    obtain rfl := Option.some.inj hs
    exact .returned identifier school crsList scheduleToReturn
      (scheduleReturned_schedule vc identifier school crsList scheduleToReturn)
  | didSelectRowAt row =>
    rcases (didSelectRowAt_cases hs).2 with ⟨hnone, heq⟩ |
      ⟨sched, load, course, hsched, hload, htarget, heq⟩
    · refine .kept rfl ?_ heq
      intro row' hrow
      obtain rfl := Event.didSelectRowAt.inj hrow
      exact hnone
    · exact .tapped hsched hload htarget heq
  | viewDidAppear | searchBarTextDidBeginEditing | searchBarTextDidChange _
    | searchBarCancelButtonClicked | searchBarTextDidEndEditing =>
    exact .kept rfl (by intro _ h; cases h) (step_browses rfl hs).schedule
  | addClass | tapToContinue | facultyArrived school facList =>
    obtain rfl := Option.some.inj hs
    exact .kept rfl (by intro _ h; cases h) rfl

/-- What an event does to the school: a callback brings one, with a staff list
or a catalogue that was fetched for it. -/
inductive SchoolStep (vc : ChooseClassesViewController) :
    Event → ChooseClassesViewController → Prop
  | staffed {vc' : ChooseClassesViewController} (school : School) (facList : List Faculty)
      (h : vc'.userSchool = some { school with staff := some facList }) :
      SchoolStep vc (.facultyArrived school facList) vc'
  | arrived {vc' : ChooseClassesViewController} (school : School) (crsList : List Course)
      (h : vc'.userSchool = some { school with courseList := some crsList }) :
      SchoolStep vc (.schoolArrived school crsList) vc'
  | returned {vc' : ChooseClassesViewController} (identifier : String) (school : School)
      (crsList : List Course) (scheduleToReturn : Option Schedule)
      (h : vc'.userSchool = some { school with courseList := some crsList }) :
      SchoolStep vc (.scheduleReturned identifier school crsList scheduleToReturn) vc'
  | kept {e : Event} {vc' : ChooseClassesViewController}
      (h : vc'.userSchool = vc.userSchool) : SchoolStep vc e vc'

/-- **Inversion**, as far as the school goes. -/
theorem schoolStep_of_step {vc vc' : ChooseClassesViewController} {e : Event}
    (hs : vc.step lower e = some vc') : SchoolStep vc e vc' := by
  cases e with
  | facultyArrived school facList =>
    obtain rfl := Option.some.inj hs
    exact .staffed school facList rfl
  | schoolArrived school crsList =>
    obtain rfl := Option.some.inj hs
    exact .arrived school crsList rfl
  | scheduleReturned identifier school crsList scheduleToReturn =>
    obtain rfl := Option.some.inj hs
    refine .returned identifier school crsList scheduleToReturn ?_
    unfold scheduleReturned
    dsimp only
    split
    next => rw [(writeSummary_sameRows _ _).school]; rfl
    next => rfl
  | didSelectRowAt row => exact .kept (didSelectRowAt_cases hs).1.school
  | viewDidAppear | searchBarTextDidBeginEditing | searchBarTextDidChange _
    | searchBarCancelButtonClicked | searchBarTextDidEndEditing =>
    exact .kept (step_browses rfl hs).school
  | addClass | tapToContinue =>
    obtain rfl := Option.some.inj hs
    exact .kept rfl

end ChooseClassesViewController

end Scholarli
