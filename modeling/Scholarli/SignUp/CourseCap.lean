import Mathlib.Data.Int.Interval
import Scholarli.SignUp.Periods
import Scholarli.SignUp.Record
import Scholarli.SignUp.Schedules
import Scholarli.SignUp.Schools
import Scholarli.SignUp.Search

/-!
# The course cap

A schedule carries `maxCourseCount`, which nothing is ever compared with. Yet
no schedule exceeds it, as long as one school is selected and its catalogue
was made with the class form:

* what the form offers has a period of the school day (`Offers`), what it
  writes is read back with the same period, so every catalogue has only such
  courses (`Good`, along the origins of schools);
* a course is tapped from the catalogue or from search results, which are
  taken from it (`ResultsIn`), or confirmed in a form, so every load has only
  such courses (`LoadIn`, along the origins of schedules);
* the periods of a load are distinct (`periodsApart_of_reachable`), and there
  are `M` periods in a day of `M`.
-/

namespace Scholarli

open Base (Machine Document toggle)

variable {lower : String → String} {schoolID : String} {M : Int}

/-- The document was written by a submission of the class form for the school,
by some client at some time. -/
def CreatedFor (schoolID : String) (M : Int) (doc : Document Boxed) : Prop :=
  ∃ (vc vc' : AddClassViewController) (school : School) (documentID : String) (newCrs : Course),
    AddClassViewController.machine.Reachable vc ∧ vc.school = some school ∧
    school.id = schoolID ∧ school.maxStudentCourseLoad = some M ∧
    vc.step (.addClass documentID) = some vc' ∧ vc'.successAlert = some (some newCrs) ∧
    doc = newCrs.document

/-- The step condition: no school but the one is selected, and the catalogue
that is fetched for it has only documents created with the class form. -/
structure OnlySchool (lower : String → String) (schoolID : String) (M : Int) (flow : Flow)
    (e : Event) : Prop where
  selected : ∀ flow', flow.step lower e = some flow' →
    ∀ vc, .schoolSelector vc ∈ flow'.screens → ∀ school, vc.currentSelection = some school →
      school.id = schoolID ∧ school.maxStudentCourseLoad = some M
  catalogue : ∀ k docs request school, e = .documents k docs →
    flow.requests[k]? = some request → request.call.catalogue? = some school →
    school.id = schoolID → ∀ doc ∈ docs, CreatedFor schoolID M doc

/-- What reads back from such a document has a period of the school day. -/
theorem CreatedFor.inDay {doc : Document Boxed} (h : CreatedFor schoolID M doc) {course : Course}
    (hcourse : Course.ofData doc.data = .ok course) : InDay M course.period := by
  obtain ⟨vc, vc', school, documentID, newCrs, hreach, hschool, -, hmax, hs, halert, rfl⟩ := h
  have hoffers := AddClassViewController.offers_of_reachable (hreach.step trivial hs)
  -- the school is that of the form before the submission, up to its staff
  have hcount : vc'.periodCount = some M := by
    rcases AddClassViewController.step_cases hs with ⟨_, hok, -⟩ | ⟨-, hsame, -⟩
    · cases hok
    · have hmax' := congrArg (Option.map (·.maxStudentCourseLoad)) hsame.school
      rw [Option.map_map, Option.map_map, hschool] at hmax'
      obtain ⟨school', hschool', heq⟩ := Option.map_eq_some_iff.mp hmax'
      unfold AddClassViewController.periodCount
      rw [hschool']
      exact heq.trans hmax
  have hperiod : course.period = newCrs.period := by
    rw [show Course.ofData newCrs.document.data = _ from Course.ofData_data newCrs] at hcourse
    obtain rfl := Except.ok.inj hcourse
    rfl
  rw [hperiod]
  exact (hoffers.alert newCrs halert).2 M hcount

/-! ## Schools -/

/-- The school is the one, and the courses of its catalogue, if there, fit in
the school day. -/
structure Good (schoolID : String) (M : Int) (school : School) : Prop where
  id : school.id = schoolID
  max : school.maxStudentCourseLoad = some M
  courses : ∀ list, school.courseList = some list → ∀ course ∈ list, InDay M course.period

/-- Every copy of a school that is around is good. -/
theorem good_of_reaches {flow : Flow}
    (h : (signUp lower).Reaches (OnlySchool lower schoolID M) flow) :
    ∀ school, flow.Holds school → Good schoolID M school := by
  refine Flow.schools_of_reaches ?_ h
  intro flow e flow' school hreach hok hs hgood horigin
  cases horigin with
  | kept hheld => exact hgood _ hheld
  | picked hvc hselected =>
    obtain ⟨hid, hmax⟩ := hok.selected flow' hs _ hvc _ hselected
    refine ⟨hid, hmax, ?_⟩
    intro list hlist
    have hreach' := hreach.reachable.step trivial hs
    rw [(Flow.catalogueless_of_reachable hreach' _ hvc).selected _ hselected] at hlist
    cases hlist
  | staffed staff hheld =>
    obtain ⟨hid, hmax, hcourses⟩ := hgood _ hheld
    exact ⟨hid, hmax, hcourses⟩
  | @catalogued k r request school crsList he hk hcall hr =>
    have hheld : flow.Holds school :=
      .queried (List.mem_of_getElem? hk) (Call.about?_of_catalogue? hcall)
    obtain ⟨hid, hmax, -⟩ := hgood school hheld
    refine ⟨hid, hmax, ?_⟩
    intro list hlist course hcourse
    obtain rfl := Option.some.inj hlist
    obtain ⟨docs, rfl, hmem⟩ := getCourseList_mem hr
    obtain ⟨doc, hdoc, hdecode⟩ := hmem course hcourse
    exact (hok.catalogue k docs request school he hk hcall hid doc hdoc).inDay hdecode

/-! ## Choosers -/

namespace ChooseClassesViewController

/-- What the search has found fits in the school day. -/
def ResultsIn (M : Int) (vc : ChooseClassesViewController) : Prop :=
  ∀ data, vc.searchResults = some data → ∀ course ∈ data, InDay M course.period

theorem resultsIn_nil {vc : ChooseClassesViewController} (h : vc.searchResults = some []) :
    vc.ResultsIn M := by
  intro data hdata course hcourse
  rw [h] at hdata
  obtain rfl := Option.some.inj hdata
  cases hcourse

/-- **Step lemma** for search results: they are taken from the catalogue. -/
theorem step_resultsIn {vc vc' : ChooseClassesViewController} {e : Event}
    (hcatalogue : ∀ list, vc.courseList = some list → ∀ course ∈ list, InDay M course.period)
    (h : vc.ResultsIn M) (hs : vc.step lower e = some vc') : vc'.ResultsIn M := by
  rcases step_results_cases hs with hsame | hnil | ⟨fullData, searchText, hfull, hfiltered⟩
  · unfold ResultsIn
    rw [hsame]
    exact h
  · exact resultsIn_nil hnil
  · intro data hdata course hcourse
    rw [hfiltered] at hdata
    obtain rfl := Option.some.inj hdata
    exact hcatalogue fullData hfull course (List.mem_filter.mp hcourse).1

/-- A tap is on a course of the catalogue or of the search results. -/
theorem inDay_of_tapTarget {vc : ChooseClassesViewController} {row : Nat} {course : Course}
    (hcatalogue : ∀ list, vc.courseList = some list → ∀ course ∈ list, InDay M course.period)
    (hresults : vc.ResultsIn M) (h : vc.tapTarget row = some course) : InDay M course.period := by
  unfold tapTarget at h
  obtain ⟨_, -, h⟩ := Option.bind_eq_some_iff.mp h
  obtain ⟨courses, hcourses, h⟩ := Option.bind_eq_some_iff.mp h
  obtain ⟨resultCourses, hsearch, h⟩ := Option.bind_eq_some_iff.mp h
  obtain ⟨_, -, h⟩ := Option.bind_eq_some_iff.mp h
  have hmem := List.mem_of_getElem? h
  split at hmem
  next => exact hcatalogue courses hcourses course hmem
  next => exact hresults resultCourses hsearch course hmem

end ChooseClassesViewController

/-- The catalogue of a chooser is that of a school that is held. -/
theorem Flow.catalogue_inDay {flow : Flow}
    (hgood : ∀ school, flow.Holds school → Good schoolID M school)
    {vc : ChooseClassesViewController} (hvc : .chooseClasses vc ∈ flow.screens) :
    ∀ list, vc.courseList = some list → ∀ course ∈ list, InDay M course.period := by
  intro list hlist
  obtain ⟨school, hschool, hlist⟩ := Option.bind_eq_some_iff.mp hlist
  exact (hgood school (.shown hvc hschool)).courses list hlist

/-- **Run lemma** for search results. -/
theorem resultsIn_of_reaches {flow : Flow}
    (h : (signUp lower).Reaches (OnlySchool lower schoolID M) flow) :
    ∀ vc, .chooseClasses vc ∈ flow.screens → vc.ResultsIn M := by
  refine Flow.choosers_of_reaches (ChooseClassesViewController.resultsIn_nil rfl) ?_ h
  intro flow e vc vc' ce flow₀ i hreach _ hresults hvc _ _ hce
  have hcatalogue := Flow.catalogue_inDay (good_of_reaches hreach) hvc
  exact ChooseClassesViewController.step_resultsIn hcatalogue hresults hce

/-! ## Schedules -/

/-- A schedule that is there has the school's count, and its courses fit in
the school day. -/
def LoadIn (M : Int) (schedule : Option Schedule) : Prop :=
  ∀ sched, schedule = some sched → sched.maxCourseCount = some M ∧
    ∀ load, sched.courseLoad = some load → ∀ course ∈ load, InDay M course.period

theorem LoadIn.appendCourse {schedule : Option Schedule} {newCrs : Course}
    (h : LoadIn M schedule) (hnew : schedule ≠ none → InDay M newCrs.period) :
    LoadIn M (appendCourse schedule newCrs) := by
  intro sched' hsched'
  obtain ⟨sched, rfl, rfl⟩ := Option.map_eq_some_iff.mp hsched'
  obtain ⟨hmax, hcourses⟩ := h sched rfl
  refine ⟨hmax, ?_⟩
  intro load' hload' course hcourse
  obtain ⟨load, hload, rfl⟩ := Option.map_eq_some_iff.mp hload'
  rcases List.mem_append.mp hcourse with hold | hlast
  · exact hcourses load hload course hold
  · obtain rfl := List.mem_singleton.mp hlast
    exact hnew (Option.some_ne_none sched)

/-- **Run lemma** for schedules. -/
theorem loadIn_of_reaches {flow : Flow}
    (h : (signUp lower).Reaches (OnlySchool lower schoolID M) flow) :
    ∀ screen ∈ flow.screens, LoadIn M screen.schedule? := by
  refine Flow.schedules_of_reaches ?_ ?_ h
  · intro sched hsched
    cases hsched
  · intro flow e schedule hreach _ hinv horigin
    have hgood := good_of_reaches hreach
    cases horigin with
    | none =>
      intro sched hsched
      cases hsched
    | kept hscreen => exact hinv _ hscreen
    | @arrived request school hrequest hcall =>
      intro sched hsched
      obtain rfl := Option.some.inj hsched
      have habout : request.call.about? = some school := by rw [hcall]; rfl
      refine ⟨(hgood school (.queried hrequest habout)).max, ?_⟩
      intro load hload course hcourse
      obtain rfl := Option.some.inj hload
      cases hcourse
    | @tapped vc row sched load course hvc hsched hload htarget =>
      intro sched' hsched'
      obtain rfl := Option.some.inj hsched'
      obtain ⟨hmax, hcourses⟩ := hinv _ hvc sched hsched
      refine ⟨hmax, ?_⟩
      intro load' hload' crs hcrs
      obtain rfl := Option.some.inj hload'
      rcases Base.mem_of_mem_toggle hcrs with hold | rfl
      · exact hcourses load hload crs hold
      · exact ChooseClassesViewController.inDay_of_tapTarget (Flow.catalogue_inDay hgood hvc)
          (resultsIn_of_reaches hreach vc hvc) htarget
    | @confirmed vc newCrs hvc halert _ =>
      refine (hinv _ hvc).appendCourse fun _ => ?_
      have hoffers := AddClassViewController.offers_of_reachable
        (Flow.form_of_reachable hreach.reachable vc hvc)
      obtain ⟨hsome, hperiod⟩ := hoffers.alert newCrs halert
      obtain ⟨school, hschool⟩ := Option.ne_none_iff_exists'.mp hsome
      refine hperiod M ?_
      unfold AddClassViewController.periodCount
      rw [hschool]
      exact (hgood school (.shown hvc hschool)).max

/-- A schedule that is there is for `M` courses, and has at most so many. -/
def Capped (M : Int) (schedule : Option Schedule) : Prop :=
  ∀ sched, schedule = some sched → sched.maxCourseCount = some M ∧
    ∃ load, sched.courseLoad = some load ∧ (load.length : Int) ≤ M

/-- Distinct periods of a day of `M`: at most `M` courses. -/
theorem LoadIn.capped {schedule : Option Schedule} (hM : 0 ≤ M) (h : LoadIn M schedule)
    (hapart : PeriodsApart schedule) : Capped M schedule := by
  intro sched hsched
  obtain ⟨hmax, hcourses⟩ := h sched hsched
  obtain ⟨load, hload, hnodup⟩ := hapart sched hsched
  refine ⟨hmax, load, hload, ?_⟩
  have hslots : load.length ≤ (Finset.Icc 1 M).card := by
    refine Base.length_le_card_of_slots hnodup ?_
    intro course hcourse
    exact Finset.mem_Icc.mpr (hcourses load hload course hcourse)
  rw [Int.card_Icc] at hslots
  omega

/-- **The course cap.** Let `M ≥ 0` be the course load of the one school that
is ever selected, and let the documents of its catalogue be created with the
class form. In every state of every run, every schedule is for `M` courses
and has at most `M`. -/
theorem course_cap (hM : 0 ≤ M) {flow : Flow}
    (h : (signUp lower).Reaches (OnlySchool lower schoolID M) flow) :
    (∀ screen ∈ flow.screens, Capped M screen.schedule?) ∧
    Capped M (scheduleOf flow.newUserData) := by
  refine ⟨?_, ?_⟩
  · intro screen hscreen
    exact (loadIn_of_reaches h screen hscreen).capped hM
      (periodsApart_of_reachable h.reachable screen hscreen)
  · intro sched hsched
    unfold scheduleOf Base.Dict.cast at hsched
    rw [Flow.schedule_absent h.reachable] at hsched
    cases hsched

/-- The condition on selections, decided. -/
def Flow.selectsOnly (schoolID : String) (M : Int) (flow : Flow) (e : Event) : Bool :=
  (flow.step String.toLower e).all fun flow' => flow'.screens.all fun
    | .schoolSelector vc => vc.currentSelection.all fun school =>
      school.id = schoolID && school.maxStudentCourseLoad = some M
    | _ => true

theorem Flow.selectsOnly_sound {flow : Flow} {e : Event}
    (h : flow.selectsOnly schoolID M e = true) :
    ∀ flow', flow.step String.toLower e = some flow' →
      ∀ vc, .schoolSelector vc ∈ flow'.screens → ∀ school, vc.currentSelection = some school →
        school.id = schoolID ∧ school.maxStudentCourseLoad = some M := by
  intro flow' hs vc hvc school hschool
  unfold selectsOnly at h
  rw [hs, Option.all_some, List.all_eq_true] at h
  simpa [hschool] using h _ hvc

/-- The step answers no query for a catalogue. -/
def Flow.noCatalogue (flow : Flow) : Event → Bool
  | .answer k _ => flow.requests[k]?.all fun request => request.call.catalogue?.isNone
  | .input _ => true

/-- The condition, decided, for such steps. -/
theorem onlySchool_of_noCatalogue (flow : Flow) (e : Event)
    (h : (flow.selectsOnly schoolID M e && flow.noCatalogue e) = true) :
    OnlySchool String.toLower schoolID M flow e := by
  obtain ⟨hselects, hnone⟩ := Bool.and_eq_true_iff.mp h
  refine ⟨Flow.selectsOnly_sound hselects, ?_⟩
  intro k docs request school he hk hcall
  subst he
  have hnone : flow.requests[k]?.all (fun request => request.call.catalogue?.isNone) = true :=
    hnone
  rw [hk, Option.all_some, hcall] at hnone
  cases hnone

/-- The course that the form of `toFilledForm` is filled in for. -/
def latin : Course where
  displayName := "Latin"
  id := "c2"
  teacher := kappel.bare
  schoolId := "mhs"
  period := 3
  classroom := some ""

/-- One client submits the form. -/
theorem createdFor_latin : CreatedFor "mhs" 8 latin.document := by
  have hmem : _ ∈ (Flow.after Flow.toFilledForm).screens := List.mem_of_getElem? (i := 4) rfl
  have hform := Flow.form_of_reachable (Flow.after_reachable Flow.toFilledForm) _ hmem
  exact ⟨_, _, _, "c2", latin, hform, rfl, rfl, rfl, rfl, rfl, rfl⟩

/-- Another client gets the catalogue with that course, and taps it. -/
theorem course_cap_one_course :
    ∃ flow cc, (signUp String.toLower).Reaches (OnlySchool String.toLower "mhs" 8) flow ∧
      flow.screens[3]? = some (.chooseClasses cc) ∧
      (courseLoadOf cc.currentUserSchedule).map List.length = some 1 ∧
      Capped 8 cc.currentUserSchedule := by
  have hlaunch : (signUp String.toLower).Reaches (OnlySchool String.toLower "mhs" 8) .launch :=
    .init rfl
  have hchooser := Machine.runUnder_reaches onlySchool_of_noCatalogue toChooser hlaunch rfl
  have hcreated : OnlySchool String.toLower "mhs" 8 (Flow.after toChooser)
      (.documents 1 [latin.document]) := by
    refine ⟨Flow.selectsOnly_sound rfl, ?_⟩
    intro k docs request school he _ _ _ doc hdoc
    cases he
    rw [List.mem_singleton.mp hdoc]
    exact createdFor_latin
  have hcatalogue := hchooser.step hcreated rfl
  have hreach := Machine.runUnder_reaches onlySchool_of_noCatalogue
    [.input (.chooseClasses .viewDidAppear), .input (.chooseClasses (.didSelectRowAt 0))]
    hcatalogue rfl
  exact ⟨_, _, hreach, rfl, rfl,
    (course_cap (by decide) hreach).1 _ (List.mem_of_getElem? (i := 3) rfl)⟩

end Scholarli
