import Scholarli.SignUp.Cloud

/-!
# What a client has is in the database

`Backed store` is the condition on a client's steps that a growing database
does not lose: the answers it got are documents of the store, and what it
wrote is in there. This file is about the runs of one client under that
condition, over a sound store.

* `selectors_of_reaches`, `forms_of_reaches` — the invariant rules for the
  screens where schools and courses enter: the selector's list comes with an
  answer, a form starts with a fetched staff and is then changed by its own
  events only.
* `genuine_of_reaches` — every copy of a school is one of the database but for
  its lists, and its catalogue has only courses stored for it.
* `staffed_of_reaches` — the staff of a form is stored for its school, and so
  is the course of its alert.
* `published_of_reaches` — every course in sight is stored, where `InSight`
  lists the places: catalogues, search results, schedules and alerts.
-/

namespace Scholarli

open Base (Machine Document Table)

variable {lower : String → String}

/-- What a client's step relies on, and keeps relying on: answers come from
the store, writes are in it, new ids are new, and catalogues have distinct
ids. -/
structure Backed (store : Store) (flow : Flow) (e : Event) : Prop where
  answers : ∀ k docs request path, e = .documents k docs → flow.requests[k]? = some request →
    request.call.collection? = some path → (store.collection path).Selects docs
  written : ∀ write, flow.write? e = some write → store write.docRef = some write.document
  fresh : FreshIds flow e
  distinct : DistinctCatalogues flow e

/-- A growing store does not lose what was relied on. -/
theorem Backed.mono {store store' : Store} (hle : store ≤ store') {flow : Flow} {e : Event}
    (h : Backed store flow e) : Backed store' flow e := by
  refine ⟨?_, ?_, h.fresh, h.distinct⟩
  · intro k docs request path he hk hpath
    exact (h.answers k docs request path he hk hpath).mono (Store.collection_mono hle path)
  · intro write hwrite
    exact hle _ _ (h.written write hwrite)

/-! ## Rules for selectors and forms -/

/-- The schools that can be selected, and the one that is. -/
structure SchoolSelectorViewController.Offers (P : School → Prop)
    (vc : SchoolSelectorViewController) : Prop where
  offered : ∀ list, vc.listOfSchools = some list → ∀ school ∈ list, P school
  selected : ∀ school, vc.currentSelection = some school → P school

theorem SchoolSelectorViewController.handle_offers {P : School → Prop}
    {vc : SchoolSelectorViewController} {newUserData : Data}
    {e : SchoolSelectorViewController.Event} {r : Reaction SchoolSelectorViewController}
    (h : vc.Offers P)
    (hlist : ∀ list, e = .schoolListArrived (some list) → ∀ school ∈ list, P school)
    (hr : vc.handle newUserData e = some r) : r.vc.Offers P := by
  cases e with
  | schoolListArrived schoolList =>
    cases schoolList with
    | none =>
      obtain rfl := Option.some.inj hr
      exact h
    | some list =>
      obtain ⟨first, hfirst, hr⟩ := Option.bind_eq_some_iff.mp hr
      obtain rfl := Option.some.inj hr
      refine ⟨?_, ?_⟩
      · intro list' hlist'
        obtain rfl := Option.some.inj hlist'
        exact hlist list rfl
      · intro school hschool
        obtain rfl := Option.some.inj hschool
        exact hlist list rfl _ (List.mem_of_getElem? hfirst)
  | didSelectRow row =>
    obtain ⟨-, hr⟩ := Option.ite_none_right_eq_some.mp hr
    unfold didSelectRow at hr
    split at hr
    next skewls hskewls =>
      obtain ⟨picked, hpicked, hr⟩ := Option.bind_eq_some_iff.mp hr
      obtain rfl := Option.some.inj hr
      refine ⟨h.offered, ?_⟩
      intro school hschool
      obtain rfl := Option.some.inj hschool
      exact h.offered skewls hskewls _ (List.mem_of_getElem? hpicked)
    next =>
      obtain rfl := Option.some.inj hr
      exact h
  | continueAction =>
    obtain rfl := Option.some.inj hr
    unfold continueAction
    split
    next => exact h
    next => exact ⟨h.offered, h.selected⟩
  | courseListArrived skewl crsList =>
    obtain rfl := Option.some.inj hr
    exact h

namespace Flow

/-- **Invariant rule for selectors.** What the schools of every list have that
arrives, the schools on offer have, and the one that is selected. -/
theorem selectors_of_reaches {ok : Flow → Event → Prop} {P : School → Prop}
    (harrived : ∀ flow e k docs request list, ok flow e → e = .documents k docs →
      flow.requests[k]? = some request → request.call = .getSchoolList →
      getSchoolList (.documents docs) = some (some list) → ∀ school ∈ list, P school)
    {flow : Flow} (h : (signUp lower).Reaches ok flow) :
    ∀ vc, .schoolSelector vc ∈ flow.screens → vc.Offers P := by
  suffices hall : ∀ s ∈ flow.screens, ∀ vc, s = .schoolSelector vc → vc.Offers P from
    fun vc hvc => hall _ hvc vc rfl
  induction h with
  | init hinit =>
    obtain rfl : _ = launch := hinit
    intro s hs vc hvc
    rw [mem_launch_screens hs] at hvc
    cases hvc
  | @step flow flow' e _ hok hs ih =>
    cases steps_of_step hs with
    | silent _ _ => exact ih
    | deliver hd hdel =>
      rw [← hd.screens_eq] at ih
      refine hdel.forall_screens
        (P := fun s => ∀ vc, s = .schoolSelector vc → vc.Offers P) ih ?_ ?_
      · intro screen hscreen r hr vc' hvc'
        cases Screen.handled_of_handle hr with
        | userInfo _ | security _ _ | chooseClasses _ | addClass _ => cases hvc'
        | @schoolSelector vc se _ hhandle =>
          obtain rfl := Screen.schoolSelector.inj hvc'
          refine SchoolSelectorViewController.handle_offers (ih _ hscreen vc rfl) ?_ hhandle
          intro list hse
          subst hse
          cases hd with
          | input hinput => cases hinput
          | callback hk hc =>
            cases hc with
            | schoolList _ _ hlist =>
              obtain ⟨docs, rfl, -⟩ := getSchoolList_eq_some_iff.mp hlist
              exact harrived flow _ _ docs _ list hok rfl hk rfl hlist
      · intro source identifier scene _ _ vc hvc
        have hscene := Screen.destination_scene source identifier scene
        rw [hvc] at hscene
        obtain rfl : .schoolSelector = scene := hscene
        obtain rfl := Screen.schoolSelector.inj hvc
        refine ⟨?_, ?_⟩
        · intro list hlist school hschool
          obtain rfl := Option.some.inj hlist
          cases hschool
        · intro school hschool
          cases hschool

/-- The form that is presented once the faculty has arrived. -/
def presentedForm (school : School) (facList : List Faculty)
    (scheduleToReturn : Option Schedule) : AddClassViewController :=
  AddClassViewController.viewDidLoad
    { school := some { school with staff := some facList }, scheduleToReturn }

/-- Only the callback of the faculty query presents a form. -/
theorem Dispatches.eq_presentedForm {flow flow₀ : Flow} {e : Event} {i : Nat} {se : ScreenEvent}
    {screen : Screen} {newUserData : Data} {r : Reaction Screen} {identifier : String}
    {scene : Scene} {vc : AddClassViewController} (hd : Dispatches flow e flow₀ i se)
    (hr : screen.handle lower newUserData se = some r) (hsegue : r.segue = some identifier)
    (hscene : storyboard r.vc.scene identifier = some scene)
    (hvc : r.vc.destination identifier scene = .addClass vc) :
    ∃ k docs request school facList schedule, e = .documents k docs ∧
      flow.requests[k]? = some request ∧ request.call = .getFaculty school ∧
      getFaculty (.documents docs) = some facList ∧
      vc = presentedForm school facList schedule := by
  have hdest := Screen.destination_scene r.vc identifier scene
  rw [hvc] at hdest
  obtain rfl : .addClass = scene := hdest
  cases Screen.handled_of_handle hr with
  | userInfo _ | security _ _ | schoolSelector _ | addClass _ =>
    cases segue_of_storyboard hscene
  | @chooseClasses cc cc' ce hstep =>
    have hsegue : ChooseClassesViewController.segue ce = some identifier := hsegue
    unfold ChooseClassesViewController.segue at hsegue
    split at hsegue
    next =>
      obtain rfl := Option.some.inj hsegue
      cases hscene
    next =>
      obtain rfl := Option.some.inj hsegue
      obtain rfl := Option.some.inj hstep
      obtain rfl := Screen.addClass.inj hvc
      cases hd with
      | input hinput => cases hinput
      | callback hk hc =>
        cases hc with
        | faculty _ _ _ hfetched =>
          obtain ⟨docs, rfl, -⟩ := getFaculty_eq_some_iff.mp hfetched
          exact ⟨_, docs, _, _, _, _, rfl, hk, rfl, hfetched, rfl⟩
    next => cases hsegue

/-- **Invariant rule for forms.** What a form has that is presented with a
fetched staff, and keeps in the events of its own, all forms have. -/
theorem forms_of_reaches {ok : Flow → Event → Prop} {P : AddClassViewController → Prop}
    (hpresented : ∀ flow e k docs request school facList schedule, ok flow e →
      e = .documents k docs → flow.requests[k]? = some request →
      request.call = .getFaculty school → getFaculty (.documents docs) = some facList →
      P (presentedForm school facList schedule))
    (hstep : ∀ flow e vc vc' ae, ok flow e → e = .input (.addClass ae) →
      flow.screens[flow.screens.length - 1]? = some (.addClass vc) →
      AddClassViewController.machine.Reachable vc → vc.step ae = some vc' → P vc → P vc')
    {flow : Flow} (h : (signUp lower).Reaches ok flow) :
    ∀ vc, .addClass vc ∈ flow.screens → P vc := by
  induction h with
  | init hinit =>
    obtain rfl : _ = launch := hinit
    intro vc hvc
    cases mem_launch_screens hvc
  | @step flow flow' e hreach hok hs ih =>
    intro vc hvc
    cases steps_of_step hs with
    | silent _ _ => exact ih vc hvc
    | deliver hd hdel =>
      obtain ⟨screen, r, hi, hr, hout⟩ := hdel
      obtain ⟨j, hj⟩ := List.mem_iff_getElem?.mp hvc
      rcases hout.screen_cases hj with ⟨-, hold⟩ | ⟨-, heq⟩ |
        ⟨-, -, identifier, scene, hsegue, hscene, heq⟩
      · rw [hd.screens_eq] at hold
        exact ih vc (List.mem_of_getElem? hold)
      · cases Screen.handled_of_handle hr with
        | userInfo _ | security _ _ | schoolSelector _ | chooseClasses _ => cases heq
        | addClass hae =>
          obtain rfl := Screen.addClass.inj heq
          cases hd with
          | callback _ hc => cases hc
          | input _ =>
            have hmem := List.mem_of_getElem? hi
            exact hstep flow _ _ _ _ hok rfl hi
              (form_of_reachable hreach.reachable _ hmem) hae (ih _ hmem)
      · obtain ⟨k, docs, request, school, facList, schedule, he, hk, hcall, hlist, rfl⟩ :=
          hd.eq_presentedForm hr hsegue hscene heq.symm
        exact hpresented flow e k docs request school facList schedule hok he hk hcall hlist

end Flow

/-! ## Schools -/

/-- The school as the list of schools has it. -/
def School.listed (school : School) : School := { school with courseList := none, staff := none }

/-- A school document has no lists in it. -/
theorem School.listed_of_ofData {data : Data} {school : School}
    (h : School.ofData data = .ok school) : school.listed = school := by
  unfold School.ofData at h
  obtain ⟨displayName, -, h⟩ := guardLet_bind_ok h
  obtain ⟨id, -, h⟩ := guardLet_bind_ok h
  obtain ⟨typeStr, -, h⟩ := guardLet_bind_ok h
  obtain ⟨type, -, h⟩ := guardLet_bind_ok h
  obtain ⟨streetAddress, -, h⟩ := guardLet_bind_ok h
  obtain ⟨city, -, h⟩ := guardLet_bind_ok h
  obtain ⟨zipCode, -, h⟩ := guardLet_bind_ok h
  obtain ⟨state, -, h⟩ := guardLet_bind_ok h
  obtain ⟨maxStudentCourseLoad, -, h⟩ := guardLet_bind_ok h
  obtain rfl := Except.ok.inj h
  rfl

/-- The school is one of the database but for its lists, and its catalogue has
only courses that are stored for it. -/
structure Genuine (store : Store) (school : School) : Prop where
  listed : store.HasSchool school.listed
  catalogue : ∀ list, school.courseList = some list → ∀ course ∈ list,
    store.HasCourse course ∧ course.schoolId = school.id

namespace Flow

variable {store : Store} {flow : Flow}

/-- The schools to choose from are those of the database. -/
theorem offers_of_reaches (h : (signUp lower).Reaches (Backed store) flow) :
    ∀ vc, .schoolSelector vc ∈ flow.screens →
      vc.Offers fun school => store.HasSchool school ∧ school.listed = school := by
  refine selectors_of_reaches ?_ h
  intro flow e k docs request list hok he hk hcall hlist school hschool
  have hpath : request.call.collection? = some "schools" := by
    rw [hcall]
    rfl
  have hdocs := hok.answers k docs request _ he hk hpath
  obtain ⟨docs', hdocs', hdecodes⟩ := getSchoolList_eq_some_iff.mp hlist
  cases hdocs'
  obtain ⟨doc, hdoc, hdecode⟩ := hdecodes.exists_doc hschool
  obtain ⟨documentID, hkey⟩ := hdocs.exists_key hdoc
  exact ⟨⟨documentID, doc, hkey, hdecode⟩, School.listed_of_ofData hdecode⟩

/-- **Run lemma for schools.** -/
theorem genuine_of_reaches (hstore : store.Sound)
    (h : (signUp lower).Reaches (Backed store) flow) :
    ∀ school, flow.Holds school → Genuine store school := by
  refine schools_of_reaches ?_ h
  intro flow e flow' school hreach hok hs hheld horigin
  cases horigin with
  | kept hkept => exact hheld school hkept
  | picked hvc hselected =>
    obtain ⟨hhas, hlisted⟩ := (offers_of_reaches (hreach.step hok hs) _ hvc).selected _ hselected
    refine ⟨?_, ?_⟩
    · rw [hlisted]
      exact hhas
    · intro list hlist
      rw [← hlisted] at hlist
      cases hlist
  | staffed staff hkept =>
    obtain ⟨hlisted, hcatalogue⟩ := hheld _ hkept
    exact ⟨hlisted, hcatalogue⟩
  | @catalogued k r request school crsList he hk hcall hr =>
    have hkept : flow.Holds school :=
      .queried (List.mem_of_getElem? hk) (Call.about?_of_catalogue? hcall)
    refine ⟨(hheld school hkept).listed, ?_⟩
    intro list hlist
    obtain rfl := Option.some.inj hlist
    obtain ⟨docs, rfl, -⟩ := getCourseList_eq_some_iff.mp hr
    have hdocs := hok.answers k docs request _ he hk (Call.collection?_of_catalogue? hcall)
    exact hstore.mem_getCourseList hdocs hr

end Flow

/-! ## Forms -/

namespace AddClassViewController

/-- What an event does to the staff, the teacher picked from it and the alert. -/
inductive StaffStep (vc : AddClassViewController) : Event → AddClassViewController → Prop
  | picked {vc' : AddClassViewController} {row : Nat} {fac : List Faculty} {teacher : Faculty}
      (hfac : vc.school.bind (·.staff) = some fac) (hrow : fac[row]? = some teacher)
      (hschool : vc'.school = vc.school) (hteacher : vc'.currentTeacher = some teacher)
      (halert : vc'.successAlert = none) : StaffStep vc (.pickerDidSelectRow row) vc'
  | hired (documentID : String) (halert : vc.successAlert = none) :
      StaffStep vc (.endAddTeacher documentID) (vc.endAddTeacher documentID)
  | submitted (documentID : String) (halert : vc.successAlert = none) :
      StaffStep vc (.addClass documentID) (vc.addClass documentID)
  | kept {e : Event} {vc' : AddClassViewController} (hschool : vc'.school = vc.school)
      (hteacher : vc'.currentTeacher = vc.currentTeacher) (halert : vc'.successAlert = none) :
      StaffStep vc e vc'

theorem staffStep_of_formStep {vc vc' : AddClassViewController} {e : Event}
    (hnone : vc.successAlert = none) (hs : vc.formStep e = some vc') : StaffStep vc e vc' := by
  cases e with
  | editClassTitle _ | editRoomNumber _ | addTeacher | editTeacherFirst _ | editTeacherLast _
    | cancel =>
    obtain rfl := Option.some.inj hs
    exact .kept rfl rfl hnone
  | textField action =>
    obtain rfl := Option.some.inj hs
    cases action <;> exact .kept rfl rfl hnone
  | nameField action =>
    obtain rfl := Option.some.inj hs
    cases action <;> exact .kept rfl rfl hnone
  | teacher | period | cancelAddTeacher =>
    obtain ⟨-, hs⟩ := Option.ite_none_right_eq_some.mp hs
    obtain rfl := Option.some.inj hs
    exact .kept rfl rfl hnone
  | pickerDidSelectRow row =>
    obtain ⟨-, hs⟩ := Option.ite_none_right_eq_some.mp hs
    rcases pickerDidSelectRow_cases hs with ⟨-, fac, teacher, hfac, hrow, rfl⟩ | rfl | ⟨-, rfl⟩
    · exact .picked hfac hrow rfl rfl hnone
    · exact .kept rfl rfl hnone
    · exact .kept rfl rfl hnone
  | teacherPickerDidSelectRow row =>
    obtain ⟨-, hs⟩ := Option.ite_none_right_eq_some.mp hs
    obtain ⟨title, -, rfl⟩ := Option.map_eq_some_iff.mp hs
    exact .kept rfl rfl hnone
  | endAddTeacher documentID =>
    obtain ⟨-, hs⟩ := Option.ite_none_right_eq_some.mp hs
    obtain rfl := Option.some.inj hs
    exact .hired documentID hnone
  | addClass documentID =>
    obtain ⟨-, hs⟩ := Option.ite_none_right_eq_some.mp hs
    obtain rfl := Option.some.inj hs
    exact .submitted documentID hnone
  | ok => cases hs

/-- **Inversion**, as far as the staff goes. -/
theorem staffStep_of_step {vc vc' : AddClassViewController} {e : Event}
    (hs : vc.step e = some vc') : StaffStep vc e vc' := by
  unfold step at hs
  split at hs
  next hnone => exact staffStep_of_formStep hnone hs
  next =>
    split at hs
    next =>
      obtain rfl := Option.some.inj hs
      exact .kept rfl rfl rfl
    next => cases hs

/-- Who can be picked, and who is, is stored for the form's school; and so is
the course of a pending alert. -/
structure Staffed (store : Store) (vc : AddClassViewController) : Prop where
  staff : ∀ school, vc.school = some school → ∀ staff, school.staff = some staff →
    ∀ teacher ∈ staff, store.HasFaculty school.id teacher
  teacher : ∀ school, vc.school = some school → ∀ teacher, vc.currentTeacher = some teacher →
    store.HasFaculty school.id teacher
  alert : ∀ newCrs, vc.successAlert = some (some newCrs) → store.HasCourse newCrs

variable {store : Store}

/-- A new member of the staff is written before it can be picked. -/
theorem Staffed.endAddTeacher {vc : AddClassViewController} (h : Staffed store vc)
    {documentID : String} (halert : vc.successAlert = none)
    (hwritten : ∀ write, vc.endAddTeacherWrite documentID = some write →
      store write.docRef = some write.document) :
    Staffed store (vc.endAddTeacher documentID) := by
  have hteacher := endAddTeacher_currentTeacher vc documentID
  have hdown := (endAddTeacher_sameOwner vc documentID).2
  rcases endAddTeacher_write_cases vc documentID with ⟨hschool, -⟩ |
    ⟨school, hired, hschool, hok, hschool', hwrite⟩
  · refine ⟨?_, ?_, ?_⟩
    · rw [hschool]
      exact h.staff
    · rw [hschool, hteacher]
      exact h.teacher
    · intro newCrs hnew
      rw [hdown, halert] at hnew
      cases hnew
  · refine ⟨?_, ?_, ?_⟩
    · intro school' hsome staff' hstaff' teacher hmem
      rw [hschool'] at hsome
      obtain rfl := Option.some.inj hsome
      obtain ⟨staff, hstaff, rfl⟩ := Option.map_eq_some_iff.mp hstaff'
      rcases List.mem_append.mp hmem with hold | hnew
      · exact h.staff school hschool staff hstaff teacher hold
      · obtain rfl := List.mem_singleton.mp hnew
        exact hwritten _ hwrite
    · intro school' hsome teacher hcurrent
      rw [hschool'] at hsome
      obtain rfl := Option.some.inj hsome
      rw [hteacher] at hcurrent
      exact h.teacher school hschool teacher hcurrent
    · intro newCrs hnew
      rw [hdown, halert] at hnew
      cases hnew

/-- The alert goes up for what was written. -/
theorem Staffed.addClass {vc : AddClassViewController} (h : Staffed store vc)
    (hreach : machine.Reachable vc) {documentID : String} {vc' : AddClassViewController}
    (hs : vc.step (.addClass documentID) = some vc')
    (hwritten : ∀ write, vc.addClassWrite documentID = some write →
      store write.docRef = some write.document) :
    Staffed store vc' := by
  obtain ⟨hnone, rfl⟩ := step_addClass hs
  obtain ⟨errorClass, successAlert, heq, -⟩ := addClass_cases vc documentID
  refine ⟨?_, ?_, ?_⟩
  · rw [heq]
    exact h.staff
  · rw [heq]
    exact h.teacher
  · intro newCrs hnew
    rcases addClass_write_cases vc documentID with ⟨hold | hdown, -⟩ |
      ⟨school, course, hschool, hok, halert, hwrite⟩
    · rw [hold, hnone] at hnew
      cases hnew
    · rw [hdown] at hnew
      cases hnew
    · rw [halert] at hnew
      obtain rfl := Option.some.inj (Option.some.inj hnew)
      obtain ⟨-, hschoolId, -⟩ := (formInv_of_reachable hreach).ofRefData_course hschool hok
      unfold Store.HasCourse
      rw [hschoolId]
      exact hwritten _ hwrite

/-- **Step lemma for forms.** -/
theorem Staffed.step {vc vc' : AddClassViewController} {e : Event} (h : Staffed store vc)
    (hreach : machine.Reachable vc) (hs : vc.step e = some vc')
    (hwritten : ∀ write, vc.write? e = some write → store write.docRef = some write.document) :
    Staffed store vc' := by
  cases staffStep_of_step hs with
  | @picked _ row fac teacher hfac hrow hschool hteacher halert =>
    obtain ⟨school, hsome, hstaff⟩ := Option.bind_eq_some_iff.mp hfac
    refine ⟨?_, ?_, ?_⟩
    · rw [hschool]
      exact h.staff
    · intro school' hsome' t ht
      rw [hschool, hsome] at hsome'
      obtain rfl := Option.some.inj hsome'
      rw [hteacher] at ht
      obtain rfl := Option.some.inj ht
      exact h.staff school hsome fac hstaff _ (List.mem_of_getElem? hrow)
    · intro newCrs hnew
      rw [halert] at hnew
      cases hnew
  | hired documentID halert => exact h.endAddTeacher halert hwritten
  | submitted documentID halert => exact h.addClass hreach hs hwritten
  | kept hschool hteacher halert =>
    refine ⟨?_, ?_, ?_⟩
    · rw [hschool]
      exact h.staff
    · rw [hschool, hteacher]
      exact h.teacher
    · intro newCrs hnew
      rw [halert] at hnew
      cases hnew

end AddClassViewController

namespace Flow

variable {store : Store} {flow : Flow}

/-- **Run lemma for forms.** -/
theorem staffed_of_reaches (hstore : store.Sound)
    (h : (signUp lower).Reaches (Backed store) flow) :
    ∀ vc, .addClass vc ∈ flow.screens → vc.Staffed store := by
  refine forms_of_reaches ?_ ?_ h
  · intro flow e k docs request school facList schedule hok he hk hcall hlist
    have hpath : request.call.collection? = some (facultyPath school.id) := by
      rw [hcall]
      rfl
    have hdocs := hok.answers k docs request _ he hk hpath
    refine ⟨?_, ?_, ?_⟩
    · intro school' hschool' staff hstaff
      obtain rfl := Option.some.inj hschool'
      obtain rfl := Option.some.inj hstaff
      exact hstore.mem_getFaculty hdocs hlist
    · intro _ _ teacher hteacher
      cases hteacher
    · intro newCrs hnew
      cases hnew
  · intro flow e vc vc' ae hok he hlast hreach hs hstaffed
    subst he
    refine hstaffed.step hreach hs ?_
    intro write hwrite
    refine hok.written write ?_
    unfold write?
    dsimp only
    rw [hlast]
    exact hwrite

/-! ## Courses in sight -/

/-- The places where a client has a course. -/
inductive InSight (flow : Flow) (course : Course) : Prop
  | catalogue {school : School} {list : List Course} (hschool : flow.Holds school)
      (hlist : school.courseList = some list) (h : course ∈ list)
  | found {vc : ChooseClassesViewController} {results : List Course}
      (hvc : .chooseClasses vc ∈ flow.screens) (hresults : vc.searchResults = some results)
      (h : course ∈ results)
  | scheduled {screen : Screen} (hscreen : screen ∈ flow.screens) (h : course ∈ screen.courses)
  | pending {vc : AddClassViewController} (hvc : .addClass vc ∈ flow.screens)
      (h : vc.successAlert = some (some course))

/-- **Run lemma for search results**, which are taken from the catalogue. -/
theorem results_of_reaches (hstore : store.Sound)
    (h : (signUp lower).Reaches (Backed store) flow) :
    ∀ vc, .chooseClasses vc ∈ flow.screens → ∀ results, vc.searchResults = some results →
      ∀ course ∈ results, store.HasCourse course := by
  refine choosers_of_reaches ?_ ?_ h
  · intro results hresults course hcourse
    obtain rfl := Option.some.inj hresults
    cases hcourse
  · intro flow e vc vc' ce flow₀ i hreach _ hinv hvc _ _ hce results hresults course hcourse
    rcases ChooseClassesViewController.step_results_cases hce with hsame | hnil |
      ⟨fullData, searchText, hfull, hfiltered⟩
    · rw [hsame] at hresults
      exact hinv results hresults course hcourse
    · rw [hnil] at hresults
      obtain rfl := Option.some.inj hresults
      cases hcourse
    · rw [hfiltered] at hresults
      obtain rfl := Option.some.inj hresults
      obtain ⟨school, hschool, hlist⟩ := Option.bind_eq_some_iff.mp hfull
      have hgenuine := genuine_of_reaches hstore hreach school (.shown hvc hschool)
      exact (hgenuine.catalogue fullData hlist course (List.mem_filter.mp hcourse).1).1

end Flow

/-- A tap is on a course of the catalogue or of the search results. -/
theorem ChooseClassesViewController.mem_of_tapTarget {vc : ChooseClassesViewController}
    {row : Nat} {course : Course} (h : vc.tapTarget row = some course) :
    (∃ courses, vc.courseList = some courses ∧ course ∈ courses) ∨
    ∃ results, vc.searchResults = some results ∧ course ∈ results := by
  unfold tapTarget at h
  obtain ⟨_, -, h⟩ := Option.bind_eq_some_iff.mp h
  obtain ⟨courses, hcourses, h⟩ := Option.bind_eq_some_iff.mp h
  obtain ⟨resultCourses, hsearch, h⟩ := Option.bind_eq_some_iff.mp h
  obtain ⟨_, -, h⟩ := Option.bind_eq_some_iff.mp h
  have hmem := List.mem_of_getElem? h
  split at hmem
  next => exact Or.inl ⟨courses, hcourses, hmem⟩
  next => exact Or.inr ⟨resultCourses, hsearch, hmem⟩

namespace Flow

variable {store : Store} {flow : Flow}

/-- A tap is on a course that is stored. -/
theorem hasCourse_of_tapTarget (hstore : store.Sound)
    (h : (signUp lower).Reaches (Backed store) flow) {vc : ChooseClassesViewController}
    (hvc : .chooseClasses vc ∈ flow.screens) {row : Nat} {course : Course}
    (htarget : vc.tapTarget row = some course) : store.HasCourse course := by
  rcases ChooseClassesViewController.mem_of_tapTarget htarget with ⟨courses, hcourses, hmem⟩ |
    ⟨results, hresults, hmem⟩
  · obtain ⟨school, hschool, hlist⟩ := Option.bind_eq_some_iff.mp hcourses
    have hgenuine := genuine_of_reaches hstore h school (.shown hvc hschool)
    exact (hgenuine.catalogue courses hlist course hmem).1
  · exact results_of_reaches hstore h vc hvc results hresults course hmem

/-- The courses of a schedule are stored. -/
def StoredLoad (store : Store) (schedule : Option Schedule) : Prop :=
  ∀ course ∈ (courseLoadOf schedule).getD [], store.HasCourse course

theorem mem_appendCourse {schedule : Option Schedule} {newCrs course : Course}
    (h : course ∈ (courseLoadOf (appendCourse schedule newCrs)).getD []) :
    course ∈ (courseLoadOf schedule).getD [] ∨ course = newCrs := by
  cases schedule with
  | none => cases h
  | some sched =>
    replace h : course ∈ (sched.courseLoad.map (· ++ [newCrs])).getD [] := h
    show course ∈ sched.courseLoad.getD [] ∨ _
    cases hload : sched.courseLoad with
    | none =>
      rw [hload] at h
      cases h
    | some load =>
      rw [hload] at h
      exact (List.mem_append.mp h).imp_right List.mem_singleton.mp

/-- **Run lemma for schedules.** -/
theorem storedLoad_of_reaches (hstore : store.Sound)
    (h : (signUp lower).Reaches (Backed store) flow) :
    ∀ screen ∈ flow.screens, StoredLoad store screen.schedule? := by
  refine schedules_of_reaches ?_ ?_ h
  · intro course hcourse
    cases hcourse
  · intro flow e schedule hreach _ hinv horigin
    cases horigin with
    | none =>
      intro course hcourse
      cases hcourse
    | kept hscreen => exact hinv _ hscreen
    | arrived _ _ =>
      intro course hcourse
      cases hcourse
    | @tapped vc row sched load tapped hvc hsched hload htarget =>
      intro course hcourse
      rcases Base.mem_of_mem_toggle hcourse with hold | rfl
      · refine hinv _ hvc course ?_
        show course ∈ (courseLoadOf vc.currentUserSchedule).getD []
        rw [hsched]
        show course ∈ sched.courseLoad.getD []
        rw [hload]
        exact hold
      · exact hasCourse_of_tapTarget hstore hreach hvc htarget
    | @confirmed vc newCrs hvc halert _ =>
      intro course hcourse
      rcases mem_appendCourse hcourse with hold | rfl
      · exact hinv _ hvc course hold
      · exact (staffed_of_reaches hstore hreach vc hvc).alert _ halert

/-- **Every course in sight is stored.** -/
theorem published_of_reaches (hstore : store.Sound)
    (h : (signUp lower).Reaches (Backed store) flow) {course : Course}
    (hsight : flow.InSight course) : store.HasCourse course := by
  cases hsight with
  | catalogue hschool hlist hmem =>
    exact ((genuine_of_reaches hstore h _ hschool).catalogue _ hlist course hmem).1
  | found hvc hresults hmem => exact results_of_reaches hstore h _ hvc _ hresults course hmem
  | scheduled hscreen hmem => exact storedLoad_of_reaches hstore h _ hscreen course hmem
  | pending hvc halert => exact (staffed_of_reaches hstore h _ hvc).alert course halert

end Flow

end Scholarli
