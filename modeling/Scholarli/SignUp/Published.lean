import Scholarli.Base.Interleaving
import Scholarli.SignUp.Clients
import Scholarli.SignUp.CourseCap
import Scholarli.SignUp.Progress

/-!
# What holds across all clients

Consequences of `clients_backed`, in every state of every run of `cloud`, for
any number of clients and any order of their steps.

* What is there at any time: the database is sound, every course in sight is in
  it (`courses_published`), clients agree on courses, no schedule outgrows the
  school day.
* What holds over time: documents stay as they are (`documents_durable`), the
  order between clients is not visible in the end (`interleavings_agree`), a
  submitted course gets to the others (`submitted_course_fetched`), and no
  client waits for another one (`clients_finish`).
-/

namespace Scholarli

open Base (Machine Document Table World)

variable {lower : String → String} {ι : Type} [DecidableEq ι] {w w' : World Store ι Flow}

/-- **The database stays sound**, whatever the clients do and in any order: each
course names a teacher in the faculty of its school and a period of a listed
school's day, and ids tell courses apart across all schools. -/
theorem database_sound (h : (cloud ι lower).Reaches (Machine.Admits Firestore) w) :
    w.store.Sound :=
  (clients_backed h).1

/-- After one of two clients has submitted a teacher and a course, and the other
one has taken the course. -/
theorem database_sound_taken : taken.store.Sound :=
  database_sound taken_reaches

/-- **Every course in sight of any client is stored**, for its school and under
its id, and reads back as it is. -/
theorem courses_published (h : (cloud ι lower).Reaches (Machine.Admits Firestore) w) (i : ι)
    {course : Course} (hsight : (w.clients i).InSight course) :
    w.store ⟨courseListPath course.schoolId, course.id⟩ = some course.document ∧
    Course.ofData course.document.data = .ok course := by
  obtain ⟨hstore, hclients⟩ := clients_backed h
  have hhas := Flow.published_of_reaches hstore (hclients i) hsight
  refine ⟨hhas, ?_⟩
  exact (Course.ofData_data_eq_self_iff course).mpr (hstore.of_hasCourse hhas).1

/-- The course that one client has submitted and the other one has taken. -/
theorem taken_inSight :
    (taken.clients true).InSight newLatin ∧ (taken.clients false).InSight newLatin := by
  refine ⟨?_, ?_⟩
  · obtain ⟨vc, hvc, halert⟩ : ∃ vc, (taken.clients true).screens[4]? = some (.addClass vc) ∧
        vc.successAlert = some (some newLatin) := ⟨_, rfl, rfl⟩
    exact .pending (List.mem_of_getElem? hvc) halert
  · obtain ⟨screen, hscreen, hcourses⟩ : ∃ screen,
        (taken.clients false).screens[3]? = some screen ∧ screen.courses = [newLatin] :=
      ⟨_, rfl, rfl⟩
    refine .scheduled (List.mem_of_getElem? hscreen) ?_
    rw [hcourses]
    exact List.mem_singleton_self _

theorem courses_published_taken :
    taken.store ⟨courseListPath "mhs", "c1"⟩ = some newLatin.document ∧
    Course.ofData newLatin.document.data = .ok newLatin := by
  have hstored := courses_published taken_reaches false taken_inSight.2
  exact hstored

/-- **Clients agree.** Two courses in sight of two clients that have the same id
are the same. -/
theorem clients_agree (h : (cloud ι lower).Reaches (Machine.Admits Firestore) w) {i j : ι}
    {a b : Course} (ha : (w.clients i).InSight a) (hb : (w.clients j).InSight b)
    (hid : a.id = b.id) : a = b := by
  obtain ⟨hstore, hclients⟩ := clients_backed h
  exact hstore.course_eq (Flow.published_of_reaches hstore (hclients i) ha)
    (Flow.published_of_reaches hstore (hclients j) hb) hid

theorem clients_agree_taken :
    (taken.clients true).InSight newLatin ∧
    ∀ course, (taken.clients false).InSight course → course.id = "c1" → course = newLatin := by
  refine ⟨taken_inSight.1, ?_⟩
  intro course hcourse hid
  exact clients_agree taken_reaches hcourse taken_inSight.1 hid

/-- **No period and no course twice** in any schedule of any client, given only
that the database hands out new ids; and no catalogue lists an id twice. -/
theorem clients_tidy (h : (cloud ι lower).Reaches (Machine.Admits Firestore) w) (i : ι) :
    (∀ screen ∈ (w.clients i).screens, TidySchedule screen.schedule?) ∧
    ∀ school, (w.clients i).Holds school →
      ∀ courses, school.courseList = some courses → DistinctIds courses := by
  obtain ⟨-, hclients⟩ := clients_backed h
  have hfresh := (hclients i).mono fun _ _ hbacked => hbacked.fresh
  have hdistinct := (hclients i).mono fun _ _ hbacked => hbacked.distinct
  refine ⟨?_, Flow.distinct_held hdistinct⟩
  intro screen hscreen
  exact (Flow.tidy_of_reaches hfresh screen hscreen).schedule

theorem clients_tidy_taken :
    ∃ screen, (taken.clients false).screens[3]? = some screen ∧ screen.courses = [newLatin] ∧
      TidySchedule screen.schedule? := by
  obtain ⟨screen, hscreen, hcourses⟩ : ∃ screen,
      (taken.clients false).screens[3]? = some screen ∧ screen.courses = [newLatin] :=
    ⟨_, rfl, rfl⟩
  refine ⟨screen, hscreen, hcourses, ?_⟩
  exact (clients_tidy taken_reaches false).1 screen (List.mem_of_getElem? hscreen)

/-! ## Schedules and the school day -/

/-- The count of a schedule is that of a school in the database. -/
def ListedCount (store : Store) (schedule : Option Schedule) : Prop :=
  ∀ sched, schedule = some sched →
    ∃ school, store.HasSchool school ∧ sched.maxCourseCount = school.maxStudentCourseLoad

/-- **Run lemma** for the counts: they are set when the chooser gets its
catalogue, and then carried along. -/
theorem listedCount_of_reaches {store : Store} (hstore : store.Sound) {flow : Flow}
    (h : (signUp lower).Reaches (Backed store) flow) :
    ∀ screen ∈ flow.screens, ListedCount store screen.schedule? := by
  refine Flow.schedules_of_reaches ?_ ?_ h
  · intro sched hsched
    cases hsched
  · intro flow e schedule hreach _ hinv horigin
    cases horigin with
    | none =>
      intro sched hsched
      cases hsched
    | kept hscreen => exact hinv _ hscreen
    | @arrived request school hrequest hcall =>
      intro sched hsched
      obtain rfl := Option.some.inj hsched
      have habout : request.call.about? = some school := by
        rw [hcall]
        rfl
      have hgenuine := Flow.genuine_of_reaches hstore hreach school (.queried hrequest habout)
      exact ⟨school.listed, hgenuine.listed, rfl⟩
    | @tapped vc row sched load course hvc hsched _ _ =>
      intro sched' hsched'
      obtain rfl := Option.some.inj hsched'
      exact hinv _ hvc sched hsched
    | @confirmed vc newCrs hvc _ _ =>
      intro sched' hsched'
      obtain ⟨sched, hsched, rfl⟩ := Option.map_eq_some_iff.mp hsched'
      exact hinv _ hvc sched hsched

/-- **No schedule outgrows the school day.** Let no school of the database have
a course load over `M`. Then no schedule of any client has more than `M`
courses, and each is for as many as some school has periods. No course was
ever counted for this: stored courses have a period of their school's day, and
no schedule has a period twice. -/
theorem schedules_fit_day (h : (cloud ι lower).Reaches (Machine.Admits Firestore) w) {M : Int}
    (hM : 0 ≤ M) (hmax : ∀ school, w.store.HasSchool school →
      ∀ m, school.maxStudentCourseLoad = some m → m ≤ M)
    (i : ι) {screen : Screen} (hscreen : screen ∈ (w.clients i).screens) {sched : Schedule}
    (hsched : screen.schedule? = some sched) :
    ∃ load m, sched.courseLoad = some load ∧ sched.maxCourseCount = some m ∧
      (load.length : Int) ≤ M ∧ m ≤ M := by
  obtain ⟨hstore, hclients⟩ := clients_backed h
  obtain ⟨load, hload, hnodup⟩ :=
    periodsApart_of_reachable (hclients i).reachable screen hscreen sched hsched
  obtain ⟨school, hschool, hcount⟩ :=
    listedCount_of_reaches hstore (hclients i) screen hscreen sched hsched
  obtain ⟨m, hm⟩ : ∃ m, school.maxStudentCourseLoad = some m := by
    obtain ⟨_, _, _, hdecode⟩ := hschool
    exact School.max_of_ofData hdecode
  refine ⟨load, m, hload, hcount.trans hm, ?_, hmax school hschool m hm⟩
  have hin : LoadIn M (some ⟨some M, some load⟩) := by
    intro full hfull
    obtain rfl := Option.some.inj hfull
    refine ⟨rfl, ?_⟩
    intro load' hload' course hcourse
    obtain rfl := Option.some.inj hload'
    have hmem : course ∈ (courseLoadOf screen.schedule?).getD [] := by
      rw [hsched]
      show course ∈ sched.courseLoad.getD []
      rw [hload]
      exact hcourse
    have hhas := Flow.storedLoad_of_reaches hstore (hclients i) screen hscreen course hmem
    obtain ⟨-, -, school', m', hschool', -, hm', hfrom, hto⟩ := hstore.of_hasCourse hhas
    exact ⟨hfrom, hto.trans (hmax school' hschool' m' hm')⟩
  have hapart : PeriodsApart (some ⟨some M, some load⟩) := by
    intro full hfull
    obtain rfl := Option.some.inj hfull
    exact ⟨load, rfl, hnodup⟩
  obtain ⟨-, load', hload', hle⟩ := hin.capped hM hapart _ rfl
  obtain rfl := Option.some.inj hload'
  exact hle

/-- The one school has a day of eight periods. -/
theorem taken_day : ∀ school, taken.store.HasSchool school →
    ∀ m, school.maxStudentCourseLoad = some m → m ≤ 8 := by
  intro school hschool m hm
  obtain ⟨documentID, document, hdoc, hdecode⟩ := hschool
  have hstore : taken.store =
      (morristownStore.set (newKappel.write "mhs").docRef newKappel.document).set
        (newLatin.write "mhs").docRef newLatin.document := rfl
  rw [hstore] at hdoc
  rcases Table.set_cases hdoc with ⟨heq, -⟩ | hdoc
  · exact absurd (DocumentReference.mk.inj heq).1.symm (courseListPath_ne_schools "mhs")
  · rcases Table.set_cases hdoc with ⟨heq, -⟩ | hdoc
    · exact absurd (DocumentReference.mk.inj heq).1.symm (facultyPath_ne_schools "mhs")
    · obtain ⟨-, hsome⟩ := Option.ite_none_right_eq_some.mp hdoc
      obtain rfl := Option.some.inj hsome
      obtain rfl := Except.ok.inj hdecode
      obtain rfl := Option.some.inj hm
      exact le_refl _

theorem schedules_fit_day_taken :
    ∃ screen, (taken.clients false).screens[3]? = some screen ∧ screen.courses = [newLatin] ∧
      ∀ sched, screen.schedule? = some sched →
        ∃ load m, sched.courseLoad = some load ∧ sched.maxCourseCount = some m ∧
          (load.length : Int) ≤ 8 ∧ m ≤ 8 := by
  obtain ⟨screen, hscreen, hcourses⟩ : ∃ screen,
      (taken.clients false).screens[3]? = some screen ∧ screen.courses = [newLatin] :=
    ⟨_, rfl, rfl⟩
  refine ⟨screen, hscreen, hcourses, ?_⟩
  intro sched hsched
  exact schedules_fit_day taken_reaches (by decide) taken_day false
    (List.mem_of_getElem? hscreen) hsched

/-! ## The database over time -/

/-- **Step lemma.** A step of a client adds at most one document, to the courses
or the faculty of a school. -/
theorem store_of_step {e : ι × Event} (h : (cloud ι lower).Reaches (Machine.Admits Firestore) w)
    (hok : Machine.Admits Firestore w e) (hs : (cloud ι lower).step w e = some w') :
    w.store ≤ w'.store ∧
    ∀ docRef, (∀ schoolID, docRef.path ≠ courseListPath schoolID ∧
      docRef.path ≠ facultyPath schoolID) → w'.store docRef = w.store docRef := by
  obtain ⟨i, e⟩ := e
  obtain ⟨hstore, hclients⟩ := clients_backed h
  obtain ⟨flow', hflow, hwrite, -, -⟩ := Machine.sharing_step_cases hs
  rw [hwrite]
  refine ⟨Flow.le_setData (hclients i).reachable hok hflow, ?_⟩
  intro docRef hother
  cases hdoc : (w.clients i).write? e with
  | none => rfl
  | some write =>
    refine Table.set_of_ne w.store ?_ write.document
    intro heq
    subst heq
    cases Flow.adds_of_write? hstore (hclients i) hflow hdoc with
    | @course school _ _ _ _ _ _ => exact (hother school.id).1 rfl
    | @faculty school _ _ _ => exact (hother school.id).2 rfl

/-- **Run lemma.** The database only grows. -/
theorem store_le_of_later (h : (cloud ι lower).Reaches (Machine.Admits Firestore) w)
    (hs : (cloud ι lower).StepsUnder (Machine.Admits Firestore) w w') :
    w.store ≤ w'.store := by
  induction hs with
  | refl => exact le_refl w.store
  | tail hprefix hstep ih =>
    obtain ⟨e, hok, he⟩ := hstep
    exact ih.trans (store_of_step (h.trans hprefix) hok he).1

/-- **Nothing is lost or changed.** Whatever the clients do from here on, each
document stays as it is, and outside the courses and the faculty of schools
none is added. -/
theorem documents_durable (h : (cloud ι lower).Reaches (Machine.Admits Firestore) w)
    (hs : (cloud ι lower).StepsUnder (Machine.Admits Firestore) w w') :
    (∀ docRef document, w.store docRef = some document → w'.store docRef = some document) ∧
    ∀ docRef, (∀ schoolID, docRef.path ≠ courseListPath schoolID ∧
      docRef.path ≠ facultyPath schoolID) → w'.store docRef = w.store docRef := by
  refine ⟨store_le_of_later h hs, ?_⟩
  intro docRef hpath
  induction hs with
  | refl => rfl
  | tail hprefix hstep ih =>
    obtain ⟨e, hok, he⟩ := hstep
    rw [(store_of_step (h.trans hprefix) hok he).2 docRef hpath, ih]

/-- A submission adds the course, and the teacher and the school stay. -/
theorem documents_durable_submission :
    ∃ w', (cloud Bool String.toLower).step filled (true, .input (.addClass (.addClass "c1"))) =
        some w' ∧
      w'.store ⟨facultyPath "mhs", "t1"⟩ = some newKappel.document ∧
      w'.store ⟨"schools", "mhs"⟩ = filled.store ⟨"schools", "mhs"⟩ := by
  obtain ⟨w', hw'⟩ : ∃ w', (cloud Bool String.toLower).step filled
      (true, .input (.addClass (.addClass "c1"))) = some w' := ⟨_, rfl⟩
  obtain ⟨hkept, hframe⟩ := documents_durable filled_reaches (.single ⟨_, filled_admits, hw'⟩)
  refine ⟨w', hw', hkept _ _ rfl, hframe _ ?_⟩
  intro schoolID
  exact ⟨(courseListPath_ne_schools schoolID).symm, (facultyPath_ne_schools schoolID).symm⟩

/-! ## The order of the clients' steps -/

/-- The entry that a step writes. -/
def Flow.entry? (flow : Flow) (e : Event) : Option (DocumentReference × Document Boxed) :=
  (flow.write? e).map fun write => (write.docRef, write.document)

theorem Flow.setData_eq_put (store : Store) (flow : Flow) (e : Event) :
    store.setData (flow.write? e) = Table.put store (flow.entry? e) := by
  unfold entry?
  cases flow.write? e <;> rfl

/-- **The order between clients does not matter.** Let the clients do something,
from any state of any run. However their steps are interleaved otherwise, as
long as each client does the same in the same order, the same database and the
same screens come out, for all clients. -/
theorem interleavings_agree (h : (cloud ι lower).Reaches (Machine.Admits Firestore) w)
    {es fs : List (ι × Event)} (hes : (cloud ι lower).Runs (Machine.Admits Firestore) w es w')
    (hown : ∀ i, Machine.own i es = Machine.own i fs) : (cloud ι lower).run w fs = some w' := by
  refine Machine.run_eq_of_own Flow.setData_eq_put ?_ (hes.reaches h) hown
  intro w e w' entry hok hs hentry
  obtain ⟨i, e⟩ := e
  obtain ⟨hreach, hok⟩ := hok
  obtain ⟨flow', hflow, -, -, -⟩ := Machine.sharing_step_cases hs
  obtain ⟨write, hwrite, rfl⟩ := Option.map_eq_some_iff.mp hentry
  -- a document is written under a new id
  have hclient := ((clients_backed hreach).2 i).reachable
  exact hok.fresh _ (Flow.documentID_of_write? hclient hflow hwrite) _

/-- One client submits its course and the other one starts to register. -/
theorem interleavings_agree_submission :
    ∃ w', (cloud Bool String.toLower).run filled
        [(false, .input (.userInfo (.edit .firstName "Ada"))),
          (true, .input (.addClass (.addClass "c1")))] = some w' ∧
      w'.store ⟨courseListPath "mhs", "c1"⟩ = some newLatin.document := by
  obtain ⟨w₁, w', h₁, h₂, hstore⟩ : ∃ w₁ w', (cloud Bool String.toLower).step filled
        (true, .input (.addClass (.addClass "c1"))) = some w₁ ∧
      (cloud Bool String.toLower).step w₁
        (false, .input (.userInfo (.edit .firstName "Ada"))) = some w' ∧
      w'.store ⟨courseListPath "mhs", "c1"⟩ = some newLatin.document := ⟨_, _, rfl, rfl, rfl⟩
  refine ⟨w', ?_, hstore⟩
  refine interleavings_agree filled_reaches
    (.cons filled_admits h₁ (.cons (firestore_of_isPlain rfl _ _) h₂ (.nil w'))) ?_
  intro i
  cases i <;> rfl

/-! ## What one client submits, the others get -/

/-- Whatever the return segue, the callback assigns the school with its
catalogue. -/
theorem ChooseClassesViewController.scheduleReturned_school (vc : ChooseClassesViewController)
    (identifier : String) (school : School) (crsList : List Course)
    (schedule : Option Schedule) :
    (vc.scheduleReturned identifier school crsList schedule).userSchool =
      some { school with courseList := some crsList } := by
  unfold scheduleReturned
  dsimp only
  split
  next => rw [(writeSummary_sameRows _ _).school]; rfl
  next => rfl

namespace Flow

/-- An answer to a query for a catalogue leaves the client with it. -/
theorem holds_of_answer {flow flow' : Flow} {k : Nat} {docs : List (Document Boxed)}
    {request : Request} {school : School} {crsList : List Course}
    (hk : flow.requests[k]? = some request) (hcall : request.call.catalogue? = some school)
    (hlist : getCourseList (.documents docs) = some crsList)
    (hs : flow.step lower (.documents k docs) = some flow') :
    flow'.Holds { school with courseList := some crsList } := by
  obtain ⟨call, caller, dest⟩ := request
  cases steps_of_step hs with
  | silent hk' hc =>
    rw [hk] at hk'
    obtain rfl := Option.some.inj hk'
    cases call with
    | courseListForNewUser _ | courseListForChooseClasses _ | courseListForReturn _ _ =>
      simp [completion, hlist] at hc
    | verifyUsername _ | getSchoolList | getFaculty _ => cases hcall
  | deliver hd hdel =>
    cases hd with
    | callback hk' hc =>
      rw [hk] at hk'
      obtain rfl := Option.some.inj hk'
      obtain ⟨screen, r, hi, hr, hout⟩ := hdel
      cases hc with
      | schoolList _ _ _ | faculty _ _ _ _ => cases hcall
      | newUser _ _ _ hlist' =>
        obtain rfl := Option.some.inj hcall
        rw [hlist] at hlist'
        obtain rfl := Option.some.inj hlist'
        cases Screen.handled_of_handle hr with
        | schoolSelector hhandle =>
          obtain rfl := Option.some.inj hhandle
          rcases hout.newUserData_cases with ⟨-, heq⟩ | ⟨identifier, scene, hsegue, -, -⟩
          · refine .recorded ?_
            rw [heq]
            exact SchoolSelectorViewController.schoolOf_writeSchool _ _
          · cases hsegue
      | chooseClasses _ _ _ hlist' =>
        obtain rfl := Option.some.inj hcall
        rw [hlist] at hlist'
        obtain rfl := Option.some.inj hlist'
        cases Screen.handled_of_handle hr with
        | chooseClasses hstep =>
          obtain rfl := Option.some.inj hstep
          exact .shown (List.mem_of_getElem? (hout.getElem?_self hi)) rfl
      | returned _ _ _ _ hlist' =>
        obtain rfl := Option.some.inj hcall
        rw [hlist] at hlist'
        obtain rfl := Option.some.inj hlist'
        cases Screen.handled_of_handle hr with
        | chooseClasses hstep =>
          obtain rfl := Option.some.inj hstep
          exact .shown (List.mem_of_getElem? (hout.getElem?_self hi))
            (ChooseClassesViewController.scheduleReturned_school _ _ _ _ _)

end Flow

/-- **No submission is lost.** Once a client's alert says that a class has been
added, then at any later time, an up-to-date answer to any client's query for
the catalogue of that school is handled and leaves that client with exactly
one course of that id, and it is the one submitted. -/
theorem submitted_course_fetched (h : (cloud ι lower).Reaches (Machine.Admits Firestore) w)
    {i : ι} {vc : AddClassViewController} (hvc : .addClass vc ∈ (w.clients i).screens)
    {newCrs : Course} (halert : vc.successAlert = some (some newCrs))
    (hlater : (cloud ι lower).StepsUnder (Machine.Admits Firestore) w w')
    {j : ι} {k : Nat} {request : Request} {school : School} {docs : List (Document Boxed)}
    (hk : (w'.clients j).requests[k]? = some request)
    (hcall : request.call.catalogue? = some school) (hschool : school.id = newCrs.schoolId)
    (hdocs : (w'.store.collection (courseListPath school.id)).Lists docs) :
    ∃ w'' crsList, (cloud ι lower).step w' (j, .documents k docs) = some w'' ∧
      (w''.clients j).Holds { school with courseList := some crsList } ∧
      DistinctIds crsList ∧ newCrs ∈ crsList ∧ (w''.clients j).InSight newCrs := by
  obtain ⟨hstore, hclients⟩ := clients_backed (h.trans hlater)
  -- the course is in the database, and still there
  have hhas : w'.store.HasCourse newCrs := by
    obtain ⟨hstore₀, hclients₀⟩ := clients_backed h
    have hpublished := Flow.published_of_reaches hstore₀ (hclients₀ i) (.pending hvc halert)
    exact store_le_of_later h hlater _ _ hpublished
  obtain ⟨crsList, hlist⟩ := hstore.getCourseList_eq hdocs.selects
  have hmem := hstore.mem_getCourseList_of_lists hdocs hlist hschool.symm hhas
  have hfits : (Response.documents (.documents docs)).Fits request.call := by
    cases hc : request.call with
    | verifyUsername username =>
      rw [hc] at hcall
      cases hcall
    | getSchoolList | courseListForNewUser _ | courseListForChooseClasses _
      | courseListForReturn _ _ | getFaculty _ => trivial
  have hno : request.call ≠ .getSchoolList := by
    intro hc
    rw [hc] at hcall
    cases hcall
  obtain ⟨flow', hflow'⟩ :=
    Flow.steps_of_fits (hclients j).reachable hk hfits fun hempty => hno hempty.1
  have hholds := Flow.holds_of_answer hk hcall hlist hflow'
  have hclients' : (signUp lower).step (w'.clients j) (.documents k docs) = some flow' := hflow'
  obtain ⟨w'', hw'', hclient⟩ : ∃ w'', (cloud ι lower).step w' (j, .documents k docs) = some w'' ∧
      w''.clients j = flow' := Machine.sharing_step_of_step hclients'
  rw [← hclient] at hholds
  exact ⟨w'', crsList, hw'', hholds, hstore.nodup_getCourseList hdocs.selects hlist, hmem,
    .catalogue hholds rfl hmem⟩

/-- The other client gets the course that the one has submitted. -/
theorem submitted_course_fetched_latin :
    ∃ w'', ∃ crsList : List Course, (cloud Bool String.toLower).step submitted
        (false, .documents 1 [newLatin.document]) = some w'' ∧
      newLatin ∈ crsList ∧ (w''.clients false).InSight newLatin := by
  obtain ⟨vc, hvc, halert⟩ : ∃ vc, (submitted.clients true).screens[4]? = some (.addClass vc) ∧
      vc.successAlert = some (some newLatin) := ⟨_, rfl, rfl⟩
  obtain ⟨request, school, hk, hcall, hschool⟩ : ∃ request school,
      (submitted.clients false).requests[1]? = some request ∧
      request.call.catalogue? = some school ∧ school.id = "mhs" := ⟨_, _, rfl, rfl, rfl⟩
  obtain ⟨w'', crsList, hstep, -, -, hmem, hsight⟩ :=
    submitted_course_fetched submitted_reaches (List.mem_of_getElem? hvc) halert .refl hk hcall
      hschool (by rw [hschool]; exact submitted_lists)
  exact ⟨w'', crsList, hstep, hmem, hsight⟩

/-! ## Nobody waits for another client -/

/-- The database admits the event, and it creates nothing. -/
def Reads (store : Store) (flow : Flow) (e : Event) : Prop :=
  Firestore store flow e ∧ e.documentID? = none

/-- A database with a school serves the queries for them. -/
theorem serves_reads {store : Store} {school : School} (h : store.HasSchool school) :
    Flow.Serves (Reads store) := by
  refine ⟨?_, ?_⟩
  · intro flow e hplain
    exact ⟨firestore_of_isPlain hplain store flow, documentID?_of_isPlain hplain⟩
  · intro flow k request hk hcall
    obtain ⟨documentID, document, hdoc, hdecode⟩ := h
    have hlist : getSchoolList (.documents [document]) = some (some [school]) :=
      getSchoolList_eq_some_iff.mpr ⟨[document], rfl, .cons hdecode .nil⟩
    have hpath : request.call.collection? = some "schools" := by
      rw [hcall]
      rfl
    refine ⟨[document], school, [], hlist, ⟨?_, ?_⟩, rfl⟩
    · intro k' docs' request' path' he hk' hpath'
      cases he
      rw [hk] at hk'
      obtain rfl := Option.some.inj hk'
      rw [hpath] at hpath'
      obtain rfl := Option.some.inj hpath'
      exact selects_singleton hdoc
    · intro documentID' he
      cases he

/-- A client that creates nothing can go on by itself: neither the database nor
another client changes. -/
theorem steps_alone (h : (cloud ι lower).Reaches (Machine.Admits Firestore) w) {i : ι}
    {flow' : Flow} (hs : (signUp lower).StepsUnder (Reads w.store) (w.clients i) flow') :
    ∃ w', (cloud ι lower).StepsUnder (Machine.Admits Firestore) w w' ∧
      w'.store = w.store ∧ w'.clients i = flow' ∧ ∀ j, j ≠ i → w'.clients j = w.clients j := by
  induction hs with
  | refl => exact ⟨w, .refl, rfl, rfl, fun _ _ => rfl⟩
  | @tail flow₁ flow₂ _ hstep ih =>
    obtain ⟨w₁, hlater, hstore, hclient, hothers⟩ := ih
    obtain ⟨e, ⟨hok, hid⟩, he⟩ := hstep
    rw [← hclient] at hok he
    rw [← hstore] at hok
    obtain ⟨w₂, hw₂, hclient₂⟩ : ∃ w₂, (cloud ι lower).step w₁ (i, e) = some w₂ ∧
        w₂.clients i = flow₂ := Machine.sharing_step_of_step he
    obtain ⟨_, -, hstore₂, -, hothers₂⟩ := Machine.sharing_step_cases hw₂
    refine ⟨w₂, hlater.tail ⟨(i, e), hok, hw₂⟩, ?_, hclient₂, ?_⟩
    · have hreach := ((clients_backed (h.trans hlater)).2 i).reachable
      cases hwrite : (w₁.clients i).write? e with
      | none => rw [hstore₂, hwrite, ← hstore]; rfl
      | some write =>
        rw [Flow.documentID_of_write? hreach he hwrite] at hid
        cases hid
    · intro j hj
      rw [hothers₂ j hj, hothers j hj]

/-- **Who can finish.** Let the database have a school. A client that is not
stranded can get to the last screen by itself, with answers that the database
has, and without a change to the database or to another client. A client that
is stranded stays so, whatever happens. -/
theorem clients_finish (h : (cloud ι lower).Reaches (Machine.Admits Firestore) w)
    {school : School} (hschool : w.store.HasSchool school) (i : ι) :
    (¬(w.clients i).Stranded →
      ∃ w', (cloud ι lower).StepsUnder (Machine.Admits Firestore) w w' ∧
        (w'.clients i).top = some .finalSetup ∧ w'.store = w.store ∧
        ∀ j, j ≠ i → w'.clients j = w.clients j) ∧
    ((w.clients i).Stranded →
      ∀ w', (cloud ι lower).StepsUnder (Machine.Admits Firestore) w w' →
        (w'.clients i).Stranded) := by
  refine ⟨?_, ?_⟩
  · intro hnot
    have hreach := ((clients_backed h).2 i).reachable
    obtain ⟨flow', hsteps, htop⟩ := (Flow.finishes_iff (serves_reads hschool) hreach).mpr hnot
    obtain ⟨w', hlater, hstore, hclient, hothers⟩ := steps_alone h hsteps
    rw [← hclient] at htop
    exact ⟨w', hlater, htop, hstore, hothers⟩
  · intro hstranded w' hlater
    induction hlater with
    | refl => exact hstranded
    | @tail w₁ w₂ hprefix hstep ih =>
      obtain ⟨⟨j, e⟩, -, he⟩ := hstep
      obtain ⟨flow', hflow', -, hself, hothers⟩ := Machine.sharing_step_cases he
      have hreach := ((clients_backed (h.trans hprefix)).2 i).reachable
      by_cases hij : i = j
      · subst hij
        rw [hself]
        exact ih.step hreach hflow'
      · rw [hothers i hij]
        exact ih

/-- The other client registers, and its query for the schools fails. -/
def failed : World Store Bool Flow :=
  (cloud Bool String.toLower).after filled
    (eventsOf false (register ++ ([.answer 0 (.documents .error)] : List Event)))

/-- Before, it could have finished; after, it never does, and the first client
still can. -/
theorem clients_finish_failed :
    (∃ w', (cloud Bool String.toLower).StepsUnder (Machine.Admits Firestore) filled w' ∧
      (w'.clients false).top = some .finalSetup ∧ w'.clients true = filled.clients true) ∧
    (∃ w', (cloud Bool String.toLower).StepsUnder (Machine.Admits Firestore) failed w' ∧
      (w'.clients true).top = some .finalSetup ∧ w'.clients false = failed.clients false) ∧
    ∀ w', (cloud Bool String.toLower).StepsUnder (Machine.Admits Firestore) failed w' →
      (w'.clients false).Stranded := by
  have hreach : (cloud Bool String.toLower).Reaches (Machine.Admits Firestore) failed :=
    filled_reaches.after (admits_of_isPlain rfl)
  have hschool : filled.store.HasSchool morristown := ⟨"mhs", morristownDocument, rfl, rfl⟩
  have hschool' : failed.store.HasSchool morristown := ⟨"mhs", morristownDocument, rfl, rfl⟩
  have hfirst : ¬(filled.clients false).Stranded := by
    intro hstranded
    obtain ⟨vc, htop, -⟩ := hstranded
    cases htop
  have hother : ¬(failed.clients true).Stranded := by
    intro hstranded
    obtain ⟨vc, htop, -⟩ := hstranded
    cases htop
  have hstranded : (failed.clients false).Stranded := by
    refine ⟨_, rfl, rfl, ?_⟩
    intro request hrequest
    cases hrequest
  obtain ⟨w₁, hlater₁, htop₁, -, hframe₁⟩ := (clients_finish filled_reaches hschool false).1 hfirst
  obtain ⟨w₂, hlater₂, htop₂, -, hframe₂⟩ := (clients_finish hreach hschool' true).1 hother
  exact ⟨⟨w₁, hlater₁, htop₁, hframe₁ true (by decide)⟩,
    ⟨w₂, hlater₂, htop₂, hframe₂ false (by decide)⟩,
    (clients_finish hreach hschool' false).2 hstranded⟩

end Scholarli
