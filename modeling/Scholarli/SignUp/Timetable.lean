import Scholarli.Base.Timetable
import Scholarli.SignUp.Published

/-!
# Schedules are timetables

What a schedule is for: a course for each of some periods. `timetable` forgets
the order of the load, and a tap on a course flips it in the timetable. In the
source a tap compares ids to find what to remove and periods to find what is
in the way; that these two agree is not checked anywhere. It holds because
every course in sight is in the database, under an id of its own.

`planned` is the refinement, for everything that a user does on a chooser and
with any steps of other clients in between: the timetable afterwards is that of
the taps, flipped one after the other. What is known of flips is then known of
the program.

* `periods_independent` — it only matters in which order the courses of one
  period were tapped, not how the taps of different periods were interleaved.
* `selected_iff_odd` — a course without a rival for its period is selected if
  it was tapped an odd number of times, or was before and it was an even one.
-/

namespace Scholarli

open Base (Machine Table World toggle Agrees)

variable {lower : String → String}

/-- The course of each period. -/
def timetable (schedule : Option Schedule) : Table Int Course :=
  Table.ofList (·.period) ((courseLoadOf schedule).getD [])

/-- Among distinct periods, the timetable has exactly the courses of the load. -/
theorem timetable_eq_some_iff {screen : Screen} (h : (screen.courses.map (·.period)).Nodup)
    {period : Int} {course : Course} :
    timetable screen.schedule? period = some course ↔
      course ∈ screen.courses ∧ course.period = period :=
  Table.ofList_eq_some_iff h

theorem timetable_eq_none_iff {screen : Screen} {period : Int} :
    timetable screen.schedule? period = none ↔ ∀ course ∈ screen.courses, course.period ≠ period :=
  Table.ofList_eq_none_iff

namespace ChooseClassesViewController

/-- The event is one of looking for courses and selecting them. -/
def Event.plans : Event → Bool
  | .didSelectRowAt _ => true
  | e => e.browses

/-- The course that an event taps. -/
def tapped? (vc : ChooseClassesViewController) : Event → Option Course
  | .didSelectRowAt row => vc.tapTarget row
  | _ => none

/-- The courses that are tapped as the events happen. -/
def taps (lower : String → String) (vc : ChooseClassesViewController) : List Event → List Course
  | [] => []
  | e :: es => (vc.tapped? e).toList ++
    match vc.step lower e with
    | some vc' => taps lower vc' es
    | none => []

/-- The courses of the chooser are among those with `P`, and no period of its
load is there twice. -/
structure Plans (P : Course → Prop) (vc : ChooseClassesViewController) : Prop where
  catalogue : ∀ list, vc.courseList = some list → ∀ course ∈ list, P course
  results : ∀ results, vc.searchResults = some results → ∀ course ∈ results, P course
  load : ∀ course ∈ (courseLoadOf vc.currentUserSchedule).getD [], P course
  apart : (((courseLoadOf vc.currentUserSchedule).getD []).map (·.period)).Nodup

variable {P : Course → Prop} {vc vc' : ChooseClassesViewController}

theorem Plans.target (h : Plans P vc) {row : Nat} {course : Course}
    (htarget : vc.tapTarget row = some course) : P course := by
  rcases mem_of_tapTarget htarget with ⟨courses, hcourses, hmem⟩ | ⟨results, hresults, hmem⟩
  · exact h.catalogue courses hcourses course hmem
  · exact h.results results hresults course hmem

/-- The search finds courses of the catalogue. -/
theorem Plans.found (h : Plans P vc) {e : Event} (hs : vc.step lower e = some vc') :
    ∀ results, vc'.searchResults = some results → ∀ course ∈ results, P course := by
  intro results hresults course hcourse
  rcases step_results_cases hs with hsame | hnil | ⟨fullData, searchText, hfull, hfiltered⟩
  · rw [hsame] at hresults
    exact h.results results hresults course hcourse
  · rw [hnil] at hresults
    obtain rfl := Option.some.inj hresults
    cases hcourse
  · rw [hfiltered] at hresults
    obtain rfl := Option.some.inj hresults
    exact h.catalogue fullData hfull course (List.mem_filter.mp hcourse).1

/-- An event that leaves the school and the schedule alone. -/
theorem Plans.of_same (h : Plans P vc) {e : Event} (hs : vc.step lower e = some vc')
    (hschool : vc'.userSchool = vc.userSchool)
    (hschedule : vc'.currentUserSchedule = vc.currentUserSchedule) : Plans P vc' := by
  refine ⟨?_, h.found hs, ?_, ?_⟩
  · unfold courseList
    rw [hschool]
    exact h.catalogue
  · rw [hschedule]
    exact h.load
  · rw [hschedule]
    exact h.apart

theorem taps_cons {e : Event} (hs : vc.step lower e = some vc') (es : List Event) :
    taps lower vc (e :: es) = (vc.tapped? e).toList ++ taps lower vc' es := by
  rw [taps, hs]

/-- **Step lemma.** An event flips what it taps. -/
theorem Plans.step (h : Plans P vc) (hP : ∀ a b, P a → P b → a.id = b.id → a.period = b.period)
    {e : Event} (he : e.plans = true) (hs : vc.step lower e = some vc') :
    Plans P vc' ∧ timetable vc'.currentUserSchedule =
      Table.flips (·.id) (·.period) (vc.tapped? e).toList (timetable vc.currentUserSchedule) := by
  cases e with
  | viewDidAppear | searchBarTextDidBeginEditing | searchBarTextDidChange _
    | searchBarCancelButtonClicked | searchBarTextDidEndEditing =>
    have hsame := step_browses rfl hs
    refine ⟨h.of_same hs hsame.school hsame.schedule, ?_⟩
    rw [hsame.schedule]
    rfl
  | addClass | tapToContinue | facultyArrived _ _ | schoolArrived _ _
    | scheduleReturned _ _ _ _ => cases he
  | didSelectRowAt row =>
    show _ ∧ _ = Table.flips _ _ (vc.tapTarget row).toList _
    obtain ⟨hrows, ⟨hnone, hsched⟩ | ⟨sched, load, course, hsched, hload, htarget, hsched'⟩⟩ :=
      didSelectRowAt_cases hs
    · refine ⟨h.of_same hs hrows.school hsched, ?_⟩
      rw [hnone, hsched]
      rfl
    · have hcourses : (courseLoadOf vc.currentUserSchedule).getD [] = load := by
        rw [hsched]
        show sched.courseLoad.getD [] = load
        rw [hload]
        rfl
      have hcourses' : (courseLoadOf vc'.currentUserSchedule).getD [] =
          toggle (·.id) (·.period) course load := by
        rw [hsched']
        rfl
      have hin := h.load
      have hapart := h.apart
      rw [hcourses] at hin hapart
      refine ⟨⟨?_, h.found hs, ?_, ?_⟩, ?_⟩
      · unfold courseList
        rw [hrows.school]
        exact h.catalogue
      · rw [hcourses']
        intro crs hcrs
        rcases Base.mem_of_mem_toggle hcrs with hold | rfl
        · exact hin crs hold
        · exact h.target htarget
      · rw [hcourses']
        exact Base.nodup_slots_toggle hapart course
      · unfold timetable
        rw [htarget, hcourses', hcourses]
        refine Table.ofList_toggle hapart ?_
        intro crs hcrs hid
        exact hP crs course (hin crs hcrs) (h.target htarget) hid

/-- **Run lemma.** -/
theorem Plans.run (hP : ∀ a b, P a → P b → a.id = b.id → a.period = b.period) :
    ∀ (es : List Event) {vc vc' : ChooseClassesViewController}, Plans P vc →
      (∀ e ∈ es, e.plans = true) → (machine lower).run vc es = some vc' →
      Plans P vc' ∧ timetable vc'.currentUserSchedule =
        Table.flips (·.id) (·.period) (taps lower vc es) (timetable vc.currentUserSchedule)
  | [], vc, vc', h, _, hrun => by
    obtain rfl := Option.some.inj hrun
    exact ⟨h, rfl⟩
  | e :: es, vc, vc', h, hes, hrun => by
    obtain ⟨vc₁, h₁, h₂⟩ := Option.bind_eq_some_iff.mp hrun
    have hs : vc.step lower e = some vc₁ := h₁
    obtain ⟨hplans, htable⟩ := h.step hP (hes e List.mem_cons_self) hs
    obtain ⟨hplans', htable'⟩ := Plans.run hP es hplans
      (fun e' he' => hes e' (List.mem_cons_of_mem e he')) h₂
    refine ⟨hplans', ?_⟩
    rw [htable', htable, taps_cons hs, Table.flips_append]

end ChooseClassesViewController

open ChooseClassesViewController (taps Plans)

/-- On a chooser, events of planning run the chooser. -/
theorem Flow.run_plans :
    ∀ (es : List ChooseClassesViewController.Event) {flow flow' : Flow}
      {vc : ChooseClassesViewController}, (∀ e ∈ es, e.plans = true) →
      flow.top = some (.chooseClasses vc) →
      (signUp lower).run flow (es.map fun e => .input (.chooseClasses e)) = some flow' →
      ∃ vc', flow'.top = some (.chooseClasses vc') ∧
        (ChooseClassesViewController.machine lower).run vc es = some vc'
  | [], flow, flow', vc, _, htop, hrun => by
    obtain rfl := Option.some.inj hrun
    exact ⟨vc, htop, rfl⟩
  | e :: es, flow, flow', vc, hes, htop, hrun => by
    obtain ⟨flow₁, hs, hrun⟩ := Option.bind_eq_some_iff.mp hrun
    obtain ⟨vc₁, htop₁, hvc₁⟩ : ∃ vc₁, flow₁.top = some (.chooseClasses vc₁) ∧
        vc.step lower e = some vc₁ := by
      rw [top_eq_getElem?] at htop
      have hlt := (List.getElem?_eq_some_iff.mp htop).1
      cases steps_of_step hs with
      | deliver hd hdel =>
        cases hd with
        | input hinput =>
          obtain ⟨screen, r, hi, hr, hout⟩ := hdel
          rw [htop] at hi
          obtain rfl := Option.some.inj hi
          cases Screen.handled_of_handle hr with
          | @chooseClasses _ vc₁ _ hstep =>
            -- planning performs no segue
            have hsegue : ChooseClassesViewController.segue e = none := by
              have he := hes e List.mem_cons_self
              cases e with
              | addClass | tapToContinue | facultyArrived _ _ | schoolArrived _ _
                | scheduleReturned _ _ _ _ => cases he
              | viewDidAppear | searchBarTextDidBeginEditing | searchBarTextDidChange _
                | searchBarCancelButtonClicked | searchBarTextDidEndEditing
                | didSelectRowAt _ => rfl
            exact ⟨vc₁, hout.top_of_stay (by omega) hsegue, hstep⟩
    obtain ⟨vc', htop', hvc'⟩ :=
      run_plans es (fun e' he' => hes e' (List.mem_cons_of_mem e he')) htop₁ hrun
    refine ⟨vc', htop', ?_⟩
    show (vc.step lower e).bind _ = some vc'
    rw [hvc₁]
    exact hvc'

/-- The courses on a chooser are stored. -/
theorem Flow.plans_of_reaches {store : Store} (hstore : store.Sound) {flow : Flow}
    (h : (signUp lower).Reaches (Backed store) flow) {vc : ChooseClassesViewController}
    (hvc : .chooseClasses vc ∈ flow.screens) : Plans store.HasCourse vc := by
  refine ⟨?_, ?_, ?_, ?_⟩
  · intro list hlist course hcourse
    obtain ⟨school, hschool, hlist⟩ := Option.bind_eq_some_iff.mp hlist
    exact published_of_reaches hstore h (.catalogue (.shown hvc hschool) hlist hcourse)
  · intro results hresults course hcourse
    exact published_of_reaches hstore h (.found hvc hresults hcourse)
  · intro course hcourse
    exact published_of_reaches hstore h (.scheduled hvc hcourse)
  · have hapart := periodsApart_of_reachable h.reachable _ hvc
    cases hsched : vc.currentUserSchedule with
    | none => exact List.nodup_nil
    | some sched =>
      obtain ⟨load, hload, hnodup⟩ := hapart sched hsched
      show ((sched.courseLoad.getD []).map (·.period)).Nodup
      rw [hload]
      exact hnodup

variable {ι : Type} [DecidableEq ι] {w w' : World Store ι Flow}

/-- **Refinement.** From any state of any run, let a client's user search and
tap on the chooser that is shown, while the other clients do what they like.
The timetable is then that of the courses tapped, flipped one after the other,
and still has no period twice. -/
theorem planned (h : (cloud ι lower).Reaches (Machine.Admits Firestore) w) {i : ι}
    {vc : ChooseClassesViewController} (htop : (w.clients i).top = some (.chooseClasses vc))
    {es : List (ι × Event)} {plan : List ChooseClassesViewController.Event}
    (hown : Machine.own i es = plan.map fun e => .input (.chooseClasses e))
    (hplan : ∀ e ∈ plan, e.plans = true) (hrun : (cloud ι lower).run w es = some w') :
    ∃ vc', (w'.clients i).top = some (.chooseClasses vc') ∧
      ((Screen.chooseClasses vc').courses.map (·.period)).Nodup ∧
      timetable vc'.currentUserSchedule =
        Table.flips (·.id) (·.period) (taps lower vc plan) (timetable vc.currentUserSchedule) := by
  obtain ⟨hstore, hclients⟩ := clients_backed h
  have hrun' := Machine.run_own i es hrun
  rw [hown] at hrun'
  obtain ⟨vc', htop', hvc'⟩ := Flow.run_plans plan hplan htop hrun'
  have hplans := Flow.plans_of_reaches hstore (hclients i) (List.mem_of_getLast? htop)
  have hsame : ∀ a b, w.store.HasCourse a → w.store.HasCourse b → a.id = b.id →
      a.period = b.period :=
    fun a b ha hb hid => congrArg Course.period (hstore.course_eq ha hb hid)
  obtain ⟨hplans', htable⟩ := Plans.run hsame plan hplans hplan hvc'
  exact ⟨vc', htop', hplans'.apart, htable⟩

/-- **The schedule refines a timetable.** From any state of any run, let a
client's user search and tap on the chooser that is shown, while the other
clients do what they like. A course is then selected exactly if it is in the
timetable that results from flipping the courses tapped one after the other. -/
theorem schedule_refines_timetable (h : (cloud ι lower).Reaches (Machine.Admits Firestore) w)
    {i : ι} {vc : ChooseClassesViewController}
    (htop : (w.clients i).top = some (.chooseClasses vc)) {es : List (ι × Event)}
    {plan : List ChooseClassesViewController.Event}
    (hown : Machine.own i es = plan.map fun e => .input (.chooseClasses e))
    (hplan : ∀ e ∈ plan, e.plans = true) (hrun : (cloud ι lower).run w es = some w') :
    ∃ screen, (w'.clients i).top = some screen ∧ ∀ course, course ∈ screen.courses ↔
      Table.flips (·.id) (·.period) (taps lower vc plan) (timetable vc.currentUserSchedule)
        course.period = some course := by
  obtain ⟨vc', htop', hapart', htable⟩ := planned h htop hown hplan hrun
  refine ⟨_, htop', ?_⟩
  intro course
  rw [← htable, show vc'.currentUserSchedule = (Screen.chooseClasses vc').schedule? from rfl,
    timetable_eq_some_iff hapart', and_iff_left rfl]

/-- The other client taps the course three times, and the first one closes its
alert in between. -/
def threeTaps : List (Bool × Event) :=
  [ (false, .input (.chooseClasses (.didSelectRowAt 0))), (true, .input (.addClass .ok)),
    (false, .input (.chooseClasses (.didSelectRowAt 0))),
    (false, .input (.chooseClasses (.didSelectRowAt 0))) ]

/-- What the other client does of it. -/
def threeTapsPlan : List ChooseClassesViewController.Event :=
  List.replicate 3 (.didSelectRowAt 0)

theorem threeTapsPlan_plans : ∀ e ∈ threeTapsPlan, e.plans = true := by
  intro e he
  rw [List.eq_of_mem_replicate he]
  rfl

theorem threeTaps_own :
    Machine.own false threeTaps = threeTapsPlan.map fun e => .input (.chooseClasses e) := rfl

/-- It takes the course, gives it up, and takes it again. -/
theorem schedule_refines_timetable_three_taps :
    ∃ w' screen, (cloud Bool String.toLower).run shown threeTaps = some w' ∧
      (w'.clients false).top = some screen ∧ newLatin ∈ screen.courses := by
  obtain ⟨w', hrun⟩ : ∃ w', (cloud Bool String.toLower).run shown threeTaps = some w' :=
    ⟨_, rfl⟩
  obtain ⟨vc, htop, htable⟩ : ∃ vc, (shown.clients false).top = some (.chooseClasses vc) ∧
      Table.flips (·.id) (·.period) (taps String.toLower vc threeTapsPlan)
        (timetable vc.currentUserSchedule) newLatin.period = some newLatin := ⟨_, rfl, rfl⟩
  obtain ⟨screen, hscreen, hiff⟩ := schedule_refines_timetable shown_reaches htop threeTaps_own
    threeTapsPlan_plans hrun
  exact ⟨w', screen, hrun, hscreen, (hiff newLatin).mpr htable⟩

/-- **Periods are independent.** If two ways to plan tap the same courses of each
period in the same order, they end with the same courses, whatever was searched
for in between and however the taps for different periods were interleaved. -/
theorem periods_independent (h : (cloud ι lower).Reaches (Machine.Admits Firestore) w) {i : ι}
    {vc : ChooseClassesViewController} (htop : (w.clients i).top = some (.chooseClasses vc))
    {es₁ es₂ : List (ι × Event)} {plan₁ plan₂ : List ChooseClassesViewController.Event}
    (hown₁ : Machine.own i es₁ = plan₁.map fun e => .input (.chooseClasses e))
    (hown₂ : Machine.own i es₂ = plan₂.map fun e => .input (.chooseClasses e))
    (hplan₁ : ∀ e ∈ plan₁, e.plans = true) (hplan₂ : ∀ e ∈ plan₂, e.plans = true)
    (hsame : ∀ period : Int, ((taps lower vc plan₁).filter fun c => c.period = period) =
      (taps lower vc plan₂).filter fun c => c.period = period)
    {w₁ w₂ : World Store ι Flow} (hrun₁ : (cloud ι lower).run w es₁ = some w₁)
    (hrun₂ : (cloud ι lower).run w es₂ = some w₂) :
    ∃ screen₁ screen₂, (w₁.clients i).top = some screen₁ ∧ (w₂.clients i).top = some screen₂ ∧
      screen₁.courses.Perm screen₂.courses := by
  obtain ⟨vc₁, htop₁, hapart₁, htable₁⟩ := planned h htop hown₁ hplan₁ hrun₁
  obtain ⟨vc₂, htop₂, hapart₂, htable₂⟩ := planned h htop hown₂ hplan₂ hrun₂
  refine ⟨_, _, htop₁, htop₂, (Table.ofList_eq_iff_perm hapart₁ hapart₂).mp ?_⟩
  show timetable vc₁.currentUserSchedule = timetable vc₂.currentUserSchedule
  rw [htable₁, htable₂]
  exact Table.flips_congr hsame _

/-- The same taps, after a search that is cancelled. -/
theorem periods_independent_cancelled :
    ∃ screen₁ screen₂ : Screen, screen₁.courses = [newLatin] ∧
      screen₁.courses.Perm screen₂.courses := by
  obtain ⟨w₁, screen, hrun₁, htop₁, hcourses⟩ : ∃ w₁ screen, (cloud Bool String.toLower).run
      shown threeTaps = some w₁ ∧ (w₁.clients false).top = some screen ∧
      screen.courses = [newLatin] := ⟨_, _, rfl, rfl, rfl⟩
  obtain ⟨w₂, hrun₂⟩ : ∃ w₂, (cloud Bool String.toLower).run shown
      (eventsOf false [.input (.chooseClasses .searchBarTextDidBeginEditing),
        .input (.chooseClasses .searchBarCancelButtonClicked)] ++ threeTaps) = some w₂ := ⟨_, rfl⟩
  obtain ⟨vc, htop, htaps⟩ : ∃ vc, (shown.clients false).top = some (.chooseClasses vc) ∧
      taps String.toLower vc threeTapsPlan = taps String.toLower vc
        ([.searchBarTextDidBeginEditing, .searchBarCancelButtonClicked] ++ threeTapsPlan) :=
    ⟨_, rfl, rfl⟩
  have hplan : ∀ e ∈ [.searchBarTextDidBeginEditing, .searchBarCancelButtonClicked] ++
      threeTapsPlan, e.plans = true := by
    intro e he
    rcases List.mem_append.mp he with he | he
    · rcases List.mem_pair.mp he with rfl | rfl <;> rfl
    · exact threeTapsPlan_plans e he
  obtain ⟨screen₁, screen₂, hscreen₁, -, hperm⟩ := periods_independent shown_reaches htop
    threeTaps_own rfl threeTapsPlan_plans hplan (fun _ => by rw [htaps]) hrun₁ hrun₂
  rw [htop₁] at hscreen₁
  obtain rfl := Option.some.inj hscreen₁
  exact ⟨screen, screen₂, hcourses, hperm⟩

/-- **Selected is tapped an odd number of times.** Let no rival of a course be
selected or tapped for its period. After any planning, the course is selected
exactly if it was before and was tapped an even number of times since, or was
not and it was an odd number. -/
theorem selected_iff_odd (h : (cloud ι lower).Reaches (Machine.Admits Firestore) w) {i : ι}
    {vc : ChooseClassesViewController} (htop : (w.clients i).top = some (.chooseClasses vc))
    {es : List (ι × Event)} {plan : List ChooseClassesViewController.Event}
    (hown : Machine.own i es = plan.map fun e => .input (.chooseClasses e))
    (hplan : ∀ e ∈ plan, e.plans = true) (hrun : (cloud ι lower).run w es = some w')
    {course : Course} {n : Nat}
    (hselected : ∀ c ∈ (Screen.chooseClasses vc).courses, c.period = course.period → c = course)
    (htapped : ((taps lower vc plan).filter fun c => c.period = course.period) =
      List.replicate n course) :
    ∃ screen, (w'.clients i).top = some screen ∧
      (course ∈ screen.courses ↔ (course ∈ (Screen.chooseClasses vc).courses ↔ Even n)) := by
  obtain ⟨vc', htop', hapart', htable⟩ := planned h htop hown hplan hrun
  have hapart : ((Screen.chooseClasses vc).courses.map (·.period)).Nodup := by
    obtain ⟨hstore, hclients⟩ := clients_backed h
    exact (Flow.plans_of_reaches hstore (hclients i) (List.mem_of_getLast? htop)).apart
  refine ⟨_, htop', ?_⟩
  have hafter : timetable (Screen.chooseClasses vc').schedule? course.period =
      Table.presses (·.id) (List.replicate n course)
        (timetable (Screen.chooseClasses vc).schedule? course.period) := by
    rw [← htapped, ← Table.flips_apply]
    exact congrFun htable course.period
  have hmem : course ∈ (Screen.chooseClasses vc').courses ↔
      timetable (Screen.chooseClasses vc').schedule? course.period = some course := by
    rw [timetable_eq_some_iff hapart', and_iff_left rfl]
  rw [hmem, hafter]
  obtain ⟨hnone, hsome⟩ := Table.presses_replicate (fun c : Course => c.id) course n
  by_cases hbefore : course ∈ (Screen.chooseClasses vc).courses
  · rw [(timetable_eq_some_iff hapart).mpr ⟨hbefore, rfl⟩, hsome]
    by_cases hn : Even n <;> simp [hn, hbefore]
  · have hfree : timetable (Screen.chooseClasses vc).schedule? course.period = none := by
      rw [timetable_eq_none_iff]
      intro c hc hperiod
      rw [hselected c hc hperiod] at hc
      exact hbefore hc
    rw [hfree, hnone]
    by_cases hn : Even n <;> simp [hn, hbefore]

theorem selected_iff_odd_three_taps :
    ∃ w' screen, (cloud Bool String.toLower).run shown threeTaps = some w' ∧
      (w'.clients false).top = some screen ∧
      (newLatin ∈ screen.courses ↔ (newLatin ∈ ([] : List Course) ↔ Even 3)) := by
  obtain ⟨w', hrun⟩ : ∃ w', (cloud Bool String.toLower).run shown threeTaps = some w' :=
    ⟨_, rfl⟩
  obtain ⟨vc, htop, hcourses, htaps⟩ : ∃ vc, (shown.clients false).top = some (.chooseClasses vc) ∧
      (Screen.chooseClasses vc).courses = [] ∧
      taps String.toLower vc threeTapsPlan = List.replicate 3 newLatin := ⟨_, rfl, rfl, rfl⟩
  have htapped : ((taps String.toLower vc threeTapsPlan).filter
      fun c => c.period = newLatin.period) = List.replicate 3 newLatin := by
    rw [htaps]
    rfl
  obtain ⟨screen, hscreen, hiff⟩ := selected_iff_odd shown_reaches htop threeTaps_own
    threeTapsPlan_plans hrun (by intro c hc; rw [hcourses] at hc; cases hc) htapped
  rw [hcourses] at hiff
  exact ⟨w', screen, hrun, hscreen, hiff⟩

end Scholarli
