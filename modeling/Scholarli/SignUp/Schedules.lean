import Scholarli.SignUp.Provenance

/-!
# No period and no course twice

A schedule is a roster: its courses have pairwise different ids and pairwise
different periods. Along the origins of schedules this is a case analysis:
they are made empty, changed by taps (`Base.toggle`, which keeps a roster) and
by the class form's alert, and copied from screen to screen.

The alert is the delicate one: the course was built by an earlier tap, and
the handler checks its period but not its id. `Screen.Tidy` therefore also
says of a form with an alert that the new id does not occur in its schedule;
this is where the freshness of generated document ids comes in (`FreshIds`),
and it lasts because the form's schedule does not change while the alert is
up.
-/

namespace Scholarli

open Base (Machine Roster toggle)

variable {lower : String → String}

/-- A schedule that is there has a course load without a period or an id
occurring twice. -/
def TidySchedule (schedule : Option Schedule) : Prop :=
  ∀ sched, schedule = some sched →
    ∃ load, sched.courseLoad = some load ∧
      Roster (fun c : Course => c.id) (fun c : Course => c.period) load

/-- Firestore's document ids are fresh: the id of a submitted class is not that
of any course on any screen. -/
def FreshIds (flow : Flow) : Event → Prop
  | .input (.addClass (.addClass documentID)) =>
    ∀ screen ∈ flow.screens, ∀ course ∈ screen.courses, course.id ≠ documentID
  | _ => True

/-- The screen's schedule is tidy, and stays so if a pending alert's course is
appended. -/
structure Screen.Tidy (screen : Screen) : Prop where
  schedule : TidySchedule screen.schedule?
  alert : ∀ vc newCrs, screen = .addClass vc → vc.successAlert = some (some newCrs) →
    ∀ course ∈ screen.courses, course.id ≠ newCrs.id

/-! ## One handler -/

theorem TidySchedule.toggle {sched : Schedule} {load : List Course} (course : Course)
    (h : TidySchedule (some sched)) (hload : sched.courseLoad = some load) :
    TidySchedule (some { sched with
      courseLoad := some (toggle (·.id) (·.period) course load) }) := by
  obtain ⟨load', hload', hroster⟩ := h sched rfl
  rw [hload] at hload'
  obtain rfl := Option.some.inj hload'
  intro sched' hsched'
  obtain rfl := Option.some.inj hsched'
  exact ⟨_, rfl, hroster.toggle course⟩

/-- The check of the alert's handler keeps the periods apart; the ids are
apart by assumption. -/
theorem TidySchedule.appendCourse {schedule : Option Schedule} {newCrs : Course}
    (h : TidySchedule schedule)
    (hid : ∀ course ∈ (courseLoadOf schedule).getD [], course.id ≠ newCrs.id)
    (hverify : verifyNewCourseToSchedule newCrs schedule = true) :
    TidySchedule (appendCourse schedule newCrs) := by
  intro sched' hsched'
  obtain ⟨sched, rfl, rfl⟩ := Option.map_eq_some_iff.mp hsched'
  obtain ⟨load, hload, hroster⟩ := h sched rfl
  refine ⟨load ++ [newCrs], by rw [hload]; rfl, ?_⟩
  refine hroster.concat ?_ ((verifyNewCourseToSchedule_some_iff hload newCrs).mp hverify)
  intro course hmem
  refine hid course ?_
  show course ∈ sched.courseLoad.getD []
  rw [hload]
  exact hmem

/-- A new load is empty, and every change of one keeps it tidy. -/
theorem Flow.Origin.tidy {flow : Flow} {schedule : Option Schedule}
    (horigin : flow.Origin schedule) (h : ∀ screen ∈ flow.screens, screen.Tidy) :
    TidySchedule schedule := by
  cases horigin with
  | none =>
    intro sched hsched
    cases hsched
  | kept hscreen => exact (h _ hscreen).schedule
  | arrived _ _ =>
    intro sched hsched
    obtain rfl := Option.some.inj hsched
    exact ⟨[], rfl, Roster.nil⟩
  | @tapped vc row sched load course hvc hsched hload _ =>
    have htidy : TidySchedule vc.currentUserSchedule := (h _ hvc).schedule
    rw [hsched] at htidy
    exact htidy.toggle course hload
  | @confirmed vc newCrs hvc halert hverify =>
    -- the handler checks the period; the id is fresh since the alert went up
    have htidy := h _ hvc
    exact htidy.schedule.appendCourse (htidy.alert vc newCrs rfl halert) hverify

namespace Screen

/-- An alert goes up for a fresh id, and the schedule stays until it is down. -/
theorem handle_alert {screen : Screen} {newUserData : Data} {e : ScreenEvent}
    {r : Reaction Screen}
    (hfresh : ∀ documentID, e = .addClass (.addClass documentID) →
      ∀ course ∈ screen.courses, course.id ≠ documentID)
    (hr : screen.handle lower newUserData e = some r) {vc' : AddClassViewController}
    {newCrs : Course} (hvc' : r.vc = .addClass vc')
    (halert : vc'.successAlert = some (some newCrs)) :
    ∀ course ∈ r.vc.courses, course.id ≠ newCrs.id := by
  cases handled_of_handle hr with
  | userInfo _ | security _ _ | schoolSelector _ | chooseClasses _ => cases hvc'
  | @addClass vc vc₁ ae hs =>
    obtain rfl : vc₁ = vc' := Screen.addClass.inj hvc'
    rcases AddClassViewController.step_cases hs with ⟨_, -, -, rfl⟩ | ⟨-, hsame, hid⟩
    · cases halert
    · obtain rfl := hid newCrs halert
      show ∀ course ∈ (courseLoadOf vc₁.scheduleToReturn).getD [], _
      rw [hsame.schedule]
      exact hfresh newCrs.id rfl

theorem tidy_of_schedule?_eq_none {screen : Screen} (h : screen.schedule? = none) :
    screen.Tidy := by
  refine ⟨?_, ?_⟩
  · intro sched hsched
    rw [h] at hsched
    exact nomatch hsched
  · intro vc newCrs _ _ course hmem
    unfold courses at hmem
    rw [h] at hmem
    exact nomatch hmem

/-- A form is presented without an alert. -/
theorem destination_successAlert {source : Screen} {identifier : String} {scene : Scene}
    {vc : AddClassViewController} (h : source.destination identifier scene = .addClass vc) :
    vc.successAlert = none := by
  cases scene with
  | addClass =>
    cases source with
    | chooseClasses cc =>
      obtain rfl := Screen.addClass.inj h
      show (cc.prepareAddClass identifier {}).successAlert = none
      unfold ChooseClassesViewController.prepareAddClass
      split
      next => rfl
      next => rfl
    | userInfo _ | security _ | schoolSelector _ | addClass _ | finalSetup =>
      obtain rfl := Screen.addClass.inj h
      rfl
  | userInfo | security | schoolSelector | chooseClasses | finalSetup => cases h

end Screen

/-! ## Steps and runs -/

namespace Flow

/-- **Step lemma.** The schedules are tidy by their origin; what is left is the
alert, which only a submission puts up. -/
theorem step_tidy {flow flow' : Flow} {e : Event} (h : ∀ s ∈ flow.screens, s.Tidy)
    (hok : FreshIds flow e) (hs : flow.step lower e = some flow') :
    ∀ s ∈ flow'.screens, s.Tidy := by
  suffices halert : ∀ s ∈ flow'.screens, ∀ vc newCrs, s = .addClass vc →
      vc.successAlert = some (some newCrs) → ∀ course ∈ s.courses, course.id ≠ newCrs.id from
    fun s hmem => ⟨(origin_of_step hs s hmem).tidy h, halert s hmem⟩
  cases steps_of_step hs with
  | silent _ _ => exact fun s hmem => (h s hmem).alert
  | deliver hd hdeliver =>
    refine hdeliver.forall_screens (P := fun s => ∀ vc newCrs, s = .addClass vc →
      vc.successAlert = some (some newCrs) → ∀ course ∈ s.courses, course.id ≠ newCrs.id) ?_ ?_ ?_
    · intro s hmem
      rw [hd.screens_eq] at hmem
      exact (h s hmem).alert
    · intro screen hscreen r hr vc' newCrs hvc' halert
      refine Screen.handle_alert ?_ hr hvc' halert
      intro documentID hse
      subst hse
      cases hd with
      | input _ => exact hok screen hscreen
      | callback _ hc => cases hc
    · intro source identifier scene _ _ vc newCrs hvc halert
      rw [Screen.destination_successAlert hvc] at halert
      cases halert

/-- **Run lemma.** -/
theorem tidy_of_reaches {flow : Flow} (h : (signUp lower).Reaches FreshIds flow) :
    ∀ s ∈ flow.screens, s.Tidy := by
  refine h.invariant (P := fun flow => ∀ s ∈ flow.screens, s.Tidy) ?_
    fun _ _ _ hinv hok hs => step_tidy hinv hok hs
  intro flow hinit s hs
  obtain rfl : flow = launch := hinit
  rw [mem_launch_screens hs]
  exact Screen.tidy_of_schedule?_eq_none rfl

/-- **No period and no course twice**, in any schedule on any screen, in every
state of every run in which generated document ids are fresh. -/
theorem schedules_tidy {flow : Flow} (h : (signUp lower).Reaches FreshIds flow) :
    (∀ cc, .chooseClasses cc ∈ flow.screens → TidySchedule cc.currentUserSchedule) ∧
    (∀ ac, .addClass ac ∈ flow.screens → TidySchedule ac.scheduleToReturn) :=
  ⟨fun _ hcc => (tidy_of_reaches h _ hcc).schedule,
    fun _ hac => (tidy_of_reaches h _ hac).schedule⟩

/-- A tap selects the first course of the catalogue, and the class form is
filled in for another one. -/
def toFilledForm : List Event :=
  toChooser ++
    ([ .documents 1 [preCalculus.document],
      .input (.chooseClasses .viewDidAppear),
      .input (.chooseClasses (.didSelectRowAt 0)),
      .input (.chooseClasses .addClass),
      .documents 1 [kappel.document],
      .input (.addClass (.editClassTitle "Latin")),
      .input (.addClass .teacher),
      .input (.addClass (.pickerDidSelectRow 0)),
      .input (.addClass .period),
      .input (.addClass (.pickerDidSelectRow 2)) ] : List Event)

/-- The form is submitted and its alert confirmed; the schedule returns. -/
def submitAndReturn : List Event :=
  [.input (.addClass (.addClass "c2")), .input (.addClass .ok), .documents 1 []]

/-- The event submits a class. -/
def isSubmission : Event → Bool
  | .input (.addClass (.addClass _)) => true
  | _ => false

theorem freshIds_of_not_isSubmission {flow : Flow} {e : Event} (h : isSubmission e = false) :
    FreshIds flow e := by
  unfold FreshIds
  split
  next => exact nomatch h
  next => trivial

/-- Two courses make it to the new chooser, one tapped and one submitted. -/
theorem schedules_tidy_two_courses :
    ∃ flow cc, (signUp String.toLower).Reaches FreshIds flow ∧
      flow.screens[5]? = some (.chooseClasses cc) ∧
      (courseLoadOf cc.currentUserSchedule).map List.length = some 2 ∧
      TidySchedule cc.currentUserSchedule := by
  have hplain : ∀ es : List Event, es.all (fun e => !isSubmission e) = true →
      ∀ e ∈ es, ∀ flow, FreshIds flow e := by
    intro es hes e he flow
    refine freshIds_of_not_isSubmission ?_
    simpa using List.all_eq_true.mp hes e he
  have h₁ : (signUp String.toLower).Reaches FreshIds (after toFilledForm) :=
    Machine.run_reaches toFilledForm (hplain _ rfl) (.init rfl) rfl
  have hfresh : FreshIds (after toFilledForm) (.input (.addClass (.addClass "c2"))) := by
    have hids : (after toFilledForm).screens.flatMap (fun s => s.courses.map (·.id)) =
        ["c1", "c1"] := rfl
    intro screen hscreen course hcourse heq
    have hmem : "c2" ∈ (after toFilledForm).screens.flatMap fun s => s.courses.map (·.id) :=
      List.mem_flatMap.mpr ⟨screen, hscreen, heq ▸ List.mem_map_of_mem hcourse⟩
    rw [hids] at hmem
    exact absurd hmem (by decide)
  have h₂ := h₁.step hfresh rfl
  have h₃ : (signUp String.toLower).Reaches FreshIds (after (toFilledForm ++ submitAndReturn)) :=
    Machine.run_reaches [.input (.addClass .ok), .documents 1 []] (hplain _ rfl) h₂ rfl
  exact ⟨_, _, h₃, rfl, rfl, (schedules_tidy h₃).1 _ (List.mem_of_getElem? (i := 5) rfl)⟩

end Flow

end Scholarli
