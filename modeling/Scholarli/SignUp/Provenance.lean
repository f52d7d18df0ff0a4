import Scholarli.SignUp.Flow

/-!
# Where schedules come from

A step of the flow touches one screen and may present another, and three
things change a schedule on the way: a school arrives, a course is tapped, a
class is confirmed. Everything else copies a schedule from one screen to
another, or leaves it alone. `Origin` lists the sources, with the guards that
were passed, and `origin_of_step` is the inversion: every schedule on every
screen after a step has one of them.

An invariant of schedules is then a case analysis with five cases. The first
one is that the periods of a load are distinct: they are checked both by a
tap and by the class form (`periodsApart_of_reachable`).
-/

namespace Scholarli

open Base (Machine toggle)

variable {lower : String → String}

/-- The schedule a screen holds. -/
def Screen.schedule? : Screen → Option Schedule
  | .chooseClasses vc => vc.currentUserSchedule
  | .addClass vc => vc.scheduleToReturn
  | _ => none

/-- The courses a screen holds. -/
def Screen.courses (screen : Screen) : List Course :=
  (courseLoadOf screen.schedule?).getD []

namespace Flow

/-- The sources of the schedules after a step. -/
inductive Origin (flow : Flow) : Option Schedule → Prop
  | none : Origin flow none
  | kept {screen : Screen} (h : screen ∈ flow.screens) : Origin flow screen.schedule?
  | arrived {request : Request} {school : School} (hrequest : request ∈ flow.requests)
      (hcall : request.call = .courseListForChooseClasses school) :
      Origin flow
        (some { maxCourseCount := school.maxStudentCourseLoad, courseLoad := some [] })
  | tapped {vc : ChooseClassesViewController} {row : Nat} {sched : Schedule}
      {load : List Course} {course : Course} (hvc : .chooseClasses vc ∈ flow.screens)
      (hsched : vc.currentUserSchedule = some sched) (hload : sched.courseLoad = some load)
      (htarget : vc.tapTarget row = some course) :
      Origin flow
        (some { sched with courseLoad := some (toggle (·.id) (·.period) course load) })
  | confirmed {vc : AddClassViewController} {newCrs : Course}
      (hvc : .addClass vc ∈ flow.screens) (halert : vc.successAlert = some (some newCrs))
      (hverify : verifyNewCourseToSchedule newCrs vc.scheduleToReturn = true) :
      Origin flow (appendCourse vc.scheduleToReturn newCrs)

/-- What the callback of a return query reads is on a screen, if it is there. -/
theorem origin_scheduleToReturn (flow : Flow) (caller : Nat) :
    Origin flow (flow.scheduleToReturn caller) := by
  unfold scheduleToReturn
  split
  next vc hvc =>
    show Origin flow (Screen.addClass vc).schedule?
    exact .kept (List.mem_of_getElem? hvc)
  next => exact .none

/-- A presentation passes a schedule on, or starts without one. -/
theorem destination_schedule? (source : Screen) (identifier : String) (scene : Scene) :
    (source.destination identifier scene).schedule? = source.schedule? ∨
    (source.destination identifier scene).schedule? = none := by
  cases scene with
  | addClass =>
    cases source with
    | chooseClasses vc =>
      show (vc.prepareAddClass identifier {}).scheduleToReturn = _ ∨
        (vc.prepareAddClass identifier {}).scheduleToReturn = none
      unfold ChooseClassesViewController.prepareAddClass
      split
      next => exact Or.inl rfl
      next => exact Or.inr rfl
    | userInfo vc | security vc | schoolSelector vc | addClass vc | finalSetup =>
      exact Or.inr rfl
  | userInfo | security | schoolSelector | chooseClasses | finalSetup => exact Or.inr rfl

/-- The schedule of a screen that handled the event of a step. -/
theorem Dispatches.origin {flow flow₀ : Flow} {e : Event} {i : Nat} {se : ScreenEvent}
    (hd : Dispatches flow e flow₀ i se) {screen : Screen} (hscreen : screen ∈ flow.screens)
    {newUserData : Data} {r : Reaction Screen}
    (hr : screen.handle lower newUserData se = some r) : Origin flow r.vc.schedule? := by
  cases Screen.handled_of_handle hr with
  | userInfo _ | security _ _ | schoolSelector _ => exact .none
  | @chooseClasses vc vc' ce h =>
    cases ChooseClassesViewController.scheduleStep_of_step h with
    | arrived school crsList heq =>
      rw [show Screen.schedule? (.chooseClasses vc') = _ from heq]
      cases hd with
      | input hinput => cases hinput
      | callback hk hc =>
        cases hc with
        | chooseClasses => exact .arrived (List.mem_of_getElem? hk) rfl
    | returned identifier school crsList schedule heq =>
      rw [show Screen.schedule? (.chooseClasses vc') = _ from heq]
      cases hd with
      | input hinput => cases hinput
      | callback _ hc =>
        cases hc with
        | returned _ _ caller _ _ => exact origin_scheduleToReturn flow caller
    | tapped hsched hload htarget heq =>
      rw [show Screen.schedule? (.chooseClasses vc') = _ from heq]
      exact .tapped hscreen hsched hload htarget
    | kept _ _ heq =>
      rw [show Screen.schedule? (.chooseClasses vc') = _ from heq]
      exact .kept hscreen
  | @addClass vc vc' ae h =>
    rcases AddClassViewController.step_cases h with ⟨newCrs, -, halert, rfl⟩ | ⟨-, hsame, -⟩
    · show Origin flow (if verifyNewCourseToSchedule newCrs vc.scheduleToReturn then
        appendCourse vc.scheduleToReturn newCrs else vc.scheduleToReturn)
      split
      next hverify => exact .confirmed hscreen halert hverify
      next => exact .kept hscreen
    · rw [show Screen.schedule? (.addClass vc') = _ from hsame.schedule]
      exact .kept hscreen

/-- **Inversion**, as far as schedules go. -/
theorem origin_of_step {flow flow' : Flow} {e : Event} (hs : flow.step lower e = some flow') :
    ∀ screen ∈ flow'.screens, Origin flow screen.schedule? := by
  cases steps_of_step hs with
  | silent _ _ => exact fun screen hscreen => .kept hscreen
  | deliver hd hdeliver =>
    refine hdeliver.forall_screens (P := fun screen => Origin flow screen.schedule?) ?_ ?_ ?_
    · intro screen hscreen
      rw [hd.screens_eq] at hscreen
      exact .kept hscreen
    · intro screen hscreen r hr
      rw [hd.screens_eq] at hscreen
      exact hd.origin hscreen hr
    · intro source identifier scene hsource _
      rcases destination_schedule? source identifier scene with heq | heq
      · rw [heq]
        exact hsource
      · rw [heq]
        exact .none

/-- **Invariant rule for schedules.** -/
theorem schedules_of_reaches {ok : Flow → Event → Prop} {P : Option Schedule → Prop}
    (hnone : P none)
    (hstep : ∀ flow e schedule, (signUp lower).Reaches ok flow → ok flow e →
      (∀ screen ∈ flow.screens, P screen.schedule?) → Origin flow schedule → P schedule)
    {flow : Flow} (h : (signUp lower).Reaches ok flow) :
    ∀ screen ∈ flow.screens, P screen.schedule? := by
  induction h with
  | init hinit =>
    obtain rfl : _ = launch := hinit
    intro screen hscreen
    rw [mem_launch_screens hscreen]
    exact hnone
  | step hreach hok hs ih =>
    intro screen hscreen
    exact hstep _ _ _ hreach hok ih (origin_of_step hs screen hscreen)

end Flow

/-! ## Distinct periods -/

/-- A schedule that is there has a course load without a period occurring
twice. -/
def PeriodsApart (schedule : Option Schedule) : Prop :=
  ∀ sched, schedule = some sched →
    ∃ load, sched.courseLoad = some load ∧ (load.map (·.period)).Nodup

theorem PeriodsApart.appendCourse {schedule : Option Schedule} {newCrs : Course}
    (h : PeriodsApart schedule)
    (hverify : verifyNewCourseToSchedule newCrs schedule = true) :
    PeriodsApart (appendCourse schedule newCrs) := by
  intro sched' hsched'
  obtain ⟨sched, rfl, rfl⟩ := Option.map_eq_some_iff.mp hsched'
  obtain ⟨load, hload, hnodup⟩ := h sched rfl
  refine ⟨load ++ [newCrs], by rw [hload]; rfl, ?_⟩
  exact Base.nodup_map_concat hnodup
    ((verifyNewCourseToSchedule_some_iff hload newCrs).mp hverify)

theorem Flow.Origin.periodsApart {flow : Flow} {schedule : Option Schedule}
    (horigin : flow.Origin schedule)
    (h : ∀ screen ∈ flow.screens, PeriodsApart screen.schedule?) : PeriodsApart schedule := by
  cases horigin with
  | none =>
    intro sched hsched
    cases hsched
  | kept hscreen => exact h _ hscreen
  | arrived _ _ =>
    intro sched hsched
    obtain rfl := Option.some.inj hsched
    exact ⟨[], rfl, List.nodup_nil⟩
  | tapped hvc hsched hload _ =>
    intro sched' hsched'
    obtain rfl := Option.some.inj hsched'
    obtain ⟨load', hload', hnodup⟩ := h _ hvc _ hsched
    rw [hload] at hload'
    obtain rfl := Option.some.inj hload'
    exact ⟨_, rfl, Base.nodup_slots_toggle hnodup _⟩
  | confirmed hvc _ hverify => exact (h _ hvc).appendCourse hverify

/-- In every reachable state the periods of every load are distinct. -/
theorem periodsApart_of_reachable {flow : Flow} (h : (signUp lower).Reachable flow) :
    ∀ screen ∈ flow.screens, PeriodsApart screen.schedule? := by
  refine Flow.schedules_of_reaches ?_ ?_ h
  · intro sched hsched
    cases hsched
  · intro flow e schedule _ _ hinv horigin
    exact horigin.periodsApart hinv

end Scholarli
