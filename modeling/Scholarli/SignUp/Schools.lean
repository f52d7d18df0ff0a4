import Scholarli.SignUp.SchoolChoice
import Scholarli.Database.Handlers

/-!
# Where schools come from

A school is a struct: every screen, the record and every query in flight have
their own copy. A copy starts with a selection, and from there it is passed on
as it is, or gets the list that was fetched for it: its catalogue or its
staff. `SchoolOrigin` lists this and `schoolOrigin_of_step` is the inversion:
every school held after a step has one of these origins.

`schools_of_reaches` is the invariant rule. `catalogueless_of_reachable` says
what a selected school looks like: it was decoded from the school list and
has no catalogue yet.
-/

namespace Scholarli

open Base (Machine)

variable {lower : String → String}

/-- The school that a query is about. -/
def Call.about? : Call → Option School
  | .courseListForNewUser school => some school
  | call => call.school?

/-- The school whose catalogue a query asks for. -/
def Call.catalogue? : Call → Option School
  | .courseListForNewUser school => some school
  | .courseListForChooseClasses school => some school
  | .courseListForReturn _ school => some school
  | _ => none

theorem Call.about?_of_catalogue? {call : Call} {school : School}
    (h : call.catalogue? = some school) : call.about? = some school := by
  cases call with
  | courseListForNewUser _ | courseListForChooseClasses _ | courseListForReturn _ _ => exact h
  | verifyUsername _ | getSchoolList | getFaculty _ => cases h

/-- The school that a screen holds, be it selected or handed over. -/
def Screen.held? : Screen → Option School
  | .schoolSelector vc => vc.currentSelection
  | screen => screen.school?

namespace Flow

/-- There is a copy of the school. -/
inductive Holds (flow : Flow) (school : School) : Prop
  | recorded (h : schoolOf flow.newUserData = some school)
  | shown {screen : Screen} (hscreen : screen ∈ flow.screens) (h : screen.held? = some school)
  | queried {request : Request} (hrequest : request ∈ flow.requests)
      (h : request.call.about? = some school)

/-- The sources of the schools after a step. -/
inductive SchoolOrigin (flow : Flow) (e : Event) (flow' : Flow) : School → Prop
  | kept {school : School} (h : flow.Holds school) : SchoolOrigin flow e flow' school
  | picked {vc : SchoolSelectorViewController} {school : School}
      (hvc : .schoolSelector vc ∈ flow'.screens) (h : vc.currentSelection = some school) :
      SchoolOrigin flow e flow' school
  | staffed {school : School} (staff : Option (List Faculty)) (h : flow.Holds school) :
      SchoolOrigin flow e flow' { school with staff }
  | catalogued {k : Nat} {r : DocumentsResponse} {request : Request} {school : School}
      {crsList : List Course} (he : e = .answer k (.documents r))
      (hk : flow.requests[k]? = some request) (hcall : request.call.catalogue? = some school)
      (hr : getCourseList r = some crsList) :
      SchoolOrigin flow e flow' { school with courseList := some crsList }

theorem holds_of_settle {flow : Flow} {k : Nat} {school : School}
    (h : (flow.settle k).Holds school) : flow.Holds school := by
  cases h with
  | recorded h => exact .recorded h
  | shown hscreen h => exact .shown hscreen h
  | queried hrequest h => exact .queried (List.mem_of_mem_eraseIdx hrequest) h

theorem Dispatches.holds {flow flow₀ : Flow} {e : Event} {i : Nat} {se : ScreenEvent}
    (hd : Dispatches flow e flow₀ i se) {school : School} (h : flow₀.Holds school) :
    flow.Holds school := by
  cases hd with
  | input _ => exact h
  | callback _ _ => exact holds_of_settle h

section Reaction

variable {flow flow₀ flow' : Flow} {e : Event} {i : Nat} {se : ScreenEvent} {screen : Screen}
  {r : Reaction Screen} {school : School}

/-- The school of the screen that reacts. -/
theorem Dispatches.shown_origin (hd : Dispatches flow e flow₀ i se)
    (hi : flow₀.screens[i]? = some screen)
    (hr : screen.handle lower flow₀.newUserData se = some r) (hout : Outcome flow₀ i r flow')
    (h : r.vc.held? = some school) : SchoolOrigin flow e flow' school := by
  have hscreen : screen ∈ flow.screens := by
    rw [← hd.screens_eq]
    exact List.mem_of_getElem? hi
  have hnew := List.mem_of_getElem? (hout.getElem?_self hi)
  cases Screen.handled_of_handle hr with
  | userInfo _ | security _ _ => cases h
  | schoolSelector _ => exact .picked hnew h
  | @chooseClasses vc vc' ce hstep =>
    replace h : vc'.userSchool = some school := h
    cases ChooseClassesViewController.schoolStep_of_step hstep with
    | staffed fetched facList heq =>
      rw [heq] at h
      obtain rfl := Option.some.inj h
      cases hd with
      | input hinput => cases hinput
      | callback hk hc =>
        cases hc with
        | faculty => exact .staffed _ (.queried (List.mem_of_getElem? hk) rfl)
    | arrived fetched crsList heq =>
      rw [heq] at h
      obtain rfl := Option.some.inj h
      cases hd with
      | input hinput => cases hinput
      | callback hk hc =>
        cases hc with
        | chooseClasses _ _ _ hlist => exact .catalogued rfl hk rfl hlist
    | returned identifier fetched crsList schedule heq =>
      rw [heq] at h
      obtain rfl := Option.some.inj h
      cases hd with
      | input hinput => cases hinput
      | callback hk hc =>
        cases hc with
        | returned _ _ _ _ hlist => exact .catalogued rfl hk rfl hlist
    | kept heq =>
      rw [heq] at h
      exact .kept (.shown hscreen h)
  | @addClass vc vc' ae hstep =>
    replace h : vc'.school = some school := h
    rcases AddClassViewController.step_cases hstep with ⟨newCrs, -, -, rfl⟩ | ⟨-, hsame, -⟩
    · exact .kept (.shown hscreen h)
    · obtain ⟨old, staff, hold, rfl⟩ := hsame.exists_staff h
      exact .staffed staff (.shown hscreen hold)

/-- The school that the reaction records: one that is selected, or that a
second write puts there with its catalogue. -/
theorem Dispatches.recorded_origin (hd : Dispatches flow e flow₀ i se)
    (hi : flow₀.screens[i]? = some screen)
    (hr : screen.handle lower flow₀.newUserData se = some r) (hout : Outcome flow₀ i r flow')
    (h : schoolOf r.newUserData = some school) : SchoolOrigin flow e flow' school := by
  have hnew := List.mem_of_getElem? (hout.getElem?_self hi)
  by_cases hscene : screen.scene = .schoolSelector
  · cases Screen.handled_of_handle hr with
    | userInfo _ | security _ _ | chooseClasses _ | addClass _ => cases hscene
    | schoolSelector hhandle =>
      cases SchoolSelectorViewController.handles_of_handle hhandle with
      | select selected hcurrent _ =>
        have h : schoolOf (SchoolSelectorViewController.writeSchool _ (some selected)) = _ := h
        rw [SchoolSelectorViewController.schoolOf_writeSchool] at h
        exact .picked hnew (hcurrent.trans h)
      | keep _ _ => exact .kept (hd.holds (.recorded h))
      | rewrite skewl crsList =>
        have h : schoolOf (SchoolSelectorViewController.writeSchool _
          (some { skewl with courseList := some crsList })) = _ := h
        rw [SchoolSelectorViewController.schoolOf_writeSchool] at h
        obtain rfl := Option.some.inj h
        cases hd with
        | input hinput => cases hinput
        | callback hk hc =>
          cases hc with
          | newUser _ _ _ hlist => exact .catalogued rfl hk rfl hlist
  · rw [Screen.handle_schoolOf hr hscene] at h
    exact .kept (hd.holds (.recorded h))

/-- The schools of the queries that the handler starts. -/
theorem Dispatches.queried_origin (hd : Dispatches flow e flow₀ i se)
    (hi : flow₀.screens[i]? = some screen)
    (hr : screen.handle lower flow₀.newUserData se = some r) (hout : Outcome flow₀ i r flow')
    {call : Call} (hcall : call ∈ r.calls) (h : call.about? = some school) :
    SchoolOrigin flow e flow' school := by
  rcases Screen.handle_calls hr hcall with ⟨-, username, rfl, -⟩ | ⟨hscene, picked, rfl⟩ |
    ⟨-, recorded, rfl, hrecorded⟩
  · cases h
  · -- a selection is queried as it is made
    obtain rfl := Option.some.inj h
    have hnew := List.mem_of_getElem? (hout.getElem?_self hi)
    cases Screen.handled_of_handle hr with
    | userInfo _ | security _ _ | chooseClasses _ | addClass _ => cases hscene
    | schoolSelector hhandle =>
      cases SchoolSelectorViewController.handles_of_handle hhandle with
      | select selected hcurrent _ =>
        obtain ⟨rfl⟩ : Call.courseListForNewUser picked = .courseListForNewUser selected :=
          List.mem_singleton.mp hcall
        exact .picked hnew hcurrent
      | keep _ _ => cases hcall
      | rewrite _ _ => cases hcall
  · obtain rfl := Option.some.inj h
    exact hd.recorded_origin hi hr hout hrecorded

end Reaction

theorem destination_held? {source : Screen} {identifier : String} {scene : Scene}
    {school : School} (h : (source.destination identifier scene).held? = some school) :
    source.held? = some school := by
  have hschool : (source.destination identifier scene).school? = some school := by
    cases scene with
    | schoolSelector => cases h
    | addClass => cases source <;> exact h
    | userInfo | security | chooseClasses | finalSetup => exact h
  have hsource := Screen.destination_school? hschool
  cases source with
  | chooseClasses _ | addClass _ => exact hsource
  | userInfo _ | security _ | schoolSelector _ | finalSetup => cases hsource

/-- **Inversion**, as far as schools go. -/
theorem schoolOrigin_of_step {flow flow' : Flow} {e : Event}
    (hs : flow.step lower e = some flow') {school : School} (h : flow'.Holds school) :
    SchoolOrigin flow e flow' school := by
  cases steps_of_step hs with
  | silent _ _ => exact .kept (holds_of_settle h)
  | deliver hd hdel =>
    obtain ⟨screen, r, hi, hr, hout⟩ := hdel
    cases h with
    | recorded h =>
      refine hd.recorded_origin hi hr hout ?_
      rcases hout.newUserData_cases with ⟨-, heq⟩ | ⟨identifier, scene, -, -, heq⟩
      · rw [← heq]
        exact h
      · rw [heq, Screen.prepare_schoolOf] at h
        exact h
    | shown hscreen h =>
      obtain ⟨j, hj⟩ := List.mem_iff_getElem?.mp hscreen
      rcases hout.screen_cases hj with ⟨-, hold⟩ | ⟨-, rfl⟩ |
        ⟨-, -, identifier, scene, -, -, rfl⟩
      · exact .kept (hd.holds (.shown (List.mem_of_getElem? hold) h))
      · exact hd.shown_origin hi hr hout h
      · exact hd.shown_origin hi hr hout (destination_held? h)
    | queried hrequest h =>
      rcases hout.request_cases hrequest with hold | ⟨call, hcall, rfl⟩ |
        ⟨identifier, scene, -, -, -, ⟨call, hcall, rfl⟩ | ⟨call, hcall, rfl⟩⟩
      · exact .kept (hd.holds (.queried hold h))
      · exact hd.queried_origin hi hr hout hcall h
      · rcases Screen.mem_prepareCalls hcall with ⟨vc, selected, hvc, hselected, rfl⟩ |
          ⟨vc, recorded, -, hrecorded, rfl⟩
        · obtain rfl := Option.some.inj h
          refine hd.shown_origin hi hr hout ?_
          rw [hvc]
          exact hselected
        · obtain rfl := Option.some.inj h
          rw [Screen.prepare_schoolOf] at hrecorded
          exact hd.recorded_origin hi hr hout hrecorded
      · rw [(Screen.mem_loadCalls hcall).2] at h
        cases h

/-- **Invariant rule for schools.** -/
theorem schools_of_reaches {ok : Flow → Event → Prop} {P : School → Prop}
    (hstep : ∀ flow e flow' school, (signUp lower).Reaches ok flow → ok flow e →
      flow.step lower e = some flow' → (∀ held, flow.Holds held → P held) →
      SchoolOrigin flow e flow' school → P school)
    {flow : Flow} (h : (signUp lower).Reaches ok flow) :
    ∀ school, flow.Holds school → P school := by
  induction h with
  | init hinit =>
    obtain rfl : _ = launch := hinit
    intro school hschool
    cases hschool with
    | recorded h => cases h
    | shown hscreen h =>
      rw [mem_launch_screens hscreen] at h
      cases h
    | queried hrequest _ => exact absurd hrequest (not_mem_launch_requests _)
  | step hreach hok hs ih =>
    intro school hschool
    exact hstep _ _ _ _ hreach hok hs ih (schoolOrigin_of_step hs hschool)

end Flow

/-! ## The selector's schools -/

/-- The schools that can be selected, and the one that is, have no catalogue. -/
structure SchoolSelectorViewController.Catalogueless (vc : SchoolSelectorViewController) :
    Prop where
  offered : ∀ list, vc.listOfSchools = some list → ∀ school ∈ list, school.courseList = none
  selected : ∀ school, vc.currentSelection = some school → school.courseList = none

theorem SchoolSelectorViewController.handle_catalogueless {vc : SchoolSelectorViewController}
    {newUserData : Data} {e : SchoolSelectorViewController.Event}
    {r : Reaction SchoolSelectorViewController} (h : vc.Catalogueless)
    (hlist : ∀ list, e = .schoolListArrived (some list) → ∀ school ∈ list,
      school.courseList = none)
    (hr : vc.handle newUserData e = some r) : r.vc.Catalogueless := by
  cases e with
  | schoolListArrived schoolList =>
    cases schoolList with
    | none =>
      obtain rfl := Option.some.inj hr
      exact h
    | some list =>
      obtain ⟨first, hfirst, hr⟩ := Option.bind_eq_some_iff.mp hr
      obtain rfl := Option.some.inj hr
      refine ⟨?_, ?_⟩
      · intro list' hlist'
        obtain rfl := Option.some.inj hlist'
        exact hlist list rfl
      · intro school hschool
        obtain rfl := Option.some.inj hschool
        exact hlist list rfl _ (List.mem_of_getElem? hfirst)
  | didSelectRow row =>
    obtain ⟨-, hr⟩ := Option.ite_none_right_eq_some.mp hr
    unfold didSelectRow at hr
    split at hr
    next skewls hskewls =>
      obtain ⟨picked, hpicked, hr⟩ := Option.bind_eq_some_iff.mp hr
      obtain rfl := Option.some.inj hr
      refine ⟨h.offered, ?_⟩
      intro school hschool
      obtain rfl := Option.some.inj hschool
      exact h.offered skewls hskewls _ (List.mem_of_getElem? hpicked)
    next =>
      obtain rfl := Option.some.inj hr
      exact h
  | continueAction =>
    obtain rfl := Option.some.inj hr
    unfold continueAction
    split
    next => exact h
    next => exact ⟨h.offered, h.selected⟩
  | courseListArrived skewl crsList =>
    obtain rfl := Option.some.inj hr
    exact h

namespace Flow

/-- **Step lemma** for the selector. -/
theorem step_catalogueless {flow flow' : Flow} {e : Event}
    (h : ∀ vc, .schoolSelector vc ∈ flow.screens → vc.Catalogueless)
    (hs : flow.step lower e = some flow') :
    ∀ vc, .schoolSelector vc ∈ flow'.screens → vc.Catalogueless := by
  suffices hall : ∀ s ∈ flow'.screens, ∀ vc, s = .schoolSelector vc → vc.Catalogueless from
    fun vc hvc => hall _ hvc vc rfl
  have h : ∀ s ∈ flow.screens, ∀ vc, s = .schoolSelector vc → vc.Catalogueless := by
    intro s hs vc hvc
    subst hvc
    exact h vc hs
  cases steps_of_step hs with
  | silent _ _ => exact h
  | deliver hd hdel =>
    rw [← hd.screens_eq] at h
    refine hdel.forall_screens
      (P := fun s => ∀ vc, s = .schoolSelector vc → vc.Catalogueless) h ?_ ?_
    · intro screen hscreen r hr vc' hvc'
      cases Screen.handled_of_handle hr with
      | userInfo _ | security _ _ | chooseClasses _ | addClass _ => cases hvc'
      | @schoolSelector vc se _ hhandle =>
        obtain rfl := Screen.schoolSelector.inj hvc'
        refine SchoolSelectorViewController.handle_catalogueless (h _ hscreen vc rfl) ?_ hhandle
        intro list hse school hschool
        subst hse
        cases hd with
        | input hinput => cases hinput
        | callback _ hc =>
          cases hc with
          | schoolList _ _ hlist =>
            obtain ⟨data, hdata⟩ := getSchoolList_mem hlist school hschool
            exact School.courseList_of_ofData hdata
    · intro source identifier scene _ _ vc hvc
      have hscene := Screen.destination_scene source identifier scene
      rw [hvc] at hscene
      obtain rfl : .schoolSelector = scene := hscene
      obtain rfl := Screen.schoolSelector.inj hvc
      refine ⟨?_, ?_⟩
      · intro list hlist school hschool
        obtain rfl := Option.some.inj hlist
        cases hschool
      · intro school hschool
        cases hschool

/-- **Run lemma** for the selector. -/
theorem catalogueless_of_reachable {flow : Flow} (h : (signUp lower).Reachable flow) :
    ∀ vc, .schoolSelector vc ∈ flow.screens → vc.Catalogueless := by
  refine h.invariant (P := fun flow => ∀ vc, .schoolSelector vc ∈ flow.screens →
    vc.Catalogueless) ?_ fun _ _ _ hinv _ hs => step_catalogueless hinv hs
  intro flow hinit vc hvc
  obtain rfl : flow = launch := hinit
  cases mem_launch_screens hvc

end Flow

end Scholarli
