import Scholarli.SignUp.Clients
import Scholarli.SignUp.Loads

/-!
# What can always happen

Safety says what the flow never does; this file says what it can still do.

* `Targeted` — the screen that a callback will run on is on the stack, and of
  the right scene, as long as the query is in flight. So a response is always
  delivered, with one exception (`answer_steps_iff`): an empty list of schools
  traps.
* `successAlert_ne_some_none` — no form ever puts up an alert without a button.
* `finishes_iff` — from where sign-up can still be completed, as long as queries
  for the schools are served: from everywhere but a school selector whose only
  query has come to nothing. There is no second query and no way back.
-/

namespace Scholarli

open Base (Machine Value Dict)

variable {lower : String → String}

/-- The scene whose view controller runs the callback of a query. -/
def Call.scene : Call → Scene
  | .verifyUsername _ => .userInfo
  | .getSchoolList => .schoolSelector
  | .courseListForNewUser _ => .schoolSelector
  | .courseListForChooseClasses _ => .chooseClasses
  | .courseListForReturn _ _ => .chooseClasses
  | .getFaculty _ => .chooseClasses

/-- The screen that the callback runs on. -/
def Request.target (request : Request) : Nat :=
  match request.call with
  | .courseListForChooseClasses _ => request.dest
  | .courseListForReturn _ _ => request.dest
  | _ => request.caller

/-- The kind of response that a query gets. -/
def Response.Fits : Response → Call → Prop
  | .usernames _, .verifyUsername _ => True
  | .documents _, .verifyUsername _ => False
  | .usernames _, _ => False
  | .documents _, _ => True

namespace Flow

/-- The screens that the callbacks run on are there. -/
def Targeted (flow : Flow) : Prop :=
  ∀ request ∈ flow.requests, ∃ screen, flow.screens[request.target]? = some screen ∧
    screen.scene = request.call.scene

/-- A screen keeps its scene. -/
theorem Outcome.scene_eq {flow flow' : Flow} {i : Nat} {screen : Screen} {newUserData : Data}
    {e : ScreenEvent} {r : Reaction Screen} (hout : Outcome flow i r flow')
    (hi : flow.screens[i]? = some screen) (hr : screen.handle lower newUserData e = some r)
    {j : Nat} {s : Screen} (hj : flow.screens[j]? = some s) :
    ∃ s', flow'.screens[j]? = some s' ∧ s'.scene = s.scene := by
  by_cases hij : j = i
  · subst hij
    rw [hi] at hj
    obtain rfl := Option.some.inj hj
    exact ⟨r.vc, hout.getElem?_self hi, Screen.handle_scene hr⟩
  · exact ⟨s, hout.getElem?_ne hj hij, rfl⟩

/-- A query made for a presentation is answered on the new screen. -/
theorem target_of_mem_presented {source : Screen} {identifier : String} {newUserData : Data}
    {scene : Scene} {i : Nat} (hsegue : Segue source.scene identifier scene) {request : Request}
    (hmem : request ∈ presented source identifier newUserData scene i) :
    request.target = i + 1 ∧ request.call.scene = scene := by
  rcases List.mem_append.mp hmem with hmem | hmem
  · obtain ⟨call, hcall, rfl⟩ := List.mem_map.mp hmem
    rcases Screen.mem_prepareCalls hcall with ⟨vc, school, rfl, -, rfl⟩ |
      ⟨vc, school, rfl, -, rfl⟩
    · refine ⟨rfl, ?_⟩
      have hsegue : Segue .schoolSelector identifier scene := hsegue
      cases hsegue
      rfl
    · refine ⟨rfl, ?_⟩
      have hsegue : Segue .addClass identifier scene := hsegue
      cases hsegue <;> rfl
  · obtain ⟨call, hcall, rfl⟩ := List.mem_map.mp hmem
    obtain ⟨rfl, rfl⟩ := Screen.mem_loadCalls hcall
    exact ⟨rfl, rfl⟩

/-- **Step lemma.** -/
theorem Delivers.targeted {flow flow' : Flow} {i : Nat} {e : ScreenEvent} (h : flow.Targeted)
    (hdel : Delivers lower flow i e flow') : flow'.Targeted := by
  obtain ⟨screen, r, hi, hr, hout⟩ := hdel
  intro request hrequest
  obtain ⟨new, hreq, hnew⟩ := hout.requests_eq
  rw [hreq, List.append_assoc] at hrequest
  rcases List.mem_append.mp hrequest with hold | hrequest
  · obtain ⟨s, hs, hscene⟩ := h request hold
    obtain ⟨s', hs', hscene'⟩ := hout.scene_eq hi hr hs
    exact ⟨s', hs', hscene'.trans hscene⟩
  · rcases List.mem_append.mp hrequest with hmade | hmade
    · -- a query of the handler itself is answered on its own screen
      obtain ⟨call, hcall, rfl⟩ := List.mem_map.mp hmade
      have hself := hout.getElem?_self hi
      have hscene := Screen.handle_scene hr
      rcases Screen.handle_calls hr hcall with ⟨hs, username, rfl, -⟩ | ⟨hs, school, rfl⟩ |
        ⟨hs, school, rfl, -⟩
      · exact ⟨r.vc, hself, hscene.trans hs⟩
      · exact ⟨r.vc, hself, hscene.trans hs⟩
      · exact ⟨r.vc, hself, hscene.trans hs⟩
    · rcases hnew with rfl | ⟨-, identifier, scene, hsegue, hdest, rfl⟩
      · cases hmade
      · obtain ⟨htarget, hscene⟩ := target_of_mem_presented hsegue hmade
        refine ⟨_, ?_, (Screen.destination_scene r.vc identifier scene).trans hscene.symm⟩
        rw [htarget]
        exact hdest

theorem targeted_settle {flow : Flow} (h : flow.Targeted) (k : Nat) :
    (flow.settle k).Targeted :=
  fun request hrequest => h request (List.mem_of_mem_eraseIdx hrequest)

/-- **Run lemma.** -/
theorem targeted_of_reachable {flow : Flow} (h : (signUp lower).Reachable flow) :
    flow.Targeted := by
  refine h.invariant (P := Targeted) ?_ ?_
  · intro flow hinit
    obtain rfl : flow = launch := hinit
    intro request hrequest
    exact absurd hrequest (not_mem_launch_requests request)
  · intro flow e flow' hinv _ hs
    refine (steps_of_step hs).invariant hinv (targeted_settle hinv) ?_
    intro flow₀ i se _ htargeted hdel
    exact hdel.targeted htargeted

/-! ## Responses -/

theorem storyboard_of_segue {source dest : Scene} {identifier : String}
    (h : Segue source identifier dest) : storyboard source identifier = some dest := by
  cases h <;> rfl

/-- Nothing that a handler does fails afterwards: its segue is there. -/
theorem delivers_of_handle {flow : Flow} {i : Nat} {screen : Screen} {e : ScreenEvent}
    {r : Reaction Screen} (hi : flow.screens[i]? = some screen)
    (hr : screen.handle lower flow.newUserData e = some r) :
    ∃ flow', flow.deliver lower i e = some flow' := by
  unfold deliver
  rw [hi]
  simp only [Option.bind_eq_bind, Option.bind_some, hr]
  split
  next => exact ⟨_, rfl⟩
  next identifier hsegue =>
    obtain ⟨dest, hdest⟩ := Screen.handle_segue hr hsegue
    rw [← Screen.handle_scene hr] at hdest
    unfold performSegue
    rw [storyboard_of_segue hdest]
    simp only [Option.bind_eq_bind, Option.bind_some]
    split
    next => exact ⟨_, rfl⟩
    next => exact ⟨_, rfl⟩

theorem completion_ne_none_iff (flow : Flow) (request : Request) (response : Response) :
    flow.completion request response ≠ none ↔ response.Fits request.call := by
  obtain ⟨call, caller, dest⟩ := request
  cases call <;> cases response <;> simp [completion, Response.Fits]

/-- A callback can be handled by a screen of its scene, unless it brings an
empty list of schools. -/
theorem Callback.handle_ne_none (lower : String → String) {flow : Flow} {request : Request}
    {response : Response} {i : Nat} {e : ScreenEvent} (hc : Callback flow request response i e)
    (hlist : ¬(request.call = .getSchoolList ∧ response = .documents (.documents [])))
    {screen : Screen} (hscene : screen.scene = request.call.scene) (newUserData : Data) :
    ∃ r, screen.handle lower newUserData e = some r := by
  cases hc with
  | username username caller dest r =>
    cases screen with
    | userInfo vc => exact ⟨_, rfl⟩
    | security _ | schoolSelector _ | chooseClasses _ | addClass _ | finalSetup => cases hscene
  | @schoolList caller dest r schoolList h =>
    cases screen with
    | schoolSelector vc =>
      cases schoolList with
      | none => exact ⟨_, rfl⟩
      | some list =>
        cases list with
        | cons school list => exact ⟨_, rfl⟩
        | nil =>
          obtain ⟨docs, rfl, hdecodes⟩ := getSchoolList_eq_some_iff.mp h
          cases hdecodes
          exact absurd ⟨rfl, rfl⟩ hlist
    | userInfo _ | security _ | chooseClasses _ | addClass _ | finalSetup => cases hscene
  | newUser _ _ _ _ =>
    cases screen with
    | schoolSelector vc => exact ⟨_, rfl⟩
    | userInfo _ | security _ | chooseClasses _ | addClass _ | finalSetup => cases hscene
  | chooseClasses _ _ _ _ | returned _ _ _ _ _ | faculty _ _ _ _ =>
    cases screen with
    | chooseClasses vc => exact ⟨_, rfl⟩
    | userInfo _ | security _ | schoolSelector _ | addClass _ | finalSetup => cases hscene

theorem Callback.target_eq {flow : Flow} {request : Request} {response : Response} {i : Nat}
    {e : ScreenEvent} (hc : Callback flow request response i e) : i = request.target := by
  cases hc <;> rfl

theorem dispatch_answer {flow : Flow} {k : Nat} {request : Request} {response : Response}
    {delivery : Option (Nat × ScreenEvent)} (hk : flow.requests[k]? = some request)
    (hc : flow.completion request response = some delivery) :
    flow.dispatch (.answer k response) = some (flow.settle k, delivery) := by
  show (flow.requests[k]?.bind fun request => (flow.completion request response).bind _) = _
  rw [hk, Option.bind_some, hc]
  rfl

/-- A response of the right kind is handled, unless it is an empty list of
schools. -/
theorem steps_of_fits {flow : Flow} (h : (signUp lower).Reachable flow) {k : Nat}
    {request : Request} (hk : flow.requests[k]? = some request) {response : Response}
    (hfits : response.Fits request.call)
    (hlist : ¬(request.call = .getSchoolList ∧ response = .documents (.documents []))) :
    ∃ flow', flow.step lower (.answer k response) = some flow' := by
  obtain ⟨delivery, hc⟩ :=
    Option.ne_none_iff_exists'.mp ((completion_ne_none_iff flow request response).mpr hfits)
  cases delivery with
  | none => exact ⟨flow.settle k, by simp [step, dispatch_answer hk hc]⟩
  | some target =>
    obtain ⟨i, se⟩ := target
    have hcallback := callback_of_completion hc
    obtain ⟨screen, hscreen, hscene⟩ :=
      targeted_of_reachable h request (List.mem_of_getElem? hk)
    rw [← hcallback.target_eq] at hscreen
    have hscreen : (flow.settle k).screens[i]? = some screen := hscreen
    obtain ⟨r, hr⟩ := hcallback.handle_ne_none lower hlist hscene (flow.settle k).newUserData
    obtain ⟨flow', hflow'⟩ := delivers_of_handle hscreen hr
    exact ⟨flow', by simp [step, dispatch_answer hk hc, hflow']⟩

/-- **Every response is handled**, at any time and in any order: the step is
there exactly if the response is of the kind the query gets, and not an empty
list of schools. -/
theorem answer_steps_iff {flow : Flow} (h : (signUp lower).Reachable flow) {k : Nat}
    {request : Request} (hk : flow.requests[k]? = some request) (response : Response) :
    (∃ flow', flow.step lower (.answer k response) = some flow') ↔
    response.Fits request.call ∧
      ¬(request.call = .getSchoolList ∧ response = .documents (.documents [])) := by
  constructor
  · intro hstep
    obtain ⟨flow', hs⟩ := hstep
    obtain ⟨⟨flow₀, delivery⟩, hd, hs⟩ := Option.bind_eq_some_iff.mp hs
    obtain ⟨request', hk', hd⟩ := Option.bind_eq_some_iff.mp hd
    rw [hk] at hk'
    obtain rfl := Option.some.inj hk'
    obtain ⟨delivery', hc, hd⟩ := Option.bind_eq_some_iff.mp hd
    obtain ⟨rfl, rfl⟩ := Prod.mk.inj (Option.some.inj hd)
    refine ⟨(completion_ne_none_iff flow request response).mp (by rw [hc]; simp), ?_⟩
    intro hempty
    obtain ⟨hcall, rfl⟩ := hempty
    -- the list's first element is read
    obtain ⟨call, caller, dest⟩ := request
    obtain rfl : call = .getSchoolList := hcall
    obtain rfl := Option.some.inj hc
    obtain ⟨screen, hi, hs⟩ := Option.bind_eq_some_iff.mp hs
    obtain ⟨r, hr, -⟩ := Option.bind_eq_some_iff.mp hs
    cases Screen.handled_of_handle hr with
    | schoolSelector hhandle => cases hhandle
  · intro hfits
    exact steps_of_fits h hk hfits.1 hfits.2

/-- The school selector waits for its list: an error is handled, and no schools
are not. -/
theorem answer_steps_iff_school_list :
    (∃ flow', (after register).step String.toLower (.answer 0 (.documents .error)) = some flow') ∧
    ¬∃ flow', (after register).step String.toLower (.answer 0 (.documents (.documents []))) =
      some flow' := by
  have hk : (after register).requests[0]? = some ⟨.getSchoolList, 2, 2⟩ := rfl
  have hreach := after_reachable register
  refine ⟨(answer_steps_iff hreach hk _).mpr ⟨trivial, ?_⟩, ?_⟩
  · intro hempty
    cases hempty.2
  · intro hstep
    exact ((answer_steps_iff hreach hk _).mp hstep).2 ⟨rfl, rfl⟩

end Flow

/-! ## Alerts -/

namespace AddClassViewController

/-- A form that passes verification has all that its course is built from. -/
theorem FormInv.exists_course {vc : AddClassViewController} (h : FormInv vc) {school : School}
    (hschool : vc.school = some school) (hverified : vc.updateUserInfo.verification = none)
    (documentID : String) :
    ∃ course, Course.ofRefData documentID vc.updateUserInfo.classData = .ok course := by
  obtain ⟨hteacher, hperiod⟩ := h.updateUserInfo_entries
  obtain ⟨title, htitle⟩ := h.title
  obtain ⟨room, hroom⟩ := h.room
  obtain ⟨⟨t, ht⟩, ⟨p, hp⟩⟩ := verification_eq_none hverified
  have ht : vc.currentTeacher = some t := ht
  have hp : vc.currentPeriod = some p := hp
  have htexts : vc.updateUserInfo.classData "displayName" = some (.string title) ∧
      vc.updateUserInfo.classData "classroom" = some (.string room) ∧
      vc.updateUserInfo.classData "schoolId" = some (.string school.id) := by
    cases hmode : vc.currentSelectorItem <;>
      simp [AddClassViewController.updateUserInfo, hmode, htitle, hroom, hschool]
  obtain ⟨hname, hclassroom, hschoolId⟩ := htexts
  refine ⟨⟨title, documentID, t, school.id, p, some room⟩, ?_⟩
  simp [Course.ofRefData, Dict.cast, Dict.castOptional, hname, hteacher, hperiod, hclassroom,
    hschoolId, teacherValue, periodValue, ht, hp, Value.string?, Value.int?, Value.boxed?,
    Boxed.faculty?, guardLet, bind, Except.bind, pure, Except.pure]

/-- A submission that gets to building a course succeeds. -/
theorem FormInv.addClass_ne_some_none {vc : AddClassViewController} (h : FormInv vc)
    (hnone : vc.successAlert = none) (documentID : String) :
    (vc.addClass documentID).successAlert ≠ some none := by
  intro halert
  cases hverified : vc.updateUserInfo.verification with
  | some errorMessage =>
    simp only [AddClassViewController.addClass, hverified] at halert
    rw [show vc.updateUserInfo.successAlert = none from hnone] at halert
    cases halert
  | none =>
    cases hschool : vc.updateUserInfo.school with
    | none =>
      simp only [AddClassViewController.addClass, hverified, hschool] at halert
      rw [show vc.updateUserInfo.successAlert = none from hnone] at halert
      cases halert
    | some school =>
      obtain ⟨course, hok⟩ := h.exists_course hschool hverified documentID
      simp only [AddClassViewController.addClass, hverified, hschool, hok] at halert
      cases Option.some.inj halert

/-- **No alert without a button**, in any state of the form. -/
theorem successAlert_ne_some_none {vc : AddClassViewController} (h : machine.Reachable vc) :
    vc.successAlert ≠ some none := by
  intro halert
  cases h with
  | init hinit =>
    obtain ⟨school, scheduleToReturn, -, rfl⟩ := hinit
    cases halert
  | step hreach _ hs =>
    cases staffStep_of_step hs with
    | picked _ _ _ _ hnone | kept _ _ hnone =>
      rw [hnone] at halert
      cases halert
    | hired documentID hnone =>
      rw [(endAddTeacher_sameOwner _ documentID).2, hnone] at halert
      cases halert
    | submitted documentID hnone =>
      exact (formInv_of_reachable hreach).addClass_ne_some_none hnone documentID halert

end AddClassViewController

/-! ## Completion -/

namespace Flow

variable {flow flow' : Flow}

/-- The screen that is shown. -/
def top (flow : Flow) : Option Screen := flow.screens.getLast?

theorem top_eq_getElem? (flow : Flow) : flow.top = flow.screens[flow.screens.length - 1]? :=
  List.getLast?_eq_getElem?

/-- Some admissible steps lead to the last screen of the storyboard. -/
def Finishes (ok : Flow → Event → Prop) (lower : String → String) (flow : Flow) : Prop :=
  ∃ flow', (signUp lower).StepsUnder ok flow flow' ∧ flow'.top = some .finalSetup

/-- The condition admits whatever needs no document, and some answer with a
school to a query for the schools. -/
structure Serves (ok : Flow → Event → Prop) : Prop where
  plain : ∀ flow e, e.isPlain = true → ok flow e
  schools : ∀ flow k request, flow.requests[k]? = some request → request.call = .getSchoolList →
    ∃ docs school list, getSchoolList (.documents docs) = some (some (school :: list)) ∧
      ok flow (.documents k docs)

variable {ok : Flow → Event → Prop}

theorem Finishes.of_step {e : Event} (h : Finishes ok lower flow') (hok : ok flow e)
    (hs : flow.step lower e = some flow') : Finishes ok lower flow := by
  obtain ⟨last, hsteps, htop⟩ := h
  exact ⟨last, .head ⟨e, hok, hs⟩ hsteps, htop⟩

/-- The screen that reacts stays on top, if it performs no segue. -/
theorem Outcome.top_of_stay {i : Nat} {r : Reaction Screen} (h : Outcome flow i r flow')
    (hi : i + 1 = flow.screens.length) (hsegue : r.segue = none) : flow'.top = some r.vc := by
  cases h with
  | stay _ =>
    show (flow.screens.set i r.vc).getLast? = _
    rw [List.getLast?_eq_getElem?, List.length_set, ← hi, Nat.add_sub_cancel,
      List.getElem?_set_self (by omega)]
  | drop hsome _ _ | push hsome _ _ =>
    rw [hsegue] at hsome
    cases hsome

/-- A segue of the screen on top presents its destination. -/
theorem Outcome.top_of_segue {i : Nat} {r : Reaction Screen} (h : Outcome flow i r flow')
    (hi : i + 1 = flow.screens.length) {identifier : String} {scene : Scene}
    (hsegue : r.segue = some identifier) (hscene : storyboard r.vc.scene identifier = some scene) :
    flow'.top = some (r.vc.destination identifier scene) ∧
    flow'.screens.length = flow.screens.length + 1 ∧
    ∀ call ∈ Screen.loadCalls scene,
      ⟨call, flow.screens.length, flow.screens.length⟩ ∈ flow'.requests := by
  cases h with
  | stay hnone =>
    rw [hnone] at hsegue
    cases hsegue
  | drop _ _ htop => exact absurd hi htop
  | push hsome hscene' _ =>
    rw [hsegue] at hsome
    obtain rfl := Option.some.inj hsome
    rw [hscene] at hscene'
    obtain rfl := Option.some.inj hscene'
    refine ⟨List.getLast?_concat, ?_, ?_⟩
    · rw [List.length_append, List.length_set, List.length_singleton]
    · intro call hcall
      rw [← hi]
      exact List.mem_append_right _ (List.mem_map_of_mem hcall)

/-- An event that its screen can handle is a step. -/
theorem step_of_dispatches {flow₀ : Flow} {e : Event} {i : Nat} {se : ScreenEvent}
    {screen : Screen} {r : Reaction Screen} (hd : Dispatches flow e flow₀ i se)
    (hi : flow₀.screens[i]? = some screen)
    (hr : screen.handle lower flow₀.newUserData se = some r) :
    ∃ flow', flow.step lower e = some flow' ∧ Outcome flow₀ i r flow' := by
  obtain ⟨flow', hdel⟩ := delivers_of_handle hi hr
  refine ⟨flow', ?_, ?_⟩
  · show (flow.dispatch e).bind _ = _
    rw [hd.dispatch_eq]
    exact hdel
  · obtain ⟨screen', r', hi', hr', hout⟩ := delivers_of_deliver hdel
    rw [hi] at hi'
    obtain rfl := Option.some.inj hi'
    rw [hr] at hr'
    obtain rfl := Option.some.inj hr'
    exact hout

/-- Input that the screen on top can handle is a step. -/
theorem step_input (lower : String → String) (e : ScreenEvent) {screen : Screen}
    {r : Reaction Screen} (htop : flow.top = some screen) (hinput : e.isInput = true)
    (hr : screen.handle lower flow.newUserData e = some r) :
    ∃ flow', flow.step lower (.input e) = some flow' ∧
      Outcome flow (flow.screens.length - 1) r flow' ∧
      flow.screens.length - 1 + 1 = flow.screens.length := by
  rw [top_eq_getElem?] at htop
  have hlt := (List.getElem?_eq_some_iff.mp htop).1
  obtain ⟨flow', hs, hout⟩ := step_of_dispatches (.input hinput) htop hr
  exact ⟨flow', hs, hout, by omega⟩

section Serving

variable (hok : Serves ok)

include hok

/-- From a chooser, one tap. -/
theorem finishes_of_chooser {vc : ChooseClassesViewController}
    (htop : flow.top = some (.chooseClasses vc)) : Finishes ok lower flow := by
  obtain ⟨flow', hs, hout, hi⟩ := step_input lower (.chooseClasses .tapToContinue) htop rfl rfl
  have hlast := (hout.top_of_segue hi rfl rfl).1
  exact Finishes.of_step ⟨flow', .refl, hlast⟩ (hok.plain _ _ rfl) hs

/-- From a form, over the chooser that it returns to: by its alert if there is
one, else by leaving. -/
theorem finishes_of_form (h : (signUp lower).Reachable flow) {vc : AddClassViewController}
    (htop : flow.top = some (.addClass vc)) : Finishes ok lower flow := by
  have hform := form_of_reachable h vc (List.mem_of_getLast? htop)
  cases halert : vc.successAlert with
  | none =>
    have hr : (Screen.addClass vc).handle lower flow.newUserData (.addClass .cancel) =
        some { vc := .addClass vc, newUserData := flow.newUserData,
               segue := some "cancelAddClass" } := by
      simp [Screen.handle, AddClassViewController.handle, AddClassViewController.step, halert,
        AddClassViewController.formStep, AddClassViewController.segue, Reaction.map]
    obtain ⟨flow', hs, hout, hi⟩ := step_input lower _ htop rfl hr
    have htop' := (hout.top_of_segue hi rfl rfl).1
    exact (finishes_of_chooser hok htop').of_step (hok.plain _ _ rfl) hs
  | some newCrs? =>
    cases newCrs? with
    | none => exact absurd halert (AddClassViewController.successAlert_ne_some_none hform)
    | some newCrs =>
      have hr : (Screen.addClass vc).handle lower flow.newUserData (.addClass .ok) =
          some { vc := .addClass (vc.okHandler newCrs), newUserData := flow.newUserData,
                 segue := some "returnToSignUpChooseClass" } := by
        simp [Screen.handle, AddClassViewController.handle, AddClassViewController.step, halert,
          AddClassViewController.segue, Reaction.map]
      obtain ⟨flow', hs, hout, hi⟩ := step_input lower _ htop rfl hr
      have htop' := (hout.top_of_segue hi rfl rfl).1
      exact (finishes_of_chooser hok htop').of_step (hok.plain _ _ rfl) hs

/-- From a selector with a selection, by leaving it. -/
theorem finishes_of_selection {vc : SchoolSelectorViewController} {school : School}
    (htop : flow.top = some (.schoolSelector vc)) (hschool : vc.currentSelection = some school) :
    Finishes ok lower flow := by
  have hr : (Screen.schoolSelector vc).handle lower flow.newUserData
      (.schoolSelector .continueAction) =
      some { vc := .schoolSelector vc, newUserData := flow.newUserData,
             segue := some "signUpSegueThree" } := by
    simp [Screen.handle, SchoolSelectorViewController.handle,
      SchoolSelectorViewController.continueAction, hschool, Reaction.map]
  obtain ⟨flow', hs, hout, hi⟩ := step_input lower _ htop rfl hr
  have htop' := (hout.top_of_segue hi rfl rfl).1
  exact (finishes_of_chooser hok htop').of_step (hok.plain _ _ rfl) hs

/-- From a selector whose query is in flight, once it is answered. -/
theorem finishes_of_listing (h : (signUp lower).Reachable flow)
    {vc : SchoolSelectorViewController} (htop : flow.top = some (.schoolSelector vc))
    {request : Request} (hrequest : request ∈ flow.requests)
    (hcall : request.call = .getSchoolList) : Finishes ok lower flow := by
  obtain ⟨k, hk⟩ := List.mem_iff_getElem?.mp hrequest
  obtain ⟨call, caller, dest⟩ := request
  obtain rfl : call = .getSchoolList := hcall
  -- the selector that made it is the one on top
  have hplace : caller + 1 = flow.screens.length ∧
      flow.screens[caller]? = some (.schoolSelector vc) := by
    obtain ⟨screen, hscreen, hscene⟩ := targeted_of_reachable h _ hrequest
    have hinv := loadInv_of_reachable h
    rw [top_eq_getElem?] at htop
    have hlt := (List.getElem?_eq_some_iff.mp htop).1
    have hrank : flow.screens.length - 1 = 2 := hinv.rank _ _ htop
    have hrank' : Rank screen.scene caller := hinv.rank _ _ hscreen
    rw [hscene] at hrank'
    obtain rfl : caller = 2 := hrank'
    rw [hrank] at htop
    exact ⟨by omega, htop⟩
  obtain ⟨hlast, hcaller⟩ := hplace
  obtain ⟨docs, school, list, hlist, hserved⟩ := hok.schools flow k _ hk rfl
  have hcaller : (flow.settle k).screens[caller]? = some (.schoolSelector vc) := hcaller
  obtain ⟨flow', hs, hout⟩ :=
    step_of_dispatches (.callback hk (.schoolList caller dest hlist)) hcaller rfl
  exact (finishes_of_selection hok (hout.top_of_stay hlast rfl) rfl).of_step hserved hs

/-- From the password screen, with two equal passwords. -/
theorem finishes_of_security (h : (signUp lower).Reachable flow) {vc : SecurityViewController}
    (htop : flow.top = some (.security vc)) : Finishes ok lower flow := by
  obtain ⟨flow₁, hs₁, hout₁, hi₁⟩ := step_input lower (.security (.editPassword "")) htop rfl rfl
  have htop₁ := hout₁.top_of_stay hi₁ rfl
  obtain ⟨flow₂, hs₂, hout₂, hi₂⟩ :=
    step_input lower (.security (.editConfirmPassword "")) htop₁ rfl rfl
  have htop₂ := hout₂.top_of_stay hi₂ rfl
  obtain ⟨flow₃, hs₃, hout₃, hi₃⟩ :=
    step_input lower (.security .continueAction) htop₂ rfl rfl
  obtain ⟨htop₃, hlength, hcalls⟩ := hout₃.top_of_segue hi₃ rfl rfl
  have h₃ := ((h.step trivial hs₁).step trivial hs₂).step trivial hs₃
  have hfinishes := finishes_of_listing hok h₃ htop₃ (hcalls _ List.mem_cons_self) rfl
  exact ((hfinishes.of_step (hok.plain _ _ rfl) hs₃).of_step (hok.plain _ _ rfl) hs₂).of_step
    (hok.plain _ _ rfl) hs₁

/-- From the first screen, once it is filled in and the name is free. -/
theorem finishes_of_userInfo (h : (signUp lower).Reachable flow) {vc : UserInfoViewController}
    (htop : flow.top = some (.userInfo vc)) : Finishes ok lower flow := by
  obtain ⟨flow₁, hs₁, hout₁, hi₁⟩ :=
    step_input lower (.userInfo (.edit .firstName "Ada")) htop rfl rfl
  obtain ⟨flow₂, hs₂, hout₂, hi₂⟩ := step_input lower (.userInfo (.edit .lastName "Lovelace"))
    (hout₁.top_of_stay hi₁ rfl) rfl rfl
  obtain ⟨flow₃, hs₃, hout₃, hi₃⟩ := step_input lower (.userInfo (.edit .username "ada"))
    (hout₂.top_of_stay hi₂ rfl) rfl rfl
  obtain ⟨flow₄, hs₄, hout₄, hi₄⟩ := step_input lower (.userInfo (.edit .phoneNumber "5550100"))
    (hout₃.top_of_stay hi₃ rfl) rfl rfl
  obtain ⟨flow₅, hs₅, hout₅, hi₅⟩ := step_input lower (.userInfo .selectAccountType)
    (hout₄.top_of_stay hi₄ rfl) rfl rfl
  obtain ⟨flow₆, hs₆, hout₆, hi₆⟩ := step_input lower (.userInfo .continueAction)
    (hout₅.top_of_stay hi₅ rfl) rfl rfl
  have htop₆ := hout₆.top_of_stay hi₆ rfl
  -- the query for the name is in flight
  obtain ⟨new, hrequests, -⟩ := hout₆.requests_eq
  have hquery : Request.mk (.verifyUsername "ada") (flow₅.screens.length - 1)
      (flow₅.screens.length - 1) ∈ flow₆.requests := by
    rw [hrequests]
    exact List.mem_append_left _ (List.mem_append_right _ List.mem_cons_self)
  obtain ⟨k, hk⟩ := List.mem_iff_getElem?.mp hquery
  have hlength : flow₆.screens.length = flow₅.screens.length := by
    rcases hout₆.length_cases with ⟨heq, -⟩ | ⟨-, hsegue, -⟩
    · exact heq
    · exact absurd rfl hsegue
  rw [top_eq_getElem?, hlength] at htop₆
  have htop₆ : (flow₆.settle k).screens[flow₅.screens.length - 1]? = some _ := htop₆
  obtain ⟨flow₇, hs₇, hout₇⟩ :=
    step_of_dispatches (.callback hk (.username "ada" _ _ (.values []))) htop₆ rfl
  have hi₇ : flow₅.screens.length - 1 + 1 = (flow₆.settle k).screens.length := by
    rw [hi₆]
    exact hlength.symm
  have htop₇ := (hout₇.top_of_segue hi₇ rfl rfl).1
  have h₆ := (((((h.step trivial hs₁).step trivial hs₂).step trivial hs₃).step trivial hs₄).step
    trivial hs₅).step trivial hs₆
  have hfinishes := finishes_of_security hok (h₆.step trivial hs₇) htop₇
  have hfinishes₅ :=
    (hfinishes.of_step (hok.plain _ _ rfl) hs₇).of_step (hok.plain _ _ rfl) hs₆
  have hfinishes₃ :=
    (hfinishes₅.of_step (hok.plain _ _ rfl) hs₅).of_step (hok.plain _ _ rfl) hs₄
  have hfinishes₁ :=
    (hfinishes₃.of_step (hok.plain _ _ rfl) hs₃).of_step (hok.plain _ _ rfl) hs₂
  exact hfinishes₁.of_step (hok.plain _ _ rfl) hs₁

end Serving

/-! ## Being stranded -/

/-- The school selector is shown without a selection, and its query for the
schools is gone. -/
def Stranded (flow : Flow) : Prop :=
  ∃ vc, flow.top = some (.schoolSelector vc) ∧ vc.currentSelection = none ∧
    ∀ request ∈ flow.requests, request.call ≠ .getSchoolList

/-- Below the top, a reaction changes neither the top nor the number of
screens. -/
theorem Outcome.top_of_ne {i : Nat} {r : Reaction Screen} (h : Outcome flow i r flow')
    (hlt : i < flow.screens.length) (hi : i + 1 ≠ flow.screens.length) :
    flow'.top = flow.top ∧ flow'.screens.length = flow.screens.length := by
  have hset : (flow.screens.set i r.vc).getLast? = flow.screens.getLast? := by
    rw [List.getLast?_eq_getElem?, List.getLast?_eq_getElem?, List.length_set,
      List.getElem?_set_ne (by omega)]
  cases h with
  | stay _ => exact ⟨hset, List.length_set ..⟩
  | drop _ _ _ => exact ⟨hset, List.length_set ..⟩
  | push _ _ htop => exact absurd htop hi

/-- Without a presentation, the queries are those of the handler. -/
theorem Outcome.requests_of_length {i : Nat} {r : Reaction Screen} (h : Outcome flow i r flow')
    (hlength : flow'.screens.length = flow.screens.length) :
    flow'.requests = flow.requests ++ r.calls.map (⟨·, i, i⟩) := by
  cases h with
  | stay _ => rfl
  | drop _ _ _ => rfl
  | push _ _ _ =>
    rw [List.length_append, List.length_set, List.length_singleton] at hlength
    omega

/-- The picker has no rows before there is a selection. -/
theorem handle_rows {vc : SchoolSelectorViewController} {newUserData : Data}
    {e : SchoolSelectorViewController.Event} {r : Reaction SchoolSelectorViewController}
    (h : vc.currentSelection = none → vc.schoolPickerRows = 0)
    (hr : vc.handle newUserData e = some r) :
    r.vc.currentSelection = none → r.vc.schoolPickerRows = 0 := by
  cases e with
  | schoolListArrived schoolList =>
    cases schoolList with
    | none =>
      obtain rfl := Option.some.inj hr
      exact h
    | some list =>
      obtain ⟨first, -, hr⟩ := Option.bind_eq_some_iff.mp hr
      obtain rfl := Option.some.inj hr
      intro hnone
      cases hnone
  | didSelectRow row =>
    obtain ⟨-, hr⟩ := Option.ite_none_right_eq_some.mp hr
    unfold SchoolSelectorViewController.didSelectRow at hr
    split at hr
    next =>
      obtain ⟨picked, -, hr⟩ := Option.bind_eq_some_iff.mp hr
      obtain rfl := Option.some.inj hr
      intro hnone
      cases hnone
    next =>
      obtain rfl := Option.some.inj hr
      exact h
  | continueAction =>
    obtain rfl := Option.some.inj hr
    unfold SchoolSelectorViewController.continueAction
    split
    next => exact h
    next => exact h
  | courseListArrived skewl crsList =>
    obtain rfl := Option.some.inj hr
    exact h

theorem rows_of_reachable (h : (signUp lower).Reachable flow) :
    ∀ vc, .schoolSelector vc ∈ flow.screens → vc.currentSelection = none →
      vc.schoolPickerRows = 0 := by
  suffices hall : ∀ s ∈ flow.screens, ∀ vc, s = .schoolSelector vc →
      vc.currentSelection = none → vc.schoolPickerRows = 0 from
    fun vc hvc => hall _ hvc vc rfl
  refine h.invariant (P := fun flow => ∀ s ∈ flow.screens, ∀ vc, s = .schoolSelector vc →
    vc.currentSelection = none → vc.schoolPickerRows = 0) ?_ ?_
  · intro flow hinit s hs vc hvc
    obtain rfl : flow = launch := hinit
    rw [mem_launch_screens hs] at hvc
    cases hvc
  · intro flow e flow' hinv _ hs
    cases steps_of_step hs with
    | silent _ _ => exact hinv
    | deliver hd hdel =>
      rw [← hd.screens_eq] at hinv
      refine hdel.forall_screens (P := fun s => ∀ vc, s = .schoolSelector vc →
        vc.currentSelection = none → vc.schoolPickerRows = 0) hinv ?_ ?_
      · intro screen hscreen r hr vc' hvc'
        cases Screen.handled_of_handle hr with
        | userInfo _ | security _ _ | chooseClasses _ | addClass _ => cases hvc'
        | @schoolSelector vc se _ hhandle =>
          obtain rfl := Screen.schoolSelector.inj hvc'
          exact handle_rows (hinv _ hscreen vc rfl) hhandle
      · intro source identifier scene _ _ vc hvc
        have hscene := Screen.destination_scene source identifier scene
        rw [hvc] at hscene
        obtain rfl : .schoolSelector = scene := hscene
        obtain rfl := Screen.schoolSelector.inj hvc
        exact fun _ => rfl

/-- The selector does not get out of it by itself. -/
theorem handle_stranded {vc : SchoolSelectorViewController} {newUserData : Data}
    {e : SchoolSelectorViewController.Event} {r : Reaction SchoolSelectorViewController}
    (hnone : vc.currentSelection = none) (hrows : vc.schoolPickerRows = 0)
    (hlist : ∀ list, e ≠ .schoolListArrived list) (hr : vc.handle newUserData e = some r) :
    r.vc.currentSelection = none ∧ r.segue = none := by
  cases SchoolSelectorViewController.handles_of_handle hr with
  | select school _ hevent =>
    rcases hevent with ⟨list, rfl⟩ | ⟨row, rfl⟩
    · exact absurd rfl (hlist list)
    · obtain ⟨hlt, -⟩ := Option.ite_none_right_eq_some.mp hr
      rw [hrows] at hlt
      omega
  | keep hcurrent hsegue =>
    refine ⟨hcurrent.trans hnone, ?_⟩
    rcases hsegue with hsegue | ⟨-, hne⟩
    · exact hsegue
    · exact absurd hnone hne
  | rewrite skewl crsList => exact ⟨hnone, rfl⟩

/-- **Step lemma.** Who is stranded stays so. -/
theorem Stranded.step {e : Event} (h : flow.Stranded) (hreach : (signUp lower).Reachable flow)
    (hs : flow.step lower e = some flow') : flow'.Stranded := by
  obtain ⟨vc, htop, hnone, hquery⟩ := h
  cases steps_of_step hs with
  | silent _ _ =>
    exact ⟨vc, htop, hnone, fun request hrequest =>
      hquery request (List.mem_of_mem_eraseIdx hrequest)⟩
  | @deliver _ flow₀ _ i se hd hdel =>
    have hquery₀ : ∀ request ∈ flow₀.requests, request.call ≠ .getSchoolList :=
      hd.of_settle (P := fun flow => ∀ request ∈ flow.requests, request.call ≠ .getSchoolList)
        hquery fun k request hrequest => hquery request (List.mem_of_mem_eraseIdx hrequest)
    have htop₀ : flow₀.top = some (.schoolSelector vc) := by
      unfold top
      rw [hd.screens_eq]
      exact htop
    obtain ⟨screen, r, hi, hr, hout⟩ := hdel
    have hcalls : ∀ call ∈ r.calls, call ≠ .getSchoolList := by
      intro call hcall
      rcases Screen.handle_calls hr hcall with ⟨-, username, rfl, -⟩ | ⟨-, school, rfl⟩ |
        ⟨-, school, rfl, -⟩ <;> (intro heq; cases heq)
    -- what is left is the top, and that nothing is presented
    suffices hstays : (∃ vc', flow'.top = some (.schoolSelector vc') ∧
        vc'.currentSelection = none) ∧ flow'.screens.length = flow₀.screens.length by
      obtain ⟨⟨vc', htop', hnone'⟩, hlength⟩ := hstays
      refine ⟨vc', htop', hnone', ?_⟩
      rw [hout.requests_of_length hlength]
      intro request hrequest
      rcases List.mem_append.mp hrequest with hold | hnew
      · exact hquery₀ request hold
      · obtain ⟨call, hcall, rfl⟩ := List.mem_map.mp hnew
        exact hcalls call hcall
    by_cases hlast : i + 1 = flow₀.screens.length
    · rw [top_eq_getElem?, ← hlast, Nat.add_sub_cancel, hi] at htop₀
      obtain rfl := Option.some.inj htop₀
      cases Screen.handled_of_handle hr with
      | @schoolSelector _ se r hhandle =>
        have hmem : .schoolSelector vc ∈ flow.screens := List.mem_of_getLast? htop
        have hlist : ∀ list, se ≠ .schoolListArrived list := by
          intro list heq
          subst heq
          cases hd with
          | input hinput => cases hinput
          | callback hk hc =>
            cases hc with
            | schoolList _ _ _ => exact hquery _ (List.mem_of_getElem? hk) rfl
        obtain ⟨hnone', hsegue⟩ :=
          handle_stranded hnone (rows_of_reachable hreach vc hmem hnone) hlist hhandle
        refine ⟨⟨r.vc, hout.top_of_stay hlast hsegue, hnone'⟩, ?_⟩
        rcases hout.length_cases with ⟨heq, -⟩ | ⟨-, hsome, -⟩
        · exact heq
        · exact absurd hsegue hsome
    · have hlt := (List.getElem?_eq_some_iff.mp hi).1
      obtain ⟨heq, hlength⟩ := hout.top_of_ne hlt hlast
      rw [heq]
      exact ⟨⟨vc, htop₀, hnone⟩, hlength⟩

/-- **Run lemma.** -/
theorem Stranded.steps (h : flow.Stranded) (hreach : (signUp lower).Reachable flow)
    (hs : (signUp lower).StepsUnder ok flow flow') :
    flow'.Stranded ∧ (signUp lower).Reachable flow' := by
  induction hs with
  | refl => exact ⟨h, hreach⟩
  | tail _ hstep ih =>
    obtain ⟨hstranded, hreach'⟩ := ih
    obtain ⟨e, -, he⟩ := hstep
    exact ⟨hstranded.step hreach' he, hreach'.step trivial he⟩

/-- Some screen is shown. -/
theorem exists_top (h : (signUp lower).Reachable flow) : ∃ screen, flow.top = some screen := by
  suffices hlength : 0 < flow.screens.length from
    ⟨_, List.getLast?_eq_some_getLast (List.ne_nil_of_length_pos hlength)⟩
  refine h.invariant (P := fun flow => 0 < flow.screens.length) ?_ ?_
  · intro flow hinit
    obtain rfl : flow = launch := hinit
    exact Nat.zero_lt_one
  · intro flow e flow' hpos _ hs
    cases steps_of_step hs with
    | silent _ _ => exact hpos
    | deliver hd hdel =>
      obtain ⟨screen, r, -, -, hout⟩ := hdel
      have hle := hout.length_le
      rw [hd.screens_eq] at hle
      omega

/-- **From where sign-up can be completed.** Let queries for the schools be served.
From every reachable state some steps lead to the last screen, except from a
school selector without a selection whose query for the schools is gone: from
there none do. -/
theorem finishes_iff (hok : Serves ok) (h : (signUp lower).Reachable flow) :
    Finishes ok lower flow ↔ ¬flow.Stranded := by
  constructor
  · intro hfinishes hstranded
    obtain ⟨flow', hsteps, hlast⟩ := hfinishes
    obtain ⟨⟨vc, htop, -⟩, -⟩ := hstranded.steps h hsteps
    rw [htop] at hlast
    cases hlast
  · intro hnot
    obtain ⟨screen, htop⟩ := exists_top h
    cases screen with
    | userInfo vc => exact finishes_of_userInfo hok h htop
    | security vc => exact finishes_of_security hok h htop
    | chooseClasses vc => exact finishes_of_chooser hok htop
    | addClass vc => exact finishes_of_form hok h htop
    | finalSetup => exact ⟨flow, .refl, htop⟩
    | schoolSelector vc =>
      cases hselection : vc.currentSelection with
      | some school => exact finishes_of_selection hok htop hselection
      | none =>
        by_cases hquery : ∃ request ∈ flow.requests, request.call = .getSchoolList
        · obtain ⟨request, hrequest, hcall⟩ := hquery
          exact finishes_of_listing hok h htop hrequest hcall
        · refine absurd ⟨vc, htop, hselection, ?_⟩ hnot
          intro request hrequest hcall
          exact hquery ⟨request, hrequest, hcall⟩

end Flow

end Scholarli
