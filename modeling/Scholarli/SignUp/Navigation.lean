import Scholarli.SignUp.Progress
import Scholarli.SignUp.Schedules

/-!
# Navigation along the storyboard

The storyboard as a graph of scenes, and the stacks of screens that the code
builds in it. `Walk` is the abstract side: the walks from the first scene. The
two are the same (`reachable_stack_iff`): no handler goes where the storyboard
has no segue for it, and every walk is that of some run. The second half is
about runs of any length, with any number of visits to the class form; it is
carried by `Ready`, which says what a screen needs to be left by each of the
segues it has.
-/

namespace Scholarli

open Base (Machine)

variable {lower : String → String}

/-- The walks along the storyboard, from the first scene. -/
inductive Walk : List Scene → Prop
  | start : Walk [.userInfo]
  | next (scenes : List Scene) {source dest : Scene} (identifier : String)
      (h : Walk (scenes ++ [source])) (hsegue : storyboard source identifier = some dest) :
      Walk (scenes ++ [source] ++ [dest])

namespace Flow

/-- The scenes of the screens, bottom first. -/
def stack (flow : Flow) : List Scene := flow.screens.map Screen.scene

variable {flow flow' flow₀ : Flow}

theorem stack_eq_concat {screen : Screen} (h : flow.top = some screen) :
    ∃ scenes, flow.stack = scenes ++ [screen.scene] := by
  obtain ⟨below, hbelow⟩ := List.getLast?_eq_some_iff.mp h
  refine ⟨below.map Screen.scene, ?_⟩
  unfold stack
  rw [hbelow, List.map_append, List.map_singleton]

/-- The screen that reacts keeps its scene. -/
theorem stack_commit {i : Nat} {screen : Screen} {r : Reaction Screen}
    (hi : flow.screens[i]? = some screen) (hscene : r.vc.scene = screen.scene) :
    (flow.screens.set i r.vc).map Screen.scene = flow.stack := by
  unfold stack
  rw [List.map_set, hscene]
  obtain ⟨hlt, rfl⟩ := List.getElem?_eq_some_iff.mp hi
  refine List.ext_getElem? ?_
  intro j
  rw [List.getElem?_set]
  split
  next hj =>
    subst hj
    rw [List.getElem?_map, List.getElem?_eq_getElem hlt]
    simp [hlt]
  next => rfl

theorem stack_push {i : Nat} {screen : Screen} {r : Reaction Screen}
    (hi : flow.screens[i]? = some screen) (hscene : r.vc.scene = screen.scene)
    (identifier : String) (dest : Scene) :
    (flow.screens.set i r.vc ++ [r.vc.destination identifier dest]).map Screen.scene =
      flow.stack ++ [dest] := by
  rw [List.map_append, stack_commit hi hscene, List.map_singleton, Screen.destination_scene]

/-- **A delivery keeps the stack or extends it by a segue of its top.** -/
theorem Delivers.stack_cases {i : Nat} {e : ScreenEvent} (h : Delivers lower flow i e flow') :
    flow'.stack = flow.stack ∨
    ∃ screen identifier dest, flow.top = some screen ∧
      storyboard screen.scene identifier = some dest ∧ flow'.stack = flow.stack ++ [dest] := by
  obtain ⟨screen, r, hi, hr, hout⟩ := h
  have hscene := Screen.handle_scene hr
  cases hout with
  | stay _ => exact Or.inl (stack_commit hi hscene)
  | drop _ _ _ => exact Or.inl (stack_commit hi hscene)
  | @push identifier dest _ hdest htop =>
    refine Or.inr ⟨screen, identifier, dest, ?_, ?_, ?_⟩
    · rw [top_eq_getElem?, ← htop]
      exact hi
    · rw [← hscene]
      exact hdest
    · exact stack_push hi hscene identifier dest

/-- **The stack is a walk**, in every reachable state. -/
theorem walk_of_reachable (h : (signUp lower).Reachable flow) : Walk flow.stack := by
  refine h.invariant (P := fun flow => Walk flow.stack) ?_ ?_
  · intro flow hinit
    obtain rfl : flow = launch := hinit
    exact .start
  · intro flow e flow' hwalk _ hs
    cases steps_of_step hs with
    | silent _ _ => exact hwalk
    | @deliver _ flow₀ _ _ _ hd hdel =>
      have hstack : flow₀.stack = flow.stack := by
        unfold stack
        rw [hd.screens_eq]
      rcases hdel.stack_cases with heq | ⟨screen, identifier, dest, htop, hsegue, heq⟩
      · rw [heq, hstack]
        exact hwalk
      · obtain ⟨scenes, hscenes⟩ := stack_eq_concat htop
        rw [← hstack, hscenes] at hwalk
        rw [heq, hscenes]
        exact .next scenes identifier hwalk hsegue

/-! ## Every walk is walked -/

/-- The event makes the screen on top present a new one over it. -/
structure Pushes (lower : String → String) (flow : Flow) (e : Event) (identifier : String)
    (dest : Scene) (r : Reaction Screen) (flow' : Flow) : Prop where
  step : flow.step lower e = some flow'
  segue : flow.segue lower e = some identifier
  stack : flow'.stack = flow.stack ++ [dest]
  top : flow'.top = some (r.vc.destination identifier dest)
  length : flow'.screens.length = flow.screens.length + 1
  newUserData : flow'.newUserData = r.vc.prepare identifier r.newUserData
  calls : ∀ call ∈ Screen.loadCalls dest,
    ⟨call, flow.screens.length, flow.screens.length⟩ ∈ flow'.requests

theorem pushes_of_dispatches {e : Event} {i : Nat} {se : ScreenEvent} {screen : Screen}
    {r : Reaction Screen} {identifier : String} {dest : Scene} (hd : Dispatches flow e flow₀ i se)
    (hi : flow₀.screens[i]? = some screen)
    (hr : screen.handle lower flow₀.newUserData se = some r) (htop : i + 1 = flow₀.screens.length)
    (hsegue : r.segue = some identifier) (hdest : storyboard r.vc.scene identifier = some dest) :
    ∃ flow', Pushes lower flow e identifier dest r flow' := by
  obtain ⟨flow', hs, hout⟩ := step_of_dispatches hd hi hr
  have hstack : flow₀.stack = flow.stack := by
    unfold stack
    rw [hd.screens_eq]
  obtain ⟨htop', hlength, hcalls⟩ := hout.top_of_segue htop hsegue hdest
  rw [hd.screens_eq] at hlength hcalls
  refine ⟨flow', hs, ?_, ?_, htop', hlength, ?_, hcalls⟩
  · show (flow.dispatch e).bind _ = _
    rw [hd.dispatch_eq]
    show (flow₀.screens[i]?.bind fun screen => _) = _
    rw [hi, Option.bind_some, hr]
    exact hsegue
  · cases hout with
    | stay hnone =>
      rw [hnone] at hsegue
      cases hsegue
    | drop _ _ hdropped => exact absurd htop hdropped
    | push hsome hdest' _ =>
      rw [hsegue] at hsome
      obtain rfl := Option.some.inj hsome
      rw [hdest] at hdest'
      obtain rfl := Option.some.inj hdest'
      rw [← hstack]
      exact stack_push hi (Screen.handle_scene hr) identifier dest
  · rcases hout.newUserData_cases with ⟨hnone, -⟩ | ⟨identifier', scene, hsome, -, heq⟩
    · rw [hnone] at hsegue
      cases hsegue
    · rw [hsegue] at hsome
      obtain rfl := Option.some.inj hsome
      exact heq

/-- The same for input. -/
theorem pushes_of_input (lower : String → String) (e : ScreenEvent) {screen : Screen}
    {r : Reaction Screen} {identifier : String} {dest : Scene} (htop : flow.top = some screen)
    (hinput : e.isInput = true) (hr : screen.handle lower flow.newUserData e = some r)
    (hsegue : r.segue = some identifier) (hdest : storyboard r.vc.scene identifier = some dest) :
    ∃ flow', Pushes lower flow (.input e) identifier dest r flow' := by
  rw [top_eq_getElem?] at htop
  have hlt := (List.getElem?_eq_some_iff.mp htop).1
  exact pushes_of_dispatches (.input hinput) htop hr (by omega) hsegue hdest

/-- An event that the screen on top handles without a segue. -/
theorem Outcome.stack_of_stay {i : Nat} {screen : Screen} {e : ScreenEvent} {r : Reaction Screen}
    (h : Outcome flow i r flow') (hi : flow.screens[i]? = some screen)
    (hr : screen.handle lower flow.newUserData e = some r) (hsegue : r.segue = none) :
    flow'.stack = flow.stack ∧ flow'.newUserData = r.newUserData := by
  cases h with
  | stay _ => exact ⟨stack_commit hi (Screen.handle_scene hr), rfl⟩
  | drop hsome _ _ | push hsome _ _ =>
    rw [hsegue] at hsome
    cases hsome

/-- A form is filled in. -/
theorem run_form :
    ∀ (es : List AddClassViewController.Event) {flow : Flow} {vc vc' : AddClassViewController},
      (∀ e ∈ es, AddClassViewController.segue e = none) → (signUp lower).Reachable flow →
      flow.top = some (.addClass vc) → AddClassViewController.machine.run vc es = some vc' →
      ∃ flow', (signUp lower).Reachable flow' ∧ flow'.top = some (.addClass vc') ∧
        flow'.stack = flow.stack ∧ flow'.newUserData = flow.newUserData
  | [], flow, vc, vc', _, h, htop, hrun => by
    obtain rfl := Option.some.inj hrun
    exact ⟨flow, h, htop, rfl, rfl⟩
  | e :: es, flow, vc, vc', hes, h, htop, hrun => by
    obtain ⟨vc₁, h₁, h₂⟩ := Option.bind_eq_some_iff.mp hrun
    have hr : (Screen.addClass vc).handle lower flow.newUserData (.addClass e) =
        some { vc := .addClass vc₁, newUserData := flow.newUserData,
               segue := AddClassViewController.segue e } := by
      have hs : vc.step e = some vc₁ := h₁
      simp [Screen.handle, AddClassViewController.handle, hs, Reaction.map]
    have hsegue := hes e List.mem_cons_self
    obtain ⟨flow₁, hs₁, hout₁, hi₁⟩ := step_input lower (.addClass e) htop rfl hr
    have hlast := htop
    rw [top_eq_getElem?] at hlast
    obtain ⟨hstack₁, hdata₁⟩ := hout₁.stack_of_stay hlast hr hsegue
    obtain ⟨flow', hreach', htop', hstack', hdata'⟩ := run_form es
      (fun e' he' => hes e' (List.mem_cons_of_mem e he')) (h.step trivial hs₁)
      (hout₁.top_of_stay hi₁ hsegue) h₂
    exact ⟨flow', hreach', htop', hstack'.trans hstack₁, hdata'.trans hdata₁⟩

/-- A form as a chooser presents it, with one teacher to pick. -/
def blankForm (schedule : Option Schedule) : AddClassViewController :=
  AddClassViewController.viewDidLoad
    { school := some { morristown with staff := some [kappel.bare] }, scheduleToReturn := schedule }

/-- The screen on top can be left by every segue that its scene has. -/
inductive Ready (flow : Flow) : Prop
  | userInfo (h : flow = launch)
  | security {vc : SecurityViewController} (htop : flow.top = some (.security vc))
      (hconfirm : vc.password = vc.confirmPassword)
  | schoolSelector {vc : SchoolSelectorViewController} (htop : flow.top = some (.schoolSelector vc))
      {i : Nat} (hi : i + 1 = flow.screens.length)
      (hrequest : ⟨.getSchoolList, i, i⟩ ∈ flow.requests)
  | chooseClasses {vc : ChooseClassesViewController} (htop : flow.top = some (.chooseClasses vc))
      (hschool : schoolOf flow.newUserData = some morristown)
  | addClass {schedule : Option Schedule} (htop : flow.top = some (.addClass (blankForm schedule)))
      (hschool : schoolOf flow.newUserData = some morristown)
  | finalSetup (htop : flow.top = some .finalSetup)

/-- Over the same stack, the segue can be performed, to a screen that is ready
again. -/
def Performs (lower : String → String) (flow : Flow) (identifier : String) (dest : Scene) : Prop :=
  ∃ flow₁ e flow', (signUp lower).Reachable flow₁ ∧ flow₁.stack = flow.stack ∧
    flow₁.segue lower e = some identifier ∧ flow₁.step lower e = some flow' ∧
    flow'.stack = flow₁.stack ++ [dest] ∧ Ready flow'

theorem Pushes.performs {flow₁ : Flow} {e : Event} {identifier : String} {dest : Scene}
    {r : Reaction Screen} (h : Pushes lower flow₁ e identifier dest r flow')
    (hreach : (signUp lower).Reachable flow₁) (hstack : flow₁.stack = flow.stack)
    (hready : Ready flow') : Performs lower flow identifier dest :=
  ⟨flow₁, e, flow', hreach, hstack, h.segue, h.step, h.stack, hready⟩

theorem performs_one : Performs lower launch "signUpSegueOne" .security := by
  obtain ⟨flow₁, hrun, hstack, hsegue, flow', hs, hstack', htop⟩ : ∃ flow₁,
      (signUp lower).run launch (register.take 6) = some flow₁ ∧ flow₁.stack = launch.stack ∧
      flow₁.segue lower (.answer 0 (.usernames (.values []))) = some "signUpSegueOne" ∧
      ∃ flow', flow₁.step lower (.answer 0 (.usernames (.values []))) = some flow' ∧
        flow'.stack = flow₁.stack ++ [.security] ∧
        flow'.top = some (.security (SecurityViewController.viewDidLoad {})) :=
    ⟨_, rfl, rfl, rfl, _, rfl, rfl, rfl⟩
  have hreach := Machine.run_reachable _ (.init rfl) hrun
  exact ⟨flow₁, _, flow', hreach, hstack, hsegue, hs, hstack', .security htop rfl⟩

theorem performs_two (h : (signUp lower).Reachable flow) {vc : SecurityViewController}
    (htop : flow.top = some (.security vc)) (hconfirm : vc.password = vc.confirmPassword) :
    Performs lower flow "signUpSegueTwo" .schoolSelector := by
  have hr : (Screen.security vc).handle lower flow.newUserData (.security .continueAction) =
      some { vc := .security { vc with errorLabel := ⟨some "", true⟩ },
             newUserData := vc.updateAccountInfo flow.newUserData,
             segue := some "signUpSegueTwo" } := by
    simp [Screen.handle, SecurityViewController.handle,
      SecurityViewController.checkForConfirmation, hconfirm, Reaction.map]
  obtain ⟨flow', hpush⟩ := pushes_of_input lower _ htop rfl hr rfl rfl
  refine hpush.performs h rfl (.schoolSelector hpush.top hpush.length.symm ?_)
  exact hpush.calls _ List.mem_cons_self

theorem performs_three (h : (signUp lower).Reachable flow) {vc : SchoolSelectorViewController}
    (htop : flow.top = some (.schoolSelector vc)) {i : Nat} (hi : i + 1 = flow.screens.length)
    (hrequest : ⟨.getSchoolList, i, i⟩ ∈ flow.requests) :
    Performs lower flow "signUpSegueThree" .chooseClasses := by
  obtain ⟨k, hk⟩ := List.mem_iff_getElem?.mp hrequest
  have hlist : getSchoolList (.documents [morristownDocument]) = some (some [morristown]) := rfl
  have hlast : (flow.settle k).screens[i]? = some (.schoolSelector vc) := by
    rw [top_eq_getElem?, ← hi] at htop
    exact htop
  -- the list arrives, and its first school is selected
  obtain ⟨r, vc', hr, hvc', hselected, hsegue, hschool⟩ : ∃ r vc',
      (Screen.schoolSelector vc).handle lower (flow.settle k).newUserData
        (.schoolSelector (.schoolListArrived (some [morristown]))) = some r ∧
      r.vc = .schoolSelector vc' ∧ vc'.currentSelection = some morristown ∧ r.segue = none ∧
      schoolOf r.newUserData = some morristown :=
    ⟨_, _, rfl, rfl, rfl, rfl, SchoolSelectorViewController.schoolOf_writeSchool _ _⟩
  obtain ⟨flow₁, hs₁, hout₁⟩ :=
    step_of_dispatches (.callback hk (.schoolList i i hlist)) hlast hr
  have htop₁ := hout₁.top_of_stay hi hsegue
  rw [hvc'] at htop₁
  obtain ⟨hstack₁, hdata₁⟩ := hout₁.stack_of_stay hlast hr hsegue
  have hr₁ : (Screen.schoolSelector vc').handle lower flow₁.newUserData
      (.schoolSelector .continueAction) =
      some { vc := .schoolSelector vc', newUserData := flow₁.newUserData,
             segue := some "signUpSegueThree" } := by
    simp [Screen.handle, SchoolSelectorViewController.handle,
      SchoolSelectorViewController.continueAction, hselected, Reaction.map]
  obtain ⟨flow', hpush⟩ := pushes_of_input lower _ htop₁ rfl hr₁ rfl rfl
  refine hpush.performs (h.step trivial hs₁) hstack₁ (.chooseClasses hpush.top ?_)
  rw [hpush.newUserData]
  show schoolOf flow₁.newUserData = _
  rw [hdata₁]
  exact hschool

theorem performs_four (h : (signUp lower).Reachable flow) {vc : ChooseClassesViewController}
    (htop : flow.top = some (.chooseClasses vc)) :
    Performs lower flow "signUpSegueFour" .finalSetup := by
  obtain ⟨flow', hpush⟩ :=
    pushes_of_input lower (.chooseClasses .tapToContinue) htop rfl rfl rfl rfl
  exact hpush.performs h rfl (.finalSetup hpush.top)

theorem performs_toAddClass (h : (signUp lower).Reachable flow) {vc : ChooseClassesViewController}
    (htop : flow.top = some (.chooseClasses vc))
    (hschool : schoolOf flow.newUserData = some morristown) :
    Performs lower flow "chooseClassToAddClass" .addClass := by
  have hlast := htop
  rw [top_eq_getElem?] at hlast
  -- the query for the staff is made
  have hr : (Screen.chooseClasses vc).handle lower flow.newUserData (.chooseClasses .addClass) =
      some { vc := .chooseClasses vc, newUserData := flow.newUserData,
             calls := [.getFaculty morristown] } := by
    simp [Screen.handle, ChooseClassesViewController.handle, ChooseClassesViewController.step,
      ChooseClassesViewController.calls, ChooseClassesViewController.segue, hschool, Reaction.map]
  obtain ⟨flow₁, hs₁, hout₁, hi₁⟩ := step_input lower _ htop rfl hr
  have htop₁ := hout₁.top_of_stay hi₁ rfl
  obtain ⟨hstack₁, hdata₁⟩ := hout₁.stack_of_stay hlast hr rfl
  have hlength₁ : flow₁.screens.length = flow.screens.length := by
    rcases hout₁.length_cases with ⟨heq, -⟩ | ⟨-, hsegue, -⟩
    · exact heq
    · exact absurd rfl hsegue
  have hquery : Request.mk (.getFaculty morristown) (flow.screens.length - 1)
      (flow.screens.length - 1) ∈ flow₁.requests := by
    rw [hout₁.requests_of_length hlength₁]
    exact List.mem_append_right _ List.mem_cons_self
  obtain ⟨k, hk⟩ := List.mem_iff_getElem?.mp hquery
  -- and answered
  have hstaff : getFaculty (.documents [kappel.document]) = some [kappel.bare] := rfl
  have hlast₁ : (flow₁.settle k).screens[flow.screens.length - 1]? = some (.chooseClasses vc) := by
    rw [top_eq_getElem?, hlength₁] at htop₁
    exact htop₁
  obtain ⟨flow', hpush⟩ := pushes_of_dispatches (.callback hk (.faculty morristown _ _ hstaff))
    hlast₁ rfl (hi₁.trans hlength₁.symm) rfl rfl
  refine hpush.performs (h.step trivial hs₁) hstack₁ (.addClass hpush.top ?_)
  rw [hpush.newUserData]
  show schoolOf flow₁.newUserData = _
  rw [hdata₁]
  exact hschool

theorem performs_cancel (h : (signUp lower).Reachable flow) {schedule : Option Schedule}
    (htop : flow.top = some (.addClass (blankForm schedule)))
    (hschool : schoolOf flow.newUserData = some morristown) :
    Performs lower flow "cancelAddClass" .chooseClasses := by
  obtain ⟨flow', hpush⟩ := pushes_of_input lower (.addClass .cancel) htop rfl rfl rfl rfl
  refine hpush.performs h rfl (.chooseClasses hpush.top ?_)
  rw [hpush.newUserData]
  exact hschool

/-- The form is filled in for a course and submitted. -/
def fillAndSubmit : List AddClassViewController.Event :=
  [ .editClassTitle "Latin", .teacher, .pickerDidSelectRow 0, .period, .pickerDidSelectRow 2,
    .addClass "c1" ]

theorem performs_returned (h : (signUp lower).Reachable flow) {schedule : Option Schedule}
    (htop : flow.top = some (.addClass (blankForm schedule)))
    (hschool : schoolOf flow.newUserData = some morristown) :
    Performs lower flow "returnToSignUpChooseClass" .chooseClasses := by
  obtain ⟨vc', hrun, newCrs, halert⟩ : ∃ vc',
      AddClassViewController.machine.run (blankForm schedule) fillAndSubmit = some vc' ∧
      ∃ newCrs, vc'.successAlert = some (some newCrs) := ⟨_, rfl, _, rfl⟩
  have hstays : ∀ e ∈ fillAndSubmit, AddClassViewController.segue e = none := by
    intro e he
    simp only [fillAndSubmit, List.mem_cons, List.not_mem_nil, or_false] at he
    rcases he with rfl | rfl | rfl | rfl | rfl | rfl <;> rfl
  obtain ⟨flow₁, h₁, htop₁, hstack₁, hdata₁⟩ := run_form fillAndSubmit hstays h htop hrun
  have hr : (Screen.addClass vc').handle lower flow₁.newUserData (.addClass .ok) =
      some { vc := .addClass (vc'.okHandler newCrs), newUserData := flow₁.newUserData,
             segue := some "returnToSignUpChooseClass" } := by
    simp [Screen.handle, AddClassViewController.handle, AddClassViewController.step, halert,
      AddClassViewController.segue, Reaction.map]
  obtain ⟨flow', hpush⟩ := pushes_of_input lower _ htop₁ rfl hr rfl rfl
  refine hpush.performs h₁ hstack₁ (.chooseClasses hpush.top ?_)
  rw [hpush.newUserData]
  show schoolOf flow₁.newUserData = _
  rw [hdata₁]
  exact hschool

/-- **Step lemma for walks.** From a screen that is ready, every segue of its
scene can be performed. -/
theorem Ready.performs (hready : Ready flow) (h : (signUp lower).Reachable flow)
    {scenes : List Scene} {source dest : Scene} {identifier : String}
    (hstack : flow.stack = scenes ++ [source])
    (hsegue : storyboard source identifier = some dest) :
    Performs lower flow identifier dest := by
  have hsource : ∀ {screen : Screen}, flow.top = some screen → source = screen.scene := by
    intro screen htop
    obtain ⟨below, hbelow⟩ := stack_eq_concat htop
    rw [hstack] at hbelow
    exact (List.append_inj' hbelow rfl).2 |> List.singleton_inj.mp
  cases hready with
  | userInfo hlaunch =>
    subst hlaunch
    obtain rfl := hsource rfl
    cases segue_of_storyboard hsegue with
    | one => exact performs_one
  | security htop hconfirm =>
    obtain rfl := hsource htop
    cases segue_of_storyboard hsegue with
    | two => exact performs_two h htop hconfirm
  | schoolSelector htop hi hrequest =>
    obtain rfl := hsource htop
    cases segue_of_storyboard hsegue with
    | three => exact performs_three h htop hi hrequest
  | chooseClasses htop hschool =>
    obtain rfl := hsource htop
    cases segue_of_storyboard hsegue with
    | four => exact performs_four h htop
    | toAddClass => exact performs_toAddClass h htop hschool
  | addClass htop hschool =>
    obtain rfl := hsource htop
    cases segue_of_storyboard hsegue with
    | cancel => exact performs_cancel h htop hschool
    | returned => exact performs_returned h htop hschool
  | finalSetup htop =>
    obtain rfl := hsource htop
    cases segue_of_storyboard hsegue

/-- **Run lemma for walks.** Every walk ends at a screen that is ready. -/
theorem ready_of_walk {scenes : List Scene} (h : Walk scenes) :
    ∃ flow, (signUp lower).Reachable flow ∧ flow.stack = scenes ∧ Ready flow := by
  induction h with
  | start => exact ⟨launch, .init rfl, rfl, .userInfo rfl⟩
  | next _ _ _ hsegue ih =>
    obtain ⟨flow, hreach, hstack, hready⟩ := ih
    obtain ⟨flow₁, e, flow', hreach₁, hstack₁, -, hs, hstack', hready'⟩ :=
      hready.performs hreach hstack hsegue
    refine ⟨flow', hreach₁.step trivial hs, ?_, hready'⟩
    rw [hstack', hstack₁, hstack]

/-- **The stacks are the walks.** -/
theorem reachable_stack_iff (scenes : List Scene) :
    (∃ flow, (signUp lower).Reachable flow ∧ flow.stack = scenes) ↔ Walk scenes := by
  constructor
  · intro hex
    obtain ⟨flow, hreach, rfl⟩ := hex
    exact walk_of_reachable hreach
  · intro hwalk
    obtain ⟨flow, hreach, hstack, -⟩ := ready_of_walk hwalk
    exact ⟨flow, hreach, hstack⟩

/-- **No segue is dead.** At the end of every walk, each of the segues that the
storyboard has for that scene is performed in some run, and presents its
destination. -/
theorem every_segue_performed {scenes : List Scene} {source dest : Scene} {identifier : String}
    (hwalk : Walk (scenes ++ [source])) (hsegue : storyboard source identifier = some dest) :
    ∃ flow e flow', (signUp lower).Reachable flow ∧ flow.stack = scenes ++ [source] ∧
      flow.segue lower e = some identifier ∧ flow.step lower e = some flow' ∧
      flow'.stack = scenes ++ [source, dest] := by
  obtain ⟨flow, (hreach : (signUp lower).Reachable flow), hstack, hready⟩ := ready_of_walk hwalk
  obtain ⟨flow₁, e, flow', hreach₁, hstack₁, hperformed, hs, hstack', -⟩ :=
    hready.performs hreach hstack hsegue
  refine ⟨flow₁, e, flow', hreach₁, hstack₁.trans hstack, hperformed, hs, ?_⟩
  rw [hstack', hstack₁, hstack, List.append_assoc]
  rfl

/-- The form that is presented over the first chooser is left with a course. -/
theorem every_segue_performed_returned :
    ∃ flow e flow', (signUp String.toLower).Reachable flow ∧
      flow.segue String.toLower e = some "returnToSignUpChooseClass" ∧
      flow.step String.toLower e = some flow' ∧
      flow'.stack =
        [.userInfo, .security, .schoolSelector, .chooseClasses, .addClass, .chooseClasses] := by
  have h₁ : Walk ([.userInfo] ++ [.security]) := .next [] "signUpSegueOne" .start rfl
  have h₂ : Walk ([.userInfo, .security] ++ [.schoolSelector]) :=
    .next [.userInfo] "signUpSegueTwo" h₁ rfl
  have h₃ : Walk ([.userInfo, .security, .schoolSelector] ++ [.chooseClasses]) :=
    .next [.userInfo, .security] "signUpSegueThree" h₂ rfl
  have h₄ : Walk ([.userInfo, .security, .schoolSelector, .chooseClasses] ++ [.addClass]) :=
    .next [.userInfo, .security, .schoolSelector] "chooseClassToAddClass" h₃ rfl
  have hsegue : storyboard .addClass "returnToSignUpChooseClass" = some .chooseClasses := rfl
  obtain ⟨flow, e, flow', hreach, -, hperformed, hs, hstack⟩ := every_segue_performed h₄ hsegue
  exact ⟨flow, e, flow', hreach, hperformed, hs, hstack⟩

end Flow

end Scholarli
