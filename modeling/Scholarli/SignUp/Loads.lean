import Scholarli.SignUp.Flow

/-!
# Screens and the queries that load them

Three queries are made while a screen is being presented, for that screen:
the school list (by the school selector's `viewDidLoad`), the catalogue of
the chosen school (by the segue to the class chooser) and the catalogue
that comes with the schedule (by the segues back from the class form).
This file has what every run maintains about them.

* `Rank` — where on the stack a scene can be: the first three have their
  fixed places, all others come after.
* `LoadInv.unloaded` — while such a query is in flight, its screen is still
  as it was presented; `LoadInv.unique` — there is at most one for a screen;
  `LoadInv.returns` — the form that waits behind a return is still there.
* `step_loadInv` is the step lemma, `loadInv_of_reachable` the run lemma.
-/

namespace Scholarli

open Base (Machine)

variable {lower : String → String}

/-- The places on the stack that a scene can have. -/
def Rank : Scene → Nat → Prop
  | .userInfo, i => i = 0
  | .security, i => i = 1
  | .schoolSelector, i => i = 2
  | .chooseClasses, i => 3 ≤ i
  | .addClass, i => 3 ≤ i
  | .finalSetup, i => 3 ≤ i

/-- A segue leads from a place to a next one. -/
theorem Segue.rank {source dest : Scene} {identifier : String} {i : Nat}
    (h : Segue source identifier dest) (hi : Rank source i) : Rank dest (i + 1) := by
  cases h <;> simp only [Rank] at hi ⊢ <;> omega

/-- The screen that a query loads, if it is one of the three. -/
def Request.load? (request : Request) : Option Nat :=
  match request.call with
  | .getSchoolList => some request.caller
  | .courseListForChooseClasses _ => some request.dest
  | .courseListForReturn _ _ => some request.dest
  | _ => none

/-- The callback of such a query. -/
def ScreenEvent.IsLoad : ScreenEvent → Prop
  | .schoolSelector (.schoolListArrived _) => True
  | .chooseClasses e => e.isLoad = true
  | _ => False

/-- The screen is one that gets loaded, and has not been. -/
def Screen.Unloaded : Screen → Prop
  | .schoolSelector vc => vc.currentSelection = none ∧ vc.schoolPickerRows = 0
  | .chooseClasses vc => vc.currentUserSchedule = none
  | _ => False

/-- The invariant of the stack and of the queries that load its screens. -/
structure LoadInv (flow : Flow) : Prop where
  rank : ∀ j s, flow.screens[j]? = some s → Rank s.scene j
  unloaded : ∀ request ∈ flow.requests, ∀ j, request.load? = some j →
    ∃ s, flow.screens[j]? = some s ∧ s.Unloaded
  unique : flow.requests.Pairwise fun a b => ∀ j, a.load? = some j → b.load? ≠ some j
  returns : ∀ request ∈ flow.requests, ∀ identifier school,
    request.call = .courseListForReturn identifier school →
    request.caller + 1 = request.dest ∧ ∃ ac, flow.screens[request.caller]? = some (.addClass ac)

/-! ## One handler -/

/-- A chooser without a schedule gets none from anything but a load. -/
theorem ChooseClassesViewController.step_schedule_eq_none
    {vc vc' : ChooseClassesViewController} {e : ChooseClassesViewController.Event}
    (hs : vc.step lower e = some vc') (hload : ¬(ScreenEvent.chooseClasses e).IsLoad)
    (h : vc.currentUserSchedule = none) : vc'.currentUserSchedule = none := by
  cases scheduleStep_of_step hs with
  | arrived school crsList _ => exact absurd rfl hload
  | returned identifier school crsList schedule _ => exact absurd rfl hload
  | tapped hsched _ _ _ =>
    rw [h] at hsched
    exact nomatch hsched
  | kept _ _ heq => exact heq.trans h

/-- A selector without schools offers no row, and gets no selection from
anything but the list. -/
theorem SchoolSelectorViewController.handle_unloaded {vc : SchoolSelectorViewController}
    {newUserData : Data} {e : SchoolSelectorViewController.Event}
    {r : Reaction SchoolSelectorViewController} (hr : vc.handle newUserData e = some r)
    (hload : ¬(ScreenEvent.schoolSelector e).IsLoad)
    (h : vc.currentSelection = none ∧ vc.schoolPickerRows = 0) :
    r.vc.currentSelection = none ∧ r.vc.schoolPickerRows = 0 := by
  -- without rows there is nothing to pick, and without a selection no way on
  obtain ⟨hnone, hrows⟩ := h
  cases e with
  | schoolListArrived schoolList => exact absurd trivial hload
  | didSelectRow row =>
    obtain ⟨hrow, -⟩ := Option.ite_none_right_eq_some.mp hr
    omega
  | continueAction =>
    obtain rfl := Option.some.inj hr
    unfold continueAction
    split
    next school hsome =>
      rw [hnone] at hsome
      exact nomatch hsome
    next => exact ⟨hnone, hrows⟩
  | courseListArrived skewl crsList =>
    obtain rfl := Option.some.inj hr
    exact ⟨hnone, hrows⟩

theorem Screen.handle_unloaded {screen : Screen} {newUserData : Data} {e : ScreenEvent}
    {r : Reaction Screen} (hr : screen.handle lower newUserData e = some r) (hload : ¬e.IsLoad)
    (h : screen.Unloaded) : r.vc.Unloaded := by
  cases handled_of_handle hr with
  | schoolSelector hr' => exact SchoolSelectorViewController.handle_unloaded hr' hload h
  | chooseClasses hs => exact ChooseClassesViewController.step_schedule_eq_none hs hload h
  | userInfo _ | security _ _ | addClass _ => exact nomatch h

/-- No handler starts a load; only presentations do. -/
theorem Screen.handle_load? {screen : Screen} {newUserData : Data} {e : ScreenEvent}
    {r : Reaction Screen} (hr : screen.handle lower newUserData e = some r) {call : Call}
    (hcall : call ∈ r.calls) (i : Nat) : (⟨call, i, i⟩ : Request).load? = none := by
  rcases handle_calls hr hcall with ⟨-, username, rfl, -⟩ | ⟨-, school, rfl⟩ |
    ⟨-, school, rfl, -⟩ <;> rfl

theorem Screen.addClass_of_scene {screen : Screen} (h : screen.scene = .addClass) :
    ∃ ac, screen = .addClass ac := by
  cases screen with
  | addClass ac => exact ⟨ac, rfl⟩
  | userInfo vc | security vc | schoolSelector vc | chooseClasses vc | finalSetup =>
    exact nomatch h

/-! ## One presentation -/

/-- The queries made for a screen while it is presented. -/
def presented (source : Screen) (identifier : String) (newUserData : Data) (scene : Scene)
    (i : Nat) : List Request :=
  (source.prepareCalls identifier newUserData).map (⟨·, i, i + 1⟩)
    ++ (Screen.loadCalls scene).map (⟨·, i + 1, i + 1⟩)

/-- There is at most one; it loads the new screen, which is unloaded, and if
it comes from a way back then the source is a class form. -/
theorem presented_cases {source : Screen} {identifier : String} {scene : Scene}
    (newUserData : Data) (i : Nat) (h : Segue source.scene identifier scene) :
    presented source identifier newUserData scene i = [] ∨
    ∃ request, presented source identifier newUserData scene i = [request] ∧
      request.load? = some (i + 1) ∧ (source.destination identifier scene).Unloaded ∧
      ∀ id school, request.call = .courseListForReturn id school →
        request.caller = i ∧ request.dest = i + 1 ∧ source.scene = .addClass := by
  cases source with
  | userInfo vc =>
    cases h
    exact Or.inl rfl
  | security vc =>
    cases h
    exact Or.inr ⟨_, rfl, rfl, ⟨rfl, rfl⟩, nofun⟩
  | schoolSelector vc =>
    cases h
    unfold presented
    show (vc.prepare _).map _ ++ [] = [] ∨ ∃ request, (vc.prepare _).map _ ++ [] = [request] ∧ _
    unfold SchoolSelectorViewController.prepare
    cases vc.currentSelection with
    | none => exact Or.inl rfl
    | some school => exact Or.inr ⟨_, rfl, rfl, rfl, nofun⟩
  | chooseClasses vc => cases h <;> exact Or.inl rfl
  | addClass vc =>
    -- both ways out of the form make the same query
    have hprepare : ∀ id, id = "cancelAddClass" ∨ id = "returnToSignUpChooseClass" →
        AddClassViewController.prepare id newUserData = [] ∨
        ∃ school, AddClassViewController.prepare id newUserData =
          [.courseListForReturn id school] := by
      intro id hid
      unfold AddClassViewController.prepare
      rw [if_pos hid]
      cases schoolOf newUserData with
      | none => exact Or.inl rfl
      | some school => exact Or.inr ⟨school, rfl⟩
    have hboth : scene = .chooseClasses ∧
        (identifier = "cancelAddClass" ∨ identifier = "returnToSignUpChooseClass") := by
      cases h with
      | cancel => exact ⟨rfl, Or.inl rfl⟩
      | returned => exact ⟨rfl, Or.inr rfl⟩
    obtain ⟨rfl, hid⟩ := hboth
    unfold presented
    show (AddClassViewController.prepare _ _).map _ ++ [] = [] ∨ ∃ request,
      (AddClassViewController.prepare _ _).map _ ++ [] = [request] ∧ _
    rcases hprepare identifier hid with hnil | ⟨school, hone⟩
    · rw [hnil]
      exact Or.inl rfl
    · rw [hone]
      exact Or.inr ⟨_, rfl, rfl, rfl, fun _ _ _ => ⟨rfl, rfl, rfl⟩⟩
  | finalSetup => cases h

/-! ## Steps and runs -/

namespace Flow

/-- The reaction goes to the queries in two parts. -/
theorem Outcome.requests_eq {flow flow' : Flow} {i : Nat} {r : Reaction Screen}
    (h : Outcome flow i r flow') :
    ∃ new, flow'.requests = flow.requests ++ r.calls.map (⟨·, i, i⟩) ++ new ∧
      (new = [] ∨ i + 1 = flow.screens.length ∧ ∃ identifier scene,
        Segue r.vc.scene identifier scene ∧
        flow'.screens[i + 1]? = some (r.vc.destination identifier scene) ∧
        new = presented r.vc identifier (r.vc.prepare identifier r.newUserData) scene i) := by
  cases h with
  | stay _ => exact ⟨[], by rw [List.append_nil]; rfl, Or.inl rfl⟩
  | drop _ _ _ => exact ⟨[], by rw [List.append_nil]; rfl, Or.inl rfl⟩
  | @push identifier scene _ hscene htop =>
    refine ⟨_, List.append_assoc _ _ _, Or.inr ⟨htop, identifier, scene,
      segue_of_storyboard hscene, ?_, rfl⟩⟩
    show (flow.screens.set i r.vc ++ [_])[i + 1]? = _
    rw [htop, List.getElem?_append_right (by simp)]
    simp

/-- A screen is added by a segue of the last one, and only so. -/
theorem Outcome.length_cases {flow flow' : Flow} {i : Nat} {r : Reaction Screen}
    (h : Outcome flow i r flow') :
    (flow'.screens.length = flow.screens.length ∧
      (r.segue = none ∨ i + 1 ≠ flow.screens.length)) ∨
    (flow'.screens.length = flow.screens.length + 1 ∧ r.segue ≠ none ∧
      i + 1 = flow.screens.length) := by
  cases h with
  | stay hsegue => exact Or.inl ⟨List.length_set .., Or.inl hsegue⟩
  | drop hsegue hscene htop => exact Or.inl ⟨List.length_set .., Or.inr htop⟩
  | push hsegue hscene htop =>
    refine Or.inr ⟨?_, by rw [hsegue]; simp, htop⟩
    rw [List.length_append, List.length_set, List.length_singleton]

/-- Screens are only ever added. -/
theorem Outcome.length_le {flow flow' : Flow} {i : Nat} {r : Reaction Screen}
    (h : Outcome flow i r flow') : flow.screens.length ≤ flow'.screens.length := by
  rcases h.length_cases with ⟨heq, -⟩ | ⟨heq, -⟩ <;> omega

/-- The screens below the new one, after a reaction. -/
theorem Outcome.getElem?_of_lt {flow flow' : Flow} {i j : Nat} {r : Reaction Screen}
    (h : Outcome flow i r flow') (hj : j < flow.screens.length) :
    flow'.screens[j]? = (flow.screens.set i r.vc)[j]? := by
  cases h with
  | stay _ => rfl
  | drop _ _ _ => rfl
  | push _ _ _ => exact List.getElem?_append_left (by simpa using hj)

/-- Another screen is left alone. -/
theorem Outcome.getElem?_ne {flow flow' : Flow} {i j : Nat} {r : Reaction Screen} {s : Screen}
    (h : Outcome flow i r flow') (hj : flow.screens[j]? = some s) (hne : j ≠ i) :
    flow'.screens[j]? = some s := by
  obtain ⟨hlt, -⟩ := List.getElem?_eq_some_iff.mp hj
  rw [h.getElem?_of_lt hlt, List.getElem?_set_ne (fun heq => hne heq.symm)]
  exact hj

/-- The screen that reacted. -/
theorem Outcome.getElem?_self {flow flow' : Flow} {i : Nat} {r : Reaction Screen} {s : Screen}
    (h : Outcome flow i r flow') (hi : flow.screens[i]? = some s) :
    flow'.screens[i]? = some r.vc := by
  obtain ⟨hlt, -⟩ := List.getElem?_eq_some_iff.mp hi
  rw [h.getElem?_of_lt hlt, List.getElem?_set_self hlt]

/-- A screen keeps its scene and its place. -/
theorem Delivers.rank {flow flow' : Flow} {i : Nat} {e : ScreenEvent}
    (hrank : ∀ j s, flow.screens[j]? = some s → Rank s.scene j)
    (h : Delivers lower flow i e flow') :
    ∀ j s, flow'.screens[j]? = some s → Rank s.scene j := by
  obtain ⟨screen, r, hi, hr, hout⟩ := h
  have hsource : Rank r.vc.scene i := by
    rw [Screen.handle_scene hr]
    exact hrank i screen hi
  intro j s hj
  rcases hout.screen_cases hj with ⟨-, hold⟩ | ⟨rfl, rfl⟩ |
    ⟨rfl, -, identifier, scene, -, hscene, rfl⟩
  · exact hrank j s hold
  · exact hsource
  · rw [Screen.destination_scene]
    exact (segue_of_storyboard hscene).rank hsource

/-- Where a load in flight comes from: it was in flight already, or it was
made for the screen that has just been presented. -/
theorem Outcome.load_cases {flow flow' : Flow} {i j : Nat} {r : Reaction Screen}
    {screen : Screen} {newUserData : Data} {e : ScreenEvent} (h : Outcome flow i r flow')
    (hr : screen.handle lower newUserData e = some r) {request : Request}
    (hmem : request ∈ flow'.requests) (hj : request.load? = some j) :
    request ∈ flow.requests ∨
    (i + 1 = flow.screens.length ∧ ∃ identifier scene, Segue r.vc.scene identifier scene ∧
      flow'.screens[i + 1]? = some (r.vc.destination identifier scene) ∧
      request ∈ presented r.vc identifier (r.vc.prepare identifier r.newUserData) scene i) := by
  obtain ⟨new, hreq, hnew⟩ := h.requests_eq
  rw [hreq, List.append_assoc] at hmem
  rcases List.mem_append.mp hmem with hold | hmem
  · exact Or.inl hold
  · rcases List.mem_append.mp hmem with hmem | hmem
    · obtain ⟨call, hcall, rfl⟩ := List.mem_map.mp hmem
      rw [Screen.handle_load? hr hcall i] at hj
      exact nomatch hj
    · rcases hnew with rfl | ⟨htop, identifier, scene, hsegue, hdest, rfl⟩
      · exact nomatch hmem
      · exact Or.inr ⟨htop, identifier, scene, hsegue, hdest, hmem⟩

/-- A query made for a presentation loads the new screen, which is unloaded. -/
theorem load?_of_mem_presented {source : Screen} {identifier : String} {newUserData : Data}
    {scene : Scene} {i : Nat} {request : Request} (h : Segue source.scene identifier scene)
    (hmem : request ∈ presented source identifier newUserData scene i) :
    request.load? = some (i + 1) ∧ (source.destination identifier scene).Unloaded ∧
    ∀ id school, request.call = .courseListForReturn id school →
      request.caller = i ∧ request.dest = i + 1 ∧ source.scene = .addClass := by
  rcases presented_cases newUserData i h with hnil | ⟨only, hone, hl, hun, hret⟩
  · rw [hnil] at hmem
    exact nomatch hmem
  · rw [hone] at hmem
    obtain rfl := List.mem_singleton.mp hmem
    exact ⟨hl, hun, hret⟩

/-- A screen that waits for its load is as it was presented. -/
theorem Delivers.unloaded {flow flow' : Flow} {i : Nat} {e : ScreenEvent} (hinv : LoadInv flow)
    (hload : e.IsLoad → ∀ request ∈ flow.requests, request.load? ≠ some i)
    (h : Delivers lower flow i e flow') :
    ∀ request ∈ flow'.requests, ∀ j, request.load? = some j →
      ∃ s, flow'.screens[j]? = some s ∧ s.Unloaded := by
  obtain ⟨screen, r, hi, hr, hout⟩ := h
  intro request hmem j hj
  rcases hout.load_cases hr hmem hj with hold | ⟨-, identifier, scene, hsegue, hdest, hnew⟩
  · obtain ⟨s, hs, hun⟩ := hinv.unloaded request hold j hj
    by_cases hji : j = i
    · subst hji
      rw [hi] at hs
      obtain rfl := Option.some.inj hs
      refine ⟨r.vc, hout.getElem?_self hi, Screen.handle_unloaded hr ?_ hun⟩
      exact fun hl => hload hl request hold hj
    · exact ⟨s, hout.getElem?_ne hs hji, hun⟩
  · obtain ⟨hl, hun, -⟩ := load?_of_mem_presented hsegue hnew
    rw [hl] at hj
    obtain rfl := Option.some.inj hj
    exact ⟨_, hdest, hun⟩

/-- The loads in flight are for different screens: a new one is for a screen
beyond all that wait. -/
theorem Delivers.unique {flow flow' : Flow} {i : Nat} {e : ScreenEvent} (hinv : LoadInv flow)
    (h : Delivers lower flow i e flow') :
    flow'.requests.Pairwise fun a b => ∀ j, a.load? = some j → b.load? ≠ some j := by
  obtain ⟨screen, r, hi, hr, hout⟩ := h
  obtain ⟨new, hreq, hnew⟩ := hout.requests_eq
  have hcalls : ∀ request ∈ r.calls.map fun call => (⟨call, i, i⟩ : Request),
      request.load? = none := by
    intro request hmem
    obtain ⟨call, hcall, rfl⟩ := List.mem_map.mp hmem
    exact Screen.handle_load? hr hcall i
  have hold : (flow.requests ++ r.calls.map fun call => (⟨call, i, i⟩ : Request)).Pairwise
      fun a b => ∀ j, a.load? = some j → b.load? ≠ some j := by
    refine List.pairwise_append.mpr ⟨hinv.unique, ?_, ?_⟩
    · refine List.pairwise_of_forall_mem_list ?_
      intro a ha b hb j hj
      rw [hcalls a ha] at hj
      exact nomatch hj
    · intro a ha b hb j hj
      rw [hcalls b hb]
      simp
  rw [hreq]
  rcases hnew with rfl | ⟨htop, identifier, scene, hsegue, hdest, rfl⟩
  · rw [List.append_nil]
    exact hold
  · refine List.pairwise_append.mpr ⟨hold, ?_, ?_⟩
    · rcases presented_cases _ i hsegue with hnil | ⟨only, hone, -⟩
      · rw [hnil]
        exact List.Pairwise.nil
      · rw [hone]
        exact List.pairwise_singleton _ _
    · intro a ha b hb j hj
      rw [(load?_of_mem_presented hsegue hb).1]
      intro heq
      obtain rfl := Option.some.inj heq
      rcases List.mem_append.mp ha with ha | ha
      · obtain ⟨s, hs, -⟩ := hinv.unloaded a ha _ hj
        obtain ⟨hlt, -⟩ := List.getElem?_eq_some_iff.mp hs
        omega
      · rw [hcalls a ha] at hj
        exact nomatch hj

/-- The form behind a return stays where it is. -/
theorem Delivers.returns {flow flow' : Flow} {i : Nat} {e : ScreenEvent} (hinv : LoadInv flow)
    (h : Delivers lower flow i e flow') :
    ∀ request ∈ flow'.requests, ∀ identifier school,
      request.call = .courseListForReturn identifier school →
      request.caller + 1 = request.dest ∧
      ∃ ac, flow'.screens[request.caller]? = some (.addClass ac) := by
  obtain ⟨screen, r, hi, hr, hout⟩ := h
  have hself := hout.getElem?_self hi
  intro request hmem identifier school hcall
  have hj : request.load? = some request.dest := by
    unfold Request.load?
    rw [hcall]
  rcases hout.load_cases hr hmem hj with hold | ⟨-, id, scene, hsegue, -, hnew⟩
  · obtain ⟨hdest, ac, hac⟩ := hinv.returns request hold identifier school hcall
    refine ⟨hdest, ?_⟩
    by_cases hci : request.caller = i
    · rw [hci] at hac ⊢
      rw [hi] at hac
      obtain rfl := Option.some.inj hac
      obtain ⟨ac', hac'⟩ := Screen.addClass_of_scene (Screen.handle_scene hr)
      exact ⟨ac', by rw [hself, hac']⟩
    · exact ⟨ac, hout.getElem?_ne hac hci⟩
  · obtain ⟨-, -, hret⟩ := load?_of_mem_presented hsegue hnew
    obtain ⟨hcaller, hdest, hscene⟩ := hret identifier school hcall
    obtain ⟨ac', hac'⟩ := Screen.addClass_of_scene hscene
    exact ⟨by omega, ac', by rw [hcaller, hself, hac']⟩

/-- **Delivery.** The invariant survives an event that is no load of a screen
for which another load is in flight. -/
theorem Delivers.loadInv {flow flow' : Flow} {i : Nat} {e : ScreenEvent} (hinv : LoadInv flow)
    (hload : e.IsLoad → ∀ request ∈ flow.requests, request.load? ≠ some i)
    (h : Delivers lower flow i e flow') : LoadInv flow' :=
  ⟨h.rank hinv.rank, h.unloaded hinv hload, h.unique hinv, h.returns hinv⟩

theorem loadInv_settle {flow : Flow} (hinv : LoadInv flow) (k : Nat) :
    LoadInv (flow.settle k) :=
  ⟨hinv.rank, fun request hmem => hinv.unloaded request (List.mem_of_mem_eraseIdx hmem),
    hinv.unique.sublist (List.eraseIdx_sublist _ _),
    fun request hmem => hinv.returns request (List.mem_of_mem_eraseIdx hmem)⟩

/-- The callback of a load runs on the screen that is loaded. -/
theorem Callback.load?_eq {flow : Flow} {request : Request} {response : Response} {i : Nat}
    {e : ScreenEvent} (h : Callback flow request response i e) (hload : e.IsLoad) :
    request.load? = some i := by
  cases h with
  | schoolList _ _ _ | chooseClasses _ _ _ _ | returned _ _ _ _ _ => rfl
  | username _ _ _ _ | newUser _ _ _ _ | faculty _ _ _ _ => exact nomatch hload

theorem not_isLoad_of_isInput {e : ScreenEvent} (h : e.isInput = true) : ¬e.IsLoad := by
  intro hload
  cases e with
  | schoolSelector e =>
    cases e with
    | schoolListArrived schoolList => exact nomatch h
    | didSelectRow row | continueAction | courseListArrived skewl crsList => exact hload
  | chooseClasses e =>
    have hload : e.isLoad = true := hload
    unfold ChooseClassesViewController.Event.isLoad at hload
    split at hload
    next => exact nomatch h
    next => exact nomatch h
    next => exact nomatch hload
  | userInfo e | security e | addClass e => exact hload

/-- A load is delivered to a screen that has not been loaded. -/
theorem Dispatches.unloaded {flow flow₀ : Flow} {e : Event} {i : Nat} {se : ScreenEvent}
    (hinv : LoadInv flow) (h : Dispatches flow e flow₀ i se) (hload : se.IsLoad) :
    ∃ s, flow₀.screens[i]? = some s ∧ s.Unloaded := by
  cases h with
  | input hinput => exact absurd hload (not_isLoad_of_isInput hinput)
  | callback hk hc =>
    exact hinv.unloaded _ (List.mem_of_getElem? hk) i (hc.load?_eq hload)

/-- A load that is delivered was the only one for its screen. -/
theorem Dispatches.load_unique {flow flow₀ : Flow} {e : Event} {i : Nat} {se : ScreenEvent}
    (hinv : LoadInv flow) (h : Dispatches flow e flow₀ i se) (hload : se.IsLoad) :
    ∀ request ∈ flow₀.requests, request.load? ≠ some i := by
  cases h with
  | input hinput => exact absurd hload (not_isLoad_of_isInput hinput)
  | @callback k response request _ _ hk hc =>
    have hself := hc.load?_eq hload
    intro other hmem hother
    obtain ⟨j, hjk, hj⟩ := List.mem_eraseIdx_iff_getElem?.mp hmem
    obtain ⟨hjlt, rfl⟩ := List.getElem?_eq_some_iff.mp hj
    obtain ⟨hklt, rfl⟩ := List.getElem?_eq_some_iff.mp hk
    -- two queries for one screen, at different places, would break `unique`
    have hpair := List.pairwise_iff_getElem.mp hinv.unique
    rcases Nat.lt_or_gt_of_ne hjk with hlt | hgt
    · exact hpair j k hjlt hklt hlt _ hother hself
    · exact hpair k j hklt hjlt hgt _ hself hother

/-- **Step lemma.** -/
theorem step_loadInv {flow flow' : Flow} {e : Event} (hinv : LoadInv flow)
    (hs : flow.step lower e = some flow') : LoadInv flow' := by
  refine (steps_of_step hs).invariant hinv (loadInv_settle hinv) ?_
  intro flow₀ i se hd hinv₀ hdel
  exact hdel.loadInv hinv₀ (hd.load_unique hinv)

theorem loadInv_launch : LoadInv launch := by
  refine ⟨?_, ?_, List.Pairwise.nil, ?_⟩
  · intro j s hj
    obtain ⟨hlt, rfl⟩ := List.getElem?_eq_some_iff.mp hj
    have hlt : j < 1 := hlt
    obtain rfl : j = 0 := by omega
    rfl
  · intro request hmem
    exact absurd hmem (not_mem_launch_requests request)
  · intro request hmem
    exact absurd hmem (not_mem_launch_requests request)

/-- **Run lemma.** -/
theorem loadInv_of_reachable {flow : Flow} (h : (signUp lower).Reachable flow) :
    LoadInv flow := by
  refine h.invariant (P := LoadInv) ?_ fun _ _ _ hinv _ hs => step_loadInv hinv hs
  intro flow hinit
  obtain rfl : flow = launch := hinit
  exact loadInv_launch

/-- **Invariant rule for choosers.** What a chooser has that is just presented,
and keeps in every step of its own, knowing that loads find it without a
schedule, all choosers have. -/
theorem step_choosers {P : ChooseClassesViewController → Prop} {flow flow' : Flow} {e : Event}
    (hinv : LoadInv flow) (hP : ∀ vc, .chooseClasses vc ∈ flow.screens → P vc)
    (hnew : P (ChooseClassesViewController.viewDidLoad {}))
    (hstep : ∀ vc vc' ce flow₀ i, .chooseClasses vc ∈ flow.screens →
      Dispatches flow e flow₀ i (.chooseClasses ce) →
      (ce.isLoad = true → vc.currentUserSchedule = none) → vc.step lower ce = some vc' → P vc')
    (hs : flow.step lower e = some flow') :
    ∀ vc, .chooseClasses vc ∈ flow'.screens → P vc := by
  suffices h : ∀ s ∈ flow'.screens, ∀ vc, s = .chooseClasses vc → P vc from
    fun vc hvc => h _ hvc vc rfl
  have hP : ∀ s ∈ flow.screens, ∀ vc, s = .chooseClasses vc → P vc := by
    intro s hmem vc hvc
    subst hvc
    exact hP vc hmem
  cases steps_of_step hs with
  | silent _ _ => exact hP
  | deliver hd hdel =>
    rw [← hd.screens_eq] at hP
    refine hdel.forall_screens_at (P := fun s => ∀ vc, s = .chooseClasses vc → P vc) hP ?_ ?_
    · intro screen r hi hr vc' hvc'
      cases Screen.handled_of_handle hr with
      | userInfo _ | security _ _ | schoolSelector _ | addClass _ => cases hvc'
      | @chooseClasses vc _ ce hce =>
        obtain rfl := Screen.chooseClasses.inj hvc'
        refine hstep vc _ ce _ _ ?_ hd ?_ hce
        · rw [← hd.screens_eq]
          exact List.mem_of_getElem? hi
        · intro hload
          obtain ⟨s, hs, hun⟩ := hd.unloaded hinv hload
          rw [hi] at hs
          obtain rfl := Option.some.inj hs
          exact hun
    · intro source identifier scene _ _ vc hvc
      have hscene := Screen.destination_scene source identifier scene
      rw [hvc] at hscene
      obtain rfl : .chooseClasses = scene := hscene
      obtain rfl := Screen.chooseClasses.inj hvc
      exact hnew

/-- The rule for runs. -/
theorem choosers_of_reaches {ok : Flow → Event → Prop} {P : ChooseClassesViewController → Prop}
    (hnew : P (ChooseClassesViewController.viewDidLoad {}))
    (hstep : ∀ flow e vc vc' ce flow₀ i, (signUp lower).Reaches ok flow → ok flow e → P vc →
      .chooseClasses vc ∈ flow.screens → Dispatches flow e flow₀ i (.chooseClasses ce) →
      (ce.isLoad = true → vc.currentUserSchedule = none) → vc.step lower ce = some vc' → P vc')
    {flow : Flow} (h : (signUp lower).Reaches ok flow) :
    ∀ vc, .chooseClasses vc ∈ flow.screens → P vc := by
  induction h with
  | init hinit =>
    obtain rfl : _ = launch := hinit
    intro vc hvc
    cases mem_launch_screens hvc
  | step hreach hok hs ih =>
    refine step_choosers (loadInv_of_reachable hreach.reachable) ih hnew ?_ hs
    intro vc vc' ce flow₀ i hvc hd hload hce
    exact hstep _ _ vc vc' ce flow₀ i hreach hok (ih vc hvc) hvc hd hload hce

end Flow

end Scholarli
