import Scholarli.SignUp.Handover
import Scholarli.SignUp.Schedules

/-!
# No accepted course is lost — when the form gets a schedule to return

The schedule travels as a value: from the chooser to the class form when the
form is presented, and from the form to the next chooser in a callback. In
between, additions go through optional chaining, which does nothing on nil.

`Ledger` is ghost state: the courses that were accepted and not removed
since, and the choosers whose catalogue query has been answered.
`NoLostCourse` says that the chooser on screen, once it is loaded, has them
all.

The one gap is a class form that is presented by a chooser which has not
been loaded: the form then holds nil, its handler accepts the new course
(the check passes on nil) and appends it to nothing. `scheduleThere` is the
step condition that closes the gap.

The invariant (`LedgerInv`) ties the ghost to the choosers: one with a
schedule was loaded, one whose query is in flight was not. Its main part is
about the last screen only, since a screen that is covered is never seen
again: it holds the ledger (`holds`), or what it waits for will bring it
(`brings`). The second needs that the form behind a return is frozen.
-/

namespace Scholarli

open Base (Machine toggle mem_toggle_of_key_ne toggle_of_not_any)

variable {lower : String → String}

/-! ## The ledger -/

structure Ledger where
  accepted : List Course
  loaded : List Nat

/-- A tap: the target is taken off the ledger if it was selected, and entered
if its period is free. -/
def recordTap (vc : ChooseClassesViewController) (row : Nat) (accepted : List Course) :
    List Course :=
  match vc.tapTarget row, courseLoadOf vc.currentUserSchedule with
  | some course, some load =>
    if load.any fun crs => crs.id = course.id then accepted.filter fun crs => crs.id ≠ course.id
    else if verifyNewCourseToSchedule course vc.currentUserSchedule then accepted ++ [course]
    else accepted
  | _, _ => accepted

/-- The button of the success alert: the new course is entered if it passes. -/
def recordOk (vc : AddClassViewController) (accepted : List Course) : List Course :=
  match vc.successAlert with
  | some (some newCrs) =>
    if verifyNewCourseToSchedule newCrs vc.scheduleToReturn then accepted ++ [newCrs]
    else accepted
  | _ => accepted

/-- What an event on a screen adds to and takes from the accepted courses. -/
def Screen.record (screen : Screen) (e : ScreenEvent) (accepted : List Course) : List Course :=
  match screen, e with
  | .chooseClasses vc, .chooseClasses (.didSelectRowAt row) => recordTap vc row accepted
  | .addClass vc, .addClass .ok => recordOk vc accepted
  | _, _ => accepted

/-- The event loads a chooser. -/
def ScreenEvent.loadsChooser : ScreenEvent → Bool
  | .chooseClasses e => e.isLoad
  | _ => false

/-- The ledger after an event on the screen at index `i`. -/
def Ledger.record (ledger : Ledger) (i : Nat) (screen : Screen) (e : ScreenEvent) : Ledger where
  accepted := screen.record e ledger.accepted
  loaded := if e.loadsChooser then i :: ledger.loaded else ledger.loaded

/-- The ledger after a step. -/
def Flow.record (flow : Flow) (e : Event) (ledger : Ledger) : Ledger :=
  match flow.dispatch e with
  | some (flow, some (i, e)) =>
    match flow.screens[i]? with
    | some screen => ledger.record i screen e
    | none => ledger
  | _ => ledger

/-- The flow with its ledger. -/
def bookkeeping (lower : String → String) : Machine (Flow × Ledger) Event :=
  (signUp lower).recording ⟨[], []⟩ Flow.record

/-- The schedule is there and has all these courses. -/
def Covers (schedule : Option Schedule) (accepted : List Course) : Prop :=
  ∃ sched load, schedule = some sched ∧ sched.courseLoad = some load ∧
    ∀ c ∈ accepted, c ∈ load

/-- The chooser on screen, once loaded, has every accepted course. -/
def NoLostCourse (flow : Flow) (ledger : Ledger) : Prop :=
  ∀ i cc, i + 1 = flow.screens.length → flow.screens[i]? = some (.chooseClasses cc) →
    i ∈ ledger.loaded → Covers cc.currentUserSchedule ledger.accepted

/-- Every fetch succeeds: the step does not end in a query function that keeps
its completion from being called. -/
def fetchSucceeds (flow : Flow) (e : Event) : Bool :=
  match flow.dispatch e with
  | some (_, none) => false
  | _ => true

/-- The step condition: faculty that arrives at the chooser on screen, and so
presents the class form, finds a schedule there. -/
def scheduleThere (flow : Flow) : Event → Bool
  | .input _ => true
  | .answer k _ =>
    match flow.requests[k]? with
    | some ⟨.getFaculty _, caller, _⟩ =>
      if caller + 1 = flow.screens.length then
        match flow.screens[caller]? with
        | some (.chooseClasses cc) => cc.currentUserSchedule.isSome
        | _ => true
      else true
    | _ => true

/-! ## What a handler does to the schedule and the ledger -/

theorem Covers.mem {schedule : Option Schedule} {accepted load : List Course} {sched : Schedule}
    (h : Covers schedule accepted) (hsched : schedule = some sched)
    (hload : sched.courseLoad = some load) : ∀ c ∈ accepted, c ∈ load := by
  obtain ⟨sched', load', hsched', hload', hmem⟩ := h
  rw [hsched] at hsched'
  obtain rfl := Option.some.inj hsched'
  rw [hload] at hload'
  obtain rfl := Option.some.inj hload'
  exact hmem

/-- A tap on a chooser that has all accepted courses. -/
theorem Covers.tap {vc vc' : ChooseClassesViewController} {row : Nat} {sched : Schedule}
    {load : List Course} {course : Course} {accepted : List Course}
    (h : Covers vc.currentUserSchedule accepted) (hsched : vc.currentUserSchedule = some sched)
    (hload : sched.courseLoad = some load) (htarget : vc.tapTarget row = some course)
    (hafter : vc'.currentUserSchedule =
      some { sched with courseLoad := some (toggle (·.id) (·.period) course load) }) :
    Covers vc'.currentUserSchedule (recordTap vc row accepted) := by
  have hcovered := h.mem hsched hload
  have hld : courseLoadOf vc.currentUserSchedule = some load := by
    rw [hsched]
    exact hload
  refine ⟨_, _, hafter, rfl, ?_⟩
  unfold recordTap
  rw [htarget, hld]
  dsimp only
  split
  next hany =>
    -- it was selected: the others stay
    intro c hc
    obtain ⟨hc, hne⟩ := List.mem_filter.mp hc
    exact mem_toggle_of_key_ne (hcovered c hc) (by simpa using hne)
  next hany =>
    have hverify := verifyNewCourseToSchedule_some_iff hload course
    rw [hsched, toggle_of_not_any hany]
    split
    next hok =>
      rw [if_pos (hverify.mp hok)]
      intro c hc
      rcases List.mem_append.mp hc with hc | hc
      · exact List.mem_append_left _ (hcovered c hc)
      · exact List.mem_append_right _ hc
    next hno =>
      rw [if_neg fun hfree => hno (hverify.mpr hfree)]
      exact hcovered

/-- The alert's handler, on a form that has all accepted courses. -/
theorem Covers.okHandler {vc : AddClassViewController} {newCrs : Course}
    {accepted : List Course} (h : Covers vc.scheduleToReturn accepted)
    (halert : vc.successAlert = some (some newCrs)) :
    Covers (vc.okHandler newCrs).scheduleToReturn (recordOk vc accepted) := by
  unfold recordOk AddClassViewController.okHandler
  rw [halert]
  dsimp only
  by_cases hok : verifyNewCourseToSchedule newCrs vc.scheduleToReturn = true
  · rw [if_pos hok, if_pos hok]
    obtain ⟨sched, load, hsched, hload, hmem⟩ := h
    refine ⟨_, load ++ [newCrs], by rw [hsched]; rfl, ?_, ?_⟩
    · show sched.courseLoad.map _ = _
      rw [hload]
      rfl
    · intro c hc
      rcases List.mem_append.mp hc with hc | hc
      · exact List.mem_append_left _ (hmem c hc)
      · exact List.mem_append_right _ hc
  · rw [if_neg hok, if_neg hok]
    exact h

/-- What the last screen, at index `i`, keeps: before the chooser nothing is
accepted, a loaded chooser and a class form have it all. -/
def Screen.Holds (ledger : Ledger) (i : Nat) : Screen → Prop
  | .chooseClasses vc => i ∈ ledger.loaded → Covers vc.currentUserSchedule ledger.accepted
  | .addClass vc => Covers vc.scheduleToReturn ledger.accepted
  | .finalSetup => True
  | _ => ledger.accepted = []

/-- What the callback of a load comes with. -/
def ScreenEvent.Brings (accepted : List Course) : ScreenEvent → Prop
  | .chooseClasses (.schoolArrived _ _) => accepted = []
  | .chooseClasses (.scheduleReturned _ _ _ schedule) => Covers schedule accepted
  | _ => True

/-- What a query in flight will come back with. -/
def Request.Brings (request : Request) (flow : Flow) (accepted : List Course) : Prop :=
  match request.call with
  | .courseListForChooseClasses _ => accepted = []
  | .courseListForReturn _ _ => Covers (flow.scheduleToReturn request.caller) accepted
  | _ => True

theorem recordTap_eq_of_tapTarget_eq_none {vc : ChooseClassesViewController} {row : Nat}
    {accepted : List Course} (h : vc.tapTarget row = none) :
    recordTap vc row accepted = accepted := by
  unfold recordTap
  rw [h]

/-- A chooser handles an event. -/
theorem Screen.holds_chooseClasses {vc vc' : ChooseClassesViewController}
    {e : ChooseClassesViewController.Event} {ledger : Ledger} {i : Nat}
    (h : (Screen.chooseClasses vc).Holds ledger i)
    (hfilled : vc.currentUserSchedule ≠ none → i ∈ ledger.loaded)
    (hbrings : (ScreenEvent.chooseClasses e).Brings ledger.accepted)
    (hs : vc.step lower e = some vc') :
    (Screen.chooseClasses vc').Holds
      (ledger.record i (.chooseClasses vc) (.chooseClasses e)) i := by
  intro hloaded
  cases ChooseClassesViewController.scheduleStep_of_step hs with
  | arrived school crsList heq =>
    -- the first load: nothing has been accepted yet
    rw [heq]
    refine ⟨_, [], rfl, rfl, ?_⟩
    intro c hc
    have hnil : ledger.accepted = [] := hbrings
    have hc : c ∈ ledger.accepted := hc
    rw [hnil] at hc
    exact hc
  | returned identifier school crsList schedule heq =>
    rw [heq]
    exact hbrings
  | tapped hsched hload htarget heq =>
    -- a tap that gets this far found a schedule, so the chooser was loaded
    refine Covers.tap (h (hfilled ?_)) hsched hload htarget heq
    rw [hsched]
    simp
  | kept hkeep htap heq =>
    have hloaded : i ∈ ledger.loaded := by
      have hiff : i ∈ (if (ScreenEvent.chooseClasses e).loadsChooser then i :: ledger.loaded
        else ledger.loaded) := hloaded
      rw [ScreenEvent.loadsChooser, hkeep] at hiff
      exact hiff
    have haccepted : (Screen.chooseClasses vc).record (.chooseClasses e) ledger.accepted =
        ledger.accepted := by
      cases e with
      | didSelectRowAt row => exact recordTap_eq_of_tapTarget_eq_none (htap row rfl)
      | viewDidAppear | searchBarTextDidBeginEditing | searchBarTextDidChange text
        | searchBarCancelButtonClicked | searchBarTextDidEndEditing | addClass | tapToContinue
        | facultyArrived school facList | schoolArrived school crsList
        | scheduleReturned identifier school crsList schedule => rfl
    show Covers _ ((Screen.chooseClasses vc).record (.chooseClasses e) ledger.accepted)
    rw [heq, haccepted]
    exact h hloaded

/-- A class form handles an event. -/
theorem Screen.holds_addClass {vc vc' : AddClassViewController}
    {e : AddClassViewController.Event} {ledger : Ledger} {i : Nat}
    (h : (Screen.addClass vc).Holds ledger i) (hs : vc.step e = some vc') :
    (Screen.addClass vc').Holds (ledger.record i (.addClass vc) (.addClass e)) i := by
  have h : Covers vc.scheduleToReturn ledger.accepted := h
  show Covers vc'.scheduleToReturn ((Screen.addClass vc).record (.addClass e) ledger.accepted)
  rcases AddClassViewController.step_cases hs with ⟨newCrs, rfl, halert, rfl⟩ | ⟨hne, hsame, -⟩
  · exact h.okHandler halert
  · have haccepted : (Screen.addClass vc).record (.addClass e) ledger.accepted =
        ledger.accepted := by
      unfold Screen.record
      split
      next heq => exact nomatch heq
      next heq => exact absurd (ScreenEvent.addClass.inj heq) hne
      next => rfl
    rw [hsame.schedule, haccepted]
    exact h

/-- **The screen that reacts.** -/
theorem Screen.handle_holds {screen : Screen} {newUserData : Data} {e : ScreenEvent}
    {r : Reaction Screen} {ledger : Ledger} {i : Nat} (h : screen.Holds ledger i)
    (hfilled : ∀ cc, screen = .chooseClasses cc → cc.currentUserSchedule ≠ none →
      i ∈ ledger.loaded)
    (hbrings : e.Brings ledger.accepted)
    (hr : screen.handle lower newUserData e = some r) :
    r.vc.Holds (ledger.record i screen e) i := by
  cases handled_of_handle hr with
  | userInfo _ | security _ _ | schoolSelector _ => exact h
  | chooseClasses hs => exact holds_chooseClasses h (hfilled _ rfl) hbrings hs
  | addClass hs => exact holds_addClass h hs

/-- **The screen that is presented**: a class form gets the schedule of a
chooser that was loaded. -/
theorem Screen.destination_holds {source : Screen} {identifier : String} {scene : Scene}
    {ledger : Ledger} {i : Nat} (h : source.Holds ledger i)
    (hsegue : Segue source.scene identifier scene) (hnew : i + 1 ∉ ledger.loaded)
    (hthere : ∀ cc, source = .chooseClasses cc → scene = .addClass → i ∈ ledger.loaded) :
    (source.destination identifier scene).Holds ledger (i + 1) := by
  cases source with
  | userInfo vc | security vc =>
    cases hsegue
    exact h
  | schoolSelector vc | addClass vc => cases hsegue <;> exact fun hmem => absurd hmem hnew
  | chooseClasses vc =>
    cases hsegue with
    | four => trivial
    | toAddClass => exact h (hthere vc rfl rfl)
  | finalSetup => cases hsegue

/-- **The query that is made for it.** -/
theorem presented_brings {source : Screen} {identifier : String} {newUserData : Data}
    {scene : Scene} {ledger : Ledger} {i : Nat} {flow : Flow} {request : Request}
    (h : source.Holds ledger i) (hi : flow.screens[i]? = some source)
    (hmem : request ∈ presented source identifier newUserData scene i) :
    request.Brings flow ledger.accepted := by
  rcases List.mem_append.mp hmem with hmem | hmem
  · obtain ⟨call, hcall, rfl⟩ := List.mem_map.mp hmem
    rcases Screen.mem_prepareCalls hcall with ⟨vc, school, rfl, -, rfl⟩ |
      ⟨vc, school, rfl, -, rfl⟩
    · exact h
    · show Covers (flow.scheduleToReturn i) ledger.accepted
      unfold Flow.scheduleToReturn
      rw [hi]
      exact h
  · obtain ⟨call, hcall, rfl⟩ := List.mem_map.mp hmem
    obtain ⟨-, rfl⟩ := Screen.mem_loadCalls hcall
    trivial

/-! ## Steps and runs -/

/-- The invariant of a run and its ledger. -/
structure LedgerInv (flow : Flow) (ledger : Ledger) : Prop where
  load : LoadInv flow
  bound : ∀ j ∈ ledger.loaded, j < flow.screens.length
  pending : ∀ request ∈ flow.requests, ∀ j, request.load? = some j → j ∉ ledger.loaded
  filled : ∀ j cc, flow.screens[j]? = some (.chooseClasses cc) →
    cc.currentUserSchedule ≠ none → j ∈ ledger.loaded
  holds : ∀ j s, j + 1 = flow.screens.length → flow.screens[j]? = some s → s.Holds ledger j
  brings : ∀ request ∈ flow.requests, ∀ j, request.load? = some j →
    j + 1 = flow.screens.length → request.Brings flow ledger.accepted

theorem Ledger.mem_record_loaded {ledger : Ledger} {i j : Nat} {screen : Screen}
    {e : ScreenEvent} :
    j ∈ (ledger.record i screen e).loaded ↔
    (j = i ∧ e.loadsChooser = true) ∨ j ∈ ledger.loaded := by
  unfold Ledger.record
  dsimp only
  split
  next h => simp [h]
  next h => simp [h]

/-- A screen that waits for its load accepts nothing. -/
theorem Screen.record_of_unloaded {screen : Screen} {e : ScreenEvent} {accepted : List Course}
    (h : screen.Unloaded) : screen.record e accepted = accepted := by
  unfold Screen.record
  split
  next vc row =>
    have hnone : vc.currentUserSchedule = none := h
    unfold recordTap
    rw [hnone]
    split
    next hload => exact nomatch hload
    next => rfl
  next vc => exact nomatch h
  next => rfl

/-- A screen other than the one that reacts, if nothing was accepted. -/
theorem Screen.Holds.frame {s screen : Screen} {ledger : Ledger} {i j : Nat} {e : ScreenEvent}
    (h : s.Holds ledger j) (hne : j ≠ i)
    (haccepted : screen.record e ledger.accepted = ledger.accepted) :
    s.Holds (ledger.record i screen e) j := by
  have hacc : (ledger.record i screen e).accepted = ledger.accepted := haccepted
  cases s with
  | chooseClasses vc =>
    intro hmem
    rcases Ledger.mem_record_loaded.mp hmem with ⟨heq, -⟩ | hold
    · exact absurd heq hne
    · rw [hacc]
      exact h hold
  | addClass vc =>
    show Covers _ (ledger.record i screen e).accepted
    rw [hacc]
    exact h
  | userInfo vc | security vc | schoolSelector vc => exact hacc.trans h
  | finalSetup => trivial

/-- A query in flight still brings what it was to bring, if the form behind it
has not changed. -/
theorem Request.Brings.frame {request : Request} {flow flow' : Flow} {accepted : List Course}
    (h : request.Brings flow accepted)
    (hreturn : ∀ identifier school, request.call = .courseListForReturn identifier school →
      flow'.screens[request.caller]? = flow.screens[request.caller]?) :
    request.Brings flow' accepted := by
  unfold Request.Brings at h ⊢
  split
  next hcall =>
    rw [hcall] at h
    exact h
  next identifier school hcall =>
    rw [hcall] at h
    unfold Flow.scheduleToReturn at h ⊢
    rw [hreturn identifier school hcall]
    exact h
  next => trivial

theorem ScreenEvent.isLoad_of_loadsChooser {e : ScreenEvent} (h : e.loadsChooser = true) :
    e.IsLoad := by
  cases e with
  | chooseClasses e => exact h
  | userInfo e | security e | schoolSelector e | addClass e => exact nomatch h

namespace Flow

theorem ledgerInv_settle {flow : Flow} {ledger : Ledger} (h : LedgerInv flow ledger) (k : Nat) :
    LedgerInv (flow.settle k) ledger where
  load := loadInv_settle h.load k
  bound := h.bound
  pending := fun request hmem => h.pending request (List.mem_of_mem_eraseIdx hmem)
  filled := h.filled
  holds := h.holds
  brings := fun request hmem => h.brings request (List.mem_of_mem_eraseIdx hmem)

theorem Dispatches.ledgerInv {flow flow₀ : Flow} {e : Event} {i : Nat} {se : ScreenEvent}
    {ledger : Ledger} (hd : Dispatches flow e flow₀ i se) (h : LedgerInv flow ledger) :
    LedgerInv flow₀ ledger :=
  hd.of_settle (P := fun flow => LedgerInv flow ledger) h (ledgerInv_settle h)

/-- The ghost step, for an event that is delivered. -/
theorem Dispatches.record_eq {flow flow₀ : Flow} {e : Event} {i : Nat} {se : ScreenEvent}
    {screen : Screen} (ledger : Ledger) (hd : Dispatches flow e flow₀ i se)
    (hi : flow₀.screens[i]? = some screen) :
    flow.record e ledger = ledger.record i screen se := by
  unfold Flow.record
  rw [hd.dispatch_eq]
  dsimp only
  rw [hi]

/-- Below the last screen, nothing is accepted. -/
theorem Dispatches.record_below {flow flow₀ : Flow} {e : Event} {i : Nat} {se : ScreenEvent}
    {screen : Screen} {accepted : List Course} (hd : Dispatches flow e flow₀ i se)
    (hi : i < flow.screens.length) (hbelow : i + 1 ≠ flow.screens.length) :
    screen.record se accepted = accepted := by
  cases hd with
  | input _ => omega
  | callback hk hc =>
    unfold Screen.record
    split
    next => cases hc
    next => cases hc
    next => rfl

/-- A load that arrives at the last screen brings what its query was to bring. -/
theorem Dispatches.brings {flow flow₀ : Flow} {e : Event} {i : Nat} {se : ScreenEvent}
    {ledger : Ledger} (hd : Dispatches flow e flow₀ i se) (h : LedgerInv flow ledger)
    (htop : i + 1 = flow.screens.length) : se.Brings ledger.accepted := by
  cases hd with
  | @input e hinput =>
    unfold ScreenEvent.Brings
    split
    next => exact nomatch hinput
    next => exact nomatch hinput
    next => trivial
  | callback hk hc =>
    have hmem := List.mem_of_getElem? hk
    cases hc with
    | chooseClasses school caller dest _ => exact h.brings _ hmem _ rfl htop
    | returned identifier school caller dest _ => exact h.brings _ hmem _ rfl htop
    | username _ _ _ _ | schoolList _ _ _ | newUser _ _ _ _ | faculty _ _ _ _ => trivial

/-- The step condition, for faculty that is delivered. -/
theorem Dispatches.schedule_there {flow flow₀ : Flow} {e : Event} {i : Nat} {school : School}
    {facList : List Faculty} {cc : ChooseClassesViewController}
    (hd : Dispatches flow e flow₀ i (.chooseClasses (.facultyArrived school facList)))
    (hok : scheduleThere flow e = true) (htop : i + 1 = flow.screens.length)
    (hi : flow.screens[i]? = some (.chooseClasses cc)) : cc.currentUserSchedule ≠ none := by
  cases hd with
  | input hinput => exact nomatch hinput
  | callback hk hc =>
    cases hc with
    | faculty _ _ dest _ =>
      unfold scheduleThere at hok
      simp only [hk, htop, hi, if_true] at hok
      intro hnone
      rw [hnone] at hok
      exact nomatch hok

section Deliver

variable {flow flow₀ flow' : Flow} {e : Event} {i : Nat} {se : ScreenEvent} {ledger : Ledger}
  {screen : Screen} {r : Reaction Screen}

/-- Loaded choosers are on the stack. -/
theorem Outcome.ledger_bound (hinv : LedgerInv flow ledger) (hi : flow.screens[i]? = some screen)
    (hout : Outcome flow i r flow') :
    ∀ j ∈ (ledger.record i screen se).loaded, j < flow'.screens.length := by
  intro j hj
  have hlen := hout.length_le
  obtain ⟨hilt, -⟩ := List.getElem?_eq_some_iff.mp hi
  rcases Ledger.mem_record_loaded.mp hj with ⟨rfl, -⟩ | hold
  · omega
  · have := hinv.bound j hold
    omega

/-- A chooser for which a query is in flight has not been loaded. -/
theorem Outcome.ledger_pending (hinv : LedgerInv flow ledger)
    (hload : se.IsLoad → ∀ request ∈ flow.requests, request.load? ≠ some i)
    (hr : screen.handle lower flow.newUserData se = some r) (hout : Outcome flow i r flow') :
    ∀ request ∈ flow'.requests, ∀ j, request.load? = some j →
      j ∉ (ledger.record i screen se).loaded := by
  intro request hmem j hj hloaded
  rcases hout.load_cases hr hmem hj with hold | ⟨htop, identifier, scene, hsegue, -, hnew⟩
  · rcases Ledger.mem_record_loaded.mp hloaded with ⟨rfl, hl⟩ | hbefore
    · exact hload (ScreenEvent.isLoad_of_loadsChooser hl) request hold hj
    · exact hinv.pending request hold j hj hbefore
  · rw [(load?_of_mem_presented hsegue hnew).1] at hj
    obtain rfl := Option.some.inj hj
    rcases Ledger.mem_record_loaded.mp hloaded with ⟨heq, -⟩ | hbefore
    · omega
    · have := hinv.bound _ hbefore
      omega

/-- A chooser with a schedule has been loaded. -/
theorem Outcome.ledger_filled (hinv : LedgerInv flow ledger)
    (hi : flow.screens[i]? = some screen)
    (hr : screen.handle lower flow.newUserData se = some r) (hout : Outcome flow i r flow') :
    ∀ j cc, flow'.screens[j]? = some (.chooseClasses cc) → cc.currentUserSchedule ≠ none →
      j ∈ (ledger.record i screen se).loaded := by
  intro j cc hj hsome
  rw [Ledger.mem_record_loaded]
  rcases hout.screen_cases hj with ⟨-, hold⟩ | ⟨rfl, hvc⟩ |
    ⟨-, -, identifier, scene, -, -, hdest⟩
  · exact Or.inr (hinv.filled j cc hold hsome)
  · cases Screen.handled_of_handle hr with
    | @chooseClasses vc vc' e hs =>
      obtain rfl := Screen.chooseClasses.inj hvc
      by_cases hl : e.isLoad = true
      · exact Or.inl ⟨rfl, hl⟩
      · refine Or.inr (hinv.filled j vc hi ?_)
        intro hnone
        exact hsome (ChooseClassesViewController.step_schedule_eq_none hs hl hnone)
    | userInfo _ | security _ _ | schoolSelector _ | addClass _ => exact nomatch hvc
  · -- a chooser is presented without a schedule
    have hscene := congrArg Screen.scene hdest
    rw [Screen.destination_scene] at hscene
    obtain rfl : scene = .chooseClasses := hscene.symm
    obtain rfl := Screen.chooseClasses.inj hdest
    exact absurd rfl hsome

/-- The screen that reacts, if it is the last one. -/
theorem Dispatches.holds_self (hd : Dispatches flow e flow₀ i se) (h : LedgerInv flow ledger)
    (hi : flow₀.screens[i]? = some screen)
    (hr : screen.handle lower flow₀.newUserData se = some r)
    (htop : i + 1 = flow.screens.length) : r.vc.Holds (ledger.record i screen se) i := by
  rw [hd.screens_eq] at hi
  refine Screen.handle_holds (h.holds i screen htop hi) ?_ (hd.brings h htop) hr
  intro cc hcc hsome
  subst hcc
  exact h.filled i cc hi hsome

/-- A class form is presented by a chooser that has been loaded. -/
theorem Dispatches.loaded_of_addClass (hd : Dispatches flow e flow₀ i se)
    (h : LedgerInv flow ledger) (hok : scheduleThere flow e = true)
    (hi : flow₀.screens[i]? = some screen)
    (hr : screen.handle lower flow₀.newUserData se = some r)
    (htop : i + 1 = flow.screens.length) {identifier : String}
    (hsegue : r.segue = some identifier)
    (hscene : storyboard r.vc.scene identifier = some .addClass) :
    i ∈ (ledger.record i screen se).loaded := by
  rw [hd.screens_eq] at hi
  rw [Ledger.mem_record_loaded]
  cases Screen.handled_of_handle hr with
  | @chooseClasses vc vc' ce _ =>
    have hsegue : ChooseClassesViewController.segue ce = some identifier := hsegue
    unfold ChooseClassesViewController.segue at hsegue
    split at hsegue
    next =>
      obtain rfl := Option.some.inj hsegue
      exact nomatch hscene
    next => exact Or.inr (h.filled i vc hi (hd.schedule_there hok htop hi))
    next => exact nomatch hsegue
  | userInfo _ =>
    have hfrom : Segue .userInfo identifier .addClass := segue_of_storyboard hscene
    cases hfrom
  | security _ _ =>
    have hfrom : Segue .security identifier .addClass := segue_of_storyboard hscene
    cases hfrom
  | schoolSelector _ =>
    have hfrom : Segue .schoolSelector identifier .addClass := segue_of_storyboard hscene
    cases hfrom
  | addClass _ =>
    have hfrom : Segue .addClass identifier .addClass := segue_of_storyboard hscene
    cases hfrom

/-- **The last screen holds the ledger.** -/
theorem Dispatches.ledger_holds (hd : Dispatches flow e flow₀ i se) (h : LedgerInv flow ledger)
    (hok : scheduleThere flow e = true) (hi : flow₀.screens[i]? = some screen)
    (hr : screen.handle lower flow₀.newUserData se = some r) (hout : Outcome flow₀ i r flow') :
    ∀ j s, j + 1 = flow'.screens.length → flow'.screens[j]? = some s →
      s.Holds (ledger.record i screen se) j := by
  have hlen := hout.length_le
  have hscreens := hd.screens_eq
  obtain ⟨hilt, -⟩ := List.getElem?_eq_some_iff.mp hi
  rw [hscreens] at hlen hilt
  intro j s htop hj
  rcases hout.screen_cases hj with ⟨hne, hold⟩ | ⟨rfl, rfl⟩ |
    ⟨rfl, hnext, identifier, scene, hsegue, hscene, rfl⟩
  · rw [hscreens] at hold
    obtain ⟨hjlt, -⟩ := List.getElem?_eq_some_iff.mp hold
    exact (h.holds j s (by omega) hold).frame hne (hd.record_below hilt (by omega))
  · exact hd.holds_self h hi hr (by omega)
  · rw [hscreens] at hnext
    have hself := hd.holds_self h hi hr hnext
    refine Screen.destination_holds hself (segue_of_storyboard hscene) ?_ ?_
    · intro hmem
      rcases Ledger.mem_record_loaded.mp hmem with ⟨heq, -⟩ | hold
      · omega
      · have := h.bound _ hold
        omega
    · intro cc _ hscene_eq
      subst hscene_eq
      exact hd.loaded_of_addClass h hok hi hr hnext hsegue hscene

/-- **What the last screen waits for brings the ledger.** -/
theorem Dispatches.ledger_brings (hd : Dispatches flow e flow₀ i se) (h : LedgerInv flow ledger)
    (hi : flow₀.screens[i]? = some screen)
    (hr : screen.handle lower flow₀.newUserData se = some r) (hout : Outcome flow₀ i r flow') :
    ∀ request ∈ flow'.requests, ∀ j, request.load? = some j → j + 1 = flow'.screens.length →
      request.Brings flow' (ledger.record i screen se).accepted := by
  have hlen := hout.length_le
  have hscreens := hd.screens_eq
  have h₀ := hd.ledgerInv h
  obtain ⟨hilt, -⟩ := List.getElem?_eq_some_iff.mp hi
  intro request hmem j hj htop
  rcases hout.load_cases hr hmem hj with hold | ⟨hnext, identifier, scene, -, -, hnew⟩
  · obtain ⟨s, hs, hun⟩ := h₀.load.unloaded request hold j hj
    obtain ⟨hjlt, -⟩ := List.getElem?_eq_some_iff.mp hs
    -- a screen that waits accepts nothing, and neither does one below it
    have haccepted : screen.record se ledger.accepted = ledger.accepted := by
      by_cases hij : i = j
      · subst hij
        rw [hi] at hs
        obtain rfl := Option.some.inj hs
        exact Screen.record_of_unloaded hun
      · rw [hscreens] at hilt hjlt hlen
        exact hd.record_below hilt (by omega)
    show request.Brings flow' (screen.record se ledger.accepted)
    rw [haccepted]
    refine (h₀.brings request hold j hj (by omega)).frame ?_
    intro identifier school hcall
    -- the form behind the return is covered
    obtain ⟨hdest, ac, hac⟩ := h₀.load.returns request hold identifier school hcall
    have hjdest : j = request.dest := by
      unfold Request.load? at hj
      rw [hcall] at hj
      exact (Option.some.inj hj).symm
    have hsteps : Steps lower flow e flow' := .deliver hd ⟨screen, r, hi, hr, hout⟩
    rw [hac]
    rw [hscreens] at hac hjlt
    exact (hsteps.addClass_frozen hac (by omega)).1
  -- a new query reads from the screen that has just reacted
  · rw [hscreens] at hnext
    exact presented_brings (hd.holds_self h hi hr hnext) (hout.getElem?_self hi) hnew

end Deliver

/-- **Step lemma.** -/
theorem step_ledgerInv {flow flow' : Flow} {e : Event} {ledger : Ledger}
    (h : LedgerInv flow ledger) (hok : scheduleThere flow e = true)
    (hs : flow.step lower e = some flow') : LedgerInv flow' (flow.record e ledger) := by
  have hload := step_loadInv h.load hs
  cases steps_of_step hs with
  | @silent k response request hk hc =>
    have hrecord : flow.record (.answer k response) ledger = ledger := by
      have hdispatch : flow.dispatch (.answer k response) = some (flow.settle k, none) := by
        show (flow.requests[k]?.bind fun request => (flow.completion request response).bind _) = _
        rw [hk, Option.bind_some, hc]
        rfl
      unfold Flow.record
      rw [hdispatch]
    rw [hrecord]
    exact ledgerInv_settle h k
  | @deliver _ flow₀ _ i se hd hdeliver =>
    obtain ⟨screen, r, hi, hr, hout⟩ := hdeliver
    have h₀ := hd.ledgerInv h
    rw [hd.record_eq ledger hi]
    exact {
      load := hload
      bound := hout.ledger_bound h₀ hi
      pending := hout.ledger_pending h₀ (hd.load_unique h.load) hr
      filled := hout.ledger_filled h₀ hi hr
      holds := hd.ledger_holds h hok hi hr hout
      brings := hd.ledger_brings h hi hr hout }

theorem ledgerInv_launch : LedgerInv launch ⟨[], []⟩ where
  load := loadInv_launch
  bound := by
    intro j hj
    cases hj
  pending := by
    intro request hmem
    exact absurd hmem (not_mem_launch_requests request)
  filled := by
    intro j cc hj
    have hrank : 3 ≤ j := loadInv_launch.rank j _ hj
    obtain ⟨hlt, -⟩ := List.getElem?_eq_some_iff.mp hj
    have hlt : j < 1 := hlt
    omega
  holds := by
    intro j s htop hj
    have htop : j + 1 = 1 := htop
    obtain rfl : j = 0 := by omega
    obtain rfl := Option.some.inj hj
    rfl
  brings := by
    intro request hmem
    exact absurd hmem (not_mem_launch_requests request)

/-- **Run lemma.** -/
theorem ledgerInv_of_reaches {p : Flow × Ledger}
    (h : (bookkeeping lower).Reaches (fun p e => scheduleThere p.1 e = true) p) :
    LedgerInv p.1 p.2 := by
  refine h.invariant (P := fun p => LedgerInv p.1 p.2) ?_ ?_
  · intro p hinit
    obtain ⟨flow, ledger⟩ := p
    obtain ⟨hflow, hledger⟩ := hinit
    obtain rfl : flow = launch := hflow
    obtain rfl : ledger = ⟨[], []⟩ := hledger
    exact ledgerInv_launch
  · intro p e p' hinv hok hs
    obtain ⟨flow', hstep, rfl⟩ := Option.map_eq_some_iff.mp hs
    exact step_ledgerInv hinv hok hstep

/-- **No accepted course is lost**, in every state of every run in which the
class form is only presented by a chooser that has its schedule. -/
theorem no_lost_course {p : Flow × Ledger}
    (h : (bookkeeping lower).Reaches (fun p e => scheduleThere p.1 e = true) p) :
    NoLostCourse p.1 p.2 := by
  have hinv := ledgerInv_of_reaches h
  intro i cc htop hcc
  exact hinv.holds i _ htop hcc

theorem bookkeeping_init : (bookkeeping lower).init (launch, ⟨[], []⟩) := ⟨rfl, rfl⟩

/-- Of a tapped and a submitted course, neither is lost. -/
theorem no_lost_course_two_courses :
    ∃ p, (bookkeeping String.toLower).Reaches (fun p e => scheduleThere p.1 e = true) p ∧
      p.1.screens.length = 6 ∧ p.2.loaded = [5, 3] ∧ p.2.accepted.map (·.id) = ["c1", "c2"] ∧
      NoLostCourse p.1 p.2 := by
  have hrun : (bookkeeping String.toLower).runUnder (fun p e => scheduleThere p.1 e)
      (launch, ⟨[], []⟩) (toFilledForm ++ submitAndReturn) = some _ := rfl
  have h := Machine.runUnder_reaches (fun _ _ hok => hok) _ (.init bookkeeping_init) hrun
  exact ⟨_, h, rfl, rfl, rfl, no_lost_course h⟩

/-- The class form is presented before the chooser's catalogue has arrived;
a class is submitted there, and confirmed. -/
def submitUnloaded : List Event :=
  toChooser ++
    ([ .input (.chooseClasses .addClass),
      .documents 2 [kappel.document],
      .input (.addClass (.editClassTitle "Latin")),
      .input (.addClass .teacher),
      .input (.addClass (.pickerDidSelectRow 0)),
      .input (.addClass .period),
      .input (.addClass (.pickerDidSelectRow 2)),
      .input (.addClass (.addClass "c2")),
      .input (.addClass .ok),
      .documents 2 [] ] : List Event)

/-- Every fetch succeeds, and yet the accepted course is nowhere. -/
theorem accepted_course_lost :
    ¬∀ p, (bookkeeping String.toLower).Reaches (fun p e => fetchSucceeds p.1 e = true) p →
      NoLostCourse p.1 p.2 := by
  intro h
  have hrun : (bookkeeping String.toLower).runUnder (fun p e => fetchSucceeds p.1 e)
      (launch, ⟨[], []⟩) submitUnloaded = some _ := rfl
  have hreach := Machine.runUnder_reaches (fun _ _ hok => hok) _ (.init bookkeeping_init) hrun
  obtain ⟨sched, load, hsched, -⟩ := h _ hreach 5 _ rfl rfl List.mem_cons_self
  exact nomatch hsched

end Flow

end Scholarli
