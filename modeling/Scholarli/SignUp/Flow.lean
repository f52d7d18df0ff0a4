import Scholarli.Base.Machine
import Scholarli.SignUp.AddClass
import Scholarli.SignUp.SchoolSelector

/-!
# The sign-up flow

The screens of the sign-up process, put together along the segues of
`Main.storyboard`, with the shared record `newUserData` and the queries in
flight.

Mirroring notes:
- All segues are of kind `show` and there is no navigation controller, so a
  segue presents a fresh destination over its source. Nothing is dismissed:
  the screens form a stack that only grows, and the position of a screen in
  it identifies the view controller. Input goes to the last screen.
- A query keeps the screens that its callback captured: the one that made
  it (`caller`) and the destination of the segue in whose `prepare` it was
  made (`dest`; the caller itself if there is none). Queries are answered in
  any order, with any response, at any time.
- `performSegue` runs `prepare(for:sender:)` also when the source already
  presents another screen; the presentation then fails, so the destination
  is dropped and only what `prepare` wrote to `newUserData` remains.
- A segue that the storyboard does not have for its source, and a trap in a
  handler, are no step.

`FinalSetupViewController` reads and does nothing.
-/

namespace Scholarli

open Base (Machine Dict Document)

/-! ## The storyboard -/

inductive Scene where
  | userInfo | security | schoolSelector | chooseClasses | addClass | finalSetup
  deriving Repr, DecidableEq

/-- The segues between the scenes, by source and identifier. -/
def storyboard : Scene → String → Option Scene
  | .userInfo, "signUpSegueOne" => some .security
  | .security, "signUpSegueTwo" => some .schoolSelector
  | .schoolSelector, "signUpSegueThree" => some .chooseClasses
  | .chooseClasses, "signUpSegueFour" => some .finalSetup
  | .chooseClasses, "chooseClassToAddClass" => some .addClass
  | .addClass, "cancelAddClass" => some .chooseClasses
  | .addClass, "returnToSignUpChooseClass" => some .chooseClasses
  | _, _ => none

/-- The storyboard's table, as a relation to split on. -/
inductive Segue : Scene → String → Scene → Prop
  | one : Segue .userInfo "signUpSegueOne" .security
  | two : Segue .security "signUpSegueTwo" .schoolSelector
  | three : Segue .schoolSelector "signUpSegueThree" .chooseClasses
  | four : Segue .chooseClasses "signUpSegueFour" .finalSetup
  | toAddClass : Segue .chooseClasses "chooseClassToAddClass" .addClass
  | cancel : Segue .addClass "cancelAddClass" .chooseClasses
  | returned : Segue .addClass "returnToSignUpChooseClass" .chooseClasses

theorem segue_of_storyboard {source dest : Scene} {identifier : String}
    (h : storyboard source identifier = some dest) : Segue source identifier dest := by
  unfold storyboard at h
  split at h
  case h_8 => exact nomatch h
  all_goals
    obtain rfl := Option.some.inj h
    constructor

theorem Segue.source_eq_userInfo {source dest : Scene} {identifier : String}
    (h : Segue source identifier dest) (hid : identifier = "signUpSegueOne") :
    source = .userInfo := by
  cases h with
  | one => rfl
  | two | three | four | toAddClass | cancel | returned => exact absurd hid (by decide)

theorem Segue.source_eq_addClass {source dest : Scene} {identifier : String}
    (h : Segue source identifier dest)
    (hid : identifier = "cancelAddClass" ∨ identifier = "returnToSignUpChooseClass") :
    source = .addClass ∧ dest = .chooseClasses := by
  cases h with
  | cancel | returned => exact ⟨rfl, rfl⟩
  | one | two | three | four | toAddClass => exact absurd hid (by decide)

/-! ## Screens -/

/-- A view controller of one of the scenes. -/
inductive Screen where
  | userInfo (vc : UserInfoViewController)
  | security (vc : SecurityViewController)
  | schoolSelector (vc : SchoolSelectorViewController)
  | chooseClasses (vc : ChooseClassesViewController)
  | addClass (vc : AddClassViewController)
  | finalSetup

inductive ScreenEvent where
  | userInfo (e : UserInfoViewController.Event)
  | security (e : SecurityViewController.Event)
  | schoolSelector (e : SchoolSelectorViewController.Event)
  | chooseClasses (e : ChooseClassesViewController.Event)
  | addClass (e : AddClassViewController.Event)

/-- The event comes from the user interface, not from the callback of a query. -/
def ScreenEvent.isInput : ScreenEvent → Bool
  | .userInfo (.usernameAnswered _) => false
  | .schoolSelector (.schoolListArrived _) => false
  | .schoolSelector (.courseListArrived _ _) => false
  | .chooseClasses (.facultyArrived _ _) => false
  | .chooseClasses (.schoolArrived _ _) => false
  | .chooseClasses (.scheduleReturned _ _ _ _) => false
  | _ => true

/-- The reaction of a view controller, as that of a screen. -/
def Reaction.map {σ τ : Type} (f : σ → τ) (r : Reaction σ) : Reaction τ :=
  { vc := f r.vc, newUserData := r.newUserData, calls := r.calls, segue := r.segue }

namespace Screen

variable (lower : String → String)

def scene : Screen → Scene
  | .userInfo _ => .userInfo
  | .security _ => .security
  | .schoolSelector _ => .schoolSelector
  | .chooseClasses _ => .chooseClasses
  | .addClass _ => .addClass
  | .finalSetup => .finalSetup

def handle (newUserData : Data) : Screen → ScreenEvent → Option (Reaction Screen)
  | .userInfo vc, .userInfo e => (vc.handle newUserData e).map (·.map .userInfo)
  | .security vc, .security e => some ((vc.handle newUserData e).map .security)
  | .schoolSelector vc, .schoolSelector e =>
    (vc.handle newUserData e).map (·.map .schoolSelector)
  | .chooseClasses vc, .chooseClasses e =>
    (vc.handle lower newUserData e).map (·.map .chooseClasses)
  | .addClass vc, .addClass e => (vc.handle newUserData e).map (·.map .addClass)
  | _, _ => none

/-- What `prepare(for:sender:)` of the source does to `newUserData`. -/
def prepare (source : Screen) (identifier : String) (newUserData : Data) : Data :=
  match source with
  | .userInfo vc => vc.prepare identifier newUserData
  | .chooseClasses vc => vc.prepare identifier newUserData
  | _ => newUserData

/-- The destination of a segue as `prepare(for:sender:)` of the source leaves
it, after its `viewDidLoad`. -/
def destination (source : Screen) (identifier : String) : Scene → Screen
  | .userInfo => .userInfo (UserInfoViewController.viewDidLoad {})
  | .security => .security (SecurityViewController.viewDidLoad {})
  | .schoolSelector => .schoolSelector (SchoolSelectorViewController.viewDidLoad {}).1
  | .chooseClasses => .chooseClasses (ChooseClassesViewController.viewDidLoad {})
  | .addClass =>
    match source with
    | .chooseClasses vc => .addClass (vc.prepareAddClass identifier {}).viewDidLoad
    | _ => .addClass (AddClassViewController.viewDidLoad {})
  | .finalSetup => .finalSetup

/-- The queries that `prepare(for:sender:)` of the source starts. -/
def prepareCalls (source : Screen) (identifier : String) (newUserData : Data) : List Call :=
  match source with
  | .schoolSelector vc => vc.prepare identifier
  | .addClass _ => AddClassViewController.prepare identifier newUserData
  | _ => []

/-- The queries that `viewDidLoad` of a scene starts. -/
def loadCalls : Scene → List Call
  | .schoolSelector => (SchoolSelectorViewController.viewDidLoad {}).2
  | _ => []

end Screen

/-! ## The flow -/

/-- A query in flight, with the screens its callback captured. -/
structure Request where
  call : Call
  caller : Nat
  dest : Nat

/-- What Firestore answers a query with. -/
inductive Response where
  | usernames (r : UsernamesResponse)
  | documents (r : DocumentsResponse)

inductive Event where
  /-- Input on the screen that is shown. -/
  | input (e : ScreenEvent)
  /-- A response to one of the queries in flight. -/
  | answer (k : Nat) (response : Response)

structure Flow where
  newUserData : Data
  screens : List Screen
  requests : List Request

namespace Flow

/-- The first screen, loaded. -/
def launch : Flow where
  newUserData := Dict.empty
  screens := [.userInfo (UserInfoViewController.viewDidLoad {})]
  requests := []

theorem not_mem_launch_requests (request : Request) : request ∉ launch.requests :=
  List.not_mem_nil

theorem mem_launch_screens {screen : Screen} (h : screen ∈ launch.screens) :
    screen = .userInfo (UserInfoViewController.viewDidLoad {}) :=
  List.mem_singleton.mp h

/-- `self.scheduleToReturn` of the form that made a query, read by the callback. -/
def scheduleToReturn (flow : Flow) (caller : Nat) : Option Schedule :=
  match flow.screens[caller]? with
  | some (.addClass vc) => vc.scheduleToReturn
  | _ => none

/-- The callback that a response leads to, with the screen it runs on; the
inner `none` is a query function that does not call its completion, the
outer one a response of the wrong kind. -/
def completion (flow : Flow) (request : Request) (response : Response) :
    Option (Option (Nat × ScreenEvent)) :=
  match request.call, response with
  | .verifyUsername username, .usernames r =>
    some (some (request.caller, .userInfo (.usernameAnswered (verifyUsername username r))))
  | .getSchoolList, .documents r =>
    some ((getSchoolList r).map fun schoolList =>
      (request.caller, .schoolSelector (.schoolListArrived schoolList)))
  | .courseListForNewUser skewl, .documents r =>
    some ((getCourseList r).map fun crsList =>
      (request.caller, .schoolSelector (.courseListArrived skewl crsList)))
  | .courseListForChooseClasses school, .documents r =>
    some ((getCourseList r).map fun crsList =>
      (request.dest, .chooseClasses (.schoolArrived school crsList)))
  | .courseListForReturn identifier school, .documents r =>
    -- the form's schedule is read now, not when the query was made
    some ((getCourseList r).map fun crsList =>
      (request.dest, .chooseClasses (.scheduleReturned identifier school crsList
        (flow.scheduleToReturn request.caller))))
  | .getFaculty school, .documents r =>
    some ((getFaculty r).map fun facList =>
      (request.caller, .chooseClasses (.facultyArrived school facList)))
  | _, _ => none

/-- `performSegue(withIdentifier:sender:)` by the screen at index `i`. -/
def performSegue (flow : Flow) (i : Nat) (source : Screen) (identifier : String) :
    Option Flow := do
  let scene ← storyboard source.scene identifier
  let newUserData := source.prepare identifier flow.newUserData
  if i + 1 = flow.screens.length then
    return {
      newUserData
      screens := flow.screens ++ [source.destination identifier scene]
      requests := flow.requests
        ++ (source.prepareCalls identifier newUserData).map (⟨·, i, i + 1⟩)
        ++ (Screen.loadCalls scene).map (⟨·, i + 1, i + 1⟩) }
  -- the source presents another screen already: the destination is dropped
  else return { flow with newUserData }

variable (lower : String → String)

/-- What a handler has done before its segue, if it performs one. -/
def commit (flow : Flow) (i : Nat) (r : Reaction Screen) : Flow where
  newUserData := r.newUserData
  screens := flow.screens.set i r.vc
  requests := flow.requests ++ r.calls.map (⟨·, i, i⟩)

/-- The screen at index `i` handles an event. -/
def deliver (flow : Flow) (i : Nat) (e : ScreenEvent) : Option Flow := do
  let screen ← flow.screens[i]?
  let r ← screen.handle lower flow.newUserData e
  match r.segue with
  | none => return flow.commit i r
  | some identifier => (flow.commit i r).performSegue i r.vc identifier

/-- The flow without the `k`-th query. -/
def settle (flow : Flow) (k : Nat) : Flow := { flow with requests := flow.requests.eraseIdx k }

/-- The event that a step delivers, with its target, and the flow it is
delivered in. -/
def dispatch (flow : Flow) : Event → Option (Flow × Option (Nat × ScreenEvent))
  | .input e => if e.isInput then some (flow, some (flow.screens.length - 1, e)) else none
  | .answer k response => do
    let request ← flow.requests[k]?
    let delivery ← flow.completion request response
    return (flow.settle k, delivery)

def step (flow : Flow) (e : Event) : Option Flow := do
  let (flow, delivery) ← flow.dispatch e
  match delivery with
  | none => return flow
  | some (i, e) => flow.deliver lower i e

/-- The segue that a step performs, if any. -/
def segue (flow : Flow) (e : Event) : Option String := do
  let (flow, delivery) ← flow.dispatch e
  let (i, e) ← delivery
  let screen ← flow.screens[i]?
  let r ← screen.handle lower flow.newUserData e
  r.segue

end Flow

/-- The sign-up process as a machine. -/
def signUp (lower : String → String) : Machine Flow Event where
  init flow := flow = .launch
  step := Flow.step lower

/-- The flow after the given events. -/
def Flow.after (es : List Event) : Flow := (signUp String.toLower).after .launch es

theorem Flow.after_reachable (es : List Event) :
    (signUp String.toLower).Reachable (Flow.after es) :=
  Machine.after_reachable (.init rfl) es

/-- A student registers and goes on to the school selector. -/
def register : List Event :=
  [ .input (.userInfo (.edit .firstName "Ada")),
    .input (.userInfo (.edit .lastName "Lovelace")),
    .input (.userInfo (.edit .username "ada")),
    .input (.userInfo (.edit .phoneNumber "5550100")),
    .input (.userInfo .selectAccountType),
    .input (.userInfo .continueAction),
    .answer 0 (.usernames (.values [])),
    .input (.security .continueAction) ]

/-- Documents for one of the queries in flight. -/
def Event.documents (k : Nat) (docs : List (Document Boxed)) : Event :=
  .answer k (.documents (.documents docs))

/-- The school list arrives, and the student goes on to the class chooser,
whose catalogue has not arrived yet. -/
def toChooser : List Event :=
  register ++
    ([.documents 0 [morristownDocument], .input (.schoolSelector .continueAction)] : List Event)

/-! ## What handlers write to the shared record -/

namespace Screen

variable {lower : String → String} {newUserData : Data}

/-- A screen handles the events of its own view controller. -/
inductive Handled (lower : String → String) (newUserData : Data) :
    Screen → ScreenEvent → Reaction Screen → Prop
  | userInfo {vc : UserInfoViewController} {e r} (h : vc.handle newUserData e = some r) :
      Handled lower newUserData (.userInfo vc) (.userInfo e) (r.map .userInfo)
  | security (vc : SecurityViewController) (e) :
      Handled lower newUserData (.security vc) (.security e)
        ((vc.handle newUserData e).map .security)
  | schoolSelector {vc : SchoolSelectorViewController} {e r}
      (h : vc.handle newUserData e = some r) :
      Handled lower newUserData (.schoolSelector vc) (.schoolSelector e) (r.map .schoolSelector)
  | chooseClasses {vc vc' : ChooseClassesViewController} {e} (h : vc.step lower e = some vc') :
      Handled lower newUserData (.chooseClasses vc) (.chooseClasses e)
        { vc := .chooseClasses vc', newUserData,
          calls := ChooseClassesViewController.calls newUserData e,
          segue := ChooseClassesViewController.segue e }
  | addClass {vc vc' : AddClassViewController} {e} (h : vc.step e = some vc') :
      Handled lower newUserData (.addClass vc) (.addClass e)
        { vc := .addClass vc', newUserData, segue := AddClassViewController.segue e }

theorem handled_of_handle {screen : Screen} {e : ScreenEvent} {r : Reaction Screen}
    (hr : screen.handle lower newUserData e = some r) : Handled lower newUserData screen e r := by
  unfold handle at hr
  split at hr
  next vc e =>
    obtain ⟨r', hr', rfl⟩ := Option.map_eq_some_iff.mp hr
    exact .userInfo hr'
  next vc e =>
    obtain rfl := Option.some.inj hr
    exact .security vc e
  next vc e =>
    obtain ⟨r', hr', rfl⟩ := Option.map_eq_some_iff.mp hr
    exact .schoolSelector hr'
  next vc e =>
    obtain ⟨r', hr', rfl⟩ := Option.map_eq_some_iff.mp hr
    obtain ⟨vc', hvc', rfl⟩ := Option.map_eq_some_iff.mp hr'
    exact .chooseClasses hvc'
  next vc e =>
    obtain ⟨r', hr', rfl⟩ := Option.map_eq_some_iff.mp hr
    obtain ⟨vc', hvc', rfl⟩ := Option.map_eq_some_iff.mp hr'
    exact .addClass hvc'
  next => exact nomatch hr

theorem handle_scene {screen : Screen} {e : ScreenEvent} {r : Reaction Screen}
    (hr : screen.handle lower newUserData e = some r) : r.vc.scene = screen.scene := by
  cases handled_of_handle hr <;> rfl

theorem destination_scene (source : Screen) (identifier : String) (scene : Scene) :
    (source.destination identifier scene).scene = scene := by
  cases scene with
  | addClass => cases source <;> rfl
  | userInfo | security | schoolSelector | chooseClasses | finalSetup => rfl

/-- Every segue that a handler performs is in the storyboard. -/
theorem handle_segue {screen : Screen} {e : ScreenEvent} {r : Reaction Screen}
    (hr : screen.handle lower newUserData e = some r) {identifier : String}
    (hsegue : r.segue = some identifier) : ∃ dest, Segue screen.scene identifier dest := by
  cases handled_of_handle hr with
  | userInfo h =>
    obtain ⟨result, -, -, rfl⟩ := UserInfoViewController.handle_segue h hsegue
    obtain rfl := Option.some.inj hsegue
    exact ⟨_, .one⟩
  | security vc e =>
    cases e with
    | continueAction =>
      obtain ⟨-, hsegue⟩ := Option.ite_none_right_eq_some.mp hsegue
      obtain rfl := Option.some.inj hsegue
      exact ⟨_, .two⟩
    | editPassword text | editConfirmPassword text | passwordDoneEditing
      | confirmPasswordDoneEditing => exact nomatch hsegue
  | @schoolSelector vc e r h =>
    have hsegue : r.segue = some identifier := hsegue
    cases SchoolSelectorViewController.handles_of_handle h with
    | select school _ _ => exact nomatch hsegue
    | keep _ hcases =>
      rcases hcases with rfl | ⟨rfl, -⟩
      · exact nomatch hsegue
      · obtain rfl := Option.some.inj hsegue
        exact ⟨_, .three⟩
    | rewrite skewl crsList => exact nomatch hsegue
  | @chooseClasses vc vc' e h =>
    have hsegue : ChooseClassesViewController.segue e = some identifier := hsegue
    unfold ChooseClassesViewController.segue at hsegue
    split at hsegue
    next =>
      obtain rfl := Option.some.inj hsegue
      exact ⟨_, .four⟩
    next =>
      obtain rfl := Option.some.inj hsegue
      exact ⟨_, .toAddClass⟩
    next => exact nomatch hsegue
  | @addClass vc vc' e h =>
    have hsegue : AddClassViewController.segue e = some identifier := hsegue
    unfold AddClassViewController.segue at hsegue
    split at hsegue
    next =>
      obtain rfl := Option.some.inj hsegue
      exact ⟨_, .returned⟩
    next =>
      obtain rfl := Option.some.inj hsegue
      exact ⟨_, .cancel⟩
    next => exact nomatch hsegue

/-- **Inversion** of the queries that a handler starts. -/
theorem handle_calls {screen : Screen} {e : ScreenEvent} {r : Reaction Screen}
    (hr : screen.handle lower newUserData e = some r) {call : Call} (hcall : call ∈ r.calls) :
    (screen.scene = .userInfo ∧ ∃ username, call = .verifyUsername username ∧ username ≠ "") ∨
    (screen.scene = .schoolSelector ∧ ∃ school, call = .courseListForNewUser school) ∨
    (screen.scene = .chooseClasses ∧ ∃ school, call = .getFaculty school ∧
      schoolOf r.newUserData = some school) := by
  cases handled_of_handle hr with
  | userInfo h => exact Or.inl ⟨rfl, UserInfoViewController.handle_calls h hcall⟩
  | security vc e => cases e <;> cases hcall
  | schoolSelector h =>
    cases SchoolSelectorViewController.handles_of_handle h with
    | select school _ _ => exact Or.inr (Or.inl ⟨rfl, school, List.mem_singleton.mp hcall⟩)
    | keep _ _ => cases hcall
    | rewrite skewl crsList => cases hcall
  | @chooseClasses vc vc' e h =>
    have hcall : call ∈ ChooseClassesViewController.calls newUserData e := hcall
    unfold ChooseClassesViewController.calls at hcall
    split at hcall
    next =>
      split at hcall
      next school hschool =>
        exact Or.inr (Or.inr ⟨rfl, school, List.mem_singleton.mp hcall, hschool⟩)
      next => cases hcall
    next => cases hcall
  | addClass h => cases hcall

/-- **Inversion** of the queries that `prepare` starts: for the school that is
selected, or for the recorded one. -/
theorem mem_prepareCalls {source : Screen} {identifier : String} {call : Call}
    (hcall : call ∈ source.prepareCalls identifier newUserData) :
    (∃ vc school, source = .schoolSelector vc ∧ vc.currentSelection = some school ∧
      call = .courseListForChooseClasses school) ∨
    (∃ vc school, source = .addClass vc ∧ schoolOf newUserData = some school ∧
      call = .courseListForReturn identifier school) := by
  cases source with
  | schoolSelector vc =>
    have hcall : call ∈ vc.prepare identifier := hcall
    unfold SchoolSelectorViewController.prepare at hcall
    split at hcall
    next =>
      split at hcall
      next school hschool => exact Or.inl ⟨vc, school, rfl, hschool, List.mem_singleton.mp hcall⟩
      next => cases hcall
    next => cases hcall
  | addClass vc =>
    have hcall : call ∈ AddClassViewController.prepare identifier newUserData := hcall
    unfold AddClassViewController.prepare at hcall
    split at hcall
    next =>
      split at hcall
      next school hschool => exact Or.inr ⟨vc, school, rfl, hschool, List.mem_singleton.mp hcall⟩
      next => cases hcall
    next => cases hcall
  | userInfo vc | security vc | chooseClasses vc | finalSetup => cases hcall

/-- Only the school selector queries as it loads. -/
theorem mem_loadCalls {scene : Scene} {call : Call} (hcall : call ∈ loadCalls scene) :
    scene = .schoolSelector ∧ call = .getSchoolList := by
  cases scene with
  | schoolSelector => exact ⟨rfl, List.mem_singleton.mp hcall⟩
  | userInfo | security | chooseClasses | addClass | finalSetup => cases hcall

/-- No handler writes the schedule. -/
theorem handle_schedule {screen : Screen} {e : ScreenEvent} {r : Reaction Screen}
    (hr : screen.handle lower newUserData e = some r) :
    r.newUserData "schedule" = newUserData "schedule" := by
  cases handled_of_handle hr with
  | @userInfo vc e r h =>
    show r.newUserData "schedule" = _
    rcases UserInfoViewController.handle_newUserData h with h | ⟨vc', h⟩
    · rw [h]
    · rw [h]
      simp [UserInfoViewController.updateAccountInfo]
  | security vc e =>
    show (vc.handle newUserData e).newUserData "schedule" = _
    rcases SecurityViewController.handle_newUserData vc newUserData e with h | h
    · rw [h]
    · rw [h]
      simp [SecurityViewController.updateAccountInfo]
  | @schoolSelector vc e r h =>
    show r.newUserData "schedule" = _
    cases SchoolSelectorViewController.handles_of_handle h with
    | select school _ _ => simp [SchoolSelectorViewController.writeSchool]
    | keep _ _ => rfl
    | rewrite skewl crsList =>
      simp [SchoolSelectorViewController.courseListArrived,
        SchoolSelectorViewController.writeSchool]
  | chooseClasses h => rfl
  | addClass h => rfl

/-- Along the segues of the storyboard, no `prepare` writes the schedule:
the class chooser waits for an identifier that its scene does not have. -/
theorem prepare_schedule {source : Screen} {identifier : String} {scene : Scene}
    (hscene : storyboard source.scene identifier = some scene) :
    source.prepare identifier newUserData "schedule" = newUserData "schedule" := by
  cases source with
  | userInfo vc =>
    show vc.prepare identifier newUserData "schedule" = _
    unfold UserInfoViewController.prepare
    split
    next => simp [UserInfoViewController.updateAccountInfo]
    next => rfl
  | chooseClasses vc =>
    show vc.prepare identifier newUserData "schedule" = _
    unfold ChooseClassesViewController.prepare
    split
    next hid =>
      subst hid
      exact nomatch hscene
    next => rfl
  | security vc => rfl
  | schoolSelector vc => rfl
  | addClass vc => rfl
  | finalSetup => rfl

/-- Only the school selector writes the school. -/
theorem handle_schoolOf {screen : Screen} {e : ScreenEvent} {r : Reaction Screen}
    (hr : screen.handle lower newUserData e = some r) (hne : screen.scene ≠ .schoolSelector) :
    schoolOf r.newUserData = schoolOf newUserData := by
  cases handled_of_handle hr with
  | @userInfo vc e r h =>
    show schoolOf r.newUserData = _
    rcases UserInfoViewController.handle_newUserData h with h | ⟨vc', h⟩
    · rw [h]
    · rw [h]
      simp [schoolOf, Dict.cast, UserInfoViewController.updateAccountInfo]
  | security vc e =>
    show schoolOf (vc.handle newUserData e).newUserData = _
    rcases SecurityViewController.handle_newUserData vc newUserData e with h | h
    · rw [h]
    · rw [h]
      simp [schoolOf, Dict.cast, SecurityViewController.updateAccountInfo]
  | schoolSelector h => exact absurd rfl hne
  | chooseClasses h => rfl
  | addClass h => rfl

theorem prepare_schoolOf (source : Screen) (identifier : String) :
    schoolOf (source.prepare identifier newUserData) = schoolOf newUserData := by
  cases source with
  | userInfo vc =>
    show schoolOf (vc.prepare identifier newUserData) = _
    unfold UserInfoViewController.prepare
    split
    next => simp [schoolOf, Dict.cast, UserInfoViewController.updateAccountInfo]
    next => rfl
  | chooseClasses vc =>
    show schoolOf (vc.prepare identifier newUserData) = _
    unfold ChooseClassesViewController.prepare
    split
    next => simp [schoolOf, Dict.cast]
    next => rfl
  | security vc => rfl
  | schoolSelector vc => rfl
  | addClass vc => rfl
  | finalSetup => rfl

end Screen

/-! ## What a step can do -/

namespace Flow

variable {lower : String → String}

/-- What becomes of a reaction of the screen at index `i`: no segue, one whose
presentation fails, one that is presented. -/
inductive Outcome (flow : Flow) (i : Nat) (r : Reaction Screen) : Flow → Prop
  | stay (hsegue : r.segue = none) : Outcome flow i r (flow.commit i r)
  | drop {identifier : String} {scene : Scene} (hsegue : r.segue = some identifier)
      (hscene : storyboard r.vc.scene identifier = some scene)
      (htop : i + 1 ≠ flow.screens.length) :
      Outcome flow i r
        { flow.commit i r with newUserData := r.vc.prepare identifier r.newUserData }
  | push {identifier : String} {scene : Scene} (hsegue : r.segue = some identifier)
      (hscene : storyboard r.vc.scene identifier = some scene)
      (htop : i + 1 = flow.screens.length) :
      Outcome flow i r
        { newUserData := r.vc.prepare identifier r.newUserData
          screens := flow.screens.set i r.vc ++ [r.vc.destination identifier scene]
          requests := flow.requests ++ r.calls.map (⟨·, i, i⟩)
            ++ (r.vc.prepareCalls identifier
              (r.vc.prepare identifier r.newUserData)).map (⟨·, i, i + 1⟩)
            ++ (Screen.loadCalls scene).map (⟨·, i + 1, i + 1⟩) }

/-- The screen at index `i` handles an event. -/
def Delivers (lower : String → String) (flow : Flow) (i : Nat) (e : ScreenEvent)
    (flow' : Flow) : Prop :=
  ∃ screen r, flow.screens[i]? = some screen ∧
    screen.handle lower flow.newUserData e = some r ∧ Outcome flow i r flow'

/-- The callback that a response leads to, query by query. -/
inductive Callback (flow : Flow) : Request → Response → Nat → ScreenEvent → Prop
  | username (username : String) (caller dest : Nat) (r : UsernamesResponse) :
      Callback flow ⟨.verifyUsername username, caller, dest⟩ (.usernames r) caller
        (.userInfo (.usernameAnswered (verifyUsername username r)))
  | schoolList (caller dest : Nat) {r : DocumentsResponse} {schoolList : Option (List School)}
      (h : getSchoolList r = some schoolList) :
      Callback flow ⟨.getSchoolList, caller, dest⟩ (.documents r) caller
        (.schoolSelector (.schoolListArrived schoolList))
  | newUser (skewl : School) (caller dest : Nat) {r : DocumentsResponse}
      {crsList : List Course} (h : getCourseList r = some crsList) :
      Callback flow ⟨.courseListForNewUser skewl, caller, dest⟩ (.documents r) caller
        (.schoolSelector (.courseListArrived skewl crsList))
  | chooseClasses (school : School) (caller dest : Nat) {r : DocumentsResponse}
      {crsList : List Course} (h : getCourseList r = some crsList) :
      Callback flow ⟨.courseListForChooseClasses school, caller, dest⟩ (.documents r) dest
        (.chooseClasses (.schoolArrived school crsList))
  | returned (identifier : String) (school : School) (caller dest : Nat) {r : DocumentsResponse}
      {crsList : List Course} (h : getCourseList r = some crsList) :
      Callback flow ⟨.courseListForReturn identifier school, caller, dest⟩ (.documents r) dest
        (.chooseClasses (.scheduleReturned identifier school crsList
          (flow.scheduleToReturn caller)))
  | faculty (school : School) (caller dest : Nat) {r : DocumentsResponse}
      {facList : List Faculty} (h : getFaculty r = some facList) :
      Callback flow ⟨.getFaculty school, caller, dest⟩ (.documents r) caller
        (.chooseClasses (.facultyArrived school facList))

theorem callback_of_completion {flow : Flow} {request : Request} {response : Response} {i : Nat}
    {e : ScreenEvent} (h : flow.completion request response = some (some (i, e))) :
    Callback flow request response i e := by
  obtain ⟨call, caller, dest⟩ := request
  unfold completion at h
  dsimp only at h
  split at h
  next username r =>
    obtain ⟨rfl, rfl⟩ := Prod.mk.inj (Option.some.inj (Option.some.inj h))
    exact .username username caller dest r
  next r =>
    obtain ⟨schoolList, hr, h⟩ := Option.map_eq_some_iff.mp (Option.some.inj h)
    obtain ⟨rfl, rfl⟩ := Prod.mk.inj h
    exact .schoolList caller dest hr
  next skewl r =>
    obtain ⟨crsList, hr, h⟩ := Option.map_eq_some_iff.mp (Option.some.inj h)
    obtain ⟨rfl, rfl⟩ := Prod.mk.inj h
    exact .newUser skewl caller dest hr
  next school r =>
    obtain ⟨crsList, hr, h⟩ := Option.map_eq_some_iff.mp (Option.some.inj h)
    obtain ⟨rfl, rfl⟩ := Prod.mk.inj h
    exact .chooseClasses school caller dest hr
  next identifier school r =>
    obtain ⟨crsList, hr, h⟩ := Option.map_eq_some_iff.mp (Option.some.inj h)
    obtain ⟨rfl, rfl⟩ := Prod.mk.inj h
    exact .returned identifier school caller dest hr
  next school r =>
    obtain ⟨facList, hr, h⟩ := Option.map_eq_some_iff.mp (Option.some.inj h)
    obtain ⟨rfl, rfl⟩ := Prod.mk.inj h
    exact .faculty school caller dest hr
  next => exact nomatch h

theorem Callback.completion_eq {flow : Flow} {request : Request} {response : Response} {i : Nat}
    {e : ScreenEvent} (h : Callback flow request response i e) :
    flow.completion request response = some (some (i, e)) := by
  cases h with
  | username username caller dest r => rfl
  | schoolList _ _ h | newUser _ _ _ h | chooseClasses _ _ _ h | returned _ _ _ _ h
    | faculty _ _ _ h =>
    unfold completion
    dsimp only
    rw [h]
    rfl

/-- The event that a step delivers: input on the screen shown, or the
callback of a query, which is no longer in flight then. -/
inductive Dispatches (flow : Flow) : Event → Flow → Nat → ScreenEvent → Prop
  | input {e : ScreenEvent} (hinput : e.isInput = true) :
      Dispatches flow (.input e) flow (flow.screens.length - 1) e
  | callback {k : Nat} {response : Response} {request : Request} {i : Nat} {e : ScreenEvent}
      (hk : flow.requests[k]? = some request) (hc : Callback flow request response i e) :
      Dispatches flow (.answer k response) (flow.settle k) i e

/-- The ways in which the flow takes a step: a response is dropped, or an
event is delivered. -/
inductive Steps (lower : String → String) (flow : Flow) : Event → Flow → Prop
  | silent {k : Nat} {response : Response} {request : Request}
      (hk : flow.requests[k]? = some request)
      (hc : flow.completion request response = some none) :
      Steps lower flow (.answer k response) (flow.settle k)
  | deliver {e : Event} {flow₀ flow' : Flow} {i : Nat} {se : ScreenEvent}
      (hd : Dispatches flow e flow₀ i se) (h : Delivers lower flow₀ i se flow') :
      Steps lower flow e flow'

theorem dispatches_of_dispatch {flow flow₀ : Flow} {e : Event} {i : Nat} {se : ScreenEvent}
    (h : flow.dispatch e = some (flow₀, some (i, se))) : Dispatches flow e flow₀ i se := by
  cases e with
  | input e =>
    obtain ⟨hinput, h⟩ := Option.ite_none_right_eq_some.mp h
    obtain ⟨rfl, htarget⟩ := Prod.mk.inj (Option.some.inj h)
    obtain ⟨rfl, rfl⟩ := Prod.mk.inj (Option.some.inj htarget)
    exact .input hinput
  | answer k response =>
    obtain ⟨request, hk, h⟩ := Option.bind_eq_some_iff.mp h
    obtain ⟨delivery, hc, h⟩ := Option.bind_eq_some_iff.mp h
    obtain ⟨rfl, rfl⟩ := Prod.mk.inj (Option.some.inj h)
    exact .callback hk (callback_of_completion hc)

theorem Dispatches.dispatch_eq {flow flow₀ : Flow} {e : Event} {i : Nat} {se : ScreenEvent}
    (h : Dispatches flow e flow₀ i se) : flow.dispatch e = some (flow₀, some (i, se)) := by
  cases h with
  | input hinput => exact if_pos hinput
  | @callback k response request _ _ hk hc =>
    show (flow.requests[k]?.bind fun request => (flow.completion request response).bind _) = _
    rw [hk, Option.bind_some, hc.completion_eq]
    rfl

theorem delivers_of_deliver {flow flow' : Flow} {i : Nat} {e : ScreenEvent}
    (h : flow.deliver lower i e = some flow') : Delivers lower flow i e flow' := by
  obtain ⟨screen, hi, h⟩ := Option.bind_eq_some_iff.mp h
  obtain ⟨r, hr, h⟩ := Option.bind_eq_some_iff.mp h
  refine ⟨screen, r, hi, hr, ?_⟩
  split at h
  next hsegue =>
    obtain rfl := Option.some.inj h
    exact .stay hsegue
  next identifier hsegue =>
    obtain ⟨scene, hscene, h⟩ := Option.bind_eq_some_iff.mp h
    dsimp only at h
    split at h
    next htop =>
      obtain rfl := Option.some.inj h
      have htop : i + 1 = flow.screens.length := by simpa [commit] using htop
      exact .push hsegue hscene htop
    next htop =>
      obtain rfl := Option.some.inj h
      have htop : i + 1 ≠ flow.screens.length := by simpa [commit] using htop
      exact .drop hsegue hscene htop

/-- **Inversion.** Every step is one of these. -/
theorem steps_of_step {flow flow' : Flow} {e : Event} (h : flow.step lower e = some flow') :
    Steps lower flow e flow' := by
  obtain ⟨⟨flow₀, delivery⟩, hd, h⟩ := Option.bind_eq_some_iff.mp h
  cases delivery with
  | some target => exact .deliver (dispatches_of_dispatch hd) (delivers_of_deliver h)
  | none =>
    obtain rfl := Option.some.inj h
    cases e with
    | input e =>
      obtain ⟨-, hd⟩ := Option.ite_none_right_eq_some.mp hd
      exact nomatch (Prod.mk.inj (Option.some.inj hd)).2
    | answer k response =>
      obtain ⟨request, hk, hd⟩ := Option.bind_eq_some_iff.mp hd
      obtain ⟨delivery, hc, hd⟩ := Option.bind_eq_some_iff.mp hd
      obtain ⟨rfl, rfl⟩ := Prod.mk.inj (Option.some.inj hd)
      exact .silent hk hc

/-- A step that performs a segue delivers an event whose reaction does. -/
theorem step_of_segue {flow flow' : Flow} {e : Event} {identifier : String}
    (hs : flow.step lower e = some flow') (hsegue : flow.segue lower e = some identifier) :
    ∃ flow₀ i se screen r, Dispatches flow e flow₀ i se ∧
      flow₀.screens[i]? = some screen ∧ screen.handle lower flow₀.newUserData se = some r ∧
      r.segue = some identifier ∧ Outcome flow₀ i r flow' := by
  simp only [segue, Option.bind_eq_bind, Option.bind_eq_some_iff, Prod.exists] at hsegue
  obtain ⟨flow₀, delivery, hdispatch, i, se, rfl, screen, hi, r, hr, hsegue⟩ := hsegue
  refine ⟨flow₀, i, se, screen, r, dispatches_of_dispatch hdispatch, hi, hr, hsegue, ?_⟩
  obtain ⟨_, hdispatch', hs⟩ := Option.bind_eq_some_iff.mp hs
  rw [hdispatch] at hdispatch'
  obtain rfl := Option.some.inj hdispatch'
  obtain ⟨screen', r', hi', hr', hout⟩ := delivers_of_deliver hs
  rw [hi] at hi'
  obtain rfl := Option.some.inj hi'
  rw [hr] at hr'
  obtain rfl := Option.some.inj hr'
  exact hout

/-- Where a screen of the new stack comes from. -/
theorem Outcome.screen_cases {flow flow' : Flow} {i j : Nat} {r : Reaction Screen}
    (h : Outcome flow i r flow') {s : Screen} (hj : flow'.screens[j]? = some s) :
    (j ≠ i ∧ flow.screens[j]? = some s) ∨ (j = i ∧ s = r.vc) ∨
    (j = i + 1 ∧ j = flow.screens.length ∧ ∃ identifier scene, r.segue = some identifier ∧
      storyboard r.vc.scene identifier = some scene ∧ s = r.vc.destination identifier scene) := by
  -- below a new screen, only the one that reacted is different
  have hset : (flow.screens.set i r.vc)[j]? = some s →
      (j ≠ i ∧ flow.screens[j]? = some s) ∨ (j = i ∧ s = r.vc) := by
    intro hj
    by_cases hij : i = j
    · subst hij
      rw [List.getElem?_set_self'] at hj
      obtain ⟨_, -, rfl⟩ := Option.map_eq_some_iff.mp hj
      exact Or.inr ⟨rfl, rfl⟩
    · rw [List.getElem?_set_ne hij] at hj
      exact Or.inl ⟨fun h => hij h.symm, hj⟩
  cases h with
  | stay hsegue => exact (hset hj).imp_right Or.inl
  | drop hsegue hscene htop => exact (hset hj).imp_right Or.inl
  | @push identifier scene hsegue hscene htop =>
    rcases Nat.lt_or_ge j flow.screens.length with hlt | hge
    · rw [List.getElem?_append_left (by simpa using hlt)] at hj
      exact (hset hj).imp_right Or.inl
    · rw [List.getElem?_append_right (by simpa using hge), List.length_set] at hj
      obtain ⟨hlt, hs⟩ := List.getElem?_eq_some_iff.mp hj
      have hj' : j = flow.screens.length := by
        simp only [List.length_singleton] at hlt
        omega
      subst hj'
      refine Or.inr (Or.inr ⟨htop.symm, rfl, identifier, scene, hsegue, hscene, ?_⟩)
      simpa using hs.symm

/-- **Invariant rule for screens.** What the screen that handles the event
keeps, and presentations pass on, holds of all screens. -/
theorem Delivers.forall_screens_at {P : Screen → Prop} {flow flow' : Flow} {i : Nat}
    {e : ScreenEvent} (h : Delivers lower flow i e flow') (hP : ∀ s ∈ flow.screens, P s)
    (hhandle : ∀ screen r, flow.screens[i]? = some screen →
      screen.handle lower flow.newUserData e = some r → P r.vc)
    (hdest : ∀ source identifier scene, P source → Segue source.scene identifier scene →
      P (source.destination identifier scene)) :
    ∀ s ∈ flow'.screens, P s := by
  obtain ⟨screen, r, hi, hr, hout⟩ := h
  have hvc := hhandle screen r hi hr
  intro s hs
  obtain ⟨j, hj⟩ := List.mem_iff_getElem?.mp hs
  rcases hout.screen_cases hj with ⟨-, hold⟩ | ⟨-, rfl⟩ | ⟨-, -, identifier, scene, -, hscene, rfl⟩
  · exact hP s (List.mem_of_getElem? hold)
  · exact hvc
  · exact hdest r.vc identifier scene hvc (segue_of_storyboard hscene)

/-- The rule for what every screen's handler keeps. -/
theorem Delivers.forall_screens {P : Screen → Prop} {flow flow' : Flow} {i : Nat}
    {e : ScreenEvent} (h : Delivers lower flow i e flow') (hP : ∀ s ∈ flow.screens, P s)
    (hhandle : ∀ screen ∈ flow.screens, ∀ r,
      screen.handle lower flow.newUserData e = some r → P r.vc)
    (hdest : ∀ source identifier scene, P source → Segue source.scene identifier scene →
      P (source.destination identifier scene)) :
    ∀ s ∈ flow'.screens, P s :=
  h.forall_screens_at hP (fun screen r hi => hhandle screen (List.mem_of_getElem? hi) r) hdest

/-- Where a query in flight comes from. -/
theorem Outcome.request_cases {flow flow' : Flow} {i : Nat} {r : Reaction Screen}
    (h : Outcome flow i r flow') {request : Request} (hmem : request ∈ flow'.requests) :
    request ∈ flow.requests ∨
    (∃ call ∈ r.calls, request = ⟨call, i, i⟩) ∨
    (∃ identifier scene, r.segue = some identifier ∧
      storyboard r.vc.scene identifier = some scene ∧ i + 1 = flow.screens.length ∧
      ((∃ call ∈ r.vc.prepareCalls identifier (r.vc.prepare identifier r.newUserData),
          request = ⟨call, i, i + 1⟩) ∨
        ∃ call ∈ Screen.loadCalls scene, request = ⟨call, i + 1, i + 1⟩)) := by
  have hcommit : request ∈ flow.requests ++ r.calls.map (⟨·, i, i⟩) →
      request ∈ flow.requests ∨ ∃ call ∈ r.calls, request = ⟨call, i, i⟩ := by
    intro hmem
    refine (List.mem_append.mp hmem).imp_right fun hmem => ?_
    obtain ⟨call, hcall, rfl⟩ := List.mem_map.mp hmem
    exact ⟨call, hcall, rfl⟩
  cases h with
  | stay hsegue => exact (hcommit hmem).imp_right Or.inl
  | drop hsegue hscene htop => exact (hcommit hmem).imp_right Or.inl
  | @push identifier scene hsegue hscene htop =>
    rcases List.mem_append.mp hmem with hmem | hmem
    · rcases List.mem_append.mp hmem with hmem | hmem
      · exact (hcommit hmem).imp_right Or.inl
      · obtain ⟨call, hcall, rfl⟩ := List.mem_map.mp hmem
        exact Or.inr (Or.inr ⟨identifier, scene, hsegue, hscene, htop,
          Or.inl ⟨call, hcall, rfl⟩⟩)
    · obtain ⟨call, hcall, rfl⟩ := List.mem_map.mp hmem
      exact Or.inr (Or.inr ⟨identifier, scene, hsegue, hscene, htop,
        Or.inr ⟨call, hcall, rfl⟩⟩)

/-- What becomes of the shared record. -/
theorem Outcome.newUserData_cases {flow flow' : Flow} {i : Nat} {r : Reaction Screen}
    (h : Outcome flow i r flow') :
    (r.segue = none ∧ flow'.newUserData = r.newUserData) ∨
    ∃ identifier scene, r.segue = some identifier ∧
      storyboard r.vc.scene identifier = some scene ∧
      flow'.newUserData = r.vc.prepare identifier r.newUserData := by
  cases h with
  | stay hsegue => exact Or.inl ⟨hsegue, rfl⟩
  | drop hsegue hscene htop => exact Or.inr ⟨_, _, hsegue, hscene, rfl⟩
  | push hsegue hscene htop => exact Or.inr ⟨_, _, hsegue, hscene, rfl⟩

theorem Dispatches.screens_eq {flow flow₀ : Flow} {e : Event} {i : Nat} {se : ScreenEvent}
    (h : Dispatches flow e flow₀ i se) : flow₀.screens = flow.screens := by
  cases h <;> rfl

/-- The flow in which an event is delivered differs at most by a query. -/
theorem Dispatches.of_settle {P : Flow → Prop} {flow flow₀ : Flow} {e : Event} {i : Nat}
    {se : ScreenEvent} (hd : Dispatches flow e flow₀ i se) (h : P flow)
    (hsettle : ∀ k, P (flow.settle k)) : P flow₀ := by
  cases hd with
  | input _ => exact h
  | callback _ _ => exact hsettle _

/-- **Invariant rule for steps.** What survives the loss of a query and every
delivery survives a step. -/
theorem Steps.invariant {P : Flow → Prop} {flow flow' : Flow} {e : Event}
    (hs : Steps lower flow e flow') (h : P flow) (hsettle : ∀ k, P (flow.settle k))
    (hdeliver : ∀ flow₀ i se, Dispatches flow e flow₀ i se → P flow₀ →
      Delivers lower flow₀ i se flow' → P flow') : P flow' := by
  cases hs with
  | silent _ _ => exact hsettle _
  | deliver hd hdel => exact hdeliver _ _ _ hd (hd.of_settle h hsettle) hdel

end Flow

end Scholarli
