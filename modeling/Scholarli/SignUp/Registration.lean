import Scholarli.SignUp.Loads

/-!
# The registration record over time

`newUserData` is a global variable that every screen may write, at any time:
an answer for a username that arrives late still runs `prepare(for:)` on the
first screen. `RecordStep` is the inversion, step by step: who writes what, and
when. From it:

* `Registered` — the record agrees with the first two screens once these are
  left, and they were filled in; the run lemma is `registered_of_reachable`.
* `record_settled` — once the password is confirmed, nothing but the school
  changes any more.
-/

namespace Scholarli

open Base (Machine Dict)

variable {lower : String → String}

/-! ## The first two screens -/

namespace UserInfoViewController

variable {vc vc' : UserInfoViewController} {newUserData newUserData' : Data}

/-- What an answer without a message has checked. -/
structure FilledIn (vc : UserInfoViewController) : Prop where
  firstName : ∃ t, vc.firstName = some t ∧ t ≠ ""
  lastName : ∃ t, vc.lastName = some t ∧ t ≠ ""
  phoneNumber : ∃ t, vc.phoneNumber = some t ∧ t ≠ ""
  accountType : ∃ t, vc.currentAccountType = some t

/-- The record has what the screen has. -/
structure Recorded (vc : UserInfoViewController) (newUserData : Data) : Prop where
  firstName : newUserData "firstName" = vc.firstName.map .string
  lastName : newUserData "lastName" = vc.lastName.map .string
  userName : newUserData "userName" = vc.username.map .string
  phoneNumber : newUserData "phoneNumber" = vc.phoneNumber.map .string
  accountType : newUserData "accountType" =
    vc.currentAccountType.map fun t => .boxed (.accountType t)

/-- All but the error label is the same. -/
structure SameFields (vc vc' : UserInfoViewController) : Prop where
  firstName : vc'.firstName = vc.firstName
  lastName : vc'.lastName = vc.lastName
  username : vc'.username = vc.username
  phoneNumber : vc'.phoneNumber = vc.phoneNumber
  accountType : vc'.currentAccountType = vc.currentAccountType

theorem recorded_updateAccountInfo (vc : UserInfoViewController) (newUserData : Data) :
    vc.Recorded (vc.updateAccountInfo newUserData) := by
  constructor <;> simp [updateAccountInfo]

/-- To record the same again changes nothing. -/
theorem Recorded.updateAccountInfo_eq (h : vc.Recorded newUserData) :
    vc.updateAccountInfo newUserData = newUserData := by
  funext k
  simp only [updateAccountInfo, Dict.assign_apply]
  split
  next hk => rw [hk, h.accountType]
  next =>
    split
    next hk => rw [hk, h.phoneNumber]
    next =>
      split
      next hk => rw [hk, h.userName]
      next =>
        split
        next hk => rw [hk, h.lastName]
        next =>
          split
          next hk => rw [hk, h.firstName]
          next => rfl

theorem Recorded.of_eq (h : vc.Recorded newUserData)
    (heq : ∀ k, k ≠ "password" → k ≠ "school" → newUserData' k = newUserData k) :
    vc.Recorded newUserData' := by
  refine ⟨?_, ?_, ?_, ?_, ?_⟩
  · rw [heq _ (by decide) (by decide), h.firstName]
  · rw [heq _ (by decide) (by decide), h.lastName]
  · rw [heq _ (by decide) (by decide), h.userName]
  · rw [heq _ (by decide) (by decide), h.phoneNumber]
  · rw [heq _ (by decide) (by decide), h.accountType]

theorem Recorded.of_sameFields (h : vc.Recorded newUserData) (hsame : SameFields vc vc') :
    vc'.Recorded newUserData := by
  refine ⟨?_, ?_, ?_, ?_, ?_⟩
  · rw [hsame.firstName, h.firstName]
  · rw [hsame.lastName, h.lastName]
  · rw [hsame.username, h.userName]
  · rw [hsame.phoneNumber, h.phoneNumber]
  · rw [hsame.accountType, h.accountType]

theorem FilledIn.of_sameFields (h : vc.FilledIn) (hsame : SameFields vc vc') :
    vc'.FilledIn := by
  obtain ⟨hfirst, hlast, hphone, htype⟩ := h
  rw [← hsame.firstName] at hfirst
  rw [← hsame.lastName] at hlast
  rw [← hsame.phoneNumber] at hphone
  rw [← hsame.accountType] at htype
  exact ⟨hfirst, hlast, hphone, htype⟩

/-- A message is shown, and that is all, or the segue is performed. -/
theorem usernameAnswered_cases {result : Option Bool} {r : Reaction UserInfoViewController}
    (hr : vc.handle newUserData (.usernameAnswered result) = some r) :
    SameFields vc r.vc ∧ r.newUserData = newUserData ∧ r.calls = [] := by
  obtain rfl := Option.some.inj hr
  cases vc.verifyAnswered result with
  | none => exact ⟨⟨rfl, rfl, rfl, rfl, rfl⟩, rfl, rfl⟩
  | some errorMessage =>
    show SameFields vc (vc.continueCompletion newUserData errorMessage).vc ∧
      (vc.continueCompletion newUserData errorMessage).newUserData = newUserData ∧
      (vc.continueCompletion newUserData errorMessage).calls = []
    unfold continueCompletion
    split
    next => exact ⟨⟨rfl, rfl, rfl, rfl, rfl⟩, rfl, rfl⟩
    next => exact ⟨⟨rfl, rfl, rfl, rfl, rfl⟩, rfl, rfl⟩

/-- A text field always has a text. -/
theorem handle_username {e : Event} {r : Reaction UserInfoViewController}
    (hr : vc.handle newUserData e = some r) (h : vc.username ≠ none) : r.vc.username ≠ none := by
  cases e with
  | edit field text =>
    obtain rfl := Option.some.inj hr
    cases field with
    | username => exact Option.some_ne_none text
    | firstName | lastName | phoneNumber => exact h
  | selectAccountType =>
    obtain rfl := Option.some.inj hr
    exact h
  | didSelectRow row =>
    obtain ⟨p, hp, rfl⟩ := Option.map_eq_some_iff.mp hr
    obtain ⟨text, -, hp⟩ := Option.bind_eq_some_iff.mp hp
    obtain rfl := Option.some.inj hp
    exact h
  | continueAction =>
    obtain rfl := Option.some.inj hr
    unfold continueAction continueCompletion
    split
    next =>
      split
      next => exact h
      next => exact h
    next => exact h
  | usernameAnswered result =>
    rw [(usernameAnswered_cases hr).1.username]
    exact h

/-- What the segue has checked. -/
theorem filledIn_of_segue {e : Event} {r : Reaction UserInfoViewController}
    (hr : vc.handle newUserData e = some r) (hsegue : r.segue ≠ none) :
    vc.FilledIn ∧ r = { vc, newUserData, segue := some "signUpSegueOne" } := by
  obtain ⟨identifier, hsegue⟩ := Option.ne_none_iff_exists'.mp hsegue
  obtain ⟨result, -, hmessage, rfl⟩ := handle_segue hr hsegue
  obtain ⟨-, hfirst, hlast, hphone, htype⟩ := verifyAnswered_eq_empty hmessage
  exact ⟨⟨isMissing_eq_false hfirst, isMissing_eq_false hlast, isMissing_eq_false hphone,
    Option.ne_none_iff_exists'.mp htype⟩, rfl⟩

end UserInfoViewController

namespace SecurityViewController

/-- What a handler does: the password that was there stays a text, what is
written is the password, and the segue is for one that was typed twice. -/
theorem handle_cases (vc : SecurityViewController) (newUserData : Data) (e : Event) :
    (vc.password ≠ none → (vc.handle newUserData e).vc.password ≠ none) ∧
    (∀ k, k ≠ "password" → (vc.handle newUserData e).newUserData k = newUserData k) ∧
    ((vc.handle newUserData e).segue ≠ none →
      (vc.handle newUserData e).vc.confirmPassword = (vc.handle newUserData e).vc.password ∧
      (vc.handle newUserData e).newUserData "password" =
        (vc.handle newUserData e).vc.password.map .string) := by
  have hframe : ∀ k, k ≠ "password" → vc.updateAccountInfo newUserData k = newUserData k := by
    intro k hk
    simp [updateAccountInfo, hk]
  cases e with
  | editPassword text =>
    exact ⟨fun _ => Option.some_ne_none text, fun _ _ => rfl, fun h => absurd rfl h⟩
  | editConfirmPassword text => exact ⟨id, fun _ _ => rfl, fun h => absurd rfl h⟩
  | passwordDoneEditing | confirmPasswordDoneEditing =>
    simp only [handle, checkForConfirmation]
    split
    next => exact ⟨id, hframe, fun h => absurd rfl h⟩
    next => exact ⟨id, fun _ _ => rfl, fun h => absurd rfl h⟩
  | continueAction =>
    simp only [handle, checkForConfirmation]
    split
    next heq =>
      refine ⟨id, hframe, fun _ => ⟨heq.symm, ?_⟩⟩
      simp [updateAccountInfo]
    next => exact ⟨id, fun _ _ => rfl, fun h => absurd rfl h⟩

end SecurityViewController

/-! ## Steps -/

namespace Screen

/-- From the third screen on, only the school is written. -/
theorem handle_newUserData_late {screen : Screen} {newUserData : Data} {e : ScreenEvent}
    {r : Reaction Screen} (hr : screen.handle lower newUserData e = some r)
    (hfirst : screen.scene ≠ .userInfo) (hsecond : screen.scene ≠ .security) :
    ∀ k, k ≠ "school" → r.newUserData k = newUserData k := by
  intro k hk
  cases handled_of_handle hr with
  | userInfo _ => exact absurd rfl hfirst
  | security _ _ => exact absurd rfl hsecond
  | @schoolSelector vc e r h =>
    show r.newUserData k = newUserData k
    cases SchoolSelectorViewController.handles_of_handle h with
    | select school _ _ => simp [SchoolSelectorViewController.writeSchool, hk]
    | keep _ _ => rfl
    | rewrite skewl crsList =>
      simp [SchoolSelectorViewController.courseListArrived,
        SchoolSelectorViewController.writeSchool, hk]
  | chooseClasses _ | addClass _ => rfl

/-- Along the storyboard, only the first screen's `prepare` writes. -/
theorem prepare_eq_of_ne {source : Screen} {identifier : String} {scene : Scene}
    (hscene : storyboard source.scene identifier = some scene)
    (hfirst : source.scene ≠ .userInfo) (newUserData : Data) :
    source.prepare identifier newUserData = newUserData := by
  cases source with
  | userInfo _ => exact absurd rfl hfirst
  | chooseClasses vc =>
    refine if_neg ?_
    intro hid
    subst hid
    cases hscene
  | security _ | schoolSelector _ | addClass _ | finalSetup => rfl

end Screen

namespace Flow

/-- What a step does to the record and to the two screens that it is about. -/
inductive RecordStep (flow flow' : Flow) : Prop
  | kept (hscreens : flow'.screens = flow.screens)
      (hdata : flow'.newUserData = flow.newUserData)
  /-- The first screen is filled in, with nothing over it. -/
  | typed {vc vc' : UserInfoViewController} (hlen : flow.screens.length = 1)
      (hlen' : flow'.screens.length = 1)
      (hvc : flow.screens[0]? = some (.userInfo vc))
      (hvc' : flow'.screens[0]? = some (.userInfo vc')) (hopen : vc.TypeOpen → vc'.TypeOpen)
      (hname : vc.username ≠ none → vc'.username ≠ none)
  /-- It is left. -/
  | verified {vc : UserInfoViewController} (hlen : flow.screens.length = 1)
      (hlen' : flow'.screens.length = 2)
      (hvc : flow.screens[0]? = some (.userInfo vc))
      (hvc' : flow'.screens[0]? = some (.userInfo vc)) (hfilled : vc.FilledIn)
      (hdata : flow'.newUserData = vc.updateAccountInfo flow.newUserData)
      (hsecond : flow'.screens[1]? = some (.security (SecurityViewController.viewDidLoad {})))
  /-- A username is answered late, and the segue may be performed again. -/
  | answered {vc vc' : UserInfoViewController} (hlen : flow.screens.length ≠ 1)
      (hlen' : flow'.screens.length = flow.screens.length)
      (hvc : flow.screens[0]? = some (.userInfo vc))
      (hvc' : flow'.screens[0]? = some (.userInfo vc'))
      (hsame : UserInfoViewController.SameFields vc vc')
      (hdata : flow'.newUserData = flow.newUserData ∨
        flow'.newUserData = vc'.updateAccountInfo flow.newUserData)
      (hsecond : flow'.screens[1]? = flow.screens[1]?)
  /-- The second screen is filled in, or left. -/
  | secured {vc vc' : SecurityViewController} (hlen : flow.screens.length = 2)
      (hfirst : flow'.screens[0]? = flow.screens[0]?) (hlen' : 2 ≤ flow'.screens.length)
      (hvc : flow.screens[1]? = some (.security vc))
      (hvc' : flow'.screens[1]? = some (.security vc'))
      (htext : vc.password ≠ none → vc'.password ≠ none)
      (hleft : flow'.screens.length ≠ 2 → vc'.confirmPassword = vc'.password ∧
        flow'.newUserData "password" = vc'.password.map .string)
      (hdata : ∀ k, k ≠ "password" → flow'.newUserData k = flow.newUserData k)
  /-- Some other screen handles an event. -/
  | later (hlen : 3 ≤ flow.screens.length) (hlen' : 3 ≤ flow'.screens.length)
      (hfirst : flow'.screens[0]? = flow.screens[0]?)
      (hsecond : flow'.screens[1]? = flow.screens[1]?)
      (hdata : ∀ k, k ≠ "school" → flow'.newUserData k = flow.newUserData k)

/-- Nothing but an answer for a username reaches the first screen when another
one is shown. -/
theorem Dispatches.username_of_first {flow flow₀ : Flow} {e : Event} {i : Nat}
    {ue : UserInfoViewController.Event} (hd : Dispatches flow e flow₀ i (.userInfo ue))
    (hi : i = 0) (hlen : flow.screens.length ≠ 0) (hlen' : flow.screens.length ≠ 1) :
    ∃ result, ue = .usernameAnswered result := by
  cases hd with
  | input _ => omega
  | callback _ hc =>
    cases hc with
    | username username _ _ r => exact ⟨_, rfl⟩

/-- The first screen handles an event. -/
theorem Outcome.recordStep_first {flow flow' : Flow} {i : Nat} {vc : UserInfoViewController}
    {ue : UserInfoViewController.Event} {r : Reaction UserInfoViewController}
    (hi : flow.screens[i]? = some (.userInfo vc)) (hzero : i = 0)
    (hr : vc.handle flow.newUserData ue = some r) (hout : Outcome flow i (r.map .userInfo) flow')
    (hlate : flow.screens.length ≠ 1 → ∃ result, ue = .usernameAnswered result) :
    RecordStep flow flow' := by
  subst hzero
  have hself : flow'.screens[0]? = some (.userInfo r.vc) := hout.getElem?_self hi
  have hdata := hout.newUserData_cases
  by_cases hlen : flow.screens.length = 1
  · rcases hout.length_cases with ⟨hlen', -⟩ | ⟨hlen', hsegue, -⟩
    · exact .typed hlen (hlen'.trans hlen) hi hself
        (fun hopen => UserInfoViewController.handle_typeOpen hopen hr)
        (UserInfoViewController.handle_username hr)
    · obtain ⟨hfilled, rfl⟩ := UserInfoViewController.filledIn_of_segue hr hsegue
      cases hout with
      | stay hnone => exact absurd hnone hsegue
      | drop _ _ htop => exact absurd hlen.symm htop
      | @push identifier scene hid hscene _ =>
        obtain rfl : "signUpSegueOne" = identifier := Option.some.inj hid
        obtain rfl : Scene.security = scene := Option.some.inj hscene
        refine .verified hlen (by rw [hlen', hlen]) hi hself hfilled rfl ?_
        show (flow.screens.set 0 _ ++ [_])[1]? = _
        rw [List.getElem?_append_right (by simp [hlen])]
        simp [hlen]
        rfl
  · obtain ⟨result, rfl⟩ := hlate hlen
    obtain ⟨hsame, hkeep, -⟩ := UserInfoViewController.usernameAnswered_cases hr
    have hlt := (List.getElem?_eq_some_iff.mp hi).1
    obtain ⟨second, hsecond⟩ : ∃ second, flow.screens[1]? = some second :=
      ⟨_, List.getElem?_eq_getElem (by omega)⟩
    refine .answered hlen ?_ hi hself hsame ?_ ?_
    · rcases hout.length_cases with ⟨hlen', -⟩ | ⟨-, -, htop⟩
      · exact hlen'
      · exact absurd htop.symm hlen
    · rcases hdata with ⟨-, heq⟩ | ⟨identifier, scene, -, hscene, heq⟩
      · exact Or.inl (heq.trans hkeep)
      · -- the segue is performed once more
        right
        rw [heq]
        cases segue_of_storyboard hscene with
        | one =>
          show r.vc.updateAccountInfo r.newUserData = _
          rw [hkeep]
    · rw [hout.getElem?_ne hsecond (by decide), hsecond]

/-- The second screen handles an event. -/
theorem Outcome.recordStep_second {flow flow' : Flow} {i : Nat} {vc : SecurityViewController}
    {e : SecurityViewController.Event} (hi : flow.screens[i]? = some (.security vc))
    (hone : i = 1) (hlen : flow.screens.length = 2)
    (hout : Outcome flow i ((vc.handle flow.newUserData e).map .security) flow') :
    RecordStep flow flow' := by
  subst hone
  obtain ⟨htext, hframe, hsegue⟩ :=
    SecurityViewController.handle_cases vc flow.newUserData e
  have hself : flow'.screens[1]? = some (.security (vc.handle flow.newUserData e).vc) :=
    hout.getElem?_self hi
  have hdata : flow'.newUserData = (vc.handle flow.newUserData e).newUserData := by
    rcases hout.newUserData_cases with ⟨-, heq⟩ | ⟨identifier, scene, -, hscene, heq⟩
    · exact heq
    · rw [heq]
      exact Screen.prepare_eq_of_ne hscene (fun h => by cases h) _
  obtain ⟨first, hfirst⟩ : ∃ first, flow.screens[0]? = some first :=
    ⟨_, List.getElem?_eq_getElem (by omega)⟩
  refine .secured hlen ?_ ?_ hi hself htext ?_ ?_
  · rw [hout.getElem?_ne hfirst (by decide), hfirst]
  · rw [← hlen]
    exact hout.length_le
  · intro hleft
    rw [hdata]
    rcases hout.length_cases with ⟨hsame, -⟩ | ⟨-, hsome, -⟩
    · exact absurd (hsame.trans hlen) hleft
    · exact hsegue hsome
  · intro k hk
    rw [hdata, hframe k hk]

/-- Any other screen handles an event. -/
theorem Outcome.recordStep_later {flow flow' : Flow} {i : Nat} {screen : Screen} {e : ScreenEvent}
    {r : Reaction Screen} (hi : flow.screens[i]? = some screen) (htwo : 2 ≤ i)
    (hr : screen.handle lower flow.newUserData e = some r)
    (hfirst : screen.scene ≠ .userInfo) (hsecond : screen.scene ≠ .security)
    (hout : Outcome flow i r flow') : RecordStep flow flow' := by
  have hlt := (List.getElem?_eq_some_iff.mp hi).1
  have hbelow : ∀ j, j < 2 → flow'.screens[j]? = flow.screens[j]? := by
    intro j hj
    rw [hout.getElem?_of_lt (by omega), List.getElem?_set_ne (by omega)]
  refine .later (by omega) (le_trans (by omega) hout.length_le) (hbelow 0 (by decide))
    (hbelow 1 (by decide)) ?_
  intro k hk
  rw [← Screen.handle_newUserData_late hr hfirst hsecond k hk]
  rcases hout.newUserData_cases with ⟨-, heq⟩ | ⟨identifier, scene, -, hscene, heq⟩
  · rw [heq]
  · rw [heq, Screen.prepare_eq_of_ne hscene]
    rw [Screen.handle_scene hr]
    exact hfirst

theorem RecordStep.of_settle {flow flow' : Flow} {k : Nat} (h : RecordStep (flow.settle k) flow') :
    RecordStep flow flow' := by
  cases h with
  | kept hscreens hdata => exact .kept hscreens hdata
  | typed hlen hlen' hvc hvc' hopen hname => exact .typed hlen hlen' hvc hvc' hopen hname
  | verified hlen hlen' hvc hvc' hfilled hdata hsecond =>
    exact .verified hlen hlen' hvc hvc' hfilled hdata hsecond
  | answered hlen hlen' hvc hvc' hsame hdata hsecond =>
    exact .answered hlen hlen' hvc hvc' hsame hdata hsecond
  | secured hlen hfirst hlen' hvc hvc' htext hleft hdata =>
    exact .secured hlen hfirst hlen' hvc hvc' htext hleft hdata
  | later hlen hlen' hfirst hsecond hdata => exact .later hlen hlen' hfirst hsecond hdata

/-- **Inversion**, as far as the record goes. -/
theorem recordStep_of_step {flow flow' : Flow} {e : Event} (h : (signUp lower).Reachable flow)
    (hs : flow.step lower e = some flow') : RecordStep flow flow' := by
  have hrank := (loadInv_of_reachable h).rank
  cases steps_of_step hs with
  | silent _ _ => exact .kept rfl rfl
  | @deliver _ flow₀ _ i se hd hdel =>
    have hscreens := hd.screens_eq
    have hstep : RecordStep flow₀ flow' := by
      obtain ⟨screen, r, hi, hr, hout⟩ := hdel
      have hplace := hrank i screen (hscreens ▸ hi)
      have hlt := (List.getElem?_eq_some_iff.mp hi).1
      cases Screen.handled_of_handle hr with
      | userInfo hhandle =>
        refine hout.recordStep_first hi hplace hhandle ?_
        intro hlen
        rw [hscreens] at hlt hlen
        exact hd.username_of_first hplace (by omega) hlen
      | security vc e =>
        refine hout.recordStep_second hi hplace ?_
        have hplace : i = 1 := hplace
        cases hd with
        | input _ => omega
        | callback _ hc => cases hc
      | schoolSelector _ =>
        have hplace : i = 2 := hplace
        exact hout.recordStep_later hi (by omega) hr (by intro h; cases h) (by intro h; cases h)
      | chooseClasses _ | addClass _ =>
        have hplace : 3 ≤ i := hplace
        exact hout.recordStep_later hi (by omega) hr (by intro h; cases h) (by intro h; cases h)
    cases hd with
    | input _ => exact hstep
    | callback _ _ => exact hstep.of_settle

/-! ## Runs -/

/-- The record and the two screens: once a screen is left, it was filled in and
the record has what it shows. -/
structure Registered (flow : Flow) : Prop where
  first : ∃ vc, flow.screens[0]? = some (.userInfo vc) ∧ vc.TypeOpen ∧ vc.username ≠ none ∧
    (flow.screens.length ≠ 1 → vc.FilledIn ∧ vc.Recorded flow.newUserData)
  second : flow.screens.length ≠ 1 → ∃ vc, flow.screens[1]? = some (.security vc) ∧
    vc.password ≠ none ∧ (flow.screens.length ≠ 2 → vc.confirmPassword = vc.password ∧
      flow.newUserData "password" = vc.password.map .string)

/-- **Step lemma.** -/
theorem RecordStep.registered {flow flow' : Flow} (h : RecordStep flow flow')
    (hinv : Registered flow) : Registered flow' := by
  obtain ⟨vc₀, hvc₀, hopen₀, hname₀, hfirst₀⟩ := hinv.first
  cases h with
  | kept hscreens hdata =>
    refine ⟨?_, ?_⟩
    · rw [hscreens, hdata]
      exact hinv.first
    · rw [hscreens, hdata]
      exact hinv.second
  | @typed vc vc' _ hlen' hvc hvc' hopen hname =>
    rw [hvc₀] at hvc
    obtain rfl := Screen.userInfo.inj (Option.some.inj hvc)
    exact ⟨⟨vc', hvc', hopen hopen₀, hname hname₀, fun hne => absurd hlen' hne⟩,
      fun hne => absurd hlen' hne⟩
  | @verified vc _ hlen' hvc hvc' hfilled hdata hsecond =>
    rw [hvc₀] at hvc
    obtain rfl := Screen.userInfo.inj (Option.some.inj hvc)
    refine ⟨⟨vc₀, hvc', hopen₀, hname₀, fun _ => ⟨hfilled, ?_⟩⟩, ?_⟩
    · rw [hdata]
      exact vc₀.recorded_updateAccountInfo flow.newUserData
    · intro _
      exact ⟨_, hsecond, Option.some_ne_none "", fun hne => absurd hlen' hne⟩
  | @answered vc vc' hlen hlen' hvc hvc' hsame hdata hsecond =>
    rw [hvc₀] at hvc
    obtain rfl := Screen.userInfo.inj (Option.some.inj hvc)
    obtain ⟨hfilled, hrecorded⟩ := hfirst₀ hlen
    -- what is written again is there already
    have heq : flow'.newUserData = flow.newUserData := by
      rcases hdata with heq | heq
      · exact heq
      · rw [heq, (hrecorded.of_sameFields hsame).updateAccountInfo_eq]
    refine ⟨⟨vc', hvc', ?_, ?_, fun _ => ⟨hfilled.of_sameFields hsame, ?_⟩⟩, ?_⟩
    · intro t ht
      rw [hsame.accountType] at ht
      exact hopen₀ t ht
    · rw [hsame.username]
      exact hname₀
    · rw [heq]
      exact hrecorded.of_sameFields hsame
    · rw [hlen', hsecond, heq]
      exact hinv.second
  | @secured vc vc' hlen hfirst hlen' hvc hvc' htext hleft hdata =>
    obtain ⟨hfilled, hrecorded⟩ := hfirst₀ (by omega)
    refine ⟨⟨vc₀, hfirst.trans hvc₀, hopen₀, hname₀, fun _ => ⟨hfilled, ?_⟩⟩, ?_⟩
    · exact hrecorded.of_eq fun k hk _ => hdata k hk
    · intro _
      obtain ⟨vc₁, hvc₁, hpassword, -⟩ := hinv.second (by omega)
      rw [hvc₁] at hvc
      obtain rfl := Screen.security.inj (Option.some.inj hvc)
      exact ⟨vc', hvc', htext hpassword, hleft⟩
  | later hlen hlen' hfirst hsecond hdata =>
    obtain ⟨hfilled, hrecorded⟩ := hfirst₀ (by omega)
    refine ⟨⟨vc₀, hfirst.trans hvc₀, hopen₀, hname₀, fun _ => ⟨hfilled, ?_⟩⟩, ?_⟩
    · exact hrecorded.of_eq fun k _ hk => hdata k hk
    · intro _
      obtain ⟨vc₁, hvc₁, hpassword, hconfirmed⟩ := hinv.second (by omega)
      obtain ⟨hconfirm, hrecord⟩ := hconfirmed (by omega)
      refine ⟨vc₁, hsecond.trans hvc₁, hpassword, fun _ => ⟨hconfirm, ?_⟩⟩
      rw [hdata _ (by decide)]
      exact hrecord

/-- **Run lemma.** -/
theorem registered_of_reachable {flow : Flow} (h : (signUp lower).Reachable flow) :
    Registered flow := by
  induction h with
  | init hinit =>
    obtain rfl : _ = launch := hinit
    refine ⟨⟨_, rfl, ?_, Option.some_ne_none "", fun hne => absurd rfl hne⟩,
      fun hne => absurd rfl hne⟩
    intro t ht
    cases ht
  | step hreach _ hs ih => exact (recordStep_of_step hreach hs).registered ih

/-- Once the password is confirmed, a step writes nothing but the school. -/
theorem RecordStep.newUserData_eq {flow flow' : Flow} (h : RecordStep flow flow')
    (hinv : Registered flow) (hlen : 3 ≤ flow.screens.length) :
    3 ≤ flow'.screens.length ∧
    ∀ k, k ≠ "school" → flow'.newUserData k = flow.newUserData k := by
  cases h with
  | kept hscreens hdata =>
    rw [hscreens, hdata]
    exact ⟨hlen, fun _ _ => rfl⟩
  | typed hlen₁ _ _ _ _ _ => omega
  | verified hlen₁ _ _ _ _ _ _ => omega
  | answered hlen₁ hlen' hvc _ hsame hdata _ =>
    obtain ⟨vc₀, hvc₀, -, -, hfirst₀⟩ := hinv.first
    rw [hvc₀] at hvc
    obtain rfl := Screen.userInfo.inj (Option.some.inj hvc)
    obtain ⟨-, hrecorded⟩ := hfirst₀ hlen₁
    refine ⟨hlen'.symm ▸ hlen, ?_⟩
    intro k _
    rcases hdata with heq | heq
    · rw [heq]
    · rw [heq, (hrecorded.of_sameFields hsame).updateAccountInfo_eq]
  | secured hlen₂ _ _ _ _ _ _ _ => omega
  | later _ hlen' _ _ hdata => exact ⟨hlen', hdata⟩

/-- The record has an account: names, a phone number, an open type and a
password. -/
structure HasAccount (newUserData : Data) : Prop where
  firstName : ∃ t, newUserData "firstName" = some (.string t) ∧ t ≠ ""
  lastName : ∃ t, newUserData "lastName" = some (.string t) ∧ t ≠ ""
  userName : ∃ t, newUserData "userName" = some (.string t)
  phoneNumber : ∃ t, newUserData "phoneNumber" = some (.string t) ∧ t ≠ ""
  accountType : ∃ t, newUserData "accountType" = some (.boxed (.accountType t)) ∧
    UserInfoViewController.Open t
  password : ∃ t, newUserData "password" = some (.string t)

theorem Registered.hasAccount {flow : Flow} (h : Registered flow)
    (hlen : 3 ≤ flow.screens.length) : HasAccount flow.newUserData := by
  obtain ⟨vc, -, hopen, hname, hfirst⟩ := h.first
  obtain ⟨hfilled, hrecorded⟩ := hfirst (by omega)
  obtain ⟨vc₁, -, hpassword, hconfirmed⟩ := h.second (by omega)
  refine ⟨?_, ?_, ?_, ?_, ?_, ?_⟩
  · obtain ⟨t, ht, hne⟩ := hfilled.firstName
    exact ⟨t, by rw [hrecorded.firstName, ht]; rfl, hne⟩
  · obtain ⟨t, ht, hne⟩ := hfilled.lastName
    exact ⟨t, by rw [hrecorded.lastName, ht]; rfl, hne⟩
  · obtain ⟨t, ht⟩ := Option.ne_none_iff_exists'.mp hname
    exact ⟨t, by rw [hrecorded.userName, ht]; rfl⟩
  · obtain ⟨t, ht, hne⟩ := hfilled.phoneNumber
    exact ⟨t, by rw [hrecorded.phoneNumber, ht]; rfl, hne⟩
  · obtain ⟨t, ht⟩ := hfilled.accountType
    exact ⟨t, by rw [hrecorded.accountType, ht]; rfl, hopen t ht⟩
  · obtain ⟨t, ht⟩ := Option.ne_none_iff_exists'.mp hpassword
    exact ⟨t, by rw [(hconfirmed (by omega)).2, ht]; rfl⟩

/-- **The record is settled.** From the school selector on, the record has a
whole account, with the password as it was typed in both fields, and whatever
the user does and whichever answers come late, nothing in it but the school
ever changes again. -/
theorem record_settled {flow : Flow} (h : (signUp lower).Reachable flow)
    (hlen : 3 ≤ flow.screens.length) :
    HasAccount flow.newUserData ∧
    (∃ vc, flow.screens[1]? = some (.security vc) ∧ vc.confirmPassword = vc.password ∧
      flow.newUserData "password" = vc.password.map .string) ∧
    ∀ es flow', (signUp lower).run flow es = some flow' →
      ∀ k, k ≠ "school" → flow'.newUserData k = flow.newUserData k := by
  have hinv := registered_of_reachable h
  refine ⟨hinv.hasAccount hlen, ?_, ?_⟩
  · obtain ⟨vc, hvc, -, hconfirmed⟩ := hinv.second (by omega)
    exact ⟨vc, hvc, hconfirmed (by omega)⟩
  · intro es flow' hrun
    refine (Machine.run_invariant (P := fun flow₁ => (signUp lower).Reachable flow₁ ∧
      3 ≤ flow₁.screens.length ∧ ∀ k, k ≠ "school" → flow₁.newUserData k = flow.newUserData k)
      ?_ es ⟨h, hlen, fun _ _ => rfl⟩ hrun).2.2
    intro flow₁ e flow₂ hflow₁ hs
    obtain ⟨hreach, hlen₁, hframe⟩ := hflow₁
    obtain ⟨hlen₂, hdata⟩ := (recordStep_of_step hreach hs).newUserData_eq
      (registered_of_reachable hreach) hlen₁
    refine ⟨hreach.step trivial hs, hlen₂, ?_⟩
    intro k hk
    rw [hdata k hk, hframe k hk]

/-- After registration, and after the school list has come. -/
theorem record_settled_registered :
    HasAccount (after register).newUserData ∧
    ∃ flow', (signUp String.toLower).run (after register) [.documents 0 [morristownDocument]] =
        some flow' ∧
      flow'.newUserData "userName" = some (.string "ada") := by
  obtain ⟨haccount, -, hframe⟩ := record_settled (after_reachable register) (by decide)
  obtain ⟨flow', hrun⟩ : ∃ flow', (signUp String.toLower).run (after register)
      [.documents 0 [morristownDocument]] = some flow' := ⟨_, rfl⟩
  refine ⟨haccount, flow', hrun, ?_⟩
  rw [hframe _ flow' hrun "userName" (by decide)]
  rfl

end Flow

end Scholarli
