import Mathlib.Data.List.InsertIdx
import Scholarli.SignUp.Published
import Scholarli.SignUp.Registration

/-!
# Account data stays on the device

Names, phone number, account type and password are typed on the first two
screens and kept in `newUserData`. From the school selector on nothing reads
them: not the screens, not the queries, and not what is written to the
database. This is a statement about two runs. `Alike` relates flows that differ
in account data only, and its step lemma says that they take the same steps and
stay alike: a late answer for a username, the one event that still gets to the
first screen, may show a message in one flow and perform the segue in the other
one, but its destination is dropped and what is written is account data.
-/

namespace Scholarli

open Base (Machine World)

variable {lower : String → String}

/-- The query, but for the username in it. -/
def Call.blind : Call → Call
  | .verifyUsername _ => .verifyUsername ""
  | call => call

def Request.blind (request : Request) : Request :=
  { request with call := request.call.blind }

/-- Two queries that are the same but for usernames are both for one, or the
same. -/
theorem Request.blind_cases {request request' : Request} (h : request'.blind = request.blind) :
    (∃ username username' caller dest, request = ⟨.verifyUsername username, caller, dest⟩ ∧
      request' = ⟨.verifyUsername username', caller, dest⟩) ∨
    (request' = request ∧ ∀ username, request.call ≠ .verifyUsername username) := by
  obtain ⟨call, caller, dest⟩ := request
  obtain ⟨call', caller', dest'⟩ := request'
  obtain ⟨hcall, rfl, rfl⟩ := Request.mk.inj h
  have hcall : call'.blind = call.blind := hcall
  cases call with
  | verifyUsername username =>
    cases call' with
    | verifyUsername username' => exact Or.inl ⟨username, username', _, _, rfl, rfl⟩
    | getSchoolList | courseListForNewUser _ | courseListForChooseClasses _
      | courseListForReturn _ _ | getFaculty _ => cases hcall
  | getSchoolList | courseListForNewUser _ | courseListForChooseClasses _
    | courseListForReturn _ _ | getFaculty _ =>
    refine Or.inr ⟨?_, ?_⟩
    · cases call' with
      | verifyUsername username' => cases hcall
      | getSchoolList | courseListForNewUser _ | courseListForChooseClasses _
        | courseListForReturn _ _ | getFaculty _ =>
        exact congrArg (Request.mk · caller' dest') hcall
    · intro username hname
      cases hname

/-! ## Handlers -/

/-- The same, but for account data in the record. -/
structure Reaction.Same {σ : Type} (r r' : Reaction σ) : Prop where
  vc : r'.vc = r.vc
  calls : r'.calls = r.calls
  segue : r'.segue = r.segue
  school : schoolOf r'.newUserData = schoolOf r.newUserData

/-- The selector reads nothing of the record. -/
theorem SchoolSelectorViewController.handle_same {vc : SchoolSelectorViewController}
    {newUserData newUserData' : Data} (hschool : schoolOf newUserData' = schoolOf newUserData)
    {e : Event} {r : Reaction SchoolSelectorViewController}
    (hr : vc.handle newUserData e = some r) :
    ∃ r', vc.handle newUserData' e = some r' ∧ r.Same r' := by
  cases e with
  | schoolListArrived schoolList =>
    cases schoolList with
    | none =>
      obtain rfl := Option.some.inj hr
      exact ⟨_, rfl, rfl, rfl, rfl, hschool⟩
    | some list =>
      obtain ⟨first, hfirst, hr⟩ := Option.bind_eq_some_iff.mp hr
      obtain rfl := Option.some.inj hr
      refine ⟨_, Option.bind_eq_some_iff.mpr ⟨first, hfirst, rfl⟩, rfl, rfl, rfl, ?_⟩
      exact (schoolOf_writeSchool _ _).trans (schoolOf_writeSchool _ _).symm
  | didSelectRow row =>
    obtain ⟨hrow, hr⟩ := Option.ite_none_right_eq_some.mp hr
    unfold didSelectRow at hr
    split at hr
    next skewls hskewls =>
      obtain ⟨school, hpicked, hr⟩ := Option.bind_eq_some_iff.mp hr
      obtain rfl := Option.some.inj hr
      refine ⟨{ vc with currentSelection := some school }.updateNewUser newUserData', ?_, rfl, rfl,
        rfl, ?_⟩
      · simp [handle, didSelectRow, hskewls, hrow, hpicked]
      · exact (schoolOf_writeSchool _ _).trans (schoolOf_writeSchool _ _).symm
    next hnone =>
      obtain rfl := Option.some.inj hr
      refine ⟨{ vc, newUserData := newUserData' }, ?_, rfl, rfl, rfl, hschool⟩
      simp [handle, didSelectRow, hnone, hrow]
  | continueAction =>
    obtain rfl := Option.some.inj hr
    refine ⟨_, rfl, ?_⟩
    unfold continueAction
    cases vc.currentSelection with
    | none => exact ⟨rfl, rfl, rfl, hschool⟩
    | some school => exact ⟨rfl, rfl, rfl, hschool⟩
  | courseListArrived skewl crsList =>
    obtain rfl := Option.some.inj hr
    refine ⟨_, rfl, rfl, rfl, rfl, ?_⟩
    exact (schoolOf_writeSchool _ _).trans (schoolOf_writeSchool _ _).symm

theorem ChooseClassesViewController.calls_congr {newUserData newUserData' : Data}
    (hschool : schoolOf newUserData' = schoolOf newUserData) (e : Event) :
    calls newUserData' e = calls newUserData e := by
  cases e with
  | addClass => simp only [calls, hschool]
  | viewDidAppear | searchBarTextDidBeginEditing | searchBarTextDidChange _
    | searchBarCancelButtonClicked | searchBarTextDidEndEditing | didSelectRowAt _
    | tapToContinue | facultyArrived _ _ | schoolArrived _ _ | scheduleReturned _ _ _ _ => rfl

namespace Screen

/-- From the third screen on, a handler reads the school of the record and
nothing else. -/
theorem handle_same {screen : Screen} {newUserData newUserData' : Data}
    (hschool : schoolOf newUserData' = schoolOf newUserData) {e : ScreenEvent}
    {r : Reaction Screen} (hr : screen.handle lower newUserData e = some r)
    (hfirst : screen.scene ≠ .userInfo) (hsecond : screen.scene ≠ .security) :
    ∃ r', screen.handle lower newUserData' e = some r' ∧ r.Same r' := by
  cases handled_of_handle hr with
  | userInfo _ => exact absurd rfl hfirst
  | security _ _ => exact absurd rfl hsecond
  | @schoolSelector vc e r h =>
    obtain ⟨r', hr', hsame⟩ := SchoolSelectorViewController.handle_same hschool h
    refine ⟨r'.map .schoolSelector, ?_, ?_, hsame.calls, hsame.segue, hsame.school⟩
    · simp [handle, hr']
    · exact congrArg Screen.schoolSelector hsame.vc
  | @chooseClasses vc vc' e h =>
    refine ⟨{ vc := .chooseClasses vc', newUserData := newUserData',
              calls := ChooseClassesViewController.calls newUserData' e,
              segue := ChooseClassesViewController.segue e }, ?_, rfl, ?_, rfl, hschool⟩
    · simp [handle, ChooseClassesViewController.handle, h, Reaction.map]
    · exact ChooseClassesViewController.calls_congr hschool e
  | @addClass vc vc' e h =>
    refine ⟨{ vc := .addClass vc', newUserData := newUserData',
              segue := AddClassViewController.segue e }, ?_, rfl, rfl, rfl, hschool⟩
    simp [handle, AddClassViewController.handle, h, Reaction.map]

theorem prepareCalls_congr {newUserData newUserData' : Data}
    (hschool : schoolOf newUserData' = schoolOf newUserData) (source : Screen)
    (identifier : String) :
    source.prepareCalls identifier newUserData' = source.prepareCalls identifier newUserData := by
  cases source with
  | addClass vc => simp only [prepareCalls, AddClassViewController.prepare, hschool]
  | userInfo _ | security _ | schoolSelector _ | chooseClasses _ | finalSetup => rfl

end Screen

/-! ## Flows that are alike -/

namespace Flow

/-- Both flows are past the first two screens, and differ in account data only:
in those screens, in the record but for the school, and in the usernames that
are still asked for. -/
structure Alike (flow other : Flow) : Prop where
  school : schoolOf other.newUserData = schoolOf flow.newUserData
  requests : other.requests.map Request.blind = flow.requests.map Request.blind
  screens : ∃ first first' second second' rest, rest ≠ [] ∧
    flow.screens = .userInfo first :: .security second :: rest ∧
    other.screens = .userInfo first' :: .security second' :: rest

variable {flow flow' other other' flow₀ : Flow}

theorem Alike.symm (h : Alike flow other) : Alike other flow := by
  obtain ⟨first, first', second, second', rest, hrest, hscreens, hscreens'⟩ := h.screens
  exact ⟨h.school.symm, h.requests.symm, first', first, second', second, rest, hrest, hscreens',
    hscreens⟩

theorem Alike.trans (h : Alike flow other) (h' : Alike other flow') : Alike flow flow' := by
  obtain ⟨first, _, second, _, rest, hrest, hscreens, hmiddle⟩ := h.screens
  obtain ⟨_, first', _, second', rest', -, hmiddle', hscreens'⟩ := h'.screens
  rw [hmiddle] at hmiddle'
  obtain ⟨-, htail⟩ := List.cons.inj hmiddle'
  obtain ⟨-, rfl⟩ := List.cons.inj htail
  exact ⟨h'.school.trans h.school, h'.requests.trans h.requests, first, first', second, second',
    rest, hrest, hscreens, hscreens'⟩

theorem Alike.length (h : Alike flow other) : other.screens.length = flow.screens.length := by
  obtain ⟨_, _, _, _, rest, -, hscreens, hscreens'⟩ := h.screens
  rw [hscreens, hscreens']
  rfl

theorem Alike.three_le (h : Alike flow other) : 3 ≤ flow.screens.length := by
  obtain ⟨_, _, _, _, rest, hrest, hscreens, -⟩ := h.screens
  rw [hscreens]
  exact Nat.add_le_add_right (List.length_pos_iff.mpr hrest) 2

theorem Alike.getElem? (h : Alike flow other) {i : Nat} (hi : 2 ≤ i) :
    other.screens[i]? = flow.screens[i]? := by
  obtain ⟨_, _, _, _, rest, -, hscreens, hscreens'⟩ := h.screens
  obtain ⟨j, rfl⟩ := Nat.exists_eq_add_of_le' hi
  rw [hscreens, hscreens']
  rfl

theorem Alike.request (h : Alike flow other) {k : Nat} {request : Request}
    (hk : flow.requests[k]? = some request) :
    ∃ request', other.requests[k]? = some request' ∧ request'.blind = request.blind := by
  have hblind : (other.requests.map Request.blind)[k]? = some request.blind := by
    rw [h.requests, List.getElem?_map, hk]
    rfl
  rw [List.getElem?_map] at hblind
  exact Option.map_eq_some_iff.mp hblind

theorem Alike.settle (h : Alike flow other) (k : Nat) :
    Alike (flow.settle k) (other.settle k) := by
  refine ⟨h.school, ?_, h.screens⟩
  show (other.requests.eraseIdx k).map _ = (flow.requests.eraseIdx k).map _
  rw [← List.eraseIdx_map, ← List.eraseIdx_map, h.requests]

/-- The form whose schedule a callback reads is the same. -/
theorem Alike.scheduleToReturn (h : Alike flow other) (caller : Nat) :
    other.scheduleToReturn caller = flow.scheduleToReturn caller := by
  unfold Flow.scheduleToReturn
  rcases Nat.lt_or_ge caller 2 with hlt | hge
  · obtain ⟨_, _, _, _, rest, -, hscreens, hscreens'⟩ := h.screens
    rw [hscreens, hscreens']
    have hcaller : caller = 0 ∨ caller = 1 := by omega
    rcases hcaller with rfl | rfl <;> rfl
  · rw [h.getElem? hge]

/-- The first two screens of a reachable flow are the ones that account data is
typed on. -/
theorem screens_of_reachable (h : (signUp lower).Reachable flow)
    (hlen : 3 ≤ flow.screens.length) :
    ∃ first second, flow.screens = .userInfo first :: .security second :: flow.screens.drop 2 := by
  have hinv := registered_of_reachable h
  obtain ⟨first, hfirst, -⟩ := hinv.first
  obtain ⟨second, hsecond, -⟩ := hinv.second (by omega)
  refine ⟨first, second, ?_⟩
  cases hscreens : flow.screens with
  | nil =>
    rw [hscreens] at hfirst
    cases hfirst
  | cons s screens =>
    rw [hscreens] at hfirst hsecond
    obtain rfl : s = .userInfo first := Option.some.inj hfirst
    cases screens with
    | nil => cases hsecond
    | cons s rest =>
      obtain rfl : s = .security second := Option.some.inj hsecond
      rfl

theorem alike_of_reachable (h : (signUp lower).Reachable flow)
    (h' : (signUp lower).Reachable other) (hlen : 3 ≤ flow.screens.length)
    (hrest : other.screens.drop 2 = flow.screens.drop 2)
    (hschool : schoolOf other.newUserData = schoolOf flow.newUserData)
    (hrequests : other.requests.map Request.blind = flow.requests.map Request.blind) :
    Alike flow other := by
  have hdrop : 0 < (flow.screens.drop 2).length := by
    rw [List.length_drop]
    omega
  have hlen' : 3 ≤ other.screens.length := by
    rw [← hrest, List.length_drop] at hdrop
    omega
  obtain ⟨first, second, hscreens⟩ := screens_of_reachable h hlen
  obtain ⟨first', second', hscreens'⟩ := screens_of_reachable h' hlen'
  rw [hrest] at hscreens'
  exact ⟨hschool, hrequests, first, first', second, second', flow.screens.drop 2,
    List.ne_nil_of_length_pos hdrop, hscreens, hscreens'⟩

/-- Two reactions that are the same have the same outcome. -/
theorem Outcome.alike {i : Nat} {r r' : Reaction Screen} (hout : Outcome flow i r flow')
    (hout' : Outcome other i r' other') (h : Alike flow other) (hi : 2 ≤ i)
    (hsame : r.Same r') : Alike flow' other' := by
  obtain ⟨first, first', second, second', rest, hrest, hscreens, hscreens'⟩ := h.screens
  obtain ⟨j, rfl⟩ := Nat.exists_eq_add_of_le' hi
  have hset : flow.screens.set (j + 2) r.vc =
      .userInfo first :: .security second :: rest.set j r.vc := by
    rw [hscreens]
    rfl
  have hset' : other.screens.set (j + 2) r'.vc =
      .userInfo first' :: .security second' :: rest.set j r.vc := by
    rw [hscreens', hsame.vc]
    rfl
  have hcommit : Alike (flow.commit (j + 2) r) (other.commit (j + 2) r') := by
    refine ⟨hsame.school, ?_, first, first', second, second', rest.set j r.vc, ?_, hset, hset'⟩
    · show (other.requests ++ _).map _ = (flow.requests ++ _).map _
      rw [List.map_append, List.map_append, h.requests, hsame.calls]
    · exact fun hnil => hrest ((List.set_eq_nil_iff _ _).mp hnil)
  cases hout with
  | stay hsegue =>
    cases hout' with
    | stay _ => exact hcommit
    | drop hsegue' _ _ | push hsegue' _ _ =>
      rw [hsame.segue, hsegue] at hsegue'
      cases hsegue'
  | @drop identifier scene hsegue _ htop =>
    cases hout' with
    | stay hsegue' =>
      rw [hsame.segue, hsegue] at hsegue'
      cases hsegue'
    | push _ _ htop' => exact absurd (htop'.trans h.length) htop
    | @drop identifier' scene' hsegue' _ _ =>
      refine ⟨?_, hcommit.requests, hcommit.screens⟩
      show schoolOf (r'.vc.prepare _ r'.newUserData) = schoolOf (r.vc.prepare _ r.newUserData)
      rw [Screen.prepare_schoolOf, Screen.prepare_schoolOf, hsame.school]
  | @push identifier scene hsegue hscene htop =>
    cases hout' with
    | stay hsegue' =>
      rw [hsame.segue, hsegue] at hsegue'
      cases hsegue'
    | drop _ _ htop' => exact absurd (htop.trans h.length.symm) htop'
    | @push identifier' scene' hsegue' hscene' _ =>
      rw [hsame.segue, hsegue] at hsegue'
      obtain rfl := Option.some.inj hsegue'
      rw [hsame.vc, hscene] at hscene'
      obtain rfl := Option.some.inj hscene'
      have hschool : schoolOf (r'.vc.prepare identifier r'.newUserData) =
          schoolOf (r.vc.prepare identifier r.newUserData) := by
        rw [Screen.prepare_schoolOf, Screen.prepare_schoolOf, hsame.school]
      refine ⟨hschool, ?_, first, first', second, second',
        rest.set j r.vc ++ [r.vc.destination identifier scene], ?_, ?_, ?_⟩
      · show ((other.requests ++ r'.calls.map _) ++ _ ++ _).map _ =
          ((flow.requests ++ r.calls.map _) ++ _ ++ _).map _
        rw [Screen.prepareCalls_congr hschool, hsame.vc, hsame.calls]
        simp only [List.map_append, h.requests]
      · exact List.append_ne_nil_of_right_ne_nil _ (List.cons_ne_nil _ _)
      · show flow.screens.set (j + 2) r.vc ++ _ = _
        rw [hset]
        rfl
      · show other.screens.set (j + 2) r'.vc ++ [r'.vc.destination _ _] = _
        rw [hset', hsame.vc]
        rfl

/-- An answer for a username that comes late leaves a flow that is alike. -/
theorem alike_of_username {first : UserInfoViewController} {second : SecurityViewController}
    {rest : List Screen} (hscreens : flow.screens = .userInfo first :: .security second :: rest)
    (hrest : rest ≠ []) {result : Option Bool} {r : Reaction UserInfoViewController}
    (hr : first.handle flow.newUserData (.usernameAnswered result) = some r)
    (hout : Outcome flow 0 (r.map .userInfo) flow') : Alike flow flow' := by
  obtain ⟨-, hdata, hcalls⟩ := UserInfoViewController.usernameAnswered_cases hr
  have hset : flow.screens.set 0 (.userInfo r.vc) =
      .userInfo r.vc :: .security second :: rest := by
    rw [hscreens]
    rfl
  have hcommit : Alike flow (flow.commit 0 (r.map .userInfo)) := by
    refine ⟨?_, ?_, first, r.vc, second, second, rest, hrest, hscreens, hset⟩
    · show schoolOf r.newUserData = _
      rw [hdata]
    · show (flow.requests ++ r.calls.map _).map _ = _
      rw [hcalls, List.map_nil, List.append_nil]
  cases hout with
  | stay _ => exact hcommit
  | drop _ _ _ =>
    refine ⟨?_, hcommit.requests, hcommit.screens⟩
    show schoolOf ((Screen.userInfo r.vc).prepare _ r.newUserData) = _
    rw [Screen.prepare_schoolOf, hdata]
  | push _ _ htop =>
    rw [hscreens] at htop
    exact absurd (Nat.succ.inj htop).symm (Nat.succ_ne_zero _)

/-- The first two places are those of the screens that account data is typed on. -/
theorem scene_ne_of_rank {scene : Scene} {i : Nat} (h : Rank scene i) (hi : 2 ≤ i) :
    scene ≠ .userInfo ∧ scene ≠ .security := by
  constructor
  · intro heq
    subst heq
    have hzero : i = 0 := h
    omega
  · intro heq
    subst heq
    have hone : i = 1 := h
    omega

/-- A delivery to the third screen or a later one. -/
theorem Alike.deliver {e : Event} {i : Nat} {se : ScreenEvent} {other₀ : Flow}
    (h : Alike flow₀ other₀) (hi : 2 ≤ i) (hrank : ∀ screen, flow₀.screens[i]? = some screen →
      Rank screen.scene i) (hdel : Delivers lower flow₀ i se flow')
    (hd : Dispatches other e other₀ i se) :
    ∃ other', other.step lower e = some other' ∧ Alike flow' other' := by
  obtain ⟨screen, r, hscreen, hr, hout⟩ := hdel
  obtain ⟨hfirst, hsecond⟩ := scene_ne_of_rank (hrank screen hscreen) hi
  obtain ⟨r', hr', hsame⟩ := Screen.handle_same h.school hr hfirst hsecond
  rw [← h.getElem? hi] at hscreen
  obtain ⟨other', hs, hout'⟩ := step_of_dispatches hd hscreen hr'
  exact ⟨other', hs, hout.alike hout' h hi hsame⟩

/-- The callbacks of all queries but those for a username run on the third
screen or a later one. -/
theorem Callback.two_le {request : Request} {response : Response} {i : Nat} {e : ScreenEvent}
    (hc : Callback flow request response i e)
    (hno : ∀ username, request.call ≠ .verifyUsername username) (htargeted : flow.Targeted)
    (hrank : ∀ j screen, flow.screens[j]? = some screen → Rank screen.scene j)
    (hmem : request ∈ flow.requests) : 2 ≤ i := by
  obtain ⟨screen, hscreen, hscene⟩ := htargeted request hmem
  have hplace := hrank _ screen hscreen
  rw [hscene, ← hc.target_eq] at hplace
  cases hcall : request.call with
  | verifyUsername username => exact absurd hcall (hno username)
  | getSchoolList | courseListForNewUser _ =>
    rw [hcall] at hplace
    exact Nat.le_of_eq hplace.symm
  | courseListForChooseClasses _ | courseListForReturn _ _ | getFaculty _ =>
    rw [hcall] at hplace
    have hthree : 3 ≤ i := hplace
    omega

/-- The same query is answered by the same callback. -/
theorem Alike.completion (h : Alike flow other) (request : Request) (response : Response) :
    other.completion request response = flow.completion request response := by
  obtain ⟨call, caller, dest⟩ := request
  cases call with
  | courseListForReturn identifier school =>
    cases response with
    | usernames _ => rfl
    | documents r =>
      unfold Flow.completion
      dsimp only
      rw [h.scheduleToReturn]
  | verifyUsername _ | getSchoolList | courseListForNewUser _ | courseListForChooseClasses _
    | getFaculty _ => cases response <;> rfl

/-- The same for an answer to a query for a username. -/
theorem Alike.username (h : Alike flow other) (hreach : (signUp lower).Reachable flow) {k : Nat}
    {username username' : String} {caller dest : Nat} {response : Response} {i : Nat}
    {se : ScreenEvent}
    (hc : Callback flow ⟨.verifyUsername username, caller, dest⟩ response i se)
    (hdel : Delivers lower (flow.settle k) i se flow')
    (hk' : other.requests[k]? = some ⟨.verifyUsername username', caller, dest⟩) :
    ∃ other', other.step lower (.answer k response) = some other' ∧ Alike flow' other' := by
  cases hc with
  | username _ _ _ answer =>
    obtain ⟨screen, r, hscreen, hr, hout⟩ := hdel
    have hscreen : flow.screens[caller]? = some screen := hscreen
    have hplace := (loadInv_of_reachable hreach).rank _ _ hscreen
    cases Screen.handled_of_handle hr with
    | @userInfo vc _ r hhandle =>
      obtain rfl : caller = 0 := hplace
      obtain ⟨first, first', second, second', rest, hrest, hscreens, hscreens'⟩ := h.screens
      rw [hscreens] at hscreen
      obtain rfl : first = vc := Screen.userInfo.inj (Option.some.inj hscreen)
      have hflow : Alike (flow.settle k) flow' :=
        alike_of_username hscreens hrest hhandle hout
      -- the first screen of the other flow gets an answer, too
      obtain ⟨r', hhandle'⟩ : ∃ r', first'.handle (other.settle k).newUserData
          (.usernameAnswered (verifyUsername username' answer)) = some r' := ⟨_, rfl⟩
      have hscreen' : (other.settle k).screens[0]? = some (.userInfo first') := by
        show other.screens[0]? = _
        rw [hscreens']
        rfl
      have hr' : (Screen.userInfo first').handle lower (other.settle k).newUserData
          (.userInfo (.usernameAnswered (verifyUsername username' answer))) =
          some (r'.map .userInfo) := by
        simp [Screen.handle, hhandle']
      obtain ⟨other', hs, hout'⟩ := step_of_dispatches
        (.callback hk' (.username username' 0 dest answer)) hscreen' hr'
      have hother : Alike (other.settle k) other' :=
        alike_of_username hscreens' hrest hhandle' hout'
      exact ⟨other', hs, hflow.symm.trans ((h.settle k).trans hother)⟩

/-- **Step lemma.** Flows that are alike take the same steps, and stay alike. -/
theorem Alike.step (h : Alike flow other) (hreach : (signUp lower).Reachable flow) {e : Event}
    (hs : flow.step lower e = some flow') :
    ∃ other', other.step lower e = some other' ∧ Alike flow' other' := by
  have hrank := (loadInv_of_reachable hreach).rank
  cases steps_of_step hs with
  | @silent k response request hk hc =>
    obtain ⟨request', hk', hblind⟩ := h.request hk
    rcases Request.blind_cases hblind with ⟨username, _, caller, dest, rfl, -⟩ | ⟨rfl, -⟩
    · cases response <;> cases hc
    · rw [← h.completion] at hc
      refine ⟨other.settle k, ?_, h.settle k⟩
      show (other.dispatch (.answer k response)).bind _ = _
      rw [dispatch_answer hk' hc]
      rfl
  | deliver hd hdel =>
    cases hd with
    | @input se hinput =>
      have hlength := h.three_le
      refine h.deliver (by omega) (fun screen hscreen => hrank _ screen hscreen) hdel ?_
      rw [← h.length]
      exact .input hinput
    | @callback k response request i se hk hc =>
      obtain ⟨request', hk', hblind⟩ := h.request hk
      rcases Request.blind_cases hblind with ⟨_, _, _, _, rfl, rfl⟩ | ⟨rfl, hno⟩
      · exact h.username hreach hc hdel hk'
      · have htwo := hc.two_le hno (targeted_of_reachable hreach) hrank (List.mem_of_getElem? hk)
        refine (h.settle k).deliver htwo (fun screen hscreen => hrank _ screen hscreen) hdel ?_
        refine .callback hk' (callback_of_completion ?_)
        rw [h.completion, hc.completion_eq]

/-- They write the same to the database, -/
theorem Alike.write? (h : Alike flow other) (e : Event) : other.write? e = flow.write? e := by
  have hlength := h.three_le
  unfold Flow.write?
  rw [h.length, h.getElem? (show 2 ≤ flow.screens.length - 1 by omega)]

/-- and rely on the same of it. -/
theorem Alike.firestore (h : Alike flow other) {store : Store} {e : Event}
    (hok : Firestore store flow e) : Firestore store other e := by
  refine ⟨?_, hok.fresh⟩
  intro k docs request' path he hk' hpath
  obtain ⟨request, hk, hblind⟩ := h.symm.request hk'
  rcases Request.blind_cases hblind with ⟨_, _, _, _, rfl, rfl⟩ | ⟨rfl, -⟩
  · cases hpath
  · exact hok.answers k docs request path he hk hpath

end Flow

/-! ## Clients -/

variable {ι : Type} [DecidableEq ι]

/-- The same database, and each client the same or alike. -/
structure AlikeWorlds (w other : World Store ι Flow) : Prop where
  store : other.store = w.store
  clients : ∀ i, other.clients i = w.clients i ∨ (w.clients i).Alike (other.clients i)

variable {w w' other : World Store ι Flow}

/-- **Step lemma.** -/
theorem AlikeWorlds.step (h : AlikeWorlds w other)
    (hreach : ∀ i, (signUp lower).Reachable (w.clients i)) {e : ι × Event}
    (hok : Machine.Admits Firestore w e) (hs : (cloud ι lower).step w e = some w') :
    Machine.Admits Firestore other e ∧
    ∃ other', (cloud ι lower).step other e = some other' ∧ AlikeWorlds w' other' := by
  obtain ⟨i, e⟩ := e
  obtain ⟨flow', hflow, hstore, hself, hothers⟩ := Machine.sharing_step_cases hs
  -- the client that takes the step
  obtain ⟨hadmits, hwrite, next, hnext, hlike⟩ : Firestore w.store (other.clients i) e ∧
      (other.clients i).write? e = (w.clients i).write? e ∧
      ∃ next, (other.clients i).step lower e = some next ∧
        (next = flow' ∨ flow'.Alike next) := by
    rcases h.clients i with heq | halike
    · rw [heq]
      exact ⟨hok, rfl, flow', hflow, Or.inl rfl⟩
    · obtain ⟨next, hnext, hlike⟩ := halike.step (hreach i) hflow
      exact ⟨halike.firestore hok, halike.write? e, next, hnext, Or.inr hlike⟩
  obtain ⟨other', hother, hclient⟩ : ∃ other', (cloud ι lower).step other (i, e) = some other' ∧
      other'.clients i = next := Machine.sharing_step_of_step hnext
  obtain ⟨_, -, hstore', -, hothers'⟩ := Machine.sharing_step_cases hother
  have hadmits : Machine.Admits Firestore other (i, e) := by
    show Firestore other.store (other.clients i) e
    rw [h.store]
    exact hadmits
  refine ⟨hadmits, other', hother, ?_, ?_⟩
  · rw [hstore', hstore, hwrite, h.store]
  · intro j
    by_cases hij : j = i
    · subst hij
      rw [hclient, hself]
      exact hlike
    · rw [hothers' j hij, hothers j hij]
      exact h.clients j

/-- **Account data stays on the device.** Take two states of all clients that
differ, for clients past the password screen, in account data only: in what is
typed on the first two screens, in the record but for the school, and in the
usernames that are still asked for. Then whatever happens from the one can
happen from the other, with the same answers of the database, and the database
and everything else that any client shows or asks is the same again. -/
theorem account_data_private (h : (cloud ι lower).Reaches (Machine.Admits Firestore) w)
    (halike : AlikeWorlds w other) {es : List (ι × Event)}
    (hes : (cloud ι lower).Runs (Machine.Admits Firestore) w es w') :
    ∃ other', (cloud ι lower).Runs (Machine.Admits Firestore) other es other' ∧
      AlikeWorlds w' other' := by
  induction hes generalizing other with
  | nil w => exact ⟨other, .nil other, halike⟩
  | @cons w w₁ w' e es hok hs _ ih =>
    have hreach : ∀ i, (signUp lower).Reachable (w.clients i) :=
      fun i => ((clients_backed h).2 i).reachable
    obtain ⟨hok', other₁, hs', halike₁⟩ := halike.step hreach hok hs
    obtain ⟨other', hes', halike'⟩ := ih (h.step hok hs) halike₁
    exact ⟨other', .cons hok' hs' hes', halike'⟩

/-- Another user registers, with a password. -/
def registerGrace : List Event :=
  [ .input (.userInfo (.edit .firstName "Grace")),
    .input (.userInfo (.edit .lastName "Hopper")),
    .input (.userInfo (.edit .username "grace")),
    .input (.userInfo (.edit .phoneNumber "5550199")),
    .input (.userInfo .selectAccountType),
    .input (.userInfo .continueAction),
    .answer 0 (.usernames (.values [])),
    .input (.security (.editPassword "secret")),
    .input (.security (.editConfirmPassword "secret")),
    .input (.security .continueAction) ]

/-- The one user has registered on the second client, or the other one has. -/
def registered : World Store Bool Flow :=
  (cloud Bool String.toLower).after twoClients (eventsOf false register)

def registeredGrace : World Store Bool Flow :=
  (cloud Bool String.toLower).after twoClients (eventsOf false registerGrace)

theorem registered_reaches :
    (cloud Bool String.toLower).Reaches (Machine.Admits Firestore) registered :=
  twoClients_reaches.after (admits_of_isPlain rfl)

theorem registeredGrace_reaches :
    (cloud Bool String.toLower).Reaches (Machine.Admits Firestore) registeredGrace :=
  twoClients_reaches.after (admits_of_isPlain rfl)

theorem registered_alike : AlikeWorlds registered registeredGrace := by
  have hstore : registered.store = morristownStore := rfl
  have hstore' : registeredGrace.store = morristownStore := rfl
  refine ⟨hstore'.trans hstore.symm, ?_⟩
  intro i
  cases i with
  | true =>
    have hclient : registered.clients true = .launch := rfl
    have hclient' : registeredGrace.clients true = .launch := rfl
    exact Or.inl (hclient'.trans hclient.symm)
  | false =>
    right
    have hrest : (registered.clients false).screens.drop 2 =
        [.schoolSelector (SchoolSelectorViewController.viewDidLoad {}).1] := rfl
    have hrest' : (registeredGrace.clients false).screens.drop 2 =
        [.schoolSelector (SchoolSelectorViewController.viewDidLoad {}).1] := rfl
    have hrequests : (registered.clients false).requests = [⟨.getSchoolList, 2, 2⟩] := rfl
    have hrequests' : (registeredGrace.clients false).requests = [⟨.getSchoolList, 2, 2⟩] := rfl
    have hschool : schoolOf (registered.clients false).newUserData = none := rfl
    have hschool' : schoolOf (registeredGrace.clients false).newUserData = none := rfl
    have hlength : (registered.clients false).screens.length = 3 := rfl
    exact Flow.alike_of_reachable ((clients_backed registered_reaches).2 false).reachable
      ((clients_backed registeredGrace_reaches).2 false).reachable hlength.ge
      (hrest'.trans hrest.symm) (hschool'.trans hschool.symm)
      (by rw [hrequests, hrequests'])

/-- The other user gets the list of schools and goes on in the same way. -/
theorem account_data_private_grace :
    ∃ other', (cloud Bool String.toLower).run registeredGrace
        [(false, .documents 0 [morristownDocument]),
          (false, .input (.schoolSelector .continueAction))] = some other' ∧
      other'.store = morristownStore ∧
      schoolOf (other'.clients false).newUserData = some morristown := by
  obtain ⟨w', hrun, hstore, hschool⟩ : ∃ w', (cloud Bool String.toLower).run registered
        [(false, .documents 0 [morristownDocument]),
          (false, .input (.schoolSelector .continueAction))] = some w' ∧
      w'.store = morristownStore ∧
      schoolOf (w'.clients false).newUserData = some morristown := ⟨_, rfl, rfl, rfl⟩
  obtain ⟨w₁, h₁, hrun⟩ := Option.bind_eq_some_iff.mp hrun
  obtain ⟨w₂, h₂, hrun⟩ := Option.bind_eq_some_iff.mp hrun
  obtain rfl := Option.some.inj hrun
  obtain ⟨other', hruns, halike⟩ := account_data_private registered_reaches registered_alike
    (.cons (admits_documents rfl (morristownDocument_selects rfl)) h₁
      (.cons (firestore_of_isPlain rfl _ _) h₂ (.nil w₂)))
  refine ⟨other', hruns.run_eq, halike.store.trans hstore, ?_⟩
  rcases halike.clients false with heq | hclient
  · rw [heq]
    exact hschool
  · exact hclient.school.trans hschool

end Scholarli
