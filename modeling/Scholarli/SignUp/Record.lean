import Scholarli.SignUp.Flow

/-!
# What reaches the registration record

Two laws about `newUserData`.

**The schedule.** Its one assignment is guarded by the identifier
`signUpSegueThree`, which in the storyboard belongs to the segue *into* the
class chooser; the segue out of it to the last screen is `signUpSegueFour`.
So the key stays absent along every run (`schedule_absent`), and the record
agrees with the chooser exactly when the chooser has no schedule
(`final_schedule_iff`).

**The username.** The check is made for the text at the tap, the record is
written from the text at the answer. `recordVerified` is the ghost list of
the usernames that were asked for and answered with true. All other fields
pass the gate in every run; the username does exactly when the field holds,
at the answer, the text that was asked for or one verified before
(`signUpSegueOne_gated_iff`).
-/

namespace Scholarli

open Base (Machine Value Dict)

variable {lower : String → String}

/-! ## The schedule -/

/-- `newUserData["schedule"] as? Schedule`. -/
def scheduleOf (newUserData : Data) : Option Schedule :=
  newUserData.cast "schedule" (Value.boxed? Boxed.schedule?)

namespace Flow

theorem Delivers.schedule_eq {flow flow' : Flow} {i : Nat} {e : ScreenEvent}
    (h : Delivers lower flow i e flow') :
    flow'.newUserData "schedule" = flow.newUserData "schedule" := by
  obtain ⟨screen, r, -, hr, hout⟩ := h
  rcases hout.newUserData_cases with ⟨-, hd⟩ | ⟨identifier, scene, -, hscene, hd⟩
  · rw [hd]
    exact Screen.handle_schedule hr
  · rw [hd, Screen.prepare_schedule hscene]
    exact Screen.handle_schedule hr

/-- **Step lemma.** No step writes the schedule. -/
theorem Steps.schedule_eq {flow flow' : Flow} {e : Event} (h : Steps lower flow e flow') :
    flow'.newUserData "schedule" = flow.newUserData "schedule" := by
  cases h with
  | silent _ _ => rfl
  | deliver hd h =>
    rw [h.schedule_eq]
    cases hd <;> rfl

/-- **Run lemma.** The record never has a schedule. -/
theorem schedule_absent {flow : Flow} (h : (signUp lower).Reachable flow) :
    flow.newUserData "schedule" = none := by
  refine h.invariant (P := fun flow => flow.newUserData "schedule" = none) ?_ ?_
  · intro flow hinit
    obtain rfl : flow = launch := hinit
    rfl
  · intro flow e flow' hnone _ hs
    rw [(steps_of_step hs).schedule_eq]
    exact hnone

/-- The last screen is only presented by a class chooser that is on screen. -/
theorem Delivers.final_cases {flow flow' : Flow} {i : Nat} {e : ScreenEvent}
    (h : Delivers lower flow i e flow') (hbefore : .finalSetup ∉ flow.screens)
    (hafter : .finalSetup ∈ flow'.screens) :
    i + 1 = flow.screens.length ∧ ∃ cc, flow.screens[i]? = some (.chooseClasses cc) := by
  obtain ⟨screen, r, hi, hr, hout⟩ := h
  obtain ⟨j, hj⟩ := List.mem_iff_getElem?.mp hafter
  have hsource := Screen.handle_scene hr
  rcases hout.screen_cases hj with ⟨-, hold⟩ | ⟨-, hvc⟩ |
    ⟨hj, hlen, identifier, scene, -, hscene, hdest⟩
  · exact absurd (List.mem_of_getElem? hold) hbefore
  · -- a handler does not change the kind of its screen
    rw [← hvc] at hsource
    cases screen with
    | finalSetup => exact absurd (List.mem_of_getElem? hi) hbefore
    | userInfo vc | security vc | schoolSelector vc | chooseClasses vc | addClass vc =>
      exact nomatch hsource
  · have hfinal : scene = .finalSetup := by
      rw [← Screen.destination_scene r.vc identifier scene, ← hdest]
      rfl
    rw [hsource, hfinal] at hscene
    refine ⟨by omega, ?_⟩
    cases screen with
    | chooseClasses cc => exact ⟨cc, hi⟩
    | userInfo vc | security vc | schoolSelector vc | addClass vc | finalSetup =>
      exact nomatch segue_of_storyboard hscene

/-- **The schedule in the record, exactly.** When the last screen is reached,
the record holds the schedule of the chooser that the user leaves if and only
if the chooser has none. -/
theorem final_schedule_iff {flow flow' : Flow} {e : Event}
    (h : (signUp lower).Reachable flow) (hs : (signUp lower).step flow e = some flow')
    (hbefore : .finalSetup ∉ flow.screens) (hafter : .finalSetup ∈ flow'.screens) :
    ∃ cc, flow.screens.getLast? = some (.chooseClasses cc) ∧
      (scheduleOf flow'.newUserData = cc.currentUserSchedule ↔
        cc.currentUserSchedule = none) := by
  have habsent := schedule_absent (h.step trivial hs)
  -- the key is absent, so both sides are about the chooser alone
  have hnone : scheduleOf flow'.newUserData = none := by
    simp [scheduleOf, Dict.cast, habsent]
  have hleft : ∃ cc, flow.screens.getLast? = some (.chooseClasses cc) := by
    cases steps_of_step hs with
    | silent _ _ => exact absurd hafter hbefore
    | @deliver _ flow₀ _ i _ hd h =>
      have hscreens := hd.screens_eq
      rw [← hscreens] at hbefore
      obtain ⟨hlen, cc, hcc⟩ := h.final_cases hbefore hafter
      refine ⟨cc, ?_⟩
      rw [List.getLast?_eq_getElem?, ← hscreens, ← hlen]
      exact hcc
  obtain ⟨cc, hcc⟩ := hleft
  refine ⟨cc, hcc, ?_⟩
  rw [hnone]
  exact eq_comm

/-- The chooser with its (empty) schedule in place. -/
def chooserLoaded : Flow := after (toChooser ++ [.documents 1 []])

theorem final_not_mem_chooserLoaded : .finalSetup ∉ chooserLoaded.screens := by
  intro hmem
  exact absurd (List.mem_map_of_mem (f := Screen.scene) hmem) (by decide)

/-- Going on from there, the law says that the record does not agree. -/
theorem final_schedule_iff_empty_load :
    ∃ flow', (signUp String.toLower).step chooserLoaded (.input (.chooseClasses .tapToContinue)) =
        some flow' ∧
      ∃ cc, chooserLoaded.screens.getLast? = some (.chooseClasses cc) ∧
        (scheduleOf flow'.newUserData = cc.currentUserSchedule ↔
          cc.currentUserSchedule = none) := by
  have hs : (signUp String.toLower).step chooserLoaded
      (.input (.chooseClasses .tapToContinue)) = some _ := rfl
  exact ⟨_, hs, final_schedule_iff (after_reachable _) hs final_not_mem_chooserLoaded
    (List.mem_of_getElem? (i := 4) rfl)⟩

/-- The user leaves a schedule behind that the record does not get. -/
theorem final_schedule_lost :
    ¬∀ flow flow' e cc, (signUp String.toLower).Reachable flow →
      (signUp String.toLower).step flow e = some flow' →
      .finalSetup ∉ flow.screens → .finalSetup ∈ flow'.screens →
      flow.screens.getLast? = some (.chooseClasses cc) →
      scheduleOf flow'.newUserData = cc.currentUserSchedule := by
  intro h
  have hs : (signUp String.toLower).step chooserLoaded
      (.input (.chooseClasses .tapToContinue)) = some _ := rfl
  have hlost := h _ _ _ _ (after_reachable _) hs final_not_mem_chooserLoaded
    (List.mem_of_getElem? (i := 4) rfl) rfl
  exact nomatch hlost

end Flow

/-! ## The username -/

/-- The usernames that were asked for and answered with true, along a run. -/
def recordVerified (flow : Flow) (e : Event) (verified : List String) : List String :=
  match e with
  | .answer k (.usernames r) =>
    match flow.requests[k]? with
    | some ⟨.verifyUsername username, _, _⟩ =>
      if verifyUsername username r = some true then username :: verified else verified
    | _ => verified
  | _ => verified

/-- The flow with that list beside it. -/
def verifying (lower : String → String) : Machine (Flow × List String) Event :=
  (signUp lower).recording [] recordVerified

/-- The record passes the gate: the account's fields are filled in, its type
is an open one, and its username was verified. -/
structure Gated (newUserData : Data) (verified : List String) : Prop where
  firstName : ∃ t, newUserData "firstName" = some (.string t) ∧ t ≠ ""
  lastName : ∃ t, newUserData "lastName" = some (.string t) ∧ t ≠ ""
  phoneNumber : ∃ t, newUserData "phoneNumber" = some (.string t) ∧ t ≠ ""
  accountType : ∃ t, newUserData "accountType" = some (.boxed (.accountType t)) ∧
    UserInfoViewController.Open t
  userName : ∃ t, newUserData "userName" = some (.string t) ∧ t ≠ "" ∧ t ∈ verified

/-- The invariant: only open types are selected, and the empty username is
never asked for. -/
structure AccountInv (flow : Flow) (verified : List String) : Prop where
  typeOpen : ∀ vc, .userInfo vc ∈ flow.screens → vc.TypeOpen
  asked : ∀ request ∈ flow.requests, ∀ username,
    request.call = .verifyUsername username → username ≠ ""
  answered : ∀ username ∈ verified, username ≠ ""

namespace Screen

/-- The first screen keeps to the open types. -/
theorem handle_typeOpen {screen : Screen} {newUserData : Data} {e : ScreenEvent}
    {r : Reaction Screen} (hr : screen.handle lower newUserData e = some r)
    (h : ∀ vc, screen = .userInfo vc → vc.TypeOpen) {vc : UserInfoViewController}
    (hvc : .userInfo vc = r.vc) : vc.TypeOpen := by
  cases handled_of_handle hr with
  | @userInfo vc₀ e r h₀ =>
    obtain rfl := Screen.userInfo.inj hvc
    exact UserInfoViewController.handle_typeOpen (h vc₀ rfl) h₀
  | security vc e => exact nomatch hvc
  | schoolSelector h => exact nomatch hvc
  | chooseClasses h => exact nomatch hvc
  | addClass h => exact nomatch hvc

/-- The segue from the first screen is performed by an answer without a
message, which does nothing else. -/
theorem handle_signUpSegueOne {screen : Screen} {newUserData : Data} {e : ScreenEvent}
    {r : Reaction Screen} (hr : screen.handle lower newUserData e = some r)
    (hsegue : r.segue = some "signUpSegueOne") :
    ∃ vc result, screen = .userInfo vc ∧ e = .userInfo (.usernameAnswered result) ∧
      vc.verifyAnswered result = some "" ∧ r.vc = .userInfo vc ∧ r.newUserData = newUserData := by
  obtain ⟨dest, hfrom⟩ := handle_segue hr hsegue
  have hfirst := hfrom.source_eq_userInfo rfl
  cases handled_of_handle hr with
  | @userInfo vc e r h =>
    obtain ⟨result, rfl, hmsg, rfl⟩ := UserInfoViewController.handle_segue h hsegue
    exact ⟨vc, result, rfl, rfl, hmsg, rfl, rfl⟩
  | security _ _ | schoolSelector _ | chooseClasses _ | addClass _ => exact nomatch hfirst

end Screen

namespace Flow

theorem Delivers.accountInv {flow flow' : Flow} {i : Nat} {e : ScreenEvent}
    {verified : List String} (hinv : AccountInv flow verified)
    (h : Delivers lower flow i e flow') : AccountInv flow' verified := by
  refine ⟨?_, ?_, hinv.answered⟩
  · intro vc hvc
    refine h.forall_screens (P := fun s => ∀ vc, s = .userInfo vc → vc.TypeOpen) ?_ ?_ ?_
      _ hvc vc rfl
    · intro s hs vc hvc
      subst hvc
      exact hinv.typeOpen vc hs
    · intro screen hscreen r hr vc hnew
      refine Screen.handle_typeOpen hr ?_ hnew.symm
      intro vc₀ hvc₀
      subst hvc₀
      exact hinv.typeOpen vc₀ hscreen
    · -- no segue leads back to the first screen
      intro source identifier scene _ hsegue vc hdest
      have hfirst : scene = .userInfo := by
        rw [← Screen.destination_scene source identifier scene, hdest]
        rfl
      rw [hfirst] at hsegue
      generalize source.scene = presenter at hsegue
      exact nomatch hsegue
  · obtain ⟨screen, r, hi, hr, hout⟩ := h
    intro request hmem username hcall
    rcases hout.request_cases hmem with hold | ⟨call, hnew, rfl⟩ |
      ⟨identifier, scene, -, -, -, ⟨call, hnew, rfl⟩ | ⟨call, hnew, rfl⟩⟩
    · exact hinv.asked request hold username hcall
    · have hcall : call = .verifyUsername username := hcall
      subst hcall
      rcases Screen.handle_calls hr hnew with ⟨-, asked, heq, hne⟩ | ⟨-, school, heq⟩ |
        ⟨-, school, heq, -⟩
      · rw [Call.verifyUsername.inj heq]
        exact hne
      · cases heq
      · cases heq
    · -- no presentation asks for a username
      have hcall : call = .verifyUsername username := hcall
      subst hcall
      rcases Screen.mem_prepareCalls hnew with ⟨vc, school, -, -, heq⟩ | ⟨vc, school, -, -, heq⟩
      · cases heq
      · cases heq
    · have hcall : call = .verifyUsername username := hcall
      subst hcall
      cases (Screen.mem_loadCalls hnew).2

/-- Forgetting a query keeps the invariant. -/
theorem accountInv_settle {flow : Flow} {verified : List String}
    (hinv : AccountInv flow verified) (k : Nat) : AccountInv (flow.settle k) verified :=
  ⟨hinv.typeOpen, fun request hmem => hinv.asked request (List.mem_of_mem_eraseIdx hmem),
    hinv.answered⟩

/-- **Step lemma** for the flow. -/
theorem Steps.accountInv {flow flow' : Flow} {e : Event} {verified : List String}
    (hinv : AccountInv flow verified) (h : Steps lower flow e flow') :
    AccountInv flow' verified := by
  refine h.invariant (P := fun flow => AccountInv flow verified) hinv
    (accountInv_settle hinv) ?_
  intro flow₀ i se _ hinv₀ hdel
  exact hdel.accountInv hinv₀

/-- What is recorded was asked for. -/
theorem recordVerified_ne_empty {flow : Flow} {e : Event} {verified : List String}
    (hinv : AccountInv flow verified) :
    ∀ username ∈ recordVerified flow e verified, username ≠ "" := by
  unfold recordVerified
  split
  next k r =>
    split
    next username caller dest hk =>
      split
      next =>
        intro u hu
        rcases List.mem_cons.mp hu with rfl | hu
        · exact hinv.asked _ (List.mem_of_getElem? hk) u rfl
        · exact hinv.answered u hu
      next => exact hinv.answered
    next => exact hinv.answered
  next => exact hinv.answered

/-- **Run lemma.** -/
theorem accountInv_of_reachable {p : Flow × List String} (h : (verifying lower).Reachable p) :
    AccountInv p.1 p.2 := by
  refine h.invariant (P := fun p => AccountInv p.1 p.2) ?_ ?_
  · intro p hinit
    obtain ⟨flow, verified⟩ := p
    obtain ⟨hlaunch, hstart⟩ := hinit
    obtain rfl : flow = .launch := hlaunch
    obtain rfl : verified = [] := hstart
    refine ⟨?_, ?_, ?_⟩
    · intro vc hvc
      obtain rfl := Screen.userInfo.inj (mem_launch_screens hvc)
      exact nofun
    · intro request hmem
      exact absurd hmem (not_mem_launch_requests request)
    · exact nofun
  · intro p e p' hinv _ hs
    obtain ⟨flow, verified⟩ := p
    obtain ⟨flow', hs', rfl⟩ := Option.map_eq_some_iff.mp hs
    have hinv' := (steps_of_step hs').accountInv hinv
    exact ⟨hinv'.typeOpen, hinv'.asked, recordVerified_ne_empty hinv⟩

end Flow

/-- What the record says after `updateAccountInfo` on a filled-in form: every
field passes, and the username does if it is a verified one. -/
theorem gated_updateAccountInfo_iff {vc : UserInfoViewController} {newUserData : Data}
    {result : Option Bool} {verified : List String} (hopen : vc.TypeOpen)
    (hmsg : vc.verifyAnswered result = some "") (hne : ∀ u ∈ verified, u ≠ "") :
    Gated (vc.updateAccountInfo newUserData) verified ↔
    ∃ t, vc.username = some t ∧ t ∈ verified := by
  obtain ⟨-, hfirst, hlast, hphone, htype⟩ :=
    UserInfoViewController.verifyAnswered_eq_empty hmsg
  constructor
  · intro h
    obtain ⟨t, ht, -, hmem⟩ := h.userName
    refine ⟨t, ?_, hmem⟩
    simpa [UserInfoViewController.updateAccountInfo] using ht
  · intro h
    obtain ⟨t, ht, hmem⟩ := h
    obtain ⟨first, hf, hf'⟩ := UserInfoViewController.isMissing_eq_false hfirst
    obtain ⟨last, hl, hl'⟩ := UserInfoViewController.isMissing_eq_false hlast
    obtain ⟨phone, hp, hp'⟩ := UserInfoViewController.isMissing_eq_false hphone
    obtain ⟨type, hty⟩ := Option.ne_none_iff_exists'.mp htype
    refine ⟨⟨first, ?_, hf'⟩, ⟨last, ?_, hl'⟩, ⟨phone, ?_, hp'⟩, ⟨type, ?_, hopen type hty⟩,
      ⟨t, ?_, hne t hmem, hmem⟩⟩
    · simp [UserInfoViewController.updateAccountInfo, hf]
    · simp [UserInfoViewController.updateAccountInfo, hl]
    · simp [UserInfoViewController.updateAccountInfo, hp]
    · simp [UserInfoViewController.updateAccountInfo, hty]
    · simp [UserInfoViewController.updateAccountInfo, ht]

namespace Flow

/-- **The username in the record, exactly.** Whenever the segue from the
first screen is performed, it is by an answer to a query for some username,
and the record passes the gate if and only if the username field then holds
that username or one that was verified before. -/
theorem signUpSegueOne_gated_iff {flow flow' : Flow} {verified verified' : List String}
    {e : Event} (h : (verifying lower).Reachable (flow, verified))
    (hs : (verifying lower).step (flow, verified) e = some (flow', verified'))
    (hsegue : flow.segue lower e = some "signUpSegueOne") :
    ∃ k r asked caller dest vc, e = .answer k (.usernames r) ∧
      flow.requests[k]? = some ⟨.verifyUsername asked, caller, dest⟩ ∧
      flow.screens[caller]? = some (.userInfo vc) ∧
      (Gated flow'.newUserData verified' ↔
        vc.username = some asked ∨ ∃ t ∈ verified, vc.username = some t) := by
  have hinv := accountInv_of_reachable h
  obtain ⟨flow₁, hs', hp⟩ := Option.map_eq_some_iff.mp hs
  obtain ⟨rfl, rfl⟩ := Prod.mk.inj hp
  obtain ⟨flow₀, i, se, screen, r, hd, hi, hr, hone, hout⟩ := step_of_segue hs' hsegue
  obtain ⟨vc, result, rfl, rfl, hmsg, hvc, hdata⟩ := Screen.handle_signUpSegueOne hr hone
  -- the record is written from the fields as they are at the answer
  have hnew : flow₁.newUserData = vc.updateAccountInfo flow₀.newUserData := by
    rcases hout.newUserData_cases with ⟨hnone, -⟩ | ⟨identifier, scene, hsome, -, hnew⟩
    · rw [hone] at hnone
      exact nomatch hnone
    · rw [hone] at hsome
      obtain rfl := Option.some.inj hsome
      rw [hnew, hvc, hdata]
      rfl
  -- the event is no input, so it is the callback of a query for a username
  cases hd with
  | input hinput => exact nomatch hinput
  | @callback k response request _ _ hk hc =>
    cases hc with
    | username asked caller dest ur =>
      have htrue := (UserInfoViewController.verifyAnswered_eq_empty hmsg).1
      have hrecord : recordVerified flow (.answer k (.usernames ur)) verified =
          asked :: verified := by
        simp [recordVerified, hk, htrue]
      have hne := recordVerified_ne_empty (e := .answer k (.usernames ur)) hinv
      have hopen : vc.TypeOpen := hinv.typeOpen vc (List.mem_of_getElem? hi)
      refine ⟨k, ur, asked, _, dest, vc, rfl, hk, hi, ?_⟩
      rw [hnew, gated_updateAccountInfo_iff hopen hmsg hne]
      show (∃ t, vc.username = some t ∧ t ∈ recordVerified flow _ verified) ↔ _
      rw [hrecord]
      constructor
      · intro h
        obtain ⟨t, ht, hmem⟩ := h
        rcases List.mem_cons.mp hmem with rfl | hmem
        · exact Or.inl ht
        · exact Or.inr ⟨t, hmem, ht⟩
      · intro h
        rcases h with ht | ⟨t, hmem, ht⟩
        · exact ⟨asked, ht, List.mem_cons_self⟩
        · exact ⟨t, ht, List.mem_cons_of_mem _ hmem⟩

/-- The form is filled in for `alice`, and the query for that name is out. -/
def askedForAlice : List Event :=
  [ .input (.userInfo (.edit .firstName "Ada")),
    .input (.userInfo (.edit .lastName "Lovelace")),
    .input (.userInfo (.edit .username "alice")),
    .input (.userInfo (.edit .phoneNumber "5550100")),
    .input (.userInfo .selectAccountType),
    .input (.userInfo .continueAction) ]

/-- `bob` is taken, `alice` is not. -/
def bobTaken : Event := .answer 0 (.usernames (.values [.string "bob"]))

/-- The flow and its verified names after the given events. -/
def verifyingAfter (es : List Event) : Flow × List String :=
  (verifying String.toLower).after (.launch, []) es

theorem verifyingAfter_reachable (es : List Event) :
    (verifying String.toLower).Reachable (verifyingAfter es) := by
  have hinit : (verifying String.toLower).init (.launch, []) := ⟨rfl, rfl⟩
  exact Machine.after_reachable (.init hinit) es

/-- The answer comes while the field still says `alice`. -/
theorem signUpSegueOne_gated_iff_unedited :
    ∃ p', (verifying String.toLower).step (verifyingAfter askedForAlice) bobTaken = some p' ∧
      Gated p'.1.newUserData p'.2 := by
  have hs : (verifying String.toLower).step (verifyingAfter askedForAlice) bobTaken =
      some (_, _) := rfl
  obtain ⟨k, r, asked, caller, dest, vc, he, hk, hvc, hiff⟩ :=
    signUpSegueOne_gated_iff (verifyingAfter_reachable askedForAlice) hs rfl
  obtain ⟨rfl, -⟩ := Event.answer.inj he
  have hk : some (⟨.verifyUsername "alice", 0, 0⟩ : Request) =
      some ⟨.verifyUsername asked, caller, dest⟩ := hk
  cases hk
  obtain rfl := Screen.userInfo.inj (Option.some.inj hvc)
  exact ⟨_, hs, hiff.mpr (Or.inl rfl)⟩

/-- The field is edited to the taken name before the answer arrives. -/
theorem signUpSegueOne_not_gated :
    ¬∀ p p' e, (verifying String.toLower).Reachable p →
      (verifying String.toLower).step p e = some p' →
      p.1.segue String.toLower e = some "signUpSegueOne" → Gated p'.1.newUserData p'.2 := by
  intro h
  have hreach := verifyingAfter_reachable
    (askedForAlice ++ [.input (.userInfo (.edit .username "bob"))])
  obtain ⟨t, ht, -, hmem⟩ := (h _ _ bobTaken hreach rfl rfl).userName
  have ht : some (Value.string "bob") = some (Value.string t) := ht
  obtain rfl := Value.string.inj (Option.some.inj ht)
  exact absurd hmem (by decide)

end Flow

end Scholarli
