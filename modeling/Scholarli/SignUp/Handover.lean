import Scholarli.SignUp.Loads

/-!
# Handing the schedule back from the class form

Both ways out of the class form present a new class chooser and hand the
schedule over inside the callback of a catalogue query. The form itself is
covered from then on and never changes again (`Steps.addClass_frozen`), so
what the callback reads is what the form held at the segue; but the callback
only runs if `getCourseList` calls its completion, and otherwise the new
chooser keeps the nil it was presented with.

`returned_schedule_iff` puts this together: for every run between the segue
and the answer, and for every answer.
-/

namespace Scholarli

open Base (Machine)

variable {lower : String → String}

/-- No callback runs on a class form. -/
theorem Flow.Callback.ne_addClass {flow : Flow} {request : Request} {response : Response}
    {i : Nat} {e : ScreenEvent} (h : Callback flow request response i e) :
    ∀ ae, e ≠ .addClass ae := by
  intro ae heq
  subst heq
  cases h

/-- A class form only handles its own events. -/
theorem Screen.handle_addClass {ac : AddClassViewController} {newUserData : Data}
    {e : ScreenEvent} {r : Reaction Screen}
    (hr : (Screen.addClass ac).handle lower newUserData e = some r) :
    ∃ ae ac', e = .addClass ae ∧ ac.step ae = some ac' ∧ r.vc = .addClass ac' ∧
      r.segue = AddClassViewController.segue ae := by
  cases handled_of_handle hr with
  | addClass h => exact ⟨_, _, rfl, h, rfl, rfl⟩

/-- A chooser that waits for a return has no schedule yet. -/
theorem LoadInv.chooser_of_return {flow : Flow} {request : Request} {identifier : String}
    {school : School} (hinv : LoadInv flow) (hmem : request ∈ flow.requests)
    (hcall : request.call = .courseListForReturn identifier school) :
    ∃ cc, flow.screens[request.dest]? = some (.chooseClasses cc) ∧
      cc.currentUserSchedule = none := by
  have hload : request.load? = some request.dest := by
    unfold Request.load?
    rw [hcall]
  obtain ⟨s, hdest, hunloaded⟩ := hinv.unloaded request hmem _ hload
  obtain ⟨hnext, ac, hac⟩ := hinv.returns request hmem identifier school hcall
  cases s with
  | chooseClasses cc => exact ⟨cc, hdest, hunloaded⟩
  | schoolSelector vc =>
    -- the selector's place is before that of any form
    have hselector : request.dest = 2 := hinv.rank _ _ hdest
    have hform : 3 ≤ request.caller := hinv.rank _ _ hac
    omega
  | userInfo vc | security vc | addClass vc | finalSetup => exact nomatch hunloaded

namespace Flow

/-- **Frame.** A class form that is covered stays as it is. -/
theorem Steps.addClass_frozen {flow flow' : Flow} {e : Event} {j : Nat}
    {ac : AddClassViewController} (h : Steps lower flow e flow')
    (hj : flow.screens[j]? = some (.addClass ac)) (hcovered : j + 1 < flow.screens.length) :
    flow'.screens[j]? = some (.addClass ac) ∧ j + 1 < flow'.screens.length := by
  cases h with
  | silent _ _ => exact ⟨hj, hcovered⟩
  | @deliver _ flow₀ _ i se hd h =>
    have hscreens : flow₀.screens = flow.screens := hd.screens_eq
    rw [← hscreens] at hj hcovered
    obtain ⟨screen, r, hi, hr, hout⟩ := h
    have hlen := hout.length_le
    refine ⟨hout.getElem?_ne hj ?_, by omega⟩
    intro heq
    subst heq
    rw [hj] at hi
    obtain rfl := Option.some.inj hi
    obtain ⟨ae, ac', rfl, -⟩ := Screen.handle_addClass hr
    -- the event would be input on the last screen
    cases hd with
    | input _ => omega
    | callback _ hc => exact hc.ne_addClass ae rfl

/-- The run between the segue and the answer leaves the form alone. -/
theorem run_addClass_frozen {flow flow' : Flow} {es : List Event} {j : Nat}
    {ac : AddClassViewController} (hrun : (signUp lower).run flow es = some flow')
    (hj : flow.screens[j]? = some (.addClass ac)) (hcovered : j + 1 < flow.screens.length) :
    flow'.screens[j]? = some (.addClass ac) := by
  have hframe := Machine.run_invariant (M := signUp lower)
    (P := fun flow => flow.screens[j]? = some (.addClass ac) ∧ j + 1 < flow.screens.length)
    (fun s e s' hP hs => (steps_of_step hs).addClass_frozen hP.1 hP.2) es ⟨hj, hcovered⟩ hrun
  exact hframe.1

/-- A return segue covers the form that performs it with a new screen. -/
theorem step_of_return {flow flow' : Flow} {e : Event} {identifier : String}
    (hs : flow.step lower e = some flow') (hsegue : flow.segue lower e = some identifier)
    (hid : identifier = "cancelAddClass" ∨ identifier = "returnToSignUpChooseClass") :
    ∃ i ac, i + 1 = flow.screens.length ∧ flow'.screens[i]? = some (.addClass ac) ∧
      flow'.screens.length = flow.screens.length + 1 := by
  obtain ⟨flow₀, i, se, screen, r, hd, hi, hr, hr', hout⟩ := step_of_segue hs hsegue
  obtain ⟨dest, hfrom⟩ := Screen.handle_segue hr hr'
  obtain ⟨ac, rfl⟩ := Screen.addClass_of_scene (hfrom.source_eq_addClass hid).1
  obtain ⟨ae, ac', rfl, -, hvc, -⟩ := Screen.handle_addClass hr
  have hilt : i < flow₀.screens.length := (List.getElem?_eq_some_iff.mp hi).1
  cases hd with
  | callback _ hc => exact absurd rfl (hc.ne_addClass ae)
  | input _ =>
    have htop : flow.screens.length - 1 + 1 = flow.screens.length := by omega
    refine ⟨_, ac', htop, by rw [hout.getElem?_self hi, hvc], ?_⟩
    rcases hout.length_cases with ⟨-, hnone | hbelow⟩ | ⟨hgrow, -⟩
    · rw [hr'] at hnone
      exact nomatch hnone
    · exact absurd htop hbelow
    · exact hgrow

/-- **Delivery of a return query**, in any state of a run: the new chooser,
which has no schedule before, runs the callback on what the form holds. -/
theorem deliver_return {flow flow' : Flow} {k : Nat} {r : DocumentsResponse}
    {crsList : List Course} {identifier : String} {school : School} {caller dest : Nat}
    (hinv : LoadInv flow)
    (hk : flow.requests[k]? = some ⟨.courseListForReturn identifier school, caller, dest⟩)
    (hr : getCourseList r = some crsList)
    (hs : flow.step lower (.answer k (.documents r)) = some flow') :
    ∃ cc, flow.screens[dest]? = some (.chooseClasses cc) ∧ cc.currentUserSchedule = none ∧
      flow'.screens[dest]? = some (.chooseClasses
        (cc.scheduleReturned identifier school crsList (flow.scheduleToReturn caller))) := by
  obtain ⟨cc, hcc, hnil⟩ := hinv.chooser_of_return (List.mem_of_getElem? hk) rfl
  refine ⟨cc, hcc, hnil, ?_⟩
  cases steps_of_step hs with
  | silent hk' hc =>
    rw [hk] at hk'
    obtain rfl := Option.some.inj hk'
    have hnone : getCourseList r = none := Option.map_eq_none_iff.mp (Option.some.inj hc)
    rw [hr] at hnone
    cases hnone
  | deliver hd h =>
    cases hd with
    | callback hk' hc =>
      rw [hk] at hk'
      obtain rfl := Option.some.inj hk'
      cases hc with
      | returned _ _ _ _ hr' =>
        rw [hr] at hr'
        obtain rfl := Option.some.inj hr'
        obtain ⟨screen, reaction, hi, hreact, hout⟩ := h
        have hi : flow.screens[dest]? = some screen := hi
        rw [hcc] at hi
        obtain rfl := Option.some.inj hi
        have hself := hout.getElem?_self hcc
        cases Screen.handled_of_handle hreact with
        | chooseClasses hstep =>
          obtain rfl := Option.some.inj hstep
          exact hself

/-- The new chooser gets the form's schedule exactly if the catalogue is
delivered. -/
theorem answer_return {flow flow' : Flow} {k : Nat} {r : DocumentsResponse}
    {identifier : String} {school : School} {caller dest : Nat} {ac : AddClassViewController}
    (hinv : LoadInv flow)
    (hk : flow.requests[k]? = some ⟨.courseListForReturn identifier school, caller, dest⟩)
    (hac : flow.screens[caller]? = some (.addClass ac))
    (hs : flow.step lower (.answer k (.documents r)) = some flow') :
    ∃ cc, flow'.screens[dest]? = some (.chooseClasses cc) ∧
      (getCourseList r = none → cc.currentUserSchedule = none) ∧
      (getCourseList r ≠ none → cc.currentUserSchedule = ac.scheduleToReturn) := by
  cases hr : getCourseList r with
  | none =>
    obtain ⟨cc, hcc, hnil⟩ := hinv.chooser_of_return (List.mem_of_getElem? hk) rfl
    -- the step only forgets the query
    have hsilent : flow.step lower (.answer k (.documents r)) = some (flow.settle k) := by
      simp [step, dispatch, hk, completion, hr]
    rw [hsilent] at hs
    obtain rfl := Option.some.inj hs
    exact ⟨cc, hcc, fun _ => hnil, fun hsome => absurd rfl hsome⟩
  | some crsList =>
    obtain ⟨cc, -, -, hcc⟩ := deliver_return hinv hk hr hs
    refine ⟨_, hcc, fun hnone => (Option.some_ne_none _ hnone).elim, fun _ => ?_⟩
    rw [ChooseClassesViewController.scheduleReturned_schedule]
    unfold scheduleToReturn
    rw [hac]

/-- **The schedule after a return, exactly.** A return segue is performed, any
steps follow, and then the query that the segue made for the new chooser is
answered: the chooser holds the schedule that the form held at the segue if
and only if the answer has documents that all decode, or that schedule is
nil. -/
theorem returned_schedule_iff {flow₀ flow₁ flow₂ flow₃ : Flow} {e : Event} {es : List Event}
    {k : Nat} {r : DocumentsResponse} {segue identifier : String} {school : School}
    {caller dest : Nat} (h : (signUp lower).Reachable flow₀)
    (hsegue : flow₀.segue lower e = some segue)
    (hreturn : segue = "cancelAddClass" ∨ segue = "returnToSignUpChooseClass")
    (hs : (signUp lower).step flow₀ e = some flow₁)
    (hrun : (signUp lower).run flow₁ es = some flow₂)
    (hk : flow₂.requests[k]? = some ⟨.courseListForReturn identifier school, caller, dest⟩)
    (hdest : dest = flow₀.screens.length)
    (hanswer : (signUp lower).step flow₂ (.answer k (.documents r)) = some flow₃) :
    ∃ ac cc, flow₁.screens[caller]? = some (.addClass ac) ∧
      flow₃.screens[dest]? = some (.chooseClasses cc) ∧
      (cc.currentUserSchedule = ac.scheduleToReturn ↔
        r.AllDecode ∨ ac.scheduleToReturn = none) := by
  rw [← getCourseList_ne_none_iff]
  obtain ⟨i, ac, hi, hac, hlen⟩ := step_of_return hs hsegue hreturn
  have hreach : (signUp lower).Reachable flow₂ :=
    Machine.run_reachable es (h.step trivial hs) hrun
  have hinv := loadInv_of_reachable hreach
  obtain ⟨hnext, -⟩ := hinv.returns _ (List.mem_of_getElem? hk) identifier school rfl
  obtain rfl : caller = i := by
    have hnext : caller + 1 = dest := hnext
    omega
  have hfrozen := run_addClass_frozen hrun hac (by omega)
  obtain ⟨cc, hcc, hsilent, hdelivered⟩ := answer_return hinv hk hfrozen hanswer
  refine ⟨ac, cc, hac, hcc, ?_⟩
  by_cases hr : getCourseList r = none
  · rw [hsilent hr]
    constructor
    · exact fun heq => Or.inr heq.symm
    · intro hcases
      rcases hcases with hsome | hnil
      · exact absurd hr hsome
      · exact hnil.symm
  · exact ⟨fun _ => Or.inl hr, fun _ => hdelivered hr⟩

/-- The chooser is loaded, and the class form presented with its schedule. -/
def toForm : List Event :=
  toChooser ++ ([.documents 1 [], .input (.chooseClasses .addClass), .documents 1 []] : List Event)

/-- The form is cancelled again; its query for the new chooser is out. -/
def formCancelled : Flow := after (toForm ++ ([.input (.addClass .cancel)] : List Event))

/-- The catalogue arrives, and the schedule with it. -/
theorem returned_schedule_iff_delivered :
    ∃ flow₃, (signUp String.toLower).step formCancelled (.documents 1 []) = some flow₃ ∧
      ∃ ac cc, formCancelled.screens[4]? = some (.addClass ac) ∧
        flow₃.screens[5]? = some (.chooseClasses cc) ∧
        cc.currentUserSchedule = ac.scheduleToReturn := by
  have hs : (signUp String.toLower).step (after toForm) (.input (.addClass .cancel)) =
      some formCancelled := rfl
  have hanswer : (signUp String.toLower).step formCancelled (.documents 1 []) = some _ := rfl
  have hk : formCancelled.requests[1]? =
      some ⟨.courseListForReturn "cancelAddClass" morristown, 4, 5⟩ := rfl
  have hrun : (signUp String.toLower).run formCancelled [] = some formCancelled := rfl
  obtain ⟨ac, cc, hac, hcc, hiff⟩ := returned_schedule_iff (after_reachable toForm) rfl
    (Or.inl rfl) hs hrun hk rfl hanswer
  have hdecode : (DocumentsResponse.documents []).AllDecode := by
    simp [DocumentsResponse.AllDecode]
  exact ⟨_, hanswer, ac, cc, hac, hcc, hiff.mpr (Or.inl hdecode)⟩

/-- The catalogue query fails, and the user's schedule is gone. -/
theorem returned_schedule_lost :
    ¬∀ flow₀ flow₁ flow₂ flow₃ e es k r segue identifier school caller dest ac cc,
      (signUp String.toLower).Reachable flow₀ →
      flow₀.segue String.toLower e = some segue →
      segue = "cancelAddClass" ∨ segue = "returnToSignUpChooseClass" →
      (signUp String.toLower).step flow₀ e = some flow₁ →
      (signUp String.toLower).run flow₁ es = some flow₂ →
      flow₂.requests[k]? = some ⟨.courseListForReturn identifier school, caller, dest⟩ →
      dest = flow₀.screens.length →
      (signUp String.toLower).step flow₂ (.answer k (.documents r)) = some flow₃ →
      flow₁.screens[caller]? = some (.addClass ac) →
      flow₃.screens[dest]? = some (.chooseClasses cc) →
      cc.currentUserSchedule = ac.scheduleToReturn := by
  intro h
  have hs : (signUp String.toLower).step (after toForm) (.input (.addClass .cancel)) =
      some formCancelled := rfl
  have hanswer : (signUp String.toLower).step formCancelled (.answer 1 (.documents .error)) =
      some _ := rfl
  have hk : formCancelled.requests[1]? =
      some ⟨.courseListForReturn "cancelAddClass" morristown, 4, 5⟩ := rfl
  have hlost := h _ _ _ _ _ [] 1 .error _ _ _ 4 5 _ _ (after_reachable toForm) rfl (Or.inl rfl)
    hs rfl hk rfl hanswer rfl rfl
  exact nomatch hlost

end Flow

end Scholarli
