import Scholarli.SignUp.Loads

/-!
# The last school picked wins — when the answers come in order

Every pick writes `newUserData["school"]` twice: at once, and again in the
callback of its course-list query, from the copy that the callback captured.
A callback that comes after a later pick therefore puts an earlier school
back.

* `InOrder` — the condition on a step: a callback of `updateNewUser` finds
  the school it captured still selected.
* `LastPickWins` — the record, the selector, the screens after it and the
  queries they have made all speak of one school, by id.
* `SchoolInv` — the invariant: besides, selections are only made while the
  selector is the last screen. `Delivers.schoolInv` is the step lemma and
  `schoolInv_of_reaches` the run lemma.
-/

namespace Scholarli

open Base (Machine Document)

variable {lower : String → String}

/-- The id of `newUserData["school"]`. -/
def schoolId (newUserData : Data) : Option String := (schoolOf newUserData).map (·.id)

/-- The school that a query of the later screens is about. -/
def Call.school? : Call → Option School
  | .courseListForChooseClasses school => some school
  | .courseListForReturn _ school => some school
  | .getFaculty school => some school
  | _ => none

/-- The school that one of the later screens holds. -/
def Screen.school? : Screen → Option School
  | .chooseClasses vc => vc.userSchool
  | .addClass vc => vc.school
  | _ => none

/-- The school that a callback brings. -/
def ScreenEvent.school? : ScreenEvent → Option School
  | .chooseClasses (.facultyArrived school _) => some school
  | .chooseClasses (.schoolArrived school _) => some school
  | .chooseClasses (.scheduleReturned _ school _ _) => some school
  | _ => none

/-- The record holds the school that is selected, and so does everything that
was read from the record or handed over by the selector. -/
structure LastPickWins (flow : Flow) : Prop where
  record : ∀ vc, .schoolSelector vc ∈ flow.screens →
    schoolId flow.newUserData = vc.currentSelection.map (·.id)
  screens : ∀ screen ∈ flow.screens, ∀ school, screen.school? = some school →
    schoolId flow.newUserData = some school.id
  queries : ∀ request ∈ flow.requests, ∀ school, request.call.school? = some school →
    schoolId flow.newUserData = some school.id

/-- The step condition: when the course list that `updateNewUser` asked for is
delivered, the school it was for is still selected. -/
def InOrder (flow : Flow) : Event → Prop
  | .answer k (.documents r) => ∀ skewl caller dest vc,
    flow.requests[k]? = some ⟨.courseListForNewUser skewl, caller, dest⟩ →
    getCourseList r ≠ none → flow.screens[caller]? = some (.schoolSelector vc) →
    vc.currentSelection.map (·.id) = some skewl.id
  | _ => True

/-! ## One handler -/

namespace Screen

/-- What a handler does to the school that its screen holds. -/
theorem handle_school? {screen : Screen} {newUserData : Data} {e : ScreenEvent}
    {r : Reaction Screen} (hr : screen.handle lower newUserData e = some r) :
    r.vc.school?.map (·.id) = screen.school?.map (·.id) ∨
    ∃ school, e.school? = some school ∧ r.vc.school?.map (·.id) = some school.id := by
  cases handled_of_handle hr with
  | userInfo _ | security _ _ | schoolSelector _ => exact Or.inl rfl
  | @addClass vc vc' e h =>
    left
    rcases AddClassViewController.step_cases h with ⟨newCrs, -, -, rfl⟩ | ⟨-, hsame, -⟩
    · rfl
    · exact hsame.schoolId
  | @chooseClasses vc vc' e h =>
    show vc'.userSchool.map (·.id) = vc.userSchool.map (·.id) ∨ _
    cases ChooseClassesViewController.schoolStep_of_step h with
    | staffed school _ heq | arrived school _ heq | returned _ school _ _ heq =>
      refine Or.inr ⟨school, rfl, ?_⟩
      show vc'.userSchool.map (·.id) = _
      rw [heq]
      rfl
    | kept heq => exact Or.inl (by rw [heq])

/-- The class chooser asks for the faculty of the recorded school. -/
theorem handle_call_school? {screen : Screen} {newUserData : Data} {e : ScreenEvent}
    {r : Reaction Screen} (hr : screen.handle lower newUserData e = some r) {call : Call}
    (hcall : call ∈ r.calls) {school : School} (hschool : call.school? = some school) :
    screen.scene = .chooseClasses ∧ schoolOf r.newUserData = some school := by
  rcases handle_calls hr hcall with ⟨-, username, rfl, -⟩ | ⟨-, picked, rfl⟩ |
    ⟨hscene, recorded, rfl, hrecorded⟩
  · cases hschool
  · cases hschool
  · obtain rfl := Option.some.inj hschool
    exact ⟨hscene, hrecorded⟩

/-- A presentation asks for the catalogue of the school that is selected, or
of the recorded one. -/
theorem prepareCalls_school? {source : Screen} {identifier : String} {newUserData : Data}
    {call : Call} (hcall : call ∈ source.prepareCalls identifier newUserData)
    {school : School} (hschool : call.school? = some school) :
    (∃ vc, source = .schoolSelector vc ∧ vc.currentSelection = some school) ∨
    schoolOf newUserData = some school := by
  rcases mem_prepareCalls hcall with ⟨vc, selected, hvc, hselected, rfl⟩ |
    ⟨vc, recorded, -, hrecorded, rfl⟩
  · obtain rfl := Option.some.inj hschool
    exact Or.inl ⟨vc, hvc, hselected⟩
  · obtain rfl := Option.some.inj hschool
    exact Or.inr hrecorded

/-- A new screen's school is that of the screen that presents it. -/
theorem destination_school? {source : Screen} {identifier : String} {scene : Scene}
    {school : School} (h : (source.destination identifier scene).school? = some school) :
    source.school? = some school := by
  cases scene with
  | addClass =>
    cases source with
    | chooseClasses vc =>
      have h : (vc.prepareAddClass identifier {}).school = some school := h
      unfold ChooseClassesViewController.prepareAddClass at h
      split at h
      next => exact h
      next => exact nomatch h
    | userInfo vc | security vc | schoolSelector vc | addClass vc | finalSetup => exact nomatch h
  | userInfo | security | schoolSelector | chooseClasses | finalSetup => exact nomatch h

/-- Only the class chooser and the class form hold a school. -/
theorem three_le_of_school? {screen : Screen} {j : Nat} {school : School}
    (h : screen.school? = some school) (hrank : Rank screen.scene j) : 3 ≤ j := by
  cases screen with
  | chooseClasses vc => exact hrank
  | addClass vc => exact hrank
  | userInfo vc | security vc | schoolSelector vc | finalSetup => exact nomatch h

theorem loadCalls_school? {scene : Scene} {call : Call} (h : call ∈ loadCalls scene) :
    call.school? = none := by
  rw [(mem_loadCalls h).2]
  rfl

end Screen

/-! ## Steps and runs -/

/-- The invariant. Besides the law itself: no school before the selector is
there, a selection once it is left, and no query about a school before. -/
structure SchoolInv (flow : Flow) : Prop where
  load : LoadInv flow
  wins : LastPickWins flow
  early : flow.screens.length ≤ 2 → schoolId flow.newUserData = none
  picked : ∀ vc, .schoolSelector vc ∈ flow.screens → 3 < flow.screens.length →
    vc.currentSelection ≠ none
  late : ∀ request ∈ flow.requests, ∀ school, request.call.school? = some school →
    3 < flow.screens.length

/-- What the invariant needs of a delivered event: selections happen on the
last screen, a second write is for the school that is selected, and the
school that a callback brings is the recorded one. -/
structure SchoolFits (flow : Flow) (i : Nat) (e : ScreenEvent) : Prop where
  select : ∀ vc, flow.screens[i]? = some (.schoolSelector vc) →
    (∃ list, e = .schoolSelector (.schoolListArrived list)) ∨
      (∃ row, e = .schoolSelector (.didSelectRow row)) → flow.screens.length ≤ 3
  rewrite : ∀ skewl crsList vc, e = .schoolSelector (.courseListArrived skewl crsList) →
    flow.screens[i]? = some (.schoolSelector vc) →
    vc.currentSelection.map (·.id) = some skewl.id
  brought : ∀ school, e.school? = some school → schoolId flow.newUserData = some school.id

theorem Screen.handle_schoolId_of_ne {screen : Screen} {newUserData : Data} {e : ScreenEvent}
    {r : Reaction Screen} (hr : screen.handle lower newUserData e = some r)
    (hne : screen.scene ≠ .schoolSelector) : schoolId r.newUserData = schoolId newUserData := by
  unfold schoolId
  rw [handle_schoolOf hr hne]

/-- Of a handler only a selection changes the recorded school, and it is
recorded then; the selection changes only so. -/
theorem Screen.handle_schoolId {flow : Flow} {i : Nat} {screen : Screen} {e : ScreenEvent}
    {r : Reaction Screen} (hinv : SchoolInv flow) (hfits : SchoolFits flow i e)
    (hi : flow.screens[i]? = some screen)
    (hr : screen.handle lower flow.newUserData e = some r) :
    (∀ vc, r.vc = .schoolSelector vc →
      schoolId r.newUserData = vc.currentSelection.map (·.id)) ∧
    (schoolId r.newUserData = schoolId flow.newUserData ∨ flow.screens.length ≤ 3) := by
  by_cases hscene : screen.scene = .schoolSelector
  · cases handled_of_handle hr with
    | userInfo _ | security _ _ | chooseClasses _ | addClass _ => exact nomatch hscene
    | @schoolSelector vc e r h =>
      have hrecord := hinv.wins.record vc (List.mem_of_getElem? hi)
      cases SchoolSelectorViewController.handles_of_handle h with
      | @select e vc' school hcurrent hevent =>
        -- the first write is of the selection itself
        have hid : schoolId (SchoolSelectorViewController.writeSchool flow.newUserData
            (some school)) = some school.id := by
          simp [schoolId]
        refine ⟨?_, Or.inr (hfits.select vc hi ?_)⟩
        · intro vc₁ hvc₁
          obtain rfl := Screen.schoolSelector.inj hvc₁
          rw [hcurrent]
          exact hid
        · refine hevent.imp ?_ ?_
          · intro h
            obtain ⟨list, rfl⟩ := h
            exact ⟨list, rfl⟩
          · intro h
            obtain ⟨row, rfl⟩ := h
            exact ⟨row, rfl⟩
      | @keep e vc' segue hcurrent hsegue =>
        refine ⟨?_, Or.inl rfl⟩
        intro vc₁ hvc₁
        obtain rfl := Screen.schoolSelector.inj hvc₁
        rw [hcurrent]
        exact hrecord
      | rewrite skewl crsList =>
        -- the second write is of the captured copy, which is still selected
        have hid : schoolId (SchoolSelectorViewController.courseListArrived flow.newUserData
            skewl crsList) = some skewl.id := by
          simp [schoolId, SchoolSelectorViewController.courseListArrived]
        have hselected := hfits.rewrite skewl crsList vc rfl hi
        refine ⟨?_, Or.inl ?_⟩
        · intro vc₁ hvc₁
          obtain rfl := Screen.schoolSelector.inj hvc₁
          rw [hselected]
          exact hid
        · rw [hrecord, hselected]
          exact hid
  · refine ⟨?_, Or.inl (handle_schoolId_of_ne hr hscene)⟩
    intro vc hvc
    have hkeep := handle_scene hr
    rw [hvc] at hkeep
    exact absurd hkeep.symm hscene

/-- A selection is never taken back, and the selector is only left with one. -/
theorem Screen.handle_picked {vc₀ vc : SchoolSelectorViewController} {newUserData : Data}
    {e : ScreenEvent} {r : Reaction Screen}
    (hr : (Screen.schoolSelector vc₀).handle lower newUserData e = some r)
    (hvc : r.vc = .schoolSelector vc) :
    (vc₀.currentSelection ≠ none → vc.currentSelection ≠ none) ∧
    (r.segue ≠ none → vc.currentSelection ≠ none) := by
  cases handled_of_handle hr with
  | @schoolSelector _ e r h =>
    obtain rfl := Screen.schoolSelector.inj hvc
    cases SchoolSelectorViewController.handles_of_handle h with
    | select school hcurrent _ =>
      rw [hcurrent]
      exact ⟨fun _ => by simp, fun _ => by simp⟩
    | keep hcurrent hsegue =>
      rw [hcurrent]
      refine ⟨id, fun hsome => ?_⟩
      rcases hsegue with hnone | ⟨-, hpicked⟩
      · exact absurd hnone hsome
      · exact hpicked
    | rewrite skewl crsList => exact ⟨id, fun hsome => absurd rfl hsome⟩

/-- Queries in a presentation come from the selector or from a later screen. -/
theorem Screen.two_le_of_prepareCalls {source : Screen} {identifier : String}
    {newUserData : Data} {call : Call} {i : Nat}
    (h : call ∈ source.prepareCalls identifier newUserData) (hrank : Rank source.scene i) :
    2 ≤ i := by
  rcases mem_prepareCalls h with ⟨vc, school, rfl, -⟩ | ⟨vc, school, rfl, -⟩
  · have hrank : i = 2 := hrank
    omega
  · have hrank : 3 ≤ i := hrank
    omega

/-- The selector has its one place. -/
theorem LoadInv.index_eq_two {flow : Flow} {i : Nat} {screen : Screen} (hinv : LoadInv flow)
    (hi : flow.screens[i]? = some screen) (hscene : screen.scene = .schoolSelector) : i = 2 := by
  have hrank := hinv.rank i screen hi
  rw [hscene] at hrank
  exact hrank

namespace Flow

/-- After the reaction, `prepare` leaves the recorded school alone. -/
theorem Outcome.schoolId_eq {flow flow' : Flow} {i : Nat} {r : Reaction Screen}
    (hout : Outcome flow i r flow') : schoolId flow'.newUserData = schoolId r.newUserData := by
  rcases hout.newUserData_cases with ⟨-, heq⟩ | ⟨identifier, scene, -, -, heq⟩
  · rw [heq]
  · rw [heq, schoolId, schoolId, Screen.prepare_schoolOf]

section Deliver

variable {flow flow' : Flow} {i : Nat} {e : ScreenEvent} {screen : Screen} {r : Reaction Screen}

/-- What held a school before the step agrees with the record after it: the
record changes only while no such screen is there. -/
theorem screens_agree (hinv : SchoolInv flow) (hfits : SchoolFits flow i e)
    (hi : flow.screens[i]? = some screen)
    (hr : screen.handle lower flow.newUserData e = some r) :
    ∀ s ∈ flow.screens, ∀ school, s.school? = some school →
      schoolId r.newUserData = some school.id := by
  intro s hs school hschool
  rcases (Screen.handle_schoolId hinv hfits hi hr).2 with hsame | hlen
  · rw [hsame]
    exact hinv.wins.screens s hs school hschool
  · obtain ⟨j, hj⟩ := List.mem_iff_getElem?.mp hs
    have hj3 := Screen.three_le_of_school? hschool (hinv.load.rank j s hj)
    obtain ⟨hjlt, -⟩ := List.getElem?_eq_some_iff.mp hj
    omega

theorem queries_agree (hinv : SchoolInv flow) (hfits : SchoolFits flow i e)
    (hi : flow.screens[i]? = some screen)
    (hr : screen.handle lower flow.newUserData e = some r) :
    ∀ request ∈ flow.requests, ∀ school, request.call.school? = some school →
      schoolId r.newUserData = some school.id := by
  intro request hmem school hschool
  rcases (Screen.handle_schoolId hinv hfits hi hr).2 with hsame | hlen
  · rw [hsame]
    exact hinv.wins.queries request hmem school hschool
  -- while the selector is the last screen, there are no such queries
  · have hlate := hinv.late request hmem school hschool
    omega

/-- The screen that reacts agrees with the record after it. -/
theorem reaction_agrees (hinv : SchoolInv flow) (hfits : SchoolFits flow i e)
    (hi : flow.screens[i]? = some screen)
    (hr : screen.handle lower flow.newUserData e = some r) {school : School}
    (hschool : r.vc.school? = some school) : schoolId r.newUserData = some school.id := by
  rcases Screen.handle_school? hr with hkept | ⟨brought, hbrought, hkept⟩
  · rw [hschool] at hkept
    obtain ⟨s₀, hs₀, hids⟩ := Option.map_eq_some_iff.mp hkept.symm
    rw [screens_agree hinv hfits hi hr screen (List.mem_of_getElem? hi) s₀ hs₀]
    exact congrArg some hids
  · rw [hschool] at hkept
    have hne : screen.scene ≠ .schoolSelector := by
      intro hselector
      rw [← Screen.handle_scene hr] at hselector
      cases hvc : r.vc with
      | schoolSelector vc =>
        rw [hvc] at hschool
        exact nomatch hschool
      | userInfo vc | security vc | chooseClasses vc | addClass vc | finalSetup =>
        rw [hvc] at hselector
        exact nomatch hselector
    rw [Screen.handle_schoolId_of_ne hr hne, hfits.brought brought hbrought]
    exact hkept.symm

/-- The record and the selection. -/
theorem Outcome.school_record (hinv : SchoolInv flow) (hload : LoadInv flow')
    (hfits : SchoolFits flow i e) (hi : flow.screens[i]? = some screen)
    (hr : screen.handle lower flow.newUserData e = some r) (hout : Outcome flow i r flow') :
    ∀ vc, .schoolSelector vc ∈ flow'.screens →
      schoolId flow'.newUserData = vc.currentSelection.map (·.id) := by
  intro vc hvc
  rw [hout.schoolId_eq]
  obtain ⟨j, hj⟩ := List.mem_iff_getElem?.mp hvc
  have hj2 := hload.index_eq_two hj rfl
  rcases hout.screen_cases hj with ⟨hji, hold⟩ | ⟨-, heq⟩ |
    ⟨hji, hlen, identifier, scene, -, -, hdest⟩
  · rw [Screen.handle_schoolId_of_ne hr, hinv.wins.record vc (List.mem_of_getElem? hold)]
    intro hselector
    have := hinv.load.index_eq_two hi hselector
    omega
  · exact (Screen.handle_schoolId hinv hfits hi hr).1 vc heq.symm
  · -- the selector has just been presented
    have hnone : vc.currentSelection = none := by
      have hs : scene = .schoolSelector := by
        rw [← Screen.destination_scene r.vc identifier scene, ← hdest]
        rfl
      subst hs
      obtain rfl := Screen.schoolSelector.inj hdest
      rfl
    rw [hnone, Screen.handle_schoolId_of_ne hr, hinv.early (by omega)]
    · rfl
    · intro hselector
      have := hinv.load.index_eq_two hi hselector
      omega

/-- The record and the later screens. -/
theorem Outcome.school_screens (hinv : SchoolInv flow) (hfits : SchoolFits flow i e)
    (hi : flow.screens[i]? = some screen)
    (hr : screen.handle lower flow.newUserData e = some r) (hout : Outcome flow i r flow') :
    ∀ s ∈ flow'.screens, ∀ school, s.school? = some school →
      schoolId flow'.newUserData = some school.id := by
  intro s hs school hschool
  rw [hout.schoolId_eq]
  obtain ⟨j, hj⟩ := List.mem_iff_getElem?.mp hs
  rcases hout.screen_cases hj with ⟨-, hold⟩ | ⟨-, rfl⟩ | ⟨-, -, identifier, scene, -, -, rfl⟩
  · exact screens_agree hinv hfits hi hr s (List.mem_of_getElem? hold) school hschool
  · exact reaction_agrees hinv hfits hi hr hschool
  · exact reaction_agrees hinv hfits hi hr (Screen.destination_school? hschool)

/-- The record and the queries: a new one is about the recorded school, or
about the one that is selected. -/
theorem Outcome.school_queries (hinv : SchoolInv flow) (hfits : SchoolFits flow i e)
    (hi : flow.screens[i]? = some screen)
    (hr : screen.handle lower flow.newUserData e = some r) (hout : Outcome flow i r flow') :
    ∀ request ∈ flow'.requests, ∀ school, request.call.school? = some school →
      schoolId flow'.newUserData = some school.id := by
  intro request hmem school hschool
  rw [hout.schoolId_eq]
  rcases hout.request_cases hmem with hold | ⟨call, hcall, rfl⟩ |
    ⟨identifier, scene, -, -, -, ⟨call, hcall, rfl⟩ | ⟨call, hcall, rfl⟩⟩
  · exact queries_agree hinv hfits hi hr request hold school hschool
  · rw [schoolId, (Screen.handle_call_school? hr hcall hschool).2]
    rfl
  · rcases Screen.prepareCalls_school? hcall hschool with ⟨vc, hvc, hpicked⟩ | hrecorded
    · rw [(Screen.handle_schoolId hinv hfits hi hr).1 vc hvc, hpicked]
      rfl
    · rw [Screen.prepare_schoolOf] at hrecorded
      rw [schoolId, hrecorded]
      rfl
  · rw [Screen.loadCalls_school? hcall] at hschool
    exact nomatch hschool

/-- Before the selector is there, no school is recorded. -/
theorem Outcome.school_early (hinv : SchoolInv flow) (hi : flow.screens[i]? = some screen)
    (hr : screen.handle lower flow.newUserData e = some r) (hout : Outcome flow i r flow') :
    flow'.screens.length ≤ 2 → schoolId flow'.newUserData = none := by
  intro hlen
  have hle := hout.length_le
  obtain ⟨hilt, -⟩ := List.getElem?_eq_some_iff.mp hi
  rw [hout.schoolId_eq, Screen.handle_schoolId_of_ne hr, hinv.early (by omega)]
  intro hselector
  have := hinv.load.index_eq_two hi hselector
  omega

/-- The selector is only left with a selection. -/
theorem Outcome.school_picked (hinv : SchoolInv flow) (hload : LoadInv flow')
    (hi : flow.screens[i]? = some screen)
    (hr : screen.handle lower flow.newUserData e = some r) (hout : Outcome flow i r flow') :
    ∀ vc, .schoolSelector vc ∈ flow'.screens → 3 < flow'.screens.length →
      vc.currentSelection ≠ none := by
  intro vc hvc hlen
  obtain ⟨j, hj⟩ := List.mem_iff_getElem?.mp hvc
  have hj2 := hload.index_eq_two hj rfl
  obtain ⟨hilt, -⟩ := List.getElem?_eq_some_iff.mp hi
  have hgrow := hout.length_cases
  rcases hout.screen_cases hj with ⟨hji, hold⟩ | ⟨hji, heq⟩ | ⟨hji, hlen', -⟩
  · refine hinv.picked vc (List.mem_of_getElem? hold) ?_
    omega
  · obtain ⟨vc₀, rfl⟩ : ∃ vc₀, screen = .schoolSelector vc₀ := by
      have hscene := Screen.handle_scene hr
      rw [← heq] at hscene
      cases screen with
      | schoolSelector vc₀ => exact ⟨vc₀, rfl⟩
      | userInfo vc | security vc | chooseClasses vc | addClass vc | finalSetup =>
        exact nomatch hscene
    obtain ⟨hkept, hleft⟩ := Screen.handle_picked hr heq.symm
    rcases hgrow with ⟨hgrow, -⟩ | ⟨-, hsegue, -⟩
    · exact hkept (hinv.picked vc₀ (List.mem_of_getElem? hi) (by omega))
    · exact hleft hsegue
  · omega

/-- Queries about a school are made once the selector is left. -/
theorem Outcome.school_late (hinv : SchoolInv flow) (hi : flow.screens[i]? = some screen)
    (hr : screen.handle lower flow.newUserData e = some r) (hout : Outcome flow i r flow') :
    ∀ request ∈ flow'.requests, ∀ school, request.call.school? = some school →
      3 < flow'.screens.length := by
  intro request hmem school hschool
  have hle := hout.length_le
  have hrank := hinv.load.rank i screen hi
  obtain ⟨hilt, -⟩ := List.getElem?_eq_some_iff.mp hi
  rcases hout.request_cases hmem with hold | ⟨call, hcall, rfl⟩ |
    ⟨identifier, scene, hsegue, -, htop, ⟨call, hcall, rfl⟩ | ⟨call, hcall, rfl⟩⟩
  · have hlate := hinv.late request hold school hschool
    omega
  · rw [(Screen.handle_call_school? hr hcall hschool).1] at hrank
    have hrank : 3 ≤ i := hrank
    omega
  · rw [← Screen.handle_scene hr] at hrank
    have h2 := Screen.two_le_of_prepareCalls hcall hrank
    rcases hout.length_cases with ⟨-, hnone | htop'⟩ | ⟨hgrow, -, -⟩
    · rw [hsegue] at hnone
      exact nomatch hnone
    · exact absurd htop htop'
    · omega
  · rw [Screen.loadCalls_school? hcall] at hschool
    exact nomatch hschool

/-- **Delivery.** -/
theorem Delivers.schoolInv (hinv : SchoolInv flow) (hload : LoadInv flow')
    (hfits : SchoolFits flow i e) (h : Delivers lower flow i e flow') : SchoolInv flow' := by
  obtain ⟨screen, r, hi, hr, hout⟩ := h
  exact {
    load := hload
    wins :=
      { record := hout.school_record hinv hload hfits hi hr
        screens := hout.school_screens hinv hfits hi hr
        queries := hout.school_queries hinv hfits hi hr }
    early := hout.school_early hinv hi hr
    picked := hout.school_picked hinv hload hi hr
    late := hout.school_late hinv hi hr }

end Deliver

/-- A delivered event fits, if the step is in order. -/
theorem Dispatches.schoolFits {flow flow₀ : Flow} {e : Event} {i : Nat} {se : ScreenEvent}
    (hinv : SchoolInv flow) (hok : InOrder flow e) (h : Dispatches flow e flow₀ i se) :
    SchoolFits flow₀ i se := by
  cases h with
  | input hinput =>
    refine ⟨?_, ?_, ?_⟩
    · intro vc hvc hevent
      have hrank : flow.screens.length - 1 = 2 := hinv.load.rank _ _ hvc
      omega
    · intro skewl crsList vc hse
      subst hse
      exact nomatch hinput
    · intro school hschool
      unfold ScreenEvent.school? at hschool
      split at hschool
      next => exact nomatch hinput
      next => exact nomatch hinput
      next => exact nomatch hinput
      next => exact nomatch hschool
  | @callback k response request _ _ hk hc =>
    have hmem := List.mem_of_getElem? hk
    have hqueries := hinv.wins.queries request hmem
    cases hc with
    | schoolList caller dest hr =>
      refine ⟨?_, fun _ _ _ hse => (nomatch hse), fun _ hbrought => nomatch hbrought⟩
      intro vc hvc _
      -- the list is still expected, so the selector has not been left
      obtain ⟨s, hs, hunloaded⟩ := hinv.load.unloaded _ hmem _ rfl
      have hvc : flow.screens[i]? = some (.schoolSelector vc) := hvc
      rw [hvc] at hs
      obtain rfl := Option.some.inj hs
      have hpicked := hinv.picked vc (List.mem_of_getElem? hvc)
      show flow.screens.length ≤ 3
      by_contra hlen
      exact hpicked (by omega) hunloaded.1
    | @newUser skewl caller dest r crsList hr =>
      refine ⟨?_, ?_, fun _ hbrought => nomatch hbrought⟩
      · intro vc hvc hevent
        rcases hevent with ⟨list, hlist⟩ | ⟨row, hrow⟩
        · exact nomatch hlist
        · exact nomatch hrow
      · intro skewl' crsList' vc hse hvc
        obtain ⟨rfl, -⟩ : skewl = skewl' ∧ crsList = crsList' := by simpa using hse
        exact hok skewl _ dest vc hk (by rw [hr]; simp) hvc
    | username username caller dest r =>
      refine ⟨?_, fun _ _ _ hse => (nomatch hse), fun _ hbrought => nomatch hbrought⟩
      intro vc hvc hevent
      rcases hevent with ⟨list, hlist⟩ | ⟨row, hrow⟩
      · exact nomatch hlist
      · exact nomatch hrow
    | chooseClasses school caller dest hr | returned identifier school caller dest hr
      | faculty school caller dest hr =>
      refine ⟨?_, fun _ _ _ hse => (nomatch hse), ?_⟩
      · intro vc hvc hevent
        rcases hevent with ⟨list, hlist⟩ | ⟨row, hrow⟩
        · exact nomatch hlist
        · exact nomatch hrow
      · intro school' hschool'
        obtain rfl := Option.some.inj hschool'
        exact hqueries _ rfl

theorem schoolInv_settle {flow : Flow} (hinv : SchoolInv flow) (k : Nat) :
    SchoolInv (flow.settle k) :=
  ⟨loadInv_settle hinv.load k,
    ⟨hinv.wins.record, hinv.wins.screens,
      fun request hmem => hinv.wins.queries request (List.mem_of_mem_eraseIdx hmem)⟩,
    hinv.early, hinv.picked,
    fun request hmem => hinv.late request (List.mem_of_mem_eraseIdx hmem)⟩

/-- **Step lemma.** -/
theorem step_schoolInv {flow flow' : Flow} {e : Event} (hinv : SchoolInv flow)
    (hok : InOrder flow e) (hs : flow.step lower e = some flow') : SchoolInv flow' := by
  have hload := step_loadInv hinv.load hs
  refine (steps_of_step hs).invariant hinv (schoolInv_settle hinv) ?_
  intro flow₀ i se hd hinv₀ hdel
  exact hdel.schoolInv hinv₀ hload (hd.schoolFits hinv hok)

/-- **Run lemma.** -/
theorem schoolInv_of_reaches {flow : Flow} (h : (signUp lower).Reaches InOrder flow) :
    SchoolInv flow := by
  refine h.invariant (P := SchoolInv) ?_ fun _ _ _ hinv hok hs => step_schoolInv hinv hok hs
  intro flow hinit
  obtain rfl : flow = launch := hinit
  refine ⟨loadInv_launch, ⟨?_, ?_, ?_⟩, fun _ => rfl, ?_, ?_⟩
  · intro vc hvc
    cases mem_launch_screens hvc
  · intro s hs school hschool
    rw [mem_launch_screens hs] at hschool
    cases hschool
  · intro request hmem
    exact absurd hmem (not_mem_launch_requests request)
  · intro vc hvc
    cases mem_launch_screens hvc
  · intro request hmem
    exact absurd hmem (not_mem_launch_requests request)

/-- **The last school picked wins**, in every state of every run in which the
answers to `updateNewUser` find their school still selected. -/
theorem last_pick_wins {flow : Flow} (h : (signUp lower).Reaches InOrder flow) :
    LastPickWins flow :=
  (schoolInv_of_reaches h).wins

/-- The selection is answered for before the class chooser is. -/
theorem last_pick_wins_answered :
    ∃ flow, (signUp String.toLower).Reaches InOrder flow ∧
      schoolId flow.newUserData = some "mhs" ∧ LastPickWins flow := by
  have h₀ : (signUp String.toLower).Reaches InOrder .launch := .init rfl
  have h₁ : (signUp String.toLower).Reaches InOrder (after register) := by
    refine Machine.run_reaches register ?_ h₀ rfl
    intro e he flow
    simp only [register, List.mem_cons, List.not_mem_nil, or_false] at he
    rcases he with rfl | rfl | rfl | rfl | rfl | rfl | rfl | rfl <;> trivial
  have h₂ : (signUp String.toLower).Reaches InOrder
      (after (register ++ [.documents 0 [morristownDocument]])) := by
    refine h₁.step (e := .documents 0 [morristownDocument]) ?_ rfl
    intro skewl caller dest vc hk
    have hk : some (⟨.getSchoolList, 2, 2⟩ : Request) =
        some ⟨.courseListForNewUser skewl, caller, dest⟩ := hk
    cases hk
  have h₃ : (signUp String.toLower).Reaches InOrder (after (register ++
      [.documents 0 [morristownDocument], .documents 0 []])) := by
    refine h₂.step (e := .documents 0 []) ?_ rfl
    intro skewl caller dest vc hk _ hvc
    have hk : some (⟨.courseListForNewUser morristown, 2, 2⟩ : Request) =
        some ⟨.courseListForNewUser skewl, caller, dest⟩ := hk
    cases hk
    obtain rfl := Screen.schoolSelector.inj (Option.some.inj hvc)
    rfl
  exact ⟨_, h₃, rfl, last_pick_wins h₃⟩

/-- A second school, with another id. -/
def roxburyDocument : Document Boxed where
  data := morristownDocument.data.set "id" (.string "rhs")
  storable := morristownDocument.storable.set _ (.string _)

/-- The second school is picked; its answer comes first, and then that of the
school which was selected before, which goes back to the record. -/
theorem earlier_pick_put_back :
    ¬∀ flow, (signUp String.toLower).Reachable flow → LastPickWins flow := by
  intro h
  have hwins := h _ (after_reachable (register ++
    [.documents 0 [morristownDocument, roxburyDocument],
      .input (.schoolSelector (.didSelectRow 1)), .documents 1 [], .documents 0 []]))
  have hrecord := hwins.record _ (List.mem_of_getElem? (i := 2) rfl)
  exact absurd hrecord (by decide)

end Flow

end Scholarli
