import Scholarli.SignUp.Taps

/-!
# Which refused taps are reported

A tap in the class chooser that does nothing to the schedule has a text for
the `errors` label. The exits at the guards set the text and show the label;
the exit for a period that is taken sets the text only. `viewDidLoad` has
hidden the label and nothing hides it again, so what the user sees depends on
the taps before: once one of them has failed at a guard, the label is there.

* `Reported` — the load changed by one course, or it did not change and the
  label shows a text.
* `noticed` — a ghost component: a tap on a row has failed at a guard.
  `isHidden_of_reachable` is the run lemma that ties it to the label.
* `tap_reported_iff` — a tap is reported exactly if it is not refused for its
  period, or the label was there already.
-/

namespace Scholarli.ChooseClassesViewController

open Base (Machine toggle Rejects)

variable {lower : String → String}

/-- The load changed by exactly one course: appended, or removed with the
others in their order. -/
def ChangedByOne (load load' : List Course) : Prop :=
  (∃ course, load' = load ++ [course]) ∨ ∃ ind, ind < load.length ∧ load' = load.eraseIdx ind

/-- The tap that led from `vc` to `vc'` changed the load by one course, or it
left the load alone and the label shows why. -/
def Reported (vc vc' : ChooseClassesViewController) : Prop :=
  (∃ load load', courseLoadOf vc.currentUserSchedule = some load ∧
    courseLoadOf vc'.currentUserSchedule = some load' ∧ ChangedByOne load load') ∨
  (courseLoadOf vc'.currentUserSchedule = courseLoadOf vc.currentUserSchedule ∧
    vc'.errors.isHidden = false ∧ ∃ text, vc'.errors.text = some text ∧ text ≠ "")

theorem not_changedByOne_self (load : List Course) : ¬ChangedByOne load load := by
  intro h
  rcases h with ⟨course, hload⟩ | ⟨ind, hind, hload⟩
  · have hlength := congrArg List.length hload
    rw [List.length_append, List.length_singleton] at hlength
    omega
  · have hlength := congrArg List.length hload
    rw [List.length_eraseIdx_of_lt hind] at hlength
    omega

/-! ## One tap -/

/-- One of the guards before the two branches fails. -/
def guardFails (vc : ChooseClassesViewController) : Bool :=
  vc.courseList.isNone || vc.searchResults.isNone ||
    (courseLoadOf vc.currentUserSchedule).isNone

/-- **Inversion** of a tap on a row that is there. -/
theorem shown_tap_cases {vc vc' : ChooseClassesViewController} {row : Nat} {cell : Cell}
    (hcell : vc.tableView[row]? = some cell) (h : vc.didSelectRowAt row = some vc') :
    (vc.guardFails = true ∧ ∃ text, text ≠ "" ∧ vc' = vc.fail text) ∨
    (vc.guardFails = false ∧ ∃ courses load course vc₁, courses[row]? = some course ∧
      vc.tapTarget row = some course ∧ courseLoadOf vc.currentUserSchedule = some load ∧
      vc.tapRow courses load row = some vc₁ ∧ vc' = vc₁.refreshPeriods) := by
  unfold didSelectRowAt at h
  rw [hcell] at h
  dsimp only at h
  split at h
  next hcl =>
    obtain rfl := Option.some.inj h
    exact Or.inl ⟨by simp [guardFails, hcl], _, by decide, rfl⟩
  next courses hcl =>
    split at h
    next hsr =>
      obtain rfl := Option.some.inj h
      exact Or.inl ⟨by simp [guardFails, hsr], _, by decide, rfl⟩
    next resultCourses hsr =>
      split at h
      next hld =>
        obtain rfl := Option.some.inj h
        exact Or.inl ⟨by simp [guardFails, hld], _, by decide, rfl⟩
      next load hld =>
        obtain ⟨vc₁, h₁, rfl⟩ := Option.map_eq_some_iff.mp h
        obtain ⟨course, hcourse, -⟩ := Option.bind_eq_some_iff.mp h₁
        exact Or.inr ⟨by simp [guardFails, hcl, hsr, hld], _, load, course, vc₁, hcourse,
          by simp [tapTarget, hcell, hcl, hsr, hld, hcourse], hld, h₁, rfl⟩

theorem refreshPeriods_errors (vc : ChooseClassesViewController) :
    vc.refreshPeriods.errors = vc.errors := by
  obtain ⟨periods, heq⟩ := refreshPeriods_eq vc
  rw [heq]

/-- A tap refuses a course exactly if the toggle of the load does. -/
theorem refuses_iff_rejects {vc : ChooseClassesViewController} {load : List Course}
    (hload : courseLoadOf vc.currentUserSchedule = some load) (course : Course) :
    vc.Refuses course ↔ Rejects (·.id) (·.period) course load := by
  obtain ⟨⟨max, courseLoad⟩, hsched, rfl⟩ := courseLoadOf_eq_some_iff.mp hload
  exact refuses_iff hsched

/-- The body of a tap never shows the label, and writes its text only where
it refuses the course. -/
theorem tapRow_errors {vc vc' : ChooseClassesViewController} {courses load : List Course}
    {row : Nat} {course : Course} (hcourse : courses[row]? = some course)
    (hload : courseLoadOf vc.currentUserSchedule = some load)
    (h : vc.tapRow courses load row = some vc') :
    vc'.errors.isHidden = vc.errors.isHidden ∧
    (vc.Refuses course → ∃ text, vc'.errors.text = some text ∧ text ≠ "") := by
  obtain ⟨course', hcourse', htapped⟩ := tappedRow_of_tapRow hload h
  rw [hcourse] at hcourse'
  obtain rfl := Option.some.inj hcourse'
  have hrejects := refuses_iff_rejects hload course
  cases htapped with
  | removed hind =>
    -- a course that is selected is not refused
    refine ⟨rfl, fun hrefuses => ?_⟩
    obtain ⟨hlt, hid, -⟩ := List.findIdx?_eq_some_iff_getElem.mp hind
    exact absurd (of_decide_eq_true hid) ((hrejects.mp hrefuses).1 _ (List.getElem_mem hlt))
  | added habsent hfree =>
    refine ⟨rfl, fun hrefuses => ?_⟩
    obtain ⟨crs, hcrs, hperiod⟩ := (hrejects.mp hrefuses).2
    exact absurd hperiod (hfree crs hcrs)
  | refused habsent htaken htext => exact ⟨rfl, fun _ => ⟨_, rfl, htext⟩⟩

/-- Behind a guard that fails there is no course to act on. -/
theorem tapTarget_of_guardFails {vc : ChooseClassesViewController} (h : vc.guardFails = true)
    (row : Nat) : vc.tapTarget row = none := by
  cases htarget : vc.tapTarget row with
  | none => rfl
  | some course =>
    unfold tapTarget at htarget
    simp only [Option.bind_eq_bind, Option.bind_eq_some_iff] at htarget
    obtain ⟨cell, -, courses, hcl, resultCourses, hsr, load, hld, -⟩ := htarget
    simp [guardFails, hcl, hsr, hld] at h

/-- The tap that is refused for its period: the branch that does not show the
label. -/
def RefusesRow (vc : ChooseClassesViewController) (row : Nat) : Prop :=
  ∃ course, vc.tapTarget row = some course ∧ vc.Refuses course

/-- **When a tap is reported**, by the state of the label before it. -/
theorem reported_iff {vc vc' : ChooseClassesViewController} {row : Nat} {cell : Cell}
    (hcell : vc.tableView[row]? = some cell) (h : vc.didSelectRowAt row = some vc') :
    Reported vc vc' ↔ vc.errors.isHidden = false ∨ ¬vc.RefusesRow row := by
  rcases shown_tap_cases hcell h with ⟨hguard, text, htext, rfl⟩ |
    ⟨-, courses, load, course, vc₁, hcourse, htarget, hload, h₁, rfl⟩
  · -- at a guard: the label is shown, and there was no course to refuse
    have haccepts : ¬vc.RefusesRow row := by
      intro hrefuses
      obtain ⟨course, htarget, -⟩ := hrefuses
      rw [tapTarget_of_guardFails hguard] at htarget
      cases htarget
    exact iff_of_true (Or.inr ⟨rfl, rfl, text, rfl, htext⟩) (Or.inr haccepts)
  · obtain ⟨hhidden, htext⟩ := tapRow_errors hcourse hload h₁
    obtain ⟨sched, hsched, hcl⟩ := courseLoadOf_eq_some_iff.mp hload
    obtain ⟨course', hcourse', hafter, -⟩ := tapRow_spec hsched hcl h₁
    rw [hcourse] at hcourse'
    obtain rfl := Option.some.inj hcourse'
    have hload' : courseLoadOf vc₁.refreshPeriods.currentUserSchedule =
        some (toggle (·.id) (·.period) course load) := by
      rw [refreshPeriods_schedule, hafter]
      rfl
    have hrow : vc.RefusesRow row ↔ Rejects (·.id) (·.period) course load := by
      rw [← refuses_iff_rejects hload course]
      constructor
      · intro hrefuses
        obtain ⟨course', htarget', hrefuses⟩ := hrefuses
        rw [htarget] at htarget'
        obtain rfl := Option.some.inj htarget'
        exact hrefuses
      · exact fun hrefuses => ⟨course, htarget, hrefuses⟩
    by_cases hrejects : Rejects (·.id) (·.period) course load
    · -- refused: the load stays, and the label is shown if it was
      rw [Base.toggle_of_rejects hrejects] at hload'
      rw [or_iff_left (not_not_intro (hrow.mpr hrejects)), ← hhidden, ← refreshPeriods_errors]
      constructor
      · intro hreported
        rcases hreported with ⟨load₁, load₂, h₁, h₂, hchanged⟩ | ⟨-, hshown, -⟩
        · rw [hload] at h₁
          rw [hload'] at h₂
          obtain rfl := Option.some.inj h₁
          obtain rfl := Option.some.inj h₂
          exact absurd hchanged (not_changedByOne_self load)
        · exact hshown
      · intro hshown
        refine Or.inr ⟨hload'.trans hload.symm, hshown, ?_⟩
        rw [refreshPeriods_errors]
        exact htext ((refuses_iff_rejects hload course).mpr hrejects)
    · refine iff_of_true (Or.inl ⟨load, _, hload, hload', ?_⟩) (Or.inr (mt hrow.mp hrejects))
      rcases Base.toggle_of_not_rejects hrejects with happend | ⟨ind, hind, herase⟩
      · exact Or.inl ⟨course, happend⟩
      · exact Or.inr ⟨ind, hind, herase⟩

/-! ## Runs -/

/-- Whether a tap on a row has failed at a guard by now. -/
def noticed (vc : ChooseClassesViewController) (e : Event) (before : Bool) : Bool :=
  match e with
  | .didSelectRowAt row => before || (vc.tableView[row]?.isSome && vc.guardFails)
  | _ => before

theorem writeSummary_isHidden (vc : ChooseClassesViewController) (schedule : Option Schedule) :
    (vc.writeSummary schedule).errors.isHidden = vc.errors.isHidden := by
  obtain ⟨text, heq⟩ := writeSummary_eq vc schedule
  rw [heq]

theorem didSelectRowAt_isHidden {vc vc' : ChooseClassesViewController} {row : Nat}
    (h : vc.didSelectRowAt row = some vc') :
    vc'.errors.isHidden =
      (vc.errors.isHidden && !(vc.tableView[row]?.isSome && vc.guardFails)) := by
  cases hcell : vc.tableView[row]? with
  | none =>
    unfold didSelectRowAt at h
    rw [hcell] at h
    obtain rfl := Option.some.inj h
    simp
  | some cell =>
    rcases shown_tap_cases hcell h with ⟨hguard, text, -, rfl⟩ |
      ⟨hguard, courses, load, course, vc₁, hcourse, -, hload, h₁, rfl⟩
    · simp [hguard, fail]
    · rw [refreshPeriods_errors, (tapRow_errors hcourse hload h₁).1]
      simp [hguard]

/-- **Step lemma.** Only a tap that fails at a guard shows the label. -/
theorem step_isHidden {vc vc' : ChooseClassesViewController} {e : Event} {before : Bool}
    (h : vc.errors.isHidden = !before) (hs : vc.step lower e = some vc') :
    vc'.errors.isHidden = !noticed vc e before := by
  cases e with
  | didSelectRowAt row =>
    rw [didSelectRowAt_isHidden hs, h]
    show _ = !(before || _)
    rw [Bool.not_or]
  | searchBarTextDidChange searchText =>
    obtain rfl := Option.some.inj hs
    unfold searchBarTextDidChange
    split
    next => exact h
    next => exact h
  | searchBarCancelButtonClicked =>
    obtain rfl := Option.some.inj hs
    unfold searchBarCancelButtonClicked
    split
    next => exact h
    next => exact h
  | scheduleReturned identifier school crsList scheduleToReturn =>
    obtain rfl := Option.some.inj hs
    unfold scheduleReturned
    dsimp only
    split
    next =>
      rw [writeSummary_isHidden]
      exact h
    next => exact h
  | viewDidAppear | searchBarTextDidBeginEditing | searchBarTextDidEndEditing | addClass
    | tapToContinue | facultyArrived school facList | schoolArrived school crsList =>
    obtain rfl := Option.some.inj hs
    exact h

/-- The class chooser with the record of whether a tap has failed at a guard. -/
def noticing (lower : String → String) : Machine (ChooseClassesViewController × Bool) Event :=
  (machine lower).recording false noticed

/-- **Run lemma.** The label is hidden until a tap fails at a guard. -/
theorem isHidden_of_reachable {vc : ChooseClassesViewController} {before : Bool}
    (h : (noticing lower).Reachable (vc, before)) : vc.errors.isHidden = !before := by
  refine h.invariant (P := fun s => s.1.errors.isHidden = !s.2) ?_ ?_
  · intro s hinit
    obtain ⟨vc, before⟩ := s
    obtain ⟨rfl, rfl⟩ : vc = viewDidLoad {} ∧ before = false := hinit
    rfl
  · intro s e s' hinv _ hs
    obtain ⟨vc', hvc', rfl⟩ := Option.map_eq_some_iff.mp hs
    exact step_isHidden hinv hvc'

/-- **Which taps are reported.** In every reachable state a tap on a row that
is there and in range returns, and it is reported exactly if an earlier tap
has failed at a guard, or this one is not refused for its period. -/
theorem tap_reported_iff {vc : ChooseClassesViewController} {before : Bool}
    (h : (noticing lower).Reachable (vc, before)) {row : Nat} {cell : Cell}
    (hcell : vc.tableView[row]? = some cell) (hrow : vc.InRange row) :
    ∃ vc', vc.didSelectRowAt row = some vc' ∧
      (Reported vc vc' ↔ before = true ∨ ¬vc.RefusesRow row) := by
  obtain ⟨vc', hvc'⟩ := didSelectRowAt_of_inRange hrow
  refine ⟨vc', hvc', ?_⟩
  rw [reported_iff hcell hvc', isHidden_of_reachable h]
  cases before <;> simp

/-- Two courses of the first period arrive; the first one is selected. -/
def selectOne : List Event :=
  [.schoolArrived morristown [preCalculus, { preCalculus with id := "c2" }], .viewDidAppear,
    .didSelectRowAt 0]

/-- A tap before the catalogue arrived has shown the label, and so the refusal
of the second course is seen. -/
theorem tap_reported_after_guard :
    ∃ vc vc', (noticing String.toLower).Reachable (vc, true) ∧ vc.RefusesRow 1 ∧
      vc.didSelectRowAt 1 = some vc' ∧ Reported vc vc' := by
  have hinit : (noticing String.toLower).Reachable (viewDidLoad {}, false) := .init ⟨rfl, rfl⟩
  have hreach := Machine.run_reachable
    (([.viewDidAppear, .didSelectRowAt 0] : List Event) ++ selectOne) hinit rfl
  obtain ⟨vc', hvc', hreported⟩ := @tap_reported_iff _ _ _ hreach 1 _ rfl (by
    intro courses resultCourses hcl hsr _
    obtain rfl := Option.some.inj hcl
    obtain rfl := Option.some.inj hsr
    decide)
  exact ⟨_, vc', hreach, ⟨_, rfl, _, rfl, by decide, rfl⟩, hvc', hreported.mpr (Or.inl rfl)⟩

/-- Without such a tap the refusal leaves no trace: the load stays and the
label stays hidden. -/
theorem refused_tap_unreported :
    ¬∀ vc, (machine String.toLower).Reachable vc → ∀ row cell,
      vc.tableView[row]? = some cell → vc.InRange row →
      ∃ vc', vc.didSelectRowAt row = some vc' ∧ Reported vc vc' := by
  intro h
  have hreach := Machine.run_reachable (M := machine String.toLower) selectOne (.init rfl) rfl
  obtain ⟨vc', hvc', hreported⟩ := h _ hreach 1 _ rfl (by
    intro courses resultCourses hcl hsr _
    obtain rfl := Option.some.inj hcl
    obtain rfl := Option.some.inj hsr
    decide)
  obtain rfl := Option.some.inj hvc'
  rcases hreported with ⟨load, load', hload, hload', hchanged⟩ | ⟨-, hshown, -⟩
  · obtain rfl := Option.some.inj hload
    obtain rfl := Option.some.inj hload'
    exact not_changedByOne_self _ hchanged
  · cases hshown

end Scholarli.ChooseClassesViewController
