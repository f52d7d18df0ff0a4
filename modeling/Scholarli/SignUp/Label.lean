import Scholarli.SignUp.Handover
import Scholarli.SignUp.Summary

/-!
# The label and the schedule

The class chooser's label is derived from the schedule but written by hand,
and only a tap writes it (`step_periods`). A schedule has two other ways onto
a chooser, and both bring it to a screen whose label still has its storyboard
text, since a chooser is loaded once and before any tap (`Fresh`):

* the school selector's callback brings an empty schedule, which the
  storyboard text happens to describe;
* the callback of a return segue of the class form brings whatever the form
  holds. It should refresh the label: after a submission it does generate the
  summary, but assigns it to `errors`, and after a cancellation it does not.

So the label is right up to the first return of a schedule with courses
(`Described`, `returnsEmpty`), and wrong right after it.
-/

namespace Scholarli

open Base (Machine)

variable {lower : String → String}

/-! ## One chooser -/

/-- A label that says "No Courses Selected" may stand beside the schedule:
there is no course that a summary of it would list. -/
def blank (schedule : Option Schedule) : Bool :=
  match schedule.bind (·.maxCourseCount), courseLoadOf schedule with
  | some _, some load => load.isEmpty
  | _, _ => true

theorem blank_some {sched : Schedule} {m : Int} {load : List Course}
    (hm : sched.maxCourseCount = some m) (hload : sched.courseLoad = some load) :
    blank (some sched) = load.isEmpty := by
  simp [blank, courseLoadOf, hm, hload]

theorem blank_eq_true_iff {schedule : Option Schedule} :
    blank schedule = true ↔ ∀ sched m load, schedule = some sched →
      sched.maxCourseCount = some m → sched.courseLoad = some load → load = [] := by
  constructor
  · intro h sched m load hsched hm hload
    rw [hsched, blank_some hm hload] at h
    exact List.isEmpty_iff.mp h
  · intro h
    unfold blank
    split
    next m load hm hload =>
      obtain ⟨sched, hsched, hm⟩ := Option.bind_eq_some_iff.mp hm
      obtain ⟨sched', hsched', hload⟩ := courseLoadOf_eq_some_iff.mp hload
      rw [hsched] at hsched'
      obtain rfl := Option.some.inj hsched'
      exact List.isEmpty_iff.mpr (h sched m load hsched hm hload)
    next => rfl

namespace ChooseClassesViewController

/-- The label describes the schedule, if there is one with a count and a load. -/
def Described (vc : ChooseClassesViewController) : Prop :=
  ∀ sched m load, vc.currentUserSchedule = some sched → sched.maxCourseCount = some m →
    sched.courseLoad = some load → vc.periods = some (periodLabelTextGenerator sched m)

/-- Without a schedule the label has its storyboard text. -/
def Fresh (vc : ChooseClassesViewController) : Prop :=
  vc.currentUserSchedule = none → vc.periods = some "No Courses Selected"

theorem writeSummary_periods (vc : ChooseClassesViewController) (schedule : Option Schedule) :
    (vc.writeSummary schedule).periods = vc.periods := by
  obtain ⟨text, heq⟩ := writeSummary_eq vc schedule
  rw [heq]

/-- The callback of a return writes no label but `errors`. -/
theorem scheduleReturned_periods (vc : ChooseClassesViewController) (identifier : String)
    (school : School) (crsList : List Course) (schedule : Option Schedule) :
    (vc.scheduleReturned identifier school crsList schedule).periods = vc.periods := by
  unfold scheduleReturned
  dsimp only
  split
  next => exact writeSummary_periods _ _
  next => rfl

/-- **Inversion**, as far as the label goes: a tap with a target refreshes it,
nothing else writes it. -/
theorem step_periods {vc vc' : ChooseClassesViewController} {e : Event}
    (hs : vc.step lower e = some vc') :
    (∃ row, e = .didSelectRowAt row ∧ vc.tapTarget row ≠ none ∧
      vc'.periods = label vc'.currentUserSchedule vc.periods) ∨
    ((∀ row, e = .didSelectRowAt row → vc.tapTarget row = none) ∧ vc'.periods = vc.periods) := by
  cases e with
  | didSelectRowAt row =>
    rcases didSelectRowAt_periods hs with ⟨hnone, heq⟩ | ⟨hsome, heq⟩
    · refine Or.inr ⟨?_, heq⟩
      intro row' hrow
      obtain rfl := Event.didSelectRowAt.inj hrow
      exact hnone
    · exact Or.inl ⟨row, rfl, hsome, heq⟩
  | scheduleReturned identifier school crsList scheduleToReturn =>
    obtain rfl := Option.some.inj hs
    refine Or.inr ⟨(by intro _ h; cases h), ?_⟩
    exact scheduleReturned_periods vc identifier school crsList scheduleToReturn
  | viewDidAppear | searchBarTextDidBeginEditing | searchBarTextDidChange _
    | searchBarCancelButtonClicked | searchBarTextDidEndEditing =>
    exact Or.inr ⟨(by intro _ h; cases h), (step_browses rfl hs).periods⟩
  | addClass | tapToContinue | facultyArrived school facList | schoolArrived school crsList =>
    obtain rfl := Option.some.inj hs
    exact Or.inr ⟨(by intro _ h; cases h), rfl⟩

/-- A load keeps the label. -/
theorem step_periods_of_isLoad {vc vc' : ChooseClassesViewController} {e : Event}
    (hs : vc.step lower e = some vc') (hload : e.isLoad = true) : vc'.periods = vc.periods := by
  rcases step_periods hs with ⟨row, rfl, -⟩ | ⟨-, heq⟩
  · cases hload
  · exact heq

/-- **Step lemma** for the storyboard text, on a screen that is loaded at most
once. -/
theorem step_fresh {vc vc' : ChooseClassesViewController} {e : Event}
    (hs : vc.step lower e = some vc')
    (hload : e.isLoad = true → vc.currentUserSchedule = none) (h : vc.Fresh) : vc'.Fresh := by
  intro hnone
  cases scheduleStep_of_step hs with
  | arrived school crsList heq =>
    rw [heq] at hnone
    cases hnone
  | returned identifier school crsList schedule heq =>
    rw [step_periods_of_isLoad hs rfl]
    exact h (hload rfl)
  | tapped hsched _ _ heq =>
    rw [heq] at hnone
    cases hnone
  | kept _ htap heq =>
    rcases step_periods hs with ⟨row, rfl, hsome, -⟩ | ⟨-, hperiods⟩
    · exact absurd (htap row rfl) hsome
    · rw [hperiods]
      exact h (heq.symm.trans hnone)

/-- The storyboard text describes a schedule without courses. -/
theorem described_of_blank {vc : ChooseClassesViewController}
    (hblank : blank vc.currentUserSchedule = true)
    (hperiods : vc.periods = some "No Courses Selected") : vc.Described := by
  intro sched m load hsched hm hload
  obtain rfl := blank_eq_true_iff.mp hblank sched m load hsched hm hload
  rw [hperiods, periodLabelTextGenerator_eq_text hload]
  rfl

/-- It describes no other. -/
theorem not_described_of_not_blank {vc : ChooseClassesViewController}
    (hblank : ¬blank vc.currentUserSchedule = true)
    (hperiods : vc.periods = some "No Courses Selected") : ¬vc.Described := by
  intro h
  refine hblank (blank_eq_true_iff.mpr fun sched m load hsched hm hload => ?_)
  have htext := h sched m load hsched hm hload
  obtain ⟨ps, hps, hasc⟩ : ∃ ps : List Int, ps.Perm (load.map (·.period)) ∧
      ps.Pairwise (· ≤ ·) :=
    ⟨_, List.perm_insertionSort (· ≤ ·) _, List.pairwise_insertionSort (· ≤ ·) _⟩
  rw [hperiods, periodLabelTextGenerator_eq_summary hload m hps hasc] at htext
  -- a summary that lists periods starts with another letter
  cases load with
  | nil => rfl
  | cons course load =>
    exfalso
    have hne : ps.isEmpty = false := by
      rw [hps.isEmpty_eq]
      rfl
    unfold periodLabelTextGenerator.summary at htext
    rw [hne, if_neg Bool.false_ne_true] at htext
    have hchars := congrArg String.toList (Option.some.inj htext)
    rw [String.toList_append] at hchars
    cases hchars

/-- **Step lemma** for the description, on a screen that is loaded at most once
and with nothing to describe. -/
theorem step_described {vc vc' : ChooseClassesViewController} {e : Event}
    (hs : vc.step lower e = some vc')
    (hload : e.isLoad = true → vc.currentUserSchedule = none) (hfresh : vc.Fresh)
    (hblank : ∀ identifier school crsList schedule,
      e = .scheduleReturned identifier school crsList schedule → blank schedule = true)
    (h : vc.Described) : vc'.Described := by
  cases scheduleStep_of_step hs with
  | arrived school crsList heq =>
    refine described_of_blank ?_ ?_
    · rw [heq]
      refine blank_eq_true_iff.mpr fun sched m load hsched _ hload' => ?_
      obtain rfl := Option.some.inj hsched
      exact (Option.some.inj hload').symm
    · rw [step_periods_of_isLoad hs rfl]
      exact hfresh (hload rfl)
  | returned identifier school crsList schedule heq =>
    refine described_of_blank ?_ ?_
    · rw [heq]
      exact hblank identifier school crsList schedule rfl
    · rw [step_periods_of_isLoad hs rfl]
      exact hfresh (hload rfl)
  | @tapped _ row _ _ _ _ _ htarget _ =>
    intro sched m load hsched hm _
    rcases step_periods hs with ⟨row', hrow, -, heq⟩ | ⟨hnone, -⟩
    · rw [heq, hsched]
      simp [label, hm]
    · rw [hnone row rfl] at htarget
      cases htarget
  | kept _ htap heq =>
    rcases step_periods hs with ⟨row, rfl, hsome, -⟩ | ⟨-, hperiods⟩
    · exact absurd (htap row rfl) hsome
    · intro sched m load hsched hm hload'
      rw [hperiods]
      exact h sched m load (heq.symm.trans hsched) hm hload'

end ChooseClassesViewController

/-! ## Steps and runs -/

namespace Flow

open ChooseClassesViewController

/-- **Run lemma** for the storyboard text. -/
theorem fresh_of_reachable {flow : Flow} (h : (signUp lower).Reachable flow) :
    ∀ vc, .chooseClasses vc ∈ flow.screens → vc.Fresh := by
  refine choosers_of_reaches (fun _ => rfl) ?_ h
  intro flow e vc vc' ce flow₀ i _ _ hfresh _ _ hload hce
  exact step_fresh hce hload hfresh

/-- No return brings a schedule with courses: an answer that runs the callback
of a return query finds none in the form. -/
def returnsEmpty (flow : Flow) : Event → Bool
  | .answer k (.documents r) =>
    match flow.requests[k]? with
    | some ⟨.courseListForReturn _ _, caller, _⟩ =>
      (getCourseList r).isNone || blank (flow.scheduleToReturn caller)
    | _ => true
  | _ => true

/-- **Run lemma** for the description. -/
theorem described_of_reaches {flow : Flow}
    (h : (signUp lower).Reaches (fun flow e => flow.returnsEmpty e = true) flow) :
    ∀ vc, .chooseClasses vc ∈ flow.screens → vc.Described := by
  refine choosers_of_reaches ?_ ?_ h
  · intro sched m load hsched
    cases hsched
  · intro flow e vc vc' ce flow₀ i hreach hok hdescribed hvc hd hload hce
    have hfresh := fresh_of_reachable hreach.reachable vc hvc
    refine step_described hce hload hfresh ?_ hdescribed
    intro identifier school crsList schedule heq
    subst heq
    cases hd with
    | input hinput => cases hinput
    | callback hk hc =>
      cases hc with
      | returned _ _ caller _ hr =>
        simpa [returnsEmpty, hk, hr] using hok

/-- The first return of a schedule with courses leaves a wrong label. -/
theorem not_described_of_step {flow flow' : Flow} {e : Event}
    (h : (signUp lower).Reachable flow) (hbad : flow.returnsEmpty e = false)
    (hs : flow.step lower e = some flow') :
    ∃ vc, .chooseClasses vc ∈ flow'.screens ∧ ¬vc.Described := by
  unfold returnsEmpty at hbad
  split at hbad
  next k r =>
    split at hbad
    next identifier school caller dest hk =>
      rw [Bool.or_eq_false_iff] at hbad
      obtain ⟨hr, hblank⟩ := hbad
      obtain ⟨crsList, hr⟩ := Option.isSome_iff_exists.mp (Option.isNone_eq_false_iff.mp hr)
      obtain ⟨cc, hcc, hnil, hcc'⟩ := deliver_return (loadInv_of_reachable h) hk hr hs
      refine ⟨_, List.mem_of_getElem? hcc', not_described_of_not_blank ?_ ?_⟩
      · rw [scheduleReturned_schedule, hblank]
        exact Bool.false_ne_true
      · rw [scheduleReturned_periods]
        exact fresh_of_reachable h cc (List.mem_of_getElem? hcc) hnil
    next => cases hbad
  next => cases hbad

/-- **The label, exactly.** In every run in which no return brings a schedule
with courses, every chooser's label describes its schedule in every state; and
such a return, from any reachable state, leads to one where a label does not. -/
theorem label_describes_while_returns_empty (flow : Flow) :
    ((signUp lower).Reaches (fun flow e => flow.returnsEmpty e = true) flow →
      ∀ vc, .chooseClasses vc ∈ flow.screens → vc.Described) ∧
    (∀ e flow', (signUp lower).Reachable flow → (signUp lower).step flow e = some flow' →
      flow.returnsEmpty e = false →
      ∃ vc, .chooseClasses vc ∈ flow'.screens ∧ ¬vc.Described) := by
  refine ⟨described_of_reaches, ?_⟩
  intro e flow' h hs hbad
  exact not_described_of_step h hbad hs

/-- The catalogue arrives and its first course is tapped. -/
def toTapped : List Event :=
  toChooser ++
    ([ .documents 1 [preCalculus.document],
      .input (.chooseClasses .viewDidAppear),
      .input (.chooseClasses (.didSelectRowAt 0)) ] : List Event)

/-- The form is opened on that schedule, and cancelled again. -/
def toCancelled : List Event :=
  toTapped ++
    ([.input (.chooseClasses .addClass), .documents 1 [], .input (.addClass .cancel)] : List Event)

/-- After a tap the label lists the period. -/
theorem label_describes_tapped_course :
    ∃ vc, .chooseClasses vc ∈ (after toTapped).screens ∧
      vc.periods = some "Periods Selected: 1" ∧ vc.Described := by
  have hrun : (signUp String.toLower).runUnder (fun flow e => flow.returnsEmpty e) .launch
      toTapped = some (after toTapped) := rfl
  have hreach := Machine.runUnder_reaches (fun _ _ hok => hok) _ (.init rfl) hrun
  have hmem : _ ∈ (after toTapped).screens := List.mem_of_getElem? (i := 3) rfl
  exact ⟨_, hmem, rfl, (label_describes_while_returns_empty _).1 hreach _ hmem⟩

/-- The schedule with that course returns to a new chooser, which still says
that there are no courses. -/
theorem label_stale_after_cancel :
    ¬∀ flow vc, (signUp String.toLower).Reachable flow → .chooseClasses vc ∈ flow.screens →
      vc.Described := by
  intro h
  have hmem : _ ∈ (after (toCancelled ++ [.documents 1 []])).screens :=
    List.mem_of_getElem? (i := 5) rfl
  have hlabel := h _ _ (after_reachable _) hmem _ 8 [preCalculus] rfl rfl rfl
  exact absurd (Option.some.inj hlabel) (by decide)

end Flow

end Scholarli
