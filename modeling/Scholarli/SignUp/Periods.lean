import Scholarli.SignUp.Flow
import Scholarli.SignUp.Pickers

/-!
# The periods a class form can offer

No code compares a period with the school's course load. It is the picker
that does: in period mode it has one row for each period of the school, and
the mode buttons reload it as they switch, so a row that it reports is one of
these.

* `Offers` — rows, the picked period and the course of a pending alert are
  within `1 … periodCount`.
* `offers_of_reachable` — so it is in every state of the form's own machine:
  rows and period by `PickerInv`, and what the alert offers has the period on
  screen, by `FormInv`.
* `Flow.form_of_reachable` — every class form of the sign-up flow is a run of
  that machine, so the form's invariants hold in the flow.
-/

namespace Scholarli

open Base (Machine Value Dict)

/-- A period of a school day of `m` periods. -/
def InDay (m p : Int) : Prop := 1 ≤ p ∧ p ≤ m

namespace AddClassViewController

/-- The form's invariant, as far as periods go. -/
structure Offers (vc : AddClassViewController) : Prop where
  rows : vc.currentSelectorItem = .period → ∀ m, vc.periodCount = some m →
    vc.pickerRows ≤ m.toNat
  picked : ∀ p, vc.currentPeriod = some p → ∀ m, vc.periodCount = some m → InDay m p
  alert : ∀ newCrs, vc.successAlert = some (some newCrs) → vc.school ≠ none ∧
    ∀ m, vc.periodCount = some m → InDay m newCrs.period

theorem PickerInv.inDay {vc : AddClassViewController} (h : PickerInv vc) {p m : Int}
    (hp : vc.currentPeriod = some p) (hm : vc.periodCount = some m) : InDay m p := by
  obtain ⟨hone, hle⟩ := h.period p hp
  rw [rowsIn_period hm] at hle
  constructor <;> omega

/-- **Step lemma** for the alert: only a submission puts it up, for a course
with the period on screen. -/
theorem step_alert {vc vc' : AddClassViewController} {e : Event} (h : PickerInv vc)
    (hform : FormInv vc) (hs : vc.step e = some vc') {newCrs : Course}
    (halert : vc'.successAlert = some (some newCrs)) :
    vc'.school ≠ none ∧ ∀ m, vc'.periodCount = some m → InDay m newCrs.period := by
  rcases step_cases hs with ⟨_, -, -, rfl⟩ | ⟨-, -, hsubmitted⟩
  · cases halert
  · obtain rfl := hsubmitted newCrs halert
    unfold step at hs
    split at hs
    next hnone =>
      obtain ⟨-, hs⟩ := Option.ite_none_right_eq_some.mp hs
      obtain rfl := Option.some.inj hs
      obtain ⟨errorClass, successAlert, heq, hbuilt⟩ := addClass_cases vc newCrs.id
      rw [heq] at halert ⊢
      rcases hbuilt newCrs halert with hold | ⟨hschool, hok⟩
      · rw [hnone] at hold
        cases hold
      · -- the period that was read is the one that was flushed
        have hperiod := (Course.ofRefData_ok hok).2
        unfold Dict.cast at hperiod
        rw [hform.updateUserInfo_entries.2] at hperiod
        obtain ⟨v, hv, hint⟩ := Option.bind_eq_some_iff.mp hperiod
        obtain ⟨p, hp, rfl⟩ := Option.map_eq_some_iff.mp hv
        obtain rfl : p = newCrs.period := Option.some.inj hint
        exact ⟨hschool, fun m hm => h.inDay hp hm⟩
    next =>
      split at hs
      next => contradiction
      next => cases hs

/-- **Run lemma.** -/
theorem offers_of_reachable {vc : AddClassViewController} (h : machine.Reachable vc) :
    Offers vc := by
  have hpicker := pickerInv_of_reachable h
  refine ⟨?_, fun p hp m hm => hpicker.inDay hp hm, ?_⟩
  · intro hmode m hm
    have hrows := hpicker.rows
    rw [hmode, rowsIn_period hm] at hrows
    exact hrows
  · intro newCrs halert
    cases h with
    | init hinit =>
      obtain ⟨school, scheduleToReturn, -, rfl⟩ := hinit
      cases halert
    | step hreach _ hs =>
      exact step_alert (pickerInv_of_reachable hreach) (formInv_of_reachable hreach) hs halert

end AddClassViewController

/-! ## The forms of the flow -/

namespace Flow

variable {lower : String → String}

/-- A form starts with a school whose staff was fetched: only the callback of
the faculty query presents it. -/
theorem Dispatches.presented_form {flow flow₀ : Flow} {e : Event} {i : Nat} {se : ScreenEvent}
    {screen : Screen} {newUserData : Data} {r : Reaction Screen} {identifier : String}
    {scene : Scene} {vc : AddClassViewController} (hd : Dispatches flow e flow₀ i se)
    (hr : screen.handle lower newUserData se = some r) (hsegue : r.segue = some identifier)
    (hscene : storyboard r.vc.scene identifier = some scene)
    (hvc : r.vc.destination identifier scene = .addClass vc) :
    AddClassViewController.machine.init vc := by
  have hdest := Screen.destination_scene r.vc identifier scene
  rw [hvc] at hdest
  obtain rfl : .addClass = scene := hdest
  cases Screen.handled_of_handle hr with
  | userInfo _ | security _ _ | schoolSelector _ | addClass _ =>
    cases segue_of_storyboard hscene
  | @chooseClasses cc cc' ce hstep =>
    have hsegue : ChooseClassesViewController.segue ce = some identifier := hsegue
    unfold ChooseClassesViewController.segue at hsegue
    split at hsegue
    next =>
      obtain rfl := Option.some.inj hsegue
      cases hscene
    next school facList =>
      obtain rfl := Option.some.inj hsegue
      obtain rfl := Option.some.inj hstep
      obtain rfl := Screen.addClass.inj hvc
      refine ⟨_, _, ?_, rfl⟩
      intro s fac hs hfac
      obtain rfl := Option.some.inj hs
      obtain rfl := Option.some.inj hfac
      cases hd with
      | input hinput => cases hinput
      | callback _ hc =>
        cases hc with
        | faculty _ _ _ hfetched => exact ⟨_, hfetched⟩
    next => cases hsegue

/-- **Projection.** Every class form of the flow is in a state of its own
machine. -/
theorem form_of_reachable {flow : Flow} (h : (signUp lower).Reachable flow) :
    ∀ vc, .addClass vc ∈ flow.screens → AddClassViewController.machine.Reachable vc := by
  induction h with
  | init hinit =>
    obtain rfl : _ = launch := hinit
    intro vc hvc
    cases mem_launch_screens hvc
  | step hreach _ hs ih =>
    intro vc hvc
    cases steps_of_step hs with
    | silent _ _ => exact ih vc hvc
    | deliver hd hdel =>
      obtain ⟨screen, r, hi, hr, hout⟩ := hdel
      obtain ⟨j, hj⟩ := List.mem_iff_getElem?.mp hvc
      rcases hout.screen_cases hj with ⟨-, hold⟩ | ⟨-, heq⟩ |
        ⟨-, -, identifier, scene, hsegue, hscene, heq⟩
      · rw [hd.screens_eq] at hold
        exact ih vc (List.mem_of_getElem? hold)
      · cases Screen.handled_of_handle hr with
        | userInfo _ | security _ _ | schoolSelector _ | chooseClasses _ => cases heq
        | addClass hstep =>
          obtain rfl := Screen.addClass.inj heq
          rw [hd.screens_eq] at hi
          exact (ih _ (List.mem_of_getElem? hi)).step trivial hstep
      · exact .init (hd.presented_form hr hsegue hscene heq.symm)

end Flow

end Scholarli
