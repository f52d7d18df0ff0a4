import Scholarli.SignUp.Provenance
import Scholarli.SignUp.Summary
import Scholarli.SignUp.TableRows

/-!
# Taps

A tap on a course toggles it in the load (`Base.toggle`), whichever array the
row was read from: what the two branches of `didSelectRowAt` have in common
is that they act on `tapTarget`. This file is about sequences of taps, with
any amount of searching in between.

* `Tapped` — the user finds a course, in the full list or in search results,
  and taps it. `Tapped.spec` says all that happens: the load is toggled and
  the label refreshed.
* `taps_commute` — two courses of different ids and periods can be tapped in
  either order.
* `second_tap_undoes` — tapping a course twice changes nothing, or moves the
  course to the end. That a course which was removed can be added again rests
  on the periods of a load being distinct, in every reachable state
  (`periodsApart_of_reachable`).
-/

namespace Scholarli

open Base (Machine toggle Agrees)

variable {lower : String → String}

namespace ChooseClassesViewController

theorem run_browses : ∀ (es : List Event) {vc vc' : ChooseClassesViewController},
    (∀ e ∈ es, e.browses = true) → (machine lower).run vc es = some vc' →
    vc'.currentUserSchedule = vc.currentUserSchedule ∧ vc'.periods = vc.periods
  | [], vc, vc', _, h => by
    obtain rfl := Option.some.inj h
    exact ⟨rfl, rfl⟩
  | e :: es, vc, vc', hes, h => by
    obtain ⟨vc₁, h₁, h₂⟩ := Option.bind_eq_some_iff.mp h
    have hsame := step_browses (hes e List.mem_cons_self) h₁
    obtain ⟨hsched, hperiods⟩ :=
      run_browses es (fun e' he' => hes e' (List.mem_cons_of_mem _ he')) h₂
    exact ⟨hsched.trans hsame.schedule, hperiods.trans hsame.periods⟩

/-- After some browsing, a tap on a row acts on the course. -/
def Tapped (lower : String → String) (course : Course)
    (vc vc' : ChooseClassesViewController) : Prop :=
  ∃ es vc₁ row, (∀ e ∈ es, e.browses = true) ∧ (machine lower).run vc es = some vc₁ ∧
    vc₁.tapTarget row = some course ∧ vc₁.didSelectRowAt row = some vc'

/-- The tap takes the branch that refuses the course. -/
def Refuses (vc : ChooseClassesViewController) (course : Course) : Prop :=
  ∃ load, courseLoadOf vc.currentUserSchedule = some load ∧
    ¬(load.any fun crs => crs.id = course.id) = true ∧
    verifyNewCourseToSchedule course vc.currentUserSchedule = false

/-- The load has been toggled, and the label is that of the new schedule. -/
structure TapResult (course : Course) (vc vc' : ChooseClassesViewController) (max : Option Int)
    (load : List Course) : Prop where
  before : vc.currentUserSchedule = some { maxCourseCount := max, courseLoad := some load }
  schedule : vc'.currentUserSchedule =
    some { maxCourseCount := max, courseLoad := some (toggle (·.id) (·.period) course load) }
  periods : vc'.periods = label vc'.currentUserSchedule vc.periods

/-- **What a tap on a course does**, wherever the course was found. -/
theorem Tapped.spec {course : Course} {vc vc' : ChooseClassesViewController}
    (h : Tapped lower course vc vc') : ∃ max load, TapResult course vc vc' max load := by
  obtain ⟨es, vc₁, row, hes, hrun, htarget, htap⟩ := h
  obtain ⟨hsched₁, hperiods₁⟩ := run_browses es hes hrun
  rcases (didSelectRowAt_cases htap).2 with ⟨hnone, -⟩ |
    ⟨sched, load, course', hsched, hload, htarget', hsched'⟩
  · rw [htarget] at hnone
    cases hnone
  · rw [htarget] at htarget'
    obtain rfl := Option.some.inj htarget'
    obtain ⟨max, courseLoad⟩ := sched
    obtain rfl : courseLoad = some load := hload
    refine ⟨max, load, ?_, hsched', ?_⟩
    · rw [← hsched₁, hsched]
    · rcases didSelectRowAt_periods htap with ⟨hnone, -⟩ | ⟨-, hlabel⟩
      · rw [htarget] at hnone
        cases hnone
      · rw [hlabel, hperiods₁]

theorem refuses_iff {vc : ChooseClassesViewController} {course : Course} {max : Option Int}
    {load : List Course}
    (h : vc.currentUserSchedule = some { maxCourseCount := max, courseLoad := some load }) :
    vc.Refuses course ↔ Base.Rejects (·.id) (·.period) course load := by
  have hany : ¬(load.any fun crs => crs.id = course.id) = true ↔
      ∀ crs ∈ load, crs.id ≠ course.id := by
    simp [List.any_eq_true]
  have hverify : verifyNewCourseToSchedule course vc.currentUserSchedule = false ↔
      ∃ crs ∈ load, crs.period = course.period := by
    rw [h, Bool.eq_false_iff, Ne, verifyNewCourseToSchedule_some_iff rfl]
    simp
  unfold Refuses
  rw [hverify]
  constructor
  · intro hrefuses
    obtain ⟨load', hload', habsent, htaken⟩ := hrefuses
    rw [h] at hload'
    obtain rfl := Option.some.inj hload'
    exact ⟨hany.mp habsent, htaken⟩
  · intro hrejects
    exact ⟨load, by rw [h]; rfl, hany.mpr hrejects.1, hrejects.2⟩

/-- The schedule has the course's period for the course's id. -/
def SamePeriod (vc : ChooseClassesViewController) (course : Course) : Prop :=
  ∀ load, courseLoadOf vc.currentUserSchedule = some load →
    ∀ crs ∈ load, crs.id = course.id → crs.period = course.period

/-- **Taps on courses of different periods commute.** The loads are
permutations of each other, the same courses are refused and the same label
is shown, in whichever lists the courses were found. -/
theorem taps_commute {vc va vab vb vba : ChooseClassesViewController} {a b : Course}
    (hid : a.id ≠ b.id) (hperiod : a.period ≠ b.period)
    (ha : vc.SamePeriod a) (hb : vc.SamePeriod b)
    (hva : Tapped lower a vc va) (hvab : Tapped lower b va vab)
    (hvb : Tapped lower b vc vb) (hvba : Tapped lower a vb vba) :
    (∃ max load load',
      vab.currentUserSchedule = some { maxCourseCount := max, courseLoad := some load } ∧
      vba.currentUserSchedule = some { maxCourseCount := max, courseLoad := some load' } ∧
      load.Perm load') ∧
    (vb.Refuses a ↔ vc.Refuses a) ∧ (va.Refuses b ↔ vc.Refuses b) ∧
    vab.periods = vba.periods := by
  obtain ⟨max, load, ra⟩ := hva.spec
  obtain ⟨max₁, load₁, rb⟩ := hvb.spec
  obtain ⟨rfl, rfl⟩ : max₁ = max ∧ load₁ = load := by simpa [ra.before] using rb.before.symm
  obtain ⟨max₂, load₂, rab⟩ := hvab.spec
  obtain ⟨rfl, rfl⟩ : max₂ = max₁ ∧ load₂ = toggle (·.id) (·.period) a load₁ := by
    simpa [ra.schedule] using rab.before.symm
  obtain ⟨max₃, load₃, rba⟩ := hvba.spec
  obtain ⟨rfl, rfl⟩ : max₃ = max₂ ∧ load₃ = toggle (·.id) (·.period) b load₁ := by
    simpa [rb.schedule] using rba.before.symm
  have hload : courseLoadOf vc.currentUserSchedule = some load₁ := by
    rw [ra.before]
    rfl
  have hagreeA : Agrees (fun c : Course => c.id) (fun c : Course => c.period) a load₁ :=
    ha load₁ hload
  have hagreeB : Agrees (fun c : Course => c.id) (fun c : Course => c.period) b load₁ :=
    hb load₁ hload
  have hperm := Base.toggle_comm hid hperiod hagreeA hagreeB
  refine ⟨⟨_, _, _, rab.schedule, rba.schedule, hperm⟩, ?_, ?_, ?_⟩
  · rw [refuses_iff rb.schedule, refuses_iff ra.before]
    exact Base.rejects_toggle_iff hid hperiod hagreeB
  · rw [refuses_iff ra.schedule, refuses_iff ra.before]
    exact Base.rejects_toggle_iff hid.symm hperiod.symm hagreeA
  · -- the second tap writes the label anew, or no tap writes it
    rw [rab.periods, rba.periods, rab.schedule, rba.schedule, label_perm hperm, ra.periods,
      rb.periods, ra.schedule, rb.schedule]
    cases max₃ with
    | none => rfl
    | some cnt => rfl

/-- A chooser that shows two courses, with nothing selected. -/
def twoCourses : ChooseClassesViewController :=
  reloadData {
    userSchool := some { morristown with
      courseList := some [preCalculus, { preCalculus with id := "c2", period := 5 }] }
    currentUserSchedule := some { maxCourseCount := some 8, courseLoad := some [] } }

/-- The chooser after a tap on a row. -/
def tap (vc : ChooseClassesViewController) (row : Nat) : ChooseClassesViewController :=
  (vc.didSelectRowAt row).getD vc

/-- The two courses are tapped in either order. -/
theorem taps_commute_two_courses :
    ∃ va vab vb vba,
      Tapped String.toLower preCalculus twoCourses va ∧
      Tapped String.toLower { preCalculus with id := "c2", period := 5 } va vab ∧
      Tapped String.toLower { preCalculus with id := "c2", period := 5 } twoCourses vb ∧
      Tapped String.toLower preCalculus vb vba ∧
      (courseLoadOf vab.currentUserSchedule).map List.length = some 2 ∧
      vab.periods = vba.periods := by
  have hva : Tapped String.toLower preCalculus twoCourses (twoCourses.tap 0) :=
    ⟨[], twoCourses, 0, by simp, rfl, rfl, rfl⟩
  have hvb : Tapped String.toLower { preCalculus with id := "c2", period := 5 } twoCourses
      (twoCourses.tap 1) :=
    ⟨[], twoCourses, 1, by simp, rfl, rfl, rfl⟩
  have hvab : Tapped String.toLower { preCalculus with id := "c2", period := 5 }
      (twoCourses.tap 0) ((twoCourses.tap 0).reloadData.tap 1) :=
    ⟨[.viewDidAppear], _, 1, by simp [Event.browses], rfl, rfl, rfl⟩
  have hvba : Tapped String.toLower preCalculus (twoCourses.tap 1)
      ((twoCourses.tap 1).reloadData.tap 0) :=
    ⟨[.viewDidAppear], _, 0, by simp [Event.browses], rfl, rfl, rfl⟩
  have hempty : ∀ c, twoCourses.SamePeriod c := by
    intro c load hload crs hcrs
    obtain rfl : [] = load := Option.some.inj hload
    cases hcrs
  have hcommute := taps_commute (by decide) (by decide) (hempty _) (hempty _) hva hvab hvb hvba
  exact ⟨_, _, _, _, hva, hvab, hvb, hvba, rfl, hcommute.2.2.2⟩

/-! ## The same course again -/

/-- The course is tapped any number of times. -/
inductive TappedOften (lower : String → String) (course : Course)
    (vc : ChooseClassesViewController) : ChooseClassesViewController → Prop
  | none : TappedOften lower course vc vc
  | again {vc₁ vc₂ : ChooseClassesViewController} (h : TappedOften lower course vc vc₁)
      (htap : Tapped lower course vc₁ vc₂) : TappedOften lower course vc vc₂

/-- What a tap refused once, every later tap refuses. -/
theorem TappedOften.schedule_eq {course : Course} {vc vc' : ChooseClassesViewController}
    (h : TappedOften lower course vc vc') (hrefuses : vc.Refuses course) :
    vc'.currentUserSchedule = vc.currentUserSchedule := by
  induction h with
  | none => rfl
  | again _ htap ih =>
    obtain ⟨max, load, result⟩ := htap.spec
    have hrejects := (refuses_iff (ih.symm.trans result.before)).mp hrefuses
    rw [result.schedule, Base.toggle_of_rejects hrejects, ← result.before, ih]

/-- **A second tap undoes the first.** Let `c` be a course that is equal to any
course of the load with its id. If a tap adds `c`, the next tap restores the
load exactly; if it removes `c`, the next tap is not refused and has `c` at
the end; if it refuses `c`, no number of taps changes the load. -/
theorem second_tap_undoes {flow : Flow} (hflow : (signUp lower).Reachable flow)
    {vc : ChooseClassesViewController} (hvc : .chooseClasses vc ∈ flow.screens)
    {load : List Course} (hload : courseLoadOf vc.currentUserSchedule = some load) {c : Course}
    (hsame : ∀ crs ∈ load, crs.id = c.id → crs = c) :
    ((∀ crs ∈ load, crs.id ≠ c.id) → ¬vc.Refuses c →
      ∀ vc₁ vc₂, Tapped lower c vc vc₁ → Tapped lower c vc₁ vc₂ →
        courseLoadOf vc₁.currentUserSchedule = some (load ++ [c]) ∧
        courseLoadOf vc₂.currentUserSchedule = some load) ∧
    ((∃ crs ∈ load, crs.id = c.id) →
      ∃ before after, load = before ++ c :: after ∧
        ∀ vc₁, Tapped lower c vc vc₁ →
          courseLoadOf vc₁.currentUserSchedule = some (before ++ after) ∧ ¬vc₁.Refuses c ∧
          ∀ vc₂, Tapped lower c vc₁ vc₂ →
            courseLoadOf vc₂.currentUserSchedule = some (before ++ after ++ [c])) ∧
    (vc.Refuses c → ∀ vc', TappedOften lower c vc vc' →
      courseLoadOf vc'.currentUserSchedule = some load) := by
  -- a first tap toggles this load, a second one what the first one left
  have hfirst : ∀ {vc₁}, Tapped lower c vc vc₁ → ∃ max, TapResult c vc vc₁ max load := by
    intro vc₁ h
    obtain ⟨max, load', result⟩ := h.spec
    rw [result.before] at hload
    obtain rfl : load' = load := Option.some.inj hload
    exact ⟨max, result⟩
  have hsecond : ∀ {vc₁ vc₂ max}, TapResult c vc vc₁ max load → Tapped lower c vc₁ vc₂ →
      courseLoadOf vc₂.currentUserSchedule =
        some (toggle (·.id) (·.period) c (toggle (·.id) (·.period) c load)) := by
    intro vc₁ vc₂ max result h
    obtain ⟨max', load', result'⟩ := h.spec
    obtain ⟨rfl, rfl⟩ : max' = max ∧ load' = toggle (·.id) (·.period) c load := by
      simpa [result.schedule] using result'.before.symm
    rw [result'.schedule]
    rfl
  refine ⟨?_, ?_, ?_⟩
  · intro habsent hrefuses vc₁ vc₂ h₁ h₂
    obtain ⟨max, result⟩ := hfirst h₁
    have hfree : ∀ crs ∈ load, crs.period ≠ c.period := by
      intro crs hcrs hperiod
      exact hrefuses ((refuses_iff result.before).mpr ⟨habsent, crs, hcrs, hperiod⟩)
    obtain ⟨hadd, hundo⟩ := Base.toggle_toggle_of_free habsent hfree
    refine ⟨?_, ?_⟩
    · rw [result.schedule, hadd]
      rfl
    · rw [hsecond result h₂, hadd, hundo]
  · intro hselected
    obtain ⟨crs, hcrs, hid⟩ := hselected
    obtain ⟨sched, hsched, hschedLoad⟩ := courseLoadOf_eq_some_iff.mp hload
    obtain ⟨load', hload', hnodup⟩ := periodsApart_of_reachable hflow _ hvc sched hsched
    rw [hschedLoad] at hload'
    obtain rfl := Option.some.inj hload'
    obtain ⟨before, after, hsplit, hremove, haccepts, hback⟩ :=
      Base.toggle_toggle_of_mem hnodup hsame hcrs hid
    refine ⟨before, after, hsplit, ?_⟩
    intro vc₁ h₁
    obtain ⟨max, result⟩ := hfirst h₁
    have hschedule := result.schedule
    rw [hremove] at hschedule
    refine ⟨by rw [hschedule]; rfl, ?_, ?_⟩
    · rw [refuses_iff hschedule]
      exact haccepts
    · intro vc₂ h₂
      rw [hsecond result h₂, hremove, hback]
  · intro hrefuses vc' htaps
    rw [htaps.schedule_eq hrefuses, hload]

/-- The student arrives at a chooser that shows Pre-Calculus. -/
def toCatalogue : List Scholarli.Event :=
  toChooser ++ [.documents 1 [preCalculus.document], .input (.chooseClasses .viewDidAppear)]

/-- Pre-Calculus is added, and removed again. -/
theorem second_tap_undoes_added :
    ∃ vc vc₁ vc₂, .chooseClasses vc ∈ (Flow.after toCatalogue).screens ∧
      Tapped String.toLower preCalculus vc vc₁ ∧ Tapped String.toLower preCalculus vc₁ vc₂ ∧
      courseLoadOf vc₁.currentUserSchedule = some [preCalculus] ∧
      courseLoadOf vc₂.currentUserSchedule = some [] := by
  obtain ⟨vc, hvc, hload, vc₁, vc₂, h₁, h₂⟩ : ∃ vc, (Flow.after toCatalogue).screens[3]? =
      some (.chooseClasses vc) ∧ courseLoadOf vc.currentUserSchedule = some [] ∧
      ∃ vc₁ vc₂, Tapped String.toLower preCalculus vc vc₁ ∧
        Tapped String.toLower preCalculus vc₁ vc₂ :=
    ⟨_, rfl, rfl, _, _, ⟨[], _, 0, by simp, rfl, rfl, rfl⟩, ⟨[], _, 0, by simp, rfl, rfl, rfl⟩⟩
  -- an empty load refuses nothing
  have haccepts : ¬vc.Refuses preCalculus := by
    intro hrefuses
    obtain ⟨max, load, result⟩ := h₁.spec
    obtain rfl : load = [] := by simpa [result.before, courseLoadOf] using hload
    obtain ⟨-, crs, hcrs, -⟩ := (refuses_iff result.before).mp hrefuses
    cases hcrs
  have hmem := List.mem_of_getElem? hvc
  have hundoes := second_tap_undoes (Flow.after_reachable toCatalogue) hmem hload
    (c := preCalculus) (by simp)
  exact ⟨vc, vc₁, vc₂, hmem, h₁, h₂, hundoes.1 (by simp) haccepts vc₁ vc₂ h₁ h₂⟩

end ChooseClassesViewController

end Scholarli
