import Scholarli.SignUp.ChooseClasses
import Mathlib.Data.List.Sort

/-!
# The period summary

`periodLabelTextGenerator` sorts the course load by period and joins the
periods with a separator that its loop decides on from a manually kept index.
Two facts make the text a function of the periods alone:

* `loop_eq` — the loop appends the periods joined by `", "`, with nothing
  after the last one: the index runs one ahead of the number of courses left.
* `text_eq_of_sorted` — whatever list the sort returns, as long as it is an
  ascending arrangement of the load, its periods are the ascending arrangement
  of the load's periods, which is unique. So it does not matter where the sort
  puts courses of equal periods.

The text that the loop starts from is also what the function compares its
result with to find out that there was no course. That is sound because a
decimal number is never the empty string.
-/

namespace Scholarli

namespace periodLabelTextGenerator

/-- `periodLabelTextGenerator` once the courses are sorted. -/
def text (sorted : List Course) : String :=
  let textToReturn := loop sorted.length sorted 0 "Periods Selected: "
  if textToReturn = "Periods Selected: " then "No Courses Selected" else textToReturn

/-- The summary of a list of periods: what the label is meant to say. -/
def summary (ps : List Int) : String :=
  if ps.isEmpty then "No Courses Selected"
  else "Periods Selected: " ++ ", ".intercalate (ps.map toString)

/-- The loop, at index `x` of `count`, with the courses from there on left. -/
theorem loop_eq {count : Nat} : ∀ (courses : List Course) (x : Nat) (textToReturn : String),
    x + courses.length = count →
    loop count courses x textToReturn =
      textToReturn ++ ", ".intercalate (courses.map fun course => toString course.period)
  | [], x, textToReturn, _ => by
    rw [loop, List.map_nil, String.intercalate_nil, String.append_empty]
  | [course], x, textToReturn, hx => by
    have hlast : x + 1 = count := hx
    rw [loop, if_pos hlast, loop, List.map_singleton, String.intercalate_singleton]
  | course :: next :: courses, x, textToReturn, hx => by
    have hmore : x + 1 + (next :: courses).length = count := by
      rw [List.length_cons] at hx
      omega
    have hne : x + 1 ≠ count := by
      rw [List.length_cons] at hmore
      omega
    rw [loop, if_neg hne, loop_eq (next :: courses) (x + 1) _ hmore,
      List.map_cons (a := course), String.intercalate_cons_of_ne_nil (by simp),
      String.append_assoc]

theorem toString_int_ne_empty (n : Int) : toString n ≠ "" := by
  cases n with
  | ofNat n => exact Nat.repr_ne_empty
  | negSucc n =>
    show "-" ++ Nat.repr (n + 1) ≠ ""
    rw [Ne, String.append_eq_empty_iff]
    intro h
    exact absurd h.2 Nat.repr_ne_empty

/-- Some period is joined, so the text is longer than what it started from. -/
theorem intercalate_ne_empty {ps : List Int} (h : ps ≠ []) :
    ", ".intercalate (ps.map toString) ≠ "" := by
  cases ps with
  | nil => exact absurd rfl h
  | cons p ps =>
    rw [List.map_cons]
    cases ps with
    | nil =>
      rw [List.map_nil, String.intercalate_singleton]
      exact toString_int_ne_empty p
    | cons q ps =>
      rw [String.intercalate_cons_of_ne_nil (by simp), String.append_assoc, Ne,
        String.append_eq_empty_iff]
      intro hempty
      exact toString_int_ne_empty p hempty.1

/-- The text of sorted courses is the summary of their periods. -/
theorem text_eq (sorted : List Course) : text sorted = summary (sorted.map (·.period)) := by
  unfold text summary
  dsimp only
  rw [loop_eq sorted 0 _ (Nat.zero_add _)]
  cases sorted with
  | nil => rfl
  | cons course courses =>
    have hne : ", ".intercalate (((course :: courses).map (·.period)).map toString) ≠ "" :=
      intercalate_ne_empty (by simp)
    rw [List.map_map] at hne
    rw [if_neg, List.map_map]
    · rfl
    · -- what is appended would have to be empty
      intro heq
      exact hne ((String.append_right_inj _).mp (heq.trans String.append_empty.symm))

/-- The ascending arrangement of the periods is the same for any ascending
arrangement of the courses. -/
theorem text_eq_of_sorted {sorted load : List Course} {ps : List Int} (hperm : sorted.Perm load)
    (hsorted : sorted.Pairwise fun c d => c.period ≤ d.period)
    (hps : ps.Perm (load.map (·.period))) (hasc : ps.Pairwise (· ≤ ·)) :
    text sorted = summary ps := by
  have hmap : (sorted.map (·.period)).Pairwise (· ≤ ·) := List.pairwise_map.mpr hsorted
  have hperiods : sorted.map (·.period) = ps :=
    ((hperm.map _).trans hps.symm).eq_of_pairwise' hmap hasc
  rw [text_eq, hperiods]

end periodLabelTextGenerator

open periodLabelTextGenerator

theorem periodLabelTextGenerator_eq_text {schedule : Schedule} {load : List Course}
    (hload : schedule.courseLoad = some load) (count : Int) :
    periodLabelTextGenerator schedule count =
      text (load.insertionSort fun crsOne crsTwo => crsOne.period ≤ crsTwo.period) := by
  unfold periodLabelTextGenerator
  rw [hload]
  rfl

theorem pairwise_insertionSort_period (load : List Course) :
    (load.insertionSort fun crsOne crsTwo => crsOne.period ≤ crsTwo.period).Pairwise
      fun c d => c.period ≤ d.period := by
  -- the relation that the source sorts by is total and transitive
  have htotal : Std.Total fun c d : Course => c.period ≤ d.period :=
    ⟨fun c d => Int.le_total c.period d.period⟩
  have htrans : IsTrans Course fun c d => c.period ≤ d.period :=
    ⟨fun _ _ _ => Int.le_trans⟩
  exact List.pairwise_insertionSort _ load

/-- The label says what the ascending arrangement of the periods says. -/
theorem periodLabelTextGenerator_eq_summary {schedule : Schedule} {load : List Course}
    (hload : schedule.courseLoad = some load) (count : Int) {ps : List Int}
    (hps : ps.Perm (load.map (·.period))) (hasc : ps.Pairwise (· ≤ ·)) :
    periodLabelTextGenerator schedule count = summary ps := by
  rw [periodLabelTextGenerator_eq_text hload]
  exact text_eq_of_sorted (List.perm_insertionSort _ load) (pairwise_insertionSort_period load)
    hps hasc

/-- **The summary is the sorted list of periods and depends on nothing else.**
It says that there is no course, or lists the periods of the load in ascending
order, one per course; a schedule whose load has the same periods, in any
order, gets the same text; and so does any ascending arrangement of the load
that a sort may return. -/
theorem period_summary_sorted (schedule : Schedule) (count : Int) (load : List Course)
    (hload : schedule.courseLoad = some load) :
    (∃ ps : List Int, ps.Perm (load.map (·.period)) ∧ ps.Pairwise (· ≤ ·) ∧
      periodLabelTextGenerator schedule count =
        if load.isEmpty then "No Courses Selected"
        else "Periods Selected: " ++ ", ".intercalate (ps.map toString)) ∧
    (∀ (schedule' : Schedule) (count' : Int) (load' : List Course),
      schedule'.courseLoad = some load' →
      (load'.map (·.period)).Perm (load.map (·.period)) →
      periodLabelTextGenerator schedule' count' = periodLabelTextGenerator schedule count) ∧
    (∀ sorted : List Course, sorted.Perm load →
      sorted.Pairwise (fun c d => c.period ≤ d.period) →
      text sorted = periodLabelTextGenerator schedule count) := by
  obtain ⟨ps, hps, hasc⟩ : ∃ ps : List Int, ps.Perm (load.map (·.period)) ∧
      ps.Pairwise (· ≤ ·) :=
    ⟨_, List.perm_insertionSort (· ≤ ·) _, List.pairwise_insertionSort (· ≤ ·) _⟩
  have htext := periodLabelTextGenerator_eq_summary hload count hps hasc
  have hempty : ps.isEmpty = load.isEmpty := by
    rw [hps.isEmpty_eq, List.isEmpty_map]
  refine ⟨⟨ps, hps, hasc, ?_⟩, ?_, ?_⟩
  · rw [htext, summary, hempty]
  · intro schedule' count' load' hload' hperm
    rw [htext]
    exact periodLabelTextGenerator_eq_summary hload' count' (hps.trans hperm.symm) hasc
  · intro sorted hperm hsorted
    rw [htext]
    exact text_eq_of_sorted hperm hsorted hps hasc

/-- A course of the fifth period chosen before one of the first. -/
theorem period_summary_sorted_two_courses :
    text [preCalculus, { preCalculus with id := "c2", period := 5 }] =
      periodLabelTextGenerator
        { maxCourseCount := some 8,
          courseLoad := some [{ preCalculus with id := "c2", period := 5 }, preCalculus] } 8 :=
  (period_summary_sorted _ 8 [{ preCalculus with id := "c2", period := 5 }, preCalculus] rfl).2.2
    [preCalculus, { preCalculus with id := "c2", period := 5 }] (List.Perm.swap _ _ _)
    (by simp [preCalculus])

example : text [preCalculus, { preCalculus with id := "c2", period := 5 }] =
    "Periods Selected: 1, 5" := by
  decide

/-! ## The label on screen -/

namespace ChooseClassesViewController

/-- What `refreshPeriods` writes for a schedule; without a count it leaves the
label alone. -/
def label (schedule : Option Schedule) (otherwise : Option String) : Option String :=
  match schedule.bind (·.maxCourseCount), schedule with
  | some cnt, some sched => some (periodLabelTextGenerator sched cnt)
  | _, _ => otherwise

theorem refreshPeriods_periods (vc : ChooseClassesViewController) :
    vc.refreshPeriods.periods = label vc.currentUserSchedule vc.periods := by
  unfold refreshPeriods label
  cases hsched : vc.currentUserSchedule with
  | none => rfl
  | some sched =>
    cases hcnt : sched.maxCourseCount with
    | none => simp [hcnt]
    | some cnt => simp [hcnt]

/-- Only the refresh at the end of a tap writes the label. -/
theorem tapRow_periods {vc vc' : ChooseClassesViewController} {courses load : List Course}
    {row : Nat} (hload : courseLoadOf vc.currentUserSchedule = some load)
    (h : vc.tapRow courses load row = some vc') : vc'.periods = vc.periods := by
  obtain ⟨course, -, htapped⟩ := tappedRow_of_tapRow hload h
  cases htapped with
  | removed _ | added _ _ | refused _ _ _ => rfl

/-- **The label after a tap**: refreshed if the tap had a target, else as it was. -/
theorem didSelectRowAt_periods {vc vc' : ChooseClassesViewController} {row : Nat}
    (h : vc.didSelectRowAt row = some vc') :
    (vc.tapTarget row = none ∧ vc'.periods = vc.periods) ∨
    (vc.tapTarget row ≠ none ∧ vc'.periods = label vc'.currentUserSchedule vc.periods) := by
  cases tap_of_didSelectRowAt h with
  | ignored htarget => exact Or.inl ⟨htarget, rfl⟩
  | failed htarget text => exact Or.inl ⟨htarget, rfl⟩
  | ran htarget _ hload h₁ =>
    refine Or.inr ⟨by rw [htarget]; exact Option.some_ne_none _, ?_⟩
    rw [refreshPeriods_schedule, refreshPeriods_periods, tapRow_periods hload h₁]

/-- Loads that are permutations of each other have one label. -/
theorem label_perm {max : Option Int} {load load' : List Course} (h : load.Perm load')
    (otherwise : Option String) :
    label (some { maxCourseCount := max, courseLoad := some load }) otherwise =
      label (some { maxCourseCount := max, courseLoad := some load' }) otherwise := by
  cases max with
  | none => rfl
  | some cnt =>
    have hsort := List.perm_insertionSort (· ≤ ·) (load.map (·.period))
    have hasc := List.pairwise_insertionSort (· ≤ ·) (load.map (·.period))
    have hgenerated : ∀ load₁ : List Course,
        (load.map (·.period)).Perm (load₁.map (·.period)) →
        periodLabelTextGenerator { maxCourseCount := some cnt, courseLoad := some load₁ } cnt =
          summary ((load.map (·.period)).insertionSort (· ≤ ·)) :=
      fun _ hps => periodLabelTextGenerator_eq_summary rfl cnt (hsort.trans hps) hasc
    refine congrArg some ?_
    rw [hgenerated load (List.Perm.refl _), hgenerated load' (h.map _)]

end ChooseClassesViewController

end Scholarli
