import Scholarli.Base.Machine
import Scholarli.SignUp.ChooseClasses

/-!
# A tap acts on the row that is shown — when the rows are in step

Three pieces of state decide which array a row index is read from:
`showAllCourses`, `searchResults` and the catalogue of `userSchool`. The
table keeps offering the rows of its last `reloadData` until the next one,
so every handler that changes one of the three has to reload. Four do not:
begin-editing, a text change without a catalogue, and the callbacks of the
school selector and of `getFaculty`.

* `Aligned` — every offered row is in range of the array it would be read
  from now, and (once there is a load to change) shows the course at its
  index there.
* `reloadData_aligned` — a reload establishes it; `step_aligned` — every
  event keeps it that satisfies `KeepsRows`, a condition on the state and
  the event which is trivial for all but those four.
* `Aligned.tapsShownRow` — in an aligned state neither delegate method traps
  on an offered row, and a tap adds or removes nothing but the course shown.
* `taps_shown_row` assembles them over runs; `begin_editing_traps` is the run
  that breaks the law.
-/

namespace Scholarli.ChooseClassesViewController

open Base (Machine toggle)

variable {lower : String → String}

/-- The class chooser by itself, under any sequence of events. -/
def machine (lower : String → String) : Machine ChooseClassesViewController Event where
  init vc := vc = viewDidLoad {}
  step := step lower

/-- The course load went from `load` to `load'` by adding or removing `c`. -/
def Toggled (c : Course) (load load' : List Course) : Prop :=
  load' = load ++ [c] ∨ ∃ ind d, load[ind]? = some d ∧ d.id = c.id ∧ load' = load.eraseIdx ind

/-- On every offered row both delegate methods stay in range, and what a tap
adds or removes is the course the row shows. -/
def TapsShownRow (vc : ChooseClassesViewController) : Prop :=
  ∀ row cell, vc.tableView[row]? = some cell →
    vc.cellForRowAt row ≠ none ∧
    ∃ vc', vc.didSelectRowAt row = some vc' ∧
      (vc'.currentUserSchedule = vc.currentUserSchedule ∨
        ∃ c load load', cell.course? = some c ∧
          courseLoadOf vc.currentUserSchedule = some load ∧
          courseLoadOf vc'.currentUserSchedule = some load' ∧ Toggled c load load')

/-- Every row of the table has an entry in the array; where there is a load,
it shows that entry. -/
def IndexedBy (table : List Cell) (array load : Option (List Course)) : Prop :=
  ∀ courses, array = some courses → ∀ (row : Nat) (cell : Cell), table[row]? = some cell →
    ∃ c, courses[row]? = some c ∧ (load ≠ none → cell.course? = some c)

/-- The offered rows agree with the array they would be read from. -/
def Aligned (vc : ChooseClassesViewController) : Prop :=
  IndexedBy vc.tableView vc.shownArray (courseLoadOf vc.currentUserSchedule)

/-- The condition under which an event keeps the rows in step: an event that
replaces the array without a reload finds every offered row showing the
entry of the new array at its index. -/
def KeepsRows (vc : ChooseClassesViewController) : Event → Prop
  | .searchBarTextDidBeginEditing => vc.tableView = []
  | .searchBarTextDidChange _ =>
    vc.courseList = none → vc.showAllCourses = false → vc.tableView = []
  | .facultyArrived school _ =>
    IndexedBy vc.tableView (if vc.showAllCourses then school.courseList else vc.searchResults)
      (courseLoadOf vc.currentUserSchedule)
  | .schoolArrived _ crsList =>
    IndexedBy vc.tableView (if vc.showAllCourses then some crsList else vc.searchResults)
      (some [])
  | _ => True

/-! ## Establishing and keeping alignment -/

theorem indexedBy_nil (array load : Option (List Course)) : IndexedBy [] array load := by
  intro courses _ row cell hcell
  exact absurd hcell (by simp)

theorem courseCell_course? {vc : ChooseClassesViewController} (c : Course)
    (h : courseLoadOf vc.currentUserSchedule ≠ none) :
    (vc.courseCell c).course? = some c := by
  unfold courseCell
  split
  next hnone => exact absurd hnone h
  next => rfl

/-- Where there is an array, both delegate methods of the data source read it. -/
theorem cellForRowAt_of_shownArray {vc : ChooseClassesViewController} {courses : List Course}
    (h : vc.shownArray = some courses) :
    vc.numberOfRowsInSection = courses.length ∧
    ∀ row, vc.cellForRowAt row = courses[row]?.map vc.courseCell := by
  unfold shownArray at h
  unfold numberOfRowsInSection cellForRowAt
  split at h
  next hall => simp [hall, h]
  next hall => simp [hall, h]

/-- Reading a list by all its indices. -/
private theorem filterMap_range_getElem? {α β : Type} (f : α → β) (xs : List α) :
    (List.range xs.length).filterMap (fun i => xs[i]?.map f) = xs.map f := by
  induction xs with
  | nil => rfl
  | cons x xs ih =>
    rw [List.length_cons, List.range_succ_eq_map, List.map_cons, ← ih]
    simp only [List.filterMap_cons, List.filterMap_map, List.getElem?_cons_zero, Option.map_some]
    rfl

/-- **What a reload renders**: the cells of the array, in order. -/
theorem reloadData_tableView {vc : ChooseClassesViewController} {courses : List Course}
    (h : vc.shownArray = some courses) :
    vc.reloadData.tableView = courses.map vc.courseCell := by
  obtain ⟨hrows, hcells⟩ := cellForRowAt_of_shownArray h
  show (List.range vc.numberOfRowsInSection).filterMap vc.cellForRowAt = _
  rw [hrows, funext hcells]
  exact filterMap_range_getElem? vc.courseCell courses

/-- A reload puts the rows in step, whatever was changed before it. -/
theorem reloadData_aligned (vc : ChooseClassesViewController) : vc.reloadData.Aligned := by
  intro courses harray row cell hcell
  rw [reloadData_tableView (show vc.shownArray = some courses from harray),
    List.getElem?_map] at hcell
  obtain ⟨c, hc, rfl⟩ := Option.map_eq_some_iff.mp hcell
  exact ⟨c, hc, courseCell_course? c⟩

theorem courseLoadOf_some_ne_none {sched : Schedule} {load : List Course}
    (h : sched.courseLoad = some load) : courseLoadOf (some sched) ≠ none := by
  show sched.courseLoad ≠ none
  rw [h]
  simp

/-- Alignment only depends on what the rows show. -/
theorem IndexedBy.of_shown {table table' : List Cell} {array load load' : Option (List Course)}
    (h : IndexedBy table array load)
    (hshown : table'.map Cell.course? = table.map Cell.course?)
    (hload : load' ≠ none → load ≠ none) : IndexedBy table' array load' := by
  intro courses harray row cell' hcell'
  have hmap : (table.map Cell.course?)[row]? = some cell'.course? := by
    rw [← hshown, List.getElem?_map, hcell']
    rfl
  rw [List.getElem?_map] at hmap
  obtain ⟨cell, hcell, hsame⟩ := Option.map_eq_some_iff.mp hmap
  obtain ⟨c, hc, hshows⟩ := h courses harray row cell hcell
  exact ⟨c, hc, fun hl => hsame ▸ hshows (hload hl)⟩

theorem SameRows.shownArray_eq {vc vc' : ChooseClassesViewController} (h : SameRows vc vc') :
    vc'.shownArray = vc.shownArray := by
  unfold shownArray courseList
  rw [h.showAll, h.school, h.results]

theorem SameRows.aligned {vc vc' : ChooseClassesViewController} (hrows : SameRows vc vc')
    (hload : courseLoadOf vc'.currentUserSchedule ≠ none →
      courseLoadOf vc.currentUserSchedule ≠ none) (h : vc.Aligned) : vc'.Aligned := by
  unfold Aligned
  rw [hrows.shownArray_eq]
  exact IndexedBy.of_shown h hrows.shown hload

/-- A tap keeps the rows in step: it changes checkmarks and the load. -/
theorem didSelectRowAt_aligned {vc vc' : ChooseClassesViewController} {row : Nat}
    (h : vc.Aligned) (hs : vc.didSelectRowAt row = some vc') : vc'.Aligned := by
  obtain ⟨hrows, hsched⟩ := didSelectRowAt_cases hs
  refine hrows.aligned ?_ h
  rcases hsched with ⟨-, heq⟩ | ⟨sched, load, course, hbefore, hload, -, -⟩
  · rw [heq]
    exact fun hne => hne
  · intro _
    rw [hbefore]
    exact courseLoadOf_some_ne_none hload

/-- **Step lemma.** An event that satisfies `KeepsRows` keeps the alignment. -/
theorem step_aligned {vc vc' : ChooseClassesViewController} {e : Event} (h : vc.Aligned)
    (hok : vc.KeepsRows e) (hs : vc.step lower e = some vc') : vc'.Aligned := by
  cases e with
  | viewDidAppear =>
    obtain rfl := Option.some.inj hs
    exact reloadData_aligned vc
  | searchBarTextDidBeginEditing =>
    obtain rfl := Option.some.inj hs
    show IndexedBy vc.tableView _ _
    rw [show vc.tableView = [] from hok]
    exact indexedBy_nil _ _
  | searchBarTextDidChange searchText =>
    obtain rfl := Option.some.inj hs
    unfold searchBarTextDidChange
    split
    next hcl =>
      -- no catalogue: the results are cleared and the table is not reloaded
      cases hall : vc.showAllCourses with
      | true =>
        intro courses harray
        have hnone : vc.courseList = some courses := by
          simpa [shownArray, hall, courseList] using harray
        rw [hcl] at hnone
        cases hnone
      | false =>
        show IndexedBy vc.tableView _ _
        rw [hok hcl hall]
        exact indexedBy_nil _ _
    next => exact reloadData_aligned _
  | searchBarCancelButtonClicked =>
    obtain rfl := Option.some.inj hs
    unfold searchBarCancelButtonClicked
    split
    next => exact reloadData_aligned _
    next => exact h
  | searchBarTextDidEndEditing =>
    obtain rfl := Option.some.inj hs
    exact reloadData_aligned _
  | didSelectRowAt row => exact didSelectRowAt_aligned h hs
  | addClass =>
    obtain rfl := Option.some.inj hs
    exact h
  | tapToContinue =>
    obtain rfl := Option.some.inj hs
    exact h
  | facultyArrived school facList =>
    obtain rfl := Option.some.inj hs
    exact hok
  | schoolArrived school crsList =>
    obtain rfl := Option.some.inj hs
    intro courses harray row cell hcell
    obtain ⟨c, hc, hshows⟩ := hok courses harray row cell hcell
    exact ⟨c, hc, fun _ => hshows (by simp)⟩
  | scheduleReturned identifier school crsList scheduleToReturn =>
    obtain rfl := Option.some.inj hs
    unfold scheduleReturned
    dsimp only
    split
    next =>
      -- the summary is written after the reload, to a label
      refine (writeSummary_sameRows _ _).aligned ?_ (reloadData_aligned _)
      rw [writeSummary_schedule]
      exact fun hne => hne
    next => exact reloadData_aligned _

/-- **Run lemma.** Along a run that satisfies `KeepsRows` the rows stay in step. -/
theorem aligned_of_reaches {vc : ChooseClassesViewController}
    (h : (machine lower).Reaches KeepsRows vc) : vc.Aligned := by
  refine h.invariant ?_ fun _ _ _ hal hok hs => step_aligned hal hok hs
  intro vc hinit
  obtain rfl : vc = viewDidLoad {} := hinit
  exact indexedBy_nil _ _

/-! ## What alignment buys -/

/-- In an aligned state an offered row is in range of `cellForRowAt`. -/
theorem Aligned.cellForRowAt_ne_none {vc : ChooseClassesViewController} (h : vc.Aligned)
    {row : Nat} {cell : Cell} (hcell : vc.tableView[row]? = some cell) :
    vc.cellForRowAt row ≠ none := by
  cases harray : vc.shownArray with
  | some courses =>
    obtain ⟨c, hc, -⟩ := h courses harray row cell hcell
    rw [(cellForRowAt_of_shownArray harray).2, hc]
    simp
  | none =>
    -- a placeholder is rendered, whatever the row
    unfold shownArray at harray
    unfold cellForRowAt
    split at harray
    next hall => simp [hall, harray]
    next hall => simp [hall, harray]

/-- Once the guards have passed, the row is in range of the array it is read
from. -/
def InRange (vc : ChooseClassesViewController) (row : Nat) : Prop :=
  ∀ courses resultCourses, vc.courseList = some courses →
    vc.searchResults = some resultCourses → courseLoadOf vc.currentUserSchedule ≠ none →
    row < (if vc.showAllCourses then courses else resultCourses).length

/-- In range, every branch of the tap returns. -/
theorem tapRow_of_lt (vc : ChooseClassesViewController) (load : List Course)
    {courses : List Course} {row : Nat} (hrow : row < courses.length) :
    ∃ vc', vc.tapRow courses load row = some vc' := by
  unfold tapRow
  rw [List.getElem?_eq_getElem hrow]
  simp only [Option.bind_eq_bind, Option.bind_some]
  split
  next =>
    split
    next => exact ⟨_, rfl⟩
    next => exact ⟨_, rfl⟩
  next =>
    split
    next => exact ⟨_, rfl⟩
    next =>
      split
      next => exact ⟨_, rfl⟩
      next => exact ⟨_, rfl⟩

theorem didSelectRowAt_of_inRange {vc : ChooseClassesViewController} {row : Nat}
    (hrow : vc.InRange row) : ∃ vc', vc.didSelectRowAt row = some vc' := by
  unfold didSelectRowAt
  split
  next => exact ⟨_, rfl⟩
  next =>
    split
    next => exact ⟨_, rfl⟩
    next courses hcl =>
      split
      next => exact ⟨_, rfl⟩
      next resultCourses hsr =>
        split
        next => exact ⟨_, rfl⟩
        next userCourses hld =>
          have hlt := hrow courses resultCourses hcl hsr (by rw [hld]; simp)
          obtain ⟨vc', hvc'⟩ := tapRow_of_lt vc userCourses hlt
          rw [hvc']
          exact ⟨_, rfl⟩

/-- Behind the guards, the array is one of the two that they have bound. -/
theorem shownArray_of_guards {vc : ChooseClassesViewController}
    {courses resultCourses : List Course} (hcl : vc.courseList = some courses)
    (hsr : vc.searchResults = some resultCourses) :
    vc.shownArray = some (if vc.showAllCourses then courses else resultCourses) := by
  unfold shownArray
  rw [hcl, hsr]
  split
  next => rfl
  next => rfl

/-- The array of an aligned state is long enough for every offered row. -/
theorem Aligned.inRange {vc : ChooseClassesViewController} (h : vc.Aligned)
    {row : Nat} {cell : Cell} (hcell : vc.tableView[row]? = some cell) : vc.InRange row := by
  intro courses resultCourses hcl hsr _
  obtain ⟨c, hc, -⟩ := h _ (shownArray_of_guards hcl hsr) row cell hcell
  exact (List.getElem?_eq_some_iff.mp hc).1

/-- In an aligned state a tap on an offered row does not trap. -/
theorem Aligned.didSelectRowAt_ne_none {vc : ChooseClassesViewController} (h : vc.Aligned)
    {row : Nat} {cell : Cell} (hcell : vc.tableView[row]? = some cell) :
    ∃ vc', vc.didSelectRowAt row = some vc' :=
  didSelectRowAt_of_inRange (h.inRange hcell)

/-- The target of a tap is read from the array. -/
theorem shownArray_of_tapTarget {vc : ChooseClassesViewController} {row : Nat} {c : Course}
    (h : vc.tapTarget row = some c) :
    ∃ courses, vc.shownArray = some courses ∧ courses[row]? = some c ∧
      courseLoadOf vc.currentUserSchedule ≠ none := by
  unfold tapTarget at h
  simp only [Option.bind_eq_bind, Option.bind_eq_some_iff] at h
  obtain ⟨cell, -, courses, hcl, resultCourses, hsr, load, hld, hc⟩ := h
  refine ⟨_, shownArray_of_guards hcl hsr, hc, ?_⟩
  rw [hld]
  simp

/-- The target of a tap on an offered row is the course shown there. -/
theorem Aligned.tapTarget_shown {vc : ChooseClassesViewController} (h : vc.Aligned)
    {row : Nat} {cell : Cell} (hcell : vc.tableView[row]? = some cell) {c : Course}
    (htarget : vc.tapTarget row = some c) : cell.course? = some c := by
  obtain ⟨courses, harray, hc, hload⟩ := shownArray_of_tapTarget htarget
  obtain ⟨c', hc', hshows⟩ := h courses harray row cell hcell
  rw [hc] at hc'
  obtain rfl := Option.some.inj hc'
  exact hshows hload

/-- A toggle that is not the identity adds or removes the course. -/
theorem toggle_toggled (c : Course) (load : List Course) :
    toggle (·.id) (·.period) c load = load ∨
    Toggled c load (toggle (·.id) (·.period) c load) := by
  unfold toggle
  split
  next ind hind =>
    obtain ⟨hlt, hid, -⟩ := List.findIdx?_eq_some_iff_getElem.mp hind
    exact Or.inr (Or.inr ⟨ind, load[ind], List.getElem?_eq_getElem hlt,
      by simpa using hid, rfl⟩)
  next =>
    split
    next => exact Or.inr (Or.inl rfl)
    next => exact Or.inl rfl

/-- **Safety of the offered rows** in an aligned state. -/
theorem Aligned.tapsShownRow {vc : ChooseClassesViewController} (h : vc.Aligned) :
    vc.TapsShownRow := by
  intro row cell hcell
  obtain ⟨vc', hvc'⟩ := h.didSelectRowAt_ne_none hcell
  refine ⟨h.cellForRowAt_ne_none hcell, vc', hvc', ?_⟩
  rcases (didSelectRowAt_cases hvc').2 with ⟨-, heq⟩ | ⟨sched, load, c, hbefore, hload, ht, hafter⟩
  · exact Or.inl heq
  · rcases toggle_toggled c load with hsame | htoggled
    · left
      rw [hafter, hbefore, hsame, ← hload]
      cases sched
      rfl
    · right
      refine ⟨c, load, _, h.tapTarget_shown hcell ht, ?_, ?_, htoggled⟩
      · rw [hbefore]
        exact hload
      · rw [hafter]
        rfl

/-- **A tap acts on the row that is shown**, in every state of every run whose
steps keep the rows in step. -/
theorem taps_shown_row {vc : ChooseClassesViewController}
    (h : (machine lower).Reaches KeepsRows vc) : vc.TapsShownRow :=
  (aligned_of_reaches h).tapsShownRow

/-- The condition admits ordinary use: the catalogue arrives before the table
is shown, and its first row is tapped. -/
theorem taps_shown_row_first_tap :
    ∃ vc, (machine String.toLower).Reaches KeepsRows vc ∧
      courseLoadOf vc.currentUserSchedule = some [preCalculus] ∧ vc.TapsShownRow := by
  have h₀ : (machine String.toLower).Reaches KeepsRows (viewDidLoad {}) := .init rfl
  have hempty : KeepsRows (viewDidLoad {}) (.schoolArrived morristown [preCalculus]) :=
    indexedBy_nil _ _
  have h₁ := h₀.step hempty rfl
  have h₂ := h₁.step (show KeepsRows _ .viewDidAppear from trivial) rfl
  have h₃ := h₂.step (show KeepsRows _ (.didSelectRowAt 0) from trivial) rfl
  exact ⟨_, h₃, rfl, taps_shown_row h₃⟩

/-- Begin-editing empties the array and leaves the rows on screen: with one
course in the table, both delegate methods trap on row `0`. -/
theorem begin_editing_traps :
    ¬∀ vc, (machine String.toLower).Reachable vc → vc.TapsShownRow := by
  intro h
  have hreach := Machine.run_reachable (M := machine String.toLower)
    [.schoolArrived morristown [preCalculus], .viewDidAppear, .searchBarTextDidBeginEditing]
    (.init rfl) rfl
  obtain ⟨hcell, vc', htap, -⟩ := h _ hreach 0 ⟨.course preCalculus, false⟩ rfl
  exact absurd rfl hcell

end Scholarli.ChooseClassesViewController
