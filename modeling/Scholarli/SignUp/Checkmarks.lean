import Scholarli.SignUp.Schedules
import Scholarli.SignUp.Schools
import Scholarli.SignUp.Search
import Scholarli.SignUp.TableRows

/-!
# Checkmarks track the schedule

A checkmark is set in two places: `cellForRowAt` computes it from the load when
a row is rendered, and a tap sets the one of its own row and leaves the others
as they are. The two agree because a tap changes the presence of exactly one
id: that of the course tapped, which no other row shows (the ids of the array
are distinct) and which is gone after a removal (the ids of the load are).

* `Tracks` — the rows show the array, and each has a checkmark exactly if the
  load has its id. `JustReloaded.tracks` establishes it, `Tracks.tap` is the
  step lemma and `Tracks.taps` the run lemma.
* `distinct_held`, `distinct_results` — that the arrays have distinct ids, in
  every run in which the catalogues do that arrive (`DistinctCatalogues`). The
  load's ids are `tidy_of_reaches`.
-/

namespace Scholarli

open Base (Machine Roster toggle exists_key_toggle_of_ne exists_key_toggle_self)

variable {lower : String → String}

/-- Pairwise distinct course ids. -/
def DistinctIds (courses : List Course) : Prop := (courses.map fun c => c.id).Nodup

/-- Different indices hold different ids. -/
theorem DistinctIds.id_ne {courses : List Course} (h : DistinctIds courses) {i j : Nat}
    {c d : Course} (hi : courses[i]? = some c) (hj : courses[j]? = some d) (hne : i ≠ j) :
    c.id ≠ d.id := by
  intro heq
  have hlt : i < (courses.map fun c => c.id).length := by
    rw [List.length_map]
    exact (List.getElem?_eq_some_iff.mp hi).1
  refine hne ((List.getElem?_inj hlt h).mp ?_)
  rw [List.getElem?_map, List.getElem?_map, hi, hj, Option.map_some, Option.map_some, heq]

namespace ChooseClassesViewController

/-- The table is as `reloadData` renders it now. -/
def JustReloaded (vc : ChooseClassesViewController) : Prop := vc.reloadData = vc

/-- The rows show the courses of the array, and the checkmarks are on those
whose ids are in the load. -/
structure Tracks (vc : ChooseClassesViewController) (courses load : List Course) : Prop where
  array : vc.shownArray = some courses
  schedule : courseLoadOf vc.currentUserSchedule = some load
  ids : DistinctIds courses
  roster : Roster (fun c : Course => c.id) (fun c : Course => c.period) load
  rows : vc.tableView.map Cell.course? = courses.map some
  marks : ∀ cell ∈ vc.tableView, ∀ course, cell.course? = some course →
    (cell.checkmark = true ↔ ∃ crs ∈ load, crs.id = course.id)

/-- A reload puts the checkmarks where they belong. -/
theorem JustReloaded.tracks {vc : ChooseClassesViewController} {courses load : List Course}
    (h : vc.JustReloaded) (harray : vc.shownArray = some courses)
    (hload : courseLoadOf vc.currentUserSchedule = some load) (hids : DistinctIds courses)
    (hroster : Roster (fun c : Course => c.id) (fun c : Course => c.period) load) :
    vc.Tracks courses load := by
  have htable : vc.tableView = courses.map vc.courseCell := by
    rw [← reloadData_tableView harray, show vc.reloadData = vc from h]
  have hcell : ∀ c, vc.courseCell c =
      ⟨.course c, load.any fun crs => decide (crs.id = c.id)⟩ := by
    intro c
    unfold courseCell
    rw [hload]
  refine ⟨harray, hload, hids, hroster, ?_, ?_⟩
  · rw [htable, List.map_map]
    refine List.map_congr_left ?_
    intro c _
    show (vc.courseCell c).course? = some c
    rw [hcell]
    rfl
  · intro cell hmem course hcourse
    rw [htable] at hmem
    obtain ⟨c, -, rfl⟩ := List.mem_map.mp hmem
    rw [hcell] at hcourse ⊢
    obtain rfl := Option.some.inj hcourse
    simp [List.any_eq_true]

/-! ## One tap -/

/-- The row at an index shows the course at that index. -/
theorem Tracks.course?_getElem? {vc : ChooseClassesViewController} {courses load : List Course}
    (h : vc.Tracks courses load) {row : Nat} {cell : Cell}
    (hcell : vc.tableView[row]? = some cell) :
    ∃ course, courses[row]? = some course ∧ cell.course? = some course := by
  have hrow : (vc.tableView.map Cell.course?)[row]? = some cell.course? := by
    rw [List.getElem?_map, hcell, Option.map_some]
  rw [h.rows, List.getElem?_map] at hrow
  obtain ⟨course, hcourse, heq⟩ := Option.map_eq_some_iff.mp hrow
  exact ⟨course, hcourse, heq.symm⟩

/-- Rows that track the schedule are in step. -/
theorem Tracks.aligned {vc : ChooseClassesViewController} {courses load : List Course}
    (h : vc.Tracks courses load) : vc.Aligned := by
  intro courses' harray row cell hcell
  rw [h.array] at harray
  obtain rfl := Option.some.inj harray
  obtain ⟨course, hcourse, hshown⟩ := h.course?_getElem? hcell
  exact ⟨course, hcourse, fun _ => hshown⟩

/-- The body of a tap sets the checkmark of its row, to whether the course is
appended. -/
theorem tapRow_tableView {vc vc' : ChooseClassesViewController} {courses load : List Course}
    {row : Nat} {course : Course} (hcourse : courses[row]? = some course)
    (hload : courseLoadOf vc.currentUserSchedule = some load)
    (h : vc.tapRow courses load row = some vc') :
    ∃ b, vc'.tableView = (vc.mark row b).tableView ∧
      (b = true ↔ (∀ crs ∈ load, crs.id ≠ course.id) ∧
        ∀ crs ∈ load, crs.period ≠ course.period) := by
  obtain ⟨course', hcourse', htapped⟩ := tappedRow_of_tapRow hload h
  rw [hcourse] at hcourse'
  obtain rfl := Option.some.inj hcourse'
  cases htapped with
  | removed hind =>
    -- the id was there
    obtain ⟨hlt, hid, -⟩ := List.findIdx?_eq_some_iff_getElem.mp hind
    refine ⟨false, rfl, iff_of_false Bool.false_ne_true ?_⟩
    intro hadded
    exact hadded.1 _ (List.getElem_mem hlt) (of_decide_eq_true hid)
  | added habsent hfree => exact ⟨true, rfl, iff_of_true rfl ⟨habsent, hfree⟩⟩
  | refused _ htaken _ =>
    exact ⟨false, rfl, iff_of_false Bool.false_ne_true fun hadded => htaken hadded.2⟩

theorem refreshPeriods_tableView (vc : ChooseClassesViewController) :
    vc.refreshPeriods.tableView = vc.tableView := by
  obtain ⟨periods, heq⟩ := refreshPeriods_eq vc
  rw [heq]

/-- Setting one checkmark is right for a load that differs in the id of that row
and in no other. -/
theorem Tracks.marks_mark {vc : ChooseClassesViewController} {courses load load' : List Course}
    {row : Nat} {course : Course} {b : Bool} (h : vc.Tracks courses load)
    (hcourse : courses[row]? = some course)
    (hself : b = true ↔ ∃ crs ∈ load', crs.id = course.id)
    (hothers : ∀ id, id ≠ course.id →
      ((∃ crs ∈ load', crs.id = id) ↔ ∃ crs ∈ load, crs.id = id)) :
    ∀ cell ∈ (vc.mark row b).tableView, ∀ shown, cell.course? = some shown →
      (cell.checkmark = true ↔ ∃ crs ∈ load', crs.id = shown.id) := by
  intro cell' hmem shown hshown
  obtain ⟨i, hi⟩ := List.mem_iff_getElem?.mp hmem
  replace hi : (vc.tableView.modify row fun cell => { cell with checkmark := b })[i]? =
    some cell' := hi
  rw [List.getElem?_modify] at hi
  obtain ⟨cell, hcell, heq⟩ := Option.map_eq_some_iff.mp hi
  obtain ⟨course', hcourse', hcell'⟩ := h.course?_getElem? hcell
  by_cases hrow : row = i
  · subst hrow
    rw [if_pos rfl] at heq
    subst heq
    rw [hcourse] at hcourse'
    obtain rfl := Option.some.inj hcourse'
    obtain rfl : course = shown := Option.some.inj (hcell'.symm.trans hshown)
    exact hself
  · rw [if_neg hrow] at heq
    obtain rfl : cell = cell' := heq
    obtain rfl : course' = shown := Option.some.inj (hcell'.symm.trans hshown)
    have hne : course'.id ≠ course.id :=
      h.ids.id_ne hcourse' hcourse fun heq => hrow heq.symm
    rw [hothers course'.id hne]
    exact h.marks cell (List.mem_of_getElem? hcell) course' hcell'

/-- **Step lemma.** A tap toggles one course and sets one checkmark. -/
theorem Tracks.tap {vc vc' : ChooseClassesViewController} {courses load : List Course}
    {row : Nat} (h : vc.Tracks courses load) (hs : vc.didSelectRowAt row = some vc') :
    ∃ load', vc'.Tracks courses load' := by
  obtain ⟨hrows, -⟩ := didSelectRowAt_cases hs
  cases tap_of_didSelectRowAt hs with
  | ignored _ => exact ⟨load, h⟩
  | failed _ text => exact ⟨load, h.array, h.schedule, h.ids, h.roster, h.rows, h.marks⟩
  | @ran vc₁ tapped load₀ course htarget htapped hload h₁ =>
    rw [h.schedule] at hload
    obtain rfl := Option.some.inj hload
    obtain ⟨courses', harray, hcourse, -⟩ := shownArray_of_tapTarget htarget
    rw [h.array] at harray
    obtain rfl := Option.some.inj harray
    obtain ⟨sched, hsched, hcl⟩ := courseLoadOf_eq_some_iff.mp h.schedule
    obtain ⟨course', hcourse', hafter, -⟩ := tapRow_spec hsched hcl h₁
    rw [htapped] at hcourse'
    obtain rfl := Option.some.inj hcourse'
    obtain ⟨b, htable, hb⟩ := tapRow_tableView htapped h.schedule h₁
    refine ⟨toggle (·.id) (·.period) course load, ?_, ?_, h.ids, h.roster.toggle course, ?_, ?_⟩
    · rw [hrows.shownArray_eq, h.array]
    · rw [refreshPeriods_schedule, hafter]
      rfl
    · rw [hrows.shown, h.rows]
    · rw [refreshPeriods_tableView, htable]
      refine h.marks_mark hcourse ?_ ?_
      · rw [exists_key_toggle_self h.roster.keys]
        exact hb
      · intro id hne
        exact exists_key_toggle_of_ne hne

/-- **Run lemma.** No tap traps, and the checkmarks stay right. -/
theorem Tracks.taps (rows : List Nat) :
    ∀ {vc : ChooseClassesViewController} {courses load : List Course}, vc.Tracks courses load →
    ∃ vc' load', (machine lower).run vc (rows.map .didSelectRowAt) = some vc' ∧
      vc'.Tracks courses load' := by
  induction rows with
  | nil =>
    intro vc courses load h
    exact ⟨vc, load, rfl, h⟩
  | cons row rows ih =>
    intro vc courses load h
    obtain ⟨vc₁, h₁⟩ : ∃ vc₁, vc.didSelectRowAt row = some vc₁ := by
      cases hcell : vc.tableView[row]? with
      | some cell => exact h.aligned.didSelectRowAt_ne_none hcell
      | none =>
        refine ⟨vc, ?_⟩
        unfold didSelectRowAt
        rw [hcell]
    obtain ⟨load₁, htracks⟩ := h.tap h₁
    obtain ⟨vc', load', hrun, htracks'⟩ := ih htracks
    refine ⟨vc', load', ?_, htracks'⟩
    show ((machine lower).step vc (.didSelectRowAt row)).bind _ = _
    rw [show (machine lower).step vc (.didSelectRowAt row) = some vc₁ from h₁]
    exact hrun

end ChooseClassesViewController

/-! ## Distinct ids -/

/-- The catalogues that arrive have distinct ids. -/
def DistinctCatalogues (flow : Flow) : Event → Prop
  | .answer k (.documents r) =>
    ∀ request school, flow.requests[k]? = some request →
      request.call.catalogue? = some school →
      ∀ crsList, getCourseList r = some crsList → DistinctIds crsList
  | _ => True

namespace Flow

/-- Every catalogue of a school that is around has distinct ids. -/
theorem distinct_held {flow : Flow} (h : (signUp lower).Reaches DistinctCatalogues flow) :
    ∀ school, flow.Holds school →
      ∀ courses, school.courseList = some courses → DistinctIds courses := by
  refine schools_of_reaches ?_ h
  intro flow e flow' school hreach hok hs hheld horigin
  cases horigin with
  | kept hkept => exact hheld school hkept
  | picked hvc hselected =>
    -- a school is selected without a catalogue
    intro courses hcourses
    have hreach' := hreach.reachable.step trivial hs
    rw [(catalogueless_of_reachable hreach' _ hvc).selected _ hselected] at hcourses
    cases hcourses
  | staffed staff hkept =>
    intro courses hcourses
    exact hheld _ hkept courses hcourses
  | @catalogued k r request school crsList he hk hcall hr =>
    intro courses hcourses
    obtain rfl := Option.some.inj hcourses
    subst he
    exact hok request school hk hcall crsList hr

/-- The catalogue of a chooser does. -/
theorem distinct_courseList {flow : Flow} (h : (signUp lower).Reaches DistinctCatalogues flow)
    {vc : ChooseClassesViewController} (hvc : .chooseClasses vc ∈ flow.screens)
    {courses : List Course} (hcourses : vc.courseList = some courses) : DistinctIds courses := by
  obtain ⟨school, hschool, hlist⟩ := Option.bind_eq_some_iff.mp hcourses
  exact distinct_held h school (.shown hvc hschool) courses hlist

/-- And so do its search results, which are always there. -/
theorem distinct_results {flow : Flow} (h : (signUp lower).Reaches DistinctCatalogues flow) :
    ∀ vc, .chooseClasses vc ∈ flow.screens →
      ∃ results, vc.searchResults = some results ∧ DistinctIds results := by
  refine choosers_of_reaches ⟨[], rfl, List.nodup_nil⟩ ?_ h
  intro flow e vc vc' ce flow₀ i hreach _ hresults hvc _ _ hce
  rcases ChooseClassesViewController.step_results_cases hce with hsame | hnil |
    ⟨fullData, searchText, hfull, hfiltered⟩
  · rw [hsame]
    exact hresults
  · exact ⟨[], hnil, List.nodup_nil⟩
  · refine ⟨_, hfiltered, ?_⟩
    exact (distinct_courseList hreach hvc hfull).sublist (List.filter_sublist.map _)

/-- **Checkmarks track the schedule.** Take a chooser of any run, its table just
reloaded with a catalogue and a load there, and any taps. They all return; the
rows still show the array, and each has a checkmark exactly if the id of its
course is in the load. -/
theorem checkmarks_track_schedule {flow : Flow}
    (h : (signUp lower).Reaches (fun flow e => FreshIds flow e ∧ DistinctCatalogues flow e) flow)
    {vc : ChooseClassesViewController} (hvc : .chooseClasses vc ∈ flow.screens)
    (hreload : vc.JustReloaded) (hcourses : vc.courseList ≠ none)
    (hload : courseLoadOf vc.currentUserSchedule ≠ none) (rows : List Nat) :
    ∃ vc' courses load,
      (ChooseClassesViewController.machine lower).run vc (rows.map .didSelectRowAt) = some vc' ∧
      vc.shownArray = some courses ∧ courseLoadOf vc'.currentUserSchedule = some load ∧
      vc'.tableView.map Cell.course? = courses.map some ∧
      ∀ cell ∈ vc'.tableView, ∀ course, cell.course? = some course →
        (cell.checkmark = true ↔ ∃ crs ∈ load, crs.id = course.id) := by
  have hdistinct : (signUp lower).Reaches DistinctCatalogues flow := h.mono fun _ _ hok => hok.2
  have htidy := tidy_of_reaches (h.mono fun _ _ hok => hok.1) _ hvc
  obtain ⟨courses, harray, hids⟩ : ∃ courses, vc.shownArray = some courses ∧
      DistinctIds courses := by
    obtain ⟨catalogue, hcatalogue⟩ := Option.ne_none_iff_exists'.mp hcourses
    obtain ⟨results, hresults, hids⟩ := distinct_results hdistinct vc hvc
    refine ⟨_, ChooseClassesViewController.shownArray_of_guards hcatalogue hresults, ?_⟩
    split
    next => exact distinct_courseList hdistinct hvc hcatalogue
    next => exact hids
  obtain ⟨load, hload⟩ := Option.ne_none_iff_exists'.mp hload
  have hroster : Roster (fun c : Course => c.id) (fun c : Course => c.period) load := by
    obtain ⟨sched, hsched, hcl⟩ := courseLoadOf_eq_some_iff.mp hload
    obtain ⟨load', hload', hroster⟩ := htidy.schedule sched hsched
    rw [hcl] at hload'
    obtain rfl := Option.some.inj hload'
    exact hroster
  have htracks := hreload.tracks harray hload hids hroster
  obtain ⟨vc', load', hrun, htracks'⟩ := htracks.taps rows
  exact ⟨vc', courses, load', hrun, harray, htracks'.schedule, htracks'.rows, htracks'.marks⟩

/-- Two courses of the same period are on show. -/
def toFullTable : List Event :=
  toChooser ++
    ([ .documents 1 [preCalculus.document, { preCalculus with id := "c2" }.document],
      .input (.chooseClasses .viewDidAppear) ] : List Event)

/-- The events admit no duplicate: none submits a class, and every list of
courses that an answer decodes to has distinct ids. -/
def isAdmissible : Event → Bool
  | .answer _ (.documents r) => decide (((getCourseList r).getD []).map fun c => c.id).Nodup
  | e => !isSubmission e

theorem admissible_of_isAdmissible {e : Event} (h : isAdmissible e = true) (flow : Flow) :
    FreshIds flow e ∧ DistinctCatalogues flow e := by
  unfold isAdmissible at h
  split at h
  next k r =>
    refine ⟨trivial, ?_⟩
    intro request school _ _ crsList hlist
    rw [hlist] at h
    show (crsList.map fun c => c.id).Nodup
    exact of_decide_eq_true h
  next hother =>
    refine ⟨freshIds_of_not_isSubmission (by simpa using h), ?_⟩
    unfold DistinctCatalogues
    split
    next k r => exact absurd rfl (hother k r)
    next => trivial

/-- The second course is refused for its period: the first row has the
checkmark and the second has none. -/
theorem checkmarks_track_schedule_refused :
    ∃ flow vc vc' load,
      (signUp String.toLower).Reaches (fun flow e => FreshIds flow e ∧ DistinctCatalogues flow e)
        flow ∧
      .chooseClasses vc ∈ flow.screens ∧
      (ChooseClassesViewController.machine String.toLower).run vc
        ([0, 1].map .didSelectRowAt) = some vc' ∧
      vc'.tableView.map Cell.checkmark = [true, false] ∧
      courseLoadOf vc'.currentUserSchedule = some load ∧
      ∀ cell ∈ vc'.tableView, ∀ course, cell.course? = some course →
        (cell.checkmark = true ↔ ∃ crs ∈ load, crs.id = course.id) := by
  have hreach : (signUp String.toLower).Reaches
      (fun flow e => FreshIds flow e ∧ DistinctCatalogues flow e) (after toFullTable) := by
    refine Machine.run_reaches toFullTable ?_ (.init rfl) rfl
    have hall : toFullTable.all isAdmissible = true := by decide
    intro e he flow
    exact admissible_of_isAdmissible (List.all_eq_true.mp hall e he) flow
  obtain ⟨vc, hvc⟩ : ∃ vc, (after toFullTable).screens[3]? = some (.chooseClasses vc) := ⟨_, rfl⟩
  have hmem := List.mem_of_getElem? hvc
  obtain rfl := Screen.chooseClasses.inj (Option.some.inj hvc)
  obtain ⟨vc', courses, load, hrun, -, hload, -, hmarks⟩ :=
    checkmarks_track_schedule hreach hmem rfl (by intro h; cases h) (by intro h; cases h) [0, 1]
  refine ⟨_, _, vc', load, hreach, hmem, hrun, ?_, hload, hmarks⟩
  obtain rfl := Option.some.inj hrun
  rfl

end Flow

end Scholarli
