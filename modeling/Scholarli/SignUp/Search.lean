import Scholarli.SignUp.ChooseClasses
import Mathlib.Data.List.Basic

/-!
# Search in the class chooser

Every change of the search text runs one loop over the school's catalogue
with three criteria in order. `searchLoop_eq` says what it collects: the
courses that meet one of them, a filter of the catalogue. The results are
emptied before the loop, so nothing of an earlier search is left, and the
catalogue is not touched, so a later search sees the same one
(`searched_results`).

With `lowercased()` a map of the characters, `f`, lowering preserves that one
text is a piece of another. Two things follow. A course is found by every
piece of the three texts that its row shows, since these are the texts
searched. And a longer search text finds fewer courses: what contains the
longer one contains each piece of it.
-/

namespace Scholarli

/-- The texts that `cellForRowAt` puts into the row of a course. -/
def Course.rowTexts (course : Course) : List String :=
  [course.teacher.fullLastName, course.displayName, toString course.period]

/-- `t` is a piece of `s`. -/
def IsPiece (t s : String) : Prop := t.toList <:+: s.toList

theorem contains_eq_true_iff {s t : String} : contains s t = true ↔ t ≠ "" ∧ IsPiece t s := by
  unfold contains IsPiece
  rw [Bool.and_eq_true, decide_eq_true_eq, decide_eq_true_eq]

namespace ChooseClassesViewController

section
variable (lower : String → String)

/-- One of the three criteria is met. -/
def found (searchText : String) (course : Course) : Bool :=
  contains (lower course.displayName) (lower searchText) ||
  contains (lower course.teacher.fullLastName) (lower searchText) ||
  contains (lower (toString course.period)) (lower searchText)

/-- Whichever criterion is met first, the course is appended once. -/
theorem searchLoop_cons (searchText : String) (course : Course)
    (fullData searchResults : List Course) :
    searchLoop lower (lower searchText) (course :: fullData) searchResults =
      searchLoop lower (lower searchText) fullData
        (if found lower searchText course then searchResults ++ [course] else searchResults) := by
  rw [searchLoop]
  unfold found
  cases contains (lower course.displayName) (lower searchText)
  · cases contains (lower course.teacher.fullLastName) (lower searchText)
    · rfl
    · rfl
  · rfl

/-- The loop keeps what it has and appends what it finds, in order. -/
theorem searchLoop_eq (searchText : String) : ∀ fullData searchResults : List Course,
    searchLoop lower (lower searchText) fullData searchResults =
      searchResults ++ fullData.filter (found lower searchText)
  | [], searchResults => by
    rw [searchLoop, List.filter_nil, List.append_nil]
  | course :: fullData, searchResults => by
    rw [searchLoop_cons, searchLoop_eq searchText fullData]
    by_cases hfound : found lower searchText course = true
    · rw [if_pos hfound, List.filter_cons_of_pos hfound, List.append_assoc]
      rfl
    · rw [if_neg hfound, List.filter_cons_of_neg hfound]

/-- The screen after the search text has changed to each of the texts in turn. -/
def searched (vc : ChooseClassesViewController) (texts : List String) :
    ChooseClassesViewController :=
  texts.foldl (searchBarTextDidChange lower) vc

theorem searchBarTextDidChange_courseList (vc : ChooseClassesViewController)
    (searchText : String) :
    (vc.searchBarTextDidChange lower searchText).courseList = vc.courseList := by
  unfold searchBarTextDidChange
  split
  next => rfl
  next => rfl

theorem searched_courseList (texts : List String) : ∀ vc : ChooseClassesViewController,
    (vc.searched lower texts).courseList = vc.courseList := by
  induction texts with
  | nil => exact fun vc => rfl
  | cons text texts ih =>
    intro vc
    show ((vc.searchBarTextDidChange lower text).searched lower texts).courseList = _
    rw [ih, searchBarTextDidChange_courseList]

/-- The results are the ones of the last text, whatever came before. -/
theorem searched_results {vc : ChooseClassesViewController} {fullData : List Course}
    (hcat : vc.courseList = some fullData) (before : List String) (searchText : String) :
    (vc.searched lower (before ++ [searchText])).searchResults =
      some (fullData.filter (found lower searchText)) := by
  have hlast : vc.searched lower (before ++ [searchText]) =
      (vc.searched lower before).searchBarTextDidChange lower searchText := by
    unfold searched
    rw [List.foldl_append, List.foldl_cons, List.foldl_nil]
  have hcat' : (vc.searched lower before).courseList = some fullData := by
    rw [searched_courseList, hcat]
  rw [hlast]
  unfold searchBarTextDidChange
  rw [hcat']
  show some (searchLoop lower (lower searchText) fullData []) = _
  rw [searchLoop_eq, List.nil_append]

end

/-- **Inversion**, as far as the results go: they stay, are emptied, or are what
a text finds in the catalogue. -/
theorem step_results_cases {lower : String → String} {vc vc' : ChooseClassesViewController}
    {e : Event} (hs : vc.step lower e = some vc') :
    vc'.searchResults = vc.searchResults ∨ vc'.searchResults = some [] ∨
    ∃ fullData searchText, vc.courseList = some fullData ∧
      vc'.searchResults = some (fullData.filter (found lower searchText)) := by
  cases e with
  | searchBarTextDidChange searchText =>
    obtain rfl := Option.some.inj hs
    unfold searchBarTextDidChange
    split
    next => exact Or.inr (Or.inl rfl)
    next fullData hfull =>
      refine Or.inr (Or.inr ⟨fullData, searchText, hfull, ?_⟩)
      show some (searchLoop lower (lower searchText) fullData []) = _
      rw [searchLoop_eq, List.nil_append]
  | searchBarTextDidBeginEditing | searchBarTextDidEndEditing =>
    obtain rfl := Option.some.inj hs
    exact Or.inr (Or.inl rfl)
  | searchBarCancelButtonClicked =>
    obtain rfl := Option.some.inj hs
    unfold searchBarCancelButtonClicked
    split
    next => exact Or.inr (Or.inl rfl)
    next => exact Or.inl rfl
  | didSelectRowAt row => exact Or.inl (didSelectRowAt_cases hs).1.results
  | scheduleReturned identifier school crsList schedule =>
    obtain rfl := Option.some.inj hs
    left
    unfold scheduleReturned
    dsimp only
    split
    next => exact (writeSummary_sameRows _ _).results
    next => rfl
  | viewDidAppear | addClass | tapToContinue | facultyArrived _ _ | schoolArrived _ _ =>
    obtain rfl := Option.some.inj hs
    exact Or.inl rfl

/-! ## Lowering character by character -/

section
variable {f : Char → Char}

theorem isPiece_map {s t : String} (h : IsPiece t s) : IsPiece (t.map f) (s.map f) := by
  unfold IsPiece
  rw [String.toList_map, String.toList_map]
  exact List.IsInfix.map f h

theorem map_ne_empty {t : String} (h : t ≠ "") : t.map f ≠ "" := by
  intro hempty
  have hlist := congrArg String.toList hempty
  rw [String.toList_map, String.toList_empty, List.map_eq_nil_iff] at hlist
  exact h (String.toList_eq_nil_iff.mp hlist)

/-- A course is found by each piece of each text of its row. -/
theorem found_of_isPiece {piece text : String} {course : Course} (hne : piece ≠ "")
    (htext : text ∈ course.rowTexts) (hpiece : IsPiece piece text) :
    found (String.map f) piece course = true := by
  have hcontains : contains (text.map f) (piece.map f) = true :=
    contains_eq_true_iff.mpr ⟨map_ne_empty hne, isPiece_map hpiece⟩
  unfold found
  rw [Bool.or_eq_true, Bool.or_eq_true]
  simp only [Course.rowTexts, List.mem_cons, List.not_mem_nil, or_false] at htext
  rcases htext with rfl | rfl | rfl
  · exact Or.inl (Or.inr hcontains)
  · exact Or.inl (Or.inl hcontains)
  · exact Or.inr hcontains

theorem contains_of_isPiece {s q q' : String} (hne : q ≠ "") (hq : IsPiece q q')
    (h : contains s (q'.map f) = true) : contains s (q.map f) = true := by
  rw [contains_eq_true_iff] at h ⊢
  exact ⟨map_ne_empty hne, (isPiece_map hq).trans h.2⟩

/-- What is found by a text is found by each piece of it. -/
theorem found_mono {q q' : String} {course : Course} (hne : q ≠ "") (hq : IsPiece q q')
    (h : found (String.map f) q' course = true) : found (String.map f) q course = true := by
  unfold found at h ⊢
  rw [Bool.or_eq_true, Bool.or_eq_true] at h ⊢
  exact h.imp (Or.imp (contains_of_isPiece hne hq) (contains_of_isPiece hne hq))
    (contains_of_isPiece hne hq)

end

/-- **Search is exact, history-free and narrowing.** After any texts `before`,
a text that is not empty has exactly the courses of the catalogue that meet a
criterion as its results, in catalogue order and as often as they are there.
With lowering a map of the characters, a course is among the results of each
piece of its row's texts, and the results of a text are a sublist of those of
its pieces. -/
theorem search_exact_and_narrowing (vc : ChooseClassesViewController) (fullData : List Course)
    (hcat : vc.courseList = some fullData) :
    (∀ lower before q, q ≠ "" →
      (vc.searched lower (before ++ [q])).searchResults =
        some (fullData.filter (found lower q))) ∧
    (∀ (f : Char → Char) before q results, q ≠ "" →
      (vc.searched (String.map f) (before ++ [q])).searchResults = some results →
      (∀ course ∈ fullData, ∀ text ∈ course.rowTexts, IsPiece q text → course ∈ results) ∧
      (∀ before' q' results', IsPiece q q' →
        (vc.searched (String.map f) (before' ++ [q'])).searchResults = some results' →
        results'.Sublist results)) := by
  refine ⟨fun lower before q _ => searched_results lower hcat before q, ?_⟩
  intro f before q results hne hresults
  rw [searched_results _ hcat, Option.some.injEq] at hresults
  subst hresults
  refine ⟨?_, ?_⟩
  · intro course hcourse text htext hpiece
    exact List.mem_filter.mpr ⟨hcourse, found_of_isPiece hne htext hpiece⟩
  · intro before' q' results' hpiece hresults'
    rw [searched_results _ hcat, Option.some.injEq] at hresults'
    subst hresults'
    refine List.monotone_filter_right fullData ?_
    intro course hfound
    exact found_mono hne hpiece hfound

/-- The chooser of a school with one course. -/
def oneCourse : ChooseClassesViewController :=
  { userSchool := some { morristown with courseList := some [preCalculus] } }

/-- "alc" finds Pre-Calculus after a search for the teacher, and "al" finds it
too. -/
theorem search_exact_and_narrowing_alc :
    ∃ results results',
      (oneCourse.searched (String.map Char.toLower) ["kapp", "al"]).searchResults =
        some results ∧
      (oneCourse.searched (String.map Char.toLower) ["kapp", "alc"]).searchResults =
        some results' ∧
      preCalculus ∈ results' ∧ results'.Sublist results := by
  obtain ⟨hexact, hlower⟩ := search_exact_and_narrowing oneCourse [preCalculus] rfl
  have hal := hexact (String.map Char.toLower) ["kapp"] "al" (by decide)
  have halc := hexact (String.map Char.toLower) ["kapp"] "alc" (by decide)
  refine ⟨_, _, hal, halc, ?_, ?_⟩
  · have hpiece : IsPiece "alc" "Pre-Calculus" :=
      ⟨['P', 'r', 'e', '-', 'C'], ['u', 'l', 'u', 's'], rfl⟩
    exact (hlower Char.toLower ["kapp"] "alc" _ (by decide) halc).1 preCalculus
      List.mem_cons_self "Pre-Calculus" (by simp [Course.rowTexts, preCalculus]) hpiece
  · exact (hlower Char.toLower ["kapp"] "al" _ (by decide) hal).2 ["kapp"] "alc" _
      ⟨[], ['c'], rfl⟩ halc

end ChooseClassesViewController

end Scholarli
