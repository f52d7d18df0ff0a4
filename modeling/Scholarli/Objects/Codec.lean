import Scholarli.Objects.Objects

/-!
# What the decoders make of the encoders' output

The encoders and the throwing initialisers of `Objects.swift` are written
separately, key by key. This file says what the composition computes.

* `Faculty.ofData_data` — a faculty member always decodes, but to a copy
  without account and schedule: the encoder lowers both to dictionaries,
  the decoder casts them to the structs. `Course.ofData_data` inherits this
  through the teacher.
* `Faculty.ofData_bare` — whatever is decoded from a *stored* document has
  neither account nor schedule, so decoded staff always survives a second
  round trip.
* `School.ofData_data` — no school decodes: the type is written as a number
  and read as a string.
* `School.data_storable` and its siblings — these encoders only emit plain
  data, by induction over the nesting; `School.document` is the document
  with that proof.
-/

namespace Scholarli

open Base (Value Dict Document)

/-! ## The encoders on a variable record -/

theorem Faculty.data_eq (f : Faculty) :
    f.data = (Dict.empty
      |>.set "id" (.string f.id)
      |>.set "lastName" (.string f.lastName)
      |>.set "title" (.string f.title.rawValue)
      |>.setIfLet "account" (f.account.map fun acct => .dict acct.data)
      |>.setIfLet "firstName" (f.firstName.map .string)
      |>.setIfLet "schedule" (f.schedule.map fun sched => .dict sched.data)) := by
  obtain ⟨account, id, lastName, firstName, title, schedule⟩ := f
  cases schedule <;> rfl

theorem Course.data_eq (c : Course) :
    c.data = (Dict.empty
      |>.set "displayName" (.string c.displayName)
      |>.set "id" (.string c.id)
      |>.set "teacher" (.dict c.teacher.data)
      |>.set "schoolId" (.string c.schoolId)
      |>.set "period" (.int c.period)
      |>.setIfLet "classroom" (c.classroom.map .string)) := by
  cases c
  rfl

/-! ## Decoding what was encoded -/

/-- The copy of a faculty member that survives the encoding. -/
def Faculty.bare (f : Faculty) : Faculty := { f with account := none, schedule := none }

/-- A faculty member without account and schedule. -/
def Faculty.IsBare (f : Faculty) : Prop := f.account = none ∧ f.schedule = none

theorem Faculty.bare_eq_self_iff (f : Faculty) : f.bare = f ↔ f.IsBare := by
  obtain ⟨account, id, lastName, firstName, title, schedule⟩ := f
  simp only [bare, IsBare, Faculty.mk.injEq, true_and]
  exact ⟨fun h => ⟨h.1.symm, h.2.symm⟩, fun h => ⟨h.1.symm, h.2.symm⟩⟩

/-- Casting what was written under an `if let` key to the wrong type gives
nil, whether the key is absent or of another type. -/
private theorem castOptional_dict_join {α : Type} {d : Data} {k : String}
    {v : Option Data} (h : d k = v.map .dict) (f : Boxed → Option α) :
    (d.castOptional k (Value.boxed? f)).join = none := by
  unfold Dict.castOptional
  rw [h]
  cases v <;> rfl

/-- Reading an optional string back from under an `if let` key. -/
private theorem castOptional_string {d : Data} {k : String} {v : Option String}
    (h : d k = v.map .string) : d.castOptional k Value.string? = some v := by
  unfold Dict.castOptional
  rw [h]
  cases v <;> rfl

/-- Every faculty member decodes, to its bare copy. -/
theorem Faculty.ofData_data (f : Faculty) : Faculty.ofData f.data = .ok f.bare := by
  -- account and schedule are written as dictionaries and read as Swift values
  have hacct : (f.data.castOptional "account" (Value.boxed? Boxed.account?)).join = none :=
    castOptional_dict_join (v := f.account.map Account.data)
      (by simp [Faculty.data_eq, Function.comp_def]) _
  have hsched : (f.data.castOptional "schedule" (Value.boxed? Boxed.schedule?)).join = none :=
    castOptional_dict_join (v := f.schedule.map Schedule.data)
      (by simp [Faculty.data_eq, Function.comp_def]) _
  have hfirst : f.data.castOptional "firstName" Value.string? = some f.firstName :=
    castOptional_string (by simp [Faculty.data_eq])
  have hid : f.data.cast "id" Value.string? = some f.id := by
    simp [Dict.cast, Faculty.data_eq, Value.string?]
  have hlast : f.data.cast "lastName" Value.string? = some f.lastName := by
    simp [Dict.cast, Faculty.data_eq, Value.string?]
  have htitle : f.data.cast "title" Value.string? = some f.title.rawValue := by
    simp [Dict.cast, Faculty.data_eq, Value.string?]
  unfold Faculty.ofData
  rw [hacct, hsched, hfirst, hid, hlast, htitle]
  simp only [guardLet, bind, Except.bind, FacTitle.ofRawValue_rawValue]
  rfl

/-- Every course decodes, to the same course with the bare copy of its teacher. -/
theorem Course.ofData_data (c : Course) :
    Course.ofData c.data = .ok { c with teacher := c.teacher.bare } := by
  have hname : c.data.cast "displayName" Value.string? = some c.displayName := by
    simp [Dict.cast, Course.data_eq, Value.string?]
  have hteacher : c.data.cast "teacher" Value.dict? = some c.teacher.data := by
    simp [Dict.cast, Course.data_eq, Value.dict?]
  have hschool : c.data.cast "schoolId" Value.string? = some c.schoolId := by
    simp [Dict.cast, Course.data_eq, Value.string?]
  have hperiod : c.data.cast "period" Value.int? = some c.period := by
    simp [Dict.cast, Course.data_eq, Value.int?]
  have hroom : c.data.castOptional "classroom" Value.string? = some c.classroom :=
    castOptional_string (by simp [Course.data_eq])
  have hid : c.data.cast "id" Value.string? = some c.id := by
    simp [Dict.cast, Course.data_eq, Value.string?]
  unfold Course.ofData
  rw [hname, hteacher, hschool, hperiod, hroom, hid]
  simp only [guardLet, bind, Except.bind, Faculty.ofData_data]
  rfl

theorem Faculty.ofData_data_eq_self_iff (f : Faculty) :
    Faculty.ofData f.data = .ok f ↔ f.IsBare := by
  rw [Faculty.ofData_data, Except.ok.injEq, Faculty.bare_eq_self_iff]

theorem Course.ofData_data_eq_self_iff (c : Course) :
    Course.ofData c.data = .ok c ↔ c.teacher.IsBare := by
  rw [Course.ofData_data, Except.ok.injEq, ← Faculty.bare_eq_self_iff]
  obtain ⟨displayName, id, teacher, schoolId, period, classroom⟩ := c
  simp only [Course.mk.injEq, true_and, and_true]

/-- **The codec law, exactly.** A faculty member is read back as it was
written if and only if it has neither account nor schedule, and a course if
and only if that is so of its teacher. -/
theorem faculty_course_decode_encode_iff (f : Faculty) (c : Course) :
    (Faculty.ofData f.data = .ok f ↔ f.account = none ∧ f.schedule = none) ∧
    (Course.ofData c.data = .ok c ↔ c.teacher.account = none ∧ c.teacher.schedule = none) :=
  ⟨Faculty.ofData_data_eq_self_iff f, Course.ofData_data_eq_self_iff c⟩

/-- A teacher with an (empty) schedule of at most eight courses. -/
def kappel : Faculty where
  account := none
  id := "kappel"
  lastName := "Kappel"
  firstName := some "Devon"
  title := .Mr
  schedule := some { maxCourseCount := some 8, courseLoad := some [] }

/-- The schedule of a faculty member does not come back, nor does that of a
course's teacher. -/
theorem faculty_course_decode_encode_fails :
    Faculty.ofData kappel.data ≠ .ok kappel ∧
    ∃ c : Course, c.teacher = kappel ∧ Course.ofData c.data ≠ .ok c := by
  have hbare : ¬kappel.IsBare := fun h => nomatch h.2
  refine ⟨fun h => hbare ((Faculty.ofData_data_eq_self_iff _).mp h),
    { displayName := "Pre-Calculus", id := "c1", teacher := kappel, schoolId := "mhs",
      period := 1, classroom := none }, rfl, fun h => ?_⟩
  exact hbare ((Course.ofData_data_eq_self_iff _).mp h)

/-- Decoding a stored document gives a bare faculty member. -/
theorem Faculty.ofData_bare {data : Data} (hs : data.Storable) {f : Faculty}
    (h : Faculty.ofData data = .ok f) : f.IsBare := by
  have hjoin : ∀ {α : Type} (k : String) (g : Boxed → Option α),
      (data.castOptional k (Value.boxed? g)).join = none := by
    intro α k g
    rcases hs.castOptional_boxed k g with h | h <;> rw [h] <;> rfl
  unfold Faculty.ofData at h
  rw [hjoin, hjoin] at h
  obtain ⟨id, -, h⟩ := guardLet_bind_ok h
  obtain ⟨lastName, -, h⟩ := guardLet_bind_ok h
  obtain ⟨firstName, -, h⟩ := guardLet_bind_ok h
  obtain ⟨titleStr, -, h⟩ := guardLet_bind_ok h
  obtain ⟨title, -, h⟩ := guardLet_bind_ok h
  obtain rfl := Except.ok.inj h
  exact ⟨rfl, rfl⟩

/-- A computation that starts by reading a key fails there, or afterwards. -/
private theorem guardLet_bind_error {α β : Type} {x : Option α} {key : String}
    {f : α → Except Thrown β} {e : Thrown} (h : (guardLet x (invalidKeys key) >>= f) = .error e) :
    (∃ e', e = .firebaseInterpretationError e') ∨ ∃ a, f a = .error e := by
  cases x with
  | none => exact Or.inl ⟨_, (Except.error.inj h).symm⟩
  | some a => exact Or.inr ⟨a, h⟩

/-- Whatever goes wrong in decoding a course, a `firebaseInterpretationError`
comes out. -/
theorem Course.ofData_error {data : Data} {e : Thrown} (h : Course.ofData data = .error e) :
    ∃ e', e = .firebaseInterpretationError e' := by
  unfold Course.ofData at h
  rcases guardLet_bind_error h with h | ⟨displayName, h⟩
  · exact h
  rcases guardLet_bind_error h with h | ⟨teacherData, h⟩
  · exact h
  rcases guardLet_bind_error h with h | ⟨schoolId, h⟩
  · exact h
  rcases guardLet_bind_error h with h | ⟨period, h⟩
  · exact h
  rcases guardLet_bind_error h with h | ⟨classroom, h⟩
  · exact h
  rcases guardLet_bind_error h with h | ⟨id, h⟩
  · exact h
  -- the teacher is read last, and an error of its own is replaced
  split at h
  next => exact nomatch h
  next => exact ⟨_, (Except.error.inj h).symm⟩

/-- No school decodes: the type is a number where a string is read. -/
theorem School.ofData_data (s : School) :
    School.ofData s.data = .error (invalidKeys "type") := by
  have hname : s.data.cast "displayName" Value.string? = some s.displayName := by
    simp [Dict.cast, School.data, Value.string?]
  have hid : s.data.cast "id" Value.string? = some s.id := by
    simp [Dict.cast, School.data, Value.string?]
  have htype : s.data.cast "type" Value.string? = none := by
    simp [Dict.cast, School.data, Value.string?]
  unfold School.ofData
  rw [hname, hid, htype]
  rfl

/-- A school document has no catalogue in it: the courses are queried apart. -/
theorem School.courseList_of_ofData {data : Data} {s : School} (h : School.ofData data = .ok s) :
    s.courseList = none := by
  unfold School.ofData at h
  obtain ⟨displayName, -, h⟩ := guardLet_bind_ok h
  obtain ⟨id, -, h⟩ := guardLet_bind_ok h
  obtain ⟨typeStr, -, h⟩ := guardLet_bind_ok h
  obtain ⟨type, -, h⟩ := guardLet_bind_ok h
  obtain ⟨streetAddress, -, h⟩ := guardLet_bind_ok h
  obtain ⟨city, -, h⟩ := guardLet_bind_ok h
  obtain ⟨zipCode, -, h⟩ := guardLet_bind_ok h
  obtain ⟨state, -, h⟩ := guardLet_bind_ok h
  obtain ⟨maxStudentCourseLoad, -, h⟩ := guardLet_bind_ok h
  obtain rfl := Except.ok.inj h
  rfl

/-! ## The encoders emit plain data -/

theorem storable_map {α : Type} {x : Option α} {f : α → Value Boxed}
    (h : ∀ a, x = some a → (f a).Storable) :
    ∀ v, x.map f = some v → v.Storable := by
  intro v hv
  obtain ⟨a, ha, rfl⟩ := Option.map_eq_some_iff.mp hv
  exact h a ha

theorem storable_concat {xs : List (Value Boxed)} {d : Data}
    (hxs : ∀ x ∈ xs, x.Storable) (hd : d.Storable) :
    ∀ x ∈ xs ++ [.dict d], x.Storable := by
  intro x hx
  rcases List.mem_append.mp hx with hx | hx
  · exact hxs x hx
  · obtain rfl := List.mem_singleton.mp hx
    exact .dict hd

/-- The accumulator every list encoder starts from. -/
theorem storable_start :
    ∀ x ∈ ([.dict Dict.empty] : List (Value Boxed)), x.Storable := by
  intro x hx
  obtain rfl := List.mem_singleton.mp hx
  exact .dict Dict.Storable.empty

mutual

theorem Account.data_storable : ∀ a : Account, a.data.Storable
  | ⟨id, firstName, lastName, username, phoneNumber, schoolId, blockedUsers,
      pushToken, notificationReady, type, blockedBy, karmaLevel⟩ => by
    unfold Account.data
    refine .setIfLet (.setIfLet (.setIfLet (.set (.set (.set (.set (.set (.set (.set
      (.set (.set .empty _ (.string _)) _ (.string _)) _ (.string _)) _ (.string _)) _
      (.int _)) _ (.bool _)) _ (.string _)) _ (.int _)) _ (.string _)) _ ?_) _
      (storable_map fun _ _ => .string _)) _ ?_
    · intro v hv
      match blockedUsers, hv with
      | some users, hv =>
        obtain rfl := Option.some.inj hv
        exact .array (Account.appendData_storable users _ storable_start)
    · intro v hv
      match blockedBy, hv with
      | some users, hv =>
        obtain rfl := Option.some.inj hv
        exact .array (Account.appendData_storable users _ storable_start)

theorem Account.appendData_storable : ∀ (users : List Account)
    (tinyArray : List (Value Boxed)), (∀ x ∈ tinyArray, x.Storable) →
    ∀ x ∈ Account.appendData tinyArray users, x.Storable
  | [], _, h => h
  | user :: users, _, h =>
    Account.appendData_storable users _ (storable_concat h user.data_storable)

end

mutual

theorem Faculty.data_storable : ∀ f : Faculty, f.data.Storable
  | ⟨account, id, lastName, firstName, title, schedule⟩ => by
    unfold Faculty.data
    refine .setIfLet (.setIfLet (.setIfLet (.set (.set (.set .empty _ (.string _)) _
      (.string _)) _ (.string _)) _ (storable_map fun acct _ => .dict acct.data_storable)) _
      (storable_map fun _ _ => .string _)) _ ?_
    intro v hv
    match schedule, hv with
    | some sched, hv =>
      obtain rfl := Option.some.inj hv
      exact .dict (Schedule.data_storable sched)

theorem Course.data_storable : ∀ c : Course, c.data.Storable
  | ⟨displayName, id, teacher, schoolId, period, classroom⟩ => by
    unfold Course.data
    exact .setIfLet (.set (.set (.set (.set (.set .empty _ (.string _)) _ (.string _)) _
      (.dict (Faculty.data_storable teacher))) _ (.string _)) _ (.int _)) _
      (storable_map fun _ _ => .string _)

theorem Schedule.data_storable : ∀ s : Schedule, s.data.Storable
  | ⟨maxCourseCount, courseLoad⟩ => by
    unfold Schedule.data
    refine .setIfLet (.set .empty _ ?_) _ ?_
    · cases maxCourseCount with
      | none => exact .null
      | some n => exact .int n
    · intro v hv
      match courseLoad, hv with
      | some crsLd, hv =>
        obtain rfl := Option.some.inj hv
        exact .array (Course.appendData_storable crsLd _ storable_start)

theorem Course.appendData_storable : ∀ (crsLd : List Course)
    (tinyArray : List (Value Boxed)), (∀ x ∈ tinyArray, x.Storable) →
    ∀ x ∈ Course.appendData tinyArray crsLd, x.Storable
  | [], _, h => h
  | crs :: crsLd, _, h =>
    Course.appendData_storable crsLd _ (storable_concat h (Course.data_storable crs))

end

theorem Faculty.appendData_storable : ∀ (staff : List Faculty)
    (tinyArray : List (Value Boxed)), (∀ x ∈ tinyArray, x.Storable) →
    ∀ x ∈ Faculty.appendData tinyArray staff, x.Storable
  | [], _, h => h
  | person :: staff, _, h =>
    Faculty.appendData_storable staff _ (storable_concat h person.data_storable)

theorem School.data_storable (s : School) : s.data.Storable :=
  .setIfLet (.setIfLet (.setIfLet (.set (.set (.set (.set (.set (.set (.set .empty _
    (.string _)) _ (.string _)) _ (.int _)) _ (.string _)) _ (.string _)) _ (.string _)) _
    (.string _)) _
    (storable_map fun _ _ => .array (Course.appendData_storable _ _ storable_start))) _
    (storable_map fun _ _ => .array (Faculty.appendData_storable _ _ storable_start))) _
    (storable_map fun _ _ => .int _)

/-- The document that `School(ref:…)` writes. -/
def School.document (s : School) : Document Boxed := ⟨s.data, s.data_storable⟩

/-- The document that `Faculty(ref:…)` writes. -/
def Faculty.document (f : Faculty) : Document Boxed := ⟨f.data, f.data_storable⟩

/-- The document that `Course(ref:…)` writes. -/
def Course.document (c : Course) : Document Boxed := ⟨c.data, c.data_storable⟩

end Scholarli
