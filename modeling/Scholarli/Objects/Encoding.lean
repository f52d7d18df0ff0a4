import Scholarli.Objects.Codec

/-!
# What the encoders store

`Codec.lean` reads the encoders' output back; this file looks at the output
itself, for all six record types at once. `Encodable` is the sum of them,
with the fields that hold another record (`fields`), the fields that hold a
list of records (`lists`) and, from both, the records nested in a record at
any depth (`Within`).

* `lists_data` — the array stored for a list field: one entry per element,
  behind the empty dictionary that the accumulation loop starts from. So a
  list is stored element by element exactly if it is nil
  (`encodesLists_iff`).
* `Student.data_storable_iff` — all encoders lower their values to plain data
  except `Agenda.data`, which stores its assignments as they are.
-/

namespace Scholarli

open Base (Value Dict)

/-! ## The encoders on a variable record -/

theorem Account.data_eq (a : Account) :
    a.data = (Dict.empty
      |>.set "id" (.string a.id)
      |>.set "firstName" (.string a.firstName)
      |>.set "lastName" (.string a.lastName)
      |>.set "username" (.string a.username)
      |>.set "phoneNumber" (.int a.phoneNumber)
      |>.set "notificationReady" (.bool a.notificationReady)
      |>.set "type" (.string a.type.rawValue)
      |>.set "karmaLevel" (.int a.karmaLevel)
      |>.set "schoolId" (.string a.schoolId)
      |>.setIfLet "blockedUsers" (a.blockedUsers.map fun users =>
        .array (Account.appendData [.dict Dict.empty] users))
      |>.setIfLet "pushToken" (a.pushToken.map .string)
      |>.setIfLet "blockedBy" (a.blockedBy.map fun users =>
        .array (Account.appendData [.dict Dict.empty] users))) := by
  obtain ⟨id, firstName, lastName, username, phoneNumber, schoolId, blockedUsers, pushToken,
    notificationReady, type, blockedBy, karmaLevel⟩ := a
  cases blockedUsers <;> cases blockedBy <;> rfl

theorem Schedule.data_eq (s : Schedule) :
    s.data = (Dict.empty
      |>.set "maxCourseCount" ((s.maxCourseCount.map .int).getD .null)
      |>.setIfLet "courseLoad" (s.courseLoad.map fun crsLd =>
        .array (Course.appendData [.dict Dict.empty] crsLd))) := by
  obtain ⟨maxCourseCount, courseLoad⟩ := s
  cases maxCourseCount <;> cases courseLoad <;> rfl

/-! ## The accumulation loops -/

theorem Account.appendData_eq : ∀ (users : List Account) (tinyArray : List (Value Boxed)),
    Account.appendData tinyArray users = tinyArray ++ users.map fun user => .dict user.data
  | [], tinyArray => by
    rw [Account.appendData, List.map_nil, List.append_nil]
  | user :: users, tinyArray => by
    rw [Account.appendData, Account.appendData_eq users, List.append_assoc, List.map_cons]
    rfl

theorem Course.appendData_eq : ∀ (crsLd : List Course) (tinyArray : List (Value Boxed)),
    Course.appendData tinyArray crsLd = tinyArray ++ crsLd.map fun crs => .dict crs.data
  | [], tinyArray => by
    rw [Course.appendData, List.map_nil, List.append_nil]
  | crs :: crsLd, tinyArray => by
    rw [Course.appendData, Course.appendData_eq crsLd, List.append_assoc, List.map_cons]
    rfl

theorem Faculty.appendData_eq : ∀ (staff : List Faculty) (tinyArray : List (Value Boxed)),
    Faculty.appendData tinyArray staff = tinyArray ++ staff.map fun person => .dict person.data
  | [], tinyArray => by
    rw [Faculty.appendData, List.map_nil, List.append_nil]
  | person :: staff, tinyArray => by
    rw [Faculty.appendData, Faculty.appendData_eq staff, List.append_assoc, List.map_cons]
    rfl

/-! ## Records and the records in them -/

/-- A record with an encoder. -/
inductive Encodable where
  | account (a : Account)
  | faculty (f : Faculty)
  | course (c : Course)
  | schedule (s : Schedule)
  | school (s : School)
  | student (s : Student)

namespace Encodable

def data : Encodable → Data
  | .account a => a.data
  | .faculty f => f.data
  | .course c => c.data
  | .schedule s => s.data
  | .school s => s.data
  | .student s => s.data

/-- The fields that hold another record, by the key they are stored under. -/
def fields : Encodable → List (String × Option Encodable)
  | .account _ => []
  | .faculty f => [("account", f.account.map .account), ("schedule", f.schedule.map .schedule)]
  | .course c => [("teacher", some (.faculty c.teacher))]
  | .schedule _ => []
  | .school _ => []
  | .student s => [("account", some (.account s.account)), ("schedule", s.schedule.map .schedule)]

/-- The fields that hold a list of records, by the key they are stored under. -/
def lists : Encodable → List (String × Option (List Encodable))
  | .account a => [("blockedUsers", a.blockedUsers.map (·.map .account)),
      ("blockedBy", a.blockedBy.map (·.map .account))]
  | .faculty _ => []
  | .course _ => []
  | .schedule s => [("courseLoad", s.courseLoad.map (·.map .course))]
  | .school s => [("courseList", s.courseList.map (·.map .course)),
      ("staff", s.staff.map (·.map .faculty))]
  | .student s => [("doNotDisturb", s.doNotDisturb.map (·.map .course))]

/-- `y` is `x`, or nested in it at some depth. -/
inductive Within (y : Encodable) : Encodable → Prop
  | refl : Within y y
  | field {x z : Encodable} {key : String} (hz : (key, some z) ∈ x.fields) (h : Within y z) :
      Within y x
  | element {x z : Encodable} {key : String} {items : List Encodable}
      (hitems : (key, some items) ∈ x.lists) (hz : z ∈ items) (h : Within y z) : Within y x

/-- A record in a field is stored as its own dictionary. -/
theorem fields_data {x z : Encodable} {key : String} (h : (key, some z) ∈ x.fields) :
    x.data key = some (.dict z.data) := by
  cases x with
  | account a => cases h
  | schedule s => cases h
  | school s => cases h
  | course c =>
    obtain ⟨rfl, rfl⟩ : key = "teacher" ∧ z = .faculty c.teacher := by
      simpa [fields] using h
    simp [data, Course.data_eq]
  | faculty f =>
    simp only [fields, List.mem_cons, Prod.mk.injEq, List.not_mem_nil, or_false] at h
    rcases h with ⟨rfl, hz⟩ | ⟨rfl, hz⟩
    · obtain ⟨a, ha, rfl⟩ := Option.map_eq_some_iff.mp hz.symm
      simp [data, Faculty.data_eq, ha]
    · obtain ⟨s, hs, rfl⟩ := Option.map_eq_some_iff.mp hz.symm
      simp [data, Faculty.data_eq, hs]
  | student s =>
    simp only [fields, List.mem_cons, Prod.mk.injEq, List.not_mem_nil, or_false] at h
    rcases h with ⟨rfl, hz⟩ | ⟨rfl, hz⟩
    · obtain rfl := Option.some.inj hz
      simp [data, Student.data]
    · obtain ⟨sched, hsched, rfl⟩ := Option.map_eq_some_iff.mp hz.symm
      simp [data, Student.data, hsched]

/-- **What is stored for a list**: an empty dictionary, and then the elements. -/
theorem lists_data {x : Encodable} {key : String} {items : List Encodable}
    (h : (key, some items) ∈ x.lists) :
    x.data key = some (.array (.dict Dict.empty :: items.map fun item => .dict item.data)) := by
  cases x with
  | faculty f => cases h
  | course c => cases h
  | account a =>
    simp only [lists, List.mem_cons, Prod.mk.injEq, List.not_mem_nil, or_false] at h
    rcases h with ⟨rfl, hitems⟩ | ⟨rfl, hitems⟩
    · obtain ⟨users, husers, rfl⟩ := Option.map_eq_some_iff.mp hitems.symm
      show a.data "blockedUsers" = _
      rw [Account.data_eq]
      simp [husers, Account.appendData_eq, data]
    · obtain ⟨users, husers, rfl⟩ := Option.map_eq_some_iff.mp hitems.symm
      show a.data "blockedBy" = _
      rw [Account.data_eq]
      simp [husers, Account.appendData_eq, data]
  | schedule s =>
    simp only [lists, List.mem_cons, Prod.mk.injEq, List.not_mem_nil, or_false] at h
    obtain ⟨rfl, hitems⟩ := h
    obtain ⟨crsLd, hload, rfl⟩ := Option.map_eq_some_iff.mp hitems.symm
    show s.data "courseLoad" = _
    rw [Schedule.data_eq]
    simp [hload, Course.appendData_eq, data]
  | school s =>
    simp only [lists, List.mem_cons, Prod.mk.injEq, List.not_mem_nil, or_false] at h
    rcases h with ⟨rfl, hitems⟩ | ⟨rfl, hitems⟩
    · obtain ⟨courses, hcourses, rfl⟩ := Option.map_eq_some_iff.mp hitems.symm
      simp [data, School.data, hcourses, Course.appendData_eq]
    · obtain ⟨staff, hstaff, rfl⟩ := Option.map_eq_some_iff.mp hitems.symm
      simp [data, School.data, hstaff, Faculty.appendData_eq]
  | student s =>
    simp only [lists, List.mem_cons, Prod.mk.injEq, List.not_mem_nil, or_false] at h
    obtain ⟨rfl, hitems⟩ := h
    obtain ⟨courses, hcourses, rfl⟩ := Option.map_eq_some_iff.mp hitems.symm
    simp [data, Student.data, hcourses, Course.appendData_eq]

/-- What is nested in a record is stored in its document. -/
theorem Within.occurs {x y : Encodable} (h : y.Within x) :
    Value.Occurs (.dict y.data) (.dict x.data) := by
  induction h with
  | refl => exact .here
  | field hz _ ih => exact ih.trans (.dict (fields_data hz) .here)
  | element hitems hz _ ih =>
    refine ih.trans (.dict (lists_data hitems) (.array ?_ .here))
    exact List.mem_cons_of_mem _ (List.mem_map.mpr ⟨_, hz, rfl⟩)

/-- The record, and every record nested in it, has each list that is not nil
stored element by element. -/
def EncodesLists (x : Encodable) : Prop :=
  ∀ y : Encodable, y.Within x → ∀ key items, (key, some items) ∈ y.lists →
    y.data key = some (.array (items.map fun item => .dict item.data))

/-- **Lists are stored element by element exactly where there are none**: the
array of a list that is not nil has one entry more. What is nested in a
record is stored in its document all the same. -/
theorem encodesLists_iff (x : Encodable) :
    (∀ y : Encodable, y.Within x → Value.Occurs (.dict y.data) (.dict x.data)) ∧
    (x.EncodesLists ↔
      ∀ y : Encodable, y.Within x → ∀ key list, (key, list) ∈ y.lists → list = none) := by
  refine ⟨fun y hy => hy.occurs, ?_, ?_⟩
  · intro h y hy key list hlist
    cases list with
    | none => rfl
    | some items =>
      -- the two arrays differ in length
      have hstored := h y hy key items hlist
      rw [lists_data hlist, Option.some.injEq, Value.array.injEq] at hstored
      have hlength := congrArg List.length hstored
      rw [List.length_cons, List.length_map] at hlength
      omega
  · intro h y hy key items hitems
    cases h y hy key (some items) hitems

/-- An empty course load is stored as an array with one entry, and that entry
does not decode. -/
theorem encodesLists_fails :
    ¬EncodesLists (.schedule { maxCourseCount := some 8, courseLoad := some [] }) ∧
    Schedule.data { maxCourseCount := some 8, courseLoad := some [] } "courseLoad" =
      some (.array [.dict Dict.empty]) ∧
    Course.ofData Dict.empty = .error (invalidKeys "displayName") := by
  have hlist : ("courseLoad", some []) ∈
      lists (.schedule { maxCourseCount := some 8, courseLoad := some [] }) :=
    List.mem_cons_self
  refine ⟨?_, lists_data hlist, rfl⟩
  intro h
  have hstored := h _ .refl _ _ hlist
  rw [lists_data hlist] at hstored
  cases hstored

end Encodable

/-! ## What can be stored -/

/-- An agenda can be stored only if there is nothing in it. -/
theorem Agenda.data_storable_iff (a : Agenda) : a.data.Storable ↔ a.assignments = [] := by
  constructor
  · intro h
    have hentry : a.data "assignments" =
        some (.array (a.assignments.map fun x => .boxed (.assignment x))) := by
      simp [Agenda.data]
    cases hassignments : a.assignments with
    | nil => rfl
    | cons x xs =>
      rw [hassignments] at hentry
      cases h _ _ hentry with
      | array hall => cases hall _ List.mem_cons_self
  · intro h
    unfold Agenda.data
    rw [h]
    exact .set .empty _ (.array (by intro x hx; cases hx))

theorem Student.data_storable_iff (s : Student) :
    s.data.Storable ↔ s.agenda.assignments = [] := by
  rw [← Agenda.data_storable_iff]
  constructor
  · intro h
    have hentry : s.data "agenda" = some (.dict s.agenda.data) := by
      simp [Student.data]
    cases h _ _ hentry with
    | dict hagenda => exact hagenda
  · intro h
    exact .setIfLet (.setIfLet (.set (.set (.set .empty _ (.dict s.account.data_storable)) _
      (.dict h)) _ (.int _)) _ (storable_map fun sched _ => .dict sched.data_storable)) _
      (storable_map fun _ _ => .array (Course.appendData_storable _ _ storable_start))

/-- **What the encoders hand to the database can be stored**, except for a
student whose agenda has an assignment. -/
theorem encoders_storable_iff (x : Encodable) :
    x.data.Storable ↔ ∀ s, x = .student s → s.agenda.assignments = [] := by
  cases x with
  | account a => exact iff_of_true a.data_storable (by intro s hs; cases hs)
  | faculty f => exact iff_of_true f.data_storable (by intro s hs; cases hs)
  | course c => exact iff_of_true c.data_storable (by intro s hs; cases hs)
  | schedule s => exact iff_of_true s.data_storable (by intro s hs; cases hs)
  | school s => exact iff_of_true s.data_storable (by intro s hs; cases hs)
  | student s =>
    rw [show (Encodable.student s).data = s.data from rfl, s.data_storable_iff]
    constructor
    · intro h s' hs'
      obtain rfl := Encodable.student.inj hs'
      exact h
    · intro h
      exact h s rfl

/-- A student with one homework assignment. -/
def devon : Student where
  account := { id := "a1", firstName := "Devon", lastName := "Miles", username := "devon",
               phoneNumber := 9735550101, schoolId := "mhs", blockedUsers := none,
               pushToken := none, notificationReady := false, type := .student,
               blockedBy := none, karmaLevel := 0 }
  id := "s1"
  schedule := none
  doNotDisturb := none
  agenda := ⟨[{ id := "h1", title := "Limits", course := none, type := .homework,
                dueDate := none, description := "", complete := false }]⟩
  accountPrivacy := .classMates

theorem encoders_storable_fails : ¬devon.data.Storable := by
  rw [Student.data_storable_iff]
  intro h
  cases h

end Scholarli
