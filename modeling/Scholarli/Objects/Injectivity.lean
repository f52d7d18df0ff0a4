import Scholarli.Objects.Encoding
import Mathlib.Data.List.Basic

/-!
# The encoders lose nothing

A dictionary determines the record it was written from. The keys of a record
are distinct, so equal dictionaries agree field by field (`data_fields`): a
plain field is there as it is, an enumeration by its raw value, an optional
field is absent or present, and a list is an array whose first entry is the
same for all. What remains is to get from equal encodings of nested records
to equal records, by induction over the nesting: one mutual recursion for
accounts, one for faculty, courses and schedules.
-/

namespace Scholarli

open Base (Value Dict)

theorem AccountType.rawValue_injective : Function.Injective AccountType.rawValue := by
  intro s t h
  cases s <;> cases t <;> simp_all [AccountType.rawValue]

theorem FacTitle.rawValue_injective : Function.Injective FacTitle.rawValue := by
  intro s t h
  have hread := FacTitle.ofRawValue_rawValue s
  rw [h, FacTitle.ofRawValue_rawValue] at hread
  exact (Option.some.inj hread).symm

theorem SchoolType.rawValue_injective : Function.Injective SchoolType.rawValue := by
  intro s t h
  cases s <;> cases t <;> simp_all [SchoolType.rawValue]

/-! ## Field by field -/

/-- The array stored for an optional list determines whether there is a list
and what its elements are stored as; the entry in front is always the same. -/
theorem storedList_inj {α : Type} {data : α → Data}
    {loop : List (Value Boxed) → List α → List (Value Boxed)}
    (hloop : ∀ xs start, loop start xs = start ++ xs.map fun x => .dict (data x))
    {x y : Option (List α)}
    (h : (x.map fun xs => Value.array (loop [.dict Dict.empty] xs)) =
      y.map fun xs => Value.array (loop [.dict Dict.empty] xs)) :
    (x.map fun xs => xs.map data) = y.map fun xs => xs.map data := by
  cases x with
  | none =>
    cases y with
    | none => rfl
    | some ys => cases h
  | some xs =>
    cases y with
    | none => cases h
    | some ys =>
      have harray := Value.array.inj (Option.some.inj h)
      rw [hloop, hloop, List.append_cancel_left_eq] at harray
      refine congrArg some ((List.map_inj_right fun _ _ => Value.dict.inj).mp ?_)
      rw [List.map_map, List.map_map]
      exact harray

theorem Account.data_fields {a b : Account} (h : a.data = b.data) :
    a.id = b.id ∧ a.firstName = b.firstName ∧ a.lastName = b.lastName ∧
    a.username = b.username ∧ a.phoneNumber = b.phoneNumber ∧ a.schoolId = b.schoolId ∧
    a.pushToken = b.pushToken ∧ a.notificationReady = b.notificationReady ∧ a.type = b.type ∧
    a.karmaLevel = b.karmaLevel ∧
    (a.blockedUsers.map fun users => users.map (·.data)) =
      (b.blockedUsers.map fun users => users.map (·.data)) ∧
    (a.blockedBy.map fun users => users.map (·.data)) =
      (b.blockedBy.map fun users => users.map (·.data)) := by
  have hkey : ∀ key, a.data key = b.data key := congrFun h
  rw [Account.data_eq a, Account.data_eq b] at hkey
  refine ⟨?_, ?_, ?_, ?_, ?_, ?_, ?_, ?_, ?_, ?_, ?_, ?_⟩
  · simpa using hkey "id"
  · simpa using hkey "firstName"
  · simpa using hkey "lastName"
  · simpa using hkey "username"
  · simpa using hkey "phoneNumber"
  · simpa using hkey "schoolId"
  · exact Option.map_injective (fun _ _ => Value.string.inj) (by simpa using hkey "pushToken")
  · simpa using hkey "notificationReady"
  · exact AccountType.rawValue_injective (by simpa using hkey "type")
  · simpa using hkey "karmaLevel"
  · exact storedList_inj Account.appendData_eq (by simpa using hkey "blockedUsers")
  · exact storedList_inj Account.appendData_eq (by simpa using hkey "blockedBy")

theorem Faculty.data_fields {f g : Faculty} (h : f.data = g.data) :
    f.id = g.id ∧ f.lastName = g.lastName ∧ f.firstName = g.firstName ∧ f.title = g.title ∧
    f.account.map (·.data) = g.account.map (·.data) ∧
    f.schedule.map (·.data) = g.schedule.map (·.data) := by
  have hkey : ∀ key, f.data key = g.data key := congrFun h
  have hdict : Function.Injective (Option.map (Value.dict (β := Boxed))) :=
    Option.map_injective fun _ _ => Value.dict.inj
  rw [Faculty.data_eq f, Faculty.data_eq g] at hkey
  refine ⟨?_, ?_, ?_, ?_, ?_, ?_⟩
  · simpa using hkey "id"
  · simpa using hkey "lastName"
  · exact Option.map_injective (fun _ _ => Value.string.inj) (by simpa using hkey "firstName")
  · exact FacTitle.rawValue_injective (by simpa using hkey "title")
  · refine hdict ?_
    rw [Option.map_map, Option.map_map, Function.comp_def]
    simpa using hkey "account"
  · refine hdict ?_
    rw [Option.map_map, Option.map_map, Function.comp_def]
    simpa using hkey "schedule"

theorem Course.data_fields {c d : Course} (h : c.data = d.data) :
    c.displayName = d.displayName ∧ c.id = d.id ∧ c.teacher.data = d.teacher.data ∧
    c.schoolId = d.schoolId ∧ c.period = d.period ∧ c.classroom = d.classroom := by
  have hkey : ∀ key, c.data key = d.data key := congrFun h
  rw [Course.data_eq c, Course.data_eq d] at hkey
  refine ⟨?_, ?_, ?_, ?_, ?_, ?_⟩
  · simpa using hkey "displayName"
  · simpa using hkey "id"
  · simpa using hkey "teacher"
  · simpa using hkey "schoolId"
  · simpa using hkey "period"
  · exact Option.map_injective (fun _ _ => Value.string.inj) (by simpa using hkey "classroom")

/-- The number of courses is a number or null, never absent. -/
theorem Schedule.data_fields {s t : Schedule} (h : s.data = t.data) :
    s.maxCourseCount = t.maxCourseCount ∧
    (s.courseLoad.map fun crsLd => crsLd.map (·.data)) =
      t.courseLoad.map fun crsLd => crsLd.map (·.data) := by
  have hkey : ∀ key, s.data key = t.data key := congrFun h
  rw [Schedule.data_eq s, Schedule.data_eq t] at hkey
  refine ⟨?_, ?_⟩
  · have hcount : (s.maxCourseCount.map Value.int).getD (.null : Value Boxed) =
        (t.maxCourseCount.map Value.int).getD .null := by
      simpa using hkey "maxCourseCount"
    cases hs : s.maxCourseCount <;> cases ht : t.maxCourseCount <;> simp_all
  · exact storedList_inj Course.appendData_eq (by simpa using hkey "courseLoad")

theorem School.data_fields {s t : School} (h : s.data = t.data) :
    s.displayName = t.displayName ∧ s.id = t.id ∧ s.type = t.type ∧
    s.streetAddress = t.streetAddress ∧ s.city = t.city ∧ s.zipCode = t.zipCode ∧
    s.state = t.state ∧ s.maxStudentCourseLoad = t.maxStudentCourseLoad ∧
    (s.courseList.map fun courses => courses.map (·.data)) =
      (t.courseList.map fun courses => courses.map (·.data)) ∧
    (s.staff.map fun staff => staff.map (·.data)) =
      t.staff.map fun staff => staff.map (·.data) := by
  have hkey : ∀ key, s.data key = t.data key := congrFun h
  unfold School.data at hkey
  refine ⟨?_, ?_, ?_, ?_, ?_, ?_, ?_, ?_, ?_, ?_⟩
  · simpa using hkey "displayName"
  · simpa using hkey "id"
  · exact SchoolType.rawValue_injective (by simpa using hkey "type")
  · simpa using hkey "streetAddress"
  · simpa using hkey "city"
  · simpa using hkey "zipCode"
  · simpa using hkey "state"
  · exact Option.map_injective (fun _ _ => Value.int.inj)
      (by simpa using hkey "maxStudentCourseLoad")
  · exact storedList_inj Course.appendData_eq (by simpa using hkey "courseList")
  · exact storedList_inj Faculty.appendData_eq (by simpa using hkey "staff")

/-! ## By induction over the nesting -/

mutual

theorem Account.data_injective : ∀ {a b : Account}, a.data = b.data → a = b
  | ⟨id, firstName, lastName, username, phoneNumber, schoolId, blockedUsers, pushToken,
      notificationReady, type, blockedBy, karmaLevel⟩, b, h => by
    obtain ⟨hid, hfirst, hlast, husername, hphone, hschool, hpush, hready, htype, hkarma,
      hmapUsers, hmapBy⟩ := Account.data_fields h
    obtain ⟨_, _, _, _, _, _, blockedUsers', _, _, _, blockedBy', _⟩ := b
    have husers : blockedUsers = blockedUsers' := by
      match blockedUsers, blockedUsers', hmapUsers with
      | none, none, _ => rfl
      | some users, some users', hmapUsers =>
        exact congrArg some (Account.map_data_injective (Option.some.inj hmapUsers))
    have hby : blockedBy = blockedBy' := by
      match blockedBy, blockedBy', hmapBy with
      | none, none, _ => rfl
      | some users, some users', hmapBy =>
        exact congrArg some (Account.map_data_injective (Option.some.inj hmapBy))
    simp only at hid hfirst hlast husername hphone hschool hpush hready htype hkarma
    subst hid hfirst hlast husername hphone hschool hpush hready htype hkarma husers hby
    rfl

theorem Account.map_data_injective : ∀ {xs ys : List Account},
    xs.map (·.data) = ys.map (·.data) → xs = ys
  | [], ys, h => (List.map_eq_nil_iff.mp h.symm).symm
  | x :: xs, ys, h => by
    match ys, h with
    | y :: ys, h =>
      obtain ⟨hhead, htail⟩ := List.cons.inj h
      rw [Account.data_injective hhead, Account.map_data_injective htail]

end

mutual

theorem Faculty.data_injective : ∀ {f g : Faculty}, f.data = g.data → f = g
  | ⟨account, id, lastName, firstName, title, schedule⟩, g, h => by
    obtain ⟨hid, hlast, hfirst, htitle, hmapAccount, hmapSchedule⟩ := Faculty.data_fields h
    have haccount := Option.map_injective (fun _ _ => Account.data_injective) hmapAccount
    obtain ⟨_, _, _, _, _, schedule'⟩ := g
    have hschedule : schedule = schedule' := by
      match schedule, schedule', hmapSchedule with
      | none, none, _ => rfl
      | some sched, some sched', hmapSchedule =>
        exact congrArg some (Schedule.data_injective (Option.some.inj hmapSchedule))
    simp only at hid hlast hfirst htitle haccount
    subst hid hlast hfirst htitle haccount hschedule
    rfl
termination_by structural x => x

theorem Course.data_injective : ∀ {c d : Course}, c.data = d.data → c = d
  | ⟨displayName, id, teacher, schoolId, period, classroom⟩, d, h => by
    obtain ⟨hname, hid, hdata, hschool, hperiod, hroom⟩ := Course.data_fields h
    obtain ⟨_, _, teacher', _, _, _⟩ := d
    have hteacher : teacher = teacher' := Faculty.data_injective hdata
    simp only at hname hid hschool hperiod hroom
    subst hname hid hteacher hschool hperiod hroom
    rfl
termination_by structural x => x

theorem Schedule.data_injective : ∀ {s t : Schedule}, s.data = t.data → s = t
  | ⟨maxCourseCount, courseLoad⟩, t, h => by
    obtain ⟨hcount, hmapLoad⟩ := Schedule.data_fields h
    obtain ⟨_, courseLoad'⟩ := t
    have hload : courseLoad = courseLoad' := by
      match courseLoad, courseLoad', hmapLoad with
      | none, none, _ => rfl
      | some crsLd, some crsLd', hmapLoad =>
        exact congrArg some (Course.map_data_injective (Option.some.inj hmapLoad))
    simp only at hcount
    subst hcount hload
    rfl
termination_by structural x => x

theorem Course.map_data_injective : ∀ {xs ys : List Course},
    xs.map (·.data) = ys.map (·.data) → xs = ys
  | [], ys, h => (List.map_eq_nil_iff.mp h.symm).symm
  | x :: xs, ys, h => by
    match ys, h with
    | y :: ys, h =>
      obtain ⟨hhead, htail⟩ := List.cons.inj h
      rw [Course.data_injective hhead, Course.map_data_injective htail]
termination_by structural x => x

end

/-- A school is not nested in anything, so its lists are settled by the
records in them. -/
theorem School.data_injective {s t : School} (h : s.data = t.data) : s = t := by
  obtain ⟨hname, hid, htype, hstreet, hcity, hzip, hstate, hmax, hmapCourses, hmapStaff⟩ :=
    School.data_fields h
  have hcourses := Option.map_injective
    (List.map_injective_iff.mpr fun _ _ => Course.data_injective) hmapCourses
  have hstaff := Option.map_injective
    (List.map_injective_iff.mpr fun _ _ => Faculty.data_injective) hmapStaff
  obtain ⟨_, _, _, _, _, _, _, _, _, _⟩ := s
  obtain ⟨_, _, _, _, _, _, _, _, _, _⟩ := t
  simp only at hname hid htype hstreet hcity hzip hstate hmax hcourses hstaff
  subst hname hid htype hstreet hcity hzip hstate hmax hcourses hstaff
  rfl

/-- **A stored document determines the record it was written from**, for
courses, faculty, schedules and accounts nested to any depth, and schools. -/
theorem encoders_injective :
    Function.Injective Course.data ∧ Function.Injective Faculty.data ∧
    Function.Injective Schedule.data ∧ Function.Injective Account.data ∧
    Function.Injective School.data :=
  ⟨fun _ _ => Course.data_injective, fun _ _ => Faculty.data_injective,
    fun _ _ => Schedule.data_injective, fun _ _ => Account.data_injective,
    fun _ _ => School.data_injective⟩

end Scholarli
