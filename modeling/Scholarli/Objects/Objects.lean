import Scholarli.Base.Dict
import Scholarli.Objects.Types

/-!
# The record types of `Objects.swift`, their encoders and initialisers

`Faculty`, `Course` and `Schedule` refer to each other (a faculty member has
a schedule, a schedule a list of courses, a course a teacher) and `Account`
to lists of accounts, so the encoders `data` are mutually recursive over the
nesting. Each list is encoded by an accumulation loop that the source starts
from `[[:]]`, a one-element array holding the empty dictionary; the loops
(`appendData`) keep their accumulator, so that start is visible.

The throwing initialisers read an untyped dictionary key by key, in the
source's order, and stop at the first key that is missing or of the wrong
type. `init(ref:…)` takes the document identifier that Firestore generates
as an argument; the dictionary it writes is the `data` of the value it
returns.

`School.address` is left out: nothing reads it.
-/

namespace Scholarli

open Base (Value Dict)

structure Account where
  id : String
  firstName : String
  lastName : String
  username : String
  phoneNumber : Int
  schoolId : String
  blockedUsers : Option (List Account)
  pushToken : Option String
  notificationReady : Bool
  type : AccountType
  blockedBy : Option (List Account)
  karmaLevel : Int

mutual

structure Faculty where
  account : Option Account
  id : String
  lastName : String
  firstName : Option String
  title : FacTitle
  schedule : Option Schedule

structure Course where
  displayName : String
  id : String
  teacher : Faculty
  schoolId : String
  period : Int
  classroom : Option String

structure Schedule where
  maxCourseCount : Option Int
  courseLoad : Option (List Course)

end

structure School where
  displayName : String
  id : String
  type : SchoolType
  streetAddress : String
  city : String
  zipCode : String
  state : String
  courseList : Option (List Course) := none
  staff : Option (List Faculty) := none
  maxStudentCourseLoad : Option Int

structure Assignment where
  id : String
  title : String
  course : Option Course
  type : AssignmentType
  dueDate : Option Int
  description : String
  complete : Bool

structure Agenda where
  assignments : List Assignment

structure Student where
  account : Account
  id : String
  schedule : Option Schedule
  doNotDisturb : Option (List Course)
  agenda : Agenda
  accountPrivacy : PrivacyPolicies

/-- The Swift values that some dictionary of the program holds as such,
without lowering them to plain data first. -/
inductive Boxed where
  | accountType (t : AccountType)
  | facTitle (t : FacTitle)
  | account (a : Account)
  | faculty (f : Faculty)
  | schedule (s : Schedule)
  | school (s : School)
  | assignment (x : Assignment)

/-- `[String : Any]` in this program. -/
abbrev Data := Dict Boxed

namespace Boxed

def facTitle? : Boxed → Option FacTitle
  | .facTitle t => some t
  | _ => none

def account? : Boxed → Option Account
  | .account a => some a
  | _ => none

def faculty? : Boxed → Option Faculty
  | .faculty f => some f
  | _ => none

def schedule? : Boxed → Option Schedule
  | .schedule s => some s
  | _ => none

def school? : Boxed → Option School
  | .school s => some s
  | _ => none

end Boxed

/-! ## Encoders -/

mutual

def Account.data : Account → Data
  | ⟨id, firstName, lastName, username, phoneNumber, schoolId, blockedUsers,
      pushToken, notificationReady, type, blockedBy, karmaLevel⟩ =>
    Dict.empty
      |>.set "id" (.string id)
      |>.set "firstName" (.string firstName)
      |>.set "lastName" (.string lastName)
      |>.set "username" (.string username)
      |>.set "phoneNumber" (.int phoneNumber)
      |>.set "notificationReady" (.bool notificationReady)
      |>.set "type" (.string type.rawValue)
      |>.set "karmaLevel" (.int karmaLevel)
      |>.set "schoolId" (.string schoolId)
      |>.setIfLet "blockedUsers" (match blockedUsers with
        | none => none
        | some users => some (.array (Account.appendData [.dict Dict.empty] users)))
      |>.setIfLet "pushToken" (pushToken.map .string)
      |>.setIfLet "blockedBy" (match blockedBy with
        | none => none
        | some users => some (.array (Account.appendData [.dict Dict.empty] users)))

/-- `for user in users { tinyArray.append(user.data) }`. -/
def Account.appendData (tinyArray : List (Value Boxed)) : List Account → List (Value Boxed)
  | [] => tinyArray
  | user :: users => Account.appendData (tinyArray ++ [.dict user.data]) users

end

mutual

def Faculty.data : Faculty → Data
  | ⟨account, id, lastName, firstName, title, schedule⟩ =>
    Dict.empty
      |>.set "id" (.string id)
      |>.set "lastName" (.string lastName)
      |>.set "title" (.string title.rawValue)
      |>.setIfLet "account" (account.map fun acct => .dict acct.data)
      |>.setIfLet "firstName" (firstName.map .string)
      |>.setIfLet "schedule" (match schedule with
        | none => none
        | some sched => some (.dict sched.data))

def Course.data : Course → Data
  | ⟨displayName, id, teacher, schoolId, period, classroom⟩ =>
    Dict.empty
      |>.set "displayName" (.string displayName)
      |>.set "id" (.string id)
      |>.set "teacher" (.dict teacher.data)
      |>.set "schoolId" (.string schoolId)
      |>.set "period" (.int period)
      |>.setIfLet "classroom" (classroom.map .string)

def Schedule.data : Schedule → Data
  | ⟨maxCourseCount, courseLoad⟩ =>
    Dict.empty
      -- a dictionary literal boxes the `Int?` itself, nil included
      |>.set "maxCourseCount" (match maxCourseCount with
        | none => .null
        | some n => .int n)
      |>.setIfLet "courseLoad" (match courseLoad with
        | none => none
        | some crsLd => some (.array (Course.appendData [.dict Dict.empty] crsLd)))

/-- `for crs in crsLd { tinyArray.append(crs.data) }`. -/
def Course.appendData (tinyArray : List (Value Boxed)) : List Course → List (Value Boxed)
  | [] => tinyArray
  | crs :: crsLd => Course.appendData (tinyArray ++ [.dict crs.data]) crsLd

end

/-- `for person in staff { tinyArray.append(person.data) }`. -/
def Faculty.appendData (tinyArray : List (Value Boxed)) : List Faculty → List (Value Boxed)
  | [] => tinyArray
  | person :: staff => Faculty.appendData (tinyArray ++ [.dict person.data]) staff

def School.data (s : School) : Data :=
  Dict.empty
    |>.set "displayName" (.string s.displayName)
    |>.set "id" (.string s.id)
    |>.set "type" (.int s.type.rawValue)
    |>.set "streetAddress" (.string s.streetAddress)
    |>.set "city" (.string s.city)
    |>.set "zipCode" (.string s.zipCode)
    |>.set "state" (.string s.state)
    |>.setIfLet "courseList" (s.courseList.map fun courses =>
      .array (Course.appendData [.dict Dict.empty] courses))
    |>.setIfLet "staff" (s.staff.map fun staff =>
      .array (Faculty.appendData [.dict Dict.empty] staff))
    |>.setIfLet "maxStudentCourseLoad" (s.maxStudentCourseLoad.map .int)

/-- The assignments go into the dictionary as they are, in an array. -/
def Agenda.data (a : Agenda) : Data :=
  Dict.empty.set "assignments" (.array (a.assignments.map fun x => .boxed (.assignment x)))

def Student.data (s : Student) : Data :=
  Dict.empty
    |>.set "account" (.dict s.account.data)
    |>.set "agenda" (.dict s.agenda.data)
    |>.set "accountPrivacy" (.int s.accountPrivacy.rawValue)
    |>.setIfLet "schedule" (s.schedule.map fun sched => .dict sched.data)
    |>.setIfLet "doNotDisturb" (s.doNotDisturb.map fun courses =>
      .array (Course.appendData [.dict Dict.empty] courses))

/-! ## Initialisers -/

/-- `firebaseInterpretationError`. The source passes `invalidValue` the
`description` of a dictionary, a text in unspecified key order; the
dictionary itself stands for it. -/
inductive FirebaseInterpretationError where
  | invalidKeys (key : String)
  | invalidValue (value : Data)
  | queryFailed

inductive StringToTypeError where
  | invalidString (s : String)

/-- What an initialiser may throw. -/
inductive Thrown where
  | firebaseInterpretationError (e : FirebaseInterpretationError)
  | stringToTypeError (e : StringToTypeError)

/-- `guard let x = … else { throw e }`. -/
def guardLet {α : Type} (x : Option α) (e : Thrown) : Except Thrown α :=
  match x with
  | some a => .ok a
  | none => .error e

/-- A computation that got past the guard found its value. -/
theorem guardLet_bind_ok {α β : Type} {x : Option α} {e : Thrown} {f : α → Except Thrown β}
    {b : β} (h : (guardLet x e >>= f) = .ok b) : ∃ a, x = some a ∧ f a = .ok b := by
  cases x with
  | none => cases h
  | some a => exact ⟨a, rfl, h⟩

/-- `throw firebaseInterpretationError.invalidKeys(key)`. -/
def invalidKeys (key : String) : Thrown :=
  .firebaseInterpretationError (.invalidKeys key)

/-- `"\(title) \(lastName)"`. -/
def Faculty.fullLastName (f : Faculty) : String :=
  f.title.caseName ++ " " ++ f.lastName

/-- `Faculty(data:)`. The account and the schedule are cast to the structs
themselves; when that fails they are nil. -/
def Faculty.ofData (data : Data) : Except Thrown Faculty := do
  let account := (data.castOptional "account" (Value.boxed? Boxed.account?)).join
  let id ← guardLet (data.cast "id" Value.string?) (invalidKeys "id")
  let lastName ← guardLet (data.cast "lastName" Value.string?) (invalidKeys "lastName")
  let firstName ← guardLet (data.castOptional "firstName" Value.string?)
    (invalidKeys "firstName")
  let titleStr ← guardLet (data.cast "title" Value.string?) (invalidKeys "title")
  let title ← guardLet (FacTitle.ofRawValue titleStr)
    (.stringToTypeError (.invalidString titleStr))
  let schedule := (data.castOptional "schedule" (Value.boxed? Boxed.schedule?)).join
  return { account, id, lastName, firstName, title, schedule }

/-- `Faculty(ref:data:)`: the title is cast to the enumeration itself. -/
def Faculty.ofRefData (documentID : String) (data : Data) : Except Thrown Faculty := do
  let account := (data.castOptional "account" (Value.boxed? Boxed.account?)).join
  let lastName ← guardLet (data.cast "lastName" Value.string?) (invalidKeys "lastName")
  let firstName ← guardLet (data.castOptional "firstName" Value.string?)
    (invalidKeys "firstName")
  let title ← guardLet (data.cast "title" (Value.boxed? Boxed.facTitle?))
    (invalidKeys "title")
  let schedule := (data.castOptional "schedule" (Value.boxed? Boxed.schedule?)).join
  return { account, id := documentID, lastName, firstName, title, schedule }

/-- `Course(ref:data:)`: the teacher is cast to the struct itself. -/
def Course.ofRefData (documentID : String) (data : Data) : Except Thrown Course := do
  let displayName ← guardLet (data.cast "displayName" Value.string?)
    (invalidKeys "displayName")
  let teacher ← guardLet (data.cast "teacher" (Value.boxed? Boxed.faculty?))
    (invalidKeys "teacher")
  let schoolId ← guardLet (data.cast "schoolId" Value.string?) (invalidKeys "schoolId")
  let period ← guardLet (data.cast "period" Value.int?) (invalidKeys "period")
  let classroom ← guardLet (data.castOptional "classroom" Value.string?)
    (invalidKeys "classroom")
  return { displayName, id := documentID, teacher, schoolId, period, classroom }

/-- `Course(data:)`: the teacher is a nested dictionary, and whatever its
decoding throws is rethrown as `invalidValue`. -/
def Course.ofData (data : Data) : Except Thrown Course := do
  let displayName ← guardLet (data.cast "displayName" Value.string?)
    (invalidKeys "displayName")
  let teacherData ← guardLet (data.cast "teacher" Value.dict?) (invalidKeys "teacher")
  let schoolId ← guardLet (data.cast "schoolId" Value.string?) (invalidKeys "schoolId")
  let period ← guardLet (data.cast "period" Value.int?) (invalidKeys "period")
  let classroom ← guardLet (data.castOptional "classroom" Value.string?)
    (invalidKeys "classroom")
  let id ← guardLet (data.cast "id" Value.string?) (invalidKeys "id")
  match Faculty.ofData teacherData with
  | .ok teacher => return { displayName, id, teacher, schoolId, period, classroom }
  | .error _ => throw (.firebaseInterpretationError (.invalidValue teacherData))

/-- `School(data:)`: the type is read as a string and looked up by name. -/
def School.ofData (data : Data) : Except Thrown School := do
  let displayName ← guardLet (data.cast "displayName" Value.string?)
    (invalidKeys "displayName")
  let id ← guardLet (data.cast "id" Value.string?) (invalidKeys "id")
  let typeStr ← guardLet (data.cast "type" Value.string?) (invalidKeys "type")
  let type ← guardLet (SchoolType.ofString typeStr)
    (.stringToTypeError (.invalidString typeStr))
  let streetAddress ← guardLet (data.cast "streetAddress" Value.string?)
    (invalidKeys "streetAddress")
  let city ← guardLet (data.cast "city" Value.string?) (invalidKeys "city")
  let zipCode ← guardLet (data.cast "zipCode" Value.string?) (invalidKeys "zipCode")
  let state ← guardLet (data.cast "state" Value.string?) (invalidKeys "state")
  let maxStudentCourseLoad ← guardLet (data.cast "maxStudentCourseLoad" Value.int?)
    (invalidKeys "maxStudentCourseLoad")
  return { displayName, id, type, streetAddress, city, zipCode, state,
           maxStudentCourseLoad := some maxStudentCourseLoad }

end Scholarli
