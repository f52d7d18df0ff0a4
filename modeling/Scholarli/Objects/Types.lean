/-!
# The enumerations of `Types.swift`

Raw values, lookup by string and case lists, as the source spells them. The
two raw-value conventions differ: `FacTitle` and `AccountType` are lowered to
strings, `SchoolType` and `PrivacyPolicies` to integers, while `SchoolType`
is looked up by a string (`init?(s:)`) that is not its raw value.

`hashValue` of a payload-free enumeration is its case ordinal here, which is
what the `count` properties of the source rely on.
-/

namespace Scholarli

inductive PrivacyPolicies where
  | totalPrivacy | classMates
  deriving Repr, DecidableEq

def PrivacyPolicies.rawValue : PrivacyPolicies → Int
  | .totalPrivacy => 1
  | .classMates => 2

inductive AssignmentType where
  | homework | lab | study | quiz | test | reminder | essay | project
  deriving Repr, DecidableEq

inductive AccountType where
  | student | teacher | parent | admin | developer
  deriving Repr, DecidableEq

namespace AccountType

def rawValue : AccountType → String
  | .student => "Student"
  | .teacher => "Teacher"
  | .parent => "Parent"
  | .admin => "Administrator"
  | .developer => "Developer"

def hashValue : AccountType → Nat
  | .student => 0
  | .teacher => 1
  | .parent => 2
  | .admin => 3
  | .developer => 4

def count : Nat := AccountType.developer.hashValue + 1

def array : List String := ["Student", "Teacher", "Parent", "Administrator", "Developer"]

end AccountType

inductive FacTitle where
  | Mr | Mrs | Ms | Dr | Sr | Sra | Srta | Prf
  deriving Repr, DecidableEq

namespace FacTitle

def rawValue : FacTitle → String
  | .Mr => "Mr."
  | .Mrs => "Mrs."
  | .Ms => "Ms."
  | .Dr => "Dr."
  | .Sr => "Sr."
  | .Sra => "Sra."
  | .Srta => "Srta."
  | .Prf => "Prf"

/-- `FacTitle(rawValue:)`. -/
def ofRawValue (s : String) : Option FacTitle :=
  if s = "Mr." then some .Mr
  else if s = "Mrs." then some .Mrs
  else if s = "Ms." then some .Ms
  else if s = "Dr." then some .Dr
  else if s = "Sr." then some .Sr
  else if s = "Sra." then some .Sra
  else if s = "Srta." then some .Srta
  else if s = "Prf" then some .Prf
  else none

/-- `"\(title)"`: interpolating an enumeration case prints the case's name,
not its raw value. -/
def caseName : FacTitle → String
  | .Mr => "Mr"
  | .Mrs => "Mrs"
  | .Ms => "Ms"
  | .Dr => "Dr"
  | .Sr => "Sr"
  | .Sra => "Sra"
  | .Srta => "Srta"
  | .Prf => "Prf"

def hashValue : FacTitle → Nat
  | .Mr => 0
  | .Mrs => 1
  | .Ms => 2
  | .Dr => 3
  | .Sr => 4
  | .Sra => 5
  | .Srta => 6
  | .Prf => 7

def count : Nat := FacTitle.Prf.hashValue + 1

def allValues : List FacTitle := [.Mr, .Mrs, .Ms, .Dr, .Sr, .Sra, .Srta, .Prf]

/-- Raw values identify the titles. -/
@[simp] theorem ofRawValue_rawValue (t : FacTitle) : ofRawValue t.rawValue = some t := by
  cases t <;> simp [ofRawValue, rawValue]

end FacTitle

inductive SchoolType where
  | Public | Private | Trade
  deriving Repr, DecidableEq

namespace SchoolType

def rawValue : SchoolType → Int
  | .Public => 1
  | .Private => 2
  | .Trade => 3

/-- `SchoolType(s:)`. -/
def ofString (s : String) : Option SchoolType :=
  if s = "Public" then some .Public
  else if s = "Private" then some .Private
  else if s = "Trade" then some .Trade
  else none

end SchoolType

end Scholarli
