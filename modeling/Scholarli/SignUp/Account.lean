import Scholarli.Database.Queries

/-!
# The account screens: `UserInfoViewController` and `SecurityViewController`

Every screen of the sign-up flow is a record of what its view controller
stores, text fields and labels included, and every handler of the source is
a function on that record. What a handler does besides (writing the shared
`newUserData`, starting a query, performing a segue) is collected in a
`Reaction`; the flow interprets it.

The username check is asynchronous. `ContinueAction` starts the query for
the text the field has at that moment (`verify`); the other fields are
validated when the answer arrives (`verifyAnswered`), and all of them are
read once more when the segue is prepared (`updateAccountInfo`). An answer
of nil leaves the user on the screen without a message.

Visual state that no handler reads (`AccountTypeSelector.isHidden`, the
shake animation) is left out.
-/

namespace Scholarli

open Base (Value Dict)

/-- A `UILabel`. -/
structure Label where
  text : Option String
  isHidden : Bool

/-- A query in flight, with what its callback captured. The three uses of
`getCourseList` differ in what the callback does with the list. -/
inductive Call where
  | verifyUsername (username : String)
  | getSchoolList
  | courseListForNewUser (skewl : School)
  | courseListForChooseClasses (school : School)
  | courseListForReturn (identifier : String) (school : School)
  | getFaculty (school : School)

/-- What a handler does: the new state of its view controller, the shared
record, the queries it starts and the segue it performs. -/
structure Reaction (σ : Type) where
  vc : σ
  newUserData : Data
  calls : List Call := []
  segue : Option String := none

/-- `newUserData["school"] as? School`. -/
def schoolOf (newUserData : Data) : Option School :=
  newUserData.cast "school" (Value.boxed? Boxed.school?)

/-! ## `UserInfoViewController` -/

structure UserInfoViewController where
  firstName : Option String := some ""
  lastName : Option String := some ""
  username : Option String := some ""
  phoneNumber : Option String := some ""
  currentAccountType : Option AccountType := none
  error : Label := ⟨some "Error Label", false⟩

namespace UserInfoViewController

/-- The four text fields. -/
inductive Field where
  | firstName | lastName | username | phoneNumber
  deriving Repr, DecidableEq

/-- The text of a field changes under the user's fingers. -/
def edit (vc : UserInfoViewController) (text : String) : Field → UserInfoViewController
  | .firstName => { vc with firstName := some text }
  | .lastName => { vc with lastName := some text }
  | .username => { vc with username := some text }
  | .phoneNumber => { vc with phoneNumber := some text }

def updateAccountInfo (vc : UserInfoViewController) (newUserData : Data) : Data :=
  newUserData
    |>.assign "firstName" (vc.firstName.map .string)
    |>.assign "lastName" (vc.lastName.map .string)
    |>.assign "userName" (vc.username.map .string)
    |>.assign "phoneNumber" (vc.phoneNumber.map .string)
    |>.assign "accountType" (vc.currentAccountType.map fun t => .boxed (.accountType t))

def viewDidLoad (vc : UserInfoViewController) : UserInfoViewController :=
  { vc with error := { vc.error with isHidden := true } }

/-- `SelectAccountType(_:)`. -/
def selectAccountType (vc : UserInfoViewController) : UserInfoViewController :=
  { vc with currentAccountType := some .student }

def numberOfRowsInComponent : Nat := AccountType.count - 2

/-- The switch of `pickerView(_:didSelectRow:)` over the row's text. -/
def accountTypeOfRow (text : String) : Option AccountType :=
  if text = "Student" then some .student
  else if text = "Teacher" then some .teacher
  else if text = "Parent" then some .parent
  else none

/-- `pickerView(_:didSelectRow:)`; `none` is an index out of range. -/
def didSelectRow (vc : UserInfoViewController) (newUserData : Data) (row : Nat) :
    Option (UserInfoViewController × Data) := do
  let text ← AccountType.array[row]?
  let vc := { vc with currentAccountType := accountTypeOfRow text }
  return (vc, vc.updateAccountInfo newUserData)

/-- `self.Username.text == "" || self.Username.text == nil`. -/
def isMissing (text : Option String) : Bool := text == some "" || text == none

/-- What the callback of `verifyUsername` passes to the completion of
`verify`; on a nil result it does not call it. -/
def verifyAnswered (vc : UserInfoViewController) (result : Option Bool) : Option String :=
  result.map fun finalResult =>
    (if !finalResult then "Username is already taken. " else "")
      ++ (if isMissing vc.firstName then "Must specify a first name. " else "")
      ++ (if isMissing vc.lastName then "Must specify a last name. " else "")
      ++ (if isMissing vc.phoneNumber then "Must provide a phone number. " else "")
      ++ (if vc.currentAccountType = none then "Must select an account type. " else "")

/-- The completion that `ContinueAction` hands to `verify`. -/
def continueCompletion (vc : UserInfoViewController) (newUserData : Data)
    (errorMessage : String) : Reaction UserInfoViewController :=
  if errorMessage ≠ "" then
    { vc := { vc with error := ⟨some errorMessage, false⟩ }, newUserData }
  else { vc, newUserData, segue := some "signUpSegueOne" }

/-- `ContinueAction(_:)` up to the query: without a username the completion
is called at once, else the query is made for the present text. -/
def continueAction (vc : UserInfoViewController) (newUserData : Data) :
    Reaction UserInfoViewController :=
  let newUserData := vc.updateAccountInfo newUserData
  if isMissing vc.username then
    vc.continueCompletion newUserData "Must specify a username. "
  -- the query is for this text; `prepare` will read the field again
  else { vc, newUserData, calls := [.verifyUsername (vc.username.getD "")] }

/-- `prepare(for:sender:)`. -/
def prepare (vc : UserInfoViewController) (identifier : String) (newUserData : Data) : Data :=
  if identifier = "signUpSegueOne" then vc.updateAccountInfo newUserData else newUserData

inductive Event where
  | edit (field : Field) (text : String)
  | selectAccountType
  | didSelectRow (row : Nat)
  | continueAction
  | usernameAnswered (result : Option Bool)

def handle (vc : UserInfoViewController) (newUserData : Data) :
    Event → Option (Reaction UserInfoViewController)
  | .edit field text => some { vc := vc.edit text field, newUserData }
  | .selectAccountType => some { vc := vc.selectAccountType, newUserData }
  | .didSelectRow row => (vc.didSelectRow newUserData row).map fun p =>
      { vc := p.1, newUserData := p.2 }
  | .continueAction => some (vc.continueAction newUserData)
  | .usernameAnswered result => some (match vc.verifyAnswered result with
      | none => { vc, newUserData }
      | some errorMessage => vc.continueCompletion newUserData errorMessage)

/-- The types that sign-up may give an account. -/
def Open (t : AccountType) : Prop := t = .student ∨ t = .teacher ∨ t = .parent

/-- Only open account types are ever selected. -/
def TypeOpen (vc : UserInfoViewController) : Prop :=
  ∀ t, vc.currentAccountType = some t → Open t

theorem accountTypeOfRow_open {text : String} {t : AccountType}
    (h : accountTypeOfRow text = some t) : Open t := by
  unfold accountTypeOfRow at h
  split at h
  next => exact Or.inl (Option.some.inj h).symm
  next =>
    split at h
    next => exact Or.inr (Or.inl (Option.some.inj h).symm)
    next =>
      split at h
      next => exact Or.inr (Or.inr (Option.some.inj h).symm)
      next => exact nomatch h

theorem isMissing_eq_false {text : Option String} (h : isMissing text = false) :
    ∃ t, text = some t ∧ t ≠ "" := by
  cases text with
  | none => exact absurd h (by simp [isMissing])
  | some t =>
    refine ⟨t, rfl, ?_⟩
    intro hempty
    subst hempty
    exact absurd h (by simp [isMissing])

/-- An empty message says that every check passed. -/
theorem verifyAnswered_eq_empty {vc : UserInfoViewController} {result : Option Bool}
    (h : vc.verifyAnswered result = some "") :
    result = some true ∧ isMissing vc.firstName = false ∧ isMissing vc.lastName = false ∧
    isMissing vc.phoneNumber = false ∧ vc.currentAccountType ≠ none := by
  obtain ⟨finalResult, rfl, hmsg⟩ := Option.map_eq_some_iff.mp h
  -- a concatenation is empty only if each message is
  simp only [String.append_eq_empty_iff] at hmsg
  obtain ⟨⟨⟨⟨h1, h2⟩, h3⟩, h4⟩, h5⟩ := hmsg
  refine ⟨?_, ?_, ?_, ?_, ?_⟩
  · cases finalResult <;> simp_all
  · cases hc : isMissing vc.firstName <;> simp_all
  · cases hc : isMissing vc.lastName <;> simp_all
  · cases hc : isMissing vc.phoneNumber <;> simp_all
  · intro hc
    simp [hc] at h5

/-- No handler selects another account type. -/
theorem handle_typeOpen {vc : UserInfoViewController} {newUserData : Data} {e : Event}
    {r : Reaction UserInfoViewController} (h : vc.TypeOpen)
    (hr : vc.handle newUserData e = some r) : r.vc.TypeOpen := by
  cases e with
  | edit field text =>
    obtain rfl := Option.some.inj hr
    cases field <;> exact h
  | selectAccountType =>
    obtain rfl := Option.some.inj hr
    intro t ht
    exact Or.inl (Option.some.inj ht).symm
  | didSelectRow row =>
    obtain ⟨p, hp, rfl⟩ := Option.map_eq_some_iff.mp hr
    obtain ⟨text, -, hp⟩ := Option.bind_eq_some_iff.mp hp
    obtain rfl := Option.some.inj hp
    intro t ht
    exact accountTypeOfRow_open ht
  | continueAction =>
    obtain rfl := Option.some.inj hr
    unfold continueAction
    split
    next => exact h
    next => exact h
  | usernameAnswered result =>
    obtain rfl := Option.some.inj hr
    cases vc.verifyAnswered result with
    | none => exact h
    | some errorMessage =>
      show (vc.continueCompletion newUserData errorMessage).vc.TypeOpen
      unfold continueCompletion
      split
      next => exact h
      next => exact h

/-- A handler writes to the shared record only through `updateAccountInfo`. -/
theorem handle_newUserData {vc : UserInfoViewController} {newUserData : Data} {e : Event}
    {r : Reaction UserInfoViewController} (hr : vc.handle newUserData e = some r) :
    r.newUserData = newUserData ∨
    ∃ vc' : UserInfoViewController, r.newUserData = vc'.updateAccountInfo newUserData := by
  cases e with
  | edit field text =>
    obtain rfl := Option.some.inj hr
    exact Or.inl rfl
  | selectAccountType =>
    obtain rfl := Option.some.inj hr
    exact Or.inl rfl
  | didSelectRow row =>
    obtain ⟨p, hp, rfl⟩ := Option.map_eq_some_iff.mp hr
    obtain ⟨text, -, hp⟩ := Option.bind_eq_some_iff.mp hp
    obtain rfl := Option.some.inj hp
    exact Or.inr ⟨_, rfl⟩
  | continueAction =>
    obtain rfl := Option.some.inj hr
    refine Or.inr ⟨vc, ?_⟩
    unfold continueAction continueCompletion
    split
    next =>
      split
      next => rfl
      next => rfl
    next => rfl
  | usernameAnswered result =>
    obtain rfl := Option.some.inj hr
    left
    cases vc.verifyAnswered result with
    | none => rfl
    | some errorMessage =>
      show (vc.continueCompletion newUserData errorMessage).newUserData = newUserData
      unfold continueCompletion
      split
      next => rfl
      next => rfl

/-- The only query is for a username, and never for the empty one. -/
theorem handle_calls {vc : UserInfoViewController} {newUserData : Data} {e : Event}
    {r : Reaction UserInfoViewController} (hr : vc.handle newUserData e = some r) {call : Call}
    (hcall : call ∈ r.calls) : ∃ username, call = .verifyUsername username ∧ username ≠ "" := by
  have hcompletion : ∀ d msg, (vc.continueCompletion d msg).calls = [] := by
    intro d msg
    unfold continueCompletion
    split
    next => rfl
    next => rfl
  cases e with
  | edit field text =>
    obtain rfl := Option.some.inj hr
    exact nomatch hcall
  | selectAccountType =>
    obtain rfl := Option.some.inj hr
    exact nomatch hcall
  | didSelectRow row =>
    obtain ⟨p, hp, rfl⟩ := Option.map_eq_some_iff.mp hr
    exact nomatch hcall
  | continueAction =>
    obtain rfl := Option.some.inj hr
    unfold continueAction at hcall
    dsimp only at hcall
    split at hcall
    next =>
      rw [hcompletion] at hcall
      exact nomatch hcall
    next hpresent =>
      obtain ⟨username, husername, hne⟩ := isMissing_eq_false (by simpa using hpresent)
      refine ⟨username, ?_, hne⟩
      simpa [husername] using hcall
  | usernameAnswered result =>
    obtain rfl := Option.some.inj hr
    cases hv : vc.verifyAnswered result with
    | none =>
      simp only [hv] at hcall
      exact nomatch hcall
    | some errorMessage =>
      simp only [hv, hcompletion] at hcall
      exact nomatch hcall

/-- Only an answer that leaves no message performs a segue, and it does
nothing else. -/
theorem handle_segue {vc : UserInfoViewController} {newUserData : Data} {e : Event}
    {r : Reaction UserInfoViewController} (hr : vc.handle newUserData e = some r)
    {identifier : String} (hsegue : r.segue = some identifier) :
    ∃ result, e = .usernameAnswered result ∧ vc.verifyAnswered result = some "" ∧
      r = { vc, newUserData, segue := some "signUpSegueOne" } := by
  cases e with
  | edit field text =>
    obtain rfl := Option.some.inj hr
    exact nomatch hsegue
  | selectAccountType =>
    obtain rfl := Option.some.inj hr
    exact nomatch hsegue
  | didSelectRow row =>
    obtain ⟨p, hp, rfl⟩ := Option.map_eq_some_iff.mp hr
    exact nomatch hsegue
  | continueAction =>
    obtain rfl := Option.some.inj hr
    unfold continueAction at hsegue
    dsimp only at hsegue
    split at hsegue
    next => exact nomatch hsegue
    next => exact nomatch hsegue
  | usernameAnswered result =>
    obtain rfl := Option.some.inj hr
    refine ⟨result, rfl, ?_⟩
    cases hv : vc.verifyAnswered result with
    | none =>
      simp only [hv] at hsegue
      exact nomatch hsegue
    | some errorMessage =>
      simp only [hv] at hsegue
      by_cases hmsg : errorMessage = ""
      · subst hmsg
        exact ⟨rfl, rfl⟩
      · unfold continueCompletion at hsegue
        rw [if_pos hmsg] at hsegue
        exact nomatch hsegue

end UserInfoViewController

/-! ## `SecurityViewController` -/

structure SecurityViewController where
  password : Option String := some ""
  confirmPassword : Option String := some ""
  errorLabel : Label := ⟨some "Error Label", false⟩

namespace SecurityViewController

def viewDidLoad (vc : SecurityViewController) : SecurityViewController :=
  { vc with errorLabel := { vc.errorLabel with isHidden := true } }

def updateAccountInfo (vc : SecurityViewController) (newUserData : Data) : Data :=
  newUserData.assign "password" (vc.password.map .string)

/-- `checkForConfirmation()`: its result, and what it writes. -/
def checkForConfirmation (vc : SecurityViewController) (newUserData : Data) :
    Bool × SecurityViewController × Data :=
  if vc.password = vc.confirmPassword then
    (true, { vc with errorLabel := ⟨some "", true⟩ }, vc.updateAccountInfo newUserData)
  else
    (false, { vc with errorLabel := ⟨some "Please Make Sure The Passwords Match", false⟩ },
      newUserData)

inductive Event where
  | editPassword (text : String)
  | editConfirmPassword (text : String)
  | passwordDoneEditing
  | confirmPasswordDoneEditing
  | continueAction

def handle (vc : SecurityViewController) (newUserData : Data) :
    Event → Reaction SecurityViewController
  | .editPassword text => { vc := { vc with password := some text }, newUserData }
  | .editConfirmPassword text => { vc := { vc with confirmPassword := some text }, newUserData }
  | .passwordDoneEditing | .confirmPasswordDoneEditing =>
    let (_, vc, newUserData) := vc.checkForConfirmation newUserData
    { vc, newUserData }
  | .continueAction =>
    let (confirmed, vc, newUserData) := vc.checkForConfirmation newUserData
    { vc, newUserData, segue := if confirmed then some "signUpSegueTwo" else none }

/-- A handler writes nothing but the password. -/
theorem handle_newUserData (vc : SecurityViewController) (newUserData : Data) (e : Event) :
    (vc.handle newUserData e).newUserData = newUserData ∨
    (vc.handle newUserData e).newUserData = vc.updateAccountInfo newUserData := by
  have hcheck : (vc.checkForConfirmation newUserData).2.2 = newUserData ∨
      (vc.checkForConfirmation newUserData).2.2 = vc.updateAccountInfo newUserData := by
    unfold checkForConfirmation
    split
    next => exact Or.inr rfl
    next => exact Or.inl rfl
  cases e with
  | editPassword text => exact Or.inl rfl
  | editConfirmPassword text => exact Or.inl rfl
  | passwordDoneEditing => exact hcheck
  | confirmPasswordDoneEditing => exact hcheck
  | continueAction => exact hcheck

end SecurityViewController

end Scholarli
