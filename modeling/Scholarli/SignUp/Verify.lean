import Scholarli.Database.Handlers
import Scholarli.SignUp.Account

/-!
# Which queries call back

`UserInfoViewController.verify` is a query too: it has a completion, and the
query inside it has one. This file has its body statement by statement, like
the ones of `Handlers.lean`, and settles for all five functions when the
caller hears back: `queries_answer_once_iff`.

Only `verifyUsername` always does. On an error `getSchoolList` calls back
with nil, `getFaculty` and `getCourseList` return silently; all three return
silently on a document that does not decode, and `verify` on a nil result.

The tap on the button and the answer of the database are two moments: `vc`
is the screen at the tap, `vc'` the screen the answer finds. The string that
`verify` builds is captured by the inner completion, which continues with
the value it has when the query is made.
-/

namespace Scholarli

open Base

namespace UserInfoViewController

variable {m : Type → Type} [Monad m]

/-- `verify(completion:)`. -/
def verify (vc vc' : UserInfoViewController) (r : UsernamesResponse)
    (completion : String → m Unit) : m Unit := do
  let mut stringToReturn := ""
  if isMissing vc.username then
    stringToReturn := stringToReturn ++ "Must specify a username. "
    completion stringToReturn
    return
  else
    verifyUsername.handler (vc.username.getD "") (fun result => do
      if let some finalResult := result then
        let mut stringToReturn := stringToReturn
        if !finalResult then
          stringToReturn := stringToReturn ++ "Username is already taken. "
        if isMissing vc'.firstName then
          stringToReturn := stringToReturn ++ "Must specify a first name. "
        if isMissing vc'.lastName then
          stringToReturn := stringToReturn ++ "Must specify a last name. "
        if isMissing vc'.phoneNumber then
          stringToReturn := stringToReturn ++ "Must provide a phone number. "
        if vc'.currentAccountType = none then
          stringToReturn := stringToReturn ++ "Must select an account type. "
        completion stringToReturn) r

/-- A text that is appended on a condition is one that is appended. -/
theorem ite_append (c : Prop) [Decidable c] (s t : String) :
    (if c then s ++ t else s) = s ++ if c then t else "" := by
  split
  next => rfl
  next => rw [String.append_empty]

/-- What both branches end in is appended after either. -/
theorem ite_append_right (c : Prop) [Decidable c] (s t rest : String) :
    (if c then s ++ rest else t ++ rest) = (if c then s else t) ++ rest := by
  split
  next => rfl
  next => rfl

theorem verify_eq [LawfulMonad m] (vc vc' : UserInfoViewController) (r : UsernamesResponse)
    (completion : String → m Unit) :
    vc.verify vc' r completion =
      (if isMissing vc.username then some "Must specify a username. "
       else vc'.verifyAnswered (verifyUsername (vc.username.getD "") r)).elim
        (pure ()) completion := by
  unfold verify
  split
  next hmissing => simp
  next hpresent =>
    rw [verifyUsername.handler_eq]
    cases verifyUsername (vc.username.getD "") r with
    | none => rfl
    | some finalResult =>
      -- every branch ends in the completion, and appends its text or the empty one
      simp only [verifyAnswered, Option.map_some, Option.elim_some, ← apply_ite completion,
        ite_append, ite_append_right]
      rw [String.empty_append]

end UserInfoViewController

/-! ## When the names can be read -/

/-- The stored names are strings, all of them or up to the one looked for:
the loop of `verifyUsername` stops at the first match. -/
def Legible (username : String) (names : List (Value Boxed)) : Prop :=
  (∀ v ∈ names, v.string? ≠ none) ∨
  ∃ before after, names = before ++ .string username :: after ∧ ∀ v ∈ before, v.string? ≠ none

theorem legible_cons_string_iff {username n : String} (hn : n ≠ username)
    (names : List (Value Boxed)) :
    Legible username (.string n :: names) ↔ Legible username names := by
  constructor
  · intro h
    rcases h with hall | ⟨before, after, heq, hbefore⟩
    · exact Or.inl fun v hv => hall v (List.mem_cons_of_mem _ hv)
    · cases before with
      | nil =>
        -- the match cannot be the first name
        obtain ⟨heq, -⟩ := List.cons.inj heq
        exact absurd (Value.string.inj heq) hn
      | cons v before =>
        refine Or.inr ⟨before, after, (List.cons.inj heq).2, ?_⟩
        intro w hw
        exact hbefore w (List.mem_cons_of_mem _ hw)
  · intro h
    rcases h with hall | ⟨before, after, rfl, hbefore⟩
    · exact Or.inl (List.forall_mem_cons.mpr ⟨by simp [Value.string?], hall⟩)
    · refine Or.inr ⟨.string n :: before, after, rfl, ?_⟩
      exact List.forall_mem_cons.mpr ⟨by simp [Value.string?], hbefore⟩

theorem not_legible_cons {username : String} {v : Value Boxed} (hv : v.string? = none)
    (names : List (Value Boxed)) : ¬Legible username (v :: names) := by
  intro h
  rcases h with hall | ⟨before, after, heq, hbefore⟩
  · exact hall v List.mem_cons_self hv
  · cases before with
    | nil =>
      obtain ⟨rfl, -⟩ := List.cons.inj heq
      cases hv
    | cons w before =>
      obtain ⟨rfl, -⟩ := List.cons.inj heq
      exact hbefore v List.mem_cons_self hv

theorem verifyUsername.loop_isSome_iff (username : String) :
    ∀ names : List (Value Boxed), (loop username names).isSome ↔ Legible username names
  | [] => by simp [loop, Legible]
  | name :: names => by
    unfold loop
    cases hname : name.string? with
    | none => simp [not_legible_cons hname]
    | some n =>
      obtain rfl := Value.string?_eq_some_iff.mp hname
      by_cases hn : n = username
      · subst hn
        have hfound : Legible n (.string n :: names) := Or.inr ⟨[], names, rfl, by simp⟩
        simp [hfound]
      · rw [legible_cons_string_iff hn]
        simpa [hn] using loop_isSome_iff username names

theorem verifyUsername_isSome_iff (username : String) (r : UsernamesResponse) :
    (verifyUsername username r).isSome ↔ ∃ names, r = .values names ∧ Legible username names := by
  cases r with
  | error => simp [verifyUsername]
  | noDocument => simp [verifyUsername]
  | values names => simp [verifyUsername, verifyUsername.loop_isSome_iff]

theorem UserInfoViewController.verify_answersOnce_iff (vc vc' : UserInfoViewController)
    (r : UsernamesResponse) :
    AnswersOnce (vc.verify vc' r) ↔
    isMissing vc.username = true ∨
      ∃ names, r = .values names ∧ Legible (vc.username.getD "") names := by
  rw [answersOnce_iff_of_eq_elim (vc.verify_eq vc' r), ← verifyUsername_isSome_iff]
  by_cases hmissing : isMissing vc.username = true
  · simp [hmissing]
  · simp [hmissing, verifyAnswered]

/-- **Which queries answer exactly once.** `verifyUsername` on every response;
`getSchoolList` unless a document of the snapshot does not decode; `getFaculty`
and `getCourseList` exactly if there is a snapshot and every document of it
decodes; `verify` exactly if there is no username to look for, or the stored
names are strings up to it. -/
theorem queries_answer_once_iff (username : String) (ur : UsernamesResponse)
    (r : DocumentsResponse) (vc vc' : UserInfoViewController) :
    (AnswersOnce fun completion => verifyUsername.handler username completion ur) ∧
    ((AnswersOnce fun completion => getSchoolList.handler completion r) ↔
      ∀ docs, r = .documents docs → AllDecoded School.ofData docs) ∧
    ((AnswersOnce fun completion => getFaculty.handler completion r) ↔
      ∃ docs, r = .documents docs ∧ AllDecoded Faculty.ofData docs) ∧
    ((AnswersOnce fun completion => getCourseList.handler completion r) ↔
      ∃ docs, r = .documents docs ∧ AllDecoded Course.ofData docs) ∧
    (AnswersOnce (vc.verify vc' ur) ↔
      UserInfoViewController.isMissing vc.username = true ∨
        ∃ names, ur = .values names ∧ Legible (vc.username.getD "") names) :=
  ⟨verifyUsername.answersOnce username ur, getSchoolList.answersOnce_iff r,
    getFaculty.answersOnce_iff r, getCourseList.answersOnce_iff r,
    vc.verify_answersOnce_iff vc' ur⟩

/-- A failed query leaves the class form, the chooser and the first screen
waiting, and one document that is no school the school selector. -/
theorem queries_answer_once_fails :
    (¬AnswersOnce fun completion => getFaculty.handler completion .error) ∧
    (¬AnswersOnce fun completion => getCourseList.handler completion .error) ∧
    (¬AnswersOnce fun completion => getSchoolList.handler completion
      (.documents [morristown.document])) ∧
    ¬AnswersOnce (UserInfoViewController.verify { username := some "devon" }
      { username := some "devon" } .error) := by
  refine ⟨?_, ?_, ?_, ?_⟩
  · rw [getFaculty.answersOnce_iff]
    simp
  · rw [getCourseList.answersOnce_iff]
    simp
  · rw [getSchoolList.answersOnce_iff]
    intro h
    obtain ⟨s, hs⟩ := h [morristown.document] rfl morristown.document (by simp)
    rw [School.document, School.ofData_data] at hs
    cases hs
  · rw [UserInfoViewController.verify_answersOnce_iff]
    simp [UserInfoViewController.isMissing]

end Scholarli
