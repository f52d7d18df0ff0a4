import Mathlib.Data.List.Forall2

/-!
# Completions and how often they are called

A function with a completion does not return its result: it calls back. The
body of such a function is written here in an arbitrary monad `m`, with the
completion as a parameter `α → m Unit`, so that nothing in its type says how
often the completion is called, or that it is called at all.

* `calls` — the arguments the completion is called with, in order, found by
  running the body with a completion that records its argument.
* `AnswersOnce` — exactly one call.
* `calls_of_eq_elim` — a body that in every lawful monad is "call the
  completion with `x`, if there is an `x`" makes exactly the calls `x.toList`.
* `collect` — the loop all document queries share: decode the elements one by
  one and give up at the first failure. `forIn_collect` brings a `for` loop
  with an early `return` into that form, `collect_isSome_iff` says when it
  gets through and `collect_eq_some_iff` with what.
* `scan` — the loop of a query for one answer: the first element that has one
  decides. `scan_perm_iff` says when the order of the elements does not
  matter: exactly if all that have an answer have the same.
-/

namespace Scholarli.Base

variable {α β : Type}

/-- The arguments a body calls its completion with, in order. -/
def calls (body : (α → StateM (List α) Unit) → StateM (List α) Unit) : List α :=
  ((body fun x => modify (· ++ [x])).run []).2

/-- The body calls its completion exactly once. -/
def AnswersOnce (body : (α → StateM (List α) Unit) → StateM (List α) Unit) : Prop :=
  (calls body).length = 1

/-- The calls of a body that amounts to at most one. -/
theorem calls_of_eq_elim {body : (α → StateM (List α) Unit) → StateM (List α) Unit}
    {x : Option α} (h : ∀ completion, body completion = x.elim (pure ()) completion) :
    calls body = x.toList := by
  unfold calls
  rw [h]
  cases x <;> rfl

theorem answersOnce_iff_of_eq_elim
    {body : (α → StateM (List α) Unit) → StateM (List α) Unit} {x : Option α}
    (h : ∀ completion, body completion = x.elim (pure ()) completion) :
    AnswersOnce body ↔ x.isSome := by
  unfold AnswersOnce
  rw [calls_of_eq_elim h]
  cases x <;> simp

/-- Append the decoded elements to the accumulator, up to the first failure. -/
def collect (decode : α → Option β) : List α → List β → Option (List β)
  | [], acc => some acc
  | x :: xs, acc =>
    match decode x with
    | some y => collect decode xs (acc ++ [y])
    | none => none

theorem collect_isSome_iff (decode : α → Option β) : ∀ (xs : List α) (acc : List β),
    (collect decode xs acc).isSome ↔ ∀ x ∈ xs, (decode x).isSome
  | [], acc => by simp [collect]
  | x :: xs, acc => by
    unfold collect
    rw [List.forall_mem_cons]
    split
    next y hy => rw [collect_isSome_iff decode xs, hy]; simp
    next hnone => simp [hnone]

/-- **What is collected**: the decoded elements behind the accumulator, one for
each element and in order. -/
theorem collect_eq_some_iff {decode : α → Option β} : ∀ (xs : List α) (acc ys : List β),
    collect decode xs acc = some ys ↔
    ∃ zs, ys = acc ++ zs ∧ List.Forall₂ (fun x y => decode x = some y) xs zs
  | [], acc, ys => by simp [collect, eq_comm]
  | x :: xs, acc, ys => by
    unfold collect
    simp only [List.forall₂_cons_left_iff]
    split
    next y hy =>
      rw [collect_eq_some_iff xs]
      simp only [hy, Option.some.injEq]
      constructor
      · intro h
        obtain ⟨zs, rfl, hzs⟩ := h
        exact ⟨y :: zs, by simp, y, zs, rfl, hzs, rfl⟩
      · intro h
        obtain ⟨_, rfl, _, zs, rfl, hzs, rfl⟩ := h
        exact ⟨zs, by simp, hzs⟩
    next hnone => simp [hnone]

/-- A `for` loop that either appends or returns, and what follows it: the
rest of the body is run exactly if no element made the loop return. The
loop's state is what `do` compiles it to, the value returned early (if any)
beside the accumulator. -/
theorem forIn_collect {m : Type → Type} [Monad m] [LawfulMonad m] {decode : α → Option β}
    {f : α → Option Unit × List β → m (ForInStep (Option Unit × List β))}
    {exit : Option Unit × List β → m Unit} {rest : List β → m Unit}
    (hsome : ∀ x y, decode x = some y → ∀ s, f x s = pure (.yield (none, s.2 ++ [y])))
    (hnone : ∀ x, decode x = none → ∀ s, f x s = pure (.done (some (), s.2)))
    (hreturn : ∀ acc, exit (some (), acc) = pure ()) (hrest : ∀ acc, exit (none, acc) = rest acc) :
    ∀ (xs : List α) (acc : List β),
      (forIn xs ((none : Option Unit), acc) f >>= exit) =
        (collect decode xs acc).elim (pure ()) rest
  | [], acc => by
    rw [List.forIn_nil, pure_bind, hrest]
    rfl
  | x :: xs, acc => by
    rw [List.forIn_cons]
    unfold collect
    cases hx : decode x with
    | some y =>
      rw [hsome x y hx, pure_bind]
      exact forIn_collect hsome hnone hreturn hrest xs (acc ++ [y])
    | none =>
      rw [hnone x hx, pure_bind]
      show (pure (some (), acc) >>= exit) = pure ()
      rw [pure_bind, hreturn]

/-! ## Scans -/

/-- The answer of the first element that has one, and `default` if none has. -/
def scan (answer : α → Option β) (default : β) : List α → β
  | [] => default
  | x :: xs =>
    match answer x with
    | some b => b
    | none => scan answer default xs

section
variable {answer : α → Option β} {default : β}

theorem scan_cons_of_some {x : α} {b : β} (h : answer x = some b) (xs : List α) :
    scan answer default (x :: xs) = b := by
  rw [scan, h]

/-- The scan finds the default, where nothing answers, or an answer. -/
theorem scan_cases (answer : α → Option β) (default : β) : ∀ xs : List α,
    ((∀ x ∈ xs, answer x = none) ∧ scan answer default xs = default) ∨
    ∃ x ∈ xs, answer x = some (scan answer default xs)
  | [] => by simp [scan]
  | x :: xs => by
    cases hx : answer x with
    | some b =>
      right
      refine ⟨x, List.mem_cons_self, ?_⟩
      rw [hx, scan_cons_of_some hx]
    | none =>
      have hscan : scan answer default (x :: xs) = scan answer default xs := by rw [scan, hx]
      rw [hscan, List.forall_mem_cons]
      rcases scan_cases answer default xs with ⟨hnone, hdefault⟩ | ⟨y, hy, hanswer⟩
      · exact Or.inl ⟨⟨hx, hnone⟩, hdefault⟩
      · exact Or.inr ⟨y, List.mem_cons_of_mem x hy, hanswer⟩

/-- Where all answers agree, the scan finds whichever of them there is. -/
theorem scan_eq_of_mem {xs : List α}
    (h : ∀ x ∈ xs, ∀ y ∈ xs, ∀ a b, answer x = some a → answer y = some b → a = b)
    {x : α} (hx : x ∈ xs) {b : β} (hb : answer x = some b) : scan answer default xs = b := by
  rcases scan_cases answer default xs with ⟨hnone, -⟩ | ⟨y, hy, hanswer⟩
  · rw [hnone x hx] at hb
    cases hb
  · exact h y hy x hx _ _ hanswer hb

/-- Any element can come first, and then decides. -/
theorem exists_perm_scan_eq (default : β) {xs : List α} {x : α} (hx : x ∈ xs) {b : β}
    (hb : answer x = some b) : ∃ ys, ys.Perm xs ∧ scan answer default ys = b := by
  obtain ⟨before, after, rfl⟩ := List.append_of_mem hx
  exact ⟨x :: (before ++ after), List.perm_middle.symm, scan_cons_of_some hb _⟩

/-- **When the order of the elements does not matter.** -/
theorem scan_perm_iff (xs : List α) :
    (∀ ys, ys.Perm xs → scan answer default ys = scan answer default xs) ↔
    ∀ x ∈ xs, ∀ y ∈ xs, ∀ a b, answer x = some a → answer y = some b → a = b := by
  constructor
  · intro h x hx y hy a b ha hb
    obtain ⟨ys, hys, rfl⟩ := exists_perm_scan_eq default hx ha
    obtain ⟨zs, hzs, rfl⟩ := exists_perm_scan_eq default hy hb
    rw [h ys hys, h zs hzs]
  · intro h ys hys
    have h' : ∀ x ∈ ys, ∀ y ∈ ys, ∀ a b, answer x = some a → answer y = some b → a = b :=
      fun x hx y hy => h x (hys.mem_iff.mp hx) y (hys.mem_iff.mp hy)
    rcases scan_cases answer default xs with ⟨hnone, hscan⟩ | ⟨x, hx, hanswer⟩
    · rcases scan_cases answer default ys with ⟨-, hscan'⟩ | ⟨y, hy, hanswer'⟩
      · rw [hscan, hscan']
      · rw [hnone y (hys.mem_iff.mp hy)] at hanswer'
        cases hanswer'
    · exact scan_eq_of_mem h' (hys.mem_iff.mpr hx) hanswer

end

end Scholarli.Base
