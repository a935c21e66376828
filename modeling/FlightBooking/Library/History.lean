import FlightBooking.Library.Transaction

/-!
Applications over a transactional store.

An `App` names its transactions (`Tx`) and gives each its text; besides
transactions it makes calls, which the environment answers. A `World` is the
committed history and the environment. The versions of the database are derived
from the history (`World.state`), so a property of every version is an induction
over its commits.
-/

namespace ReadCommitted

open Interaction

/-- Transactions and calls, with what the outside world may answer. `tick` reads
the clock: the environment refuses a value its clock cannot show. -/
structure App (S : Store) where
  Tx : Type
  Result : Tx → Type
  body : (x : Tx) → Int → Prog S (Result x)
  Call : Type
  Answer : Call → Type
  Env : Type
  Choice : Type
  perform : Nat → Env → (c : Call) → Choice → Option (Answer c × Env)
  tick : Env → Int → Option Env
  lost : S.Err

namespace App

/-- What a thread does next. -/
inductive Act {S : Store} (A : App S) where
  | transaction (x : A.Tx)
  | call (c : A.Call)

variable {S : Store}

/-- A transaction answers its result, or the error that undid it. -/
def Reply (A : App S) : A.Act → Type
  | .transaction x => Except S.Err (A.Result x)
  | .call c => A.Answer c

/-- A thread's program: a use case, or a job's run. -/
abbrev Thread (A : App S) (α : Type) : Type := Tree A.Act A.Reply S.Err α

/-- Run a transaction; its error is thrown. -/
def run (A : App S) (x : A.Tx) : A.Thread (A.Result x) :=
  .act (.transaction x) fun r => Tree.ofExcept r

/-- Make a call. -/
def ask (A : App S) (c : A.Call) : A.Thread (A.Answer c) := .act (.call c) .ret

/-- A thread alone with the database: its transactions run whole, one after another,
with the clock at `now`, and `answer` answers its calls. -/
def alone (A : App S) (now : Int) (answer : (c : A.Call) → Option (A.Answer c)) {α : Type} :
    A.Thread α → S.Db → Option (Except S.Err α × S.Db)
  | .ret a, db => some (.ok a, db)
  | .fail e, db => some (.error e, db)
  | .act (.transaction x) k, db =>
      match execute [] db (A.body x now) S.none with
      | .ok (r, log) => alone A now answer (k (.ok r)) (S.apply log db)
      | .error e => alone A now answer (k (.error e)) db
  | .act (.call c) k, db =>
      match answer c with
      | some a => alone A now answer (k a) db
      | none => none

/-- A transaction that the thread waits for, alone: it throws, or the thread goes on. -/
theorem alone_run_bind {A : App S} {now : Int} {answer : (c : A.Call) → Option (A.Answer c)}
    {α : Type} {x : A.Tx} {f : A.Result x → A.Thread α} {db : S.Db} :
    A.alone now answer (A.run x >>= f) db =
      match execute [] db (A.body x now) S.none with
      | .ok (r, log) => A.alone now answer (f r) (S.apply log db)
      | .error e => some (.error e, db) := by
  change A.alone now answer (.act (.transaction x) fun r => Tree.ofExcept r >>= f) db = _
  rw [alone]
  cases execute [] db (A.body x now) S.none with
  | ok done => rfl
  | error e => rfl

/-- One transaction alone: it commits. -/
theorem alone_run_ok {A : App S} {now : Int} {answer : (c : A.Call) → Option (A.Answer c)}
    {x : A.Tx} {db : S.Db} {r : A.Result x} {log : S.Changes}
    (ran : execute [] db (A.body x now) S.none = .ok (r, log)) :
    A.alone now answer (A.run x) db = some (.ok r, S.apply log db) := by
  rw [run, alone, ran]
  rfl

/-- One transaction alone: it throws, and nothing of it stays. -/
theorem alone_run_error {A : App S} {now : Int} {answer : (c : A.Call) → Option (A.Answer c)}
    {x : A.Tx} {db : S.Db} {e : S.Err} (ran : execute [] db (A.body x now) S.none = .error e) :
    A.alone now answer (A.run x) db = some (.error e, db) := by
  rw [run, alone, ran]
  rfl

/-- Every transaction the thread can run, with its calls answered so, is of a kind. -/
def Runs (A : App S) (answer : (c : A.Call) → Option (A.Answer c)) (Kind : A.Tx → Prop)
    {α : Type} : A.Thread α → Prop
  | .ret _ => True
  | .fail _ => True
  | .act (.transaction x) k => Kind x ∧ ∀ r, Runs A answer Kind (k r)
  | .act (.call c) k => ∀ a, answer c = some a → Runs A answer Kind (k a)

theorem runs_bind {A : App S} {answer : (c : A.Call) → Option (A.Answer c)} {Kind : A.Tx → Prop}
    {α β : Type} {p : A.Thread β} {f : β → A.Thread α} (first : A.Runs answer Kind p)
    (rest : ∀ b, A.Runs answer Kind (f b)) : A.Runs answer Kind (p >>= f) := by
  induction p with
  | ret b => exact rest b
  | fail e => trivial
  | act a k ih =>
      cases a with
      | transaction x => exact ⟨first.1, fun r => ih r (first.2 r)⟩
      | call c => exact fun a answered => ih a (first a answered)

theorem runs_run {A : App S} {answer : (c : A.Call) → Option (A.Answer c)} {Kind : A.Tx → Prop}
    {x : A.Tx} (kind : Kind x) : A.Runs answer Kind (A.run x) :=
  ⟨kind, fun r => by cases r <;> trivial⟩

/-- What the transactions of a kind preserve, a thread of such transactions alone
preserves. -/
theorem alone_induction {A : App S} {now : Int} {answer : (c : A.Call) → Option (A.Answer c)}
    {Kind : A.Tx → Prop} {I : S.Db → Prop}
    (step : ∀ x db r log, Kind x → I db → execute [] db (A.body x now) S.none = .ok (r, log) →
      I (S.apply log db))
    {α : Type} {p : A.Thread α} (runs : A.Runs answer Kind p) {db db' : S.Db} {r : Except S.Err α}
    (ran : A.alone now answer p db = some (r, db')) (before : I db) : I db' := by
  induction p generalizing db with
  | ret a =>
      cases ran
      exact before
  | fail e =>
      cases ran
      exact before
  | act a k ih =>
      cases a with
      | transaction x =>
          rw [alone] at ran
          split at ran
          · rename_i done
            exact ih _ (runs.2 _) ran (step x db _ _ runs.1 before done)
          · exact ih _ (runs.2 _) ran before
      | call c =>
          rw [alone] at ran
          split at ran
          · rename_i answered
            exact ih _ (runs _ answered) ran before
          · cases ran

end App

variable {S : Store} {A : App S} {α : Type}

/-- A committed transaction. `begun` counts the commits before it began. -/
structure Commit (A : App S) where
  thread : Nat
  tx : A.Tx
  now : Int
  result : A.Result tx
  begun : Nat
  log : S.Changes
  held : List (S.Row × LockMode)
  spans : List (Nat × Nat)

/-- The committed history, oldest first, and the rest of the world. -/
structure World (A : App S) where
  initial : S.Db
  commits : List (Commit A)
  env : A.Env

namespace World

/-- The database after the first `n` commits. -/
def state (w : World A) (n : Nat) : S.Db :=
  (w.commits.take n).foldl (fun db c => S.apply c.log db) w.initial

/-- The database now. -/
def db (w : World A) : S.Db := w.commits.foldl (fun db c => S.apply c.log db) w.initial

/-- The world after one more commit. -/
def commit (w : World A) (c : Commit A) : World A := { w with commits := w.commits ++ [c] }

@[simp] theorem commit_commits (w : World A) (c : Commit A) :
    (w.commit c).commits = w.commits ++ [c] := rfl

@[simp] theorem commit_env (w : World A) (c : Commit A) : (w.commit c).env = w.env := rfl

@[simp] theorem commit_db (w : World A) (c : Commit A) :
    (w.commit c).db = S.apply c.log w.db := by
  simp [db, commit]

theorem state_length (w : World A) : w.state w.commits.length = w.db := by
  simp [state, db]

@[simp] theorem state_zero (w : World A) : w.state 0 = w.initial := rfl

/-- A version that exists does not change when more is committed. -/
theorem commit_state (w : World A) (c : Commit A) {n : Nat} (le : n ≤ w.commits.length) :
    (w.commit c).state n = w.state n := by
  simp [state, commit, List.take_append_of_le_length le]

/-- Each version is the one before with the commit's changes. -/
theorem state_succ (w : World A) {n : Nat} (h : n < w.commits.length) :
    w.state (n + 1) = S.apply w.commits[n].log (w.state n) := by
  rw [state, List.take_succ_eq_append_getElem h, List.foldl_append]
  rfl

theorem state_of_le (w : World A) {n : Nat} (h : w.commits.length ≤ n) : w.state n = w.db := by
  simp [state, db, List.take_of_length_le h]

/-- What holds at first and is preserved by every commit of the history holds in
every version. -/
theorem state_induction (w : World A) {P : S.Db → Prop} (zero : P w.initial)
    (step : ∀ (n : Nat) (h : n < w.commits.length), P (w.state n) →
      P (S.apply w.commits[n].log (w.state n))) (n : Nat) : P (w.state n) := by
  induction n with
  | zero => exact zero
  | succ n ih =>
      by_cases h : n < w.commits.length
      · rw [w.state_succ h]
        exact step n h ih
      · rw [w.state_of_le (by omega)]
        rwa [w.state_of_le (by omega)] at ih

/-- The history as transactions in progress meet it. -/
def timeline (w : World A) : Timeline S where
  state := w.state
  locked n := (w.commits[n]?.map fun c => exclusiveRows c.held).getD []

end World

end ReadCommitted
