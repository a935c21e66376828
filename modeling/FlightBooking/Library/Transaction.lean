import FlightBooking.Library.Tree

/-!
Transactions of SQL statements under READ COMMITTED.

A statement reads two versions of the database: the snapshot of what was
committed when it started, in which it finds its rows, and the version current
when it got its locks, on which it evaluates its condition again and its
constraints. A transaction is a program of statements, and its changes are a
log: it sees them itself at once, everyone else when it commits.

`Commits` and `Aborts` say how a transaction can have run against a history of
committed versions (`Timeline`), one existential position for each snapshot and
each lock. They compose along `>>=`, so a property of a transaction is read off
its text. Run alone (`execute`), a transaction is the case of a history that
stands still.
-/

namespace ReadCommitted

open Interaction

universe u

/-- Row lock modes, weakest first. -/
inductive LockMode where
  | keyShare
  | share
  | noKeyUpdate
  | update
  deriving DecidableEq, Repr

namespace LockMode

/-- Which two modes one row cannot be locked in at once. -/
def conflicts : LockMode → LockMode → Bool
  | .keyShare, .update | .update, .keyShare => true
  | .keyShare, _ | _, .keyShare => false
  | .share, .share => false
  | _, _ => true

/-- The modes a writer takes. -/
def exclusive : LockMode → Bool
  | .noKeyUpdate | .update => true
  | .keyShare | .share => false

theorem conflicts_of_exclusive {a b : LockMode} (ha : a.exclusive = true)
    (hb : b.exclusive = true) : a.conflicts b = true := by
  revert ha hb
  cases a <;> cases b <;> decide

end LockMode

/-- A database as transactions see it: versions, the rows they lock, and sets of
changes. `Agree r` relates two versions that hold the same for row `r`. -/
structure Store where
  Db : Type
  Row : Type
  Changes : Type
  Err : Type
  [rowEq : DecidableEq Row]
  none : Changes
  append : Changes → Changes → Changes
  apply : Changes → Db → Db
  touched : Changes → List Row
  Agree : Row → Db → Db → Prop
  append_none : ∀ c, append c none = c
  none_append : ∀ c, append none c = c
  apply_none : ∀ db, apply none db = db
  apply_append : ∀ c d db, apply (append c d) db = apply d (apply c db)
  touched_none : touched none = []
  mem_touched_append : ∀ r c d, r ∈ touched (append c d) ↔ r ∈ touched c ∨ r ∈ touched d
  agree_refl : ∀ r db, Agree r db db
  agree_trans : ∀ r a b c, Agree r a b → Agree r b c → Agree r a c
  agree_apply : ∀ r c db, r ∉ touched c → Agree r db (apply c db)
  agree_congr : ∀ r c a b, Agree r a b → Agree r (apply c a) (apply c b)

attribute [instance] Store.rowEq
attribute [simp] Store.append_none Store.none_append Store.apply_none Store.apply_append
  Store.touched_none Store.mem_touched_append

variable {S : Store} {α β ρ : Type}

/-- What a statement did: its answer, its changes, and the rows it locked
besides those it changed. -/
structure Outcome (S : Store) (ρ : Type) where
  reply : ρ
  writes : S.Changes := S.none
  locks : List (S.Row × LockMode) := []

/-- The rows locked in an exclusive mode. -/
def exclusiveRows (locks : List (S.Row × LockMode)) : List S.Row :=
  (locks.filter fun l => l.2.exclusive).map (·.1)

@[simp] theorem exclusiveRows_append (a b : List (S.Row × LockMode)) :
    exclusiveRows (a ++ b) = exclusiveRows a ++ exclusiveRows b := by
  simp [exclusiveRows]

namespace Outcome

/-- Every lock the statement leaves behind: a changed row is locked too. -/
def held (o : Outcome S ρ) : List (S.Row × LockMode) :=
  o.locks ++ (S.touched o.writes).map fun r => (r, .noKeyUpdate)

theorem touched_held (o : Outcome S ρ) {r : S.Row} (h : r ∈ S.touched o.writes) :
    r ∈ exclusiveRows o.held := by
  simp only [held, exclusiveRows, List.mem_map, List.mem_filter, List.mem_append]
  exact ⟨(r, .noKeyUpdate), ⟨.inr ⟨r, h, rfl⟩, rfl⟩, rfl⟩

theorem locks_held (o : Outcome S ρ) {r : S.Row} {m : LockMode} (h : (r, m) ∈ o.locks)
    (exclusive : m.exclusive = true) : r ∈ exclusiveRows o.held := by
  simp only [held, exclusiveRows, List.mem_map, List.mem_filter, List.mem_append]
  exact ⟨(r, m), ⟨.inl h, exclusive⟩, rfl⟩

end Outcome

/-- A statement, given the rows it passes over (SKIP LOCKED), its snapshot and
the version it locked. -/
abbrev Statement (S : Store) (ρ : Type) : Type :=
  List S.Row → S.Db → S.Db → Except S.Err (Outcome S ρ)

/-- A transaction's text: statements and what it computes between them. An error
ends it and undoes it. -/
abbrev Prog (S : Store) (α : Type) : Type 1 :=
  Tree (Σ ρ : Type, Statement S ρ) (fun s => s.1) S.Err α

/-- Send one statement. -/
def query (s : Statement S ρ) : Prog S ρ := .act ⟨ρ, s⟩ .ret

/-! ### Running against a history -/

/-- The committed versions in order, and the rows each commit held exclusively. -/
structure Timeline (S : Store) where
  state : Nat → S.Db
  locked : Nat → List S.Row

namespace Timeline

/-- A commit leaves the rows it had not locked as they were. -/
def Framed (T : Timeline S) : Prop :=
  ∀ j r, r ∉ T.locked j → S.Agree r (T.state j) (T.state (j + 1))

/-- Nobody else committed with row `r` locked from version `i` to version `n`. -/
def Keeps (T : Timeline S) (r : S.Row) (i n : Nat) : Prop :=
  ∀ j, i ≤ j → j < n → r ∉ T.locked j

theorem Keeps.mono {T : Timeline S} {r : S.Row} {i n m : Nat} (h : T.Keeps r i n)
    (le : m ≤ n) : T.Keeps r i m :=
  fun j hi hj => h j hi (by omega)

/-- A row that was kept locked is the same at both ends. -/
theorem Framed.agree {T : Timeline S} (framed : T.Framed) {r : S.Row} {i n : Nat} (le : i ≤ n)
    (kept : T.Keeps r i n) : S.Agree r (T.state i) (T.state n) := by
  induction n with
  | zero =>
      obtain rfl : i = 0 := by omega
      exact S.agree_refl _ _
  | succ n ih =>
      rcases Nat.lt_or_ge n i with lt | ge
      · obtain rfl : i = n + 1 := by omega
        exact S.agree_refl _ _
      · exact S.agree_trans _ _ _ _ (ih ge (kept.mono (by omega)))
          (framed n r (kept n ge (by omega)))

/-- The history of a database nobody else writes to. -/
def still (db : S.Db) : Timeline S where
  state _ := db
  locked _ := []

@[simp] theorem still_state (db : S.Db) (n : Nat) : (still db : Timeline S).state n = db := rfl

theorem still_framed (db : S.Db) : (still db : Timeline S).Framed :=
  fun _ _ _ => S.agree_refl _ _

theorem still_keeps (db : S.Db) (r : S.Row) (i n : Nat) : (still db : Timeline S).Keeps r i n :=
  fun _ _ _ => List.not_mem_nil

end Timeline

/-- How far a transaction has come: the version its last statement locked, its
changes so far, the locks it holds, and for each statement so far the version it
started on and the version it locked. -/
structure Cursor (S : Store) where
  pos : Nat
  log : S.Changes
  held : List (S.Row × LockMode)
  spans : List (Nat × Nat)

/-- The version `i` as a transaction with the changes `c.log` sees it. -/
def Cursor.view (c : Cursor S) (T : Timeline S) (i : Nat) : S.Db := S.apply c.log (T.state i)

/-- Before the first statement. -/
def Cursor.start (i : Nat) : Cursor S := ⟨i, S.none, [], []⟩

/-- After a statement that started on version `snap` and locked version `cur`. -/
def Cursor.next (c : Cursor S) (snap cur : Nat) (out : Outcome S ρ) : Cursor S :=
  ⟨cur, S.append c.log out.writes, c.held ++ out.held, c.spans ++ [(snap, cur)]⟩

@[simp] theorem Cursor.next_pos (c : Cursor S) (snap cur : Nat) (out : Outcome S ρ) :
    (c.next snap cur out).pos = cur := rfl

@[simp] theorem Cursor.next_log (c : Cursor S) (snap cur : Nat) (out : Outcome S ρ) :
    (c.next snap cur out).log = S.append c.log out.writes := rfl

@[simp] theorem Cursor.next_held (c : Cursor S) (snap cur : Nat) (out : Outcome S ρ) :
    (c.next snap cur out).held = c.held ++ out.held := rfl

theorem Cursor.mem_held_next {c : Cursor S} {snap cur : Nat} {out : Outcome S ρ} {r : S.Row}
    (h : r ∈ exclusiveRows c.held ∨ r ∈ exclusiveRows out.held) :
    r ∈ exclusiveRows (c.next snap cur out).held := by
  simpa using h

@[simp] theorem Cursor.next_spans (c : Cursor S) (snap cur : Nat) (out : Outcome S ρ) :
    (c.next snap cur out).spans = c.spans ++ [(snap, cur)] := rfl

@[simp] theorem Cursor.start_view (T : Timeline S) (i j : Nat) :
    (Cursor.start i : Cursor S).view T j = T.state j := S.apply_none _

@[simp] theorem Cursor.start_log (i : Nat) : (Cursor.start i : Cursor S).log = S.none := rfl

@[simp] theorem Cursor.start_pos (i : Nat) : (Cursor.start i : Cursor S).pos = i := rfl

@[simp] theorem Cursor.start_held (i : Nat) : (Cursor.start i : Cursor S).held = [] := rfl

@[simp] theorem Cursor.start_spans (i : Nat) : (Cursor.start i : Cursor S).spans = [] := rfl

/-- The statement answered `x`: it started on version `snap`, had its locks at
version `cur`, and kept them until version `n`. -/
def Executes (T : Timeline S) (n : Nat) (c : Cursor S) (s : Statement S ρ) (x : ρ)
    (c' : Cursor S) : Prop :=
  ∃ skip snap cur out, c.pos ≤ snap ∧ snap ≤ cur ∧ cur ≤ n ∧
    s skip (c.view T snap) (c.view T cur) = .ok out ∧ x = out.reply ∧
    c' = c.next snap cur out ∧ ∀ r ∈ exclusiveRows out.held, T.Keeps r cur n

/-- The transaction ran to its end with result `r`. -/
def Commits (T : Timeline S) (n : Nat) : Prog S α → Cursor S → α → Cursor S → Prop
  | .ret a, c, r, c' => r = a ∧ c' = c
  | .fail _, _, _, _ => False
  | .act s k, c, r, c' => ∃ x c₁, Executes T n c s.2 x c₁ ∧ Commits T n (k x) c₁ r c'

/-- The transaction ended in the error `e`, having come as far as `c'`. -/
def Aborts (T : Timeline S) (n : Nat) : Prog S α → Cursor S → S.Err → Cursor S → Prop
  | .ret _, _, _, _ => False
  | .fail e', c, e, c' => e = e' ∧ c' = c
  | .act s k, c, e, c' =>
      (∃ skip snap cur, c.pos ≤ snap ∧ snap ≤ cur ∧ cur ≤ n ∧
        s.2 skip (c.view T snap) (c.view T cur) = .error e ∧ c' = c) ∨
      ∃ x c₁, Executes T n c s.2 x c₁ ∧ Aborts T n (k x) c₁ e c'

section Rules

variable {T : Timeline S} {n : Nat} {c c' : Cursor S}

@[simp] theorem commits_ret {a r : α} : Commits T n (.ret a) c r c' ↔ r = a ∧ c' = c := Iff.rfl

@[simp] theorem commits_fail {e : S.Err} {r : α} : ¬ Commits T n (.fail e) c r c' := id

theorem commits_act {s : Σ ρ : Type, Statement S ρ} {k : s.1 → Prog S α} {r : α} :
    Commits T n (.act s k) c r c' ↔
      ∃ x c₁, Executes T n c s.2 x c₁ ∧ Commits T n (k x) c₁ r c' := Iff.rfl

theorem commits_query {s : Statement S ρ} {r : ρ} :
    Commits T n (query s) c r c' ↔ Executes T n c s r c' := by
  change (∃ x c₁, Executes T n c s x c₁ ∧ r = x ∧ c' = c₁) ↔ _
  constructor
  · rintro ⟨x, c₁, done, rfl, rfl⟩
    exact done
  · exact fun done => ⟨r, c', done, rfl, rfl⟩

theorem commits_bind {p : Prog S β} {f : β → Prog S α} {r : α} :
    Commits T n (p >>= f) c r c' ↔
      ∃ b c₁, Commits T n p c b c₁ ∧ Commits T n (f b) c₁ r c' := by
  induction p generalizing c with
  | ret b =>
      constructor
      · exact fun h => ⟨b, c, ⟨rfl, rfl⟩, h⟩
      · rintro ⟨b, c₁, ⟨rfl, rfl⟩, h⟩
        exact h
  | fail e =>
      constructor
      · exact False.elim
      · rintro ⟨_, _, h, _⟩
        exact h
  | act s k ih =>
      constructor
      · rintro ⟨x, c₁, done, rest⟩
        obtain ⟨b, c₂, first, second⟩ := (ih x).mp rest
        exact ⟨b, c₂, ⟨x, c₁, done, first⟩, second⟩
      · rintro ⟨b, c₂, ⟨x, c₁, done, first⟩, second⟩
        exact ⟨x, c₁, done, (ih x).mpr ⟨b, c₂, first, second⟩⟩

theorem aborts_bind {p : Prog S β} {f : β → Prog S α} {e : S.Err} :
    Aborts T n (p >>= f) c e c' ↔
      Aborts T n p c e c' ∨ ∃ b c₁, Commits T n p c b c₁ ∧ Aborts T n (f b) c₁ e c' := by
  induction p generalizing c with
  | ret b =>
      constructor
      · exact fun h => .inr ⟨b, c, ⟨rfl, rfl⟩, h⟩
      · rintro (h | ⟨b, c₁, ⟨rfl, rfl⟩, h⟩)
        · exact h.elim
        · exact h
  | fail e' =>
      constructor
      · exact fun h => .inl h
      · rintro (h | ⟨_, _, h, _⟩)
        · exact h
        · exact h.elim
  | act s k ih =>
      constructor
      · rintro (failed | ⟨x, c₁, done, rest⟩)
        · exact .inl (.inl failed)
        · rcases (ih x).mp rest with rest | ⟨b, c₂, first, second⟩
          · exact .inl (.inr ⟨x, c₁, done, rest⟩)
          · exact .inr ⟨b, c₂, ⟨x, c₁, done, first⟩, second⟩
      · rintro ((failed | ⟨x, c₁, done, rest⟩) | ⟨b, c₂, ⟨x, c₁, done, first⟩, second⟩)
        · exact .inl failed
        · exact .inr ⟨x, c₁, done, (ih x).mpr (.inl rest)⟩
        · exact .inr ⟨x, c₁, done, (ih x).mpr (.inr ⟨b, c₂, first, second⟩)⟩

theorem aborts_query {s : Statement S ρ} {e : S.Err} (h : Aborts T n (query s) c e c') :
    ∃ skip snap cur, c.pos ≤ snap ∧ snap ≤ cur ∧ cur ≤ n ∧
      s skip (c.view T snap) (c.view T cur) = .error e ∧ c' = c := by
  rcases h with failed | ⟨x, c₁, -, rest⟩
  · exact failed
  · exact rest.elim

/-- What a statement saw of the rows it locked is what its transaction sees of
them when it commits. -/
theorem Executes.outcome (framed : T.Framed) {s : Statement S ρ} {x : ρ}
    (h : Executes T n c s x c') :
    ∃ skip snap cur out, c.pos ≤ snap ∧ snap ≤ cur ∧ cur ≤ n ∧
      s skip (c.view T snap) (c.view T cur) = .ok out ∧ x = out.reply ∧ c' = c.next snap cur out ∧
      (∀ r ∈ exclusiveRows out.held, T.Keeps r cur n) ∧
      ∀ r ∈ exclusiveRows out.held, S.Agree r (c.view T cur) (c.view T n) := by
  obtain ⟨skip, snap, cur, out, le, le', le'', done, reply, next, kept⟩ := h
  exact ⟨skip, snap, cur, out, le, le', le'', done, reply, next, kept,
    fun r mem => S.agree_congr _ _ _ _ (framed.agree le'' (kept r mem))⟩

/-- A row that is kept locked looks the same in every version until the commit. -/
theorem Cursor.agree_of_keeps (framed : T.Framed) {r : S.Row} {i k : Nat} (kept : T.Keeps r i n)
    (le : i ≤ k) (le' : k ≤ n) : S.Agree r (c.view T i) (c.view T k) :=
  S.agree_congr _ _ _ _ (framed.agree le (kept.mono le'))

/-- Alone, every version is the same. -/
theorem Executes.alone {db : S.Db} {s : Statement S ρ} {x : ρ}
    (h : Executes (.still db) n c s x c') :
    ∃ skip snap cur out, s skip (S.apply c.log db) (S.apply c.log db) = .ok out ∧
      x = out.reply ∧ c' = c.next snap cur out := by
  obtain ⟨skip, snap, cur, out, -, -, -, done, reply, next, -⟩ := h
  exact ⟨skip, snap, cur, out, done, reply, next⟩

theorem Executes.pos_le {s : Statement S ρ} {x : ρ} (h : Executes T n c s x c') :
    c.pos ≤ c'.pos ∧ c'.pos ≤ n := by
  obtain ⟨skip, snap, cur, out, h₁, h₂, h₃, -, -, rfl, -⟩ := h
  exact ⟨Nat.le_trans h₁ h₂, h₃⟩

/-- What a transaction has locked it keeps locked. -/
theorem Commits.held_mono {p : Prog S α} {r : α} (h : Commits T n p c r c') {row : S.Row}
    (mem : row ∈ exclusiveRows c.held) : row ∈ exclusiveRows c'.held := by
  induction p generalizing c with
  | ret a =>
      obtain ⟨-, rfl⟩ := h
      exact mem
  | fail e => exact h.elim
  | act s k ih =>
      obtain ⟨x, c₁, ⟨skip, snap, cur, out, -, -, -, -, -, rfl, -⟩, rest⟩ := h
      exact ih x rest (by simp [mem])

/-- What a transaction has changed it has locked. -/
theorem Commits.covered {p : Prog S α} {r : α} (h : Commits T n p c r c')
    (before : ∀ row ∈ S.touched c.log, row ∈ exclusiveRows c.held) {row : S.Row}
    (mem : row ∈ S.touched c'.log) : row ∈ exclusiveRows c'.held := by
  induction p generalizing c with
  | ret a =>
      obtain ⟨-, rfl⟩ := h
      exact before row mem
  | fail e => exact h.elim
  | act s k ih =>
      obtain ⟨x, c₁, ⟨skip, snap, cur, out, -, -, -, -, -, rfl, -⟩, rest⟩ := h
      refine ih x rest fun row' mem' => Cursor.mem_held_next ?_
      rw [Cursor.next_log, S.mem_touched_append] at mem'
      exact mem'.imp (before row') out.touched_held

/-- The statements run so far stay on record. -/
theorem Commits.spans_prefix {p : Prog S α} {r : α} (h : Commits T n p c r c') :
    c.spans <+: c'.spans := by
  induction p generalizing c with
  | ret a =>
      obtain ⟨-, rfl⟩ := h
      exact List.prefix_refl _
  | fail e => exact h.elim
  | act s k ih =>
      obtain ⟨x, c₁, ⟨skip, snap, cur, out, -, -, -, -, -, rfl, -⟩, rest⟩ := h
      exact (List.prefix_append _ _).trans (ih x rest)

theorem Aborts.spans_prefix {p : Prog S α} {e : S.Err} (h : Aborts T n p c e c') :
    c.spans <+: c'.spans := by
  induction p generalizing c with
  | ret a => exact h.elim
  | fail e' =>
      obtain ⟨-, rfl⟩ := h
      exact List.prefix_refl _
  | act s k ih =>
      rcases h with ⟨_, _, _, _, _, _, _, rfl⟩ | ⟨x, c₁, ⟨skip, snap, cur, out, -, -, -, -, -, rfl, -⟩, rest⟩
      · exact List.prefix_refl _
      · exact (List.prefix_append _ _).trans (ih x rest)

/-- Every version a transaction has locked lies behind it. -/
theorem Commits.span_le {p : Prog S α} {r : α} (h : Commits T n p c r c')
    (before : ∀ span ∈ c.spans, span.2 ≤ c.pos) : ∀ span ∈ c'.spans, span.2 ≤ c'.pos := by
  induction p generalizing c with
  | ret a =>
      obtain ⟨-, rfl⟩ := h
      exact before
  | fail e => exact h.elim
  | act s k ih =>
      obtain ⟨x, c₁, ⟨skip, snap, cur, out, le, le', -, -, -, rfl, -⟩, rest⟩ := h
      refine ih x rest fun span mem => ?_
      rcases List.mem_append.mp mem with mem | mem
      · exact Nat.le_trans (before span mem) (Nat.le_trans le le')
      · obtain rfl := List.mem_singleton.mp mem
        exact Nat.le_refl cur

/-- Positions only move forward. -/
theorem Commits.pos_le {p : Prog S α} {r : α} (h : Commits T n p c r c') : c.pos ≤ c'.pos := by
  induction p generalizing c with
  | ret a =>
      obtain ⟨-, rfl⟩ := h
      exact Nat.le_refl _
  | fail e => exact h.elim
  | act s k ih =>
      obtain ⟨x, c₁, done, rest⟩ := h
      exact Nat.le_trans done.pos_le.1 (ih x rest)

end Rules

/-! ### What a transaction may write -/

/-- Every change a statement of the transaction can make satisfies `Q`, given the
version the statement locked. -/
def Writes (Q : S.Db → S.Changes → Prop) : Prog S α → Prop
  | .ret _ => True
  | .fail _ => True
  | .act s k => (∀ skip snap cur out, s.2 skip snap cur = .ok out → Q cur out.writes) ∧
      ∀ x, Writes Q (k x)

@[simp] theorem writes_ret (Q : S.Db → S.Changes → Prop) (a : α) :
    Writes Q (.ret a : Prog S α) := trivial

@[simp] theorem writes_fail (Q : S.Db → S.Changes → Prop) (e : S.Err) :
    Writes Q (.fail e : Prog S α) := trivial

theorem writes_query {Q : S.Db → S.Changes → Prop} {s : Statement S ρ}
    (h : ∀ skip snap cur out, s skip snap cur = .ok out → Q cur out.writes) : Writes Q (query s) :=
  ⟨h, fun _ => trivial⟩

theorem writes_bind {Q : S.Db → S.Changes → Prop} {p : Prog S β} {f : β → Prog S α}
    (hp : Writes Q p) (hf : ∀ b, Writes Q (f b)) : Writes Q (p >>= f) := by
  induction p with
  | ret b => exact hf b
  | fail e => trivial
  | act s k ih => exact ⟨hp.1, fun x => ih x (hp.2 x)⟩

/-- The changes of a whole transaction: what its statements may write composes,
read on the version it commits onto. -/
theorem Commits.writes {T : Timeline S} {n : Nat} (framed : T.Framed)
    {Q : S.Db → S.Changes → Prop}
    (frame : ∀ a b c, Q a c → (∀ r ∈ S.touched c, S.Agree r a b) → Q b c)
    (append : ∀ db c d, Q db c → Q (S.apply c db) d → Q db (S.append c d)) {p : Prog S α}
    (h : Writes Q p) {c c' : Cursor S} {r : α} (ran : Commits T n p c r c')
    (before : Q (T.state n) c.log) : Q (T.state n) c'.log := by
  induction p generalizing c with
  | ret a =>
      obtain ⟨-, rfl⟩ := ran
      exact before
  | fail e => exact ran.elim
  | act s k ih =>
      obtain ⟨x, c₁, executed, rest⟩ := ran
      obtain ⟨skip, snap, cur, out, -, -, -, done, -, rfl, -, agree⟩ := executed.outcome framed
      refine ih x (h.2 x) rest (append _ _ _ before ?_)
      exact frame _ _ _ (h.1 skip _ _ out done) fun r mem => agree r (out.touched_held mem)

/-- A transaction whose statements write nothing changes nothing. -/
theorem Commits.reads {T : Timeline S} {n : Nat} {p : Prog S α}
    (h : Writes (fun _ w => w = S.none) p) {c c' : Cursor S} {r : α} (ran : Commits T n p c r c') :
    c'.log = c.log := by
  induction p generalizing c with
  | ret a =>
      obtain ⟨-, rfl⟩ := ran
      rfl
  | fail e => exact ran.elim
  | act s k ih =>
      obtain ⟨x, c₁, ⟨skip, snap, cur, out, -, -, -, done, -, rfl, -⟩, rest⟩ := ran
      rw [ih x (h.2 x) rest, Cursor.next_log, h.1 skip _ _ out done, S.append_none]

/-! ### What a transaction may throw -/

/-- Every error the transaction can end in satisfies `Q`. -/
def Throws (Q : S.Err → Prop) : Prog S α → Prop
  | .ret _ => True
  | .fail e => Q e
  | .act s k => (∀ skip snap cur e, s.2 skip snap cur = .error e → Q e) ∧ ∀ x, Throws Q (k x)

@[simp] theorem throws_ret (Q : S.Err → Prop) (a : α) : Throws Q (.ret a : Prog S α) := trivial

theorem throws_query {Q : S.Err → Prop} {s : Statement S ρ}
    (h : ∀ skip snap cur e, s skip snap cur = .error e → Q e) : Throws Q (query s) :=
  ⟨h, fun _ => trivial⟩

theorem throws_bind {Q : S.Err → Prop} {p : Prog S β} {f : β → Prog S α} (hp : Throws Q p)
    (hf : ∀ b, Throws Q (f b)) : Throws Q (p >>= f) := by
  induction p with
  | ret b => exact hf b
  | fail e => exact hp
  | act s k ih => exact ⟨hp.1, fun x => ih x (hp.2 x)⟩

theorem Throws.mono {Q R : S.Err → Prop} {p : Prog S α} (h : Throws Q p) (imp : ∀ e, Q e → R e) :
    Throws R p := by
  induction p with
  | ret a => trivial
  | fail e => exact imp e h
  | act s k ih =>
      exact ⟨fun skip snap cur e failed => imp e (h.1 skip snap cur e failed), fun x => ih x (h.2 x)⟩

theorem Aborts.throws {T : Timeline S} {n : Nat} {Q : S.Err → Prop} {p : Prog S α}
    (h : Throws Q p) {c c' : Cursor S} {e : S.Err} (ran : Aborts T n p c e c') : Q e := by
  induction p generalizing c with
  | ret a => exact ran.elim
  | fail e' =>
      obtain ⟨rfl, -⟩ := ran
      exact h
  | act s k ih =>
      rcases ran with ⟨skip, snap, cur, -, -, -, failed, -⟩ | ⟨x, c₁, -, rest⟩
      · exact h.1 skip _ _ e failed
      · exact ih x (h.2 x) rest

/-! ### Running alone -/

/-- Run a whole transaction on one version, nobody else moving; answers its
result and its changes. -/
def execute (skip : List S.Row) (db : S.Db) : Prog S α → S.Changes → Except S.Err (α × S.Changes)
  | .ret a, log => .ok (a, log)
  | .fail e, _ => .error e
  | .act s k, log =>
      match s.2 skip (S.apply log db) (S.apply log db) with
      | .error e => .error e
      | .ok out => execute skip db (k out.reply) (S.append log out.writes)

theorem execute_query {skip : List S.Row} {db : S.Db} {s : Statement S ρ} {log : S.Changes} :
    execute skip db (query s) log = (s skip (S.apply log db) (S.apply log db)).map
      fun out => (out.reply, S.append log out.writes) := by
  simp only [query, execute]
  split <;> rename_i done <;> rw [done] <;> rfl

theorem execute_query_ok {skip : List S.Row} {db : S.Db} {s : Statement S ρ} {r : ρ}
    {log log' : S.Changes} (ran : execute skip db (query s) log = .ok (r, log')) :
    ∃ out, s skip (S.apply log db) (S.apply log db) = .ok out ∧ r = out.reply ∧
      log' = S.append log out.writes := by
  rw [execute_query] at ran
  cases done : s skip (S.apply log db) (S.apply log db) with
  | error e =>
      rw [done] at ran
      cases ran
  | ok out =>
      rw [done] at ran
      cases ran
      exact ⟨out, rfl, rfl, rfl⟩

theorem execute_bind {skip : List S.Row} {db : S.Db} {p : Prog S β} {f : β → Prog S α}
    {log : S.Changes} :
    execute skip db (p >>= f) log =
      (execute skip db p log).bind fun done => execute skip db (f done.1) done.2 := by
  induction p generalizing log with
  | ret b => rfl
  | fail e => rfl
  | act s k ih =>
      simp only [Tree.act_bind, execute]
      split
      · rfl
      · exact ih _

/-- A statement that succeeds, and what follows it. -/
theorem execute_query_bind {skip : List S.Row} {db : S.Db} {s : Statement S ρ}
    {f : ρ → Prog S α} {log : S.Changes} {out : Outcome S ρ}
    (done : s skip (S.apply log db) (S.apply log db) = .ok out) :
    execute skip db (query s >>= f) log =
      execute skip db (f out.reply) (S.append log out.writes) := by
  rw [execute_bind, execute_query, done]
  rfl

/-- A statement that only answers `x`, and what follows it. -/
theorem execute_read_bind {skip : List S.Row} {db : S.Db} {s : Statement S ρ}
    {f : ρ → Prog S α} {log : S.Changes} {x : ρ} {locks : List (S.Row × LockMode)}
    (done : s skip (S.apply log db) (S.apply log db) = .ok { reply := x, locks }) :
    execute skip db (query s >>= f) log = execute skip db (f x) log := by
  rw [execute_query_bind done, S.append_none]

/-- A statement that raises an error. -/
theorem execute_raise_bind {skip : List S.Row} {db : S.Db} {s : Statement S ρ}
    {f : ρ → Prog S α} {log : S.Changes} {e : S.Err}
    (failed : s skip (S.apply log db) (S.apply log db) = .error e) :
    execute skip db (query s >>= f) log = .error e := by
  rw [execute_bind, execute_query, failed]
  rfl

theorem Throws.execute {skip : List S.Row} {db : S.Db} {Q : S.Err → Prop} {p : Prog S α}
    (h : Throws Q p) {log : S.Changes} {e : S.Err} (ran : execute skip db p log = .error e) : Q e := by
  induction p generalizing log with
  | ret a => cases ran
  | fail e' =>
      cases ran
      exact h
  | act s k ih =>
      rw [ReadCommitted.execute] at ran
      split at ran
      · rename_i failed
        cases ran
        exact h.1 skip _ _ e failed
      · exact ih _ (h.2 _) ran

/-- No statement of the transaction tells two versions apart that `R` relates. -/
def Oblivious (R : S.Db → S.Db → Prop) : Prog S α → Prop
  | .ret _ => True
  | .fail _ => True
  | .act s k => (∀ a b, R a b → s.2 [] a a = s.2 [] b b) ∧ ∀ x, Oblivious R (k x)

@[simp] theorem oblivious_ret (R : S.Db → S.Db → Prop) (a : α) :
    Oblivious R (.ret a : Prog S α) := trivial

@[simp] theorem oblivious_fail (R : S.Db → S.Db → Prop) (e : S.Err) :
    Oblivious R (.fail e : Prog S α) := trivial

theorem oblivious_query {R : S.Db → S.Db → Prop} {s : Statement S ρ}
    (same : ∀ a b, R a b → s [] a a = s [] b b) : Oblivious R (query s) :=
  ⟨same, fun _ => trivial⟩

theorem oblivious_bind {R : S.Db → S.Db → Prop} {p : Prog S β} {f : β → Prog S α}
    (first : Oblivious R p) (rest : ∀ b, Oblivious R (f b)) : Oblivious R (p >>= f) := by
  induction p with
  | ret b => exact rest b
  | fail e => trivial
  | act s k ih => exact ⟨first.1, fun x => ih x (first.2 x)⟩

/-- Two versions that stay related under the same changes run the transaction alike. -/
theorem Oblivious.execute_eq {R : S.Db → S.Db → Prop} {p : Prog S α} (oblivious : Oblivious R p)
    {a b : S.Db} {log : S.Changes} (related : ∀ log, R (S.apply log a) (S.apply log b)) :
    execute [] a p log = execute [] b p log := by
  induction p generalizing log with
  | ret r => rfl
  | fail e => rfl
  | act s k ih =>
      rw [execute, execute, oblivious.1 _ _ (related log)]
      split
      · rfl
      · exact ih _ (oblivious.2 _)

/-- Running alone is running against a history that stands still. -/
theorem commits_of_execute {skip : List S.Row} {p : Prog S α} {db : S.Db} {c : Cursor S}
    {a : α} {log : S.Changes} {i : Nat} (pos : c.pos ≤ i)
    (h : execute skip db p c.log = .ok (a, log)) :
    ∃ c' : Cursor S, Commits (.still db) i p c a c' ∧ c'.log = log := by
  induction p generalizing c with
  | ret b =>
      cases h
      exact ⟨c, ⟨rfl, rfl⟩, rfl⟩
  | fail e => cases h
  | act s k ih =>
      rw [execute] at h
      split at h
      · cases h
      · rename_i out done
        obtain ⟨c', rest, same⟩ :=
          ih out.reply (c := c.next i i out) (Nat.le_refl i) h
        refine ⟨c', ⟨out.reply, _, ?_, rest⟩, same⟩
        exact ⟨skip, i, i, out, pos, Nat.le_refl i, Nat.le_refl i, done, rfl, rfl,
          fun r _ => Timeline.still_keeps _ r _ _⟩

theorem aborts_of_execute {skip : List S.Row} {p : Prog S α} {db : S.Db} {c : Cursor S}
    {e : S.Err} {i : Nat} (pos : c.pos ≤ i) (h : execute skip db p c.log = .error e) :
    ∃ c' : Cursor S, Aborts (.still db) i p c e c' := by
  induction p generalizing c with
  | ret b => cases h
  | fail e' =>
      cases h
      exact ⟨c, rfl, rfl⟩
  | act s k ih =>
      rw [execute] at h
      split at h
      · rename_i e' failed
        cases h
        exact ⟨c, .inl ⟨skip, i, i, pos, Nat.le_refl i, Nat.le_refl i, failed, rfl⟩⟩
      · rename_i out done
        obtain ⟨c', rest⟩ := ih out.reply (c := c.next i i out) (Nat.le_refl i) h
        refine ⟨c', .inr ⟨out.reply, c.next i i out, ?_, rest⟩⟩
        exact ⟨skip, i, i, out, pos, Nat.le_refl i, Nat.le_refl i, done, rfl, rfl,
          fun r _ => Timeline.still_keeps _ r _ _⟩

end ReadCommitted
