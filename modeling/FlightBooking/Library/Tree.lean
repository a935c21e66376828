import Mathlib.Logic.Relation
import Mathlib.Control.Monad.Basic

/-!
Programs as trees of actions.

A `Tree` stops with a result, stops with an error, or performs one action and
continues on its reply. The actions carry no meaning here: a transaction's are
its statements, a thread's are its transactions and calls.
-/

namespace Interaction

universe u

/-- A program over the actions `Act`, whose action `a` answers in `Reply a`. -/
inductive Tree (Act : Type u) (Reply : Act → Type) (ε α : Type) : Type u where
  | ret (a : α)
  | fail (e : ε)
  | act (a : Act) (k : Reply a → Tree Act Reply ε α)

namespace Tree

variable {Act : Type u} {Reply : Act → Type} {ε α β γ : Type}

/-- Sequencing; an error ends the whole program. -/
def bind : Tree Act Reply ε α → (α → Tree Act Reply ε β) → Tree Act Reply ε β
  | ret a, f => f a
  | fail e, _ => fail e
  | act a k, f => act a fun r => (k r).bind f

instance : Monad (Tree Act Reply ε) where
  pure := ret
  bind := bind

/-- Run `p`, and on an error the handler instead. -/
def tryCatch : Tree Act Reply ε α → (ε → Tree Act Reply ε α) → Tree Act Reply ε α
  | ret a, _ => ret a
  | fail e, handler => handler e
  | act a k, handler => act a fun r => (k r).tryCatch handler

instance : MonadExceptOf ε (Tree Act Reply ε) where
  throw := fail
  tryCatch := tryCatch

/-- The program that performs one action and returns its reply. -/
def perform (a : Act) : Tree Act Reply ε (Reply a) := act a ret

/-- A computed result or error as a program. -/
def ofExcept : Except ε α → Tree Act Reply ε α
  | .ok a => ret a
  | .error e => fail e

@[simp] theorem pure_eq (a : α) : (pure a : Tree Act Reply ε α) = ret a := rfl

@[simp] theorem throw_eq (e : ε) : (throw e : Tree Act Reply ε α) = fail e := rfl

@[simp] theorem ret_bind (a : α) (f : α → Tree Act Reply ε β) : (ret a >>= f) = f a := rfl

@[simp] theorem fail_bind (e : ε) (f : α → Tree Act Reply ε β) :
    (fail e >>= f) = (fail e : Tree Act Reply ε β) := rfl

@[simp] theorem act_bind (a : Act) (k : Reply a → Tree Act Reply ε α)
    (f : α → Tree Act Reply ε β) : (act a k >>= f) = act a fun r => k r >>= f := rfl

@[simp] theorem perform_bind (a : Act) (f : Reply a → Tree Act Reply ε β) :
    (perform a >>= f) = act a f := rfl

@[simp] theorem ofExcept_ok (a : α) : (ofExcept (.ok a) : Tree Act Reply ε α) = ret a := rfl

@[simp] theorem ofExcept_error (e : ε) :
    (ofExcept (.error e) : Tree Act Reply ε α) = fail e := rfl

theorem bind_ret (p : Tree Act Reply ε α) : (p >>= ret) = p := by
  induction p with
  | ret a => rfl
  | fail e => rfl
  | act a k ih => exact congrArg (act a) (funext ih)

theorem bind_assoc' (p : Tree Act Reply ε α) (f : α → Tree Act Reply ε β)
    (g : β → Tree Act Reply ε γ) : (p >>= f >>= g) = (p >>= fun a => f a >>= g) := by
  induction p with
  | ret a => rfl
  | fail e => rfl
  | act a k ih => exact congrArg (act a) (funext ih)

theorem map_eq_bind (f : α → β) (p : Tree Act Reply ε α) :
    (f <$> p) = (p >>= fun a => ret (f a)) := rfl

instance : LawfulMonad (Tree Act Reply ε) :=
  LawfulMonad.mk' _ bind_ret (fun _ _ => rfl) bind_assoc'

end Tree

end Interaction
