import Mathlib.Data.List.Basic

/-!
# Programs with a state, exceptions and crashes

A program runs on a state and returns, raises, or crashes; a handler sees exceptions and no crash.
`retry` is a bounded retry whose failed attempts may have left traces in the state.
-/

inductive Outcome (ε α : Type) where
  | ok (a : α)
  | raised (e : ε)
  | crashed
  deriving DecidableEq, Repr

def Prog (σ ε α : Type) : Type := σ → Outcome ε α × σ

namespace Prog

variable {σ ε α β : Type}

instance : Monad (Prog σ ε) where
  pure a := fun s => (.ok a, s)
  bind p f := fun s =>
    match p s with
    | (.ok a, s') => f a s'
    | (.raised e, s') => (.raised e, s')
    | (.crashed, s') => (.crashed, s')

def raise (e : ε) : Prog σ ε α := fun s => (.raised e, s)

def read (f : σ → α) : Prog σ ε α := fun s => (.ok (f s), s)

def modify (f : σ → σ) : Prog σ ε Unit := fun s => (.ok (), f s)

def eval (f : σ → Except ε α) : Prog σ ε α := fun s =>
  match f s with
  | .ok a => (.ok a, s)
  | .error e => (.raised e, s)

/-- `try … except`: the handler decides by the exception, and may raise again. -/
def tryExcept (p : Prog σ ε α) (handler : ε → Prog σ ε α) : Prog σ ε α := fun s =>
  match p s with
  | (.raised e, s') => handler e s'
  | r => r

/-- At most `n + 1` attempts; an exception that is not `retryable` ends the loop. -/
def retry (retryable : ε → Bool) (gaveUp : ε → ε) (op : Prog σ ε α) : Nat → Prog σ ε α
  | 0 => op.tryExcept fun e => raise (if retryable e then gaveUp e else e)
  | n + 1 => op.tryExcept fun e => if retryable e then retry retryable gaveUp op n else raise e

def forEach (f : β → Prog σ ε Unit) : List β → Prog σ ε Unit
  | [] => pure ()
  | b :: bs => do
    f b
    forEach f bs

section Eval

variable {p : Prog σ ε α} {s s' : σ}

variable {f : α → Prog σ ε β} {a : α} {e : ε} {handler : ε → Prog σ ε α} {retryable : ε → Bool}
  {gaveUp : ε → ε}

theorem bind_ok (h : p s = (.ok a, s')) : (p >>= f) s = f a s' := by
  show (match p s with | (.ok a, s') => f a s' | (.raised e, s') => _ | (.crashed, s') => _) = _
  rw [h]

theorem read_bind (f : σ → α) (g : α → Prog σ ε β) (s : σ) : (read f >>= g) s = g (f s) s := rfl

theorem modify_bind (f : σ → σ) (g : Unit → Prog σ ε β) (s : σ) :
    (modify f >>= g) s = g () (f s) := rfl

theorem bind_raised (h : p s = (.raised e, s')) : (p >>= f) s = (.raised e, s') := by
  show (match p s with | (.ok a, s') => f a s' | (.raised e, s') => _ | (.crashed, s') => _) = _
  rw [h]

theorem eval_ok {f : σ → Except ε α} (h : f s = .ok a) : eval f s = (.ok a, s) := by
  unfold eval
  rw [h]

theorem tryExcept_ok (h : p s = (.ok a, s')) : p.tryExcept handler s = (.ok a, s') := by
  unfold tryExcept
  rw [h]

theorem tryExcept_raised (h : p s = (.raised e, s')) : p.tryExcept handler s = handler e s' := by
  unfold tryExcept
  rw [h]

theorem retry_ok (n : Nat)
    (h : p s = (.ok a, s')) : retry retryable gaveUp p n s = (.ok a, s') := by
  cases n with
  | zero | succ n => exact tryExcept_ok h

theorem retry_succ (n : Nat) (h : p s = (.raised e, s')) (hretry : retryable e = true) :
    retry retryable gaveUp p (n + 1) s = retry retryable gaveUp p n s' := by
  rw [retry, tryExcept_raised h, if_pos hretry]

end Eval

end Prog
