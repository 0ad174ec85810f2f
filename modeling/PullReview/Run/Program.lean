import PullReview.Run.Request

/-!
# Programs

A program is done with a value, has failed, or asks a request and goes on with the reply or the
failure. It has no state of its own: what it does is the tree of its requests, so the same program
can be run alone, run with others stepping in between its requests, or reasoned about as it stands.

| here | there |
| --- | --- |
| `Program.bind` | one statement after another |
| `Program.rescue` | `try: ... except Exception` |
| `Program.andFinally` | `try: ... finally` |
-/

namespace PullReview

inductive Program (α : Type) : Type where
  | done (value : α)
  | failed (failure : Failure)
  | ask (request : Request) (next : Except Failure request.Reply → Program α)

namespace Program

/-- Goes on with the value of a program. -/
def bind : Program α → (α → Program β) → Program β
  | done a, f => f a
  | failed e, _ => failed e
  | ask r next, f => ask r fun reply => (next reply).bind f

instance : Monad Program where
  pure := done
  bind := bind

/-- Goes on with the failure of a program. -/
def rescue : Program α → (Failure → Program α) → Program α
  | done a, _ => done a
  | failed e, handle => handle e
  | ask r next, handle => ask r fun reply => (next reply).rescue handle

/-- Runs a last program after a value and after a failure alike. -/
def andFinally (p : Program α) (last : Program Unit) : Program α :=
  match p with
  | done a => last.bind fun _ => done a
  | failed e => last.bind fun _ => failed e
  | ask r next => ask r fun reply => (next reply).andFinally last

/-- Asks a request and fails with its failure. -/
def request (r : Request) : Program r.Reply :=
  ask r fun
    | .ok reply => done reply
    | .error failure => failed failure

/-- Asks a store call. -/
def store (call : StoreCall) : Program call.Reply := request (.store call)

/-! ## Laws -/

theorem bind_done (p : Program α) : p.bind done = p := by
  induction p with
  | done => rfl
  | failed => rfl
  | ask r next ih => exact congrArg (ask r) (funext ih)

theorem bind_bind (p : Program α) (f : α → Program β) (g : β → Program γ) :
    (p.bind f).bind g = p.bind fun a => (f a).bind g := by
  induction p with
  | done => rfl
  | failed => rfl
  | ask r next ih => exact congrArg (ask r) (funext ih)

instance : LawfulMonad Program where
  map_const := rfl
  id_map := bind_done
  seqLeft_eq p q := by
    show (p.bind fun a => q.bind fun _ => done a) =
      (p.bind fun a => done (Function.const _ a)).bind fun f => q.bind fun b => done (f b)
    rw [bind_bind]
    rfl
  seqRight_eq p q := by
    show (p.bind fun _ => q) =
      (p.bind fun a => done (Function.const _ id a)).bind fun f => q.bind fun b => done (f b)
    rw [bind_bind]
    exact congrArg p.bind (funext fun _ => (bind_done q).symm)
  pure_seq f p := rfl
  bind_pure_comp f p := rfl
  bind_map f p := rfl
  pure_bind a f := rfl
  bind_assoc := bind_bind

end Program

end PullReview
