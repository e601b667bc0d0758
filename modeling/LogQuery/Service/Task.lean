import LogQuery.Service.Call

/-!
Tasks. A task is a tree of calls: it has ended with a value, or it makes a call and goes on
according to the answer. Whoever answers the calls decides when, so that tasks can be
interleaved. `Task.run` answers them all from a service with a state.
-/

namespace LogQuery

/-- A value that is found by making calls. -/
inductive Task (α : Type) : Type where
  | done (value : α)
  | call (c : Call) (next : c.Answer → Task α)

namespace Task

/-- The task that goes on with the value of another one. -/
def bind {α β : Type} (task : Task α) (f : α → Task β) : Task β :=
  match task with
  | done value => f value
  | call c next => call c fun answer => (next answer).bind f

instance : Monad Task where
  pure := done
  bind := bind

/-- Makes a call and has its answer for a value. -/
def ask (c : Call) : Task c.Answer :=
  call c done

@[simp] theorem pure_eq_done {α : Type} (value : α) : (pure value : Task α) = done value := rfl

@[simp] theorem done_bind {α β : Type} (value : α) (f : α → Task β) :
    (done value >>= f) = f value := rfl

@[simp] theorem call_bind {α β : Type} (c : Call) (next : c.Answer → Task α) (f : α → Task β) :
    (call c next >>= f) = call c fun answer => next answer >>= f := rfl

end Task

/-- Something that answers calls, and whose state changes as it does. -/
structure Service (σ : Type) where
  answer : σ → (c : Call) → c.Answer × σ

/-- The value of a task whose calls a service answers at once, and the state of the service
then. -/
def Task.run {α σ : Type} (service : Service σ) : Task α → σ → α × σ
  | done value, state => (value, state)
  | call c next, state =>
    let (answer, state) := service.answer state c
    (next answer).run service state

theorem Task.run_bind {α β σ : Type} (service : Service σ) (task : Task α) (f : α → Task β)
    (state : σ) :
    (task.bind f).run service state =
      (f (task.run service state).1).run service (task.run service state).2 := by
  induction task generalizing state with
  | done value => rfl
  | call c next ih => exact ih _ _

end LogQuery
