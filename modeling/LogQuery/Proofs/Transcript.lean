import LogQuery.Service.Task

namespace LogQuery

theorem append_eq_append_cons {α : Type} {xs ys before after : List α} {x : α}
    (h : xs ++ ys = before ++ x :: after) :
    (∃ more, xs = before ++ x :: more) ∨
      ∃ more, before = xs ++ more ∧ ys = more ++ x :: after := by
  rcases List.append_eq_append_iff.mp h with ⟨more, rfl, hys⟩ | ⟨more, rfl, hcons⟩
  · exact .inr ⟨more, rfl, hys⟩
  · cases more with
    | nil => exact .inr ⟨[], by simp, hcons.symm⟩
    | cons first more =>
        cases hcons
        exact .inl ⟨more, rfl⟩

/-- A call and the answer to it. -/
structure Exchange where
  call : Call
  answer : call.Answer

namespace Task

variable {α β σ : Type}

/-- The calls of a task with the answers that a service gives. -/
def exchanges (service : Service σ) : Task α → σ → List Exchange
  | done _, _ => []
  | call c next, state =>
    ⟨c, (service.answer state c).1⟩ ::
      (next (service.answer state c).1).exchanges service (service.answer state c).2

@[simp] theorem run_done (service : Service σ) (value : α) (state : σ) :
    (done value).run service state = (value, state) := rfl

@[simp] theorem run_call (service : Service σ) (c : Call) (next : c.Answer → Task α) (state : σ) :
    (call c next).run service state =
      (next (service.answer state c).1).run service (service.answer state c).2 := rfl

@[simp] theorem exchanges_done (service : Service σ) (value : α) (state : σ) :
    (done value).exchanges service state = [] := rfl

@[simp] theorem exchanges_call (service : Service σ) (c : Call) (next : c.Answer → Task α)
    (state : σ) :
    (call c next).exchanges service state =
      ⟨c, (service.answer state c).1⟩ ::
        (next (service.answer state c).1).exchanges service (service.answer state c).2 := rfl

@[simp] theorem run_bind_eq (service : Service σ) (task : Task α) (f : α → Task β) (state : σ) :
    (task >>= f).run service state =
      (f (task.run service state).1).run service (task.run service state).2 :=
  run_bind service task f state

@[simp] theorem exchanges_bind (service : Service σ) (task : Task α) (f : α → Task β)
    (state : σ) :
    (task >>= f).exchanges service state =
      task.exchanges service state ++
        (f (task.run service state).1).exchanges service (task.run service state).2 := by
  induction task generalizing state with
  | done value => rfl
  | call c next ih =>
      simp only [call_bind, exchanges_call, run_call, List.cons_append]
      exact congrArg (List.cons _) (ih _ _)

/-- Whatever a task is answered, its calls satisfy `p` and its value satisfies `q`. -/
def Ensures (p : Call → Prop) (q : α → Prop) : Task α → Prop
  | done value => q value
  | call c next => p c ∧ ∀ answer, (next answer).Ensures p q

namespace Ensures

variable {p : Call → Prop} {q : α → Prop} {task : Task α}

theorem bind {r : β → Prop} {f : α → Task β} (h : task.Ensures p q)
    (hf : ∀ value, q value → (f value).Ensures p r) : (task >>= f).Ensures p r := by
  induction task with
  | done value => exact hf value h
  | call c next ih => exact ⟨h.1, fun answer => ih answer (h.2 answer)⟩

theorem imp {p' : Call → Prop} {q' : α → Prop} (h : task.Ensures p q) (hp : ∀ c, p c → p' c)
    (hq : ∀ value, q value → q' value) : task.Ensures p' q' := by
  induction task with
  | done value => exact hq value h
  | call c next ih => exact ⟨hp c h.1, fun answer => ih answer (h.2 answer)⟩

theorem exchanges (h : task.Ensures p q) (service : Service σ) (state : σ) :
    ∀ exchange ∈ task.exchanges service state, p exchange.call := by
  induction task generalizing state with
  | done value => simp
  | call c next ih =>
      intro exchange hmem
      rcases List.mem_cons.mp hmem with rfl | hmem
      · exact h.1
      · exact ih _ (h.2 _) _ exchange hmem

theorem run (h : task.Ensures p q) (service : Service σ) (state : σ) :
    q (task.run service state).1 := by
  induction task generalizing state with
  | done value => exact h
  | call c next ih => exact ih _ (h.2 _) _

end Ensures

end Task

end LogQuery
