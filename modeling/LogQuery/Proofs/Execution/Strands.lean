import LogQuery.Execution.Stage
import LogQuery.Proofs.Transcript
import Mathlib.Logic.Function.Basic

namespace LogQuery

open LogGroups

/-- What can be seen of a call. Between the two, other regions make and hear calls of their
own. -/
inductive Signal where
  | made (c : Call)
  | answered (exchange : Exchange)

def Signal.call : Signal → Call
  | made c => c
  | answered exchange => exchange.call

def Exchange.signals (exchange : Exchange) : List Signal :=
  [.made exchange.call, .answered exchange]

/-- A task that goes beside others. -/
inductive Strand (α : Type) where
  | ready (task : Task α)
  /-- It has made a call and waits for the answer. -/
  | waiting (c : Call) (next : c.Answer → Task α)

namespace Strand

variable {α σ : Type}

def task : Strand α → Task α
  | ready task => task
  | waiting c next => .call c next

/-- What a strand can do next, and what is seen of it, where `further` is what comes after a
value. -/
inductive Step (further : α → Task α) : Strand α → Option Signal → Strand α → Prop
  | makes (c : Call) (next : c.Answer → Task α) :
      Step further (.ready (.call c next)) (some (.made c)) (.waiting c next)
  | hears (c : Call) (next : c.Answer → Task α) (answer : c.Answer) :
      Step further (.waiting c next) (some (.answered ⟨c, answer⟩)) (.ready (next answer))
  | goesOn (value : α) : Step further (.ready (.done value)) none (.ready (further value))

/-- What every step keeps is kept while a service answers the calls at once. -/
theorem run_of_step (further : α → Task α) {p : List Signal → Strand α → Prop}
    (keeps : ∀ {past strand signal? next}, p past strand → Step further strand signal? next →
      p (past ++ signal?.toList) next)
    (service : Service σ) {task : Task α} {past : List Signal} (h : p past (.ready task))
    (state : σ) :
    p (past ++ (task.exchanges service state).flatMap Exchange.signals)
      (.ready (.done (task.run service state).1)) := by
  induction task generalizing past state with
  | done value => simpa using h
  | call c next ih =>
      have made := keeps h (.makes c next)
      have heard := keeps made (.hears c next (service.answer state c).1)
      have later := ih _ heard (service.answer state c).2
      simpa [Exchange.signals] using later

end Strand

/-- Whether a task makes its calls only when they are due, and leaves what `post` tells, whatever
it is answered. -/
def Task.Holds {α : Type} (due : List Signal → Call → Prop) (post : List Signal → α → Prop) :
    List Signal → Task α → Prop
  | past, .done value => post past value
  | past, .call c next => due past c ∧
      ∀ answer, (next answer).Holds due post (past ++ Exchange.signals ⟨c, answer⟩)

namespace Task.Holds

variable {α β : Type} {due : List Signal → Call → Prop} {past : List Signal}

theorem bind {mid : List Signal → α → Prop} {post : List Signal → β → Prop} {task : Task α}
    {f : α → Task β} (h : task.Holds due mid past)
    (hf : ∀ later value, mid later value → (f value).Holds due post later) :
    (task >>= f).Holds due post past := by
  induction task generalizing past with
  | done value => exact hf past value h
  | call c next ih => exact ⟨h.1, fun answer => ih answer (h.2 answer)⟩

/-- Calls that may come in any order, as long as what `i` tells stays true. -/
theorem of_ensures {p : Call → Prop} {q : α → Prop} {i : List Signal → Prop}
    {post : List Signal → α → Prop} {task : Task α} (ensures : task.Ensures p q)
    (due_of : ∀ past c, i past → p c → due past c)
    (keeps : ∀ past (exchange : Exchange), i past → p exchange.call →
      i (past ++ exchange.signals))
    (ends : ∀ past value, i past → q value → post past value) (h : i past) :
    task.Holds due post past := by
  induction task generalizing past with
  | done value => exact ends past value h ensures
  | call c next ih =>
      refine ⟨due_of past c h ensures.1, fun answer => ih answer (ensures.2 answer) ?_⟩
      exact keeps past ⟨c, answer⟩ h ensures.1

end Task.Holds

/-- The same of a strand; the call for which it waits was due when it was made. -/
def Strand.Holds {α : Type} (due : List Signal → Call → Prop) (post : List Signal → α → Prop)
    (past : List Signal) : Strand α → Prop
  | .ready task => task.Holds due post past
  | .waiting c next => (∃ before, due before c) ∧
      ∀ answer, (next answer).Holds due post (past ++ [.answered ⟨c, answer⟩])

theorem Strand.Holds.step {α : Type} {due : List Signal → Call → Prop}
    {post : List Signal → α → Prop} {further : α → Task α} {past : List Signal}
    {strand next : Strand α} {signal? : Option Signal} (h : strand.Holds due post past)
    (goesOn : ∀ value, post past value → (further value).Holds due post past)
    (step : Step further strand signal? next) :
    next.Holds due post (past ++ signal?.toList) ∧ (∀ c, signal? = some (.made c) → due past c) ∧
      ∀ signal ∈ signal?, ∃ before, due before signal.call := by
  cases step with
  | makes c next =>
      refine ⟨⟨⟨past, h.1⟩, fun answer => ?_⟩, ?_, ?_⟩
      · rw [List.append_assoc]
        exact h.2 answer
      · rintro _ ⟨⟩
        exact h.1
      · rintro _ ⟨⟩
        exact ⟨past, h.1⟩
  | hears c next answer =>
      refine ⟨h.2 answer, by simp, ?_⟩
      rintro _ ⟨⟩
      exact h.1
  | goesOn value =>
      rw [Option.toList_none, List.append_nil]
      exact ⟨goesOn value h, by simp, by simp⟩

/-- How far an execution has come whose regions go at the same time. -/
inductive Moment where
  | connecting (work : String → Strand (Except QueryError Unit))
  | expanding (work : String → Strand Expansion)
  | alone (strand : Strand Stage)

namespace Execution

variable (execution : Execution)

def firstMoment : Moment :=
  .connecting fun region => .ready (Task.ask (.connect (execution.site region)))

/-- What can happen next, and what is seen of it. -/
inductive Moves : Moment → Option Signal → Moment → Prop
  | connects (work : String → Strand (Except QueryError Unit)) (region : String)
      (asked : region ∈ execution.query.regions) (signal? : Option Signal)
      (strand : Strand (Except QueryError Unit))
      (step : Strand.Step .done (work region) signal? strand) :
      Moves (.connecting work) signal? (.connecting (Function.update work region strand))
  | refused (work : String → Strand (Except QueryError Unit)) (region : String)
      (asked : region ∈ execution.query.regions) (e : QueryError)
      (ends : work region = .ready (.done (.error e))) :
      Moves (.connecting work) none (.alone (.ready (.done (.ended (.error e)))))
  | connected (work : String → Strand (Except QueryError Unit))
      (all : ∀ region ∈ execution.query.regions, work region = .ready (.done (.ok ()))) :
      Moves (.connecting work) none (.expanding fun region =>
        .ready (Expansion.start (execution.site region) execution.query.logGroups))
  | expands (work : String → Strand Expansion) (region : String)
      (asked : region ∈ execution.query.regions) (signal? : Option Signal)
      (strand : Strand Expansion)
      (step : Strand.Step (Expansion.turn execution.query.logGroups) (work region)
        signal? strand) :
      Moves (.expanding work) signal? (.expanding (Function.update work region strand))
  | unlisted (work : String → Strand Expansion) (region : String)
      (asked : region ∈ execution.query.regions) (e : QueryError)
      (ends : work region = .ready (.done (.ended (.error e)))) :
      Moves (.expanding work) none (.alone (.ready (.done (.ended (.error e)))))
  | expanded (work : String → Strand Expansion) (names : String → List String)
      (all : ∀ region ∈ execution.query.regions,
        work region = .ready (.done (.ended (.ok (names region))))) :
      Moves (.expanding work) none (.alone (.ready
        (execution.submit (execution.query.regions.map fun region => ⟨region, names region⟩))))
  | goes (strand : Strand Stage) (signal? : Option Signal) (next : Strand Stage)
      (step : Strand.Step execution.turn strand signal? next) :
      Moves (.alone strand) signal? (.alone next)

/-- The ways in which an execution can go, with all that has been seen of its calls, whatever
they are answered and in which order the regions take their steps. -/
inductive Course : List Signal → Moment → Prop
  | begins : Course [] execution.firstMoment
  | moves {past : List Signal} {moment : Moment} {signal? : Option Signal} {next : Moment}
      (course : Course past moment) (move : execution.Moves moment signal? next) :
      Course (past ++ signal?.toList) next

end Execution

end LogQuery
