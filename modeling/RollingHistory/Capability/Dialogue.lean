/-!
A computation that asks questions.

A `Dialogue` either is done or asks one question and goes on with the answer. Nothing in it says
who answers. `run` lets an answerer that knows all earlier questions answer each as it comes, and
returns the questions asked beside the result; someone who takes the questions one at a time
instead can stop between a question and its answer.
-/

namespace RollingHistory

variable {Q R α β : Type}

/-- Ends in an `α`, after any number of questions from `Q` with answers in `R`. -/
inductive Dialogue (Q R α : Type) where
  | done (result : α)
  | ask (question : Q) (resume : R → Dialogue Q R α)

namespace Dialogue

/-- Goes on with `next` where `d` is done. -/
def bind (d : Dialogue Q R α) (next : α → Dialogue Q R β) : Dialogue Q R β :=
  match d with
  | .done result => next result
  | .ask question resume => .ask question fun answer => (resume answer).bind next

instance : Monad (Dialogue Q R) where
  pure := .done
  bind := bind

/-- One question, and its answer for a result. -/
def query (question : Q) : Dialogue Q R R := .ask question .done

/-- The result, and the questions asked for it in order. The answerer is told the questions that
came before each, from `earlier` on. -/
def run (answerer : List Q → Q → R) (earlier : List Q) : Dialogue Q R α → α × List Q
  | .done result => (result, [])
  | .ask question resume =>
    let (result, later) :=
      (resume (answerer earlier question)).run answerer (earlier ++ [question])
    (result, question :: later)

@[simp] theorem run_done (answerer : List Q → Q → R) (earlier : List Q) (result : α) :
    (done result).run answerer earlier = (result, []) := rfl

theorem run_ask (answerer : List Q → Q → R) (earlier : List Q) (question : Q)
    (resume : R → Dialogue Q R α) :
    (ask question resume).run answerer earlier =
      (((resume (answerer earlier question)).run answerer (earlier ++ [question])).1,
        question :: ((resume (answerer earlier question)).run answerer (earlier ++ [question])).2) :=
  rfl

@[simp] theorem pure_eq (result : α) : (pure result : Dialogue Q R α) = .done result := rfl

@[simp] theorem bind_done (result : α) (next : α → Dialogue Q R β) :
    (done result >>= next) = next result := rfl

@[simp] theorem bind_ask (question : Q) (resume : R → Dialogue Q R α)
    (next : α → Dialogue Q R β) :
    (ask question resume >>= next) = .ask question fun answer => resume answer >>= next := rfl

end Dialogue

end RollingHistory
