import Polyglot.Failure

/-!
# Independent tasks

Tasks under keys, each of which does its work whether or not others fail. Every task is finished
before a failure counts: each failure is reported, and then the first one is the failure of all.
Work that was done stays done.
-/

namespace Polyglot.Tasks

variable {m : Type → Type} [Monad m] {α : Type}

/-- Do every task, and keep its outcome under its key. -/
def outcomes (tasks : List (String × ExceptT Failure m α)) :
    m (List (String × Except Failure α)) :=
  tasks.mapM fun task => return (task.1, ← task.2.run)

/-- What is reported about the tasks that failed. -/
def failureEvents (outcomes : List (String × Except Failure α)) : List Event :=
  outcomes.filterMap fun outcome =>
    match outcome.2 with
    | .ok _ => none
    | .error failure => some (.taskFailed outcome.1 failure.message)

/-- The result of each task, or the failure of the first one that failed. -/
def results (outcomes : List (String × Except Failure α)) : Except Failure (List (String × α)) :=
  outcomes.mapM fun outcome => (outcome.1, ·) <$> outcome.2

/-- The results of all tasks in their order. -/
def perform [MonadLiftT Reporting m] (tasks : List (String × ExceptT Failure m α)) :
    ExceptT Failure m (List (String × α)) :=
  ExceptT.mk do
    let outcomes ← outcomes tasks
    reportAll (failureEvents outcomes)
    return results outcomes

/-- The results of all tasks, done by a number of workers. Tasks there must be somebody to do. -/
def performWith [MonadLiftT Reporting m] (workers : Int)
    (tasks : List (String × ExceptT Failure m α)) : ExceptT Failure m (List (String × α)) :=
  if !tasks.isEmpty && workers ≤ 0 then throw (.value .noWorkers) else perform tasks

end Polyglot.Tasks
