/-
The bounded executor of the handlers.

Every operation but the running of a job holds its mutex, so that each is one
step.  A thread runs one job at a time; whatever the job throws is caught.
-/

namespace NativeDNS

structure Executor (job : Type) where
  stopping : Bool := true
  capacity : Nat := 0
  jobs : List job := []
  threads : List (Option job) := []

namespace Executor

variable {job : Type}

def started (workers capacity : Nat) : Executor job :=
  { stopping := false
    capacity := capacity
    threads := List.replicate workers none }

/-- `submit`; it fails when the executor is stopped or its queue is full. -/
def submit (executor : Executor job) (item : job) : Option (Executor job) :=
  if executor.stopping = true ∨ executor.threads = [] ∨
      executor.capacity ≤ executor.jobs.length then none
  else some { executor with jobs := executor.jobs ++ [item] }

def take (executor : Executor job) (thread : Nat) : Option (Executor job) :=
  match executor.threads[thread]?, executor.jobs with
  | some none, item :: rest =>
      some { executor with
        jobs := rest
        threads := executor.threads.set thread (some item) }
  | _, _ => none

/-- The job of a thread ends, whether it returns or throws. -/
def finish (executor : Executor job) (thread : Nat) : Option (job × Executor job) :=
  match executor.threads[thread]? with
  | some (some item) =>
      some (item, { executor with threads := executor.threads.set thread none })
  | _ => none

end Executor

end NativeDNS
