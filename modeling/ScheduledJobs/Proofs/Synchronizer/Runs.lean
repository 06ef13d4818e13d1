import ScheduledJobs.Proofs.Synchronizer.Emulated

/-!
# Runs of a synchronizer

The emulator keeps its own clock, so every task comes with the time that each
of the two clocks tells while it is carried out.
-/

namespace ScheduledJobs.Synchronizer

/-- What a synchronizer can be given to do. -/
inductive Task where
  | apply (job : Job)
  | read (id : String)
  | delete (id : String)

/-- A task with the times that the clocks of the synchronizer and of the
emulator tell meanwhile. -/
structure TimedTask where
  now : Instant
  stamp : Instant
  task : Task

/-- What comes of a task. -/
inductive Answer where
  | applied (result : Except Failure Observed)
  | looked (result : Except Failure Reading)
  | deleted (result : Except Failure Unit)

/-- Carry out a task. -/
def perform {State : Type} (synchronizer : Synchronizer State) (task : Task)
    (state : State) : Answer × State :=
  match task with
  | .apply job =>
      let (result, next) := synchronizer.apply job state
      (.applied result, next)
  | .read id =>
      let (result, next) := synchronizer.read id state
      (.looked result, next)
  | .delete id =>
      let (result, next) := synchronizer.delete id state
      (.deleted result, next)

/-- Carry out a task over the emulator, while the clocks tell its times. -/
def performAt (root : String) (environment : Environment)
    (subscription : String) (timed : TimedTask) (directory : Directory) :
    Answer × Directory :=
  (overEmulator root environment subscription timed.now timed.stamp).perform
    timed.task directory

/-- Carry out tasks over the emulator one after the other. -/
def run (root : String) (environment : Environment) (subscription : String) :
    List TimedTask → Directory → List Answer × Directory
  | [], directory => ([], directory)
  | timed :: others, directory =>
      let (answer, next) :=
        performAt root environment subscription timed directory
      let (answers, last) := run root environment subscription others next
      (answer :: answers, last)

end ScheduledJobs.Synchronizer
