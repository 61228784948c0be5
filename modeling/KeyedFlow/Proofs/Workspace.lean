import KeyedFlow.Session

/-!
# Workspaces

A workspace is a session together with the store on which it works and the log that collects its events.  Requests that
are taken one after the other move it from state to state (`Workspace.takeAll`); what each of them meets is listed by
`Workspace.calls`.  Nothing that is asked of a session changes its setup (`Workspace.setup_take`).
-/

namespace KeyedFlow

/-- A session, its store, and the log of its events. -/
structure Workspace where
  session : Session
  store : FileStore
  log : EventLog

namespace Workspace

/-- The answer of the session to a request. -/
def answer (w : Workspace) (request : Request) : Answer :=
  ((w.session.perform request).run w.store).1

/-- The workspace after a request. -/
def take (w : Workspace) (request : Request) : Workspace where
  session := (w.answer request).session
  store := ((w.session.perform request).run w.store).2
  log := (w.answer request).events.foldl (fun log event => log.emit event.type (some event.data)) w.log

/-- The workspace after requests, taken in order. -/
def takeAll (w : Workspace) (requests : List Request) : Workspace :=
  requests.foldl take w

/-- The requests, each with the workspace that it meets. -/
def calls : Workspace → List Request → List (Workspace × Request)
  | _, [] => []
  | w, request :: rest => (w, request) :: calls (w.take request) rest

/-- The entries of the events with which a request is answered. -/
def entries (w : Workspace) (request : Request) : EventLog :=
  (w.answer request).events.map Event.entry

@[simp] theorem takeAll_nil (w : Workspace) : w.takeAll [] = w := rfl

@[simp] theorem takeAll_cons (w : Workspace) (request : Request) (rest : List Request) :
    w.takeAll (request :: rest) = (w.take request).takeAll rest := rfl

/-- What a request logs comes after what has been logged before. -/
private theorem log_take (w : Workspace) (request : Request) : (w.take request).log = w.log ++ w.entries request := by
  unfold take entries
  dsimp only
  generalize w.log = log
  induction (w.answer request).events generalizing log with
  | nil => exact (List.append_nil log).symm
  | cons event rest ih =>
    rw [List.foldl_cons, ih, List.map_cons, EventLog.emit, List.append_assoc]
    rfl

/-- Requests log the entries of their events, one call after the other. -/
theorem log_takeAll (w : Workspace) (requests : List Request) :
    (w.takeAll requests).log = w.log ++ (w.calls requests).flatMap fun call => call.1.entries call.2 := by
  induction requests generalizing w with
  | nil => exact (List.append_nil w.log).symm
  | cons request rest ih => rw [takeAll_cons, ih, log_take, calls, List.flatMap_cons, List.append_assoc]

/-- A request for a run is answered with the outcome of the run and its events. -/
theorem answer_apply (w : Workspace) (partitions : Option UInt64) :
    w.answer (.apply partitions) =
      let run := ((Run.perform w.session.setup (w.session.partitionsAsked partitions)).run w.store).1
      ⟨run.result.map .applied, run.events, w.session⟩ := by
  unfold answer Session.perform Session.apply
  rw [DiskAction.run_bind]
  rfl

/-- A request for a validation is answered with the validation, without events. -/
theorem answer_validate (w : Workspace) :
    w.answer .validate =
      ⟨((Validation.perform w.session.setup.resultPath w.session.setup.expectedPath).run w.store).1.map .validated, [],
        w.session⟩ := by
  unfold answer Session.perform Session.validate
  rw [DiskAction.run_bind]
  rfl

/-- A request for partitions is answered with their number, which is remembered if the generation succeeds. -/
theorem answer_generate (w : Workspace) (generation : Generation) (draws : Draws) :
    w.answer (.generate generation draws) =
      match ((generation.perform draws w.session.setup.partitions).run w.store).1 with
      | .ok count => ⟨.ok (.generated count), [], { w.session with lastGenerated := some count }⟩
      | .error failure => ⟨.error failure, [], w.session⟩ := by
  unfold answer Session.perform Session.generate
  rw [DiskAction.run_bind]
  cases ((generation.perform draws w.session.setup.partitions).run w.store).1 <;> rfl

/-- Only runs are logged. -/
theorem entries_generate (w : Workspace) (generation : Generation) (draws : Draws) :
    w.entries (.generate generation draws) = [] := by
  unfold entries
  rw [answer_generate]
  cases ((generation.perform draws w.session.setup.partitions).run w.store).1 <;> rfl

/-- Validations are not logged. -/
theorem entries_validate (w : Workspace) : w.entries .validate = [] := by
  unfold entries
  rw [answer_validate]
  rfl

/-- No request changes the setup. -/
theorem setup_take (w : Workspace) (request : Request) : (w.take request).session.setup = w.session.setup := by
  show (w.answer request).session.setup = w.session.setup
  cases request with
  | generate generation draws =>
    rw [answer_generate]
    cases ((generation.perform draws w.session.setup.partitions).run w.store).1 <;> rfl
  | apply partitions => rw [answer_apply]
  | validate => rw [answer_validate]

/-- All requests of a session meet its setup. -/
theorem setup_of_mem_calls {w : Workspace} {requests : List Request} {call : Workspace × Request}
    (h : call ∈ w.calls requests) : call.1.session.setup = w.session.setup := by
  induction requests generalizing w with
  | nil => cases h
  | cons request rest ih =>
    rcases List.mem_cons.1 h with rfl | h
    · rfl
    · exact (ih h).trans (w.setup_take request)

end Workspace

end KeyedFlow
