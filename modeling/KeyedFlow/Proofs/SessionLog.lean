import KeyedFlow.Proofs.RunLog
import KeyedFlow.Proofs.Workspace

/-!
# The log of a session

The log of a session is made of one block for each request.  The block is empty unless the request is a run, and the
block of a run is in accord with the reply, whatever has been asked before (`Workspace.log_takeAll_adds`).
-/

namespace KeyedFlow

namespace Workspace

/-- Whether a request to a session with the given setup can add a block to the log. -/
inductive Adds (setup : Setup) (w : Workspace) : Request → EventLog → Prop where
  | generate (generation : Generation) (draws : Draws) : Adds setup w (.generate generation draws) []
  | apply {partitions : Option UInt64} {result : Except Failure Outcome} {block : EventLog}
      (hreply : (w.answer (.apply partitions)).reply = result.map .applied)
      (haccord : Run.Accord setup (w.session.partitionsAsked partitions) w.store block result) :
      Adds setup w (.apply partitions) block
  | validate : Adds setup w .validate []

private theorem adds_entries (w : Workspace) (request : Request) :
    Adds w.session.setup w request (w.entries request) := by
  cases request with
  | generate generation draws =>
    rw [entries_generate]
    exact .generate generation draws
  | apply partitions =>
    refine .apply (congrArg Answer.reply (w.answer_apply partitions)) ?_
    unfold entries
    rw [answer_apply]
    exact (Run.ends_perform w.session.setup (w.session.partitionsAsked partitions) w.store).accord
  | validate =>
    rw [entries_validate]
    exact .validate

/-- The log of a session is made of one block for each request, which is in accord with the reply. -/
theorem log_takeAll_adds (w : Workspace) (requests : List Request) :
    (w.takeAll requests).log = w.log ++ (w.calls requests).flatMap (fun call => call.1.entries call.2) ∧
    ∀ call ∈ w.calls requests, Adds w.session.setup call.1 call.2 (call.1.entries call.2) := by
  refine ⟨w.log_takeAll requests, fun call hcall => ?_⟩
  rw [← setup_of_mem_calls hcall]
  exact call.1.adds_entries call.2

example (store : FileStore) :
    ((Workspace.mk (.start .usual) store []).takeAll [.generate ⟨1, 1, 0⟩ fun _ => 0, .apply (some 0)]).log.types =
      ["pipeline.skipped"] := by
  rfl

end Workspace

end KeyedFlow
