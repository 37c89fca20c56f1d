import EventLoop.Frame.Intake

/-!
Running tasks. A task's message is run once, for the session it came in on, and destroyed right
after, whether the handler succeeds, fails or breaks off. What running and destroying do to the
surroundings `S` is up to the kind of message.
-/
namespace EventLoop

/-- How `Message::run` ends. -/
inductive Ending where
  | done
  | failed (reason : String)
  /-- The handler broke off in the middle. Its worker goes on with the next task. -/
  | brokeOff
deriving DecidableEq, Repr, Inhabited

/-- How messages of a kind act, by `Message::run` and when they are dropped. Running may change the
message, which is what gets destroyed. -/
structure Trade (M S : Type) where
  run : M → Nat → S → Ending × M × S
  destroy : M → S → S

/-- `run_message`: runs a task's message and destroys it. -/
def Errand.perform {M S : Type} (trade : Trade M S) (task : Errand M) (state : S) : Ending × S :=
  let (ending, message, state) := trade.run task.message task.session state
  (ending, trade.destroy message state)

end EventLoop
