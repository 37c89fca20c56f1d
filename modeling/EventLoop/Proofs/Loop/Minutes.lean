import EventLoop.Proofs.Loop.Conservation
import EventLoop.Proofs.Loop.Shadows

/-! A record of what a loop's objects go through: every notification with what was
asked for in answer, and every object that has come to its end. The objects' own
conduct takes these minutes beside the world and never reads them, so the loop of the
record and the loop itself are one, step for step. What is said of the record is then
said of the loop. -/
namespace EventLoop

variable {B C W : Type}

/-- The notifications that were delivered and the objects that were destroyed, in
order. -/
structure Minutes (B : Type) where
  told : List (Telling B) := []
  ended : List (Event B) := []

/-- Takes minutes: who is told what, and who is destroyed. -/
def Minutes.scribe : Scribe B C (Minutes B) where
  doing
    | .told telling _, minutes => { minutes with told := minutes.told ++ [telling] }
    | .ran .., minutes => minutes
  destroy event minutes := { minutes with ended := minutes.ended ++ [event] }

/-- Acts as `conduct` does, and takes minutes that nobody gets to see. -/
def Conduct.minuted (conduct : Conduct B C W) : Conduct B C (W × Minutes B) :=
  conduct.recorded Minutes.scribe

theorem Conduct.minuted_destroy (conduct : Conduct B C W) (event : Event B)
    (world : W × Minutes B) :
    conduct.minuted.destroy event world =
      (conduct.destroy event world.1, { world.2 with ended := world.2.ended ++ [event] }) := rfl

namespace Loop

/-- The notifications in a loop's minutes. -/
def told (loop : Loop B C (W × Minutes B)) : List (Telling B) := loop.world.2.told

/-- The destroyed objects in a loop's minutes. -/
def ended (loop : Loop B C (W × Minutes B)) : List (Event B) := loop.world.2.ended

/-- A loop whose minutes begin now. -/
def onRecord (loop : Loop B C W) : Loop B C (W × Minutes B) := loop.keeping {}

/-- What is in the minutes of a loop grows by what is destroyed. -/
theorem minuted_reckons (conduct : Conduct B C W) : conduct.minuted.Reckons fun early ended late =>
    late.2.ended = early.2.ended ++ ended where
  still _ := (List.append_nil _).symm
  trans first second := by rw [second, first, List.append_assoc]
  call _ _ _ := (List.append_nil _).symm
  destroy _ _ := rfl
  clock _ := (List.append_nil _).symm

end Loop

end EventLoop
