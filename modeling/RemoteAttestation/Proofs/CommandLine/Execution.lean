import RemoteAttestation.CommandLine.Directory
import RemoteAttestation.Proofs.CommandLine.Surroundings

/-!
# Execution in a World

A world is an example of surroundings: its directory holds the files, one of these is the
device, and the random octets come from a supply. To run something in a world is to carry it
out in these surroundings, except that what it tells the operator on the way is kept as well.
So everything that is said of episodes in any surroundings is said of runs in a world.

## Main results

* `Interaction.runIn_eq_episode`: running in a world is an episode in its surroundings.
-/

namespace RemoteAttestation

/-- A **world** as the surroundings of a command. -/
def World.surroundings : Surroundings World where
  fetch w path := w.fetch path
  openDevice path w := w.openDevice path
  send command w := w.send command
  draw count w := ((w.supply.take count).rightpad count 0, { w with supply := w.supply.drop count })
  length_draw count w := by
    change (List.rightpad count 0 (w.supply.take count)).length = count
    rw [List.length_rightpad, List.length_take]
    omega

/-- **Running in a world** is an episode in these surroundings. -/
theorem Interaction.runIn_eq_episode {α : Type} (i : Interaction α) (w : World) :
    (i.runIn w).1.result = (i.episode World.surroundings w).result ∧
      (i.runIn w).2 = (i.episode World.surroundings w).state := by
  induction i generalizing w with
  | done result => exact ⟨rfl, rfl⟩
  | tell notice next ih => exact ih w
  | fetch path next ih => exact ih _ w
  | openDevice path next ih => exact ih _ _
  | send command next ih => exact ih _ _
  | draw count next ih => exact ih _ _

end RemoteAttestation
