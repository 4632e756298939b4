import Tabletop.Roll.Source

/-!
# Scripted sources

Two sources whose every reply is known beforehand: a list of replies,
which fails once it is used up, and a linear congruential generator.
-/

namespace Tabletop

/-- **A scripted source.** -/
inductive Script
  /-- These replies, in order. -/
  | replies (rest : List Reply)
  /-- The generator in this state. -/
  | congruential (state : Int)

namespace Script

/-- The state of the generator after another one. -/
def next (state : Int) : Int :=
  (state * 1103515245 + 12345) % 2147483648

/-- **A request to a script.** The generator takes the upper half of its new
state, modulo how many numbers are asked for and with the sign of that number. -/
def draw (request : Request) : Script → Reply × Script
  | replies [] => (.failure "script exhausted", replies [])
  | replies (reply :: rest) => (reply, replies rest)
  | congruential state =>
    let state := next state
    let numbers := request.greatest - request.least + 1
    let reply :=
      if numbers = 0 then .failure "integer modulo by zero"
      else .value (.whole (request.least + (state / 65536).fmod numbers))
    (reply, congruential state)

instance : Source Script := ⟨draw⟩

end Script

end Tabletop
