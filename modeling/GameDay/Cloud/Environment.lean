import GameDay.Cloud.Plan
import GameDay.Instant

namespace GameDay

/-- The services as seen from outside, over worlds `W`, and the clocks. -/
structure Cloud (W : Type) where
  send : Access → (request : Cloud.Request) → W → Except Cloud.ServiceError request.Answer × W
  unsent : Cloud.ServiceError
  calendar : W → Timestamp
  clock : W → Instant
  freshId : W → Uuid × W
  sleep : Duration → W → W
  turns : W → List Nat × W
  /-- The pages that a listing is followed for. One that does not end by then is taken not to end. -/
  pageLimit : Nat

namespace Cloud

structure Scene (W : Type) where
  world : W
  durations : Fis.DurationCache := .empty
  calls : Array (Access × Request) := #[]

variable {W α : Type} (cloud : Cloud W)

def sendNoted (access : Access) (request : Request) (s : Scene W) :
    Except ServiceError request.Answer × Scene W :=
  if request.canBeSent then
    let (answer, world) := cloud.send access request s.world
    (answer, { s with world, calls := s.calls.push (access, request) })
  else (.error cloud.unsent, s)

def perform : (effect : Effect) → Scene W → effect.Answer × Scene W
  | .send access request, s => cloud.sendNoted access request s
  | .lookUp template, s => (s.durations.get? template, s)
  | .record template duration, s =>
    ((), { s with durations := s.durations.record (cloud.calendar s.world) template duration })
  | .clock, s => (cloud.calendar s.world, s)
  | .freshId, s => let (id, world) := cloud.freshId s.world; (id, { s with world })

def run (plan : Plan α) (s : Scene W) : α × Scene W := plan.run cloud.perform s

end Cloud

end GameDay
