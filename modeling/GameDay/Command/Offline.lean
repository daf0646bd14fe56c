import GameDay.Cloud.Environment

namespace GameDay.Command

structure Offline where
  elapsed : Instant := .zero
  made : Nat := 0

def unreachable : Cloud.ServiceError := { text := "service unreachable" }

def offline (beginning : Timestamp) : Cloud Offline where
  send _ _ s := (.error unreachable, s)
  unsent := unreachable
  calendar s := ⟨beginning.nanos + s.elapsed.nanos⟩
  clock := Offline.elapsed
  freshId s := (⟨s.made + 1⟩, { s with made := s.made + 1 })
  sleep d s := { s with elapsed := s.elapsed.after d }
  turns s := ([], s)
  pageLimit := 2 ^ 32

end GameDay.Command
