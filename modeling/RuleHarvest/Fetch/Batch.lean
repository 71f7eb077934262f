/-
# Fetching several pages at once

A batch fetches its requests through a window of a given width; a width of
zero counts as one. While there is room in the window the next request is
started. The fetches in flight finish in any order, but their outcomes are
taken in the order of the requests, and only then is there room again. The
first outcome taken that is an error ends the batch, and what is still in
flight is dropped.

`Batch.Step` leaves open which step comes next, so its runs are all schedules
that the window allows. It also leaves open what a fetch comes to, as far as
that depends on more than its request.

Key definitions: `Batch`, `Batch.Step`, `Batch.Steps`, `Batch.Ends`,
`Batch.Yields`.
-/
namespace RuleHarvest

variable {ρ ε α : Type}

/-- A request in flight, with its outcome once the fetch has finished. -/
structure Flight (ρ ε α : Type) where
  request : ρ
  outcome : Option (Except ε α) := none

/-- A batch under way: what was taken, the window from the earliest request on,
and the requests that are not started. -/
structure Batch (ρ ε α : Type) where
  taken : List α
  flights : List (Flight ρ ε α)
  waiting : List ρ

namespace Batch

/-- A batch before its first step. -/
def ofRequests (requests : List ρ) : Batch ρ ε α := ⟨[], [], requests⟩

/-- One step of a batch. `comes` says what the fetch of a request may come to. -/
inductive Step (width : Nat) (comes : ρ → Except ε α → Prop) : Batch ρ ε α → Batch ρ ε α → Prop where
  | start {taken flights r waiting} (room : flights.length < max 1 width) :
    Step width comes ⟨taken, flights, r :: waiting⟩ ⟨taken, flights ++ [⟨r, none⟩], waiting⟩
  | finish {taken before r after waiting outcome} (end' : comes r outcome) :
    Step width comes ⟨taken, before ++ ⟨r, none⟩ :: after, waiting⟩
      ⟨taken, before ++ ⟨r, some outcome⟩ :: after, waiting⟩
  | take {taken r a flights waiting} :
    Step width comes ⟨taken, ⟨r, some (.ok a)⟩ :: flights, waiting⟩ ⟨taken ++ [a], flights, waiting⟩

/-- Any number of steps. -/
inductive Steps (width : Nat) (comes : ρ → Except ε α → Prop) : Batch ρ ε α → Batch ρ ε α → Prop where
  | refl {b} : Steps width comes b b
  | tail {a b c} (steps : Steps width comes a b) (step : Step width comes b c) : Steps width comes a c

/-- A batch that has come to its end, and how it ends. -/
inductive Ends : Batch ρ ε α → Except ε (List α) → Prop where
  | ok {taken} : Ends ⟨taken, [], []⟩ (.ok taken)
  | error {taken r e flights waiting} :
    Ends ⟨taken, ⟨r, some (.error e)⟩ :: flights, waiting⟩ (.error e)

/-- Some schedule of the batch ends in this result. -/
def Yields (width : Nat) (comes : ρ → Except ε α → Prop) (requests : List ρ)
    (result : Except ε (List α)) : Prop :=
  ∃ b, Steps width comes (ofRequests requests) b ∧ Ends b result

end Batch
end RuleHarvest
