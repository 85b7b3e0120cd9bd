/-
# Slots

A fetcher has so many slots, and a call holds one of them from its admission to its end.  A call that
finds no free slot waits.  A slot that is given up goes to the call that has waited longest, and is
free only if no call waits.

`Downloads` is a fetcher with the calls that have been made to it so far, any number of them, and a
`DownloadEvent` is a new call or the next thing that happens to one.  A download waits twice, for the
head of its answer and for the body, and may break off at either; and its caller may give it up at
any time, as it may give up waiting for a slot.  However a download ends, it gives up its slot
(`Downloads.leave`).
-/
import Placard.Asset.Network

namespace Placard

/-- The slots that nobody holds, and the calls that wait for one, the first of them first. -/
structure Slots where
  free : Nat
  waiting : List Nat
  deriving DecidableEq

namespace Slots

/-- A call asks for a slot: whether it has got one, and the slots after that. -/
def take (s : Slots) (call : Nat) : Bool × Slots :=
  if 0 < s.free then (true, { s with free := s.free - 1 })
  else (false, { s with waiting := s.waiting ++ [call] })

/-- A slot is given up: the call that gets it, if any waits, and the slots after that. -/
def giveUp (s : Slots) : Option Nat × Slots :=
  match s.waiting with
  | [] => (none, { s with free := s.free + 1 })
  | next :: rest => (some next, { s with waiting := rest })

def withdraw (s : Slots) (call : Nat) : Slots := { s with waiting := s.waiting.erase call }

end Slots

/-- How far a call has come. -/
inductive Progress where
  | waiting
  /-- It holds a slot, and waits for the head of its answer. -/
  | requested
  /-- It holds a slot, and waits for the body of an answer of this status. -/
  | answered (status : Nat)
  | ended (result : Except FetchError Payload)
  | abandoned

namespace Progress

def isUnderWay : Progress → Bool
  | requested => true
  | answered _ => true
  | _ => false

/-- Nothing more happens to the call. -/
def isOver : Progress → Bool
  | ended _ => true
  | abandoned => true
  | _ => false

end Progress

/-- What may happen next to the calls of a fetcher. -/
inductive DownloadEvent where
  | arrive
  /-- The status of the last answer to a call, or its breaking off. -/
  | head (call : Nat) (status : Except Breakdown Nat)
  | body (call : Nat) (content : Except Breakdown Payload)
  /-- The caller gives up. -/
  | abandon (call : Nat)

/-- The slots of a fetcher and the calls that it has had, numbered from zero. -/
structure Downloads where
  /-- The number of all slots. -/
  total : Nat
  slots : Slots
  calls : List Progress

namespace Downloads

/-- A fetcher before its first call. -/
def ofSettings (s : FetchSettings) : Downloads := ⟨s.slots, ⟨s.slots, []⟩, []⟩

/-- The number of slots that are held, as the fetcher computes it; none if more are free than there
are. -/
def inFlight? (d : Downloads) : Option Nat :=
  if d.slots.free ≤ d.total then some (d.total - d.slots.free) else none

def underWay (d : Downloads) : Nat := d.calls.countP Progress.isUnderWay

/-- A call comes to a new point. -/
def move (d : Downloads) (call : Nat) (p : Progress) : Downloads :=
  { d with calls := d.calls.set call p }

/-- A new call is admitted, or waits. -/
def arrive (d : Downloads) : Downloads :=
  let (admitted, slots) := d.slots.take d.calls.length
  { d with slots := slots, calls := d.calls ++ [if admitted then .requested else .waiting] }

/-- A download comes to its end, and its slot goes to the next call, if any waits. -/
def leave (d : Downloads) (call : Nat) (p : Progress) : Downloads :=
  let (next, slots) := d.slots.giveUp
  let d := { d.move call p with slots := slots }
  match next with
  | some next => d.move next .requested
  | none => d

def withdraw (d : Downloads) (call : Nat) : Downloads :=
  { d.move call .abandoned with slots := d.slots.withdraw call }

/-- One event; what cannot happen to a call changes nothing. -/
def step (d : Downloads) : DownloadEvent → Downloads
  | .arrive => d.arrive
  | .head call status =>
    match d.calls[call]? with
    | some .requested =>
      match status with
      | .ok status => d.move call (.answered status)
      | .error b => d.leave call (.ended (.error b.error))
    | _ => d
  | .body call content =>
    match d.calls[call]? with
    | some (.answered status) => d.leave call (.ended (Fetcher.conclude status content))
    | _ => d
  | .abandon call =>
    match d.calls[call]? with
    | some .waiting => d.withdraw call
    | some .requested => d.leave call .abandoned
    | some (.answered _) => d.leave call .abandoned
    | _ => d

def run (d : Downloads) (events : List DownloadEvent) : Downloads := events.foldl step d

end Downloads
end Placard
