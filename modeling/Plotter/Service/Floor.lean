import Plotter.Service
import Plotter.Service.Slots

/-!
# The floor

All that can happen to a service and its clients, one thing at a time, in any order (`Floor.Step`).
Clients are numbered. A client connects and waits for a slot, it may send bytes and may end its
sending; a session begins when the client is accepted, which may fail, reads some of the bytes sent,
and ends.

How many bytes a read takes is left open between one and the size of a read. So is what the calls on
a stream come to, which of them fail and how much a write takes; a session whose call failed does
nothing more but end.
-/

namespace Plotter.Service

/-- Where a client stands. -/
inductive Stage
  /-- It has not connected. -/
  | away
  /-- It has connected and waits for a slot. -/
  | queued
  /-- It has a session. -/
  | served (x : Connection)
  /-- Its session has ended. -/
  | gone (x : Connection)

/-- A client as the service sees it. -/
structure Client where
  /-- All bytes that it has sent. -/
  sent : List UInt8
  /-- Those of them that have not been read. -/
  unread : List UInt8
  /-- It sends no more. -/
  silent : Bool
  /-- Where it stands. -/
  stage : Stage

/-- A client that has not connected. -/
def Client.stranger : Client := ⟨[], [], false, .away⟩

/-- The bytes that a client has received. -/
def Client.received (c : Client) : List UInt8 :=
  match c.stage with
  | .away => []
  | .queued => []
  | .served x => x.output
  | .gone x => x.output

/-- A service with its clients. -/
structure Floor where
  /-- Where the slots are. -/
  slots : Slots
  /-- The clients. -/
  clients : Nat → Client

namespace Floor

/-- Nobody has connected. -/
def start (v : Service) : Floor := ⟨.start v.slots, fun _ => .stranger⟩

/-- The floor with one client changed. -/
def put (f : Floor) (i : Nat) (c : Client) : Floor :=
  { f with clients := fun j => if j = i then c else f.clients j }

/-- The floor with the slots changed. -/
def withSlots (f : Floor) (s : Slots) : Floor := { f with slots := s }

/-- What can happen. -/
inductive Step (v : Service) : Floor → Floor → Prop
  /-- A client connects. -/
  | connect (f : Floor) (i : Nat) (h : (f.clients i).stage = .away) :
      Step v f (f.put i { f.clients i with stage := .queued })
  /-- A client sends bytes. -/
  | send (f : Floor) (i : Nat) (bytes : List UInt8) (h : (f.clients i).silent = false) :
      Step v f (f.put i { f.clients i with
        sent := (f.clients i).sent ++ bytes, unread := (f.clients i).unread ++ bytes })
  /-- A client ends its sending. -/
  | hush (f : Floor) (i : Nat) : Step v f (f.put i { f.clients i with silent := true })
  /-- A slot is taken for the next client. -/
  | take (f : Floor) (s : Slots) (h : Slots.Step f.slots s) (ht : s.held = true)
      (hf : f.slots.held = false) : Step v f (f.withSlots s)
  /-- A client is accepted, and is greeted over a stream whose writes may fail. -/
  | accept (f : Floor) (i : Nat) (stream : Stream) (hi : (f.clients i).stage = .queued)
      (hs : f.slots.held = true) :
      Step v f ((f.put i { f.clients i with stage := .served (.greet v.setup stream) }).withSlots
        ⟨f.slots.free, false, f.slots.live + 1⟩)
  /-- The attempt to accept a client fails, and the slot for it is free again. -/
  | acceptFault (f : Floor) (hs : f.slots.held = true) :
      Step v f (f.withSlots ⟨f.slots.free + 1, false, f.slots.live⟩)
  /-- A session reads bytes and deals with them. -/
  | read (f : Floor) (i n : Nat) (x : Connection) (stream : Stream)
      (hx : (f.clients i).stage = .served x) (hg : x.status = .going) (h₀ : 0 < n)
      (hn : n ≤ min readSize (f.clients i).unread.length) :
      Step v f (f.put i { f.clients i with
        unread := (f.clients i).unread.drop n
        stage := .served (Connection.next stream x (.bytes ((f.clients i).unread.take n))) })
  /-- A session comes to the end of what its client sends. -/
  | readEnd (f : Floor) (i : Nat) (x : Connection) (stream : Stream)
      (hx : (f.clients i).stage = .served x) (hg : x.status = .going)
      (hq : (f.clients i).silent = true) (hu : (f.clients i).unread = []) :
      Step v f (f.put i { f.clients i with
        stage := .served (Connection.next stream x (.bytes [])) })
  /-- A read of a session fails. -/
  | readFault (f : Floor) (i : Nat) (x : Connection) (stream : Stream) (fault : Fault)
      (hx : (f.clients i).stage = .served x) (hg : x.status = .going) :
      Step v f (f.put i { f.clients i with
        stage := .served (Connection.next stream x (.fault fault)) })
  /-- A session that is over ends, and its slot is free again. -/
  | finish (f : Floor) (i : Nat) (x : Connection) (hx : (f.clients i).stage = .served x)
      (hg : x.status ≠ .going) :
      Step v f ((f.put i { f.clients i with stage := .gone x }).withSlots
        ⟨f.slots.free + 1, f.slots.held, f.slots.live - 1⟩)

/-- The floors that come after any number of steps. -/
inductive Reachable (v : Service) : Floor → Prop
  /-- The floor from which all begins. -/
  | start : Reachable v (start v)
  /-- The floor after one more step. -/
  | step {f g : Floor} : Reachable v f → Step v f g → Reachable v g

end Floor

end Plotter.Service
