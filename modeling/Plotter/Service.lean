import Plotter.Connection
import Plotter.Settings

/-!
# The service

A service gives every client a session of its own. It can be opened where the machine reaches a
network and no more slots are wanted than can be counted (`Service.open?`). What is wanted is not
checked before: a service with too many slots is no fault of the machine, and the program breaks off
as it opens it.

The number of sessions at a time is limited; a client for which there is no slot waits for one. What
happens then, to one client and among several, is the matter of `Plotter.Service.Slots` and
`Plotter.Service.Floor`.
-/

namespace Plotter

/-- What a machine offers to a service. -/
structure Machine where
  /-- A network can be reached. -/
  networked : Bool
deriving DecidableEq, Repr

/-- Why a service cannot be opened. -/
inductive OpenFault
  /-- The machine reaches no network. -/
  | networkUnreachable
  /-- More slots are wanted than can be counted, and the program breaks off. -/
  | tooManySlots
deriving DecidableEq, Repr

/-- A service. -/
structure Service where
  /-- What every canvas is made from. -/
  setup : Setup
  /-- The largest number of sessions at a time. -/
  slots : Nat
deriving DecidableEq, Repr

/-- The service of the given settings. -/
def Settings.service (s : Settings) : Service := ⟨s.setup, s.maxConnections⟩

namespace Service

/-- The largest number of slots that can be counted: three bits of a word are used for other things.
-/
def maxSlots : Nat := (wordSize - 1) >>> 3

/-- A service is opened on a machine. The slots are made when it has begun to listen. -/
def open? (v : Service) (m : Machine) : Except OpenFault Service :=
  if m.networked = false then .error .networkUnreachable
  else if maxSlots < v.slots then .error .tooManySlots
  else .ok v

end Service

end Plotter
