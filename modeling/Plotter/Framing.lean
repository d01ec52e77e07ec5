/-!
# Framing

Bytes arrive in pieces that know nothing of lines. This file says how much of what has arrived is
made of whole lines (`completeLength?`) and what is to be done with it (`settle`).

What ends in a line feed is complete as it is, so that clients which end their lines with a line
feed alone are served. Otherwise all up to the last carriage return with a line feed behind it is
complete, and the rest waits for more. What waits is dropped once it is longer than any command
could be.
-/

namespace Plotter.Framing

/-- A carriage return. -/
def cr : UInt8 := 0x0D

/-- A line feed. -/
def lf : UInt8 := 0x0A

/-- What is known of the bytes seen so far. -/
structure Seen where
  /-- Their number. -/
  length : Nat
  /-- The last of them. -/
  last : Option UInt8
  /-- The number of bytes up to the last end of a line among them. -/
  whole : Option Nat
deriving DecidableEq, Repr

/-- What is known after one more byte. -/
def Seen.next (s : Seen) (b : UInt8) : Seen where
  length := s.length + 1
  last := some b
  whole := if b = lf ∧ s.last = some cr then some (s.length + 1) else s.whole

/-- What is known of a sequence of bytes. -/
def seen (bytes : List UInt8) : Seen := bytes.foldl Seen.next ⟨0, none, none⟩

/-- The length of the leading part that is made of whole lines, if there is one. -/
def completeLength? (bytes : List UInt8) : Option Nat :=
  let s := seen bytes
  if s.last = some lf then some s.length else s.whole

/-- The largest number of bytes that wait for the end of their line. -/
def maxWaiting : Nat := 65536

/-- What is to be done with the bytes that have arrived. -/
inductive Share
  /-- The first part is made of whole lines and is run; the rest waits. -/
  | run (payload rest : List UInt8)
  /-- All of it waits for the end of its line. -/
  | wait (bytes : List UInt8)
  /-- All of it is dropped. -/
  | drop (bytes : List UInt8)
deriving DecidableEq, Repr

/-- What is to be done with the bytes that have arrived. -/
def settle (bytes : List UInt8) : Share :=
  match completeLength? bytes with
  | some n => .run (bytes.take n) (bytes.drop n)
  | none => if maxWaiting < bytes.length then .drop bytes else .wait bytes

/-! ## What is known, one byte at a time -/

@[simp] theorem seen_nil : seen [] = ⟨0, none, none⟩ := rfl

@[simp] theorem seen_concat (bytes : List UInt8) (b : UInt8) :
    seen (bytes ++ [b]) = (seen bytes).next b := by
  simp [seen]

/-- Each byte counts once. -/
theorem length_foldl_next (s : Seen) (bytes : List UInt8) :
    (bytes.foldl Seen.next s).length = s.length + bytes.length := by
  induction bytes generalizing s with
  | nil => rfl
  | cons b rest ih =>
    simp only [List.foldl_cons, ih, Seen.next, List.length_cons]
    omega

/-- The number of bytes seen is their number. -/
@[simp] theorem length_seen (bytes : List UInt8) : (seen bytes).length = bytes.length := by
  simp [seen, length_foldl_next]

end Plotter.Framing
