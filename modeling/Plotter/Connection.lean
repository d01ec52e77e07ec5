import Plotter.Framing
import Plotter.Session

/-!
# Connections

A connection joins a session to a stream of bytes. It greets, and then reads, runs what is complete
and writes the answer, until the client quits, the stream ends or a call fails.

The stream is given by what it will do (`Stream`): what each read delivers, which writes fail, how
much a write takes, and whether the closing fails. What the connection does to it is recorded in
order (`Event`), and so is what the session notes down. A call that fails is the last event; its
fault is the result.

A write may take less than it was given. Then the rest is written by further calls, and a call that
takes nothing is a fault of its own. An answer is written whole before anything else is read, and
the stream is closed only after the answer to the payload that held the quitting line.
-/

namespace Plotter

open Text

/-- Why a call on a stream fails. The system knows many kinds of faults, and nothing here depends on
which of them it is; so a fault is whatever the system says of it. -/
structure Fault where
  /-- The wording of the fault. -/
  message : String
deriving DecidableEq, Repr

/-- The fault of a write that takes nothing. -/
def Fault.nothingWritten : Fault := ⟨"write zero"⟩

/-- What a read delivers. -/
inductive Delivery
  /-- So many bytes; none at the end of the stream. -/
  | bytes (piece : List UInt8)
  /-- The read fails. -/
  | fault (f : Fault)
deriving DecidableEq, Repr

/-- What a stream will do. -/
structure Stream where
  /-- What the reads deliver, in order. After the last of them the stream has ended. -/
  reads : List Delivery
  /-- The writes that fail, counted from nought. -/
  writeFaults : List (Nat × Fault)
  /-- The largest number of bytes that a write takes. -/
  writeLimit : Option Nat
  /-- Whether the closing fails. -/
  closingFault : Option Fault
deriving Repr

namespace Stream

/-- A stream that never fails and takes whatever it is given. -/
def ofPieces (pieces : List (List UInt8)) : Stream := ⟨pieces.map .bytes, [], none, none⟩

/-- The fault of a write, counted from nought. -/
def writeFault? (s : Stream) (call : Nat) : Option Fault := s.writeFaults.lookup call

/-- How many of the bytes given to it a write takes. -/
def taken (s : Stream) (given : List UInt8) : Nat :=
  match s.writeLimit with
  | none => given.length
  | some n => min n given.length

end Stream

/-- The largest number of bytes that one read delivers. -/
def readSize : Nat := 4096

/-- What is done to a stream. -/
inductive Event
  /-- These bytes were written. -/
  | written (bytes : List UInt8)
  /-- So many bytes were read; none at the end. -/
  | read (count : Nat)
  /-- A read failed. -/
  | readFailed (f : Fault)
  /-- A write failed. -/
  | writeFailed (f : Fault)
  /-- The stream was closed, or the attempt was made. -/
  | closed
deriving DecidableEq, Repr

/-- Whether a connection is open, and with what result it was closed. -/
inductive Status
  /-- It is open. -/
  | going
  /-- It is over, and all went well. -/
  | over
  /-- It is over because a call failed. -/
  | failed (f : Fault)
deriving DecidableEq, Repr

/-- A connection. -/
structure Connection where
  /-- The canvas of the session. -/
  canvas : Canvas
  /-- The bytes that wait for the end of their line. -/
  waiting : List UInt8
  /-- The number of writes so far. -/
  writes : Nat
  /-- Whether it is open. -/
  status : Status
  /-- What has been done to the stream so far. -/
  events : Array Event
  /-- What has been noted down so far. -/
  journal : Array Entry

namespace Connection

/-- What every client is greeted with. -/
def greeting : String := "hello\r\n"

/-! ## Single calls -/

/-- The connection after one more event. -/
def record (x : Connection) (e : Event) : Connection := { x with events := x.events.push e }

/-- The connection after a call that failed. -/
def fail (x : Connection) (e : Event) (f : Fault) : Connection :=
  { x.record e with status := .failed f }

/-- The connection after a write that took `bytes`. -/
def wrote (x : Connection) (bytes : List UInt8) : Connection :=
  { x.record (.written bytes) with writes := x.writes + 1 }

/-- Write bytes, by as many calls as it takes. -/
def send (s : Stream) (x : Connection) (bytes : List UInt8) : Connection :=
  if bytes = [] then x
  else
    match s.writeFault? x.writes with
    | some f => x.fail (.writeFailed f) f
    | none =>
      let n := s.taken bytes
      let y := x.wrote (bytes.take n)
      if n = 0 then { y with status := .failed Fault.nothingWritten }
      else send s y (bytes.drop n)
termination_by bytes.length
decreasing_by
  have : 0 < bytes.length := List.length_pos_iff.2 (by assumption)
  simp only [List.length_drop]
  omega

/-- Close the stream. -/
def close (s : Stream) (x : Connection) : Connection :=
  match s.closingFault with
  | none => { x.record .closed with status := .over }
  | some f => x.fail .closed f

/-! ## The run of a connection -/

/-- A new connection: the greeting is written, and then the session begins. -/
def greet (setup : Setup) (s : Stream) : Connection :=
  let c := Canvas.blank setup
  let x := send s ⟨c, [], 0, .going, #[], #[]⟩ (Utf8.encode greeting)
  match x.status with
  | .going => { x with journal := x.journal ++ c.birthNotes }
  | _ => x

/-- The connection after a payload was run: its answer is written, and the stream is closed if the
client has quit. -/
def answer (s : Stream) (x : Connection) (o : Progress) : Connection :=
  let y := send s { x with canvas := o.canvas, journal := x.journal ++ o.journal }
    (Utf8.encode o.output)
  match y.status, o.verdict with
  | .going, .quit => close s y
  | _, _ => y

/-- The connection after a piece arrived. -/
def receive (s : Stream) (x : Connection) (piece : List UInt8) : Connection :=
  match Framing.settle (x.waiting ++ piece) with
  | .run payload rest => answer s { x with waiting := rest } (x.canvas.process payload)
  | .wait bytes => { x with waiting := bytes }
  | .drop bytes => { x with waiting := [], journal := x.journal.push (.discarding bytes.length) }

/-- The connection after a read. -/
def next (s : Stream) (x : Connection) (d : Delivery) : Connection :=
  match x.status with
  | .going =>
    match d with
    | .fault f => x.fail (.readFailed f) f
    | .bytes [] => { x.record (.read 0) with status := .over, journal := x.journal.push .closed }
    | .bytes (b :: piece) => receive s (x.record (.read (piece.length + 1))) (b :: piece)
  | _ => x

/-- The whole run of a connection over a stream: at the end of the stream, if not before, it is
over. -/
def run (setup : Setup) (s : Stream) : Connection :=
  next s (s.reads.foldl (next s) (greet setup s)) (.bytes [])

/-- An open connection records a piece and receives it. -/
theorem next_bytes_of_going (s : Stream) {x : Connection} (h : x.status = .going)
    {piece : List UInt8} (hne : piece ≠ []) :
    next s x (.bytes piece) = receive s (x.record (.read piece.length)) piece := by
  cases piece with
  | nil => exact absurd rfl hne
  | cons b piece =>
    simp only [next, h]
    rfl

/-- At the end of the stream an open connection is over, and nothing else comes of it. -/
theorem next_end_of_going (s : Stream) {x : Connection} (h : x.status = .going) :
    next s x (.bytes []) =
      { x.record (.read 0) with status := .over, journal := x.journal.push .closed } := by
  simp only [next, h]

/-- A read that fails ends an open connection. -/
theorem next_fault_of_going (s : Stream) {x : Connection} (h : x.status = .going) (f : Fault) :
    next s x (.fault f) = x.fail (.readFailed f) f := by
  simp only [next, h]

/-- A connection that is not open does nothing more. -/
theorem next_of_not_going (s : Stream) {x : Connection} (h : x.status ≠ .going) (d : Delivery) :
    next s x d = x := by
  unfold next
  split
  · next hgoing => exact absurd hgoing h
  · rfl

theorem foldl_next_of_not_going (s : Stream) {x : Connection} (h : x.status ≠ .going)
    (reads : List Delivery) : reads.foldl (next s) x = x := by
  induction reads with
  | nil => rfl
  | cons d reads ih => rw [List.foldl_cons, next_of_not_going s h, ih]

/-- The bytes written in the course of a connection. -/
def output (x : Connection) : List UInt8 :=
  x.events.toList.flatMap fun
    | .written bytes => bytes
    | _ => []

end Connection

end Plotter
