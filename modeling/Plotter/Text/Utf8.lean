import Plotter.Text.CodeSet

/-!
# UTF-8

A machine that decodes one byte at a time. Between bytes it is either between characters or within
one (`Utf8.Begun`), and then it knows the bits read so far, how many bytes are still owed, and the
bounds of the next one; the bounds alone keep out overlong forms, surrogates and code points that do
not exist.

A byte that cannot continue the character begun ends an ill-formed stretch, which is reported once,
and is then read afresh. So every longest part of an ill-formed sequence that could still have begun
a character is one report (`none` in `Utf8.decode`). The lenient reading puts the replacement
character in the place of each report, the strict one refuses the whole.
-/

namespace Plotter.Text.Utf8

/-- A character of which some bytes have been read. -/
structure Begun where
  /-- The bits read so far. -/
  bits : Nat
  /-- The number of bytes owed after the next one. -/
  owed : Nat
  /-- The least value of the next byte. -/
  low : UInt8
  /-- The greatest value of the next byte. -/
  high : UInt8
deriving DecidableEq, Repr

/-- What the first byte of a character says. -/
inductive First
  /-- The byte is a character of its own. -/
  | whole (c : Char)
  /-- The byte begins a character. -/
  | begun (b : Begun)
  /-- No character begins with this byte. -/
  | bad
deriving DecidableEq, Repr

/-- The reading of a byte between characters. -/
def first (b : UInt8) : First :=
  if b < 0x80 then .whole (Char.ofNat b.toNat)
  else if b < 0xC2 then .bad
  else if b < 0xE0 then .begun ⟨b.toNat - 0xC0, 0, 0x80, 0xBF⟩
  else if b = 0xE0 then .begun ⟨0, 1, 0xA0, 0xBF⟩
  else if b = 0xED then .begun ⟨0xD, 1, 0x80, 0x9F⟩
  else if b < 0xF0 then .begun ⟨b.toNat - 0xE0, 1, 0x80, 0xBF⟩
  else if b = 0xF0 then .begun ⟨0, 2, 0x90, 0xBF⟩
  else if b < 0xF4 then .begun ⟨b.toNat - 0xF0, 2, 0x80, 0xBF⟩
  else if b = 0xF4 then .begun ⟨4, 2, 0x80, 0x8F⟩
  else .bad

/-- What has been decoded so far: the character begun, if any, and the characters and reports before
it, last one first. -/
structure Progress where
  /-- The character begun. -/
  begun : Option Begun
  /-- The characters and reports before it, last one first. -/
  done : List (Option Char)
deriving Repr

/-- A byte is read between characters. -/
def Progress.start (done : List (Option Char)) (b : UInt8) : Progress :=
  match first b with
  | .whole c => ⟨none, some c :: done⟩
  | .begun g => ⟨some g, done⟩
  | .bad => ⟨none, none :: done⟩

/-- A byte is read. -/
def Progress.next (p : Progress) (b : UInt8) : Progress :=
  match p.begun with
  | none => .start p.done b
  | some g =>
    if g.low ≤ b ∧ b ≤ g.high then
      let bits := g.bits * 64 + (b.toNat - 0x80)
      match g.owed with
      | 0 => ⟨none, some (Char.ofNat bits) :: p.done⟩
      | n + 1 => ⟨some ⟨bits, n, 0x80, 0xBF⟩, p.done⟩
    else .start (none :: p.done) b

/-- The bytes have come to their end: a character begun is reported. -/
def Progress.finish (p : Progress) : List (Option Char) :=
  match p.begun with
  | none => p.done.reverse
  | some _ => (none :: p.done).reverse

/-- The characters of a sequence of bytes, with a report in the place of each ill-formed stretch. -/
def decode (bytes : List UInt8) : List (Option Char) :=
  (bytes.foldl Progress.next ⟨none, []⟩).finish

/-- The character that stands for an ill-formed stretch. -/
def replacement : Char := '\uFFFD'

/-- The characters of a sequence of bytes, ill-formed stretches replaced. -/
def lenient (bytes : List UInt8) : List Char := (decode bytes).map (·.getD replacement)

/-- The characters of a sequence of bytes, unless there is an ill-formed stretch. -/
def strict? (bytes : List UInt8) : Option (List Char) :=
  let cs := decode bytes
  if cs.all Option.isSome then some (cs.filterMap id) else none

/-- The bytes of a text. -/
def encode (s : String) : List UInt8 := s.toByteArray.data.toList

/-- The bytes of a concatenation. -/
@[simp] theorem encode_append (s t : String) : encode (s ++ t) = encode s ++ encode t := by
  simp [encode]

@[simp] theorem encode_empty : encode "" = [] := rfl

end Plotter.Text.Utf8
