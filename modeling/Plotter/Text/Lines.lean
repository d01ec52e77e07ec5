/-!
# Lines

Lines end in a carriage return followed by a line feed. This file breaks a sequence at every such
pair (`breakAt`), for characters and for bytes alike, and writes lines with their endings
(`terminate`).

Breaking goes through the sequence once from the left and keeps the line begun so far with its last
element first. A pair is found at its second element, so that a carriage return after the end of a
line never counts twice.
-/

namespace Plotter.Text

/-- The end of a line. -/
def crlf : List Char := ['\r', '\n']

/-- Lines, each with its ending. -/
def terminate (lines : List (List Char)) : List Char := lines.flatMap (· ++ crlf)

@[simp] theorem terminate_nil : terminate [] = [] := rfl

@[simp] theorem terminate_cons (l : List Char) (ls : List (List Char)) :
    terminate (l :: ls) = l ++ crlf ++ terminate ls := by
  simp [terminate]

/-! ## Breaking a sequence into lines -/

variable {α : Type} [DecidableEq α]

/-- Continue to break a sequence at every `cr` followed by `lf`, where `begun` is the line begun so
far, last element first, and `done` are the lines before it, last line first. -/
def breakInto (cr lf : α) (done : List (List α)) (begun : List α) : List α → List (List α)
  | [] => (begun.reverse :: done).reverse
  | x :: rest =>
    match begun with
    | [] => breakInto cr lf done [x] rest
    | y :: before =>
      if x = lf ∧ y = cr then breakInto cr lf (before.reverse :: done) [] rest
      else breakInto cr lf done (x :: y :: before) rest

/-- The parts of a sequence between the pairs of `cr` followed by `lf`. -/
def breakAt (cr lf : α) (s : List α) : List (List α) := breakInto cr lf [] [] s

/-- The lines of a text. -/
def lines (s : List Char) : List (List Char) := breakAt '\r' '\n' s

/-- The lines before stay in front. -/
theorem breakInto_eq (cr lf : α) (done : List (List α)) (begun s : List α) :
    breakInto cr lf done begun s = done.reverse ++ breakInto cr lf [] begun s := by
  induction s generalizing done begun with
  | nil => simp [breakInto]
  | cons x rest ih =>
    cases begun with
    | nil => simpa [breakInto] using ih done [x]
    | cons y before =>
      simp only [breakInto]
      split
      · rw [ih, ih [before.reverse]]
        simp
      · exact ih done _

end Plotter.Text
