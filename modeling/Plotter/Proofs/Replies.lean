import Mathlib.InformationTheory.Coding.UniquelyDecodable
import Mathlib.Tactic.Ring
import Plotter.Proofs.Picture

/-!
# Replies

What a client reads back, command by command. Three commands are answered, one with the place of the
pen and two with a picture (`Canvas.reply?`); all others are passed over in silence. The replies to
the commands of a payload follow each other in the order of the commands, each showing the canvas
that the commands before it have led to (`Canvas.replies`), and the output is their texts and nothing
else (`Canvas.answers_eq_join`).

Nothing stands between two replies, and none says how long it is. A client can divide what it reads
all the same: the first character of a reply tells a place from a picture, a place is one line, and
the empty line of a picture is its last one (`Reply.lines_append_inj`). So the texts of replies are
a uniquely decodable code (`Reply.uniquelyDecodable`), whatever the glyphs and the extents.
-/

namespace Plotter

open Text InformationTheory

/-! ## The commands that are obeyed -/

/-- The commands that lines give before the first that ends the session. -/
def orders (ls : List (List Char)) : List Command :=
  (ls.filterMap fun l => (Reading.ofLine l).command?).takeWhile (· ≠ .quit)

/-- Commands up to the first that ends the session are those before it and then it, if there is
one. -/
theorem untilQuit_eq (ks : List Command) :
    untilQuit ks = ks.takeWhile (· ≠ .quit) ++ if .quit ∈ ks then [.quit] else [] := by
  induction ks with
  | nil => rfl
  | cons k ks ih =>
    by_cases hk : k = .quit
    · subst hk
      simp [untilQuit]
    · have hq : ¬ Command.quit = k := fun h => hk h.symm
      rw [untilQuit, if_neg hk, ih, List.takeWhile_cons_of_pos (by simpa using hk),
        List.cons_append]
      simp only [List.mem_cons, hq, false_or]

/-- A script is the orders and then, if it ends the session, the command that does. -/
theorem script_eq (ls : List (List Char)) :
    script ls = orders ls ++ if .quit ∈ script ls then [.quit] else [] := by
  have hmem : .quit ∈ script ls ↔ .quit ∈ ls.filterMap fun l => (Reading.ofLine l).command? :=
    quit_mem_untilQuit
  simp only [hmem]
  exact untilQuit_eq _

/-! ## Replies -/

/-- What a client is shown of a canvas. -/
inductive Reply
  /-- The place of the pen. -/
  | place (c : Canvas)
  /-- The picture. -/
  | picture (c : Canvas)

namespace Reply

/-- The canvas that is shown. -/
def canvas : Reply → Canvas
  | place c => c
  | picture c => c

/-- The lines of a reply. -/
def lines : Reply → List (List Char)
  | place c => [Canvas.placeLine c.coord]
  | picture c => c.pictureLines

/-- The text of a reply. -/
def text : Reply → String
  | place c => c.placeReport
  | picture c => c.picture

/-- Nothing lies outside on the canvas that is shown. -/
def Sound (r : Reply) : Prop := ∃ s, Canvas.Sound s r.canvas

/-- The text of a reply is made of its lines. -/
theorem toList_text (r : Reply) : r.text.toList = terminate r.lines := by
  cases r with
  | place c => exact String.toList_ofList
  | picture c => exact String.toList_ofList

end Reply

namespace Canvas

/-- The reply of a canvas to a command, if the command asks for one. The example is drawn before it
is shown. -/
def reply? (c : Canvas) : Command → Option Reply
  | .coord => some (.place c)
  | .render => some (.picture c)
  | .test => some (.picture c.square)
  | _ => none

/-- The replies of a canvas to commands, each from the canvas that the commands before it lead to. -/
def replies : Canvas → List Command → List Reply
  | _, [] => []
  | c, k :: ks => (c.reply? k).toList ++ (c.obey k).replies ks

theorem replies_append (c : Canvas) (ks ls : List Command) :
    c.replies (ks ++ ls) = c.replies ks ++ (c.obeyAll ks).replies ls := by
  induction ks generalizing c with
  | nil => rfl
  | cons k ks ih => simp only [List.cons_append, replies, ih, obeyAll_cons, List.append_assoc]

/-- The answer to a command is the text of its reply, if it has one. -/
theorem answer_eq_join (c : Canvas) (k : Command) :
    c.answer k = String.join ((c.reply? k).toList.map Reply.text) := by
  cases k <;> simp [answer, reply?, Reply.text]

/-- The answers to commands are the texts of the replies, one after the other. -/
theorem answers_eq_join (c : Canvas) (ks : List Command) :
    c.answers ks = String.join ((c.replies ks).map Reply.text) := by
  induction ks generalizing c with
  | nil => rfl
  | cons k ks ih =>
    rw [answers, replies, ih, answer_eq_join, List.map_append, String.join_append]

variable {s : Setup} {c : Canvas}

/-- Replies show canvases on which nothing lies outside. -/
theorem Sound.of_mem_replies (h : Sound s c) {ks : List Command} {r : Reply}
    (hr : r ∈ c.replies ks) : Sound s r.canvas := by
  induction ks generalizing c with
  | nil => cases hr
  | cons k ks ih =>
    rw [replies, List.mem_append] at hr
    rcases hr with hr | hr
    · cases k with
      | coord => rw [List.mem_singleton.1 hr]; exact h
      | render => rw [List.mem_singleton.1 hr]; exact h
      | test => rw [List.mem_singleton.1 hr]; exact h.square
      | _ => cases hr
    · exact ih (h.obey k) hr

end Canvas

/-! ## The shape of a reply -/

namespace Canvas

/-- There is no carriage return in the line with a place. -/
theorem unbroken_placeLine (p : Nat × Nat) : Unbroken '\r' '\n' (placeLine p) := by
  have hdigits : ∀ n, '\r' ∉ decimal n := fun n h => by cases isDigit_of_mem_decimal h
  refine unbroken_of_not_mem (Or.inl ?_)
  simp [placeLine, hdigits]

/-- The empty line is the last one of a picture, and the only one that is empty. -/
theorem exists_pictureLines_eq (c : Canvas) :
    ∃ ls, c.pictureLines = (c.upperEdge :: ls) ++ [[]] ∧ [] ∉ c.upperEdge :: ls := by
  refine ⟨c.rowLines ++ [c.lowerEdge], by simp [pictureLines], ?_⟩
  have hrow : ∀ row, c.rowLine row ≠ [] := fun row => by simp [rowLine]
  simp [upperEdge, lowerEdge, rowLines, hrow]

end Canvas

namespace Reply

variable {q r : Reply}

theorem Sound.unbroken_of_mem_lines (h : r.Sound) {l : List Char} (hl : l ∈ r.lines) :
    Unbroken '\r' '\n' l := by
  obtain ⟨s, hs⟩ := h
  cases r with
  | place c =>
    rw [List.mem_singleton.1 hl]
    exact Canvas.unbroken_placeLine c.coord
  | picture c => exact hs.unbroken_of_mem_pictureLines hl

/-- The line of a place and the upper edge of a picture begin with different characters. -/
theorem placeLine_ne_upperEdge (p : Nat × Nat) (c : Canvas) :
    Canvas.placeLine p ≠ c.upperEdge := by
  intro h
  have hfirst := congrArg List.head? h
  simp [Canvas.placeLine, Canvas.upperEdge] at hfirst

/-- Where a reply ends can be seen from its lines, whatever lines follow. -/
theorem lines_append_inj {ls ms : List (List Char)} (h : q.lines ++ ls = r.lines ++ ms) :
    q.lines = r.lines ∧ ls = ms := by
  cases q with
  | place c =>
    cases r with
    | place d =>
      obtain ⟨hline, hrest⟩ := List.cons.inj h
      exact ⟨congrArg (fun l => [l]) hline, hrest⟩
    | picture d =>
      obtain ⟨front, hfront, -⟩ := d.exists_pictureLines_eq
      rw [lines, lines, hfront] at h
      exact absurd (List.cons.inj h).1 (placeLine_ne_upperEdge _ d)
  | picture c =>
    obtain ⟨front, hfront, hempty⟩ := c.exists_pictureLines_eq
    cases r with
    | place d =>
      rw [lines, lines, hfront] at h
      exact absurd (List.cons.inj h).1.symm (placeLine_ne_upperEdge _ c)
    | picture d =>
      obtain ⟨front', hfront', hempty'⟩ := d.exists_pictureLines_eq
      rw [lines, lines, hfront, hfront', List.append_assoc, List.append_assoc] at h
      obtain ⟨hlines, hrest⟩ := append_cons_inj_of_not_mem hempty hempty' h
      rw [lines, lines, hfront, hfront', hlines]
      exact ⟨rfl, hrest⟩

/-- Where a reply ends can be seen from its text, whatever text follows. -/
theorem text_append_inj (hq : q.Sound) (hr : r.Sound) {u v : List Char}
    (h : q.text.toList ++ u = r.text.toList ++ v) : q.text.toList = r.text.toList := by
  have hlines := congrArg Text.lines h
  rw [toList_text, toList_text, lines_terminate_append fun _ => hq.unbroken_of_mem_lines,
    lines_terminate_append fun _ => hr.unbroken_of_mem_lines] at hlines
  rw [toList_text, toList_text, (lines_append_inj hlines).1]

theorem text_ne_nil (r : Reply) : r.text.toList ≠ [] := by
  rw [toList_text]
  cases r <;> simp [lines, Canvas.pictureLines, crlf]

/-- **Replies can be told apart.** The texts of replies that follow each other can be divided into
replies in one way only. -/
theorem uniquelyDecodable : UniquelyDecodable {w | ∃ r : Reply, r.Sound ∧ r.text.toList = w} := by
  intro us vs hus hvs h
  induction us generalizing vs with
  | nil =>
    cases vs with
    | nil => rfl
    | cons v vs =>
      obtain ⟨r, -, rfl⟩ := hvs v List.mem_cons_self
      exact absurd (List.append_eq_nil_iff.1 h.symm).1 r.text_ne_nil
  | cons u us ih =>
    obtain ⟨q, hq, rfl⟩ := hus u List.mem_cons_self
    cases vs with
    | nil => exact absurd (List.append_eq_nil_iff.1 h).1 q.text_ne_nil
    | cons v vs =>
      obtain ⟨r, hr, rfl⟩ := hvs v List.mem_cons_self
      rw [List.flatten_cons, List.flatten_cons] at h
      have hfirst := text_append_inj hq hr h
      rw [hfirst] at h ⊢
      rw [ih vs (fun w hw => hus w (List.mem_cons_of_mem _ hw))
        (fun w hw => hvs w (List.mem_cons_of_mem _ hw)) (List.append_cancel_left h)]

/-- The texts of replies, one after the other, are made of their lines. -/
theorem toList_join_text (rs : List Reply) :
    (String.join (rs.map text)).toList = terminate (rs.flatMap lines) := by
  rw [String.toList_join, List.flatMap_map, terminate, List.flatMap_assoc]
  exact List.flatMap_congr fun r _ => r.toList_text

end Reply

/-! ## What a payload is answered -/

namespace Canvas

variable {s : Setup} {c : Canvas}

/-- A place is one line, and a picture has three lines besides its rows. -/
theorem Sound.length_flatMap_lines (h : Sound s c) (ks : List Command) :
    ((c.replies ks).flatMap Reply.lines).length =
      ks.count .coord + (ks.count .render + ks.count .test) * (s.extent.rows + 3) := by
  induction ks generalizing c with
  | nil => simp [replies]
  | cons k ks ih =>
    have hrest := ih (h.obey k)
    have hrows : c.extent.rows = s.extent.rows := congrArg Extent.rows h.extent_eq
    have hsquare : c.square.extent.rows = s.extent.rows := congrArg Extent.rows h.square.extent_eq
    rw [replies, List.flatMap_append, List.length_append, hrest]
    cases k with
    | coord => simp [reply?, Reply.lines]; omega
    | render => simp [reply?, Reply.lines, hrows]; ring
    | test => simp [reply?, Reply.lines, hsquare]; ring
    | _ => simp [reply?]

/-- The number of endings in replies is that of their lines. -/
theorem Sound.endingCount_join (h : Sound s c) (ks : List Command) :
    endingCount '\r' '\n' (String.join ((c.replies ks).map Reply.text)).toList =
      ((c.replies ks).flatMap Reply.lines).length := by
  have hunbroken : ∀ l ∈ (c.replies ks).flatMap Reply.lines, Unbroken '\r' '\n' l := by
    intro l hl
    obtain ⟨r, hr, hlr⟩ := List.mem_flatMap.1 hl
    exact Reply.Sound.unbroken_of_mem_lines ⟨s, h.of_mem_replies hr⟩ hlr
  have hlength := length_breakAt (show '\r' ≠ '\n' by decide)
    (terminate ((c.replies ks).flatMap Reply.lines))
  have hlines := lines_terminate hunbroken
  rw [Text.lines] at hlines
  rw [hlines, List.length_append, List.length_singleton] at hlength
  rw [Reply.toList_join_text]
  exact (Nat.add_right_cancel hlength).symm

/-- Replies end with an ending, if there are any. -/
theorem join_text_ends (rs : List Reply) :
    String.join (rs.map Reply.text) = "" ∨
      ∃ front, String.join (rs.map Reply.text) = front ++ "\r\n" := by
  have hjoin := Reply.toList_join_text rs
  rcases List.eq_nil_or_concat (rs.flatMap Reply.lines) with hnil | ⟨ls, l, hconcat⟩
  · left
    rw [hnil] at hjoin
    exact String.toList_inj.1 hjoin
  · right
    refine ⟨String.ofList (terminate ls ++ l), ?_⟩
    rw [hconcat] at hjoin
    apply String.toList_inj.1
    rw [hjoin]
    simp [terminate, crlf]

/-- Processing a payload is obeying its orders and joining the replies. -/
theorem process_eq (c : Canvas) (payload : List UInt8) :
    (c.process payload).canvas = c.obeyAll (orders (payloadLines payload)) ∧
      (c.process payload).output =
        String.join ((c.replies (orders (payloadLines payload))).map Reply.text) ∧
      ((c.process payload).verdict = .quit ↔
        ∃ l ∈ payloadLines payload, Reading.ofLine l = .command .quit) := by
  have h := c.after_process payload
  have hscript := script_eq (payloadLines payload)
  refine ⟨?_, ?_, ?_⟩
  · rw [h.canvas, hscript, obeyAll_append]
    split <;> rfl
  · have houtput : (c.process payload).output = "" ++ c.answers (script (payloadLines payload)) :=
      h.output
    rw [houtput, String.empty_append, hscript, answers_append, ← answers_eq_join]
    split <;> simp [answers, answer]
  · rw [h.verdict, ← quit_mem_script]
    split
    · next hquit => exact iff_of_true rfl hquit
    · next hquit => exact iff_of_false Verdict.noConfusion hquit

/-! ## The main statement -/

/-- **Every reply can be attributed to its command.** Take a canvas that a valid setup can lead to
and a payload of any bytes, and the commands that its lines give before the first that ends the
session. They are obeyed in order and nothing else is, and what is written is the texts of the replies,
in order, and nothing else; the reply to a command shows the canvas that the commands before it have
led to. All that is written is nothing or ends with an ending; there is one ending for each place that
is asked for, and one for each row of each picture and three more; and what is written can be divided
into replies, of canvases of any setups at all, in this way only. -/
theorem output_process_eq_join_replies (hs : s.Valid) (h : Reachable s c) (payload : List UInt8) :
    let ks := orders (payloadLines payload)
    let o := c.process payload
    let texts := (c.replies ks).map Reply.text
    (o.canvas = c.obeyAll ks ∧ o.output = String.join texts ∧
        (o.verdict = .quit ↔ ∃ l ∈ payloadLines payload, Reading.ofLine l = .command .quit)) ∧
      (∀ before k after, ks = before ++ k :: after →
        c.replies ks = c.replies before ++ (((c.obeyAll before).reply? k).toList ++
          ((c.obeyAll before).obey k).replies after)) ∧
      (o.output = "" ∨ ∃ front, o.output = front ++ "\r\n") ∧
      endingCount '\r' '\n' o.output.toList =
        ks.count .coord + (ks.count .render + ks.count .test) * (s.extent.rows + 3) ∧
      ∀ bs : List String,
        (∀ b ∈ bs, ∃ (t : Setup) (d : Canvas), t.Valid ∧ Reachable t d ∧
          (b = d.placeReport ∨ b = d.picture)) →
        String.join bs = o.output → bs = texts := by
  intro ks o texts
  have hc := h.sound hs
  obtain ⟨hcanvas, houtput, hverdict⟩ := c.process_eq payload
  refine ⟨⟨hcanvas, houtput, hverdict⟩, ?_, ?_, ?_, ?_⟩
  · intro before k after hks
    rw [hks, replies_append]
    rfl
  · rw [houtput]
    exact join_text_ends _
  · rw [houtput, hc.endingCount_join, hc.length_flatMap_lines]
  · intro bs hbs hjoin
    have hcode : ∀ w ∈ bs.map String.toList, ∃ r : Reply, r.Sound ∧ r.text.toList = w := by
      intro w hw
      obtain ⟨b, hb, rfl⟩ := List.mem_map.1 hw
      obtain ⟨t, d, ht, hd, rfl | rfl⟩ := hbs b hb
      · exact ⟨.place d, ⟨t, hd.sound ht⟩, rfl⟩
      · exact ⟨.picture d, ⟨t, hd.sound ht⟩, rfl⟩
    have hown : ∀ w ∈ texts.map String.toList, ∃ r : Reply, r.Sound ∧ r.text.toList = w := by
      intro w hw
      obtain ⟨r, hr, rfl⟩ := List.mem_map.1 (List.map_map ▸ hw)
      exact ⟨r, ⟨s, hc.of_mem_replies hr⟩, rfl⟩
    have hflat : (bs.map String.toList).flatten = (texts.map String.toList).flatten := by
      have htext := congrArg String.toList (hjoin.trans houtput)
      rwa [String.toList_join, String.toList_join] at htext
    have hsame := Reply.uniquelyDecodable _ _ hcode hown hflat
    exact List.map_injective_iff.2 (fun _ _ heq => String.toList_inj.1 heq) hsame

/-- A payload with a line that names no command and one that is not reached, on a canvas that is
drawn on with carriage returns. -/
theorem output_process_eq_join_replies_carriage_return :
    let s : Setup := ⟨⟨2, 1⟩, '\r', ⟨0, 0⟩⟩
    let c := blank s
    let o := c.process (Utf8.encode "coord\r\nfoo 1\r\nsteps 1\r\nRENDER\r\nquit\r\ncoord\r\n")
    s.Valid ∧ Reachable s c ∧ o.verdict = .quit ∧
      o.output = "(0,0)\r\n" ++ "╔══╗\r\n║\r ║\r\n╚══╝\r\n\r\n" ∧
      endingCount '\r' '\n' o.output.toList = 5 ∧
      ∀ bs : List String,
        (∀ b ∈ bs, ∃ (t : Setup) (d : Canvas), t.Valid ∧ Reachable t d ∧
          (b = d.placeReport ∨ b = d.picture)) →
        String.join bs = o.output →
          bs = ["(0,0)\r\n", "╔══╗\r\n║\r ║\r\n╚══╝\r\n\r\n"] := by
  intro s c o
  have hs : s.Valid := by decide
  have hc : Reachable s c := .blank
  let payload := Utf8.encode "coord\r\nfoo 1\r\nsteps 1\r\nRENDER\r\nquit\r\ncoord\r\n"
  have horders : orders (payloadLines payload) = [.coord, .steps 1, .render] := by decide +kernel
  obtain ⟨⟨-, houtput, hverdict⟩, -, -, hcount, hdivide⟩ :=
    output_process_eq_join_replies hs hc payload
  rw [horders] at houtput hcount hdivide
  have htexts : (c.replies [.coord, .steps 1, .render]).map Reply.text =
      ["(0,0)\r\n", "╔══╗\r\n║\r ║\r\n╚══╝\r\n\r\n"] := by decide +kernel
  rw [htexts] at houtput hdivide
  refine ⟨hs, hc, hverdict.2 ⟨Utf8.lenient (Utf8.encode "quit"), ?_, ?_⟩, houtput, hcount, hdivide⟩
  · decide +kernel
  · decide +kernel

end Canvas

end Plotter
