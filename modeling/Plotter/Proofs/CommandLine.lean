import Mathlib.Data.List.Basic
import Mathlib.Logic.Function.Basic
import Plotter.Options

/-!
# What the words and variables give

The words of the command line are read by a small machine that looks at a value one word later than
it comes (`WordReading`). This file says without the machine which words it accepts: each gives an
option its value, in one word or in two (`Gives`), and the values are then taken over from the left
(`WordReading.finish_eq_ok_iff`).

The choices that come out are the values as numbers and texts, an option's value among the words
going before that of its variable (`Choices.Renders`, `Choices.renders_read`). For an option that is
named among the words the variable might as well be another one (`Choices.read_congr`). By which
names, letters and variables the options go, and which setting each of them decides, is listed in
`Choices.exists_set_iff`.
-/

namespace Plotter

open Text

/-! ## Results and errors of steps -/

/-- Two steps succeed exactly if both do, one after the other. -/
theorem bind_eq_ok_iff {ε α β : Type} {x : Except ε α} {f : α → Except ε β} {b : β} :
    (x >>= f) = .ok b ↔ ∃ a, x = .ok a ∧ f a = .ok b := by
  cases x <;> simp [bind, Except.bind]

/-- Two steps fail exactly if the first does, or the second one behind it. -/
theorem bind_eq_error_iff {ε α β : Type} {x : Except ε α} {f : α → Except ε β} {e : ε} :
    (x >>= f) = .error e ↔ x = .error e ∨ ∃ a, x = .ok a ∧ f a = .error e := by
  cases x <;> simp [bind, Except.bind]

theorem mapError_eq_ok_iff {ε ε' α : Type} {f : ε → ε'} {x : Except ε α} {a : α} :
    x.mapError f = .ok a ↔ x = .ok a := by
  cases x <;> simp [Except.mapError]

theorem mapError_eq_error_iff {ε ε' α : Type} {f : ε → ε'} {x : Except ε α} {e : ε'} :
    x.mapError f = .error e ↔ ∃ d, x = .error d ∧ f d = e := by
  cases x <;> simp [Except.mapError]

/-! ## The words that give values -/

/-- Words give options their values, in this order: each value stands in the word of its option or
is the next one, which must be no option itself. A word that parts options from the rest may be the
last. -/
inductive Gives : List String → List (Flag × String) → Prop
  | done : Gives [] []
  | parted {w : String} (hw : Word.ofChars w.toList = .parting) : Gives [w] []
  | joined {w v : String} {f : Flag} {words : List String} {gs : List (Flag × String)}
      (hw : Word.ofChars w.toList = .option (some (.flag f)) (some v)) (h : Gives words gs) :
      Gives (w :: words) ((f, v) :: gs)
  | apart {w v : String} {f : Flag} {words : List String} {gs : List (Flag × String)}
      (hw : Word.ofChars w.toList = .option (some (.flag f)) none)
      (hv : Word.ofChars v.toList = .plain) (h : Gives words gs) :
      Gives (w :: v :: words) ((f, v) :: gs)

/-- Words can be taken in one way only. -/
theorem Gives.unique {words : List String} {gs hs : List (Flag × String)} (hg : Gives words gs)
    (hh : Gives words hs) : gs = hs := by
  induction hg generalizing hs with
  | done =>
    cases hh
    rfl
  | parted hw =>
    cases hh with
    | parted => rfl
    | joined hw' _ => cases hw.symm.trans hw'
  | joined hw _ ih =>
    cases hh with
    | parted hw' => cases hw.symm.trans hw'
    | apart hw' _ _ => cases hw.symm.trans hw'
    | joined hw' h =>
      cases hw.symm.trans hw'
      rw [ih h]
  | apart hw _ _ ih =>
    cases hh with
    | joined hw' _ => cases hw.symm.trans hw'
    | apart hw' _ h =>
      cases hw.symm.trans hw'
      rw [ih h]

/-- An option is named among words. -/
def Named (words : List String) (f : Flag) : Prop :=
  ∃ w ∈ words, ∃ v, Word.ofChars w.toList = .option (some (.flag f)) v

/-- What is not named by the first word is named by the others. -/
theorem Named.tail {w : String} {words : List String} {f : Flag} (h : Named (w :: words) f)
    (hw : ∀ v, Word.ofChars w.toList ≠ .option (some (.flag f)) v) : Named words f := by
  obtain ⟨w', hmem, v, hoption⟩ := h
  rcases List.mem_cons.1 hmem with rfl | hmem
  · exact absurd hoption (hw v)
  · exact ⟨w', hmem, v, hoption⟩

theorem not_named_nil (f : Flag) : ¬ Named [] f := by
  rintro ⟨w, hw, -⟩
  cases hw

/-- An option that is named among words is given a value by them. -/
theorem Gives.lookup_ne_none {words : List String} {gs : List (Flag × String)} {f : Flag}
    (h : Gives words gs) (hf : Named words f) : gs.lookup f ≠ none := by
  induction h with
  | done => exact absurd hf (not_named_nil f)
  | parted hw => exact absurd (hf.tail fun v => by simp [hw]) (not_named_nil f)
  | @joined w v g words gs hw _ ih =>
    by_cases hfg : f = g
    · simp [hfg]
    · rw [List.lookup_cons, beq_false_of_ne hfg]
      exact ih (hf.tail fun v' => by simp [hw, Ne.symm hfg])
  | @apart w v g words gs hw hv _ ih =>
    by_cases hfg : f = g
    · simp [hfg]
    · rw [List.lookup_cons, beq_false_of_ne hfg]
      exact ih ((hf.tail fun v' => by simp [hw, Ne.symm hfg]).tail fun v' => by simp [hv])

/-- The choices after options were given these values, from the left. -/
def Choices.giveAll (c : Choices) (gs : List (Flag × String)) : Except Stop Choices :=
  gs.foldlM (fun d g => d.give g.1 g.2) c

/-! ## The machine -/

namespace WordReading

variable {r : WordReading} {c d : Choices} {f : Flag} {v : String}

@[simp] theorem settle_none (c : Choices) : settle ⟨c, none⟩ = .ok c := rfl

@[simp] theorem settle_value (c : Choices) (f : Flag) (v : String) :
    settle ⟨c, some (f, some v)⟩ = c.give f v := rfl

@[simp] theorem settle_awaiting (c : Choices) (f : Flag) :
    settle ⟨c, some (f, none)⟩ = .error .missingValue := rfl

theorem askedAlone_ne_ok (r t : WordReading) (v : Option String) (stop : Stop) :
    next.askedAlone r v stop ≠ .ok t := by
  unfold next.askedAlone
  split
  · simp
  · simp [bind_eq_ok_iff]

/-- What the first of the remaining words can be, and what it does. -/
theorem finish_cons_iff (r : WordReading) (w : String) (words : List String) :
    r.finish (w :: words) = .ok d ↔
      (Word.ofChars w.toList = .parting ∧ words = [] ∧ r.settle = .ok d) ∨
      (∃ f v, Word.ofChars w.toList = .option (some (.flag f)) (some v) ∧
        ∃ c, r.settle = .ok c ∧ ∃ e, c.give f v = .ok e ∧ finish ⟨e, none⟩ words = .ok d) ∨
      (∃ f, Word.ofChars w.toList = .option (some (.flag f)) none ∧
        ∃ c, r.settle = .ok c ∧ finish ⟨c, some (f, none)⟩ words = .ok d) ∨
      (∃ f, Word.ofChars w.toList = .plain ∧ r.pending = some (f, none) ∧
        finish ⟨r.choices, some (f, some w)⟩ words = .ok d) := by
  rw [finish]
  cases hw : Word.ofChars w.toList with
  | parting =>
    cases words <;> simp
  | plain =>
    obtain ⟨c, pending⟩ := r
    match pending with
    | none => simp [next, bind_eq_ok_iff]
    | some (f, none) => simp [next, bind_eq_ok_iff]
    | some (f, some v) => simp [next, bind_eq_ok_iff]
  | option asked value =>
    match asked, value with
    | some (.flag f), some v => simp [next, bind_eq_ok_iff]
    | some (.flag f), none => simp [next, bind_eq_ok_iff]
    | some .help, value => simp [next, bind_eq_ok_iff, askedAlone_ne_ok]
    | some .version, value => simp [next, bind_eq_ok_iff, askedAlone_ne_ok]
    | none, value => simp [next, bind_eq_ok_iff]

/-- When a value has come, the words go on as if it were looked at there and then. -/
theorem finish_value_iff (words : List String) :
    finish ⟨c, some (f, some v)⟩ words = .ok d ↔
      ∃ e, c.give f v = .ok e ∧ finish ⟨e, none⟩ words = .ok d := by
  cases words with
  | nil => simp [finish]
  | cons w words =>
    simp only [finish_cons_iff, settle_value, settle_none]
    constructor
    · rintro (⟨hw, rfl, hd⟩ | ⟨g, u, hw, e, he, hd⟩ | ⟨g, hw, e, he, hd⟩ | ⟨g, -, hg, -⟩)
      · exact ⟨d, hd, Or.inl ⟨hw, rfl, rfl⟩⟩
      · exact ⟨e, he, Or.inr (Or.inl ⟨g, u, hw, e, rfl, hd⟩)⟩
      · exact ⟨e, he, Or.inr (Or.inr (Or.inl ⟨g, hw, e, rfl, hd⟩))⟩
      · simp at hg
    · rintro ⟨e, he, ⟨hw, rfl, hd⟩ | ⟨g, u, hw, e', he', hd⟩ | ⟨g, hw, e', he', hd⟩ | ⟨g, -, hg, -⟩⟩
      · exact Or.inl ⟨hw, rfl, he.trans hd⟩
      · cases he'
        exact Or.inr (Or.inl ⟨g, u, hw, e, he, hd⟩)
      · cases he'
        exact Or.inr (Or.inr (Or.inl ⟨g, hw, e, he, hd⟩))
      · simp at hg

/-- An option without its value needs the next word for it. -/
theorem finish_awaiting_iff (words : List String) :
    finish ⟨c, some (f, none)⟩ words = .ok d ↔
      ∃ v rest, words = v :: rest ∧ Word.ofChars v.toList = .plain ∧
        finish ⟨c, some (f, some v)⟩ rest = .ok d := by
  cases words with
  | nil => simp [finish]
  | cons w words => simp [finish_cons_iff]

/-- What the first of the remaining words does between options. -/
theorem finish_none_cons_iff (w : String) (words : List String) :
    finish ⟨c, none⟩ (w :: words) = .ok d ↔
      (Word.ofChars w.toList = .parting ∧ words = [] ∧ c = d) ∨
      (∃ f v, Word.ofChars w.toList = .option (some (.flag f)) (some v) ∧
        ∃ e, c.give f v = .ok e ∧ finish ⟨e, none⟩ words = .ok d) ∨
      (∃ f v rest, Word.ofChars w.toList = .option (some (.flag f)) none ∧ words = v :: rest ∧
        Word.ofChars v.toList = .plain ∧
        ∃ e, c.give f v = .ok e ∧ finish ⟨e, none⟩ rest = .ok d) := by
  simp [finish_cons_iff, finish_awaiting_iff, finish_value_iff]

/-- The machine accepts what gives options their values. -/
theorem gives_of_finish : ∀ (words : List String) (c : Choices), finish ⟨c, none⟩ words = .ok d →
    ∃ gs, Gives words gs ∧ c.giveAll gs = .ok d
  | [], c, h => ⟨[], .done, h⟩
  | w :: words, c, h => by
    -- an option takes one word or two, and what follows it is shorter
    obtain ⟨hw, rfl, rfl⟩ | ⟨f, v, hw, e, he, h⟩ | ⟨f, v, rest, hw, rfl, hv, e, he, h⟩ :=
      (finish_none_cons_iff w words).1 h
    · exact ⟨[], .parted hw, rfl⟩
    · obtain ⟨gs, hgs, hd⟩ := gives_of_finish words e h
      exact ⟨(f, v) :: gs, .joined hw hgs, bind_eq_ok_iff.2 ⟨e, he, hd⟩⟩
    · obtain ⟨gs, hgs, hd⟩ := gives_of_finish rest e h
      exact ⟨(f, v) :: gs, .apart hw hv hgs, bind_eq_ok_iff.2 ⟨e, he, hd⟩⟩

/-- **The words that are accepted.** They give options their values, and these are taken over from
the left. -/
theorem finish_eq_ok_iff {words : List String} :
    finish ⟨c, none⟩ words = .ok d ↔
      ∃ gs, Gives words gs ∧ c.giveAll gs = .ok d := by
  refine ⟨gives_of_finish words c, ?_⟩
  rintro ⟨gs, hgs, hd⟩
  induction hgs generalizing c with
  | done => exact hd
  | parted hw => exact (finish_none_cons_iff _ _).2 (Or.inl ⟨hw, rfl, by cases hd; rfl⟩)
  | joined hw _ ih =>
    obtain ⟨e, he, hd⟩ := bind_eq_ok_iff.1 hd
    exact (finish_none_cons_iff _ _).2 (Or.inr (Or.inl ⟨_, _, hw, e, he, ih hd⟩))
  | apart hw hv _ ih =>
    obtain ⟨e, he, hd⟩ := bind_eq_ok_iff.1 hd
    exact (finish_none_cons_iff _ _).2 (Or.inr (Or.inr ⟨_, _, _, hw, rfl, hv, e, he, ih hd⟩))

end WordReading

/-! ## Choices and the texts they come from -/

/-- A port is an integer that is a word of sixteen bits. -/
theorem portValue?_eq_some_iff {s : String} {n : Nat} :
    portValue? s = some n ↔ integer? s.toList = some (n : Int) ∧ n < 0x10000 := by
  have hsigned : ∀ m, signed? s.toList = some m ↔ integer? s.toList = some m ∧ FitsSigned m := by
    intro m
    rw [signed?, Option.filter_eq_some_iff, decide_eq_true_iff]
  unfold portValue?
  constructor
  · intro h
    split at h
    · next m hm =>
      split at h
      · next hbounds =>
        cases h
        rw [Int.toNat_of_nonneg hbounds.1]
        exact ⟨((hsigned m).1 hm).1, by omega⟩
      · cases h
    · cases h
  · rintro ⟨h, hn⟩
    have hfits : FitsSigned n := by
      unfold FitsSigned
      omega
    rw [(hsigned n).2 ⟨h, hfits⟩]
    dsimp only
    rw [if_pos (by omega), Int.toNat_natCast]

/-- A count is a natural number that is a word. -/
theorem countValue?_eq_some_iff {s : String} {n : Nat} :
    countValue? s = some n ↔ natural? s.toList = some n ∧ n < 0x10000000000000000 := by
  unfold countValue? unsigned?
  rw [Option.filter_eq_some_iff, decide_eq_true_iff]
  rfl

/-- The value of the variable that stands in for an option. -/
def Flag.envValue? (env : Choices.Environment) (f : Flag) : Option String :=
  f.envName?.bind fun name => env.lookup name

namespace Choices

variable {c d : Choices} {f g : Flag} {v : String} {text : Flag → Option String}
  {env env' : Environment}

/-- Choices render texts given for options: they hold the values of all that are given and of no
others, and each text is one of the kind wanted. -/
structure Renders (c : Choices) (text : Flag → Option String) : Prop where
  config : c.config = text .config
  host : c.host = text .host
  port : c.port.map some = (text .port).map portValue?
  maxConnections : c.maxConnections.map some = (text .maxConnections).map countValue?
  cols : c.cols.map some = (text .cols).map countValue?
  rows : c.rows.map some = (text .rows).map countValue?
  logLevel : c.logLevel = text .logLevel

/-- An option has been given its value if there is a text for it. -/
theorem Renders.has_eq (h : c.Renders text) (f : Flag) : c.has f = (text f).isSome := by
  cases f with
  | config => rw [has, h.config]
  | host => rw [has, h.host]
  | port => simpa [has] using congrArg Option.isSome h.port
  | maxConnections => simpa [has] using congrArg Option.isSome h.maxConnections
  | cols => simpa [has] using congrArg Option.isSome h.cols
  | rows => simpa [has] using congrArg Option.isSome h.rows
  | logLevel => rw [has, h.logLevel]

theorem map_orBadNumber_eq_ok_iff {o : Option Nat} {k : Nat → Choices} :
    (orBadNumber o).map k = .ok d ↔ ∃ n, o = some n ∧ k n = d := by
  cases o <;> simp [orBadNumber, Except.map]

theorem exists_flag_iff {P : Flag → Prop} :
    (∃ f, P f) ↔ P .config ∨ P .host ∨ P .port ∨ P .maxConnections ∨ P .cols ∨ P .rows ∨
      P .logLevel := by
  constructor
  · rintro ⟨f, hf⟩
    cases f <;> simp only [hf, true_or, or_true]
  · rintro (h | h | h | h | h | h | h)
    all_goals exact ⟨_, h⟩

/-- **The seven options.** The long name of an option, its letter and its variable, where it has
these, say which of the settings its value decides, and which values it takes. -/
theorem exists_set_iff {names : String × Option Char × Option String} :
    (∃ f : Flag, (f.name, f.letter?, f.envName?) = names ∧ c.set f v = .ok d) ↔
      (("config", some 'c', none) = names ∧ v ≠ "" ∧ { c with config := some v } = d) ∨
      (("host", none, none) = names ∧ { c with host := some v } = d) ∨
      (("port", some 'p', some "PORT") = names ∧
        ∃ n : Nat, (integer? v.toList = some (n : Int) ∧ n < 0x10000) ∧
          { c with port := some n } = d) ∨
      (("max-connections", none, none) = names ∧
        ∃ n, (natural? v.toList = some n ∧ n < 0x10000000000000000) ∧
          { c with maxConnections := some n } = d) ∨
      (("cols", none, some "COLS") = names ∧
        ∃ n, (natural? v.toList = some n ∧ n < 0x10000000000000000) ∧
          { c with cols := some n } = d) ∨
      (("rows", none, some "ROWS") = names ∧
        ∃ n, (natural? v.toList = some n ∧ n < 0x10000000000000000) ∧
          { c with rows := some n } = d) ∨
      (("log-level", none, none) = names ∧ { c with logLevel := some v } = d) := by
  have hconfig : c.set .config v = .ok d ↔ v ≠ "" ∧ { c with config := some v } = d := by
    unfold Choices.set
    dsimp only
    split <;> simp [*]
  rw [exists_flag_iff, hconfig]
  simp only [Flag.name, Flag.letter?, Flag.envName?, Choices.set, map_orBadNumber_eq_ok_iff,
    portValue?_eq_some_iff, countValue?_eq_some_iff, Except.ok.injEq]

/-- Giving an option its value adds a text. -/
theorem Renders.set (h : c.Renders text) (hset : c.set f v = .ok d) :
    d.Renders (Function.update text f (some v)) := by
  obtain ⟨hconfig, hhost, hport, hmax, hcols, hrows, hlog⟩ := h
  unfold Choices.set at hset
  cases f with
  | config =>
    dsimp only at hset
    split at hset
    · cases hset
    · cases hset
      constructor <;> simp [*]
  | host | logLevel =>
    cases hset
    constructor <;> simp [*]
  | port | maxConnections | cols | rows =>
    obtain ⟨n, hn, rfl⟩ := map_orBadNumber_eq_ok_iff.1 hset
    constructor <;> simp [*]

theorem renders_none : Renders {} fun _ => none := by
  constructor <;> rfl

theorem give_eq_ok_iff : c.give f v = .ok d ↔ c.has f = false ∧ c.set f v = .ok d := by
  unfold give
  split <;> simp_all

/-- The values among words are rendered, the first one given for each option. -/
theorem Renders.give (gs : List (Flag × String)) {c : Choices} {text : Flag → Option String}
    (h : c.Renders text) (hgive : c.giveAll gs = .ok d) :
    d.Renders fun f => text f <|> gs.lookup f := by
  induction gs generalizing c text with
  | nil =>
    cases hgive
    simpa using h
  | cons g gs ih =>
    obtain ⟨f, v⟩ := g
    obtain ⟨e, he, hgive⟩ := bind_eq_ok_iff.1 hgive
    obtain ⟨hnew, hset⟩ := give_eq_ok_iff.1 he
    rw [h.has_eq, Option.isSome_eq_false_iff, Option.isNone_iff_eq_none] at hnew
    -- the option had no text, so its first value stays in front of any later one
    have htext : (fun f' => Function.update text f (some v) f' <|> gs.lookup f') =
        fun f' => text f' <|> List.lookup f' ((f, v) :: gs) := by
      funext f'
      by_cases hf : f' = f
      · subst hf
        simp [hnew]
      · simp [hf, List.lookup_cons, beq_false_of_ne hf]
    exact htext ▸ ih (h.set hset) hgive

/-- Looking at the variable of an option adds its text, unless there is one. -/
theorem Renders.addVariable (h : c.Renders text) (hadd : addVariable env c f = .ok d) :
    d.Renders (Function.update text f (text f <|> f.envValue? env)) := by
  unfold Choices.addVariable at hadd
  rw [h.has_eq] at hadd
  cases htext : text f with
  | some v =>
    simp only [htext, Option.isSome_some, if_true, Except.ok.injEq] at hadd
    rw [Option.orElse_eq_orElse, Option.orElse_some, ← htext, Function.update_eq_self]
    exact hadd ▸ h
  | none =>
    simp only [htext, Option.isSome_none, Bool.false_eq_true, if_false] at hadd
    rw [Option.orElse_eq_orElse, Option.orElse_none]
    cases hvar : f.envValue? env with
    | none =>
      rw [Flag.envValue?] at hvar
      rw [hvar] at hadd
      cases hadd
      rwa [← htext, Function.update_eq_self]
    | some v =>
      rw [Flag.envValue?] at hvar
      rw [hvar] at hadd
      exact h.set hadd

/-- The variables of options are rendered where no other text is given. -/
theorem Renders.addVariables (fs : List Flag) {c : Choices} {text : Flag → Option String}
    (h : c.Renders text) (hadd : fs.foldlM (Choices.addVariable env) c = .ok d) :
    d.Renders fun f => text f <|> if f ∈ fs then f.envValue? env else none := by
  induction fs generalizing c text with
  | nil =>
    cases hadd
    simpa using h
  | cons f fs ih =>
    obtain ⟨e, he, hadd⟩ := bind_eq_ok_iff.1 hadd
    have htext : (fun f' => Function.update text f (text f <|> f.envValue? env) f' <|>
          if f' ∈ fs then f'.envValue? env else none) =
        fun f' => text f' <|> if f' ∈ f :: fs then f'.envValue? env else none := by
      funext f'
      by_cases hf : f' = f
      · subst hf
        cases text f' <;> by_cases hmem : f' ∈ fs <;> simp [hmem]
      · simp [hf]
    exact htext ▸ ih (h.addVariable he) hadd

/-- **What is chosen.** The words give options their values, and each choice is the value given
among them or else that of the option's variable. -/
theorem renders_read {words : List String} (h : read words env = .ok c) :
    ∃ gs, Gives words gs ∧ c.Renders fun f => gs.lookup f <|> f.envValue? env := by
  obtain ⟨d, hd, hc⟩ := bind_eq_ok_iff.1 h
  obtain ⟨gs, hgs, hgive⟩ := WordReading.finish_eq_ok_iff.1 hd
  have hwords := renders_none.give gs hgive
  have hall := hwords.addVariables Flag.all hc
  have hmem : ∀ f, f ∈ Flag.all := fun f => by cases f <;> decide
  exact ⟨gs, hgs, by simpa [hmem] using hall⟩

/-! ## The variables that are not looked at -/

theorem Renders.addVariable_congr (h : c.Renders text)
    (hsame : text f = none → f.envValue? env = f.envValue? env') :
    Choices.addVariable env c f = Choices.addVariable env' c f := by
  unfold Choices.addVariable
  rw [h.has_eq]
  split
  · rfl
  · next hnone =>
    have hvar := hsame (by simpa using hnone)
    rw [Flag.envValue?, Flag.envValue?] at hvar
    rw [hvar]

/-- Where there is a text, the variable makes no difference. -/
theorem Renders.addVariables_congr (fs : List Flag) {c : Choices} {text : Flag → Option String}
    (h : c.Renders text) (hsame : ∀ f, text f = none → f.envValue? env = f.envValue? env') :
    fs.foldlM (Choices.addVariable env) c = fs.foldlM (Choices.addVariable env') c := by
  induction fs generalizing c text with
  | nil => rfl
  | cons f fs ih =>
    rw [List.foldlM_cons, List.foldlM_cons, h.addVariable_congr (hsame f)]
    cases hstep : Choices.addVariable env' c f with
    | error e => rfl
    | ok d =>
      refine ih (h.addVariable hstep) fun g hg => ?_
      by_cases hgf : g = f
      · subst hgf
        rw [Function.update_self, Option.orElse_eq_orElse, Option.orElse_eq_or,
          Option.or_eq_none_iff] at hg
        exact hsame g hg.1
      · rw [Function.update_of_ne hgf] at hg
        exact hsame g hg

/-- **What is not looked at.** Two environments give the same choices if they agree on the variables
of the options that are not named among the words. -/
theorem read_congr {words : List String}
    (h : ∀ f, Named words f ∨ f.envValue? env = f.envValue? env') :
    read words env = read words env' := by
  unfold read
  cases hfinish : WordReading.finish ⟨{}, none⟩ words with
  | error e => rfl
  | ok c =>
    obtain ⟨gs, hgs, hgive⟩ := WordReading.finish_eq_ok_iff.1 hfinish
    refine (renders_none.give gs hgive).addVariables_congr Flag.all fun f hf => ?_
    exact (h f).resolve_left fun hnamed => hgs.lookup_ne_none hnamed hf

end Choices

end Plotter
