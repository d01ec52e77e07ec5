import Plotter.Launch
import Plotter.Proofs.CommandLine

/-!
# Which layer decides

The settings of a service come from four layers: the words of the command line, the variables of
the environment, a file, and the usual values. This file says what each of them decides when a
launch succeeds (`Layered`), and which error comes out when it does not: that of the first stage
that fails, each stage being given as a relation of its own (`Readers.Fails`). An error does not
depend on what only later stages look at (`Readers.Alike`).

Of the readers only so much is used as `Readers.ReadsChoices` says, and of a file nothing but what
is taken from its document. The statement for the readers at hand is `launch_layers`.
-/

namespace Plotter

open Text

/-! ## What a file says -/

namespace Settings.File

/-- What a file says of the settings, and nothing of those that it leaves open. -/
structure Said where
  host : Option String := none
  port : Option Nat := none
  maxConnections : Option Nat := none
  cols : Option Nat := none
  rows : Option Nat := none
  glyph : Option String := none
  startCol : Option Nat := none
  startRow : Option Nat := none
  logLevel : Option String := none

/-- The profile with the usual values for what is left open. -/
def Said.profile (s : Said) : Profile where
  host := s.host.getD Profile.usual.host
  port := s.port.getD Profile.usual.port
  maxConnections := s.maxConnections.getD Profile.usual.maxConnections
  cols := s.cols.getD Profile.usual.cols
  rows := s.rows.getD Profile.usual.rows
  glyph := s.glyph.getD Profile.usual.glyph
  startCol := s.startCol
  startRow := s.startRow
  logLevel := s.logLevel.getD Profile.usual.logLevel

/-- The entries of the table under a key, of which there are none if the table is left out. -/
def Reader.tableAt? (r : Reader) (root : Toml.Entries) (key : String) (usual wanted : List String) :
    Option Toml.Entries :=
  match root.lookup key with
  | none => some []
  | some i => r.table? usual wanted i

/-- What a document says of the settings. -/
def Reader.said? (r : Reader) (root : Toml.Entries) : Option Said := do
  let server ← r.tableAt? root "server" ["host", "port", "max_connections"] []
  let canvas ←
    r.tableAt? root "canvas" ["cols", "rows", "brush_glyph"] ["start_col", "start_row"]
  let logging ← r.tableAt? root "logging" ["level"] []
  return {
    host := ← given? text? server "host"
    port := ← given? (natural? portCount) server "port"
    maxConnections := ← given? (natural? wordSize) server "max_connections"
    cols := ← given? (natural? wordSize) canvas "cols"
    rows := ← given? (natural? wordSize) canvas "rows"
    glyph := ← given? text? canvas "brush_glyph"
    startCol := ← given? (natural? wordSize) canvas "start_col"
    startRow := ← given? (natural? wordSize) canvas "start_row"
    logLevel := ← given? text? logging "level" }

/-- What a text says of the settings, if it is usable. -/
def Reader.saidIn? (r : Reader) (text : List Char) : Option Said := (r.document? text).bind r.said?

theorem valueOr?_eq {α : Type} (read : Toml.Item → Option α) (t : Toml.Entries) (key : String)
    (usual : α) : valueOr? read t key usual = (given? read t key).map (·.getD usual) := by
  unfold valueOr? given?
  cases t.lookup key with
  | none => rfl
  | some i => cases h : read i <;> simp [h]

namespace Reader

variable (r : Reader)

/-- A table that is left out says as much as one without entries, if the usual values for its keys
are those for the table. -/
theorem partOr?_eq {α : Type} (ofEntries? : Toml.Entries → Option α) {absent : α}
    (habsent : ofEntries? [] = some absent) (usual wanted : List String) (root : Toml.Entries)
    (key : String) :
    partOr? (fun i => (r.table? usual wanted i).bind ofEntries?) root key absent =
      (r.tableAt? root key usual wanted).bind ofEntries? := by
  rw [partOr?, tableAt?]
  cases root.lookup key with
  | none => exact habsent.symm
  | some i => rfl

theorem serverPart_eq (root : Toml.Entries) :
    partOr? (ServerPart.read? r) root "server" .usual =
      (r.tableAt? root "server" ["host", "port", "max_connections"] []).bind
        ServerPart.ofEntries? :=
  r.partOr?_eq ServerPart.ofEntries? rfl _ _ root _

theorem canvasPart_eq (root : Toml.Entries) :
    partOr? (CanvasPart.read? r) root "canvas" .usual =
      (r.tableAt? root "canvas" ["cols", "rows", "brush_glyph"] ["start_col", "start_row"]).bind
        CanvasPart.ofEntries? :=
  r.partOr?_eq CanvasPart.ofEntries? rfl _ _ root _

theorem loggingPart_eq (root : Toml.Entries) :
    partOr? (LoggingPart.read? r) root "logging" .usual =
      (r.tableAt? root "logging" ["level"] []).bind LoggingPart.ofEntries? :=
  r.partOr?_eq LoggingPart.ofEntries? rfl _ _ root _

/-- A profile is what a document says, with the usual values for the rest. -/
theorem profile?_eq (root : Toml.Entries) : r.profile? root = (r.said? root).map Said.profile := by
  rw [profile?, serverPart_eq, canvasPart_eq, loggingPart_eq, said?]
  cases r.tableAt? root "server" ["host", "port", "max_connections"] [] with
  | none => rfl
  | some server =>
    cases r.tableAt? root "canvas" ["cols", "rows", "brush_glyph"] ["start_col", "start_row"] with
    | none => simp
    | some canvas =>
      cases r.tableAt? root "logging" ["level"] [] with
      | none => simp
      | some logging =>
        simp only [ServerPart.ofEntries?, CanvasPart.ofEntries?, LoggingPart.ofEntries?,
          valueOr?_eq, Option.map_eq_bind, Option.bind_eq_bind, Option.pure_def, Option.bind_assoc,
          Option.bind_some, Function.comp_apply]
        rfl

theorem ofText?_eq (text : List Char) : r.ofText? text = (r.saidIn? text).map Said.profile := by
  unfold ofText? saidIn?
  cases r.document? text with
  | none => rfl
  | some root => exact r.profile?_eq root

end Reader

end Settings.File

open Settings.File (Said)

/-! ## The stages -/

/-- The text of a file: it can be read, and what is read is text. -/
def textOf (readFile : String → Except FileFault (List UInt8)) (path : String) :
    Except FileFault (List Char) := do
  match Utf8.strict? (← readFile path) with
  | none => .error .notText
  | some text => .ok text

namespace Readers

section Stages

variable (r : Readers) (readFile : String → Except FileFault (List UInt8))

/-- What the chosen file says. Where none is chosen, nothing is said. -/
inductive Says : Option String → Said → Prop
  | noFile : Says none {}
  | file {path : String} {text : List Char} {s : Said} (htext : textOf readFile path = .ok text)
      (hsaid : r.file.saidIn? text = some s) : Says (some path) s

/-- The errors of a launch, each with the stage that fails and the ones before it, which do not. -/
inductive Fails (words : List String) (env : Choices.Environment) : LaunchError → Prop
  | stopped {stop : Stop} (h : r.choices words env = .error stop) : Fails words env (.stopped stop)
  | unreadable {c : Choices} {path : String} {fault : FileFault}
      (hread : r.choices words env = .ok c) (hpath : c.config = some path)
      (h : textOf readFile path = .error fault) : Fails words env (.unreadable path fault)
  | unusable {c : Choices} {path : String} {text : List Char}
      (hread : r.choices words env = .ok c) (hpath : c.config = some path)
      (htext : textOf readFile path = .ok text) (h : r.file.saidIn? text = none) :
      Fails words env (.unusable path)
  | wrong {c : Choices} {file : Said} {problem : Settings.Problem}
      (hread : r.choices words env = .ok c) (hfile : Says r readFile c.config file)
      (h : Settings.merge c file.profile = .error problem) : Fails words env (.wrong problem)

variable {r readFile}

theorem Says.unique {path : Option String} {s t : Said} (hs : r.Says readFile path s)
    (ht : r.Says readFile path t) : s = t := by
  cases hs with
  | noFile =>
    cases ht
    rfl
  | file htext hsaid =>
    cases ht with
    | file htext' hsaid' =>
      cases htext.symm.trans htext'
      exact Option.some.inj (hsaid.symm.trans hsaid')

theorem profileOf_of_path {c : Choices} {path : String} (h : c.config = some path) :
    r.profileOf readFile c =
      match textOf readFile path with
      | .error fault => .error (.unreadable path fault)
      | .ok text =>
        match r.file.saidIn? text with
        | none => .error (.unusable path)
        | some s => .ok s.profile := by
  rw [profileOf, h]
  dsimp only [textOf]
  cases readFile path with
  | error fault => rfl
  | ok bytes =>
    simp only [bind, Except.bind]
    cases Utf8.strict? bytes with
    | none => rfl
    | some text =>
      dsimp only
      rw [Settings.File.Reader.ofText?_eq]
      cases r.file.saidIn? text <;> rfl

/-- There is a profile exactly if the chosen file says something that can be used. -/
theorem profileOf_eq_ok_iff {c : Choices} {p : Profile} :
    r.profileOf readFile c = .ok p ↔ ∃ s, r.Says readFile c.config s ∧ s.profile = p := by
  constructor
  · intro h
    cases hpath : c.config with
    | none =>
      rw [profileOf, hpath] at h
      cases h
      exact ⟨{}, .noFile, rfl⟩
    | some path =>
      rw [profileOf_of_path hpath] at h
      split at h
      · cases h
      · next text htext =>
        split at h
        · cases h
        · next s hsaid =>
          cases h
          exact ⟨s, .file htext hsaid, rfl⟩
  · rintro ⟨s, hs, rfl⟩
    generalize hpath : c.config = path at hs
    cases hs with
    | noFile =>
      rw [profileOf, hpath]
      rfl
    | file htext hsaid => simp only [profileOf_of_path hpath, htext, hsaid]

/-- There is no profile exactly if a file is chosen and cannot be read or not be used. -/
theorem profileOf_eq_error_iff {c : Choices} {e : LaunchError} :
    r.profileOf readFile c = .error e ↔ ∃ path, c.config = some path ∧
      ((∃ fault, textOf readFile path = .error fault ∧ .unreadable path fault = e) ∨
        ∃ text, textOf readFile path = .ok text ∧ r.file.saidIn? text = none ∧
          .unusable path = e) := by
  cases hpath : c.config with
  | none => simp [profileOf, hpath]
  | some path =>
    rw [profileOf_of_path hpath]
    cases htext : textOf readFile path with
    | error fault => simp [htext]
    | ok text => cases hsaid : r.file.saidIn? text <;> simp [htext, hsaid]

variable {words : List String} {env : Choices.Environment}

/-- A launch succeeds exactly if all its stages do. -/
theorem launch_eq_ok_iff {st : Settings} :
    r.launch readFile words env = .ok st ↔
      ∃ c file, r.choices words env = .ok c ∧ r.Says readFile c.config file ∧
        Settings.merge c file.profile = .ok st := by
  simp only [launch, settingsOf, bind_eq_ok_iff, mapError_eq_ok_iff, profileOf_eq_ok_iff]
  constructor
  · rintro ⟨c, hc, p, ⟨file, hfile, rfl⟩, hmerge⟩
    exact ⟨c, file, hc, hfile, hmerge⟩
  · rintro ⟨c, file, hc, hfile, hmerge⟩
    exact ⟨c, hc, _, ⟨file, hfile, rfl⟩, hmerge⟩

/-- A launch fails with the error of the first stage that fails. -/
theorem launch_eq_error_iff {e : LaunchError} :
    r.launch readFile words env = .error e ↔ r.Fails readFile words env e := by
  simp only [launch, settingsOf, bind_eq_error_iff, mapError_eq_ok_iff, mapError_eq_error_iff,
    profileOf_eq_ok_iff, profileOf_eq_error_iff]
  constructor
  · rintro (⟨stop, hstop, rfl⟩ | ⟨c, hc, ⟨path, hpath, ⟨fault, hfault, rfl⟩ |
      ⟨text, htext, hsaid, rfl⟩⟩ | ⟨_, ⟨file, hfile, rfl⟩, problem, hproblem, rfl⟩⟩)
    · exact .stopped hstop
    · exact .unreadable hc hpath hfault
    · exact .unusable hc hpath htext hsaid
    · exact .wrong hc hfile hproblem
  · rintro (hstop | ⟨hc, hpath, hfault⟩ | ⟨hc, hpath, htext, hsaid⟩ | ⟨hc, hfile, hproblem⟩)
    · exact Or.inl ⟨_, hstop, rfl⟩
    · exact Or.inr ⟨_, hc, Or.inl ⟨_, hpath, Or.inl ⟨_, hfault, rfl⟩⟩⟩
    · exact Or.inr ⟨_, hc, Or.inl ⟨_, hpath, Or.inr ⟨_, htext, hsaid, rfl⟩⟩⟩
    · exact Or.inr ⟨_, hc, Or.inr ⟨_, ⟨_, hfile, rfl⟩, _, hproblem, rfl⟩⟩

end Stages

end Readers

/-! ## The layers -/

/-- A value is decided by a text that is given for it or else by the layer below, the lowest being
the usual value. -/
def Decides {α : Type} (read : String → Option α) (text : Option String) (below : Option α)
    (usual value : α) : Prop :=
  match text with
  | some s => read s = some value
  | none => value = below.getD usual

theorem Decides.unique {α : Type} {read : String → Option α} {text : Option String}
    {below : Option α} {usual m n : α} (hm : Decides read text below usual m)
    (hn : Decides read text below usual n) : m = n := by
  cases text with
  | none => exact Eq.trans hm (Eq.symm hn)
  | some s => exact Option.some.inj (hm.symm.trans hn)

/-- Which layer decides each of the settings: the values `gs` that the words give, the variables
`env`, and what `file` says. -/
structure Layered (gs : List (Flag × String)) (env : Choices.Environment) (file : Said)
    (st : Settings) : Prop where
  port : Decides portValue? (gs.lookup .port <|> env.lookup "PORT") file.port 8124 st.port
  cols : Decides countValue? (gs.lookup .cols <|> env.lookup "COLS") file.cols 30
    st.setup.extent.cols
  rows : Decides countValue? (gs.lookup .rows <|> env.lookup "ROWS") file.rows 30
    st.setup.extent.rows
  host : st.host = (gs.lookup .host <|> file.host).getD "0.0.0.0"
  maxConnections : ∃ n, Decides countValue? (gs.lookup .maxConnections) file.maxConnections 1024 n ∧
    st.maxConnections = max 1 n
  logLevel : st.logLevel = (gs.lookup .logLevel <|> file.logLevel).getD "info"
  glyph : Settings.single? (file.glyph.getD "*") = some st.setup.glyph
  start : st.setup.start = ⟨file.startCol.getD (st.setup.extent.cols / 2),
    file.startRow.getD (st.setup.extent.rows / 2 - 1)⟩

/-- A number that renders a text, with a layer below, is decided by that text. -/
theorem decides_getD {read : String → Option Nat} {text : Option String} {chosen below : Option Nat}
    {usual : Nat} (h : chosen.map some = text.map read) :
    Decides read text below usual (chosen.getD (below.getD usual)) := by
  cases text with
  | none =>
    rw [Option.map_none, Option.map_eq_none_iff] at h
    rw [h]
    exact rfl
  | some s =>
    obtain ⟨n, hn, hread⟩ := Option.map_eq_some_iff.1 h
    rw [hn]
    exact hread.symm

theorem setupOf_eq_ok {c : Choices} {p : Profile} {s : Setup}
    (h : Settings.setupOf c p = .ok s) :
    s.extent = Settings.extentOf c p ∧ Settings.single? p.glyph = some s.glyph ∧
      s.start = Settings.startOf s.extent p := by
  unfold Settings.setupOf at h
  dsimp only at h
  split at h
  · cases h
  · split at h
    · cases h
    · next g hg =>
      split at h
      · cases h
        exact ⟨rfl, hg, rfl⟩
      · cases h

/-- Choices that render texts, put together with what a file says, are layered. -/
theorem layered_of_merge {gs : List (Flag × String)} {env : Choices.Environment} {file : Said}
    {c : Choices} {st : Settings} (hc : c.Renders fun f => gs.lookup f <|> f.envValue? env)
    (h : Settings.merge c file.profile = .ok st) : Layered gs env file st := by
  unfold Settings.merge at h
  cases hsetup : Settings.setupOf c file.profile with
  | error problem =>
    rw [hsetup] at h
    cases h
  | ok s =>
    rw [hsetup] at h
    cases h
    obtain ⟨hextent, hglyph, hstart⟩ := setupOf_eq_ok hsetup
    have hhost : c.host = gs.lookup .host := by simpa [Flag.envValue?, Flag.envName?] using hc.host
    have hlog : c.logLevel = gs.lookup .logLevel := by
      simpa [Flag.envValue?, Flag.envName?] using hc.logLevel
    have hmax : c.maxConnections.map some = (gs.lookup .maxConnections).map countValue? := by
      simpa [Flag.envValue?, Flag.envName?] using hc.maxConnections
    exact
      { port := decides_getD hc.port
        cols := by
          rw [hextent]
          exact decides_getD hc.cols
        rows := by
          rw [hextent]
          exact decides_getD hc.rows
        host := by
          rw [hhost, Option.orElse_eq_orElse, Option.orElse_eq_or, Option.getD_or]
          rfl
        maxConnections := ⟨_, decides_getD hmax, rfl⟩
        logLevel := by
          rw [hlog, Option.orElse_eq_orElse, Option.orElse_eq_or, Option.getD_or]
          rfl
        glyph := hglyph
        start := hstart }

/-! ## What an error depends on -/

namespace Readers

/-- Two launches are alike as far as an error goes: up to the stage that gives the error, all stages
look at the same and come out the same. -/
inductive Alike (r : Readers) (readFile readFile' : String → Except FileFault (List UInt8))
    (words words' : List String) (env env' : Choices.Environment) : LaunchError → Prop
  | stopped {stop : Stop} (h : r.choices words' env' = r.choices words env) :
      Alike r readFile readFile' words words' env env' (.stopped stop)
  | unreadable {path : String} {fault : FileFault} {c : Choices}
      (h : r.choices words' env' = .ok c) (hpath : c.config = some path)
      (hfile : readFile' path = readFile path) :
      Alike r readFile readFile' words words' env env' (.unreadable path fault)
  | unusable {path : String} {c : Choices}
      (h : r.choices words' env' = .ok c) (hpath : c.config = some path)
      (hfile : readFile' path = readFile path) :
      Alike r readFile readFile' words words' env env' (.unusable path)

theorem Fails.alike {r : Readers} {readFile readFile' : String → Except FileFault (List UInt8)}
    {words words' : List String} {env env' : Choices.Environment} {e : LaunchError}
    (h : r.Fails readFile words env e)
    (halike : r.Alike readFile readFile' words words' env env' e) :
    r.Fails readFile' words' env' e := by
  have htextOf : ∀ path, readFile' path = readFile path →
      textOf readFile' path = textOf readFile path := fun path hpath => by
    rw [textOf, textOf, hpath]
  cases h with
  | stopped hstop =>
    cases halike with
    | stopped hread => exact .stopped (hread.trans hstop)
  | unreadable _ _ hfault =>
    cases halike with
    | unreadable hread hpath hfile => exact .unreadable hread hpath ((htextOf _ hfile).trans hfault)
  | unusable _ _ htext hsaid =>
    cases halike with
    | unusable hread hpath hfile => exact .unusable hread hpath ((htextOf _ hfile).trans htext) hsaid
  | wrong _ _ _ => cases halike

/-! ## Launches -/

/-- What is relied on of how words and variables are read. Words that are accepted give values to
options (`gives`), and words, whether accepted or not, name options (`named`). -/
structure ReadsChoices (r : Readers) (gives : List String → List (Flag × String) → Prop)
    (named : List String → Flag → Prop) : Prop where
  /-- Words are taken in one way only. -/
  unique : ∀ {words gs hs}, gives words gs → gives words hs → gs = hs
  /-- Each choice is the value given among the words or else that of the option's variable, and it
  is of the kind wanted. -/
  renders : ∀ {words env c}, r.choices words env = .ok c →
    ∃ gs, gives words gs ∧ c.Renders fun f => gs.lookup f <|> f.envValue? env
  /-- The variable of an option that is named is not looked at. -/
  congr : ∀ {words env env'}, (∀ f, named words f ∨ f.envValue? env = f.envValue? env') →
    r.choices words env = r.choices words env'

/-- The command line and the environment are read as is relied on. -/
theorem readsChoices_usual : usual.ReadsChoices Gives Named :=
  ⟨Gives.unique, Choices.renders_read, Choices.read_congr⟩

section Launches

variable {r : Readers} {gives : List String → List (Flag × String) → Prop}
  {named : List String → Flag → Prop}

theorem ReadsChoices.layered (hr : r.ReadsChoices gives named)
    {readFile : String → Except FileFault (List UInt8)} {words : List String}
    {env : Choices.Environment} {st : Settings} (h : r.launch readFile words env = .ok st) :
    ∃ gs file, gives words gs ∧ r.Says readFile (gs.lookup .config) file ∧
      Layered gs env file st := by
  obtain ⟨c, file, hc, hfile, hmerge⟩ := launch_eq_ok_iff.1 h
  obtain ⟨gs, hgs, hrenders⟩ := hr.renders hc
  have hconfig : c.config = gs.lookup .config := by
    simpa [Flag.envValue?, Flag.envName?] using hrenders.config
  exact ⟨gs, file, hgs, hconfig ▸ hfile, layered_of_merge hrenders hmerge⟩

/-- **Which layer decides**, for all readers of which this much can be relied on: for all words,
environments and ways in which files are read,

* the settings of a launch that succeeds are decided layer by layer;
* environments make no difference to the address, the number of sessions, the level of detail of the
  log and the glyph of launches that succeed;
* variables of options that are named among the words make no difference at all;
* a launch fails with the error of the first stage that fails;
* what only later stages look at makes no difference to that error. -/
theorem ReadsChoices.decides (hr : r.ReadsChoices gives named)
    (readFile : String → Except FileFault (List UInt8)) (words : List String)
    (env : Choices.Environment) :
    (∀ st, r.launch readFile words env = .ok st → ∃ gs file, gives words gs ∧
      r.Says readFile (gs.lookup .config) file ∧ Layered gs env file st) ∧
    (∀ env' st st', r.launch readFile words env = .ok st →
      r.launch readFile words env' = .ok st' →
      st'.host = st.host ∧ st'.maxConnections = st.maxConnections ∧ st'.logLevel = st.logLevel ∧
        st'.setup.glyph = st.setup.glyph) ∧
    (∀ env', (∀ f, named words f ∨ f.envValue? env = f.envValue? env') →
      r.launch readFile words env = r.launch readFile words env') ∧
    (∀ e, r.launch readFile words env = .error e ↔ r.Fails readFile words env e) ∧
    ∀ readFile' words' env' e, r.launch readFile words env = .error e →
      r.Alike readFile readFile' words words' env env' e →
      r.launch readFile' words' env' = .error e := by
  refine ⟨fun st => hr.layered, fun env' st st' h h' => ?_, fun env' hsame => ?_,
    fun e => launch_eq_error_iff, fun readFile' words' env' e h halike => ?_⟩
  · obtain ⟨gs, file, hgs, hfile, hst⟩ := hr.layered h
    obtain ⟨gs', file', hgs', hfile', hst'⟩ := hr.layered h'
    obtain rfl := hr.unique hgs hgs'
    obtain rfl := hfile.unique hfile'
    obtain ⟨m, hm, hmax⟩ := hst.maxConnections
    obtain ⟨n, hn, hmax'⟩ := hst'.maxConnections
    refine ⟨hst'.host.trans hst.host.symm, ?_, hst'.logLevel.trans hst.logLevel.symm,
      Option.some.inj (hst'.glyph.symm.trans hst.glyph)⟩
    rw [hmax, hmax', hm.unique hn]
  · rw [launch, launch, hr.congr hsame]
  · exact launch_eq_error_iff.2 ((launch_eq_error_iff.1 h).alike halike)

end Launches

end Readers

/-! ## The readers at hand -/

/-- What the chosen file says, read as usual. -/
abbrev Says (readFile : String → Except FileFault (List UInt8)) : Option String → Said → Prop :=
  Readers.usual.Says readFile

/-- The errors of a launch, read as usual. -/
abbrev Fails (readFile : String → Except FileFault (List UInt8)) (words : List String)
    (env : Choices.Environment) : LaunchError → Prop :=
  Readers.usual.Fails readFile words env

/-- Two launches are alike as far as an error goes, read as usual. -/
abbrev Alike (readFile readFile' : String → Except FileFault (List UInt8))
    (words words' : List String) (env env' : Choices.Environment) : LaunchError → Prop :=
  Readers.usual.Alike readFile readFile' words words' env env'

/-- **Which layer decides.** For all words, environments and ways in which files are read:

* The settings of a launch that succeeds are decided layer by layer.
* Environments make no difference to the address, the number of sessions, the level of detail of the
  log and the glyph of launches that succeed.
* Variables of options that are named among the words make no difference at all.
* A launch fails with the error of the first stage that fails.
* What only later stages look at makes no difference to that error. -/
theorem launch_layers (readFile : String → Except FileFault (List UInt8)) (words : List String)
    (env : Choices.Environment) :
    (∀ st, launch readFile words env = .ok st → ∃ gs file, Gives words gs ∧
      Says readFile (gs.lookup .config) file ∧ Layered gs env file st) ∧
    (∀ env' st st', launch readFile words env = .ok st → launch readFile words env' = .ok st' →
      st'.host = st.host ∧ st'.maxConnections = st.maxConnections ∧ st'.logLevel = st.logLevel ∧
        st'.setup.glyph = st.setup.glyph) ∧
    (∀ env', (∀ f, Named words f ∨ f.envValue? env = f.envValue? env') →
      launch readFile words env = launch readFile words env') ∧
    (∀ e, launch readFile words env = .error e ↔ Fails readFile words env e) ∧
    ∀ readFile' words' env' e, launch readFile words env = .error e →
      Alike readFile readFile' words words' env env' e →
      launch readFile' words' env' = .error e :=
  Readers.readsChoices_usual.decides readFile words env

/-- The port is among the words and the number of columns in a variable; the file says how many
columns and rows there are. -/
theorem launch_layers_port :
    let readFile (_ : String) : Except FileFault (List UInt8) :=
      .ok (Utf8.encode "[canvas]\ncols = 7\nrows = 4\n")
    let words := ["--port", "81", "-ca.toml"]
    let env := [("PORT", "x"), ("COLS", "9"), ("HOST", "h")]
    let st : Settings := ⟨"0.0.0.0", 81, 1024, ⟨⟨9, 4⟩, '*', ⟨4, 1⟩⟩, "info"⟩
    launch readFile words env = .ok st ∧
      (∃ gs file, Gives words gs ∧ Says readFile (gs.lookup .config) file ∧
        Layered gs env file st) ∧
      launch readFile words [("COLS", "9")] = .ok st := by
  intro readFile words env st
  have hlaunch : launch readFile words env = .ok st := by decide +kernel
  obtain ⟨hlayered, -, hsame, -⟩ := launch_layers readFile words env
  refine ⟨hlaunch, hlayered st hlaunch, (hsame [("COLS", "9")] fun f => ?_).symm.trans hlaunch⟩
  cases f with
  | port => exact Or.inl ⟨"--port", by decide, none, by decide⟩
  | _ => exact Or.inr (by decide)

end Plotter
