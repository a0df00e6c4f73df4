import VarFile.Proofs.CommandLine.Outcome
import VarFile.Proofs.ConfigFolder.Loading

/-!
# Going on with the default settings

A command line whose settings cannot be used does what it does with an empty settings file, which
gives the defaults; it only adds a notice to standard error each time that it reads them
(`CommandLine.mirrors_run`). So the settings file of a folder never keeps a command line from
running as long as what is wrong with it is contained.
-/

namespace VarFile

namespace ConfigFolder

/-- The folder with an empty settings file, which gives the defaults. -/
def withDefaults (folder : ConfigFolder) : ConfigFolder := { folder with config := some [] }

private theorem loadSettings_withDefaults (folder : ConfigFolder) :
    folder.withDefaults.loadSettings = (folder.withDefaults, .ok {}) := rfl

/-- A folder whose settings cannot be used is not changed by reading them. -/
theorem loadSettings_of_error {folder : ConfigFolder} {e : ConfigError}
    (h : folder.loadSettings.2 = .error e) : folder.loadSettings = (folder, .error e) := by
  rw [loadSettings] at h ⊢
  split
  · next missing =>
    rw [missing] at h
    cases h
  · next content there =>
    rw [there] at h
    exact Prod.ext rfl h

end ConfigFolder

namespace CommandLine

/-- A text with copies of a notice put in between its parts. -/
inductive Noticed (notice : Text) : Text → Text → Prop
  | nil : Noticed notice [] []
  | both {s t : Text} (before : Noticed notice s t) (u : Text) : Noticed notice (s ++ u) (t ++ u)
  | notice {s t : Text} (before : Noticed notice s t) : Noticed notice s (t ++ notice)

/-- What a command line has done with settings that cannot be used, beside what it has done with the
defaults: the same, but for the notices. -/
structure Mirrors (folder : ConfigFolder) (e : ConfigError) (o o' : Outcome) : Prop where
  tree : o.world.tree = o'.world.tree
  logFiles : o.world.logFiles = o'.world.logFiles
  apart : o.world.folder? = none ∧ o'.world.folder? = none
  config : o.world.config = folder
  defaults : o'.world.config = folder.withDefaults
  ending : o.ending = o'.ending
  out : o.out = o'.out
  err : Noticed (printed ("Ignoring config: " ++ e.message)) o'.err o.err
  events : o.events = o'.events
  edit : o.edit = o'.edit

namespace Mirrors

variable {α : Type} {folder : ConfigFolder} {e : ConfigError} {o o' : Outcome}
  {c : Log.Configuration}

/-! ### The steps of a command -/

private theorem of_ending (m : Mirrors folder e o o') (ending : Ending) :
    Mirrors folder e { o with ending } { o' with ending } := { m with ending := rfl }

theorem fail (m : Mirrors folder e o o') (message : Text) :
    Mirrors folder e (o.fail message) (o'.fail message) :=
  { m with ending := rfl, err := m.err.both _ }

theorem print (m : Mirrors folder e o o') (t : Text) :
    Mirrors folder e (o.print t) (o'.print t) :=
  { m with out := congrArg (· ++ printed t) m.out }

theorem draw (m : Mirrors folder e o o') (t : Text) :
    Mirrors folder e (o.draw t) (o'.draw t) :=
  { m with out := congrArg (· ++ line t) m.out }

theorem log (m : Mirrors folder e o o') (c : Log.Configuration) (events : List Log.Event) :
    Mirrors folder e (o.log c events) (o'.log c events) := by
  rw [Outcome.log, Outcome.log]
  split
  · exact { m with events := congrArg (· ++ c.filter events) m.events }
  · exact m

theorem storageError (m : Mirrors folder e o o') (cause : Storage.Error) :
    Mirrors folder e (o.storageError cause) (o'.storageError cause) := by
  cases cause with
  | invalidPath cause => exact m.of_ending _
  | modeOutOfRange => exact m.of_ending _
  | unstorable cause => exact m.of_ending _
  | failed path action cause => exact m.fail _
  | tooLarge path => exact m.fail _

/-- Lines that are put out one after the other keep what was done the same. -/
theorem foldl {put : Outcome → Text → Outcome}
    (one : ∀ {o o' : Outcome}, Mirrors folder e o o' → ∀ t, Mirrors folder e (put o t) (put o' t))
    (m : Mirrors folder e o o') (lines : List Text) :
    Mirrors folder e (lines.foldl put o) (lines.foldl put o') := by
  induction lines generalizing o o' with
  | nil => exact m
  | cons line lines ih => exact ih (one m line)

theorem withKey (m : Mirrors folder e o o') (key : Text) {next : Outcome → Outcome}
    (go : ∀ {o o' : Outcome}, Mirrors folder e o o' → Mirrors folder e (next o) (next o')) :
    Mirrors folder e (o.withKey key next) (o'.withKey key next) := by
  rw [Outcome.withKey, Outcome.withKey]
  split
  · exact go m
  · exact m.fail _

theorem withMode (m : Mirrors folder e o o') (mode : Text) (settings : Settings)
    {next : Outcome → Int → Outcome}
    (go : ∀ {o o' : Outcome}, Mirrors folder e o o' →
      ∀ n, Mirrors folder e (next o n) (next o' n)) :
    Mirrors folder e (o.withMode mode settings next) (o'.withMode mode settings next) := by
  rw [Outcome.withMode, Outcome.withMode]
  split
  · exact go m _
  · split
    · exact go m _
    · exact m.of_ending _

theorem withLogged (m : Mirrors folder e o o') (c : Log.Configuration) (l : Storage.Logged α)
    {next : Outcome → α → Outcome}
    (go : ∀ {o o' : Outcome}, Mirrors folder e o o' →
      ∀ a, Mirrors folder e (next o a) (next o' a)) :
    Mirrors folder e (o.withLogged c l next) (o'.withLogged c l next) := by
  rw [Outcome.withLogged, Outcome.withLogged]
  split
  · exact go (m.log c l.events) _
  · exact (m.log c l.events).storageError _

/-- Files that are the same before a step and after it. -/
theorem withLogs (m : Mirrors folder e o o') (tree : Files.Tree) (logFiles : List Text) :
    Mirrors folder e { o with world := o.world.withLogs tree logFiles }
      { o' with world := o'.world.withLogs tree logFiles } :=
  { m with tree := rfl, logFiles := rfl }

/-- A log file is made for both in the same way. -/
theorem makeLogFile (m : Mirrors folder e o o') (path : Text) :
    ∃ tree logFiles result, makeLogFile o.world path = (o.world.withLogs tree logFiles, result) ∧
      makeLogFile o'.world path = (o'.world.withLogs tree logFiles, result) := by
  have same : o.world = o.world.withLogs o'.world.tree o'.world.logFiles := by
    rw [World.withLogs, ← m.tree, ← m.logFiles]
  simp only [CommandLine.makeLogFile, World.withLogs, m.tree, m.logFiles]
  split
  · exact ⟨o'.world.tree, _, .ok (), rfl, rfl⟩
  · split
    · exact ⟨o'.world.tree, o'.world.logFiles, _, Prod.ext same rfl, rfl⟩
    · split
      · next tree _ _ => exact ⟨tree, o'.world.logFiles, _, rfl, rfl⟩
      · split
        · next parents _ _ _ _ => exact ⟨parents, o'.world.logFiles, _, rfl, rfl⟩
        · next tree _ _ => exact ⟨tree, o'.world.logFiles, .ok (), rfl, rfl⟩

theorem write (m : Mirrors folder e o o') (c : Log.Configuration) (d : Document) (mode : Int) :
    Mirrors folder e (o.write c d mode) (o'.write c d mode) := by
  rw [Outcome.write, Outcome.write, m.tree]
  simp only
  have written (tree : Files.Tree) : Mirrors folder e { o with world := { o.world with tree } }
      { o' with world := { o'.world with tree } } := { m with tree := rfl }
  split
  · exact (written _).log c _
  · exact ((written _).log c _).storageError _

theorem configureLog (m : Mirrors folder e o o') (verbose : Bool) (settings : Settings)
    {next : Outcome → Log.Configuration → Outcome}
    (go : ∀ {o o' : Outcome}, Mirrors folder e o o' →
      ∀ c, Mirrors folder e (next o c) (next o' c)) :
    Mirrors folder e (configureLog o verbose settings next)
      (configureLog o' verbose settings next) := by
  rw [CommandLine.configureLog, CommandLine.configureLog]
  split
  · exact go m _
  · split
    · exact go m _
    · next path _ =>
      obtain ⟨tree, logFiles, result, made, made'⟩ := m.makeLogFile path
      rw [made, made']
      cases result with
      | error cause => exact (m.withLogs tree logFiles).of_ending _
      | ok u => exact go (m.withLogs tree logFiles) _

/-- Settings that cannot be used are noticed, and the defaults are used where an empty file gives
them. -/
theorem withSettings (m : Mirrors folder e o o') (bad : folder.loadSettings.2 = .error e)
    (contained : e.isContained = true) {next : Outcome → Settings → Outcome}
    (go : ∀ {o o' : Outcome}, Mirrors folder e o o' →
      ∀ s, Mirrors folder e (next o s) (next o' s)) :
    Mirrors folder e (o.withSettings next) (o'.withSettings next) := by
  rw [Outcome.withSettings, Outcome.withSettings, World.loadSettings_of_apart m.apart.1,
    World.loadSettings_of_apart m.apart.2, m.config, m.defaults,
    ConfigFolder.loadSettings_of_error bad, ConfigFolder.loadSettings_withDefaults]
  have informed : Mirrors folder e
      { o with
        world := { o.world with config := folder }
        err := o.err ++ printed ("Ignoring config: " ++ e.message) }
      { o' with world := { o'.world with config := folder.withDefaults } } :=
    { m with config := rfl, defaults := rfl, err := m.err.notice }
  simp only [contained, if_true]
  exact go informed {}

/-! ### Commands -/

theorem runGet (m : Mirrors folder e o o') (c : Log.Configuration) (path key : Text) :
    Mirrors folder e (runGet o c path key) (runGet o' c path key) := by
  refine m.withKey key fun m => ?_
  rw [m.tree]
  refine m.withLogged c _ fun m d => ?_
  simp only
  split
  · exact (m.log c _).print _
  · exact (m.log c _).fail _

theorem runShow (m : Mirrors folder e o o') (c : Log.Configuration) (path : Text) :
    Mirrors folder e (runShow o c path) (runShow o' c path) := by
  rw [CommandLine.runShow, CommandLine.runShow, m.tree]
  exact m.withLogged c _ fun m d => m.foldl draw _

theorem runCheck (m : Mirrors folder e o o') (c : Log.Configuration) (path : Text) :
    Mirrors folder e (runCheck o c path) (runCheck o' c path) := by
  rw [CommandLine.runCheck, CommandLine.runCheck, m.tree]
  refine m.withLogged c _ fun m d => ?_
  simp only
  split
  · exact m.foldl print _
  · exact (m.foldl print _).fail _

theorem runEscape (m : Mirrors folder e o o') (value : Text) :
    Mirrors folder e (runEscape o value) (runEscape o' value) := by
  rw [CommandLine.runEscape, CommandLine.runEscape]
  split
  · exact m.print _
  · exact m.of_ending _

theorem runUnescape (m : Mirrors folder e o o') (text : Text) :
    Mirrors folder e (runUnescape o text) (runUnescape o' text) := by
  rw [CommandLine.runUnescape, CommandLine.runUnescape]
  split
  · exact m.print _
  · exact m.fail _

section
variable (bad : folder.loadSettings.2 = .error e) (contained : e.isContained = true)
include bad contained

theorem runSet (m : Mirrors folder e o o') (c : Log.Configuration) (path key value : Text)
    (keepEmpty : Bool) (mode : Text) :
    Mirrors folder e (runSet o c path key value keepEmpty mode)
      (runSet o' c path key value keepEmpty mode) := by
  refine m.withKey key fun m => m.withSettings bad contained fun m settings =>
    m.withMode mode settings fun m n => ?_
  rw [m.tree]
  refine m.withLogged c _ fun m d => ?_
  split
  · exact m.write c _ n
  · exact m.of_ending _

theorem runUnset (m : Mirrors folder e o o') (c : Log.Configuration) (path key : Text) :
    Mirrors folder e (runUnset o c path key) (runUnset o' c path key) := by
  refine m.withKey key fun m => ?_
  rw [m.tree]
  exact m.withLogged c _ fun m d => m.withSettings bad contained fun m settings => m.write c _ _

theorem runEdit (m : Mirrors folder e o o') (path mode : Text) :
    Mirrors folder e (runEdit o path mode) (runEdit o' path mode) := by
  refine m.withSettings bad contained fun m settings =>
    m.configureLog false _ fun m _ => m.withMode mode settings fun m n => ?_
  rw [m.tree]
  split
  · exact { m with edit := rfl }
  · exact m.storageError _

/-- Every request is carried out as with the defaults. -/
theorem run (m : Mirrors folder e o o') (c : Log.Configuration) (request : Request) :
    Mirrors folder e (request.run o c) (request.run o' c) := by
  cases request with
  | help => exact m
  | get path key => exact m.runGet c _ key
  | set path key value keepEmpty mode => exact m.runSet bad contained c _ key value keepEmpty mode
  | unset path key => exact m.runUnset bad contained c _ key
  | «show» path => exact m.runShow c _
  | check path => exact m.runCheck c _
  | escape value => exact m.runEscape value
  | unescape text => exact m.runUnescape text
  | edit path mode => exact m.runEdit bad contained _ mode

theorem runVerb (m : Mirrors folder e o o') (c : Log.Configuration) (verb : Verb)
    (arguments : List Text) :
    Mirrors folder e (runVerb o c verb arguments) (runVerb o' c verb arguments) := by
  rw [CommandLine.runVerb, CommandLine.runVerb]
  split
  · exact m.of_ending _
  · split
    · exact m
    · split
      · exact m.of_ending _
      · split
        · exact m.of_ending _
        · exact m.run bad contained c _

end

end Mirrors

/-- A command line whose settings cannot be used does what it does with the defaults. -/
theorem mirrors_run {folder : ConfigFolder} {e : ConfigError}
    (bad : folder.loadSettings.2 = .error e) (contained : e.isContained = true)
    (tree : Files.Tree) (logFiles : List Text) (arguments : List Text) :
    Mirrors folder e (run { tree, config := folder, logFiles } arguments)
      (run { tree, config := folder.withDefaults, logFiles } arguments) := by
  have start : Mirrors folder e { world := { tree, config := folder, logFiles } }
      { world := { tree, config := folder.withDefaults, logFiles } } :=
    ⟨rfl, rfl, ⟨rfl, rfl⟩, rfl, rfl, rfl, rfl, .nil, rfl, rfl⟩
  rw [run, run]
  simp only
  split
  · exact start.of_ending _
  · split
    · exact start
    · exact start.withSettings bad contained fun m settings =>
        m.configureLog _ settings fun m c => m.runVerb bad contained c _ _

open ConfigFolder (IsModest)

/-- Whatever the files of a folder hold, settings that are loaded can be used, and with settings
that cannot be used a command line goes on with the defaults if what is wrong is contained. What is
wrong with a modest file is contained: the settings cannot be used at most, and there is no theme.
-/
theorem settings_contained (folder : ConfigFolder) :
    (∀ s, folder.loadSettings.2 = .ok s → s.IsValid) ∧
      (∀ e, folder.loadSettings.2 = .error e → e.isContained = true → ∀ tree logFiles arguments,
        Mirrors folder e (run { tree, config := folder, logFiles } arguments)
          (run { tree, config := folder.withDefaults, logFiles } arguments)) ∧
      ((∀ content ∈ folder.config, IsModest folder.maxDepth content) →
        ∀ e, folder.loadSettings.2 = .error e → e.isContained = true) ∧
      ((∀ content ∈ folder.theme, IsModest folder.maxDepth content) →
        ∃ theme, folder.loadTheme = .ok theme) :=
  ⟨fun _ => ConfigFolder.isValid_of_loadSettings,
    fun _ bad contained tree logFiles arguments =>
      mirrors_run bad contained tree logFiles arguments,
    fun modest _ => ConfigFolder.isContained_of_loadSettings modest,
    ConfigFolder.exists_loadTheme⟩

/-- A list in place of the settings, and a theme file that breaks off; and settings with a mode. -/
theorem settings_contained_list :
    let folder : ConfigFolder :=
      { config := some ("[]" : Text).toBytes, theme := some ("[" : Text).toBytes }
    let e : ConfigError := .notObject "config.json" "list"
    (∃ theme, folder.loadTheme = .ok theme) ∧
      Mirrors folder e (run { config := folder } ["check", "f"])
        (run { config := folder.withDefaults } ["check", "f"]) ∧
      Settings.IsValid { fileMode := 0o600 } := by
  intro folder e
  have modest : IsModest Json.usualDepth ("[]" : Text).toBytes := by
    have tokens : Json.Token.all (.ofBytes ("[]" : Text).toBytes) = [.openArray, .closeArray] := by
      with_unfolding_all rfl
    refine ⟨by decide +kernel, ?_⟩
    rw [tokens]
    exact Json.isModest_of_length_le (by decide) (by simp)
  have modestTheme : IsModest Json.usualDepth ("[" : Text).toBytes := by
    have tokens : Json.Token.all (.ofBytes ("[" : Text).toBytes) = [.openArray] := by
      with_unfolding_all rfl
    refine ⟨by decide +kernel, ?_⟩
    rw [tokens]
    exact Json.isModest_of_length_le (by decide) (by simp)
  have bad : (ConfigFolder.mk (some ("[]" : Text).toBytes) none (some ("[" : Text).toBytes)
      Json.usualDepth).loadSettings.2 =
        .error (.notObject "config.json" "list") := by with_unfolding_all rfl
  have loaded : (ConfigFolder.mk (some ("\x7b\"file_mode\": \"0600\"\x7d" : Text).toBytes) none none
      Json.usualDepth).loadSettings.2 = .ok { fileMode := 0o600 } := by with_unfolding_all rfl
  obtain ⟨-, goes, contained, theme⟩ := settings_contained folder
  have config : ∀ content ∈ folder.config, IsModest folder.maxDepth content := by
    intro content hc
    cases hc
    exact modest
  refine ⟨theme fun content hc => ?_, goes e bad (contained config e bad) {} [] _,
    (settings_contained _).1 _ loaded⟩
  cases hc
  exact modestTheme

/-- A byte that is no UTF-8 is enough for neither to be contained. -/
theorem not_settings_contained :
    ¬ ∀ folder : ConfigFolder,
      (∀ e, folder.loadSettings.2 = .error e → e.isContained = true) ∧
        ∃ theme, folder.loadTheme = .ok theme := by
  intro h
  let folder : ConfigFolder := { config := some [0xFF], theme := some [0xFF] }
  have bad : folder.loadSettings.2 = .error .notUtf8 := by with_unfolding_all rfl
  exact absurd ((h folder).1 _ bad) (by decide)

end CommandLine

end VarFile
