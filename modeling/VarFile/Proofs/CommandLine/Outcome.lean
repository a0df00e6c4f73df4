import VarFile.CommandLine.Run
import VarFile.Proofs.Files.Tree

/-!
# The steps of a command

Each step of a command either ends it or goes on with the next one. The lemmas here say when it does
which, and with what, so that a command is followed by going through its steps. Only a write and the
making of a log file touch the files; ending, printing and logging leave them alone.
-/

namespace VarFile.CommandLine

open ConfigFolder (configName pathIn)

namespace World

variable {w : World} {s : Settings}

/-! ### Reading the settings -/

/-- The settings that the program goes on with, if it does. -/
def settings? (w : World) : Option Settings :=
  match w.loadSettings.2 with
  | .ok settings => some settings
  | .error e => if e.isContained then some {} else none

/-- What is told about a settings file that is not used. -/
def notice (w : World) : Text :=
  match w.loadSettings.2 with
  | .ok _ => []
  | .error e => printed ("Ignoring config: " ++ e.message)

/-- Reading the settings makes nothing in the tree: the configuration folder is no directory of it,
or its settings file is there already. -/
def IsSettled (w : World) : Prop :=
  ∀ folder ∈ w.folder?, ∃ node, w.tree.find (pathIn folder configName) = .ok node

theorem isSettled_of_apart (apart : w.folder? = none) : w.IsSettled := by
  intro folder h
  rw [apart] at h
  cases h

theorem loadSettings_of_apart (apart : w.folder? = none) :
    w.loadSettings = ({ w with config := w.config.loadSettings.1 }, w.config.loadSettings.2) := by
  rw [loadSettings, apart]

/-- Settings are read from a folder outside the tree whatever is in the tree. -/
theorem settings?_of_apart (apart : w.folder? = none) {w' : World} (apart' : w'.folder? = none)
    (same : w'.config = w.config) : w'.settings? = w.settings? := by
  rw [settings?, settings?, loadSettings_of_apart apart, loadSettings_of_apart apart', same]

/-- A settings file that is there is read, and nothing is made. -/
theorem loadSettings_of_settled (settled : w.IsSettled) :
    w.loadSettings.1.tree = w.tree ∧ w.loadSettings.1.folder? = w.folder? := by
  cases hf : w.folder? with
  | none =>
    rw [loadSettings_of_apart hf]
    exact ⟨rfl, hf⟩
  | some folder =>
    obtain ⟨node, found⟩ := settled folder hf
    rw [loadSettings, hf]
    refine ⟨?_, rfl⟩
    simp only [ConfigFolder.loadIn]
    split
    · rfl
    · rfl
    · next cause unopened =>
      obtain missing | ⟨denied, -⟩ := Files.Tree.openToRead_eq_error_iff.1 unopened
      · rw [found] at missing
        cases missing
      · rw [denied, if_neg (by decide)]

/-- Settings that were read are read again: the settings file that is made gives the defaults. -/
theorem settings?_loadSettings (apart : w.folder? = none) (h : w.settings? = some s) :
    w.loadSettings.1.settings? = some s := by
  have made (maxDepth : Nat) : ConfigFolder.readSettings maxDepth
      (ConfigFolder.fileContent (.object [])) = .ok {} := by with_unfolding_all rfl
  have later : w.loadSettings.1.folder? = none := by
    rw [loadSettings_of_apart apart]
    exact apart
  rw [settings?, loadSettings_of_apart apart] at h
  rw [settings?, loadSettings_of_apart later, loadSettings_of_apart apart]
  cases hc : w.config.config with
  | none =>
    rw [ConfigFolder.loadSettings, hc] at h ⊢
    simp only [ConfigFolder.loadSettings, ConfigFolder.bootstrap, made]
    exact h
  | some content =>
    have same : w.config.loadSettings.1 = w.config := by rw [ConfigFolder.loadSettings, hc]
    rwa [same]

end World

namespace Outcome

variable {α : Type} {o : Outcome} {c : Log.Configuration}

/-! ### What is left alone -/

private theorem log_eq (o : Outcome) (c : Log.Configuration) (events : List Log.Event) :
    o.log c events = { o with events := (o.log c events).events } := by
  rw [log]
  split <;> rfl

@[simp]
theorem world_log (o : Outcome) (c : Log.Configuration) (events : List Log.Event) :
    (o.log c events).world = o.world := by
  rw [log_eq]

@[simp]
theorem ending_log (o : Outcome) (c : Log.Configuration) (events : List Log.Event) :
    (o.log c events).ending = o.ending := by
  rw [log_eq]

@[simp]
theorem out_log (o : Outcome) (c : Log.Configuration) (events : List Log.Event) :
    (o.log c events).out = o.out := by
  rw [log_eq]

/-- A command goes on with a valid key only. -/
theorem withKey_cases (o : Outcome) (key : Text) (next : Outcome → Outcome) :
    (Key.isValid key = true ∧ o.withKey key next = next o) ∨
      (Key.isValid key = false ∧ o.withKey key next = o.fail (InvalidKey.message ⟨key⟩)) := by
  rw [withKey, Key.check]
  cases Key.isValid key with
  | true => exact .inl ⟨rfl, rfl⟩
  | false => exact .inr ⟨rfl, rfl⟩

theorem withKey_of_isValid {key : Text} (valid : Key.isValid key = true)
    (next : Outcome → Outcome) : o.withKey key next = next o := by
  obtain ⟨-, go⟩ | ⟨invalid, -⟩ := withKey_cases o key next
  · exact go
  · rw [valid] at invalid
    cases invalid

/-- A command goes on with what a file operation gave, or ends as the operation failed. -/
theorem withLogged_cases (o : Outcome) (c : Log.Configuration) (l : Storage.Logged α)
    (next : Outcome → α → Outcome) :
    (∃ a, l.result = .ok a ∧ o.withLogged c l next = next (o.log c l.events) a) ∨
      ∃ e, l.result = .error e ∧ o.withLogged c l next = (o.log c l.events).storageError e := by
  rw [withLogged]
  cases l.result with
  | ok a => exact .inl ⟨a, rfl, rfl⟩
  | error e => exact .inr ⟨e, rfl, rfl⟩

theorem withLogged_of_ok {l : Storage.Logged α} {a : α} (h : l.result = .ok a)
    (next : Outcome → α → Outcome) : o.withLogged c l next = next (o.log c l.events) a := by
  obtain ⟨b, hb, go⟩ | ⟨e, he, -⟩ := withLogged_cases o c l next
  · rw [h] at hb
    cases hb
    exact go
  · rw [h] at he
    cases he

/-- The outcome after the settings were read. -/
def informed (o : Outcome) : Outcome :=
  { o with
    world := o.world.loadSettings.1
    err := o.err ++ o.world.notice }

theorem tree_informed (settled : o.world.IsSettled) : o.informed.world.tree = o.world.tree :=
  (World.loadSettings_of_settled settled).1

/-- A command goes on with the settings, or with the defaults if what is wrong with them is
contained. -/
theorem withSettings_cases (o : Outcome) (next : Outcome → Settings → Outcome) :
    (∃ s, o.world.settings? = some s ∧ o.withSettings next = next o.informed s) ∨
      ∃ e, o.world.loadSettings.2 = .error e ∧ e.isContained = false ∧
        o.withSettings next =
          { o with
            world := o.world.loadSettings.1
            ending := .fault (.config e) } := by
  rw [withSettings, informed, World.settings?, World.notice]
  cases o.world.loadSettings with
  | mk world settings =>
    cases settings with
    | ok s =>
      refine .inl ⟨s, rfl, ?_⟩
      simp only [List.append_nil]
    | error e =>
      cases contained : e.isContained with
      | true => exact .inl ⟨{}, by simp [contained], by simp [contained]⟩
      | false => exact .inr ⟨e, rfl, contained, by simp [contained, faulty]⟩

theorem withSettings_of_some {s : Settings} (h : o.world.settings? = some s)
    (next : Outcome → Settings → Outcome) : o.withSettings next = next o.informed s := by
  obtain ⟨s', hs, go⟩ | ⟨e, he, stop, -⟩ := withSettings_cases o next
  · rw [h] at hs
    cases hs
    exact go
  · rw [World.settings?, he] at h
    simp [stop] at h

/-- A command goes on after a document was written, or ends as writing it failed. -/
theorem write_cases (o : Outcome) (c : Log.Configuration) (d : Document) (mode : Int) :
    let w := Storage.writeFile o.world.tree d mode
    let written := { o with world := { o.world with tree := w.tree } }.log c w.events
    (w.result = .ok () ∧ o.write c d mode = written) ∨
      ∃ e, w.result = .error e ∧ o.write c d mode = written.storageError e := by
  intro w written
  rw [write]
  cases (Storage.writeFile o.world.tree d mode).result with
  | ok u => exact .inl ⟨rfl, rfl⟩
  | error e => exact .inr ⟨e, rfl, rfl⟩

/-- A write that succeeds leaves its files and nothing else. -/
theorem write_of_ok {d : Document} {mode : Int}
    (h : (Storage.writeFile o.world.tree d mode).result = .ok ()) :
    (o.write c d mode).ending = o.ending ∧ (o.write c d mode).world =
      { o.world with tree := (Storage.writeFile o.world.tree d mode).tree } := by
  obtain ⟨-, written⟩ | ⟨e, failed, -⟩ := write_cases o c d mode
  · rw [written, ending_log, world_log]
    exact ⟨rfl, rfl⟩
  · rw [h] at failed
    cases failed

end Outcome

/-! ### Log files -/

/-- A world with other files, and log files elsewhere. -/
def World.withLogs (w : World) (tree : Files.Tree) (logFiles : List Text) : World :=
  { w with tree, logFiles }

private theorem makeLogFile_of_remote {path : Text} (remote : isLocal path = false) (w : World) :
    makeLogFile w path = (w.withLogs w.tree (w.logFiles.insert path), .ok ()) := by
  rw [makeLogFile, remote]
  rfl

/-- Logs go to standard error, or to the file that the settings name, which is made first. -/
theorem configureLog_cases (o : Outcome) (verbose : Bool) (s : Settings)
    (next : Outcome → Log.Configuration → Outcome) :
    (∃ c, configureLog o verbose s next = next o c) ∨
      ∃ path ∈ s.logFile, path ≠ [] ∧
        ∃ world, (∃ cause, makeLogFile o.world path = (world, .error cause) ∧
            configureLog o verbose s next = { o with world }.faulty cause) ∨
          ∃ c, makeLogFile o.world path = (world, .ok ()) ∧
            configureLog o verbose s next = next { o with world } c := by
  rw [configureLog]
  split
  · exact .inl ⟨_, rfl⟩
  · split
    · exact .inl ⟨_, rfl⟩
    · next path named =>
      obtain ⟨there, nonempty⟩ := Option.filter_eq_some_iff.1 named
      refine .inr ⟨path, there, by simpa using nonempty, ?_⟩
      split
      · next world cause failed => exact ⟨world, .inl ⟨cause, failed, rfl⟩⟩
      · next world succeeded => exact ⟨world, .inr ⟨_, succeeded, rfl⟩⟩

/-- A log file elsewhere is all that is made for the logs. -/
theorem configureLog_of_remote {s : Settings}
    (remote : ∀ path ∈ s.logFile, path ≠ [] → isLocal path = false) (o : Outcome) (verbose : Bool)
    (next : Outcome → Log.Configuration → Outcome) :
    ∃ c logFiles, (∀ file ∈ logFiles, file ∈ o.world.logFiles ∨ file ∈ s.logFile) ∧
      configureLog o verbose s next =
        next { o with world := o.world.withLogs o.world.tree logFiles } c := by
  obtain ⟨c, go⟩ | ⟨path, named, nonempty, world, made⟩ := configureLog_cases o verbose s next
  · exact ⟨c, o.world.logFiles, fun file => .inl, go⟩
  · rw [makeLogFile_of_remote (remote path named nonempty)] at made
    obtain ⟨cause, failed, -⟩ | ⟨c, succeeded, go⟩ := made
    · cases failed
    · cases succeeded
      refine ⟨c, _, fun file there => ?_, go⟩
      obtain rfl | there := List.mem_insert_iff.1 there
      · exact .inr named
      · exact .inl there

end VarFile.CommandLine
