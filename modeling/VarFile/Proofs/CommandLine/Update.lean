import VarFile.Proofs.CommandLine.Lookup
import VarFile.Proofs.ConfigFolder.Loading
import VarFile.Proofs.Text.Character

/-!
# Updates and look-ups from the command line

What `set` and `unset` leave in a file is what a later `get` finds there, although the command lines
share nothing but the file (`CommandLine.get_after_update`): the new value of the key, every other
value as it was, and no line that `check` would report.
-/

namespace VarFile

namespace CommandLine

open CommandLine.Outcome
open Storage (Offers)

variable {o : Outcome} {c : Log.Configuration} {world : World} {arguments : List Text}
  {path key : Text} {d : Document} {value : Option Text} {bytes : Bytes} {offered : Option Bytes}

/-! ### Commands that write -/

/-- The requests that store a value for the key of a file, or delete it. -/
inductive Updates (path key : Text) : Option Text → Request → Prop
  | kept (value : Text) : Updates path key (some value) (.set path key value true [])
  | stored {value : Text} (nonempty : value ≠ []) :
    Updates path key (some value) (.set path key value false [])
  | emptied : Updates path key none (.set path key [] false [])
  | unset : Updates path key none (.unset path key)

variable {request : Request}

/-- The path of an update. -/
theorem Updates.path?_eq (updates : Updates path key value request) :
    request.path? = some path := by
  cases updates <;> rfl

/-- Settings that the program goes on with can be used. -/
theorem isValid_of_settings? {s : Settings} (given : world.settings? = some s) : s.IsValid := by
  rw [World.settings?] at given
  split at given
  · next loaded =>
    cases given
    rw [World.loadSettings] at loaded
    split at loaded
    · exact ConfigFolder.isValid_of_loadSettings loaded
    · exact ConfigFolder.isValid_of_loadIn loaded
  · split at given
    · cases given
      exact Settings.isValid_default
    · cases given

private theorem isModeArgument_of_settings? {s : Settings} (given : world.settings? = some s) :
    Storage.isModeArgument s.fileMode = true := by
  obtain ⟨low, high⟩ := (isValid_of_settings? given).fileMode
  rw [Storage.isModeArgument, Bool.and_eq_true, decide_eq_true_eq, decide_eq_true_eq]
  omega

/-- An outcome that is ready for a write: the settings were read, and nothing else was done. -/
structure Prepared (o o' : Outcome) : Prop where
  world : o'.world = o.world.loadSettings.1
  ending : o'.ending = o.ending

/-- `set` reads the settings and the file, changes the document and writes it back. -/
theorem runSet_eq {path v : Text} {keepEmpty : Bool} {d' : Document} {s : Settings}
    (valid : Key.isValid key = true) (settled : o.world.IsSettled)
    (given : o.world.settings? = some s)
    (read : (Storage.createFile o.world.tree path).result = .ok d)
    (updated : (if keepEmpty then d.set key (some v) else d.setNonempty key (some v)) =
      (d', .ok ())) :
    ∃ o', Prepared o o' ∧ runSet o c path key v keepEmpty [] = o'.write c d' s.fileMode := by
  have read' : (Storage.createFile o.informed.world.tree path).result = .ok d := by
    rwa [tree_informed settled]
  have mode (next : Outcome → Int → Outcome) :
      o.informed.withMode [] s next = next o.informed s.fileMode := rfl
  rw [runSet, withKey_of_isValid valid, withSettings_of_some given, mode,
    withLogged_of_ok read', updated]
  refine ⟨_, ⟨?_, ?_⟩, rfl⟩
  · rw [world_log]
    rfl
  · rw [ending_log]
    rfl

/-- `unset` reads the file and the settings, changes the document and writes it back. -/
theorem runUnset_eq {path : Text} {s : Settings} (valid : Key.isValid key = true)
    (given : o.world.settings? = some s)
    (read : (Storage.createFile o.world.tree path).result = .ok d) :
    ∃ o', Prepared o o' ∧
      runUnset o c path key = o'.write c (d.set key none).1 s.fileMode := by
  have given' : (o.log c (Storage.createFile o.world.tree path).events).world.settings? =
      some s := by rwa [world_log]
  rw [runUnset, withKey_of_isValid valid, withLogged_of_ok read, withSettings_of_some given']
  refine ⟨_, ⟨?_, ?_⟩, rfl⟩
  · rw [informed, world_log]
  · rw [informed]
    exact ending_log ..

/-- An update writes back the document with the value of its key set, or deleted. -/
theorem run_eq_write (updates : Updates path key value request) (valid : Key.isValid key = true)
    {s : Settings} (settled : o.world.IsSettled) (given : o.world.settings? = some s)
    (read : (Storage.createFile o.world.tree (Path.normalized path)).result = .ok d)
    (accepted : (d.set key value).2 = .ok ()) :
    ∃ o', Prepared o o' ∧ request.run o c = o'.write c (d.set key value).1 s.fileMode := by
  have updated : d.set key value = ((d.set key value).1, .ok ()) := Prod.ext rfl accepted
  cases updates with
  | kept v => exact runSet_eq valid settled given read updated
  | @stored v nonempty =>
    refine runSet_eq valid settled given read ?_
    have same : d.setNonempty key (some v) = d.set key (some v) := by
      simp [Document.setNonempty, Option.filter, nonempty]
    rw [if_neg Bool.false_ne_true, same]
    exact updated
  | emptied => exact runSet_eq valid settled given read updated
  | unset => exact runUnset_eq valid given read

/-- What an update leaves: the files as they were if no record was changed, and else the content of
the changed document at the path. -/
theorem update_cases (ready : IsReady world) (wf : world.tree.WF)
    (encoded : Path.encode (Path.normalized path) = .ok bytes)
    (offers : Offers world.tree bytes offered) (writable : world.tree.IsWritable bytes)
    (asks : Asks arguments request) (updates : Updates path key value request)
    (valid : Key.isValid key = true)
    (storable : ∀ v ∈ value, ∃ text, Value.quote v = .ok text) :
    let d := Document.ofContent (Path.normalized path) (offered.getD [])
    let w := (run world arguments).world
    (run world arguments).ending = .success ∧ IsReady w ∧
      (((d.set key value).1.records = d.records ∧ w.tree = world.tree) ∨
        ((d.set key value).1.records ≠ d.records ∧ ∃ content,
          (d.set key value).1.content = .ok content ∧
            w.tree.contentAt? bytes = some content)) := by
  intro d w
  obtain ⟨s, ready⟩ := ready
  obtain ⟨o, c, starts, runs⟩ := run_of_asks ready asks updates.path?_eq encoded
  have again := ready.again starts.apart starts.config
  have given := again.settings
  have settled : o.world.IsSettled := World.isSettled_of_apart starts.apart
  rw [← starts.tree] at offers wf writable ⊢
  obtain ⟨descriptor, read, held⟩ := Storage.createFile_of_offers encoded offers writable
  have accepted : (d.set key value).2 = .ok () := by
    cases value with
    | none => exact Document.unset_eq_ok_iff.2 valid
    | some v => exact Document.set_some_eq_ok_iff.2 ⟨valid, storable v rfl⟩
  have set := Document.set_holding d descriptor key value
  obtain ⟨o', prepared, written⟩ := run_eq_write (c := c) updates valid settled given read (by
    rw [set]
    exact accepted)
  rw [set] at written
  have same : o'.world.tree = o.world.tree := by
    rw [prepared.world]
    exact (World.loadSettings_of_settled settled).1
  rw [← same] at offers wf read ⊢
  obtain ⟨result, left⟩ := Storage.writeFile_set_of_offers wf encoded offers read held key value
    (isModeArgument_of_settings? given)
  obtain ⟨ends, leaves⟩ := write_of_ok (c := c) result
  rw [← written, ← runs] at ends leaves
  have kept : o'.world = { o.world with config := o.world.config.loadSettings.1 } :=
    prepared.world.trans (congrArg Prod.fst (World.loadSettings_of_apart starts.apart))
  have apart := congrArg World.folder? leaves
  have config := congrArg World.config leaves
  simp only [kept] at apart config
  refine ⟨?_, ⟨s, again.again (apart.trans starts.apart) config⟩, ?_⟩
  · rw [ends, prepared.ending, starts.ending]
  · rw [congrArg World.tree leaves]
    exact left

/-! ### Look-ups after an update -/

/-- What is found at a path after an update is what the changed document says, and a file that was
written passes. -/
theorem shows_of_update (ready : IsReady world) (wf : world.tree.WF)
    (encoded : Path.encode (Path.normalized path) = .ok bytes)
    (offers : Offers world.tree bytes offered) (writable : world.tree.IsWritable bytes)
    (asks : Asks arguments request) (updates : Updates path key value request)
    (valid : Key.isValid key = true)
    (storable : ∀ v ∈ value, ∃ text, Value.quote v = .ok text)
    (fits : ∀ content, (run world arguments).world.tree.contentAt? bytes = some content →
      content.length ≤ Storage.maxFileSize)
    (readable : (run world arguments).world.tree.IsReadable bytes) :
    let d := Document.ofContent (Path.normalized path) (offered.getD [])
    let w := (run world arguments).world
    Shows w.tree path (d.set key value).1 ∧
      ∀ asked, Asks asked (.check path) → (d.set key value).1.records ≠ d.records →
        (run w asked).ending.code = 0 := by
  intro d w
  obtain ⟨-, again, ⟨same, tree⟩ | ⟨-, content, stored, there⟩⟩ :=
    update_cases ready wf encoded offers writable asks updates valid storable
  · refine ⟨?_, fun _ _ changed => absurd same changed⟩
    rw [tree]
    have opened := Storage.openFile_of_offers encoded offers
    cases offered with
    | none => exact shows_of_nil opened same
    | some content => exact shows_of_carries opened (Document.carries_of_records same.symm)
  · have opened := Storage.openFile_of_offers encoded (.file there (fits content there) readable)
    have well :=
      Document.wellFormed_set_ofContent (Path.normalized path) (offered.getD []) key value
    exact ⟨shows_of_carries opened (Document.carries_ofContent well stored _), fun asked asks' _ =>
      (code_check_iff again asks' opened).2 (Document.content_ofContent well.wf stored _).1⟩

/-- The new value of the key is found after an update. -/
theorem lookup?_of_shows {t : Files.Tree} (shows : Shows t path (d.set key value).1)
    (valid : Key.isValid key = true) (characters : ∀ v ∈ value, ∀ c ∈ v, c.isSurrogate = false) :
    lookup? t path key = value := by
  cases value with
  | none => exact shows.gone key (Document.stored?_unset valid)
  | some v =>
    have plain := characters v rfl
    obtain ⟨text, quoted⟩ := Value.exists_quote (Text.isStorable_of_not_isSurrogate plain)
    refine shows.value key v (Document.value?_eq_some_iff.2
      ⟨valid, text, Document.stored?_set_some valid quoted, ?_⟩)
    rw [Value.unquote_quote quoted, Text.reread_eq_self_of_not_isSurrogate plain]

/-- The value of another key is found as before. -/
theorem lookup?_of_shows_of_ne {t : Files.Tree} {other v : Text}
    (shows : Shows t path (d.set key value).1) (hne : other ≠ key)
    (before : d.value? other = .ok (some v)) : lookup? t path other = some v := by
  obtain ⟨valid, text, there, reads⟩ := Document.value?_eq_some_iff.1 before
  exact shows.value other v (Document.value?_eq_some_iff.2
    ⟨valid, text, (Document.stored?_set_of_ne d hne value).trans there, reads⟩)

/-- Another key without an assignment has no value after an update, either. -/
theorem lookup?_of_shows_of_free {t : Files.Tree} {other : Text}
    (shows : Shows t path (d.set key value).1) (hne : other ≠ key)
    (free : d.records.any (Record.assigns other) = false) : lookup? t path other = none := by
  have unassigned : d.stored? other = none := by
    rw [Document.stored?, Document.lastAssignment?_eq_none_iff.2 free]
    rfl
  exact shows.gone other ((Document.stored?_set_of_ne d hne value).trans unassigned)

/-- An update of a key by `set` or `unset` succeeds, for a file of any lines or none, and leaves the
files as they were if it changes no record. If the file may be read and is not too large then, `get`
prints the new value of the key without its control sequences, or fails if it was deleted; it prints
every other value as before, and fails for a key that has no assignment; and `check` passes if a
record was changed. -/
theorem get_after_update (ready : IsReady world) (wf : world.tree.WF)
    (encoded : Path.encode (Path.normalized path) = .ok bytes)
    (offers : Offers world.tree bytes offered) (writable : world.tree.IsWritable bytes)
    (asks : Asks arguments request) (updates : Updates path key value request)
    (valid : Key.isValid key = true)
    (characters : ∀ v ∈ value, ∀ c ∈ v, c.isSurrogate = false) :
    let d := Document.ofContent (Path.normalized path) (offered.getD [])
    let w := (run world arguments).world
    (run world arguments).ending.code = 0 ∧
      ((d.set key value).1.records = d.records → w.tree = world.tree) ∧
      ((∀ content, w.tree.contentAt? bytes = some content →
          content.length ≤ Storage.maxFileSize) → w.tree.IsReadable bytes →
        (∀ asked, Asks asked (.get path key) → Gives w asked value ∧
          ∀ v ∈ value, (∀ before s after : Text, v = before ++ s ++ after → ¬ s.IsControl) →
            (run w asked).out = v ++ [CodePoint.ofChar '\n']) ∧
        (∀ other asked, other ≠ key → Asks asked (.get path other) →
          ((run world asked).ending.code = 0 →
            (run w asked).ending.code = 0 ∧ (run w asked).out = (run world asked).out) ∧
          (d.records.any (Record.assigns other) = false → (run w asked).ending.code = 1)) ∧
        (∀ asked, Asks asked (.check path) → (d.set key value).1.records ≠ d.records →
          (run w asked).ending.code = 0)) := by
  intro d w
  have storable : ∀ v ∈ value, ∃ text, Value.quote v = .ok text := fun v hv =>
    Value.exists_quote (Text.isStorable_of_not_isSurrogate (characters v hv))
  obtain ⟨succeeds, again, left⟩ :=
    update_cases ready wf encoded offers writable asks updates valid storable
  refine ⟨by rw [succeeds]; rfl, fun same => ?_, fun fits readable => ?_⟩
  · obtain ⟨-, tree⟩ | ⟨changed, -⟩ := left
    · exact tree
    · exact absurd same changed
  obtain ⟨shows, checks⟩ :=
    shows_of_update ready wf encoded offers writable asks updates valid storable fits readable
  refine ⟨fun asked asks' => ?_, fun other asked hne asks' => ⟨fun found => ?_, fun free => ?_⟩,
    checks⟩
  · have gives := gives_lookup? again encoded asks'
    rw [lookup?_of_shows shows valid characters] at gives
    refine ⟨gives, fun v hv plain => ?_⟩
    cases hv
    rw [gives.2, printed, line, Text.withoutControls_eq_self plain]
  · obtain ⟨v, before, out⟩ := exists_of_code (gives_lookup? ready encoded asks') found
    have gives := gives_lookup? again encoded asks'
    rw [lookup?_of_shows_of_ne shows hne (value?_of_lookup? encoded offers before)] at gives
    exact ⟨gives.1, gives.2.trans out.symm⟩
  · have gives := gives_lookup? again encoded asks'
    rwa [lookup?_of_shows_of_free shows hne free] at gives

/-- A key with two assignments, a line that is none, and no newline at the end; the settings file is
made by the way. -/
theorem get_after_update_twice :
    let tree : Files.Tree :=
      ⟨[([("f" : Text).toBytes], .file 0)],
        [⟨("B='x y'\nfoo\nA=1\nA=2" : Text).toBytes, 0o644⟩], {}⟩
    let world : World := { tree }
    let w := (run world ["set", "--", "./f", "A", "-ä"]).world
    (run w ["get", "--", "./f", "A"]).out = Text.ofString "-ä\n" ∧
      (run w ["get", "./f", "B"]).out = (run world ["get", "./f", "B"]).out ∧
      (run w ["get", "./f", "C"]).ending.code = 1 ∧ (run w ["check", "./f"]).ending.code = 0 := by
  intro tree world w
  let content : Bytes := ("B='x y'\nfoo\nA=1\nA=2" : Text).toBytes
  have ready : IsReady world := ⟨{}, rfl, rfl, by rintro _ ⟨⟩⟩
  have wf : world.tree.WF := Files.Tree.wf_singleton _ _
  have encoded : Path.encode (Path.normalized "./f") = .ok ("f" : Text).toBytes := by decide
  have found : world.tree.find ("f" : Text).toBytes = .ok (.file 0) := by decide +kernel
  have offers : Offers world.tree ("f" : Text).toBytes (some content) :=
    .file (by decide +kernel) (by decide +kernel)
      (Files.Tree.isReadable_of_find found (by decide +kernel))
  have writable : world.tree.IsWritable ("f" : Text).toBytes :=
    Files.Tree.isWritable_of_find found (by decide +kernel)
  have set : Asks ("set" :: ([] ++ dashes :: ["./f", "A", "-ä"])) (.set "./f" "A" "-ä" false []) :=
    asks_operands (by decide : (("set" : Text), Verb.set) ∈ Verb.named) (by simp) rfl rfl
  have get : Asks ("get" :: ([] ++ dashes :: ["./f", "A"])) (.get "./f" "A") :=
    asks_operands (by decide : (("get" : Text), Verb.get) ∈ Verb.named) (by simp) rfl rfl
  have other : Asks ["get", "./f", "B"] (.get "./f" "B") := ⟨rfl, rfl, rfl, rfl, rfl⟩
  have free : Asks ["get", "./f", "C"] (.get "./f" "C") := ⟨rfl, rfl, rfl, rfl, rfl⟩
  have check : Asks ["check", "./f"] (.check "./f") := ⟨rfl, rfl, rfl, rfl, rfl⟩
  have updates : Updates "./f" "A" (some "-ä") (.set "./f" "A" "-ä" false []) :=
    .stored (by decide)
  have characters : ∀ v ∈ some ("-ä" : Text), ∀ c ∈ v, c.isSurrogate = false := by decide
  obtain ⟨-, -, after⟩ :=
    get_after_update ready wf encoded offers writable set updates (by decide) characters
  have left : w.tree.contentAt? ("f" : Text).toBytes =
      some ("B='x y'\n#NM: foo\nA=-ä\n" : Text).toBytes := by decide +kernel
  have still : w.tree.find ("f" : Text).toBytes = .ok (.file 0) := by decide +kernel
  obtain ⟨gets, others, checks⟩ := after
    (fun content there => by
      rw [← Option.some.inj (left.symm.trans there)]
      decide +kernel)
    (Files.Tree.isReadable_of_find still (by decide +kernel))
  have plain : ∀ c ∈ ("-ä" : Text), c.val ≠ 0x1B := by decide
  exact ⟨(gets _ get).2 _ rfl fun _ _ _ => Text.not_isControl_of_forall_ne plain,
    ((others "B" _ (by decide) other).1 (by decide +kernel)).2,
    (others "C" _ (by decide) free).2 (by decide +kernel), checks _ check (by decide +kernel)⟩

/-- A value that starts with a control sequence is printed without it. -/
theorem not_get_after_update :
    ¬ ∀ (world : World) (arguments asked : List Text) (request : Request) (path key v : Text)
      (bytes : Bytes) (offered : Option Bytes), IsReady world → world.tree.WF →
        Path.encode (Path.normalized path) = .ok bytes → Offers world.tree bytes offered →
          world.tree.IsWritable bytes → Asks arguments request → Updates path key (some v) request →
            Key.isValid key = true → (∀ c ∈ v, c.isSurrogate = false) →
              let w := (run world arguments).world
              (∀ content, w.tree.contentAt? bytes = some content →
                content.length ≤ Storage.maxFileSize) → w.tree.IsReadable bytes →
                  Asks asked (.get path key) →
                    (run w asked).out = v ++ [CodePoint.ofChar '\n'] := by
  intro h
  let v : Text := "\x1b[0mx"
  have nothing : (World.tree {}).find ("f" : Text).toBytes = .error .notFound := by decide
  have free : Offers (World.tree {}) ("f" : Text).toBytes none :=
    .free (p := [("f" : Text).toBytes]) rfl rfl rfl
  have left : (run {} ["set", "f", "A", v]).world.tree.contentAt? ("f" : Text).toBytes =
      some ("A=$'\\033[0mx'\n" : Text).toBytes := by decide +kernel
  have found : (run {} ["set", "f", "A", v]).world.tree.find ("f" : Text).toBytes =
      .ok (.file 0) := by decide +kernel
  have printed := h {} ["set", "f", "A", v] ["get", "f", "A"] (.set "f" "A" v false []) "f" "A"
    v ("f" : Text).toBytes none ⟨{}, rfl, rfl, by rintro _ ⟨⟩⟩ (by rintro _ _ ⟨⟩) (by decide) free
    (fun inode there => by cases nothing.symm.trans there)
    ⟨rfl, rfl, rfl, rfl, rfl⟩ (.stored (by decide)) (by decide) (by decide)
    (fun content there => by
      rw [← Option.some.inj (left.symm.trans there)]
      decide +kernel)
    (Files.Tree.isReadable_of_find found (by decide +kernel))
    ⟨rfl, rfl, rfl, rfl, rfl⟩
  exact absurd printed (by decide +kernel)

end CommandLine

end VarFile
