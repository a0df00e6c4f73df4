import VarFile.Log.Configuration
import VarFile.Proofs.Storage.Exact

/-!
# What a write reports

A write logs an event for each line that it turns into a comment (`Storage.Reports`), and then one
with the size of the file. `Storage.writeFile_reported` says that these events account for what was
written at the levels that admit them, and that nothing is logged at the others.
-/

namespace VarFile

open Files (Tree)

/-! ### Levels -/

namespace Log

/-- The names of the levels at which writes are logged, in upper case. -/
def writeLevels : List Text := ["INFO", "DEBUG"]

/-- What is logged about writes is logged at the levels of these names only; every other name sets
the level of warnings or a higher one. -/
theorem admits_info_iff {level : Text} {sink : Sink} :
    (Configuration.ofName level sink).admits .info = true ↔ level.upper ∈ writeLevels := by
  -- The level alone decides, whatever takes the events.
  have anywhere : (Configuration.ofName level sink).admits .info =
      (Configuration.mk .file (threshold level)).admits .info := rfl
  rw [anywhere, threshold]
  generalize level.upper = name
  by_cases known : name ∈ thresholdNames.map (·.1)
  · revert name
    decide +kernel
  · have unknown : thresholdNames.lookup name = none := by
      rw [List.lookup_eq_none_iff]
      intro entry there
      rw [bne_iff_ne]
      rintro rfl
      exact known (List.mem_map_of_mem there)
    have other : name ∉ writeLevels := by
      intro listed
      have all : ∀ n ∈ writeLevels, n ∈ thresholdNames.map (·.1) := by decide +kernel
      exact known (all name listed)
    rw [unknown]
    exact ⟨fun low => absurd low (by decide), fun listed => absurd listed other⟩

private theorem Configuration.filter_of_level {events : List Event} {l : Level}
    (same : ∀ e ∈ events, e.level = l) (c : Configuration) :
    c.filter events = if c.admits l then events else [] := by
  rw [Configuration.filter]
  split
  · next admitted =>
    rw [List.filter_eq_self]
    intro e he
    rw [same e he, admitted]
  · next refused =>
    rw [List.filter_eq_nil_iff]
    intro e he
    rw [same e he]
    exact refused

end Log

/-! ### Lines of a file -/

namespace Text

private theorem newline_notMem_toBytes {t : Text} (h : CodePoint.ofChar '\n' ∉ t) :
    newline ∉ t.toBytes := by
  intro hb
  obtain ⟨c, hc, hb⟩ := List.mem_flatMap.1 hb
  have same : c = CodePoint.ofChar '\n' := CodePoint.toBytes_eq_of_mem (by decide) hb
  exact h (same ▸ hc)

private theorem count_newline_joinLines {ls : List Text} (h : ∀ l ∈ ls, CodePoint.ofChar '\n' ∉ l) :
    (Document.joinLines ls).toBytes.count newline = ls.length := by
  rw [toBytes_joinLines]
  induction ls with
  | nil => rfl
  | cons l ls ih =>
    obtain ⟨first, later⟩ := List.forall_mem_cons.1 h
    rw [List.flatMap_cons, List.count_append, List.count_append,
      List.count_eq_zero_of_not_mem (newline_notMem_toBytes first), ih later, List.length_cons,
      List.count_singleton_self]
    omega

end Text

/-! ### Events of a write -/

/-- The event for a record whose line is written as a comment. -/
def Record.event (file : Text) : Record → Log.Event
  | .raw text => .neutralizedLine file text
  | .assignment a => .neutralizedValue file a.key

/-- The event for a record, if its line is written as a comment. -/
def Record.event? (file : Text) (r : Record) : Option Log.Event :=
  r.neutralized?.map fun _ => r.event file

namespace Storage

open Record (marker)

/-- Events that tell of records in their order: the text of each raw line that is written as a
comment, and the key of each assignment that is because its text stands for no value. -/
inductive Reports (file : Text) : List Record → List Log.Event → Prop
  | nil : Reports file [] []
  | line {text : Text} {rs : List Record} {events : List Log.Event}
      (commented : Record.rendered (.raw text) = [marker ++ text]) (rest : Reports file rs events) :
    Reports file (.raw text :: rs) (.neutralizedLine file text :: events)
  | value {a : Assignment} {text : Text} {cause : Value.Malformed} {rs : List Record}
      {events : List Log.Event} (stored : a.value = some text)
      (undecodable : Value.unquote text = .error cause)
      (commented : Record.rendered (.assignment a) =
        [a.key ++ [CodePoint.ofChar '='], marker ++ a.line text])
      (rest : Reports file rs events) :
    Reports file (.assignment a :: rs) (.neutralizedValue file a.key :: events)
  /-- A record that is written as its line, or a deleted one. -/
  | kept {r : Record} {rs : List Record} {events : List Log.Event}
      (same : r.rendered = r.line?.toList) (rest : Reports file rs events) :
    Reports file (r :: rs) events

variable {t t' : Tree} {d : Document} {content : Bytes} {mode : Int} {inode : Nat}

/-- The events about comments go record by record. -/
theorem neutralizing_eq_filterMap (d : Document) :
    neutralizing d = d.records.filterMap (Record.event? d.fileName) := by
  rw [neutralizing]
  congr 1
  funext r
  cases r with
  | raw text =>
    simp only [Record.event?, Record.neutralized?]
    split <;> rfl
  | assignment a =>
    simp only [Record.event?, Record.neutralized?]
    cases a.value with
    | none => rfl
    | some text =>
      simp only
      split <;> rfl

private theorem reports_filterMap (file : Text) (rs : List Record) :
    Reports file rs (rs.filterMap (Record.event? file)) := by
  induction rs with
  | nil => exact .nil
  | cons r rs ih =>
    cases hn : r.neutralized? with
    | none =>
      have silent : r.event? file = none := by rw [Record.event?, hn, Option.map_none]
      rw [List.filterMap_cons_none silent]
      exact .kept (Record.rendered_of_neutralized?_eq_none hn) ih
    | some t =>
      obtain ⟨line, rendered⟩ := Record.rendered_of_neutralized?_eq_some hn
      have told : r.event? file = some (r.event file) := by
        rw [Record.event?, hn, Option.map_some]
      rw [List.filterMap_cons_some told]
      cases r with
      | raw text =>
        rw [← Option.some.inj line] at rendered
        exact .line rendered ih
      | assignment a =>
        obtain ⟨text, stored, rfl⟩ := Option.map_eq_some_iff.1 line
        cases hu : Value.unquote text with
        | ok v => simp [Record.neutralized?, stored, Value.isReadable, hu] at hn
        | error cause => exact .value stored hu rendered ih

/-- There is one event for each line that is listed as one to be kept as a comment. -/
theorem length_neutralizing (d : Document) :
    (neutralizing d).length = d.neutralized.length := by
  rw [neutralizing_eq_filterMap, Document.neutralized, List.length_filterMap_eq_countP,
    List.length_filterMap_eq_countP]
  refine List.countP_congr fun r _ => ?_
  rw [Record.event?, Option.isSome_map]

private theorem level_of_mem_neutralizing {e : Log.Event} (h : e ∈ neutralizing d) :
    e.level = .info := by
  rw [neutralizing_eq_filterMap] at h
  obtain ⟨r, -, he⟩ := List.mem_filterMap.1 h
  obtain ⟨-, -, rfl⟩ := Option.map_eq_some_iff.1 he
  cases r <;> rfl

/-- A write that has opened its file tells of the comments, and of the size of the file unless it
stops at the content. -/
theorem events_writeFile (modified : d.modified = true)
    (opened : target t d mode = .ok (t', inode)) :
    (writeFile t d mode).events = neutralizing d ++ (d.content.toOption.map fun content =>
      Log.Event.wroteFile d.fileName d.rendered.length content.length).toList := by
  have same : Document.content { d with descriptor := some inode } = d.content := rfl
  have go : ¬(!d.modified) = true := by
    rw [modified]
    decide
  rw [writeFile, if_neg go, opened]
  simp only [same]
  cases d.content with
  | error cause => exact (List.append_nil _).symm
  | ok content => rfl

private theorem level_of_mem_events {e : Log.Event} (h : e ∈ (writeFile t d mode).events) :
    e.level = .info := by
  cases modified : d.modified with
  | false =>
    rw [writeFile_of_unmodified modified] at h
    cases h
  | true =>
    cases opened : target t d mode with
    | error cause =>
      rw [writeFile_of_error modified opened] at h
      cases h
    | ok found =>
      rw [events_writeFile modified opened, List.mem_append, Option.mem_toList] at h
      obtain comment | size := h
      · exact level_of_mem_neutralizing comment
      · obtain ⟨content, -, rfl⟩ := Option.map_eq_some_iff.1 size
        rfl

/-- What a write that succeeds leaves in the file that the document held, or else in the one at its
path. -/
theorem exists_of_result_ok (wf : t.WF) (held : ∀ i ∈ d.descriptor, i < t.inodes.length)
    (well : Document.WellFormed d.records) (modified : d.modified = true)
    (ok : (writeFile t d mode).result = .ok ()) :
    ∃ t' inode, target t d mode = .ok (t', inode) ∧
      (writeFile t d mode).document.descriptor = some inode ∧
      ((writeFile t d mode).tree.file? inode).map (·.content) =
        some (Document.joinLines d.rendered).toBytes ∧
      (d.descriptor = some inode ∨ ∃ bytes, Path.encode d.fileName = .ok bytes ∧
        (writeFile t d mode).tree.find bytes = .ok (.file inode)) := by
  cases opened : target t d mode with
  | error cause =>
    rw [writeFile_of_error modified opened] at ok
    cases ok
  | ok found =>
    obtain ⟨t', inode⟩ := found
    obtain ⟨tree, document, -⟩ :=
      writeFile_of_ok modified opened (Document.content_eq_ok well.wf)
    rw [tree, document]
    obtain ⟨holds, rfl⟩ | ⟨bytes, encoded, made⟩ := target_cases opened
    · exact ⟨_, inode, rfl, rfl, Tree.file?_overwrite (held inode holds) _, .inl holds⟩
    · have there := Tree.find_of_openOrCreate made
      have inside := Tree.lt_of_find (Tree.wf_of_openOrCreate wf made) there
      exact ⟨_, inode, rfl, rfl, Tree.file?_overwrite inside _, .inr ⟨bytes, encoded,
        Tree.find_of_extends (Tree.extends_overwrite inode _) there⟩⟩

/-- A document that comes from a file is changed and written. At the levels that admit it a write
that succeeds logs what it turns into comments, in the order of the records and as often as the
document lists a line for it, and then the numbers of lines and of bytes that the file now has. A
document without changes logs nothing, and at all other levels no write logs anything. -/
theorem writeFile_reported {s : History} (obtained : Obtained s) (wf : t.WF)
    (held : ∀ i ∈ s.document.descriptor, i < t.inodes.length) (mode : Int) (level : Text)
    (sink : Log.Sink) :
    let d := s.document
    let w := writeFile t d mode
    let logged := (Log.Configuration.ofName level sink).filter w.events
    (d.modified = true → w.result = .ok () → level.upper ∈ Log.writeLevels →
      ∃ comments content inode,
        logged = comments ++ [.wroteFile d.fileName (content.count newline) content.length] ∧
        Reports d.fileName d.records comments ∧ comments.length = d.neutralized.length ∧
        w.document.descriptor = some inode ∧
        (w.tree.file? inode).map (·.content) = some content ∧
        (d.descriptor = some inode ∨ ∃ bytes, Path.encode d.fileName = .ok bytes ∧
          w.tree.find bytes = .ok (.file inode))) ∧
    (d.modified = false → w.events = []) ∧
    (level.upper ∉ Log.writeLevels → logged = []) := by
  intro d w logged
  have well : Document.WellFormed d.records := obtained.wellFormed.1
  have informing : ∀ e ∈ w.events, e.level = .info := fun _ he => level_of_mem_events he
  have all := Log.Configuration.filter_of_level informing (.ofName level sink)
  simp only [Log.admits_info_iff] at all
  refine ⟨fun modified ok admitted => ?_, fun same => ?_, fun refused => ?_⟩
  · obtain ⟨t', inode, opened, document, file, place⟩ :=
      exists_of_result_ok wf held well modified ok
    have lines : (Document.joinLines d.rendered).toBytes.count newline = d.rendered.length :=
      Text.count_newline_joinLines fun l hl =>
        (Document.isLine_of_mem_rendered well.wf hl).newline
    refine ⟨neutralizing d, _, inode, ?_, ?_, length_neutralizing d, document, file, place⟩
    · rw [lines]
      refine (all.trans (if_pos admitted)).trans ?_
      rw [events_writeFile modified opened, Document.content_eq_ok well.wf]
      rfl
    · rw [neutralizing_eq_filterMap]
      exact reports_filterMap d.fileName d.records
  · exact congrArg Written.events (writeFile_of_unmodified same)
  · exact all.trans (if_neg refused)

/-- A raw line and an unreadable text are told of, and a deleted key is not; the file has three
lines then. -/
theorem writeFile_reported_comments :
    let t : Tree := ⟨[([("f" : Text).toBytes], .file 0)],
      [⟨("foo bar\n A=(x\nB=1\nB=2\n" : Text).toBytes, 0o644⟩], {}⟩
    let d : Document := ⟨"f", [Record.ofLine "foo bar", Record.ofLine " A=(x", Record.ofLine "B=1",
      Record.ofLine "B=2"], false, some 0⟩
    let e : Document := (d.set "B" none).1
    ∃ comments : List Log.Event, comments.length = 2 ∧ Reports "f" e.records comments ∧
      (Log.Configuration.ofName "info" .file).filter (writeFile t e 0o644).events =
        comments ++ [.wroteFile "f" 3 27] := by
  intro t d e
  have loaded : Loads t "f" d := .inr (by decide +kernel)
  have obtained : Obtained ⟨e, []⟩ := (Obtained.loaded loaded).operation (.set "B" none)
  have wf : t.WF := Tree.wf_singleton _ _
  obtain ⟨account, -⟩ := writeFile_reported obtained wf (by decide +kernel) 0o644 "info" .file
  obtain ⟨comments, content, inode, logged, reports, number, document, file, -⟩ :=
    account (by decide +kernel) (by decide +kernel) (by decide +kernel)
  have there : (writeFile t e 0o644).document.descriptor = some 0 := by decide +kernel
  obtain rfl : inode = 0 := Option.some.inj (document.symm.trans there)
  have now : ((writeFile t e 0o644).tree.file? 0).map (·.content) =
      some ("#NM: foo bar\nA=\n#NM:  A=(x\n" : Text).toBytes := by decide +kernel
  obtain rfl : content = _ := Option.some.inj (file.symm.trans now)
  refine ⟨comments, number.trans (by decide +kernel), reports, logged.trans ?_⟩
  exact congrArg (comments ++ [·]) (by decide +kernel)

end Storage

end VarFile
