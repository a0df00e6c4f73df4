import VarFile.Log.Configuration
import VarFile.Provider

/-!
# Sessions

A session is a run of requests on named documents and providers over one file tree. Every request
gets a reply or an error, and neither stops the session; `Session.run` gives all of them.
-/

namespace VarFile

/-- What a name stands for in a session. -/
inductive Holder where
  | document (d : Document)
  | provider (p : Provider)
  deriving DecidableEq

namespace Holder

/-- The document of a holder. -/
def inner : Holder → Document
  | document d => d
  | provider p => p.document

/-- The holder with another document. -/
def withInner (h : Holder) (d : Document) : Holder :=
  match h with
  | document _ => .document d
  | provider p => .provider { p with document := d }

end Holder

/-- What is asked for in a session. -/
inductive SessionRequest where
  /-- A document of lines, without a file. -/
  | new (path : Text) (lines : List Text)
  | openFile (path : Text)
  | createFile (path : Text)
  | openProvider (path : Text) (mode : Int)
  | get (key : Text)
  | value (key : Text)
  | stored (key : Text)
  | contains (key : Text)
  | keys
  | entries
  | set (key : Text) (value : Option Text)
  | setNonempty (key : Text) (value : Option Text)
  | unset (key : Text)
  | setBoolean (key : Text) (b : Bool)
  | setInteger (key : Text) (n : Int)
  | boolean (key : Text) (fallback : Bool)
  | integer (key : Text) (format : Typed.IntegerFormat) (fallback : Int)
  | setModified
  | isModified
  | description
  | rename (path : Text)
  | neutralized
  | rendered
  | variableList
  /-- Writes a document with a mode, a provider with its own. -/
  | write (mode : Int)
  | close
  | checkpoint (slot : Text)
  | restore (slot : Text)
  | put (path : Text) (content : Bytes)
  | remove (path : Text)
  | move (source target : Text)
  | listing

/-- What a request gives. -/
inductive SessionReply where
  | nothing
  | text (t : Option Text)
  | flag (b : Bool)
  | texts (ts : List Text)
  | entries (es : List (Text × Text))
  | integer (n : Int) (found : Bool)
  | variableList (vs : List Variable)
  | listing (ls : List Files.Listed)

/-- Why a request failed. -/
inductive SessionError where
  | invalidKey (cause : InvalidKey)
  | update (cause : UpdateError)
  | storage (cause : Storage.Error)
  | files (path : Text) (cause : Files.Failure)
  | invalidPath (cause : InvalidPath)

/-- The reply to a request or its failure, and the events it logged. -/
structure SessionAnswer where
  result : Except SessionError SessionReply
  events : List Log.Event := []

/-- Named documents and providers, captured states, and the files they work on. -/
structure Session where
  tree : Files.Tree := {}
  /-- Where events go, once that was configured. -/
  log : Option Log.Configuration := none
  holders : List (Text × Holder) := []
  checkpoints : List (Text × Checkpoint) := []

namespace Session

/-- What a name stands for. -/
def holder? (s : Session) (name : Text) : Option Holder := s.holders.lookup name

/-- Lets a name stand for a holder. -/
def hold (s : Session) (name : Text) (h : Holder) : Session :=
  { s with holders := (name, h) :: s.holders.filter (·.1 != name) }

/-- The events that are logged. -/
def logged (s : Session) (events : List Log.Event) : List Log.Event :=
  match s.log with
  | some c => c.filter events
  | none => []

/-- The answer of a look-up that logs a stored text without a value. -/
def lookedUp (d : Document) (key : Text) (result : Except InvalidKey SessionReply) :
    SessionAnswer :=
  ⟨result.mapError .invalidKey, d.lookupEvents key⟩

/-- A session with a holder changed, and the answer to the change. -/
def updated (s : Session) (name : Text) (h : Holder) (r : Document × Except UpdateError Unit) :
    Session × SessionAnswer :=
  (s.hold name (h.withInner r.1),
    ⟨(r.2.map fun _ => SessionReply.nothing).mapError .update, []⟩)

/-- A session with a holder changed without a failure. -/
def changed (s : Session) (name : Text) (h : Holder) (d : Document) : Session × SessionAnswer :=
  (s.hold name (h.withInner d), ⟨.ok .nothing, []⟩)

/-- A session that has opened a holder or failed to. -/
def opened {α : Type} (s : Session) (name : Text) (l : Storage.Logged α) (wrap : α → Holder) :
    Session × SessionAnswer :=
  match l.result with
  | .ok a => (s.hold name (wrap a), ⟨.ok .nothing, l.events⟩)
  | .error e => (s, ⟨.error (.storage e), l.events⟩)

/-- A session after a holder was written. -/
def written (s : Session) (name : Text) (h : Holder) (w : Storage.Written) :
    Session × SessionAnswer :=
  ({ s with tree := w.tree }.hold name (h.withInner w.document),
    ⟨(w.result.map fun _ => SessionReply.nothing).mapError .storage, w.events⟩)

/-- A session after its tree was changed at a path. -/
def treeChanged (s : Session) (path : Text)
    (change : Bytes → Except Files.Failure Files.Tree) : Session × SessionAnswer :=
  match Path.encode path with
  | .error cause => (s, ⟨.error (.invalidPath cause), []⟩)
  | .ok bytes =>
    match change bytes with
    | .error cause => (s, ⟨.error (.files path cause), []⟩)
    | .ok tree => ({ s with tree }, ⟨.ok .nothing, []⟩)

/-- Carries out a request on a holder. -/
def onHolder (s : Session) (name : Text) (h : Holder) : SessionRequest → Session × SessionAnswer
  | .get key =>
    let d := h.inner
    let value :=
      match h with
      | .document _ => d.nonemptyValue? key
      | .provider _ => d.value? key
    (s, lookedUp d key (value.map .text))
  | .value key => (s, lookedUp h.inner key ((h.inner.value? key).map .text))
  | .stored key => (s, ⟨((h.inner.text? key).map .text).mapError .invalidKey, []⟩)
  | .contains key => (s, ⟨((h.inner.contains key).map .flag).mapError .invalidKey, []⟩)
  | .boolean key fallback => (s, lookedUp h.inner key ((h.inner.boolean key fallback).map .flag))
  | .integer key format fallback =>
    (s, lookedUp h.inner key ((h.inner.integer key format fallback).map fun r => .integer r.1 r.2))
  | .keys => (s, ⟨.ok (.texts h.inner.keys), []⟩)
  | .entries => (s, ⟨.ok (.entries h.inner.entries), []⟩)
  | .variableList => (s, ⟨.ok (.variableList h.inner.variableList), []⟩)
  | .isModified => (s, ⟨.ok (.flag h.inner.modified), []⟩)
  | .description => (s, ⟨.ok (.text (some h.inner.description)), []⟩)
  | .neutralized => (s, ⟨.ok (.texts h.inner.neutralized), []⟩)
  | .rendered => (s, ⟨.ok (.texts h.inner.rendered), Storage.neutralizing h.inner⟩)
  | .set key value => s.updated name h (h.inner.set key value)
  | .setNonempty key value => s.updated name h (h.inner.setNonempty key value)
  | .unset key => s.updated name h (h.inner.unset key)
  | .setBoolean key b => s.updated name h (h.inner.setBoolean key b)
  | .setInteger key n => s.updated name h (h.inner.setInteger key n)
  | .setModified => s.changed name h h.inner.setModified
  | .rename path => s.changed name h { h.inner with fileName := path }
  | .close => s.changed name h (Storage.close h.inner)
  | .write mode =>
    match h with
    | .document d => s.written name h (Storage.writeFile s.tree d mode)
    | .provider p => s.written name h (Provider.save s.tree p)
  | .checkpoint slot =>
    ({ s with checkpoints := (slot, h.inner.checkpoint) :: s.checkpoints }, ⟨.ok .nothing, []⟩)
  | .restore slot =>
    match s.checkpoints.lookup slot with
    | some c => s.changed name h (h.inner.restore c)
    | none => (s, ⟨.ok .nothing, []⟩)
  | _ => (s, ⟨.ok .nothing, []⟩)

/-- Carries out a request on the holder of a name, or on the files. -/
def answer (s : Session) (name : Text) : SessionRequest → Session × SessionAnswer
  | .new path lines =>
    let d : Document := { fileName := path, records := lines.map Record.ofLine }
    (s.hold name (.document d), ⟨.ok .nothing, []⟩)
  | .openFile path => s.opened name (Storage.openFile s.tree path) .document
  | .createFile path => s.opened name (Storage.createFile s.tree path) .document
  | .openProvider path mode => s.opened name (Provider.openAt s.tree path mode) .provider
  | .put path content => s.treeChanged path fun bytes => s.tree.put bytes content
  | .remove path => s.treeChanged path s.tree.remove
  | .move source target =>
    s.treeChanged source fun bytes =>
      match Path.encode target with
      | .error _ => .error .notFound
      | .ok target => s.tree.rename bytes target
  | .listing =>
    match s.tree.unreadable? with
    | some path => (s, ⟨.error (.files ("./" ++ path) .permissionDenied), []⟩)
    | none => (s, ⟨.ok (.listing s.tree.listing), []⟩)
  | request =>
    match s.holder? name with
    | some h => s.onHolder name h request
    | none => (s, ⟨.ok .nothing, []⟩)

/-- Carries out a request; of its events those stay that are logged. -/
def step (s : Session) (name : Text) (request : SessionRequest) : Session × SessionAnswer :=
  let (next, a) := s.answer name request
  (next, { a with events := next.logged a.events })

/-- Carries out requests one after another: the session after each of them, with its answer. -/
def run (s : Session) : List (Text × SessionRequest) → List (Session × SessionAnswer)
  | [] => []
  | (name, request) :: rest =>
    let (next, a) := s.step name request
    (next, a) :: next.run rest

end Session

end VarFile
