import VarFile.Proofs.CommandLine.Request
import VarFile.Proofs.Rendering.Carried
import VarFile.Proofs.Storage.Offer

/-!
# Look-ups from the command line

`get` prints the value that a key has in the file at its path, and fails if there is none
(`CommandLine.gives_lookup?`). What a document says is found at a path (`CommandLine.Shows`) if the
file there was written from it.
-/

namespace VarFile

namespace CommandLine

open CommandLine.Outcome
open Storage (Offers)

variable {o : Outcome} {c : Log.Configuration} {world : World} {arguments : List Text}
  {path key : Text} {d : Document} {value : Option Text}

private theorem code_storageError (o : Outcome) (e : Storage.Error) :
    (o.storageError e).ending.code = 1 := by
  cases e <;> rfl

/-- The value of a key in the file at a path, if there is one. -/
def lookup? (t : Files.Tree) (path key : Text) : Option Text :=
  match (Storage.openFile t (Path.normalized path)).result with
  | .ok d => (d.value? key).toOption.join
  | .error _ => none

private theorem lookup?_of_invalid {t : Files.Tree} (invalid : Key.isValid key = false) :
    lookup? t path key = none := by
  rw [lookup?]
  split
  · rw [Document.value?, Document.text?, Key.check, invalid]
    rfl
  · rfl

/-- A command line succeeds and prints a value, or fails if there is none. -/
def Gives (world : World) (arguments : List Text) : Option Text → Prop
  | some v => (run world arguments).ending.code = 0 ∧ (run world arguments).out = printed v
  | none => (run world arguments).ending.code = 1

/-- Only a value that was found is printed. -/
theorem exists_of_code (gives : Gives world arguments value)
    (succeeds : (run world arguments).ending.code = 0) :
    ∃ v, value = some v ∧ (run world arguments).out = printed v := by
  cases value with
  | none =>
    rw [Gives, succeeds] at gives
    cases gives
  | some v => exact ⟨v, rfl, gives.2⟩

/-- `get` gives the value of the key in the file. -/
theorem gives_lookup? (ready : IsReady world) {bytes : Bytes}
    (encoded : Path.encode (Path.normalized path) = .ok bytes)
    (asks : Asks arguments (.get path key)) :
    Gives world arguments (lookup? world.tree path key) := by
  obtain ⟨s, ready⟩ := ready
  obtain ⟨o, c, starts, runs⟩ := run_of_asks ready asks rfl encoded
  rw [Request.run, runGet] at runs
  rw [← starts.tree]
  obtain ⟨-, go⟩ | ⟨invalid, stop⟩ := withKey_cases o key _
  · rw [go] at runs
    obtain ⟨d, opened, go⟩ | ⟨e, failed, stop⟩ := withLogged_cases o c
      (Storage.openFile o.world.tree (Path.normalized path)) _
    · rw [go] at runs
      rw [lookup?, opened]
      simp only
      cases found : (d.value? key).toOption.join with
      | some v =>
        simp only [Document.join_value?_eq_some_iff.1 found] at runs
        rw [Gives, runs]
        simp [print, starts.ending, starts.out, Ending.code]
      | none =>
        -- Whatever the reason is, the command ends with a message.
        split at runs
        · next v value =>
          rw [Document.join_value?_eq_some_iff.2 value] at found
          cases found
        · rw [Gives, runs]
          rfl
    · rw [stop] at runs
      rw [lookup?, failed, Gives, runs, code_storageError]
  · rw [stop] at runs
    rw [lookup?_of_invalid invalid, Gives, runs]
    rfl

/-- A file passes exactly if it has no lines that would be kept as comments. -/
theorem code_check_iff (ready : IsReady world) (asks : Asks arguments (.check path))
    (opened : (Storage.openFile world.tree (Path.normalized path)).result = .ok d) :
    (run world arguments).ending.code = 0 ↔ d.neutralized = [] := by
  obtain ⟨bytes, encoded, -⟩ := Storage.isAt_of_loads (.inl opened)
  obtain ⟨s, ready⟩ := ready
  obtain ⟨o, c, starts, runs⟩ := run_of_asks ready asks rfl encoded
  rw [← starts.tree] at opened
  rw [runs, Request.run, runCheck, withLogged_of_ok opened]
  cases d.neutralized with
  | nil => simp [starts.ending, Ending.code]
  | cons line lines => simp [fail, Ending.code]

/-! ### What is found at a path -/

variable {bytes : Bytes} {offered : Option Bytes}

/-- What is found at a path is the value in the document of the file there. -/
theorem value?_of_lookup? (encoded : Path.encode (Path.normalized path) = .ok bytes)
    (offers : Offers world.tree bytes offered) {v : Text}
    (found : lookup? world.tree path key = some v) :
    (Document.ofContent (Path.normalized path) (offered.getD [])).value? key = .ok (some v) := by
  rw [lookup?, Storage.openFile_of_offers encoded offers] at found
  cases offered with
  | none => cases found
  | some content =>
    exact Document.join_value?_eq_some_iff.1 found

/-- What a document says is found at a path. -/
structure Shows (t : Files.Tree) (path : Text) (d : Document) : Prop where
  value : ∀ key v, d.value? key = .ok (some v) → lookup? t path key = some v
  gone : ∀ key, d.stored? key = none → lookup? t path key = none

/-- A document is found at a path if the file there carries what it says. -/
theorem shows_of_carries {t : Files.Tree} {e : Document}
    (opened : (Storage.openFile t (Path.normalized path)).result = .ok e) (carries : d.Carries e) :
    Shows t path d := by
  refine ⟨fun key v h => ?_, fun key h => ?_⟩
  · rw [lookup?, opened]
    exact Document.join_value?_eq_some_iff.2 (carries.value key v h)
  · rw [lookup?, opened]
    cases found : (e.value? key).toOption.join with
    | none => simp only [found]
    | some v =>
      -- A value would come from a stored text.
      have value := Document.join_value?_eq_some_iff.1 found
      obtain ⟨-, text, there, -⟩ := Document.value?_eq_some_iff.1 value
      rw [carries.gone key h] at there
      cases there

/-- A document without lines is found where no file is. -/
theorem shows_of_nil {t : Files.Tree} {e : Storage.Error}
    (failed : (Storage.openFile t (Path.normalized path)).result = .error e)
    (none : d.records = []) :
    Shows t path d := by
  refine ⟨fun key v h => ?_, fun key _ => by rw [lookup?, failed]⟩
  obtain ⟨-, text, there, -⟩ := Document.value?_eq_some_iff.1 h
  rw [Document.stored?, none] at there
  cases there

end CommandLine

end VarFile
