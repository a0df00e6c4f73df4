import VarFile.Proofs.CommandLine.Lookup
import VarFile.Proofs.Rendering.Rewritten

/-!
# Checking a file

`check` succeeds exactly if writing the file back would keep no line of it as a comment, and this is
so exactly if it would give back the bytes of the file (`CommandLine.check_exact`).
-/

namespace VarFile.CommandLine

open Storage (Offers)

/-- A file passes exactly if no line of it would be kept as a comment, and none would be exactly if
the document, written back as it was read, gives the bytes of the file with a newline at their
end. -/
theorem check_exact (fileName : Text) (data : Bytes) :
    let d := Document.ofContent fileName data
    (d.neutralized = [] ↔ d.content = .ok data.terminated) ∧
      ∀ (world : World) (arguments : List Text) (path : Text) (bytes : Bytes),
        IsReady world → Path.encode (Path.normalized path) = .ok bytes →
          Offers world.tree bytes (some data) → Asks arguments (.check path) →
            ((run world arguments).ending.code = 0 ↔ d.neutralized = []) := by
  intro d
  refine ⟨Document.neutralized_eq_nil_iff fileName data, ?_⟩
  intro world arguments path bytes ready encoded offers asks
  -- The lines that are listed do not depend on the name of the file.
  have same : (Document.ofContent (Path.normalized path) data).neutralized = d.neutralized := rfl
  rw [← same]
  exact code_check_iff ready asks (Storage.openFile_of_offers encoded offers)

/-- A file without a newline at its end passes, and one with a line that is no assignment does
not. -/
theorem check_exact_open :
    let tree (content : Bytes) : Files.Tree :=
      ⟨[([("f" : Text).toBytes], .file 0)], [⟨content, 0o644⟩], {}⟩
    let passes (content : Bytes) : Prop :=
      (run { tree := tree content } ["check", "f"]).ending.code = 0
    (Document.ofContent "f" ("# c\r\n\tA='1'" : Text).toBytes).content =
        .ok ("# c\r\n\tA='1'\n" : Text).toBytes ∧
      passes ("# c\r\n\tA='1'" : Text).toBytes ∧ ¬ passes ("A=1\nexport B\n" : Text).toBytes := by
  intro tree passes
  have may (data : Bytes) : (tree data).mayRead 0 = true :=
    (Files.Tree.mayRead_eq (f := ⟨data, 0o644⟩) rfl).trans
      (by decide : ({} : Files.Process).mayRead 0o644 = true)
  have readable (data : Bytes) : (tree data).IsReadable ("f" : Text).toBytes :=
    Files.Tree.isReadable_of_find (show (tree data).find _ = .ok (.file 0) from rfl) (may data)
  have checked {data : Bytes} (fits : data.length ≤ Storage.maxFileSize) :=
    (check_exact "f" data).2 { tree := tree data } ["check", "f"] "f" ("f" : Text).toBytes
      ⟨{}, rfl, rfl, by rintro _ ⟨⟩⟩ (by decide) (.file rfl fits (readable data))
      ⟨rfl, rfl, rfl, rfl, rfl⟩
  have clean : (Document.ofContent "f" ("# c\r\n\tA='1'" : Text).toBytes).neutralized = [] := by
    decide +kernel
  refine ⟨?_, (checked (by decide +kernel)).2 clean, fun h => ?_⟩
  · rw [((check_exact "f" _).1).1 clean]
    decide +kernel
  · have := (checked (by decide +kernel)).1 h
    revert this
    decide +kernel

end VarFile.CommandLine
