import VarFile.ConfigFolder
import VarFile.Proofs.Json.Limits

/-!
# Reading the configuration folder

Settings that are read can be used (`ConfigFolder.isValid_of_loadSettings`), whatever the file
holds. What is wrong with a file is contained as long as the file is UTF-8 and stays within the
limits of reading JSON (`ConfigFolder.isContained_of_loadSettings`,
`ConfigFolder.exists_loadTheme`).
-/

namespace VarFile

namespace Settings

/-- Settings that can be used: the mode is one of permission bits, the level one that may be set. -/
structure IsValid (s : Settings) : Prop where
  fileMode : 0 ≤ s.fileMode ∧ s.fileMode ≤ 0o7777
  logLevel : s.logLevel ∈ (["DEBUG", "INFO", "WARNING", "ERROR", "CRITICAL"] : List Text)

/-- The default settings can be used. -/
theorem isValid_default : IsValid {} := ⟨by decide, by decide⟩

variable {members : List (Text × Json)}

private theorem of_fieldOr {α : Type} {P : α → Prop} {name : Text} {default a : α}
    {read : Json → Except Problem α} (h : fieldOr members name default read = .ok a)
    (missing : P default) (found : ∀ v a, read v = .ok a → P a) : P a := by
  rw [fieldOr] at h
  split at h
  · exact found _ a h
  · cases h
    exact missing

private theorem mode_eq_ok {v : Json} {n : Int} (h : mode v = .ok n) : 0 ≤ n ∧ n ≤ 0o7777 := by
  rw [mode] at h
  split at h
  · cases h
  · split at h
    · next bits =>
      cases h
      exact bits
    · cases h

private theorem level_eq_ok {v : Json} {name : Text} (h : level v = .ok name) :
    name ∈ levelNames := by
  rw [level.eq_def] at h
  split at h
  · split at h
    · next known =>
      cases h
      exact List.contains_iff_mem.1 known
    · cases h
  · cases h

/-- Settings that are read can be used. -/
theorem isValid_of_validate {s : Settings} (h : validate members = .ok s) : s.IsValid := by
  rw [validate] at h
  split at h
  · next mode level file hm hl hf =>
    cases h
    refine ⟨?_, of_fieldOr hl isValid_default.logLevel fun v name => level_eq_ok⟩
    refine of_fieldOr (P := fun n => 0 ≤ n ∧ n ≤ 0o7777) hm isValid_default.fileMode
      fun v n hv => ?_
    cases read : Settings.mode v with
    | error cause =>
      rw [read] at hv
      cases hv
    | ok m =>
      rw [read] at hv
      cases hv
      exact mode_eq_ok read
  · cases h

end Settings

namespace ConfigFolder

variable {folder : ConfigFolder} {content : Bytes} {maxDepth : Nat}

/-- A file that can be read or is found malformed: it is UTF-8, and its JSON stays within the
limits. -/
structure IsModest (maxDepth : Nat) (content : Bytes) : Prop where
  utf8 : Text.isUtf8 content = true
  json : Json.IsModest maxDepth (Json.Token.all (.ofBytes content))

/-- What is wrong with a modest file is contained. -/
theorem isContained_of_readObject {file : Text} {e : ConfigError}
    (modest : IsModest maxDepth content)
    (h : readObject maxDepth file content = .error e) : e.isContained = true := by
  rw [readObject, modest.utf8] at h
  simp only [Bool.not_true, Bool.false_eq_true, if_false] at h
  split at h
  · cases h
  · split at h
    · cases h
      rfl
    · next n parsed => cases Json.eq_malformed_of_parse modest.json parsed
    · next array parsed => cases Json.eq_malformed_of_parse modest.json parsed
    · cases h
    · cases h
      rfl

/-- Settings that are read can be used. -/
theorem isValid_of_readSettings {s : Settings} (h : readSettings maxDepth content = .ok s) :
    s.IsValid := by
  rw [readSettings] at h
  split at h
  · cases h
  · next members _ =>
    generalize valid : Settings.validate _ = checked at h
    cases checked with
    | error problems => cases h
    | ok settings =>
      cases h
      exact Settings.isValid_of_validate valid

/-- What is wrong with a modest settings file is contained. -/
theorem isContained_of_readSettings {e : ConfigError} (modest : IsModest maxDepth content)
    (h : readSettings maxDepth content = .error e) : e.isContained = true := by
  rw [readSettings] at h
  split at h
  · next cause unread =>
    cases h
    exact isContained_of_readObject modest unread
  · next members _ =>
    generalize Settings.validate _ = checked at h
    cases checked with
    | error problems =>
      cases h
      rfl
    | ok settings => cases h

/-- Settings that are loaded can be used. -/
theorem isValid_of_loadSettings {s : Settings} (h : folder.loadSettings.2 = .ok s) :
    s.IsValid := by
  rw [loadSettings] at h
  split at h
  · cases h
    exact Settings.isValid_default
  · exact isValid_of_readSettings h

/-- Settings that are loaded from a folder of a tree can be used. -/
theorem isValid_of_loadIn {t : Files.Tree} {place : Bytes} {s : Settings}
    (h : (loadIn maxDepth t place).2 = .ok s) : s.IsValid := by
  rw [loadIn] at h
  split at h
  · exact isValid_of_readSettings h
  · cases h
  · split at h
    · split at h
      · cases h
        exact Settings.isValid_default
      · cases h
    · cases h

/-- What is wrong with a modest settings file of a folder is contained. -/
theorem isContained_of_loadSettings {e : ConfigError}
    (modest : ∀ content ∈ folder.config, IsModest folder.maxDepth content)
    (h : folder.loadSettings.2 = .error e) : e.isContained = true := by
  rw [loadSettings] at h
  split at h
  · cases h
  · next content there => exact isContained_of_readSettings (modest content there) h

/-- A modest theme file gives a name or none. -/
theorem exists_loadTheme (modest : ∀ content ∈ folder.theme, IsModest folder.maxDepth content) :
    ∃ theme, folder.loadTheme = .ok theme := by
  rw [loadTheme]
  split
  · exact ⟨none, rfl⟩
  · next content there =>
    split
    · next e unread =>
      exact ⟨none, if_pos (isContained_of_readObject (modest content there) unread)⟩
    · split
      · next t _ => exact ⟨some t, rfl⟩
      · exact ⟨none, rfl⟩

end ConfigFolder

end VarFile
