import VarFile.Proofs.CommandLine.Outcome
import VarFile.Proofs.Text.Boundary

/-!
# Carrying out what a command line asks for

A command line asks for a request (`CommandLine.Asks`), however its options and operands are
written; after two dashes every operand is taken as it is (`CommandLine.asks_operands`). With
settings that can be used and no log file in the working directory it does what the request says
(`CommandLine.run_of_asks`).
-/

namespace VarFile

/-! ### Paths as they are given -/

namespace Path

private theorem mem_splitOn (separator : CodePoint) {c : CodePoint} {t : Text} (h : c ∈ t) :
    c = separator ∨ ∃ piece ∈ t.splitOn separator, c ∈ piece := by
  rw [Text.splitOn]
  induction t with
  | nil => cases h
  | cons d t ih =>
    rw [List.foldr_cons]
    generalize t.foldr _ ([], []) = later at ih ⊢
    obtain ⟨first, rest⟩ := later
    by_cases hd : d = separator
    · simp only [if_pos hd]
      obtain rfl | h := List.mem_cons.1 h
      · exact .inl hd
      · exact (ih h).imp_right fun ⟨piece, hp, hc⟩ => ⟨piece, List.mem_cons_of_mem _ hp, hc⟩
    · simp only [if_neg hd]
      obtain rfl | h := List.mem_cons.1 h
      · exact .inr ⟨c :: first, List.mem_cons_self, List.mem_cons_self⟩
      · refine (ih h).imp_right fun ⟨piece, hp, hc⟩ => ?_
        obtain rfl | hp := List.mem_cons.1 hp
        · exact ⟨d :: piece, List.mem_cons_self, List.mem_cons_of_mem d hc⟩
        · exact ⟨piece, List.mem_cons_of_mem _ hp, hc⟩

private theorem mem_intercalate {c : CodePoint} {separator piece : Text} {pieces : List Text}
    (hp : piece ∈ pieces) (hc : c ∈ piece) : c ∈ List.intercalate separator pieces := by
  induction pieces with
  | nil => cases hp
  | cons first pieces ih =>
    cases pieces with
    | nil =>
      cases List.mem_singleton.1 hp
      rwa [List.intercalate_singleton]
    | cons second pieces =>
      rw [List.intercalate_cons_cons, List.append_assoc, List.mem_append, List.mem_append]
      obtain rfl | hp := List.mem_cons.1 hp
      · exact .inl hc
      · exact .inr (.inr (ih hp))

private theorem mem_normalized {c : CodePoint} {path : Text} (h : c ∈ path) :
    c = CodePoint.ofChar '/' ∨ c = CodePoint.ofChar '.' ∨ c ∈ normalized path := by
  obtain slash | ⟨piece, hp, hc⟩ := mem_splitOn '/' h
  · exact .inl slash
  · by_cases dot : piece = [CodePoint.ofChar '.']
    · rw [dot] at hc
      exact .inr (.inl (List.mem_singleton.1 hc))
    · have kept :
          piece ∈ (path.splitOn '/').filter fun c => c != [] && c != [CodePoint.ofChar '.'] :=
        List.mem_filter.2 ⟨hp, by simp [List.ne_nil_of_mem hc, dot]⟩
      have there : c ∈ root path ++ List.intercalate [CodePoint.ofChar '/']
          ((path.splitOn '/').filter fun c => c != [] && c != [CodePoint.ofChar '.']) :=
        List.mem_append_right _ (mem_intercalate kept hc)
      refine .inr (.inr ?_)
      rw [normalized, if_neg (by simpa using List.ne_nil_of_mem there)]
      exact there

private theorem exists_encode {path : Text} {bytes : Bytes}
    (h : encode (normalized path) = .ok bytes) :
    ∃ raw, encode path = .ok raw := by
  rw [encode] at h
  split at h
  · cases h
  · next stored he =>
    split at h
    · cases h
    · next zero =>
      obtain ⟨storable, rfl⟩ := Text.isStorable_of_encode he
      -- The slash and the dot can be stored, and neither of them is the zero byte.
      have all : Text.IsStorable path := by
        intro c hc
        obtain rfl | rfl | hc := mem_normalized hc
        · decide
        · decide
        · exact storable c hc
      rw [encode, Text.encode_eq_ok all]
      refine ⟨path.toBytes, if_neg fun has => zero ?_⟩
      rw [List.contains_iff_mem, Text.toBytes, List.mem_flatMap] at has ⊢
      obtain ⟨c, hc, hb⟩ := has
      obtain rfl | rfl | hc := mem_normalized hc
      · exact absurd hb (by decide)
      · exact absurd hb (by decide)
      · exact ⟨c, hc, hb⟩

end Path

namespace CommandLine

open CommandLine.Outcome

variable {arguments : List Text} {request : Request} {world : World}

/-! ### What is asked for -/

/-- A command line that asks for a request. -/
inductive Asks (arguments : List Text) (request : Request) : Prop
  | intro {invocation : Invocation} {verb : Verb} {found : Found}
      (parsed : Invocation.parse arguments = some invocation)
      (named : invocation.verb = some verb)
      (taken : verb.form.take {} invocation.rest = some found)
      (noHelp : found.flags.contains helpFlag = false)
      (asked : Request.ofFound verb found = some request)

/-- What ends the options. -/
abbrev dashes : Text := "--"

/-- An option that stands alone is written out, with no value. -/
structure Form.IsFlag (flag : Text) : Prop where
  ends : flag ≠ dashes
  isOption : Form.isOption flag = true
  noValue : Form.splitEquals flag = (flag, none)

private theorem isFlag_of_mem {verb : Verb} {flag : Text} (h : flag ∈ verb.form.flags) :
    Form.IsFlag flag := by
  have both : flag = helpFlag ∨ flag = "--keep-empty" := by
    cases verb with
    | set => simpa [Verb.form] using h
    | _ => exact .inl (by simpa [Verb.form] using h)
  obtain rfl | rfl := both
  · exact ⟨by decide, by decide, by decide⟩
  · exact ⟨by decide, by decide, by decide⟩

private theorem Form.take_flags {f : Form} {flags : List Text}
    (written : ∀ flag ∈ flags, IsFlag flag)
    (known : ∀ flag ∈ flags, flag ∈ f.flags) (found : Found) (operands : List Text) :
    f.take found (flags ++ dashes :: operands) =
      some { found with
        flags := found.flags ++ flags
        operands := found.operands ++ operands } := by
  induction flags generalizing found with
  | nil => rw [List.nil_append, take, if_pos rfl, List.append_nil]
  | cons flag flags ih =>
    obtain ⟨now, later⟩ := List.forall_mem_cons.1 written
    obtain ⟨here, there⟩ := List.forall_mem_cons.1 known
    rw [List.cons_append, take.eq_def]
    simp only [if_neg now.ends, now.isOption, now.noValue, List.contains_iff_mem.2 here, if_true]
    rw [ih later there, List.append_assoc, List.singleton_append]

/-- A command with some of its options, two dashes and operands asks for what these make. -/
theorem asks_operands {name : Text} {verb : Verb} (named : (name, verb) ∈ Verb.named)
    {flags : List Text} (known : ∀ flag ∈ flags, flag ∈ verb.form.flags)
    (noHelp : flags.contains helpFlag = false) {operands : List Text}
    (asked : Request.ofFound verb { flags, operands } = some request) :
    Asks (name :: (flags ++ dashes :: operands)) request := by
  have plain : ∀ entry ∈ Verb.named, entry.1 ≠ dashes ∧ Form.isOption entry.1 = false ∧
      Verb.named.lookup entry.1 = some entry.2 := by decide
  obtain ⟨ends, operand, found⟩ := plain _ named
  have parsed : Invocation.parse (name :: (flags ++ dashes :: operands)) =
      some ⟨false, some verb, flags ++ dashes :: operands⟩ := by
    rw [Invocation.parse, Form.take.eq_def]
    simp only [if_neg ends, operand]
    simp [Invocation.form, found]
  have taken := Form.take_flags (fun flag hf => isFlag_of_mem (known flag hf)) known {} operands
  simp only [List.nil_append] at taken
  exact ⟨parsed, rfl, taken, noHelp, asked⟩

/-! ### What is done -/

/-- The settings of a world can be used: its configuration folder is no directory of the tree, and
they name no log file in the working directory. -/
structure IsReadyWith (w : World) (s : Settings) : Prop where
  apart : w.folder? = none
  settings : w.settings? = some s
  remote : ∀ path ∈ s.logFile, path ≠ [] → isLocal path = false

/-- Reading the settings of such a world makes the settings file at most. -/
theorem IsReadyWith.world_informed {s : Settings} {o : Outcome} (ready : IsReadyWith o.world s) :
    o.informed.world = { o.world with config := o.world.config.loadSettings.1 } :=
  congrArg Prod.fst (World.loadSettings_of_apart ready.apart)

/-- There are settings that can be used. -/
def IsReady (w : World) : Prop := ∃ s, IsReadyWith w s

/-- An outcome before anything was done but reading the settings and setting up the logs. -/
structure Starts (world : World) (s : Settings) (o : Outcome) : Prop where
  tree : o.world.tree = world.tree
  config : o.world.config = world.config.loadSettings.1
  apart : o.world.folder? = none
  logFiles : ∀ file ∈ o.world.logFiles, file ∈ world.logFiles ∨ file ∈ s.logFile
  ending : o.ending = .success
  out : o.out = []
  edit : o.edit = none

/-- After the settings were read they can be read again. -/
theorem IsReadyWith.again {s : Settings} (ready : IsReadyWith world s) {w : World}
    (apart : w.folder? = none) (config : w.config = world.config.loadSettings.1) :
    IsReadyWith w s := by
  have read := World.loadSettings_of_apart ready.apart
  have later : world.loadSettings.1.folder? = none := by
    rw [read]
    exact ready.apart
  refine ⟨apart, ?_, ready.remote⟩
  rw [World.settings?_of_apart later apart (by rw [config, read])]
  exact World.settings?_loadSettings ready.apart ready.settings

/-- The path that a request is about. -/
def Request.path? : Request → Option Text
  | .get path _ | .set path .. | .unset path _ => some path
  | .show path | .check path | .edit path _ => some path
  | .help | .escape _ | .unescape _ => none

private theorem pathOperand?_of_ofFound {verb : Verb} {found : Found}
    (asked : Request.ofFound verb found = some request) :
    Request.pathOperand? verb found = request.path? := by
  rw [Request.ofFound.eq_def] at asked
  simp only at asked
  split at asked
  all_goals first
    | cases asked; done
    | next operands =>
      cases asked
      rw [Request.pathOperand?, operands]
      rfl

/-- A command line does what it asks for with a file. -/
theorem run_of_asks {s : Settings} {path : Text} {bytes : Bytes} (ready : IsReadyWith world s)
    (asks : Asks arguments request) (about : request.path? = some path)
    (encoded : Path.encode (Path.normalized path) = .ok bytes) :
    ∃ o c, Starts world s o ∧ run world arguments = request.run o c := by
  obtain ⟨parsed, named, taken, noHelp, asked⟩ := asks
  obtain ⟨raw, encodes⟩ := Path.exists_encode encoded
  rw [run, parsed]
  simp only [named]
  rw [withSettings_of_some ready.settings]
  obtain ⟨c, logFiles, known, go⟩ := configureLog_of_remote ready.remote (informed { world }) _ _
  rw [go, runVerb, taken]
  simp only [noHelp, Bool.false_eq_true, if_false, asked, pathOperand?_of_ofFound asked, about,
    Option.map_some, encodes]
  rw [IsReadyWith.world_informed (o := { world }) ready] at known ⊢
  exact ⟨_, c, ⟨rfl, rfl, ready.apart, known, rfl, rfl, rfl⟩, rfl⟩

end CommandLine

end VarFile
