import Mathlib.Data.List.Induction
import VarFile.Proofs.Editor.Still
import VarFile.Proofs.Editor.Work

/-!
# Keys that are pressed twice

Two keys at the table act on the second of two presses. Nothing but a press of its key, or a time
that runs out, changes what is known of a chord (`Editor.armed_pass`), so a press acts exactly if
the first of its two was made and nothing of the chord happened since: `Editor.second_press_acts`.
Other keys may be pressed in between (`Editor.not_consecutive_presses`).
-/

namespace VarFile

/-- The keys that act on the second of two presses. -/
inductive Chord where
  /-- Asks whether to delete the row with the cursor. -/
  | delete
  /-- Goes to the first row. -/
  | first
  deriving DecidableEq

/-- The key of a chord. -/
def Chord.key : Chord → EditorEvent
  | delete => .key (.char 'd')
  | first => .key (.char 'g')

/-- What happens to an editor: an event, or the time for the second press of a chord runs out. -/
inductive Moment where
  | event (event : EditorEvent)
  | expired (c : Chord)

private theorem CodePoint.eq_of_toChar? {c : CodePoint} {x : Char} (h : c.toChar? = some x) :
    c = CodePoint.ofChar x := by
  rw [toChar?] at h
  by_cases valid : c.val.isValidChar
  · rw [dif_pos valid] at h
    rw [← Option.some.inj h]
    rfl
  · rw [dif_neg valid] at h
    cases h

namespace Editor

instance (e : Editor) : Decidable e.AtTable :=
  decidable_of_iff (e.status = .running ∧ e.dialog = none ∧ e.searchFocused = false)
    ⟨fun h => ⟨h.1, h.2.1, h.2.2⟩, fun h => ⟨h.running, h.dialog, h.search⟩⟩

/-- Whether the next press of a chord is taken as the second one. -/
def armed (e : Editor) : Chord → Bool
  | .delete => e.deleteArmed
  | .first => e.firstArmed

/-- The next press of a chord is a first one. -/
def disarm (e : Editor) : Chord → Editor
  | .delete => { e with deleteArmed := false }
  | .first => { e with firstArmed := false }

/-- What a moment leaves. -/
def pass (e : Editor) : Moment → Editor
  | .event event => e.step event
  | .expired c => e.disarm c

/-- The state after several moments. -/
def through (e : Editor) (ms : List Moment) : Editor := ms.foldl pass e

/-- Whether the editor asks if a row should be deleted. -/
def asksDelete (e : Editor) : Bool :=
  match e.dialog with
  | some (.delete ..) => true
  | _ => false

end Editor

namespace Chord

/-- Whether the key of a chord is pressed at the table. -/
def isPress (c : Chord) (e : Editor) : Moment → Bool
  | .event event => event = c.key ∧ e.AtTable
  | .expired _ => false

/-- Whether the time for the second press of a chord runs out, be it that of the last press or one
that an earlier pair left running. -/
def runsOut (c : Chord) (e : Editor) : Moment → Bool
  | .event event => event = .pause ∧ e.status = .running
  | .expired other => other = c

/-- The number of presses since the time ran out last, after one more moment. -/
def count (c : Chord) (n : Nat) (e : Editor) (m : Moment) : Nat :=
  if c.runsOut e m then 0 else if c.isPress e m then n + 1 else n

/-- The number of presses since the time ran out last, after several moments; there were `n`
before. -/
def presses (c : Chord) (n : Nat) (e : Editor) : List Moment → Nat
  | [] => n
  | m :: ms => c.presses (c.count n e m) (e.pass m) ms

/-- Nothing of a chord happens: its key is not pressed at the table, and no time runs out. -/
def Rests (c : Chord) (e : Editor) : List Moment → Prop
  | [] => True
  | m :: ms => c.isPress e m = false ∧ c.runsOut e m = false ∧ c.Rests (e.pass m) ms

/-- The first of two presses was made, and nothing of the chord happened since. It is a first one if
an even number of presses came before it since the time ran out last. -/
def IsBegun (c : Chord) (e : Editor) (ms : List Moment) : Prop :=
  ∃ before between, ms = before ++ .event c.key :: between ∧ (e.through before).AtTable ∧
    c.presses 0 e before % 2 = 0 ∧ c.Rests (e.through (before ++ [.event c.key])) between

private theorem runsOut_of_ne_pause (c : Chord) {e : Editor} {event : EditorEvent}
    (time : event ≠ .pause) : c.runsOut e (.event event) = false :=
  decide_eq_false fun out => time out.1

private theorem isPress_of_away (c : Chord) {e : Editor} {event : EditorEvent}
    (away : ∀ k, event = .key k → ¬e.AtTable) : c.isPress e (.event event) = false := by
  refine decide_eq_false fun press => ?_
  cases c with
  | delete => exact away _ press.1 press.2
  | first => exact away _ press.1 press.2

private theorem count_key {c : Chord} {e : Editor} (table : e.AtTable) (n : Nat) :
    c.count n e (.event c.key) = n + 1 := by
  have press : c.isPress e (.event c.key) = true := decide_eq_true ⟨rfl, table⟩
  rw [count, c.runsOut_of_ne_pause (by cases c <;> decide), press]
  rfl

end Chord

namespace Editor

open CodePoint (eq_of_toChar?)

variable {e : Editor}

/-! ### What a moment does to the chords -/

theorem armed_of_chords {e' : Editor} (h : e'.chords = e.chords) (c : Chord) :
    e'.armed c = e.armed c := by
  rw [chords, chords, Prod.mk.injEq] at h
  cases c with
  | delete => exact h.1
  | first => exact h.2

/-- The first press of a chord is remembered, and the second one forgotten. -/
theorem armed_onTable_key (c : Chord) {k : KeyPress} (hk : .key k = c.key) :
    (e.onTable k).armed c = !e.armed c := by
  cases c with
  | delete =>
    cases hk
    change e.askDelete.deleteArmed = !e.deleteArmed
    rw [askDelete]
    cases armed : e.deleteArmed with
    | false => rfl
    | true =>
      simp only [Bool.not_true, Bool.false_eq_true, if_false]
      split <;> rfl
  | first =>
    cases hk
    change e.goFirst.firstArmed = !e.firstArmed
    rw [goFirst]
    cases e.firstArmed <;> rfl

/-- A key at the table leaves a chord alone unless it is its key. -/
theorem armed_onTable (c : Chord) {k : KeyPress} (hk : .key k ≠ c.key) :
    (e.onTable k).armed c = e.armed c := by
  cases k with
  | char x =>
    rw [onTable, onTableChar]
    split
    · rfl
    · rfl
    · next hx =>
      cases c with
      | delete =>
        change e.goFirst.deleteArmed = e.deleteArmed
        rw [goFirst]
        split <;> rfl
      | first => exact absurd (congrArg (EditorEvent.key ∘ KeyPress.char) (eq_of_toChar? hx)) hk
    · rfl
    · exact armed_of_chords still_askValue.chords c
    · rfl
    · exact armed_of_chords still_askName.chords c
    · next hx =>
      cases c with
      | delete => exact absurd (congrArg (EditorEvent.key ∘ KeyPress.char) (eq_of_toChar? hx)) hk
      | first =>
        change e.askDelete.firstArmed = e.firstArmed
        rw [askDelete]
        split
        · rfl
        · simp only
          split <;> rfl
    · exact armed_of_chords still_undo.chords c
    · exact armed_of_chords still_copy.chords c
    · exact armed_of_chords still_askWrite.chords c
    · exact armed_of_chords still_askQuit.chords c
    · exact armed_of_chords (still_focusSearch (e := { e with searchShown := true })).chords c
    · rfl
    · rfl
  | escape => exact armed_of_chords (still_setSearch _).chords c
  | _ => rfl

/-- A time that runs out forgets the first press; an editor that has ended remembers it. -/
theorem armed_step_pause (c : Chord) :
    (e.step .pause).armed c = if c.runsOut e (.event .pause) then false else e.armed c := by
  by_cases hs : e.status = .running
  · have out : c.runsOut e (.event .pause) = true := decide_eq_true ⟨rfl, hs⟩
    rw [step_of_status_eq hs, out, if_pos rfl]
    cases c <;> rfl
  · have notOut : c.runsOut e (.event .pause) = false := decide_eq_false fun out => hs out.2
    rw [step_of_status_ne hs, notOut, if_neg Bool.false_ne_true]

/-- A press of its key turns around what is known of a chord, a time that runs out forgets it, and
nothing else touches it. -/
theorem armed_pass (c : Chord) (e : Editor) (m : Moment) :
    (e.pass m).armed c =
      if c.runsOut e m then false else if c.isPress e m then !e.armed c else e.armed c := by
  cases m with
  | expired other => cases c <;> cases other <;> rfl
  | event event =>
    rw [pass]
    by_cases time : event = .pause
    · subst time
      have noKey (k : KeyPress) (key : .pause = EditorEvent.key k) : ¬e.AtTable := by cases key
      rw [c.isPress_of_away noKey, if_neg Bool.false_ne_true]
      exact armed_step_pause c
    · rw [c.runsOut_of_ne_pause time, if_neg Bool.false_ne_true]
      by_cases away : ∀ k, event = .key k → ¬e.AtTable
      · rw [c.isPress_of_away away, if_neg Bool.false_ne_true]
        exact armed_of_chords (still_step away time).chords c
      · simp only [not_forall, not_not] at away
        obtain ⟨k, rfl, table⟩ := away
        rw [step_key table]
        by_cases hk : .key k = c.key
        · have press : c.isPress e (.event (.key k)) = true := decide_eq_true ⟨hk, table⟩
          rw [press, if_pos rfl]
          exact armed_onTable_key c hk
        · have notPress : c.isPress e (.event (.key k)) = false :=
            decide_eq_false fun press => hk press.1
          rw [notPress, if_neg Bool.false_ne_true]
          exact armed_onTable c hk

/-! ### Runs -/

private theorem through_append (e : Editor) (ms later : List Moment) :
    e.through (ms ++ later) = (e.through ms).through later := List.foldl_append

/-- The next press is a second one if there was an odd number of them since the time ran out. -/
theorem armed_through (c : Chord) {n : Nat} (h : e.armed c = decide (n % 2 = 1))
    (ms : List Moment) : (e.through ms).armed c = decide (c.presses n e ms % 2 = 1) := by
  induction ms generalizing e n with
  | nil => exact h
  | cons m ms ih =>
    refine ih ?_
    rw [armed_pass, Chord.count]
    split
    · rfl
    · split
      · rw [h, ← decide_not, decide_eq_decide]
        omega
      · exact h

end Editor

namespace Chord

open Editor (through through_append)

variable {c : Chord} {e : Editor} {ms : List Moment} {m : Moment}

private theorem presses_append (c : Chord) (n : Nat) (e : Editor) (ms later : List Moment) :
    c.presses n e (ms ++ later) = c.presses (c.presses n e ms) (e.through ms) later := by
  induction ms generalizing n e with
  | nil => rfl
  | cons m ms ih => exact ih _ _

/-- Nothing is counted while nothing of the chord happens. -/
theorem Rests.presses (h : c.Rests e ms) (n : Nat) : c.presses n e ms = n := by
  induction ms generalizing e with
  | nil => rfl
  | cons m ms ih =>
    obtain ⟨notPress, notOut, rest⟩ := h
    rw [Chord.presses, count, notPress, notOut]
    exact ih rest

theorem Rests.append (h : c.Rests e ms) (notPress : c.isPress (e.through ms) m = false)
    (notOut : c.runsOut (e.through ms) m = false) : c.Rests e (ms ++ [m]) := by
  induction ms generalizing e with
  | nil => exact ⟨notPress, notOut, trivial⟩
  | cons m' ms ih => exact ⟨h.1, h.2.1, ih h.2.2 notPress notOut⟩

/-- The first of two presses was made if the number of presses since the time ran out is odd. -/
theorem isBegun_iff : c.IsBegun e ms ↔ c.presses 0 e ms % 2 = 1 := by
  constructor
  · rintro ⟨before, between, rfl, table, even, rest⟩
    rw [through_append] at rest
    rw [presses_append, presses, count_key table]
    have counted := rest.presses (c.presses 0 e before + 1)
    rw [through, List.foldl_cons, List.foldl_nil] at counted
    omega
  · intro odd
    -- The last press that was counted is the first of two.
    induction ms using List.reverseRecOn with
    | nil => exact absurd odd Nat.zero_ne_one
    | append_singleton ms m ih =>
      rw [presses_append, presses, presses, count] at odd
      split at odd
      · exact absurd odd Nat.zero_ne_one
      · next notOut =>
        split at odd
        · next press =>
          cases m with
          | expired => cases press
          | event event =>
            obtain ⟨rfl, table⟩ := of_decide_eq_true press
            exact ⟨ms, [], rfl, table, by omega, trivial⟩
        · next notPress =>
          obtain ⟨before, between, rfl, table, even, rest⟩ := ih odd
          rw [Bool.not_eq_true] at notOut notPress
          refine ⟨before, between ++ [m], by simp, table, even, rest.append ?_ ?_⟩
          · rw [← through_append, List.append_assoc]
            exact notPress
          · rw [← through_append, List.append_assoc]
            exact notOut

end Chord

namespace Editor

variable {e : Editor}

/-- The editor was just opened, so no key was pressed. -/
theorem armed_openAt {tree : Files.Tree} {path : Text} {mode : Int}
    (opened : openAt tree path mode = .ok e) (c : Chord) : e.armed c = false := by
  obtain ⟨p, -, rfl⟩ := exists_of_map_eq_ok opened
  cases c <;> rfl

/-- The next press of a chord is a second one if the first of two was made since the start. -/
theorem armed_iff_isBegun {tree : Files.Tree} {path : Text} {mode : Int}
    (opened : openAt tree path mode = .ok e) (c : Chord) (ms : List Moment) :
    (e.through ms).armed c = true ↔ c.IsBegun e ms := by
  have start : e.armed c = decide (0 % 2 = 1) := armed_openAt opened c
  rw [armed_through c start ms, decide_eq_true_eq, Chord.isBegun_iff]

/-! ### What the second press does -/

private theorem asksDelete_present {d : Dialog} (h : (e.ask d).asksDelete = false) :
    (e.present d).asksDelete = false := by
  rw [present.eq_def]
  split
  · split
    · rfl
    · rfl
  · exact h

private theorem asksDelete_ask_press (d : Dialog) (k : KeyPress) :
    (e.ask (d.press k)).asksDelete = (e.ask d).asksDelete := by
  cases d with
  | add _ _ _ onValue => cases onValue <;> rfl
  | _ => rfl

private theorem asksDelete_setSearch (f : Field) : (e.setSearch f).asksDelete = e.asksDelete := by
  simp only [setSearch]
  split
  · rfl
  · rfl

private theorem asksDelete_onKey (away : ¬(e.dialog = none ∧ e.searchFocused = false))
    (h : e.asksDelete = false) : (e.onKey (.char 'd')).asksDelete = false := by
  cases hd : e.dialog with
  | none =>
    have search : e.searchFocused = true := by
      by_contra table
      exact away ⟨hd, eq_false_of_ne_true table⟩
    have typed : e.onKey (.char 'd') = e.onSearch (.char 'd') := by
      rw [onKey, hd]
      exact if_pos search
    rw [typed]
    exact (asksDelete_setSearch _).trans h
  | some d =>
    have asked : (e.ask d).asksDelete = e.asksDelete := by rw [asksDelete, asksDelete, ask, hd]
    have typed := asksDelete_present (((asksDelete_ask_press d (.char 'd')).trans asked).trans h)
    rw [onKey, hd]
    cases d with
    | edit => exact typed
    | add => exact typed
    | rename => exact typed
    | delete => cases asked.trans h
    | quit => exact h
    | save => exact h
    | help => exact h

private theorem asksDelete_step_of_away (away : ¬e.AtTable) (h : e.asksDelete = false) :
    (e.step Chord.delete.key).asksDelete = false := by
  by_cases hs : e.status = .running
  · rw [step_of_status_eq hs]
    exact asksDelete_onKey (e := { e with notices := [] })
      (fun table => away ⟨hs, table.1, table.2⟩) h
  · rwa [step_of_status_ne hs]

private theorem asksDelete_askDelete (h : e.dialog = none) :
    e.askDelete.asksDelete = true ↔ e.highlightedKey? ≠ none ∧ e.deleteArmed = true := by
  rw [askDelete]
  cases e.deleteArmed with
  | false => simp [asksDelete, h]
  | true =>
    simp only [Bool.not_true, Bool.false_eq_true, if_false, highlightedKey?]
    split
    · next none => simp [asksDelete, h, none]
    · next some => simp [asksDelete, ask, some]

theorem asksDelete_step (table : e.AtTable) :
    (e.step Chord.delete.key).asksDelete = true ↔
      e.highlightedKey? ≠ none ∧ e.armed .delete = true := by
  rw [Chord.key, step_key table]
  exact asksDelete_askDelete (e := { e with notices := [] }) table.dialog

private theorem table_step_firstKey (h : e.AtTable) :
    (e.step Chord.first.key).table = if e.armed .first then e.table.toFirst else e.table := by
  rw [Chord.key, step_key h]
  change (goFirst { e with notices := [] }).table = _
  rw [goFirst, armed]
  split
  · rfl
  · rfl

/-! ### Chords -/

/-- After anything that happens to an editor, the key that deletes a row asks for it exactly if it
is pressed at the table with a row under the cursor and the first of its two presses was made. The
key to the first row, pressed at the table, goes there exactly if the first of its two presses was
made. -/
theorem second_press_acts {tree : Files.Tree} {path : Text} {mode : Int} {e₀ : Editor}
    (opened : openAt tree path mode = .ok e₀) (ms : List Moment) :
    let e := e₀.through ms
    (e.asksDelete = false →
        ((e.step Chord.delete.key).asksDelete = true ↔
          e.AtTable ∧ e.highlightedKey? ≠ none ∧ Chord.delete.IsBegun e₀ ms)) ∧
      (e.AtTable →
        (Chord.first.IsBegun e₀ ms → (e.step Chord.first.key).table = e.table.toFirst) ∧
        (¬Chord.first.IsBegun e₀ ms → (e.step Chord.first.key).table = e.table)) := by
  intro e
  refine ⟨fun quiet => ?_, fun table => ⟨fun begun => ?_, fun notBegun => ?_⟩⟩
  · rw [← armed_iff_isBegun opened]
    by_cases table : e.AtTable
    · rw [asksDelete_step table]
      exact (and_iff_right table).symm
    · rw [asksDelete_step_of_away table quiet]
      exact iff_of_false Bool.false_ne_true fun asks => table asks.1
  · rw [table_step_firstKey table, if_pos ((armed_iff_isBegun opened ..).2 begun)]
  · rw [table_step_firstKey table, if_neg (mt (armed_iff_isBegun opened ..).1 notBegun)]

/-- A cursor that moved after the first press changes nothing for the second one, of either key; the
press of a key that waited too long does not count. -/
theorem second_press_acts_between :
    let tree : Files.Tree :=
      ⟨[([("f" : Text).toBytes], .file 0)], [⟨("A=1\nB=2\n" : Text).toBytes, 0o644⟩], {}⟩
    let ms : List Moment := [.event Chord.delete.key, .event Chord.first.key, .expired .delete,
      .event Chord.delete.key, .event (.key .down)]
    ∃ e₀, openAt tree "f" 0o644 = .ok e₀ ∧
      let e := e₀.through ms
      e.highlightedKey? = some "B" ∧ (e.step Chord.delete.key).asksDelete = true ∧
        (e.step Chord.first.key).table = e.table.toFirst := by
  intro tree ms
  have facts : (openAt tree "f" 0o644).map (fun e₀ =>
      let e := e₀.through ms
      (decide e.AtTable, e.highlightedKey?, Chord.delete.presses 0 e₀ ms,
        Chord.first.presses 0 e₀ ms)) = .ok (true, some "B", 1, 1) := by decide +kernel
  obtain ⟨e₀, opened, facts⟩ := exists_of_map_eq_ok facts
  rw [Prod.mk.injEq, Prod.mk.injEq, Prod.mk.injEq, decide_eq_true_eq] at facts
  obtain ⟨table, row, deletes, firsts⟩ := facts
  have quiet : (e₀.through ms).asksDelete = false := by rw [asksDelete, table.dialog]
  obtain ⟨asks, goes⟩ := second_press_acts opened ms
  refine ⟨e₀, opened, row, (asks quiet).2 ⟨table, by rw [row]; exact Option.some_ne_none _, ?_⟩,
    (goes table).1 ?_⟩
  · rw [Chord.isBegun_iff, deletes]
  · rw [Chord.isBegun_iff, firsts]

/-- The key that was pressed before the second press need not be that of the first one. -/
theorem not_consecutive_presses :
    (¬ ∀ (tree : Files.Tree) (path : Text) (mode : Int) (e₀ : Editor) (keys : List KeyPress),
      openAt tree path mode = .ok e₀ →
        let e := e₀.after (keys.map .key)
        e.asksDelete = false → (e.step Chord.delete.key).asksDelete = true →
          (keys.map .key).getLast? = some Chord.delete.key) ∧
    (¬ ∀ (tree : Files.Tree) (path : Text) (mode : Int) (e₀ : Editor) (keys : List KeyPress),
      openAt tree path mode = .ok e₀ →
        let e := e₀.after (keys.map .key)
        e.AtTable → (e.step Chord.first.key).table ≠ e.table →
          (keys.map .key).getLast? = some Chord.first.key) := by
  let tree : Files.Tree :=
    ⟨[([("f" : Text).toBytes], .file 0)], [⟨("A=1\nB=2\n" : Text).toBytes, 0o644⟩], {}⟩
  constructor
  · intro consecutive
    let keys : List KeyPress := [.char 'd', .down]
    have facts : (openAt tree "f" 0o644).map (fun e₀ =>
        let e := e₀.after (keys.map .key)
        (e.asksDelete, (e.step Chord.delete.key).asksDelete)) = .ok (false, true) := by
      decide +kernel
    obtain ⟨e₀, opened, facts⟩ := exists_of_map_eq_ok facts
    rw [Prod.mk.injEq] at facts
    have last := consecutive tree "f" 0o644 e₀ keys opened facts.1 facts.2
    exact absurd last (by decide)
  · intro consecutive
    let keys : List KeyPress := [.char 'g', .down]
    have facts : (openAt tree "f" 0o644).map (fun e₀ =>
        let e := e₀.after (keys.map .key)
        (decide e.AtTable, decide ((e.step Chord.first.key).table ≠ e.table))) =
        .ok (true, true) := by decide +kernel
    obtain ⟨e₀, opened, facts⟩ := exists_of_map_eq_ok facts
    rw [Prod.mk.injEq, decide_eq_true_eq, decide_eq_true_eq] at facts
    have last := consecutive tree "f" 0o644 e₀ keys opened facts.1 facts.2
    exact absurd last (by decide)

end Editor

end VarFile
