import VarFile.Proofs.Document.Algebra
import VarFile.Proofs.Editor.Pending
import VarFile.Proofs.Editor.Summary

/-!
# Adding and renaming variables

A dialog for a new key was opened with the keys that are taken, and is used later. As nothing but
the dialog changes the document meanwhile, the key that it stores under is a valid one without a
value, so that no variable is overwritten, and a value that is moved is found under its new key
(`Editor.nothing_overwritten`). All other variables keep their values and their order
(`Document.KeepsOthers`).
-/

namespace VarFile

/-! ### Other keys -/

namespace Document

open Record (assigns avoids)

variable {d d' : Document} {key : Text} {named : Text → Bool}

private theorem liveEntries_filter_avoids (named : Text → Bool) (rs : List Record) :
    liveEntries (rs.filter (avoids named)) =
      (liveEntries rs).filter fun entry => !named entry.1 := by
  have any {key : Text} (other : named key = false) (rs : List Record) :
      (rs.filter (avoids named)).any (assigns key) = rs.any (assigns key) := by
    rw [List.any_filter]
    congr 1
    funext r
    cases r with
    | raw text => rfl
    | assignment a =>
      rw [avoids, assigns]
      by_cases hk : a.key = key
      · rw [hk, other, Bool.not_false, Bool.true_and]
      · rw [beq_eq_false_iff_ne.2 hk, Bool.and_false]
  induction rs with
  | nil => rfl
  | cons r rs ih =>
    cases r with
    | raw text => exact ih
    | assignment a =>
      rw [liveEntries_cons_assignment, List.filter_append, ← ih, List.filter_cons, avoids]
      cases hn : named a.key with
      | true =>
        have none : (a.value.toList.map (a.key, ·)).filter (fun entry => !named entry.1) = [] := by
          cases a.value <;> simp [hn]
        rw [Bool.not_true, if_neg Bool.false_ne_true]
        split
        · rfl
        · rw [none, List.nil_append]
      | false =>
        have all : (a.value.toList.map (a.key, ·)).filter (fun entry => !named entry.1) =
            a.value.toList.map (a.key, ·) := by
          cases a.value <;> simp [hn]
        rw [Bool.not_false, if_pos rfl, liveEntries_cons_assignment, any hn]
        split
        · rfl
        · rw [all]

/-- All keys but some have the same entries, in the same order, and the same values. -/
structure KeepsOthers (d d' : Document) (named : Text → Bool) : Prop where
  entries : d'.entries.filter (fun entry => !named entry.1) =
    d.entries.filter fun entry => !named entry.1
  value : ∀ key, named key = false → d'.value? key = d.value? key

private theorem keepsOthers_of_filter (same : ∀ q : Record → Bool,
    (∀ key, named key = true → ∀ r, r.assigns key = true → q r = false) →
      d'.records.filter q = d.records.filter q) : d.KeepsOthers d' named := by
  constructor
  case entries =>
    rw [entries, entries, ← liveEntries_filter_avoids, ← liveEntries_filter_avoids,
      same _ fun key hk r => Record.avoids_eq_false hk]
  case value =>
    intro key other
    refine value?_congr (stored?_of_filter (same _ fun k hk r hr => ?_))
    refine Record.assigns_eq_false_of_ne ?_ hr
    rintro rfl
    rw [other] at hk
    cases hk

/-- A key that has a value in well-formed records is valid. -/
theorem isValid_of_mem_keys (well : WellFormed d.records) (h : key ∈ d.keys) :
    Key.isValid key = true := by
  obtain ⟨text, stored⟩ := Option.isSome_iff_exists.1 (mem_keys_iff.1 h)
  exact isValid_of_stored? well.wf stored

end Document

/-! ### Storing and moving a value -/

private theorem Provider.exists_unstorable_of_set {p : Provider} {key value : Text}
    {cause : UpdateError}
    (valid : Key.isValid key = true) (h : (p.set key value).2 = .error cause) :
    ∃ u, cause = .unstorable u := by
  have refused : (p.document.set key (some value)).2 = .error cause := h
  obtain ⟨invalid, -⟩ | ⟨-, v, u, -, -, rfl⟩ := Document.set_eq_error_iff.1 refused
  · rw [valid] at invalid
    cases invalid
  · exact ⟨u, rfl⟩

private theorem Provider.rename_of_value? {p : Provider} {old new value : Text}
    (found : p.document.value? old = .ok (some value)) (valid : Key.isValid new = true)
    (other : new ≠ old) :
    (p.rename old new value).2 = .ok () ∧
      (p.rename old new value).1.document.value? new = .ok (some value) ∧
        old ∉ (p.rename old new value).1.document.keys := by
  obtain ⟨validOld, text, -, reads⟩ := Document.value?_eq_some_iff.1 found
  obtain ⟨same, stored, quoted⟩ := Value.exists_quote_of_unquote reads
  have deleted : (p.delete old).2 = .ok () := Document.unset_eq_ok_iff.2 validOld
  have moved : p.rename old new value = (p.delete old).1.set new value := by
    rw [rename]
    cases hd : p.delete old with
    | mk p' result =>
      rw [hd] at deleted
      cases deleted
      rfl
  have gone : (p.document.unset old).1.stored? old = none := Document.stored?_unset validOld
  rw [moved]
  refine ⟨Document.set_some_eq_ok_iff.2 ⟨valid, stored, quoted⟩, ?_, ?_⟩
  · have there : ((p.document.unset old).1.set new (some value)).1.value? new = _ :=
      Document.value?_set_some valid quoted
    rwa [same] at there
  · have left : ((p.document.unset old).1.set new (some value)).1.stored? old = none := by
      rw [Document.stored?_set_of_ne _ other.symm, gone]
    intro still
    rw [Document.mem_keys_iff] at still
    change (((p.document.unset old).1.set new (some value)).1.stored? old).isSome = true at still
    rw [left] at still
    cases still

namespace Dialog.Makes

variable {d : Dialog} {change : Change} {apply : Provider → Provider × Except UpdateError Unit}
  {p : Provider} {staged : List Staged}

/-- No change is refused for its key. -/
theorem exists_unstorable (makes : d.Makes change apply) (fits : d.Fits p staged)
    (well : Document.WellFormed p.document.records) {cause : UpdateError}
    (h : (apply p).2 = .error cause) : ∃ u, cause = .unstorable u := by
  cases makes with
  | edit => exact Provider.exists_unstorable_of_set (Document.isValid_of_mem_keys well fits.1) h
  | add free => exact Provider.exists_unstorable_of_set (Key.problem?_eq_none_iff.1 free).1 h
  | rename changed free =>
    have found := Document.join_value?_eq_some_iff.1 fits.1
    have accepted := (Provider.rename_of_value? found (Key.problem?_eq_none_iff.1 free).1 changed).1
    cases accepted.symm.trans h
  | @delete key =>
    have accepted : (p.delete key).2 = .ok () :=
      Document.unset_eq_ok_iff.2 (Document.isValid_of_mem_keys well fits)
    cases accepted.symm.trans h

/-- The change of a dialog leaves all keys that it does not name. -/
theorem keepsOthers (makes : d.Makes change apply) (p : Provider) {named : Text → Bool}
    (all : ∀ key, change.concerns key = true → named key = true) :
    p.document.KeepsOthers (apply p).1.document named :=
  Document.keepsOthers_of_filter fun _ others =>
    makes.filter_records p fun key hk => others key (all key hk)

/-- A new variable gets a valid key without a value, and has its value as it is read. -/
theorem of_add {taken : List Text} {key value : Field} {onValue : Bool}
    {refused : Option RefusedKey}
    (makes : (Dialog.add taken key value onValue refused).Makes change apply)
    (fits : (Dialog.add taken key value onValue refused).Fits p staged) :
    let new := Dialog.enteredKey key
    apply = (·.set new value.content) ∧ Key.isValid new = true ∧ new ∉ p.document.keys ∧
      p.document.KeepsOthers (apply p).1.document (· == new) ∧
      ∀ text, Value.quote value.content = .ok text → (apply p).2 = .ok () ∧
        ∃ w, Value.unquote text = .ok w ∧ (apply p).1.document.value? new = .ok (some w) := by
  intro new
  have all : ∀ k, change.concerns k = true → (k == new) = true := by
    cases makes
    intro k hk
    simp only [Change.concerns, reduceCtorEq, decide_false, Bool.or_false, decide_eq_true_eq] at hk
    exact beq_iff_eq.2 hk.symm
  have others := makes.keepsOthers p all
  cases makes with
  | add free =>
    obtain ⟨valid, free⟩ := Key.problem?_eq_none_iff.1 free
    have live : taken = p.document.keys := fits
    rw [live] at free
    refine ⟨rfl, valid, free, others, fun text quoted => ?_⟩
    exact ⟨Document.set_some_eq_ok_iff.2 ⟨valid, text, quoted⟩, _, Value.unquote_quote quoted,
      Document.value?_set_some valid quoted⟩

/-- A variable that is renamed has a value that can be read, which moves to a valid key without a
value. -/
theorem of_rename {old value : Text} {taken : List Text} {renamed : Field}
    {refused : Option RefusedKey}
    (makes : (Dialog.rename old value taken renamed refused).Makes change apply)
    (fits : (Dialog.rename old value taken renamed refused).Fits p staged) :
    let new := Dialog.enteredKey renamed
    apply = (·.rename old new value) ∧ Key.isValid new = true ∧ new ∉ p.document.keys ∧
      p.document.value? old = .ok (some value) ∧ (apply p).2 = .ok () ∧
      (apply p).1.document.value? new = p.document.value? old ∧
      old ∉ (apply p).1.document.keys ∧
      p.document.KeepsOthers (apply p).1.document fun key => key == new || key == old := by
  intro new
  have all : ∀ k, change.concerns k = true → (k == new || k == old) = true := by
    cases makes
    intro k hk
    simp only [Change.concerns, Option.some.injEq, Bool.or_eq_true, decide_eq_true_eq] at hk
    rw [Bool.or_eq_true, beq_iff_eq, beq_iff_eq]
    exact hk.imp Eq.symm Eq.symm
  have others := makes.keepsOthers p all
  cases makes with
  | rename changed free =>
    obtain ⟨valid, free⟩ := Key.problem?_eq_none_iff.1 free
    have found := Document.join_value?_eq_some_iff.1 fits.1
    obtain ⟨accepted, moved, gone⟩ := Provider.rename_of_value? found valid changed
    rw [fits.2, List.mem_filter, not_and] at free
    exact ⟨rfl, valid, fun live => free live (bne_iff_ne.2 changed), found, accepted,
      moved.trans found.symm, gone, others⟩

end Dialog.Makes

namespace Editor

variable {e : Editor} {event : EditorEvent}
  {apply : Provider → Provider × Except UpdateError Unit}

/-- An event that asks for a change comes to a dialog, which makes the change. -/
theorem exists_makes (running : e.status = .running) (within : event.isInside = true)
    (asks : e.request event = .change apply) :
    ∃ d change done, e.dialog = some d ∧ d.Makes change apply ∧
      e.step event = (backToTable { e with notices := [] }).stage change apply done := by
  have effect := effect_step running within
  rw [asks] at effect
  generalize e.step event = e' at effect ⊢
  cases effect with
  | @makes d change _ done dialog makes => exact ⟨d, change, done, dialog, makes, rfl⟩

/-- A change that is not refused for its key is made to the provider; the editor goes on if it was
accepted. -/
theorem provider_stage {change : Change} {done : Text}
    (valid : ∀ cause, (apply e.provider).2 ≠ .error (.invalidKey cause)) :
    (e.stage change apply done).provider = (apply e.provider).1 ∧
      ((apply e.provider).2 = .ok () → (e.stage change apply done).status = e.status) := by
  obtain ⟨-, hs⟩ | ⟨cause, text, refused, hs⟩ | ⟨cause, refused, hs⟩ :=
    e.stage_cases change apply done
  · rw [hs]
    exact ⟨rfl, fun _ => rfl⟩
  · exact absurd refused (valid cause)
  · rw [hs]
    refine ⟨rfl, fun accepted => ?_⟩
    rw [refused] at accepted
    cases accepted

/-- An event of a user that makes a change makes it to what is edited, and the change is not refused
for its key. -/
theorem step_change {tree : Files.Tree} {path : Text} {mode : Int} {e₀ : Editor}
    (opened : openAt tree path mode = .ok e₀) {events : List EditorEvent}
    (inside : ∀ event ∈ events, event.isInside = true) (within : event.isInside = true)
    (running : (e₀.after events).status = .running)
    (asks : (e₀.after events).request event = .change apply) :
    let e := e₀.after events
    ∃ d change, e.dialog = some d ∧ d.Fits e.provider e.staged ∧ d.Makes change apply ∧
      (∀ cause, (apply e.provider).2 ≠ .error (.invalidKey cause)) ∧
      (e.step event).provider = (apply e.provider).1 ∧
      ((apply e.provider).2 = .ok () → (e.step event).status = .running) := by
  intro e
  obtain ⟨coherent, loaded, loads, work⟩ := openAt_eq_ok opened
  obtain ⟨-, -, -, -, -, records⟩ := Storage.isAt_of_loads loads
  have start : e₀.work.Keeps Document.WellFormed := by
    rw [work]
    exact ⟨records, fun s hs => by cases hs⟩
  obtain ⟨shown, well⟩ := invariant_after (C := fun _ => True)
    (Work.keeps_step fun _ key value h => Document.wellFormed_set h key value)
    (fun _ => ⟨coherent, start⟩) inside (fun _ _ => trivial) running
  obtain ⟨d, change, done, dialog, makes, step⟩ := exists_makes running within asks
  have fits := shown.dialog d dialog
  have valid (cause : InvalidKey) : (apply e.provider).2 ≠ .error (.invalidKey cause) := by
    intro refused
    obtain ⟨u, other⟩ := makes.exists_unstorable fits well.1 refused
    cases other
  have staged : ((backToTable { e with notices := [] }).stage change apply done).provider =
      (apply e.provider).1 ∧ _ := provider_stage valid
  rw [← step] at staged
  obtain ⟨made, goesOn⟩ := staged
  exact ⟨d, change, dialog, fits, makes, valid, made, fun accepted =>
    (goesOn accepted).trans running⟩

/-- In every state that a user can reach, no change of a dialog is refused for its key. A new
variable gets a valid key without a value, and has the value that was entered as it is read. A
variable that is renamed has a value that can be read, which moves to a valid key without a value.
All other variables keep their values and their order. -/
theorem nothing_overwritten {tree : Files.Tree} {path : Text} {mode : Int} {e₀ : Editor}
    (opened : openAt tree path mode = .ok e₀) {events : List EditorEvent}
    (inside : ∀ event ∈ events, event.isInside = true) (within : event.isInside = true)
    (running : (e₀.after events).status = .running)
    (asks : (e₀.after events).request event = .change apply) :
    let e := e₀.after events
    let d := e.provider.document
    let e' := e.step event
    let d' := e'.provider.document
    (∀ cause, (apply e.provider).2 ≠ .error (.invalidKey cause)) ∧
      (∀ taken key value onValue refused, e.dialog = some (.add taken key value onValue refused) →
        let new := Dialog.enteredKey key
        apply = (·.set new value.content) ∧ Key.isValid new = true ∧ new ∉ d.keys ∧
          d.KeepsOthers d' (· == new) ∧
          ∀ text, Value.quote value.content = .ok text → e'.status = .running ∧
            ∃ w, Value.unquote text = .ok w ∧ d'.value? new = .ok (some w)) ∧
      ∀ old value taken renamed refused,
        e.dialog = some (.rename old value taken renamed refused) →
          let new := Dialog.enteredKey renamed
          apply = (·.rename old new value) ∧ Key.isValid new = true ∧ new ∉ d.keys ∧
            d.value? old = .ok (some value) ∧ e'.status = .running ∧
            d'.value? new = d.value? old ∧ old ∉ d'.keys ∧
            d.KeepsOthers d' fun key => key == new || key == old := by
  intro e d e' d'
  obtain ⟨dialog, change, there, fits, makes, valid, made, goesOn⟩ :=
    step_change opened inside within running asks
  have same : d' = (apply e.provider).1.document := congrArg Provider.document made
  refine ⟨valid, fun taken key value onValue refused shown => ?_,
    fun old value taken renamed refused shown => ?_⟩
  · obtain rfl : dialog = .add taken key value onValue refused :=
      Option.some.inj (there.symm.trans shown)
    obtain ⟨applied, validKey, free, others, stored⟩ := makes.of_add fits
    rw [← same] at others stored
    refine ⟨applied, validKey, free, others, fun text quoted => ?_⟩
    obtain ⟨accepted, found⟩ := stored text quoted
    exact ⟨goesOn accepted, found⟩
  · obtain rfl : dialog = .rename old value taken renamed refused :=
      Option.some.inj (there.symm.trans shown)
    obtain ⟨applied, validKey, free, found, accepted, moved, gone, others⟩ := makes.of_rename fits
    rw [← same] at moved gone others
    exact ⟨applied, validKey, free, found, goesOn accepted, moved, gone, others⟩

/-- A key is moved over a filter that does not show the others, behind one that was deleted. -/
theorem nothing_overwritten_filtered :
    let tree : Files.Tree :=
      ⟨[([("f" : Text).toBytes], .file 0)], [⟨("C=0\nB=1\nA='x'\n" : Text).toBytes, 0o644⟩], {}⟩
    let key (c : Char) : EditorEvent := .key (.char (.ofChar c))
    let events : List EditorEvent := [key 'd', key 'd', key 'y', key '/', .fill .search "a",
      .key .enter, key 'r', .fill .renamedKey " C "]
    ∃ e, openAt tree "f" 0o644 = .ok e ∧
      let d := ((e.after events).step (.key .enter)).provider.document
      d.value? "C" = .ok (some "x") ∧ ("A" : Text) ∉ d.keys ∧
        d.entries.filter (fun entry => !(entry.1 == ("C" : Text) || entry.1 == ("A" : Text))) =
          [(("B" : Text), ("1" : Text))] := by
  intro tree key events
  let renamed : Field := (Field.ofText "A").fill " C "
  have facts : (openAt tree "f" 0o644).map (fun e =>
      let e := e.after events
      (e.status, e.dialog, e.provider.document.entries)) =
      .ok (.running, some (.rename "A" "x" ["B"] renamed none),
        [(("B" : Text), ("1" : Text)), (("A" : Text), ("'x'" : Text))]) := by decide +kernel
  obtain ⟨e, opened, facts⟩ := exists_of_map_eq_ok facts
  rw [Prod.mk.injEq, Prod.mk.injEq] at facts
  obtain ⟨running, dialog, before⟩ := facts
  have inside : ∀ event ∈ events, event.isInside = true := by decide
  have entered : Dialog.enteredKey renamed = "C" := by decide +kernel
  have asks : (e.after events).request (.key .enter) = .change (·.rename "A" "C" "x") := by
    rw [request, dialog, ← entered]
    rfl
  have within : EditorEvent.isInside (.key .enter) = true := rfl
  obtain ⟨-, -, renames⟩ := nothing_overwritten opened inside within running asks
  obtain ⟨-, -, -, found, -, moved, gone, others⟩ := renames _ _ _ _ _ dialog
  rw [entered] at moved others
  refine ⟨e, opened, moved.trans found, gone, others.entries.trans ?_⟩
  rw [before]
  decide +kernel

end Editor

end VarFile
