import Mathlib.Data.List.Nodup
import VarFile.Log.Line

/-!
# Events in the log

An event can be told from the name and the fields that are logged for it (`Log.Event.eq_of_fields`).
The object in its line has each of its fields, its name, its logger and its level as the only member
of that name (`Log.Event.exists_members`).
-/

namespace VarFile

private theorem Json.member?_of_mem {members : List (Text × Json)} {name : Text} {v : Json}
    (nodup : (members.map (·.1)).Nodup) (h : (name, v) ∈ members) :
    member? members name = some v := by
  cases found : members.reverse.find? (·.1 == name) with
  | none =>
    have other := List.find?_eq_none.1 found (name, v) (List.mem_reverse.2 h)
    simp at other
  | some entry =>
    have there := List.mem_reverse.1 (List.mem_of_find?_eq_some found)
    have same : entry.1 = name := by simpa using List.find?_some found
    rw [member?, found, List.inj_on_of_nodup_map nodup there h same]
    rfl

namespace Log.Event

/-- An event can be told from its name and its fields. -/
theorem eq_of_fields {e e' : Event} (name : e.name = e'.name) (fields : e.fields = e'.fields) :
    e = e' := by
  -- Only events of one kind have one name.
  cases e <;> cases e' <;> first
    | exact absurd name (by rw [Event.name, Event.name]; decide)
    | simpa [Event.fields] using fields

/-- The members of the object that is logged for an event. -/
def members (e : Event) : List (Text × Json) :=
  (e.fields.map fun (name, value) => (name, value.json)) ++
    [(("event" : Text), Json.string e.name), ("logger", .string e.logger),
      ("level", .string e.level.name)]

private theorem nodup_members (e : Event) : (e.members.map (·.1)).Nodup := by
  have names : e.members.map (·.1) =
      e.fields.map (·.1) ++ (["event", "logger", "level"] : List Text) := by
    simp [members]
  rw [names]
  cases e <;> (simp only [fields, List.map_cons, List.map_nil]; decide)

/-- The object in the line of an event tells its fields, its name, its logger and its level. -/
theorem exists_members (e : Event) :
    ∃ members, e.line = (Json.object members).compact ∧
      (∀ name value, (name, value) ∈ e.fields →
        Json.member? members name = some value.json) ∧
      Json.member? members "event" = some (.string e.name) ∧
      Json.member? members "logger" = some (.string e.logger) ∧
      Json.member? members "level" = some (.string e.level.name) := by
  have told {name : Text} {v : Json} (h : (name, v) ∈ e.members) :
      Json.member? e.members name = some v :=
    Json.member?_of_mem e.nodup_members h
  refine ⟨e.members, rfl, fun name value h => told ?_, told ?_, told ?_, told ?_⟩
  · exact List.mem_append_left _ (List.mem_map_of_mem h)
  all_goals exact List.mem_append_right _ (by simp)

end Log.Event

end VarFile
