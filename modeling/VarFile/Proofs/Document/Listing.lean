import Mathlib.Data.List.Forall2
import VarFile.Proofs.Document.Lookup
import VarFile.Variable

/-!
# Listing a document

The lists of a document name each key that has a stored text once, in the order of the records that
count (`Document.exists_positions`), and give what a look-up of the key gives (`Document.listed`).
-/

namespace VarFile

namespace Document

open Record (assigns)

variable {d : Document} {rs : List Record} {key text : Text}

/-! ### Positions -/

/-- The record at a position assigns a key, and none behind it does. -/
def IsLastAt (rs : List Record) (key : Text) (i : Nat) : Prop :=
  rs[i]?.any (assigns key) = true ∧ (rs.drop (i + 1)).any (assigns key) = false

instance (rs : List Record) (key : Text) (i : Nat) : Decidable (IsLastAt rs key i) :=
  inferInstanceAs (Decidable (_ ∧ _))

private theorem isLastAt_succ (r : Record) (rs : List Record) (key : Text) (i : Nat) :
    IsLastAt (r :: rs) key (i + 1) ↔ IsLastAt rs key i := by
  rw [IsLastAt, IsLastAt, List.getElem?_cons_succ, List.drop_succ_cons]

private theorem isLastAt_zero (a : Assignment) (h : rs.any (assigns a.key) = false) :
    IsLastAt (.assignment a :: rs) a.key 0 := by
  constructor
  · simp [assigns]
  · simpa using h

/-- The entries stand in the order of the last assignments of their keys. -/
theorem exists_positions (rs : List Record) :
    ∃ positions : List Nat, List.Forall₂ (IsLastAt rs) ((liveEntries rs).map Prod.fst) positions ∧
      positions.Pairwise (· < ·) := by
  induction rs with
  | nil => exact ⟨[], .nil, .nil⟩
  | cons r rs ih =>
    obtain ⟨positions, placed, increasing⟩ := ih
    have moved : List.Forall₂ (IsLastAt (r :: rs)) ((liveEntries rs).map Prod.fst)
        (positions.map (· + 1)) := by
      rw [List.forall₂_map_right_iff]
      exact placed.imp fun key i h => (isLastAt_succ r rs key i).2 h
    have still : (positions.map (· + 1)).Pairwise (· < ·) := by
      rw [List.pairwise_map]
      exact increasing.imp fun h => Nat.succ_lt_succ h
    cases r with
    | raw text => exact ⟨_, moved, still⟩
    | assignment a =>
      rw [liveEntries_cons_assignment]
      by_cases later : rs.any (assigns a.key) = true
      · rw [if_pos later, List.nil_append]
        exact ⟨_, moved, still⟩
      · rw [if_neg later]
        cases hv : a.value with
        | none => exact ⟨_, moved, still⟩
        | some text =>
          refine ⟨0 :: positions.map (· + 1),
            .cons (isLastAt_zero a (Bool.eq_false_iff.2 later)) moved,
            List.pairwise_cons.2 ⟨fun i hi => ?_, still⟩⟩
          obtain ⟨j, -, rfl⟩ := List.mem_map.1 hi
          exact Nat.succ_pos j

/-! ### Entries -/

private theorem any_assigns_of_mem (h : key ∈ (liveEntries rs).map Prod.fst) :
    rs.any (assigns key) = true := by
  have found : key ∈ keys { fileName := [], records := rs } := h
  rw [mem_keys_iff, stored?] at found
  by_contra none
  rw [lastAssignment?_eq_none_iff.2 (Bool.eq_false_iff.2 none)] at found
  cases found

/-- No key has two entries. -/
theorem nodup_liveEntries (rs : List Record) : ((liveEntries rs).map Prod.fst).Nodup := by
  induction rs with
  | nil => exact List.nodup_nil
  | cons r rs ih =>
    cases r with
    | raw text => exact ih
    | assignment a =>
      rw [liveEntries_cons_assignment]
      by_cases later : rs.any (assigns a.key) = true
      · rw [if_pos later, List.nil_append]
        exact ih
      · rw [if_neg later]
        cases a.value with
        | none => exact ih
        | some text => exact List.nodup_cons.2 ⟨fun h => later (any_assigns_of_mem h), ih⟩

private theorem lookup_of_mem {entries : List (Text × Text)} (h : (entries.map Prod.fst).Nodup)
    {entry : Text × Text} (he : entry ∈ entries) : entries.lookup entry.1 = some entry.2 := by
  induction entries with
  | nil => cases he
  | cons first entries ih =>
    rw [List.map_cons, List.nodup_cons] at h
    rw [List.lookup_cons]
    rcases List.mem_cons.1 he with rfl | he
    · rw [beq_self_eq_true]
    · have other : entry.1 ≠ first.1 := by
        intro same
        exact h.1 (same ▸ List.mem_map_of_mem he)
      rw [beq_false_of_ne other]
      exact ih h.2 he

private theorem stored?_of_mem_entries {entry : Text × Text} (h : entry ∈ d.entries) :
    d.stored? entry.1 = some entry.2 := by
  rw [stored?_eq_lookup]
  exact lookup_of_mem (nodup_liveEntries d.records) h

/-! ### The lists -/

/-- The keys of the variables are those that have a value. -/
theorem map_key_variableList : d.variableList.map (·.key) = d.keys := by
  rw [variableList, keys, List.map_map]
  refine List.map_congr_left fun entry _ => ?_
  rw [Function.comp_apply, Variable.ofEntry]
  split <;> rfl

/-- A variable shows the value of its key, or the stored text if this stands for none. -/
theorem variable_cases (hk : ∀ key ∈ d.keys, Key.isValid key = true) {v : Variable}
    (hv : v ∈ d.variableList) :
    (v.malformed = false ∧ d.value? v.key = .ok (some v.value)) ∨
      (v.malformed = true ∧ d.value? v.key = .ok none ∧ d.text? v.key = .ok (some v.value)) := by
  obtain ⟨entry, he, rfl⟩ := List.mem_map.1 hv
  have valid : Key.isValid entry.1 = true := hk _ (List.mem_map_of_mem he)
  have stored := stored?_of_mem_entries he
  have value := value?_of_stored? valid stored
  rw [Variable.ofEntry]
  cases hu : Value.unquote entry.2 with
  | ok w =>
    rw [hu] at value
    exact .inl ⟨rfl, value⟩
  | error cause =>
    rw [hu] at value
    exact .inr ⟨rfl, value, text?_eq_some_iff.2 ⟨valid, stored⟩⟩

/-- What the lists of a document say of its keys. -/
structure Listed (d : Document) : Prop where
  nodup : d.keys.Nodup
  mem_iff : ∀ key, key ∈ d.keys ↔ ∃ text, d.text? key = .ok (some text)
  contains_iff : ∀ key, key ∈ d.keys ↔ d.contains key = .ok true
  /-- The keys stand in the order of their last assignments. -/
  ordered : ∃ positions : List Nat,
    List.Forall₂ (IsLastAt d.records) d.keys positions ∧ positions.Pairwise (· < ·)
  entries : d.entries.map (fun entry => (entry.1, Except.ok (some entry.2))) =
    d.keys.map fun key => (key, d.text? key)
  shown : d.variableList.map (·.key) = d.keys
  malformed_iff : ∀ v ∈ d.variableList, v.malformed = true ↔ d.value? v.key = .ok none
  readable : ∀ v ∈ d.variableList, v.malformed = false → d.value? v.key = .ok (some v.value)
  malformed : ∀ v ∈ d.variableList, v.malformed = true → d.text? v.key = .ok (some v.value)

/-- A document whose keys are valid lists what is found when these are looked up. -/
theorem listed (valid : ∀ a, .assignment a ∈ d.records → Key.isValid a.key = true) :
    d.Listed := by
  have found (key : Text) : key ∈ d.keys ↔ ∃ text, d.text? key = .ok (some text) := by
    simp only [text?_eq_some_iff, mem_keys_iff, Option.isSome_iff_exists]
    refine exists_congr fun text => ⟨fun hs => ⟨?_, hs⟩, And.right⟩
    obtain ⟨a, mem, rfl, -⟩ := exists_assignment_of_stored? hs
    exact valid a mem
  have keysValid (key : Text) (h : key ∈ d.keys) : Key.isValid key = true := by
    obtain ⟨text, ht⟩ := (found key).1 h
    exact (text?_eq_some_iff.1 ht).1
  constructor
  case nodup => exact nodup_liveEntries d.records
  case mem_iff => exact found
  case contains_iff =>
    intro key
    rw [found key, contains]
    rcases d.text? key with cause | _ | text <;> simp [Except.map]
  case ordered => exact exists_positions d.records
  case entries =>
    rw [keys, List.map_map]
    refine List.map_congr_left fun entry he => ?_
    have hk := keysValid entry.1 (List.mem_map_of_mem he)
    rw [Function.comp_apply, text?_of_isValid d hk, stored?_of_mem_entries he]
  case shown => exact map_key_variableList
  case malformed_iff =>
    intro v hv
    rcases variable_cases keysValid hv with ⟨hm, value⟩ | ⟨hm, none, -⟩
    · simp [hm, value]
    · exact iff_of_true hm none
  case readable =>
    intro v hv hm
    rcases variable_cases keysValid hv with ⟨-, value⟩ | ⟨hm', -⟩
    · exact value
    · rw [hm] at hm'
      cases hm'
  case malformed =>
    intro v hv hm
    rcases variable_cases keysValid hv with ⟨hm', -⟩ | ⟨-, -, stored⟩
    · rw [hm] at hm'
      cases hm'
    · exact stored

/-- A duplicate, a key that was deleted, one that is indented and not readable, and a raw line. -/
theorem listed_duplicate :
    let d : Document :=
      { fileName := "f"
        records := [.assignment ⟨"A", "A", some "1"⟩, .raw "# c", .assignment ⟨"B", "B", none⟩,
          .assignment ⟨" C", "C", some "(x"⟩, .assignment ⟨"A", "A", some "'2'"⟩] }
    (∀ a, .assignment a ∈ d.records → Key.isValid a.key = true) ∧ d.Listed ∧
      d.keys = ["C", "A"] ∧
      d.variableList = [⟨"C", "(x", true⟩, ⟨"A", "2", false⟩] := by
  intro d
  have valid : ∀ a, .assignment a ∈ d.records → Key.isValid a.key = true := by
    intro a ha
    simp only [d, List.mem_cons, Record.assignment.injEq, reduceCtorEq, List.not_mem_nil, or_false,
      false_or] at ha
    rcases ha with rfl | rfl | rfl | rfl <;> decide
  exact ⟨valid, listed valid, by decide +kernel, by decide +kernel⟩

end Document

end VarFile
