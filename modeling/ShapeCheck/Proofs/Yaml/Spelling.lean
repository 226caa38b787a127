import ShapeCheck.Proofs.Json.Value
import ShapeCheck.Proofs.Yaml.Conversion

namespace ShapeCheck

namespace Json

/-- Whether a document has JSON text: its numbers fit, and no object has a key twice. -/
inductive WellFormed : Json → Prop
  | null : WellFormed null
  | bool (b : Bool) : WellFormed (bool b)
  | number {n : WrittenNumber} (fits : n.Fits) : WellFormed (number n)
  | string (s : String) : WellFormed (string s)
  | array {items : List Json} (each : ∀ j ∈ items, WellFormed j) : WellFormed (array items)
  | object {entries : Entries Json} (distinct : entries.keys.Nodup)
      (each : ∀ p ∈ entries, WellFormed p.2) : WellFormed (object entries)

mutual

def toYaml : Json → Yaml
  | null => .null
  | bool b => .bool b
  | number n => .number n
  | string s => .string s
  | array items => .sequence (toYamlItems items)
  | object entries => .mapping (toYamlEntries entries)

def toYamlItems : List Json → List Yaml
  | [] => []
  | j :: rest => j.toYaml :: toYamlItems rest

def toYamlEntries : List (String × Json) → List (Yaml × Yaml)
  | [] => []
  | (key, j) :: rest => (.string key, j.toYaml) :: toYamlEntries rest

end

theorem toYaml_array (items : List Json) : (array items).toYaml = .sequence (items.map toYaml) := by
  rw [toYaml]
  congr 1
  induction items with
  | nil => rw [toYamlItems, List.map_nil]
  | cons j rest ih => rw [toYamlItems, List.map_cons, ih]

theorem toYaml_object (entries : Entries Json) :
    (object entries).toYaml = .mapping (entries.map fun p => (.string p.1, p.2.toYaml)) := by
  rw [toYaml]
  congr 1
  induction entries with
  | nil => rw [toYamlEntries, List.map_nil]
  | cons p rest ih => rw [toYamlEntries, List.map_cons, ih]

end Json

namespace Yaml

mutual

def untagged : Yaml → Yaml
  | sequence items => sequence (untaggedItems items)
  | mapping entries => mapping (untaggedEntries entries)
  | tagged _ content => content.untagged
  | y => y

def untaggedItems : List Yaml → List Yaml
  | [] => []
  | v :: rest => v.untagged :: untaggedItems rest

def untaggedEntries : List (Yaml × Yaml) → List (Yaml × Yaml)
  | [] => []
  | (k, v) :: rest => (k, v.untagged) :: untaggedEntries rest

end

theorem itemsToJson_untagged {items : List Yaml}
    (each : ∀ v ∈ items, v.untagged.toJson = v.toJson) :
    itemsToJson (untaggedItems items) = itemsToJson items := by
  induction items with
  | nil => rw [untaggedItems]
  | cons v rest ih =>
      rw [List.forall_mem_cons] at each
      rw [untaggedItems, itemsToJson, itemsToJson, each.1, ih each.2]

theorem entriesToJson_untagged {entries : List (Yaml × Yaml)}
    (each : ∀ e ∈ entries, e.2.untagged.toJson = e.2.toJson) :
    entriesToJson (untaggedEntries entries) = entriesToJson entries := by
  induction entries with
  | nil => rw [untaggedEntries]
  | cons e rest ih =>
      rw [List.forall_mem_cons] at each
      rw [untaggedEntries, entriesToJson, entriesToJson, each.1, ih each.2]

theorem toJson_untagged (y : Yaml) : y.untagged.toJson = y.toJson := by
  induction y using Yaml.induct with
  | null | bool | number | string => rfl
  | sequence items ih => rw [untagged, toJson, toJson, itemsToJson_untagged ih]
  | mapping entries ih => rw [untagged, toJson, toJson, entriesToJson_untagged ih]
  | tagged tag content ih => rw [untagged, toJson, ih]

theorem finiteNumber_of_fits {n : WrittenNumber} (fits : n.Fits) : finiteNumber n = .ok n := by
  cases n with
  | int n => rfl
  | float x => exact if_pos fits

theorem toJson_toYaml {j : Json} (wellFormed : j.WellFormed) : j.toYaml.toJson = .ok j := by
  induction j using Json.induct with
  | null | bool | string => rfl
  | number n =>
      cases wellFormed with
      | number fits =>
          rw [Json.toYaml, toJson, finiteNumber_of_fits fits]
          rfl
  | array items ih =>
      cases wellFormed with
      | array each =>
          rw [Json.toYaml_array]
          refine toJson_sequence.2 ⟨items, List.forall₂_map_left_iff.2 ?_, rfl⟩
          exact List.forall₂_same.2 fun j member => ih j member (each j member)
  | object entries ih =>
      cases wellFormed with
      | object distinct each =>
          rw [Json.toYaml_object]
          refine toJson_mapping.2 ⟨entries, List.forall₂_map_left_iff.2 ?_, ?_⟩
          · exact List.forall₂_same.2 fun p member => ⟨rfl, ih p member (each p member)⟩
          · rw [Entries.ofList_of_nodup distinct]

theorem toJson_of_untagged {y : Yaml} {j : Json} (wellFormed : j.WellFormed)
    (spelled : y.untagged = j.toYaml) : y.toJson = .ok j := by
  rw [← toJson_untagged, spelled, toJson_toYaml wellFormed]

end Yaml
end ShapeCheck
