import ShapeCheck.DocumentCheck
import ShapeCheck.Proofs.Json.Inclusion
import ShapeCheck.Proofs.Yaml.Reading
import ShapeCheck.Proofs.Yaml.Spelling
import Mathlib.Data.String.Basic

namespace ShapeCheck

theorem fromUTF8?_toUTF8 (s : String) : String.fromUTF8? s.toUTF8 = some s :=
  dif_pos s.isValidUTF8

namespace Document

theorem splitOnAux_slash {rest : List Char} (plain : '/' ∉ rest) (before : List Char) :
    (String.ofList (before ++ rest)).splitOnAux "/" 0 ⟨String.utf8Len before⟩ 0 [] =
      [String.ofList (before ++ rest)] := by
  induction rest generalizing before with
  | nil =>
      rw [String.splitOnAux, if_pos ((String.atEnd_of_valid before []).2 rfl)]
      simpa using String.extract_of_valid [] before []
  | cons c cs ih =>
      rw [List.mem_cons, not_or] at plain
      have more : ¬ String.Pos.Raw.atEnd (String.ofList (before ++ c :: cs))
          ⟨String.utf8Len before⟩ = true := by
        rw [String.atEnd_of_valid]
        exact List.cons_ne_nil c cs
      have differs : ¬ (c == String.Pos.Raw.get "/" 0) = true := by
        rw [beq_iff_eq]
        exact Ne.symm plain.1
      have next := ih plain.2 (before ++ [c])
      rw [List.append_assoc, List.singleton_append, String.utf8Len_append, String.utf8Len_cons,
        String.utf8Len_nil, Nat.zero_add] at next
      rw [String.splitOnAux, if_neg more, String.get_of_valid, List.headD_cons, if_neg differs,
        String.Pos.Raw.unoffsetBy_zero, String.next_of_valid]
      exact next

theorem fileName_of_plain {path : String} (plain : '/' ∉ path.toList) (nonempty : path ≠ "")
    (named : path ≠ ".") : fileName path = path := by
  have whole := splitOnAux_slash plain []
  rw [List.nil_append, String.ofList_toList] at whole
  have split : path.splitOn "/" = [path] := by
    rw [String.splitOn, if_neg (by decide)]
    exact whole
  simp [fileName, split, nonempty, named]

/-- Whether the file under a path is text of a document, in the format that the path stands for. -/
def Spells (files : Files) (path : String) (j : Json) : Prop :=
  ∃ text, (files path).bind String.fromUTF8? = some text ∧
    if isYaml path then ∃ y, Yaml.read? text = some y ∧ y.untagged = j.toYaml
    else Json.read? text = some j

theorem load_of_spells {files : Files} {path : String} {j : Json} (wellFormed : j.WellFormed)
    (spelled : Spells files path j) : load files path = .ok j := by
  obtain ⟨text, content, spelled⟩ := spelled
  have read : ofText path text = .ok j := by
    rw [ofText]
    split at spelled
    next yaml =>
      obtain ⟨y, read, image⟩ := spelled
      rw [if_pos yaml, read]
      dsimp only
      rw [Yaml.toJson_of_untagged wellFormed image]
      rfl
    next json => rw [if_neg json, spelled]
  rw [load, content]
  dsimp only
  rw [read]
  rfl

end Document

namespace DocumentCheck

theorem exists_verdict (s d : Json) :
    let model := s.toValue.run Class.firstFree
    let v := (d.toValue.run model.2).1
    ∃ rule, Schema.compileValue model.1 = .ok rule ∧ (rule.check v = .conforms ↔ s.Included d) ∧
      verdict s d = .ok (rule.check v) := by
  intro model v
  obtain ⟨rule, compiled, demands, -⟩ :=
    Json.compileValue_demands s model.1 (Json.represents_toValue s Class.firstFree)
  refine ⟨rule, compiled, demands d v (Json.represents_toValue d model.2), ?_⟩
  change (Schema.compileValue model.1 >>= fun rule => pure (rule.check v)) = _
  rw [compiled]
  rfl

/-- Whatever tags are put around the values of the image of a document in YAML, it is converted to
that document. So one document is checked against another with a verdict that does not depend on the
formats of their files. -/
theorem run_of_spelled :
    (∀ (j : Json) (y : Yaml), j.WellFormed → y.untagged = j.toYaml → y.toJson = .ok j) ∧
      ∀ s d : Json, s.WellFormed → d.WellFormed → ∃ v, verdict s d = .ok v ∧
        ∀ (files : Document.Files) (c : DocumentCheck), Document.Spells files c.schemaPath s →
          Document.Spells files c.documentPath d → run files c = .ok v := by
  refine ⟨fun j y => Yaml.toJson_of_untagged, fun s d wellFormedS wellFormedD => ?_⟩
  obtain ⟨rule, -, -, judged⟩ := exists_verdict s d
  refine ⟨_, judged, fun files c spelledS spelledD => ?_⟩
  rw [run, Document.load_of_spells wellFormedS spelledS, Document.load_of_spells wellFormedD spelledD]
  change (verdict s d).mapError (Error.schema c.schemaPath) = .ok _
  rw [judged]
  rfl

def bothFormats : Document.Files
  | "d" => some "\x7b\"k\":[\"x\"]\x7d".toUTF8
  | "d.yml" => some "k: [!t x]".toUTF8
  | _ => none

theorem read?_tagged_item : Yaml.read? "k: [!t x]" =
    some (.mapping [(.string "k", .sequence [.tagged "t" (.string "x")])]) := by
  let node : Yaml.Node :=
    .mapping {} [(.scalar {} "k" true, .sequence {} [.scalar { tag := some "!t" } "x" true])]
  have split : Yaml.tokens? "k: [!t x]" = some [.blockMappingStart, .key, .scalar "k" true, .value,
      .flowSequenceStart, .tag "!" [some 't'], .scalar "x" true, .flowSequenceEnd, .blockEnd] := by
    decide +kernel
  have valued : node.value? =
      some (.mapping [(.string "k", .sequence [.tagged "t" (.string "x")])]) := by
    rw [Yaml.Node.value?, show Yaml.Node.depthLimit = 125 + 1 + 1 + 1 from rfl,
      Yaml.Node.expand_mapping]
    simp only [List.mapM_cons, List.mapM_nil, Yaml.Node.expand_scalar, Yaml.Node.expand_sequence]
    rfl
  rw [Yaml.read?, split]
  exact valued

theorem run_bothFormats_swapped :
    (Yaml.mapping [(.string "k", .sequence [.tagged "t" (.string "x")])]).toJson =
        .ok (.object [("k", .array [.string "x"])]) ∧
      run bothFormats ⟨"d", "d.yml"⟩ = run bothFormats ⟨"d.yml", "d"⟩ := by
  let j : Json := .object [("k", .array [.string "x"])]
  have wellFormed : j.WellFormed := by
    refine .object (List.nodup_singleton _) ?_
    rw [List.forall_mem_singleton]
    refine .array ?_
    rw [List.forall_mem_singleton]
    exact .string "x"
  have plain : Document.Spells bothFormats "d" j := by
    have json : Document.isYaml "d" = false := by
      rw [Document.isYaml, Document.extension?,
        Document.fileName_of_plain (by decide) (by decide) (by decide)]
      decide
    refine ⟨_, fromUTF8?_toUTF8 _, ?_⟩
    rw [if_neg (by rw [json]; decide)]
    rfl
  have tagged : Document.Spells bothFormats "d.yml" j := by
    have yaml : Document.isYaml "d.yml" = true := by
      rw [Document.isYaml, Document.extension?,
        Document.fileName_of_plain (by decide) (by decide) (by decide)]
      decide
    refine ⟨_, fromUTF8?_toUTF8 _, ?_⟩
    rw [if_pos yaml]
    exact ⟨_, read?_tagged_item, rfl⟩
  obtain ⟨converted, judged⟩ := run_of_spelled
  obtain ⟨v, -, ran⟩ := judged j j wellFormed wellFormed
  exact ⟨converted j _ wellFormed rfl,
    (ran _ ⟨"d", "d.yml"⟩ plain tagged).trans (ran _ ⟨"d.yml", "d"⟩ tagged plain).symm⟩

end DocumentCheck
end ShapeCheck
