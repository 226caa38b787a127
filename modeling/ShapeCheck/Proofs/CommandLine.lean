import ShapeCheck.CommandLine
import ShapeCheck.Proofs.DocumentCheck
import ShapeCheck.Proofs.Schema.Failures

/-!
# What the command line comes to

A check loads the schema, then the document, and then compares: `DocumentCheck.Ends` lists how it
can end, and it never ends with a schema at fault (`DocumentCheck.ends_run`). The exit code and the
output follow from that, whatever arguments ask for the check (`CommandLine.run_of_check`).
-/

namespace ShapeCheck

namespace DocumentCheck

/-- How a check ends: with the first of the two files that does not load, or with a verdict. -/
inductive Ends (files : Document.Files) (c : DocumentCheck) : Except Error Verdict → Prop
  | noSchema {e : Document.Error} (schema : Document.load files c.schemaPath = .error e) :
      Ends files c (.error (.document e))
  | noDocument {s : Json} {e : Document.Error} (schema : Document.load files c.schemaPath = .ok s)
      (document : Document.load files c.documentPath = .error e) :
      Ends files c (.error (.document e))
  | conforms {s d : Json} (schema : Document.load files c.schemaPath = .ok s)
      (document : Document.load files c.documentPath = .ok d) (included : s.Included d) :
      Ends files c (.ok .conforms)
  | fails {s d : Json} {m : Mismatch} (schema : Document.load files c.schemaPath = .ok s)
      (document : Document.load files c.documentPath = .ok d) (missing : ¬ s.Included d) :
      Ends files c (.ok (.fails m))

theorem verdict_of_included (s d : Json) :
    verdict s d = .ok .conforms ∧ s.Included d ∨
      ∃ m, verdict s d = .ok (.fails m) ∧ ¬ s.Included d := by
  obtain ⟨rule, compiled, accepted, judged⟩ := exists_verdict s d
  rw [judged]
  generalize (d.toValue.run (s.toValue.run Class.firstFree).2).1 = v at accepted
  have tells := Schema.reports_collectValue compiled v
  cases ending : rule.check v with
  | conforms => exact .inl ⟨rfl, accepted.1 ending⟩
  | fails m => exact .inr ⟨m, rfl, fun included => by simp [accepted.2 included] at ending⟩
  | breaks payload => exact absurd ending (tells.ne_breaks payload)

theorem ends_run (files : Document.Files) (c : DocumentCheck) : Ends files c (run files c) := by
  rw [run]
  cases schema : Document.load files c.schemaPath with
  | error e => exact .noSchema schema
  | ok s =>
      cases document : Document.load files c.documentPath with
      | error e => exact .noDocument schema document
      | ok d =>
          change Ends files c ((verdict s d).mapError (.schema c.schemaPath))
          rcases verdict_of_included s d with ⟨judged, included⟩ | ⟨m, judged, missing⟩
          · rw [judged]
            exact .conforms schema document included
          · rw [judged]
            exact .fails schema document missing

end DocumentCheck

namespace CommandLine

def printed : Except DocumentCheck.Error Verdict → String
  | .ok .conforms => "ok\n"
  | .ok (.fails m) => m.message ++ "\n"
  | .ok (.breaks _) | .error _ => ""

def arguments (c : DocumentCheck) (quiet : Bool) : List String :=
  ["check", "--schema=" ++ c.schemaPath, "--document=" ++ c.documentPath] ++
    if quiet then ["--quiet"] else []

theorem ofFlag?_assignment (option : PathOption) (path : String) :
    PathOption.ofFlag? (option.flag ++ "=" ++ path) = none := by
  have long (other : PathOption) : (other.flag == option.flag ++ "=" ++ path) = false := by
    rw [beq_eq_false_iff_ne, ne_eq, ← String.toList_inj]
    cases other <;> cases option <;> simp [PathOption.flag]
  simp [PathOption.ofFlag?, long]

theorem ofAssignment?_assignment (option : PathOption) (path : String) :
    PathOption.ofAssignment? (option.flag ++ "=" ++ path) = some (option, path) := by
  have own : (option.flag ++ "=").toList.isPrefixOf (option.flag ++ "=" ++ path).toList = true := by
    simp
  have rest : String.ofList ((option.flag ++ "=" ++ path).toList.drop (option.flag.length + 1)) =
      path := by
    have sized : option.flag.length + 1 = (option.flag ++ "=").toList.length := by
      rw [String.length_toList, String.length_append]
      rfl
    rw [String.toList_append, sized, List.drop_left, String.ofList_toList]
  cases option with
  | schema => rw [PathOption.ofAssignment?, List.findSome?_cons, if_pos own, rest]
  | document =>
      have other : ¬ (PathOption.schema.flag ++ "=").toList.isPrefixOf
          (PathOption.document.flag ++ "=" ++ path).toList = true := by
        simp [PathOption.flag]
      rw [PathOption.ofAssignment?, List.findSome?_cons, if_neg other, List.findSome?_cons,
        if_pos own, rest]

theorem readCheck?_assignment {o o' : Options} {option : PathOption} {path : String}
    (set : o.set? option path = some o') (rest : List String) :
    readCheck? o ((option.flag ++ "=" ++ path) :: rest) = readCheck? o' rest := by
  have read : readFlag? o (option.flag ++ "=" ++ path) = some (.ok o') := by
    rw [readFlag?, ofAssignment?_assignment]
    simp [set]
  rw [readCheck?, ofFlag?_assignment]
  · simp [read]
  · intro same
    rw [← String.toList_inj] at same
    cases option <;> simp [PathOption.flag] at same

theorem command?_arguments {c : DocumentCheck} (schema : c.schemaPath ≠ "")
    (document : c.documentPath ≠ "") (quiet : Bool) :
    command? (arguments c quiet) = some (.check c quiet) := by
  have first : Options.set? {} .schema c.schemaPath = some { schema := some c.schemaPath } := by
    rw [Options.set?, if_neg (by simpa using schema)]
    rfl
  have second : Options.set? { schema := some c.schemaPath } .document c.documentPath =
      some { schema := some c.schemaPath, document := some c.documentPath } := by
    rw [Options.set?, if_neg (by simpa using document)]
    rfl
  change readCheck? {} ((PathOption.schema.flag ++ "=" ++ c.schemaPath) ::
    (PathOption.document.flag ++ "=" ++ c.documentPath) :: _) = _
  rw [readCheck?_assignment first, readCheck?_assignment second]
  cases quiet <;> rfl

/-- A check exits with 0 when the document conforms and else with 1, and prints its verdict unless
it is quiet. Without a verdict it prints nothing and complains. -/
theorem run_of_check (files : Document.Files) (c : DocumentCheck) :
    c.Ends files (c.run files) ∧
      (∀ path e, c.run files ≠ .error (.schema path e)) ∧
      ∀ args quiet, command? args = some (.check c quiet) →
        ((run files args).code = 0 ↔ c.run files = .ok .conforms) ∧
        ((run files args).code = 0 ∨ (run files args).code = 1) ∧
        (run files args).output = (if quiet then "" else printed (c.run files)) ∧
        ((run files args).complaint = "" ↔ ∃ v, c.run files = .ok v) := by
  have ends := c.ends_run files
  refine ⟨ends, ?_, fun args quiet asked => ?_⟩
  · intro path e wrong
    rw [wrong] at ends
    cases ends
  have ran : run files args = (Command.check c quiet).run files := by rw [run, asked]
  rw [ran, Command.run]
  generalize c.run files = ending at ends
  cases ends with
  | noSchema => cases quiet <;> simp [printed]
  | noDocument => cases quiet <;> simp [printed]
  | conforms => cases quiet <;> simp [printed, ofVerdict]
  | fails => cases quiet <;> simp [printed, ofVerdict]

def oneItem : Document.Files
  | "a" => some "[\"x\"]".toUTF8
  | "b" => some "[\"y\"]".toUTF8
  | _ => none

theorem run_of_check_oneItem :
    ((run oneItem (arguments ⟨"a", "b"⟩ false)).code = 1 ∧
      (run oneItem (arguments ⟨"a", "b"⟩ false)).output =
        "[0] expected String x, got String y\n") ∧
      (run oneItem (arguments ⟨"a", "c"⟩ false)).code = 1 ∧
      (run oneItem (arguments ⟨"a", "c"⟩ false)).output = "" := by
  have loaded {path text : String} {j : Json} (content : oneItem path = some text.toUTF8)
      (json : Document.isYaml path = false) (read : Json.read? text = some j) :
      Document.load oneItem path = .ok j := by
    rw [Document.load, content, Option.bind_some, fromUTF8?_toUTF8]
    dsimp only
    rw [Document.ofText, json, if_neg Bool.false_ne_true, read]
    rfl
  have json (path : String) (named : path = "a" ∨ path = "b") : Document.isYaml path = false := by
    rcases named with rfl | rfl <;>
      rw [Document.isYaml, Document.extension?,
        Document.fileName_of_plain (by decide) (by decide) (by decide)] <;>
      decide
  have first : Document.load oneItem "a" = .ok (.array [.string "x"]) :=
    loaded rfl (json _ (.inl rfl)) rfl
  have second : Document.load oneItem "b" = .ok (.array [.string "y"]) :=
    loaded rfl (json _ (.inr rfl)) rfl
  have differs : DocumentCheck.run oneItem ⟨"a", "b"⟩ =
      .ok (.fails ⟨["0"], "expected String x, got String y"⟩) := by
    rw [DocumentCheck.run, first, second]
    rfl
  have absent : DocumentCheck.run oneItem ⟨"a", "c"⟩ = .error (.document ⟨"c", .unreadable⟩) := by
    rw [DocumentCheck.run, first]
    rfl
  have asked (path : String) (named : path ≠ "") :=
    command?_arguments (c := ⟨"a", path⟩) (by simp) named false
  obtain ⟨-, -, told⟩ := run_of_check oneItem ⟨"a", "b"⟩
  obtain ⟨zero, code, output, -⟩ := told _ _ (asked "b" (by simp))
  obtain ⟨-, -, told'⟩ := run_of_check oneItem ⟨"a", "c"⟩
  obtain ⟨zero', code', output', -⟩ := told' _ _ (asked "c" (by simp))
  rw [differs] at zero output
  rw [absent] at zero' output'
  have mismatch := code.resolve_left fun none => by simpa using zero.1 none
  have failure := code'.resolve_left fun none => by simpa using zero'.1 none
  refine ⟨⟨mismatch, output.trans ?_⟩, failure, output'⟩
  decide

end CommandLine
end ShapeCheck
