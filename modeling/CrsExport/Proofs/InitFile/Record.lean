import CrsExport.Proofs.Export.Record
import CrsExport.Proofs.InitFile.Table
/-! The rows of an init file: the definitions of its table, each under its own code. -/

namespace CrsExport.InitFile

def exporter (contents : Text) : Exporter := { resolver := (parse contents).resolver }

theorem recordFound (contents : Text) (code : Code) :
    (exporter contents).record code =
      match (parse contents).find? code with
      | some d => (Definition.normalize code d).map (⟨code, ·⟩)
      | none => .error (.unknownCode code) := by
  have resolves : (exporter contents).resolver.resolve code =
      match (parse contents).find? code with
      | some d => .ok ⟨code, d, none⟩
      | none => .error (.unknownCode code) := (parse contents).resolverResolve code
  unfold Exporter.record
  rw [resolves]
  cases (parse contents).find? code with
  | none => rfl
  | some d =>
    have hands : (exporter contents).resolver.toProjString ⟨code, d, none⟩ =
        Definition.normalize code d := rfl
    have refines : (exporter contents).refiner = none := rfl
    simp only [hands, refines]
    cases Definition.normalize code d with
    | error e => rfl
    | ok form => rfl

end CrsExport.InitFile
