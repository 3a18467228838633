import CrsExport.Export.Scan
import CrsExport.Proofs.Definition.Normal
import CrsExport.Proofs.Definition.Order
import CrsExport.Resolver.Builtin
import CrsExport.Resolver.InitFile
/-! The row of a code. Its definition is in normal form whenever the last word on it is the
check of this library: with a refiner always, and without one if the resolver leaves its own
check as it is. -/

namespace CrsExport

/-- The resolver hands out definitions as resolvers do unless they say otherwise. -/
def Resolver.Standard (r : Resolver) : Prop :=
  ∀ crs, r.toProjString crs = Definition.normalize crs.code crs.proj4

theorem InitFile.resolverStandard (table : InitFile) : table.resolver.Standard := fun _ => rfl

theorem InitFile.resolverResolve (table : InitFile) (code : Code) :
    table.resolver.resolve code =
      match table.find? code with
      | some definition => .ok ⟨code, definition, none⟩
      | none => .error (.unknownCode code) := rfl

theorem Database.resolverStandard (db : Database) : db.resolver.Standard := fun _ => rfl

theorem Database.resolverResolve (db : Database) (code : Code) :
    db.resolver.resolve code =
      match db.lookup code with
      | none => .error (.unknownCode code)
      | some stored =>
        let wkt := Text.trim (text stored.wkt)
        .ok { code, proj4 := text stored.proj4, wkt := if wkt.isEmpty then none else some wkt } :=
  rfl

namespace Refiner

theorem refineIsOfWords (r : Refiner) (definition : Text) (code : Code) :
    ∃ ws, (∀ w ∈ ws, Text.IsWord w) ∧ r.refine definition code = Text.ofWords ws :=
  ⟨_, fun _ hw => Definition.reorderedAreWords hw, Definition.reorderIsOfWords r.order _⟩

end Refiner

namespace Exporter

variable {x : Exporter} {code : Code} {r : ExportRecord}

inductive Outcome (x : Exporter) (code : Code) : Except ResolveError ExportRecord → Prop where
  | unresolved {e} (found : x.resolver.resolve code = .error e) : Outcome x code (.error e)
  | withheld {crs e} (found : x.resolver.resolve code = .ok crs)
      (handed : x.resolver.toProjString crs = .error e) : Outcome x code (.error e)
  | plain {crs p} (found : x.resolver.resolve code = .ok crs)
      (handed : x.resolver.toProjString crs = .ok p) (unrefined : x.refiner = none) :
      Outcome x code (.ok ⟨code, p⟩)
  | refined {crs p refiner t} (found : x.resolver.resolve code = .ok crs)
      (handed : x.resolver.toProjString crs = .ok p) (kept : x.refiner = some refiner)
      (accepted : Definition.normalize code (refiner.refine p code) = .ok t) :
      Outcome x code (.ok ⟨code, t⟩)
  | refused {crs p refiner e} (found : x.resolver.resolve code = .ok crs)
      (handed : x.resolver.toProjString crs = .ok p) (kept : x.refiner = some refiner)
      (refusal : Definition.normalize code (refiner.refine p code) = .error e) :
      Outcome x code (.error e)

theorem recordOutcome (x : Exporter) (code : Code) : Outcome x code (x.record code) := by
  unfold record
  cases found : x.resolver.resolve code with
  | error e => exact .unresolved found
  | ok crs =>
    dsimp only
    cases handed : x.resolver.toProjString crs with
    | error e => exact .withheld found handed
    | ok p =>
      dsimp only
      cases kept : x.refiner with
      | none => exact .plain found handed kept
      | some refiner =>
        dsimp only
        cases checked : Definition.normalize code (refiner.refine p code) with
        | error e => exact .refused found handed kept checked
        | ok t => exact .refined found handed kept checked

/- What stands in the row depends on the refiner; that the code is the one that was asked for
does not, nor on the code of the system that was found. -/
theorem recordFrom (h : x.record code = .ok r) :
    r.code = code ∧ ∃ crs p, x.resolver.resolve code = .ok crs ∧
      x.resolver.toProjString crs = .ok p ∧
      (x.refiner = none ∧ r.definition = p ∨
        ∃ refiner, x.refiner = some refiner ∧
          Definition.normalize code (refiner.refine p code) = .ok r.definition) := by
  have outcome := recordOutcome x code
  rw [h] at outcome
  cases outcome with
  | plain found handed unrefined => exact ⟨rfl, _, _, found, handed, .inl ⟨unrefined, rfl⟩⟩
  | refined found handed kept accepted =>
    exact ⟨rfl, _, _, found, handed, .inr ⟨_, kept, accepted⟩⟩

/- A code has no row for one of three reasons, and the last of them names the code itself. -/
theorem refusedFrom {e : ResolveError} (h : x.record code = .error e) :
    x.resolver.resolve code = .error e ∨
      ∃ crs, x.resolver.resolve code = .ok crs ∧
        (x.resolver.toProjString crs = .error e ∨ ∃ why, e = .unsupportedDefinition code why) := by
  have outcome := recordOutcome x code
  rw [h] at outcome
  cases outcome with
  | unresolved found => exact .inl found
  | withheld found handed => exact .inr ⟨_, found, .inl handed⟩
  | refused found _ _ refusal => exact .inr ⟨_, found, .inr (Definition.normalizeRefused refusal)⟩

theorem recordChecked (checked : x.resolver.Standard ∨ x.refiner.isSome)
    (h : x.record code = .ok r) : ∃ c d, Definition.normalize c d = .ok r.definition := by
  obtain ⟨_, crs, p, _, handed, unrefined | refined⟩ := recordFrom h
  · obtain ⟨none, rfl⟩ := unrefined
    rcases checked with standard | some
    · rw [standard crs] at handed
      exact ⟨_, _, handed⟩
    · rw [none] at some
      contradiction
  · obtain ⟨refiner, _, accepted⟩ := refined
    exact ⟨_, _, accepted⟩

theorem recordIsNormal (checked : x.resolver.Standard ∨ x.refiner.isSome)
    (h : x.record code = .ok r) : Definition.IsNormal r.definition := by
  obtain ⟨c, d, accepted⟩ := recordChecked checked h
  exact Definition.normalizeIsNormal accepted

/- The refined definition is made of words already, so the check does not change it. -/
theorem recordRefined {refiner : Refiner} (kept : x.refiner = some refiner)
    (h : x.record code = .ok r) : ∃ crs p, x.resolver.resolve code = .ok crs ∧
      x.resolver.toProjString crs = .ok p ∧ r.definition = refiner.refine p code := by
  obtain ⟨_, crs, p, found, handed, unrefined | refined⟩ := recordFrom h
  · rw [kept] at unrefined
    cases unrefined.1
  · obtain ⟨_, eq, accepted⟩ := refined
    rw [kept] at eq
    cases eq
    obtain ⟨ws, areWords, made⟩ := refiner.refineIsOfWords p code
    rw [made] at accepted
    have same := Definition.normalizeKeeps areWords accepted
    exact ⟨crs, p, found, handed, same.trans made.symm⟩

end Exporter
end CrsExport
