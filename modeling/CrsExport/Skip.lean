/-! Why a scanned code has no row, and how often each reason arose. -/

namespace CrsExport

inductive SkipReason where
  | unknownCode
  | unsupportedDefinition
  | resolverFailure
  deriving DecidableEq, Repr

namespace SkipReason

def all : List SkipReason := [.unknownCode, .unsupportedDefinition, .resolverFailure]

def label : SkipReason → String
  | .unknownCode => "Unknown code"
  | .unsupportedDefinition => "Unsupported definition"
  | .resolverFailure => "Resolver failure"

end SkipReason

structure SkipStats where
  unknown : Nat := 0
  unsupported : Nat := 0
  failure : Nat := 0
  deriving DecidableEq, Repr

namespace SkipStats

def increment (s : SkipStats) : SkipReason → SkipStats
  | .unknownCode => { s with unknown := s.unknown + 1 }
  | .unsupportedDefinition => { s with unsupported := s.unsupported + 1 }
  | .resolverFailure => { s with failure := s.failure + 1 }

def count (s : SkipStats) : SkipReason → Nat
  | .unknownCode => s.unknown
  | .unsupportedDefinition => s.unsupported
  | .resolverFailure => s.failure

def total (s : SkipStats) : Nat := s.unknown + s.unsupported + s.failure

theorem countIncremented (s : SkipStats) (r q : SkipReason) :
    (s.increment r).count q = s.count q + if q = r then 1 else 0 := by
  cases r <;> cases q <;> rfl

theorem totalIncremented (s : SkipStats) (r : SkipReason) :
    (s.increment r).total = s.total + 1 := by
  cases r <;> simp only [total, increment] <;> omega

end SkipStats
end CrsExport
