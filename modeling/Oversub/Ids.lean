/-!
# Oversub.Ids

Strongly typed identities, generations and the fabric epoch (`ids.hpp`).
Value 0 means "unset" everywhere.
-/

namespace Oversub

inductive IdTag where
  | domain | resource | pool | policy | riskBudget | serviceClass | reservation | admission
  | evidence | publisher | decision | incarnation | auditRecord
  deriving DecidableEq

/-- An identity of one kind; the tag keeps identities of different kinds apart. -/
structure StrongId (tag : IdTag) where
  value : UInt64 := 0
  deriving DecidableEq, Inhabited

namespace StrongId

variable {tag : IdTag}

def valid (id : StrongId tag) : Bool := id.value != 0

def toString (id : StrongId tag) : String := ToString.toString id.value.toNat

end StrongId

inductive GenTag where
  | domain | policy | resource | capacitySnapshot | reservationSnapshot | admissionSnapshot
  | reservation | admission | riskBudget
  deriving DecidableEq

/-- A monotonic generation of one kind. -/
structure Gen (tag : GenTag) where
  value : UInt64 := 0
  deriving DecidableEq, Inhabited

namespace Gen

variable {tag : GenTag}

def valid (g : Gen tag) : Bool := g.value != 0

end Gen

/-- The fabric-wide authority epoch. -/
structure FabricEpoch where
  value : UInt64 := 0
  deriving DecidableEq, Inhabited

def FabricEpoch.valid (e : FabricEpoch) : Bool := e.value != 0

/-- A reference into the external priority system, carried but never interpreted. -/
structure PriorityRef where
  value : UInt32 := 0
  deriving DecidableEq, Inhabited

abbrev OversubscriptionDomainId := StrongId .domain
abbrev ResourceId := StrongId .resource
abbrev PoolId := StrongId .pool
abbrev OversubscriptionPolicyId := StrongId .policy
abbrev RiskBudgetId := StrongId .riskBudget
abbrev ServiceClassId := StrongId .serviceClass
abbrev ReservationId := StrongId .reservation
abbrev AdmissionId := StrongId .admission
abbrev EvidenceId := StrongId .evidence
abbrev PublisherId := StrongId .publisher
abbrev DecisionId := StrongId .decision
abbrev IncarnationId := StrongId .incarnation
abbrev AuditRecordId := StrongId .auditRecord

abbrev DomainGeneration := Gen .domain
abbrev PolicyGeneration := Gen .policy
abbrev ResourceGeneration := Gen .resource
abbrev CapacitySnapshotGeneration := Gen .capacitySnapshot
abbrev ReservationSnapshotGeneration := Gen .reservationSnapshot
abbrev AdmissionSnapshotGeneration := Gen .admissionSnapshot
abbrev ReservationGeneration := Gen .reservation
abbrev AdmissionGeneration := Gen .admission
abbrev RiskBudgetGeneration := Gen .riskBudget

end Oversub
