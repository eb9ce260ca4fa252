/-
The catalog: services in the order in which they are swept, each with its resource kinds in the
order in which they are deleted. `Catalog.validate` reports the first thing that is wrong with a
catalog, if anything is.
-/
import CloudSweep.Kind

namespace CloudSweep

/-- A replacement for the address of a service, for single calls. -/
structure EndpointOverride where
  service : String
  url : String
  deriving DecidableEq

/-- The environment variable that carries the replacement. -/
def EndpointOverride.variableName (e : EndpointOverride) : String :=
  "CLOUDSDK_API_ENDPOINT_OVERRIDES_" ++ String.ofList (e.service.toList.map Char.toUpper)

/-- A service and the kinds that are swept under it. -/
structure Service where
  /-- The name under which the service is enabled. -/
  api : String
  endpoint : Option EndpointOverride := none
  kinds : List ResourceKind
  deriving DecidableEq

/-- Services in the order in which they are swept. -/
structure Catalog where
  services : List Service

/-- What can be wrong with a catalog. -/
inductive CatalogError
  | emptyApi
  | duplicateApi (api : String)
  | duplicateKind (api : String) (kind : ResourceKind)
  | nameScopeWithoutField (kind : ResourceKind)
  | zoneFilterWithoutZone (kind : ResourceKind)
  | emptyPreservedName (kind : ResourceKind)
  deriving DecidableEq

namespace CatalogError

/-- The error in words. -/
def message : CatalogError → String
  | .emptyApi => "API identifier cannot be empty"
  | .duplicateApi api => "API '" ++ api ++ "' is listed more than once"
  | .duplicateKind api kind => "API '" ++ api ++ "' lists " ++ kind.title ++ " more than once"
  | .nameScopeWithoutField kind => kind.title ++ ": scope_from_name requires zone or region scope"
  | .zoneFilterWithoutZone kind => kind.title ++ ": zone filter requires zone scope"
  | .emptyPreservedName kind => kind.title ++ ": preserved names cannot be empty strings"

end CatalogError

namespace Catalog

/-- Every kind with its service, in order. -/
def kinds (c : Catalog) : List (Service × ResourceKind) :=
  c.services.flatMap fun s => s.kinds.map (s, ·)

/-- The number of kinds. -/
def size (c : Catalog) : Nat := c.kinds.length

/-- What is wrong with a kind on its own. -/
def kindDefect? (k : ResourceKind) : Option CatalogError :=
  if k.scopeSegment.isSome ∧ k.scope.field?.isNone then some (.nameScopeWithoutField k)
  else if k.zoneFilter ∧ k.scope ≠ .zone then some (.zoneFilterWithoutZone k)
  else if k.preserved.contains "" then some (.emptyPreservedName k)
  else none

/-- Checks the kinds of a service; `seen` are the identities of the earlier ones. -/
def validateKinds (api : String) (seen : List ResourceKind.Identity) :
    List ResourceKind → Except CatalogError Unit
  | [] => .ok ()
  | k :: rest =>
    if seen.contains k.identity then .error (.duplicateKind api k)
    else
      match kindDefect? k with
      | some defect => .error defect
      | none => validateKinds api (k.identity :: seen) rest

/-- Checks services; `seen` are the names of the earlier ones. -/
def validateServices (seen : List String) : List Service → Except CatalogError Unit
  | [] => .ok ()
  | s :: rest =>
    if s.api = "" then .error .emptyApi
    else if seen.contains s.api then .error (.duplicateApi s.api)
    else
      match validateKinds s.api [] s.kinds with
      | .error defect => .error defect
      | .ok () => validateServices (s.api :: seen) rest

/-- The first defect of the catalog, if it has any. -/
def validate (c : Catalog) : Except CatalogError Unit := validateServices [] c.services

end Catalog
end CloudSweep
