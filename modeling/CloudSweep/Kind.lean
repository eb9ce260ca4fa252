/-
Resource kinds. A kind of cloud resource is described by the words of its commands and by the ways
in which it differs from other kinds: how its instances are scoped, whether it is split into managed
and unmanaged ones, how they are deleted and which of them are kept. Everything else works from this
description and never asks for a kind by name.
-/
namespace CloudSweep

/-- The dimension that tells instances of a kind apart when they are deleted. -/
inductive ScopeKind
  /-- Project-wide; no scope flag. -/
  | none
  /-- Deleted zone by zone. -/
  | zone
  /-- Deleted region by region. -/
  | region
  /-- The project-wide variant of a kind that also has zonal or regional ones. -/
  | global
  deriving DecidableEq

namespace ScopeKind

/-- The field of a listed item that carries the scope. -/
def field? : ScopeKind → Option String
  | .zone => some "zone"
  | .region => some "region"
  | .none | .global => Option.none

/-- The name of the scope. -/
def word : ScopeKind → String
  | .none => "none"
  | .zone => "zone"
  | .region => "region"
  | .global => "global"

end ScopeKind

/-- Which instances of a kind that is split into managed and unmanaged ones are meant. -/
inductive ManagedFilter
  | any
  | managed
  | unmanaged
  deriving DecidableEq

namespace ManagedFilter

/-- The managed flag that an item must carry, if any. -/
def required? : ManagedFilter → Option Bool
  | .any => none
  | .managed => some true
  | .unmanaged => some false

/-- The word that stands before `delete` in a command. -/
def subcommand? : ManagedFilter → Option String
  | .any => none
  | .managed => some "managed"
  | .unmanaged => some "unmanaged"

end ManagedFilter

/-- A resource kind. -/
structure ResourceKind where
  /-- The release track of its commands, such as `beta`; none for the default track. -/
  track : Option String := none
  group : String
  name : String
  subgroup : Option String := none
  scope : ScopeKind := .none
  managed : ManagedFilter := .any
  /-- Failures to list or delete this kind do not count. -/
  tolerated : Bool := false
  /-- A delete command takes more than one name. -/
  bulkDelete : Bool := true
  /-- Names that are never deleted. -/
  preserved : List String := []
  /-- Its listing can be narrowed to a set of zones. -/
  zoneFilter : Bool := false
  /-- The slash-separated segment of an item's name that carries the scope. -/
  scopeSegment : Option Nat := none
  /-- Delete commands carry `--force`. -/
  forceDelete : Bool := false
  /-- The kind has no creation time, so it is swept only when everything is. -/
  clearAllOnly : Bool := false
  deriving DecidableEq

namespace ResourceKind

/-- A project-wide kind with nothing special about it. -/
def of (group name : String) : ResourceKind := { group, name }

/-- The kind with a scope. Zonal listings can be narrowed to zones, unless that is taken back. -/
def withScope (k : ResourceKind) (scope : ScopeKind) : ResourceKind :=
  { k with scope, zoneFilter := scope = .zone }

/-- The kind without narrowing of its listing. -/
def withoutZoneFilter (k : ResourceKind) : ResourceKind := { k with zoneFilter := false }

/-- The kind whose delete commands take one name each. -/
def singleDelete (k : ResourceKind) : ResourceKind := { k with bulkDelete := false }

/-- The kind in words, such as `compute sole-tenancy node-groups`. -/
def label (k : ResourceKind) : String :=
  match k.subgroup with
  | some sub => k.group ++ " " ++ k.name ++ " " ++ sub
  | none => k.group ++ " " ++ k.name

/-- The label with scope and managed filter, such as `compute instance-groups (zone) [managed]`. -/
def title (k : ResourceKind) : String :=
  k.label ++ (if k.scope = .none then "" else " (" ++ k.scope.word ++ ")") ++
    match k.managed.subcommand? with
    | some sub => " [" ++ sub ++ "]"
    | none => ""

/-- The words that start each command of this kind. -/
def commandWords (k : ResourceKind) : List String :=
  k.track.toList ++ [k.group, "-q", k.name] ++ k.subgroup.toList

/-- Whether an instance of this name is always kept. -/
def preserves (k : ResourceKind) (name : String) : Bool := k.preserved.contains name

/-- How many names a delete command takes at most, at least one. -/
def batchLimit (k : ResourceKind) (configured : Nat) : Nat :=
  if k.bulkDelete then max configured 1 else 1

/-- The flags at the end of each delete command. -/
def deleteFlags (k : ResourceKind) : List String := if k.forceDelete then ["--force"] else []

/-- What tells kinds of one service apart. -/
structure Identity where
  group : String
  name : String
  subgroup : Option String
  scope : ScopeKind
  managed : ManagedFilter
  deriving DecidableEq

/-- The identity of a kind. -/
def identity (k : ResourceKind) : Identity :=
  { group := k.group, name := k.name, subgroup := k.subgroup, scope := k.scope
    managed := k.managed }

end ResourceKind
end CloudSweep
