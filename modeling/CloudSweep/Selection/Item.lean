/-
Listed items one by one. `screen` decides what becomes of an item of a listing: it lies outside the
kind's scope, it is spared, or it is stale and goes. An item without a name is a defect, and so is
one whose managed flag or creation time is needed and missing.
-/
import CloudSweep.Kind
import CloudSweep.Selection.Error
import CloudSweep.Settings.Cutoff
import CloudSweep.Text.Segment
import CloudSweep.Time.Reader

namespace CloudSweep

/-- A listed item, reduced to what its deletion depends on. -/
structure Candidate where
  name : String
  /-- The place that its deletion is narrowed to; empty for project-wide kinds. -/
  scopeValue : String := ""
  createdAt : Option Instant := none
  isManaged : Option Bool := none
  deriving DecidableEq

namespace ResourceKind

/-- A record of a listing of this kind with a defect. -/
def malformed (k : ResourceKind) (defect : Defect) : SelectionError := .malformed k.label defect

/-- The place of an item, unless the item lies outside the kind's scope. Zones and regions are
listed as addresses that end in their name; some kinds carry them in the item's name instead. -/
def scopeValue? (k : ResourceKind) (item : ListedItem) (name : String) : Option String :=
  match k.scope with
  | .none => some ""
  | .global => if item.zone.isSome || item.region.isSome then none else some ""
  | .zone => located item.zone
  | .region => located item.region
where
  located : Option String → Option String
    | some address => some (Text.lastSegment address) |>.filter (· ≠ "")
    | none => (k.scopeSegment.bind (Text.segment? name)).filter (· ≠ "")

/-- Reads an item; none if it lies outside the kind's scope. When everything is deleted whatever its
age, a creation time that cannot be read does no harm. -/
def candidate? (k : ResourceKind) (cutoff : Cutoff) (item : ListedItem) :
    Except SelectionError (Option Candidate) :=
  match item.name with
  | none | some "" => .error (k.malformed .namelessItem)
  | some name =>
    match k.scopeValue? item name with
    | none => .ok none
    | some scopeValue =>
      let found (createdAt : Option Instant) : Option Candidate :=
        some { name, scopeValue, createdAt, isManaged := item.isManaged }
      match item.creationTime with
      | none => .ok (found none)
      | some raw =>
        match Timestamp.read raw with
        | some instant => .ok (found (some instant))
        | none =>
          if cutoff.isClearAll then .ok (found none)
          else .error (k.malformed (.unreadableCreationTime name raw))

/-- Whether a candidate of this kind is to be deleted. Preserved names are kept whatever else may
be wrong with them. -/
def isStale (k : ResourceKind) (cutoff : Cutoff) (c : Candidate) : Except SelectionError Bool :=
  if k.preserves c.name then .ok false
  else
    match k.managed.required?, c.isManaged with
    | some _, none => .error (k.malformed (.missingManagedFlag c.name))
    | some required, some actual => if actual = required then oldEnough else .ok false
    | none, _ => oldEnough
where
  oldEnough : Except SelectionError Bool :=
    match cutoff, c.createdAt with
    | .clearAll, _ => .ok true
    | .before _, some created => .ok (cutoff.includes created)
    | .before _, none => .error (k.malformed (.noCreationTime c.name))

end ResourceKind

/-- What becomes of a listed item. -/
inductive Screening
  /-- It lies outside the kind's scope. -/
  | outside (name : String)
  | spared (candidate : Candidate)
  | stale (candidate : Candidate)
  deriving DecidableEq

/-- The candidate that is to be deleted, if it is. -/
def Screening.stale? : Screening → Option Candidate
  | .stale candidate => some candidate
  | .outside _ | .spared _ => none

/-- Decides what becomes of a listed item. -/
def ResourceKind.screen (k : ResourceKind) (cutoff : Cutoff) (item : ListedItem) :
    Except SelectionError Screening := do
  match ← k.candidate? cutoff item with
  | none => return .outside (item.name.getD "")
  | some candidate => return if ← k.isStale cutoff candidate then .stale candidate else .spared candidate

end CloudSweep
