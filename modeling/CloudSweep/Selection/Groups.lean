/-
Groups of names to delete. The stale items of a listing are grouped by their place; groups stand in
the order of their places and names in the order of the listing, repeats included. A listing with a
defect has no groups at all.
-/
import CloudSweep.Selection.Item

namespace CloudSweep

/-- A place, and the names to delete there. -/
structure Group where
  scopeValue : String
  names : List String
  deriving DecidableEq

/-- Groups in the order of their places. -/
abbrev Groups := List Group

namespace Groups

/-- Puts a name at the end of the group of its place. -/
def add (scopeValue name : String) : Groups → Groups
  | [] => [{ scopeValue, names := [name] }]
  | g :: rest =>
    if scopeValue < g.scopeValue then { scopeValue, names := [name] } :: g :: rest
    else if scopeValue = g.scopeValue then { g with names := g.names ++ [name] } :: rest
    else g :: add scopeValue name rest

/-- The candidates grouped by place. -/
def ofCandidates (candidates : List Candidate) : Groups :=
  candidates.foldl (fun groups c => groups.add c.scopeValue c.name) []

end Groups

namespace ResourceKind

/-- The stale items of a listing in groups, or the error of the first item with a defect. -/
def groups? (k : ResourceKind) (cutoff : Cutoff) (items : List ListedItem) :
    Except SelectionError Groups :=
  (items.mapM (k.screen cutoff)).map fun screenings =>
    .ofCandidates (screenings.filterMap Screening.stale?)

/-- What becomes of the items of a listing, up to the first one with a defect. -/
def screenings (k : ResourceKind) (cutoff : Cutoff) : List ListedItem → List Screening
  | [] => []
  | item :: rest =>
    match k.screen cutoff item with
    | .ok screening => screening :: screenings k cutoff rest
    | .error _ => []

end ResourceKind
end CloudSweep
