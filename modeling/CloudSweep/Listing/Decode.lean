/-
Listings in JSON. A record is an object, in which unknown members are passed over and a known one
may stand only once, or an array of its fields in their order, from which the last ones may be
missing. A member that is missing or null leaves its field empty.
-/
import CloudSweep.Json.Reader
import CloudSweep.Listing.Record
import CloudSweep.Text.Blank

namespace CloudSweep.Listing

open Json

/-- The value of each named field, if it is there. A known member that is repeated spoils the
record. -/
def fields? (names : List String) : Value → Option (List (Option Value))
  | .object members => do
    let members ← members.mapM fun (key, v) => key.text?.map (·, v)
    names.mapM fun name =>
      match members.filter (·.1 = name) with
      | [] => some none
      | [(_, v)] => some (some v)
      | _ => none
  | .array elements =>
    if elements.length ≤ names.length then
      some (elements.map some ++ List.replicate (names.length - elements.length) none)
    else none
  | _ => none

/-- A text, or null for none. -/
def text? : Option Value → Option (Option String)
  | none | some .null => some none
  | some (.string content) => content.text?.map some
  | some _ => none

/-- The managed flag: a truth value, or a word for one in any letter case. An empty word is no
flag. -/
def managed? : Option Value → Option (Option Bool)
  | none | some .null => some none
  | some (.bool b) => some (some b)
  | some (.string content) => do
    let word := (← content.chars?).map Char.toLower
    if word = "yes".toList ∨ word = "true".toList then some (some true)
    else if word = "no".toList ∨ word = "false".toList then some (some false)
    else if word = [] then some none
    else none
  | some _ => none

/-- An item of a resource listing. -/
def item? (v : Value) : Option ListedItem := do
  match ← fields? ["name", "creationTimestamp", "createTime", "zone", "region", "isManaged"] v with
  | [name, creationTimestamp, createTime, zone, region, isManaged] =>
    some {
      name := ← text? name
      creationTimestamp := ← text? creationTimestamp
      createTime := ← text? createTime
      zone := ← text? zone
      region := ← text? region
      isManaged := ← managed? isManaged }
  | _ => none

/-- An item of a cluster listing. -/
def cluster? (v : Value) : Option ClusterRecord := do
  match ← fields? ["name", "createTime", "zone", "region"] v with
  | [name, createTime, zone, region] =>
    some {
      name := ← text? name
      createTime := ← text? createTime
      zone := ← text? zone
      region := ← text? region }
  | _ => none

/-- An item of a subnet listing. -/
def subnet? (v : Value) : Option SubnetRecord := do
  match ← fields? ["name", "region"] v with
  | [name, region] => some { name := ← text? name, region := ← text? region }
  | _ => none

/-- A secondary range. -/
def range? (v : Value) : Option SecondaryRange := do
  match ← fields? ["rangeName", "ipCidrRange"] v with
  | [rangeName, ipCidrRange] =>
    some { rangeName := ← text? rangeName, ipCidrRange := ← text? ipCidrRange }
  | _ => none

/-- An array of records, all of them good. -/
def list? {α : Type} (record? : Value → Option α) : Value → Option (List α)
  | .array elements => elements.mapM record?
  | _ => none

/-- A resource listing. -/
def items? : Value → Option (List ListedItem) := list? item?

/-- A cluster listing. -/
def clusters? : Value → Option (List ClusterRecord) := list? cluster?

/-- A subnet listing. -/
def subnets? : Value → Option (List SubnetRecord) := list? subnet?

/-- The secondary ranges of a subnet's description. Their list may be missing but not null. -/
def ranges? (v : Value) : Option (List SecondaryRange) := do
  match ← fields? ["secondaryIpRanges"] v with
  | [some ranges] => list? range? ranges
  | [none] => some []
  | _ => none

/-- Reads what a listing command wrote: blank output and `null` are the empty answer, and blanks
around any other answer are passed over. -/
def answer? {α : Type} (decode? : Value → Option α) (empty : α) (output : String) : Option α :=
  let text := Text.trim output
  if text = "" ∨ text = "null" then some empty
  else (Json.read? text).bind decode?

end CloudSweep.Listing
