/-
Listings of resources and the JSON texts that write them. One listing has many texts: the members of an
object stand in any order and among others, a field without a value is left out or null, and a managed
flag is a truth value or a word for one. Each of these texts is read as the listing; and where a flag is
none, nothing is read at all.
-/
import CloudSweep.Gcloud.Answer
import CloudSweep.Proofs.Json.Reader
import CloudSweep.Proofs.Text.Blank
import Mathlib

namespace CloudSweep.Listing

open Json

/-! ## The texts of a listing -/

/-- The word, in any case of its letters. -/
def InAnyCase (word : String) (cs : List Char) : Prop :=
  List.Forall₂ (fun l c => c = l ∨ c = l.toUpper) word.toList cs

/-- The words for a managed flag. -/
def flagWords : Bool → List String
  | true => ["yes", "true"]
  | false => ["no", "false"]

/-- What may stand for a text field, where a member that is left out has no value. -/
inductive WritesText : Option String → Option Value → Prop
  | omitted : WritesText none none
  | null : WritesText none (some .null)
  | text {s : String} {content : Content} (means : content.Means s.toList) :
      WritesText (some s) (some (.string content))

/-- What may stand for a managed flag. -/
inductive WritesFlag : Option Bool → Option Value → Prop
  | omitted : WritesFlag none none
  | null : WritesFlag none (some .null)
  | empty : WritesFlag none (some (.string []))
  | bool (flag : Bool) : WritesFlag (some flag) (some (.bool flag))
  | word {flag : Bool} {word : String} {content : Content} {cs : List Char}
      (known : word ∈ flagWords flag) (cased : InAnyCase word cs) (means : content.Means cs) :
      WritesFlag (some flag) (some (.string content))

/-- What is no managed flag: another text, a number, an array or an object. -/
inductive IsNoFlag : Value → Prop
  | text {content : Content} {cs : List Char} (means : content.Means cs) (filled : cs ≠ [])
      (other : ∀ flag, ∀ word ∈ flagWords flag, ¬ InAnyCase word cs) : IsNoFlag (.string content)
  | number (spelling : String) : IsNoFlag (.number spelling)
  | array (elements : List Value) : IsNoFlag (.array elements)
  | object (members : List (Content × Value)) : IsNoFlag (.object members)

/-- The values of the members with this key. -/
def valuesOf (key : String) (members : List (String × Value)) : List Value :=
  (members.filter (·.1 = key)).map (·.2)

/-- The member with this key stands at most once, and what it holds is as asked. -/
def HasField (members : List (String × Value)) (key : String) (asked : Option Value → Prop) : Prop :=
  ∃ v : Option Value, valuesOf key members = v.toList ∧ asked v

/-- The members write the item. Members with other keys may hold anything. -/
structure WritesFields (item : ListedItem) (members : List (String × Value)) : Prop where
  name : HasField members "name" (WritesText item.name)
  creationTimestamp : HasField members "creationTimestamp" (WritesText item.creationTimestamp)
  createTime : HasField members "createTime" (WritesText item.createTime)
  zone : HasField members "zone" (WritesText item.zone)
  region : HasField members "region" (WritesText item.region)
  isManaged : HasField members "isManaged" (WritesFlag item.isManaged)

/-- The object writes the item. -/
inductive WritesItem (item : ListedItem) : Value → Prop
  | object {raw : List (Content × Value)} {members : List (String × Value)}
      (keys : List.Forall₂ (fun r m => r.1.Means m.1.toList ∧ r.2 = m.2) raw members)
      (fields : WritesFields item members) : WritesItem item (.object raw)

/-- The output is an array of these values, with blanks around it. -/
def WritesArray (vs : List Value) (output : String) : Prop :=
  ∃ front cs back, output.toList = front ++ cs ++ back ∧ (∀ c ∈ front, Text.isBlank c = true) ∧
    (∀ c ∈ back, Text.isBlank c = true) ∧ Spells (.value (.array vs)) cs

/-- The output writes the listing. -/
def WritesItems (items : List ListedItem) (output : String) : Prop :=
  ∃ vs, List.Forall₂ WritesItem items vs ∧ WritesArray vs output

/-- The output is an array in which some object has a managed flag that is none. -/
def Misflags (output : String) : Prop :=
  ∃ vs raw key v, WritesArray vs output ∧ .object raw ∈ vs ∧ (key, v) ∈ raw ∧
    key.Means "isManaged".toList ∧ IsNoFlag v

/-! ## Letter cases -/

theorem toLower_eq_iff {l c : Char} (lower : l.isLower = true) :
    c.toLower = l ↔ c = l ∨ c = l.toUpper := by
  have noUpper : l.toLower = l := Char.toLower_eq_of_not_isUpper (Char.not_isUpper_of_isLower lower)
  constructor
  · rintro rfl
    by_cases capital : c.isUpper = true
    · refine .inr ?_
      rw [Char.toUpper_toLower_eq_toUpper,
        Char.toUpper_eq_of_not_isLower (Char.not_isLower_of_isUpper capital)]
    · exact .inl (Char.toLower_eq_of_not_isUpper capital).symm
  · rintro (rfl | rfl)
    · exact noUpper
    · rw [Char.toLower_toUpper_eq_toLower, noUpper]

theorem inAnyCase_iff {word : String} {cs : List Char} (lower : ∀ l ∈ word.toList, l.isLower = true) :
    InAnyCase word cs ↔ cs.map Char.toLower = word.toList := by
  unfold InAnyCase
  generalize word.toList = ls at lower ⊢
  induction ls generalizing cs with
  | nil => rw [List.forall₂_nil_left_iff, List.map_eq_nil_iff]
  | cons l ls ih =>
    obtain ⟨first, rest⟩ := List.forall_mem_cons.1 lower
    cases cs with
    | nil => exact iff_of_false nofun nofun
    | cons c cs =>
      rw [List.forall₂_cons, List.map_cons, List.cons_eq_cons, toLower_eq_iff first, ih rest]

theorem isLower_of_mem_flagWords {flag : Bool} {word : String} (known : word ∈ flagWords flag) :
    ∀ l ∈ word.toList, l.isLower = true := by
  have table : ∀ flag, ∀ word ∈ flagWords flag, word.toList.all Char.isLower = true := by decide
  exact List.all_eq_true.1 (table flag word known)

/-! ## Fields -/

section Options

variable {α β : Type} {f : α → Option β} {as : List α}

theorem mapM_eq_some_iff {bs : List β} :
    as.mapM f = some bs ↔ List.Forall₂ (fun a b => f a = some b) as bs := by
  induction as generalizing bs with
  | nil => simp [eq_comm]
  | cons a as ih =>
    rw [List.mapM_cons, List.forall₂_cons_left_iff]
    simp only [Option.bind_eq_bind, Option.bind_eq_some_iff, Option.pure_def, Option.some.injEq, ih]
    constructor
    · rintro ⟨b, hb, bs, related, rfl⟩
      exact ⟨b, bs, hb, related, rfl⟩
    · rintro ⟨b, bs, hb, related, rfl⟩
      exact ⟨b, hb, bs, related, rfl⟩

theorem exists_of_mem_left {related : α → β → Prop} {a : α} {bs : List β}
    (all : List.Forall₂ related as bs) (mem : a ∈ as) : ∃ b ∈ bs, related a b := by
  induction all with
  | nil => cases mem
  | cons first _ ih =>
    obtain rfl | mem := List.mem_cons.1 mem
    · exact ⟨_, List.mem_cons_self, first⟩
    · obtain ⟨b, hb, rest⟩ := ih mem
      exact ⟨b, List.mem_cons_of_mem _ hb, rest⟩

theorem mapM_eq_none_of_mem {a : α} (mem : a ∈ as) (failed : f a = none) : as.mapM f = none := by
  rw [Option.eq_none_iff_forall_ne_some]
  intro bs read
  obtain ⟨b, -, hb⟩ := exists_of_mem_left (mapM_eq_some_iff.1 read) mem
  cases failed.symm.trans hb

end Options

/-- Reading an object takes its keys as texts and finds, for each name, at most one value. -/
theorem fields?_object_eq_some_iff {names : List String} {raw : List (Content × Value)}
    {vs : List (Option Value)} :
    fields? names (.object raw) = some vs ↔
      ∃ members : List (String × Value),
        List.Forall₂ (fun r m => r.1.text? = some m.1 ∧ r.2 = m.2) raw members ∧
          List.Forall₂ (fun name v => valuesOf name members = v.toList) names vs := by
  have named : ∀ (r : Content × Value) (m : String × Value),
      r.1.text?.map (·, r.2) = some m ↔ r.1.text? = some m.1 ∧ r.2 = m.2 := by
    rintro ⟨key, v⟩ ⟨name, v'⟩
    cases key.text? <;> simp
  simp only [fields?, Option.bind_eq_bind, Option.bind_eq_some_iff, mapM_eq_some_iff, named]
  refine exists_congr fun members => and_congr_right fun _ => ?_
  refine iff_of_eq (congrArg (List.Forall₂ · names vs) (funext₂ fun name v => propext ?_))
  unfold valuesOf
  generalize members.filter (·.1 = name) = matching
  rcases matching with _ | ⟨⟨_, w⟩, _ | ⟨m, ms⟩⟩ <;> cases v <;> simp

theorem text?_of_writes {text : Option String} {v : Option Value} (writes : WritesText text v) :
    text? v = some text := by
  cases writes with
  | omitted => rfl
  | null => rfl
  | text means => exact congrArg (Option.map some) (Content.text?_of_means means)

theorem managed?_string {content : Content} {cs : List Char} (means : content.Means cs) :
    managed? (some (.string content)) =
      if cs.map Char.toLower = "yes".toList ∨ cs.map Char.toLower = "true".toList then
        some (some true)
      else if cs.map Char.toLower = "no".toList ∨ cs.map Char.toLower = "false".toList then
        some (some false)
      else if cs.map Char.toLower = [] then some none
      else none := by
  rw [managed?, Content.chars?_of_means means]
  rfl

theorem managed?_of_writes {flag : Option Bool} {v : Option Value} (writes : WritesFlag flag v) :
    managed? v = some flag := by
  cases writes with
  | omitted => rfl
  | null => rfl
  | empty => rfl
  | bool => rfl
  | word known cased means =>
    have lowered := (inAnyCase_iff (isLower_of_mem_flagWords known)).1 cased
    rw [managed?_string means, lowered]
    rename_i flag word _ _
    cases flag <;> simp only [flagWords, List.mem_cons, List.not_mem_nil, or_false] at known <;>
      rcases known with rfl | rfl <;> rfl

theorem managed?_of_isNoFlag {v : Value} (noFlag : IsNoFlag v) : managed? (some v) = none := by
  cases noFlag with
  | text means filled other =>
    rename_i cs
    have apart : ∀ flag, ∀ word ∈ flagWords flag, cs.map Char.toLower ≠ word.toList :=
      fun flag word known lowered =>
        other flag word known ((inAnyCase_iff (isLower_of_mem_flagWords known)).2 lowered)
    have yes := apart true "yes" (by decide)
    have isTrue := apart true "true" (by decide)
    have no := apart false "no" (by decide)
    have isFalse := apart false "false" (by decide)
    rw [managed?_string means, if_neg (not_or.2 ⟨yes, isTrue⟩), if_neg (not_or.2 ⟨no, isFalse⟩),
      if_neg (mt List.map_eq_nil_iff.1 filled)]
  | number => rfl
  | array => rfl
  | object => rfl

/-! ## Items -/

theorem item?_of_writes {item : ListedItem} {v : Value} (writes : WritesItem item v) :
    item? v = some item := by
  obtain ⟨keys, fields⟩ := writes
  rename_i raw members
  obtain ⟨name, nameOnce, hname⟩ := fields.name
  obtain ⟨creationTimestamp, creationTimestampOnce, hcreationTimestamp⟩ := fields.creationTimestamp
  obtain ⟨createTime, createTimeOnce, hcreateTime⟩ := fields.createTime
  obtain ⟨zone, zoneOnce, hzone⟩ := fields.zone
  obtain ⟨region, regionOnce, hregion⟩ := fields.region
  obtain ⟨isManaged, isManagedOnce, hisManaged⟩ := fields.isManaged
  have read : fields? ["name", "creationTimestamp", "createTime", "zone", "region", "isManaged"]
      (.object raw) = some [name, creationTimestamp, createTime, zone, region, isManaged] :=
    fields?_object_eq_some_iff.2 ⟨members,
      keys.imp fun _ _ ⟨means, same⟩ => ⟨Content.text?_of_means means, same⟩,
      .cons nameOnce (.cons creationTimestampOnce (.cons createTimeOnce (.cons zoneOnce
        (.cons regionOnce (.cons isManagedOnce .nil)))))⟩
  simp only [item?, read, text?_of_writes hname, text?_of_writes hcreationTimestamp,
    text?_of_writes hcreateTime, text?_of_writes hzone, text?_of_writes hregion,
    managed?_of_writes hisManaged, Option.bind_eq_bind, Option.bind_some]

/-- An object is not read as an item when some managed flag in it is none. -/
theorem item?_of_isNoFlag {raw : List (Content × Value)} {key : Content} {v : Value}
    (mem : (key, v) ∈ raw) (means : key.Means "isManaged".toList) (noFlag : IsNoFlag v) :
    item? (.object raw) = none := by
  cases read : fields? ["name", "creationTimestamp", "createTime", "zone", "region", "isManaged"]
      (.object raw) with
  | none => simp only [item?, read]; rfl
  | some vs =>
    obtain ⟨members, keys, found⟩ := fields?_object_eq_some_iff.1 read
    obtain ⟨⟨name, v'⟩, mem', isKey, rfl⟩ := exists_of_mem_left keys mem
    obtain rfl : "isManaged" = name :=
      Option.some.inj ((Content.text?_of_means means).symm.trans isKey)
    -- Of what the names have found, only the flag matters: it is the value that is no flag.
    simp only [List.forall₂_cons_left_iff, List.forall₂_nil_left_iff] at found
    obtain ⟨name, _, -, ⟨creationTimestamp, _, -, ⟨createTime, _, -, ⟨zone, _, -, ⟨region, _, -,
      ⟨isManaged, _, once, rfl, rfl⟩, rfl⟩, rfl⟩, rfl⟩, rfl⟩, rfl⟩ := found
    have inValues : v ∈ valuesOf "isManaged" members :=
      List.mem_map.2 ⟨_, List.mem_filter.2 ⟨mem', decide_eq_true rfl⟩, rfl⟩
    have isFlag : isManaged = some v := Option.mem_toList.1 (once ▸ inValues)
    simp only [item?, read, isFlag, managed?_of_isNoFlag noFlag, Option.bind_eq_bind,
      Option.bind_some, Option.bind_none, Option.bind_fun_none]

/-! ## Outputs -/

/-- Blanks around an array are passed over. -/
theorem answer?_of_writes {α : Type} {vs : List Value} {output : String}
    (writes : WritesArray vs output) (decode? : Value → Option α) (empty : α) :
    answer? decode? empty output = decode? (.array vs) := by
  obtain ⟨front, cs, back, whole, hfront, hback, spells⟩ := writes
  obtain ⟨inside, rfl⟩ : ∃ inside, cs = '[' :: (inside ++ [']']) := by
    cases spells with
    | noElements => exact ⟨_, rfl⟩
    | array => exact ⟨_, rfl⟩
  -- Brackets are no blanks, so trimming leaves the array.
  have tight : Text.Tight ('[' :: (inside ++ [']'])) := by
    constructor
    · rintro c ⟨⟩
      rfl
    · intro c last
      rw [← List.cons_append, List.getLast?_concat] at last
      cases last
      rfl
  have trimmed : Text.trim output = String.ofList ('[' :: (inside ++ [']'])) := by
    rw [Text.trim, whole, Text.trimChars_blanks hfront hback, Text.trimChars_of_tight tight]
  have first : (Text.trim output).toList.head? = some '[' := by
    rw [trimmed, String.toList_ofList]
    rfl
  have other : ¬ (Text.trim output = "" ∨ Text.trim output = "null") := by
    rintro (same | same) <;> rw [same] at first <;> cases first
  rw [answer?, if_neg other, trimmed, read?_of_spells spells]
  rfl

/-- Every output that writes a listing is read as the listing, in its order; a blank one or `null` is
read as the empty listing; and one with a managed flag that is none is not read, not even in part. The
answer to a listing call is what is read of the output, or that it is unreadable, with the reason that
the library gives for the trimmed output. -/
theorem items_of_output (output : String) :
    (∀ items, WritesItems items output → answer? items? [] output = some items) ∧
      (Text.trim output = "" ∨ Text.trim output = "null" → answer? items? [] output = some []) ∧
      (Misflags output → answer? items? [] output = none) ∧
      ∀ (c : Gcloud.Config) (request : ListRequest) (bytes complaint : List UInt8),
        Text.ofBytes bytes = output →
          c.answer (.listResources request) (.exited (.code 0) bytes complaint) =
            (answer? items? [] output).elim
              (.error (@CallError.unreadable (c.commandLine (.listResources request))
                (c.explain .items (Text.trim output)))) .ok := by
  refine ⟨?written, ?empty, ?misflagged, ?answered⟩
  case written =>
    rintro items ⟨vs, related, writes⟩
    rw [answer?_of_writes writes, items?, list?, mapM_eq_some_iff]
    exact (related.imp fun _ _ => item?_of_writes).flip
  case empty =>
    intro empty
    rw [answer?, if_pos empty]
  case misflagged =>
    rintro ⟨vs, raw, key, v, writes, inArray, inObject, means, noFlag⟩
    rw [answer?_of_writes writes, items?, list?]
    exact mapM_eq_none_of_mem inArray (item?_of_isNoFlag inObject means noFlag)
  case answered =>
    rintro c request bytes complaint rfl
    have ended : Gcloud.succeeded (.code 0) = true := rfl
    rw [Gcloud.Config.answer, if_pos ended, Gcloud.Config.read, Gcloud.Config.listing]
    cases answer? items? [] (Text.ofBytes bytes) <;> rfl

/-- A value without spaces around it. -/
theorem spells_spaced {v : Value} {cs : List Char} (spells : Spells (.value v) cs) :
    Spells (.spaced v) ([] ++ cs ++ []) :=
  .spaced nofun spells nofun

/-- A member without spaces around its key and its value. -/
theorem spells_pair {key : Content} {v : Value} {ks cs : List Char} (hkey : SpellsContent key ks)
    (hvalue : Spells (.value v) cs) :
    Spells (.member (key, v)) ([] ++ '"' :: (ks ++ ['"']) ++ [] ++ ':' :: ([] ++ cs ++ [])) :=
  .pair nofun hkey nofun (spells_spaced hvalue)

/-- Blanks around a listing, a member of another name, an escape, and a word in mixed case. -/
theorem writesItems_sample : WritesItems [{ name := some "ab", isManaged := some true }]
    "\u00a0[ \x7b\"isManaged\":\"yEs\",\"x\":[1],\"name\":\"a\\u0062\",\"zone\":null\x7d]\n" := by
  have yes := @spellsContent_plain "yEs".toList (by decide)
  have one : IsNumber ['1'] :=
    @IsNumber.parts [] ['1'] [] [] (.inl rfl)
      (.inr ⟨⟨nofun, List.forall_mem_singleton.2 rfl⟩, by decide⟩) (.inl rfl) (.inl rfl)
  have ab : SpellsContent [97, 98] ['a', '\\', 'u', '0', '0', '6', '2'] :=
    .cons (@SpellsUnit.plain 'a' (by decide))
      (.cons (@SpellsUnit.code 0 0 6 2 '0' '0' '6' '2' ⟨by decide, .inl rfl⟩ ⟨by decide, .inl rfl⟩
        ⟨by decide, .inl rfl⟩ ⟨by decide, .inl rfl⟩) .nil)
  have object := Spells.object
    (.members (spells_pair (@spellsContent_plain "isManaged".toList (by decide)) (.string yes))
      (.members (spells_pair (@spellsContent_plain "x".toList (by decide))
          (.array (.element (spells_spaced (.number one)))))
        (.members (spells_pair (@spellsContent_plain "name".toList (by decide)) (.string ab))
          (.member (spells_pair (@spellsContent_plain "zone".toList (by decide)) .null)))))
  have space : AreSpaces [' '] := by simp [AreSpaces]
  have spells := Spells.array (.element (.spaced space object (show AreSpaces [] from nofun)))
  refine ⟨_, .cons ?item .nil, ['\u00a0'], _, ['\n'], ?whole, List.forall_mem_singleton.2 rfl,
    List.forall_mem_singleton.2 rfl, spells⟩
  case whole => decide
  case item =>
    have cased : InAnyCase "yes" "yEs".toList :=
      (inAnyCase_iff (@isLower_of_mem_flagWords true "yes" (by decide))).2 (by decide)
    refine @WritesItem.object _ _ [("isManaged", _), ("x", _), ("name", _), ("zone", _)]
      (.cons ⟨Content.means_map _, rfl⟩ (.cons ⟨Content.means_map _, rfl⟩
        (.cons ⟨Content.means_map _, rfl⟩ (.cons ⟨Content.means_map _, rfl⟩ .nil)))) ?_
    exact {
      name := ⟨some _, rfl, .text (.char 'a' (.char 'b' .nil))⟩
      creationTimestamp := ⟨none, rfl, .omitted⟩
      createTime := ⟨none, rfl, .omitted⟩
      zone := ⟨some _, rfl, .null⟩
      region := ⟨none, rfl, .omitted⟩
      isManaged := ⟨some _, rfl, .word (by decide) cased (Content.means_map _)⟩ }

/-- The flag of the second item is no flag. -/
theorem misflags_sample :
    Misflags "[\x7b\"isManaged\":\"No\"\x7d,\x7b\"isManaged\":\"maybe\"\x7d]" := by
  have key := @spellsContent_plain "isManaged".toList (by decide)
  have no := @spellsContent_plain "No".toList (by decide)
  have maybe := @spellsContent_plain "maybe".toList (by decide)
  have spells := Spells.array
    (.elements (spells_spaced (.object (.member (spells_pair key (.string no)))))
      (.element (spells_spaced (.object (.member (spells_pair key (.string maybe)))))))
  have other : ∀ flag, ∀ word ∈ flagWords flag,
      "maybe".toList.map Char.toLower ≠ word.toList := by decide
  refine ⟨_, _, _, _, ⟨[], _, [], ?whole, nofun, nofun, spells⟩,
    List.mem_cons_of_mem _ List.mem_cons_self, List.mem_cons_self, Content.means_map _,
    .text (Content.means_map _) (by decide) fun flag word known cased => ?other⟩
  case whole => decide
  case other => exact other flag word known ((inAnyCase_iff (isLower_of_mem_flagWords known)).1 cased)

theorem items_of_output_samples :
    answer? items? []
        "\u00a0[ \x7b\"isManaged\":\"yEs\",\"x\":[1],\"name\":\"a\\u0062\",\"zone\":null\x7d]\n" =
      some [{ name := some "ab", isManaged := some true }] ∧
    answer? items? [] " null\n" = some [] ∧
    answer? items? [] "[\x7b\"isManaged\":\"No\"\x7d,\x7b\"isManaged\":\"maybe\"\x7d]" = none :=
  ⟨(items_of_output _).1 _ writesItems_sample, (items_of_output _).2.1 (.inr (by decide)),
    (items_of_output _).2.2.1 misflags_sample⟩

end CloudSweep.Listing
