/-
What the reader makes of spellings: each spelling of a value is read as that value, whatever is open
around it.
-/
import CloudSweep.Json.Reader
import CloudSweep.Proofs.Json.Token

namespace CloudSweep.Json

variable {cs : List Char} {ts : List Token} {v : Value}

namespace Reading

variable {frames : List Frame} {r : Reading}

/-- Where a closing bracket may come as well, the reader goes on as where it may not. -/
theorem foldlM_of_stricter {strict loose : Expected}
    (follows : ∀ t next, step ⟨frames, strict⟩ t = some next → step ⟨frames, loose⟩ t = some next)
    (taken : ts.foldlM step ⟨frames, strict⟩ = some r) (moved : r.expected ≠ strict) :
    ts.foldlM step ⟨frames, loose⟩ = some r := by
  cases ts with
  | nil =>
    cases taken
    exact absurd rfl moved
  | cons t ts =>
    rw [List.foldlM_cons, Option.bind_eq_bind] at taken ⊢
    obtain ⟨next, here, rest⟩ := Option.bind_eq_some_iff.1 taken
    rw [follows t next here]
    exact rest

theorem step_valueOrClose (t : Token) (next : Reading) (taken : step ⟨frames, .value⟩ t = some next) :
    step ⟨frames, .valueOrClose⟩ t = some next := by
  cases t <;> first | exact taken | contradiction

theorem step_keyOrClose (t : Token) (next : Reading) (taken : step ⟨frames, .key⟩ t = some next) :
    step ⟨frames, .keyOrClose⟩ t = some next := by
  cases t <;> first | exact taken | contradiction

end Reading

/-- Where the phrase is expected, the tokens take the reader through it and no further. -/
def Phrase.IsReadFrom (ts : List Token) : Phrase → Prop
  | .value v | .spaced v =>
    ∀ frames, ts.foldlM Reading.step ⟨frames, .value⟩ = Reading.deliver v frames
  | .elements vs => ∀ done frames, ts.foldlM Reading.step ⟨.elements done :: frames, .value⟩ =
      some ⟨.elements (vs.reverse ++ done) :: frames, .commaOrClose⟩
  | .member m => ∀ done frames, ts.foldlM Reading.step ⟨.members done :: frames, .key⟩ =
      some ⟨.members (m :: done) :: frames, .commaOrClose⟩
  | .members ms => ∀ done frames, ts.foldlM Reading.step ⟨.members done :: frames, .key⟩ =
      some ⟨.members (ms.reverse ++ done) :: frames, .commaOrClose⟩

/-! ## Brackets -/

/-- A value in brackets is read when what stands between them fills its frame. -/
theorem Reading.foldlM_brackets {frames : List Frame} {opening closing : Token} {opened filled : Frame}
    {loose : Expected} (opens : step ⟨frames, .value⟩ opening = some ⟨opened :: frames, loose⟩)
    (inside : ts.foldlM step ⟨opened :: frames, loose⟩ = some ⟨filled :: frames, .commaOrClose⟩)
    (closes : step ⟨filled :: frames, .commaOrClose⟩ closing = deliver v frames) :
    (opening :: (ts ++ [closing])).foldlM step ⟨frames, .value⟩ = deliver v frames := by
  rw [List.foldlM_cons, opens, Option.bind_eq_bind, Option.bind_some, List.foldlM_append, inside,
    Option.bind_eq_bind, Option.bind_some, List.foldlM_cons, closes]
  exact bind_pure _

theorem isReadFrom_array {vs : List Value} (elements : (Phrase.elements vs).IsReadFrom ts) :
    (Phrase.value (.array vs)).IsReadFrom (.openArray :: (ts ++ [.closeArray])) := by
  intro frames
  have inside : ts.foldlM Reading.step ⟨.elements [] :: frames, .valueOrClose⟩ =
      some ⟨.elements vs.reverse :: frames, .commaOrClose⟩ := by
    rw [Reading.foldlM_of_stricter Reading.step_valueOrClose (elements [] frames) (by simp),
      List.append_nil]
  exact Reading.foldlM_brackets rfl inside (congrArg (fun vs => Reading.deliver (.array vs) frames)
    vs.reverse_reverse)

theorem isReadFrom_object {ms : List (Content × Value)} (members : (Phrase.members ms).IsReadFrom ts) :
    (Phrase.value (.object ms)).IsReadFrom (.openObject :: (ts ++ [.closeObject])) := by
  intro frames
  have inside : ts.foldlM Reading.step ⟨.members [] :: frames, .keyOrClose⟩ =
      some ⟨.members ms.reverse :: frames, .commaOrClose⟩ := by
    rw [Reading.foldlM_of_stricter Reading.step_keyOrClose (members [] frames) (by simp),
      List.append_nil]
  exact Reading.foldlM_brackets rfl inside (congrArg (fun ms => Reading.deliver (.object ms) frames)
    ms.reverse_reverse)

/-! ## Lists -/

theorem isReadFrom_element (value : (Phrase.spaced v).IsReadFrom ts) :
    (Phrase.elements [v]).IsReadFrom ts :=
  fun done frames => value (.elements done :: frames)

theorem isReadFrom_elements {vs : List Value} {us : List Token}
    (value : (Phrase.spaced v).IsReadFrom ts) (rest : (Phrase.elements vs).IsReadFrom us) :
    (Phrase.elements (v :: vs)).IsReadFrom (ts ++ [.comma] ++ us) := by
  intro done frames
  rw [List.foldlM_append, List.foldlM_append, value, List.reverse_cons, List.append_assoc]
  exact rest (v :: done) frames

theorem isReadFrom_pair {key : Content} (value : (Phrase.spaced v).IsReadFrom ts) :
    (Phrase.member (key, v)).IsReadFrom (.string key :: .colon :: ts) :=
  fun done frames => value (.member done key :: frames)

theorem isReadFrom_members {m : Content × Value} {ms : List (Content × Value)} {us : List Token}
    (member : (Phrase.member m).IsReadFrom ts) (rest : (Phrase.members ms).IsReadFrom us) :
    (Phrase.members (m :: ms)).IsReadFrom (ts ++ [.comma] ++ us) := by
  intro done frames
  rw [List.foldlM_append, List.foldlM_append, member, List.reverse_cons, List.append_assoc]
  exact rest (m :: done) frames

/-! ## Whole texts -/

/-- Each spelling is scanned to tokens from which the phrase is read. By induction on the spelling. -/
theorem Spells.tokens {p : Phrase} (spells : Spells p cs) : ∃ ts, Scans cs ts ∧ p.IsReadFrom ts := by
  induction spells with
  | null => exact ⟨[.null], Closes.scans fun _ => rfl, fun _ => bind_pure _⟩
  | true => exact ⟨[.bool .true], Closes.scans fun _ => rfl, fun _ => bind_pure _⟩
  | false => exact ⟨[.bool .false], Closes.scans fun _ => rfl, fun _ => bind_pure _⟩
  | number number => exact ⟨_, Scans.number number, fun _ => bind_pure _⟩
  | string content => exact ⟨_, (Closes.string content).scans, fun _ => bind_pure _⟩
  | noElements spaces =>
    have scans := (Closes.mark .openArray).append ((Closes.spaces spaces).append (.mark .closeArray))
    exact ⟨_, scans.scans, fun frames => bind_pure (Reading.deliver (.array []) frames)⟩
  | array _ ih =>
    obtain ⟨ts, scans, read⟩ := ih
    exact ⟨_, ((Closes.mark .openArray).append (scans.append_mark .closeArray)).scans,
      isReadFrom_array read⟩
  | noMembers spaces =>
    have scans := (Closes.mark .openObject).append ((Closes.spaces spaces).append (.mark .closeObject))
    exact ⟨_, scans.scans, fun frames => bind_pure (Reading.deliver (.object []) frames)⟩
  | object _ ih =>
    obtain ⟨ts, scans, read⟩ := ih
    exact ⟨_, ((Closes.mark .openObject).append (scans.append_mark .closeObject)).scans,
      isReadFrom_object read⟩
  | spaced front _ back ih =>
    obtain ⟨ts, scans, read⟩ := ih
    exact ⟨ts, ((Closes.spaces front).append_scans scans).append_spaces back, read⟩
  | element _ ih =>
    obtain ⟨ts, scans, read⟩ := ih
    exact ⟨ts, scans, isReadFrom_element read⟩
  | elements _ _ ih ihs =>
    obtain ⟨ts, scans, read⟩ := ih
    obtain ⟨us, scans', read'⟩ := ihs
    rw [List.append_cons]
    exact ⟨_, (scans.append_mark .comma).append_scans scans', isReadFrom_elements read read'⟩
  | pair front key back _ ih =>
    obtain ⟨ts, scans, read⟩ := ih
    have before := ((Closes.spaces front).append (.string key)).append (.spaces back)
    rw [List.append_cons]
    exact ⟨_, (before.append (.mark .colon)).append_scans scans, isReadFrom_pair read⟩
  | member _ ih =>
    obtain ⟨ts, scans, read⟩ := ih
    exact ⟨ts, scans, read⟩
  | members _ _ ih ihs =>
    obtain ⟨ts, scans, read⟩ := ih
    obtain ⟨us, scans', read'⟩ := ihs
    rw [List.append_cons]
    exact ⟨_, (scans.append_mark .comma).append_scans scans', isReadFrom_members read read'⟩

/-- Every spelling of a value is read as the value. -/
theorem read?_of_spells (spells : Spells (.value v) cs) : read? (String.ofList cs) = some v := by
  obtain ⟨ts, scans, read⟩ := spells.tokens
  rw [read?, String.toList_ofList, tokens?_of_scans scans, Option.bind_some, ofTokens?,
    show ts.foldlM Reading.step ⟨[], .value⟩ = _ from read []]
  rfl

end CloudSweep.Json
