/-
Titles of kinds. A title is a few words with spaces between them: group, name and subgroup, and then a
word in round brackets for the scope and one in square brackets for the managed filter, if the kind has
them. As the words of commands hold no spaces and start with no brackets, a title tells which is which,
and so it tells all that makes up the identity of its kind.
-/
import CloudSweep.Kind
import Mathlib.Data.List.Basic

namespace CloudSweep

/-- A word, as it stands in a command: it is not empty, holds no space and starts with no bracket. -/
structure IsCommandWord (word : String) : Prop where
  filled : word ≠ ""
  unspaced : ' ' ∉ word.toList
  unbracketed : word.toList.head? ≠ some '(' ∧ word.toList.head? ≠ some '['

instance (word : String) : Decidable (IsCommandWord word) :=
  decidable_of_iff (word ≠ "" ∧ ' ' ∉ word.toList ∧
      (word.toList.head? ≠ some '(' ∧ word.toList.head? ≠ some '['))
    ⟨fun ⟨filled, unspaced, unbracketed⟩ => ⟨filled, unspaced, unbracketed⟩,
      fun h => ⟨h.filled, h.unspaced, h.unbracketed⟩⟩

/-! ## Marks -/

/-- The word of a title for the scope. -/
def ScopeKind.mark? (scope : ScopeKind) : Option String :=
  if scope = .none then Option.none else some ("(" ++ scope.word ++ ")")

/-- The word of a title for the managed filter. -/
def ManagedFilter.mark? (filter : ManagedFilter) : Option String :=
  filter.subcommand?.map fun sub => "[" ++ sub ++ "]"

theorem ScopeKind.mark?_inj {scope scope' : ScopeKind} (same : scope.mark? = scope'.mark?) :
    scope = scope' := by
  revert same
  cases scope <;> cases scope' <;> decide

theorem ManagedFilter.mark?_inj {filter filter' : ManagedFilter} (same : filter.mark? = filter'.mark?) :
    filter = filter' := by
  revert same
  cases filter <;> cases filter' <;> decide

theorem ScopeKind.head?_of_mark? {scope : ScopeKind} {word : String} (h : scope.mark? = some word) :
    word.toList.head? = some '(' ∧ ' ' ∉ word.toList := by
  cases scope with
  | none => cases h
  | _ =>
    cases h
    decide

theorem ManagedFilter.head?_of_mark? {filter : ManagedFilter} {word : String}
    (h : filter.mark? = some word) : word.toList.head? = some '[' ∧ ' ' ∉ word.toList := by
  cases filter with
  | any => cases h
  | _ =>
    cases h
    decide

/-! ## Titles -/

namespace ResourceKind

/-- Group, name and subgroup are words as they stand in commands. -/
structure IsInWords (k : ResourceKind) : Prop where
  group : IsCommandWord k.group
  name : IsCommandWord k.name
  subgroup : ∀ sub ∈ k.subgroup, IsCommandWord sub

instance (k : ResourceKind) : Decidable k.IsInWords :=
  decidable_of_iff
    (IsCommandWord k.group ∧ IsCommandWord k.name ∧ ∀ sub ∈ k.subgroup, IsCommandWord sub)
    ⟨fun ⟨group, name, subgroup⟩ => ⟨group, name, subgroup⟩, fun h => ⟨h.group, h.name, h.subgroup⟩⟩

/-- The words of a title. -/
def titleWords (k : ResourceKind) : List String :=
  [k.group, k.name] ++ k.subgroup.toList ++ k.scope.mark?.toList ++ k.managed.mark?.toList

variable {k k' : ResourceKind}

/-- One more word, if there is one. -/
theorem intercalate_append_toList {words : List String} (some : words ≠ []) (word : Option String) :
    " ".intercalate (words ++ word.toList) =
      " ".intercalate words ++ (word.map (" " ++ ·)).getD "" := by
  cases word with
  | none => rw [Option.toList_none, List.append_nil, Option.map_none, Option.getD_none,
      String.append_empty]
  | some word =>
    rw [Option.toList_some, String.intercalate_append_of_ne_nil some (List.cons_ne_nil _ _),
      String.intercalate_singleton, String.append_assoc]
    rfl

theorem title_eq (k : ResourceKind) : k.title = " ".intercalate k.titleWords := by
  have label : k.label = " ".intercalate [k.group, k.name] ++ (k.subgroup.map (" " ++ ·)).getD "" := by
    unfold label
    cases k.subgroup with
    | none => exact (String.append_empty).symm
    | some sub => exact String.append_assoc
  have scope : (if k.scope = .none then "" else " (" ++ k.scope.word ++ ")") =
      (k.scope.mark?.map (" " ++ ·)).getD "" := by
    cases k.scope <;> rfl
  unfold title titleWords
  rw [intercalate_append_toList (by simp), intercalate_append_toList (by simp),
    intercalate_append_toList (by simp), label, scope]
  refine congrArg _ ?_
  cases k.managed <;> rfl

theorem unspaced_of_mem_titleWords (hk : k.IsInWords) {word : String} (h : word ∈ k.titleWords) :
    ' ' ∉ word.toList := by
  simp only [titleWords, List.mem_append, List.mem_cons, List.not_mem_nil, or_false,
    Option.mem_toList] at h
  rcases h with (((rfl | rfl) | sub) | scope) | managed
  · exact hk.group.unspaced
  · exact hk.name.unspaced
  · exact (hk.subgroup word sub).unspaced
  · exact (ScopeKind.head?_of_mark? scope).2
  · exact (ManagedFilter.head?_of_mark? managed).2

/-- The words of a title are where its spaces are not. -/
theorem titleWords_inj (hk : k.IsInWords) (hk' : k'.IsInWords) (same : k.title = k'.title) :
    k.titleWords = k'.titleWords := by
  have cut {k : ResourceKind} (hk : k.IsInWords) :
      k.title.toList.splitOn ' ' = k.titleWords.map String.toList := by
    rw [title_eq, String.toList_intercalate]
    refine List.splitOn_intercalate ' ' (fun cs hcs => ?_) (by simp [titleWords])
    obtain ⟨word, hw, rfl⟩ := List.mem_map.1 hcs
    exact unspaced_of_mem_titleWords hk hw
  have words := (cut hk).symm.trans ((congrArg (·.toList.splitOn ' ') same).trans (cut hk'))
  exact List.map_injective_iff.2 (fun _ _ => String.toList_inj.1) words

/-- An optional word in front shows if those behind it are of another sort. -/
theorem toList_append_inj {p : String → Prop} {word word' : Option String} {words words' : List String}
    (front : ∀ w, word = some w → ¬ p w) (front' : ∀ w, word' = some w → ¬ p w)
    (behind : ∀ w ∈ words, p w) (behind' : ∀ w ∈ words', p w)
    (same : word.toList ++ words = word'.toList ++ words') : word = word' ∧ words = words' := by
  cases word with
  | none =>
    cases word' with
    | none => exact ⟨rfl, same⟩
    | some w =>
      obtain rfl : words = w :: words' := same
      exact absurd (behind w List.mem_cons_self) (front' w rfl)
  | some w =>
    cases word' with
    | none =>
      obtain rfl : words' = w :: words := same.symm
      exact absurd (behind' w List.mem_cons_self) (front w rfl)
    | some w' =>
      obtain ⟨rfl, rest⟩ := List.cons.inj same
      exact ⟨rfl, rest⟩

/-- Titles are the same exactly when the identities of the kinds are. -/
theorem title_eq_iff (hk : k.IsInWords) (hk' : k'.IsInWords) :
    k.title = k'.title ↔ k.identity = k'.identity := by
  constructor
  · intro same
    have words := titleWords_inj hk hk' same
    simp only [titleWords, List.append_assoc, List.cons_append, List.nil_append, List.cons.injEq]
      at words
    obtain ⟨group, name, further⟩ := words
    -- Marks start with brackets, and the subgroup does not.
    have marks (k : ResourceKind) : ∀ w ∈ k.scope.mark?.toList ++ k.managed.mark?.toList,
        w.toList.head? = some '(' ∨ w.toList.head? = some '[' := by
      intro w hw
      rcases List.mem_append.1 hw with scope | managed
      · exact .inl (ScopeKind.head?_of_mark? (Option.mem_toList.1 scope)).1
      · exact .inr (ManagedFilter.head?_of_mark? (Option.mem_toList.1 managed)).1
    have plain {k : ResourceKind} (hk : k.IsInWords) (w : String) (sub : k.subgroup = some w) :
        ¬ (w.toList.head? = some '(' ∨ w.toList.head? = some '[') :=
      not_or.2 (hk.subgroup w sub).unbracketed
    obtain ⟨subgroup, marked⟩ := toList_append_inj (plain hk) (plain hk') (marks k) (marks k') further
    have square (k : ResourceKind) : ∀ w ∈ k.managed.mark?.toList, w.toList.head? = some '[' :=
      fun w hw => (ManagedFilter.head?_of_mark? (Option.mem_toList.1 hw)).1
    have round (k : ResourceKind) (w : String) (scope : k.scope.mark? = some w) :
        w.toList.head? ≠ some '[' := by
      rw [(ScopeKind.head?_of_mark? scope).1]
      decide
    obtain ⟨scope, managed⟩ := toList_append_inj (round k) (round k') (square k) (square k') marked
    have managed := congrArg List.head? managed
    rw [Option.head?_toList, Option.head?_toList] at managed
    rw [identity, identity, group, name, subgroup, ScopeKind.mark?_inj scope,
      ManagedFilter.mark?_inj managed]
  · intro same
    have fields := Identity.mk.inj same
    rw [title_eq, title_eq, titleWords, titleWords, fields.1, fields.2.1, fields.2.2.1, fields.2.2.2.1,
      fields.2.2.2.2]

end ResourceKind
end CloudSweep
