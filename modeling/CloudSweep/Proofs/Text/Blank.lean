/-
Trimming. Blanks around a text do not outlast it, and a text is left as it is exactly when there is no
blank at either end, as after a trim.
-/
import CloudSweep.Text.Blank
import Mathlib.Data.List.TakeWhile

namespace CloudSweep.Text

variable {cs front back : List Char}

theorem trimLeft_blanks (blank : ∀ c ∈ front, isBlank c = true) :
    trimLeft (front ++ cs) = trimLeft cs :=
  List.dropWhile_append_of_pos blank

theorem trimRight_blanks (blank : ∀ c ∈ back, isBlank c = true) :
    trimRight (cs ++ back) = trimRight cs := by
  unfold trimRight
  rw [List.reverse_append, List.dropWhile_append_of_pos fun c hc => blank c (List.mem_reverse.1 hc)]

/-- Blanks around a text are trimmed with its own. -/
theorem trimChars_blanks (before : ∀ c ∈ front, isBlank c = true)
    (after : ∀ c ∈ back, isBlank c = true) : trimChars (front ++ cs ++ back) = trimChars cs := by
  unfold trimChars
  rw [List.append_assoc, trimLeft_blanks before]
  -- Blanks alone are gone at the first end already.
  by_cases alone : ∀ c ∈ cs, isBlank c = true
  · have blanks : ∀ ds : List Char, (∀ c ∈ ds, isBlank c = true) → trimLeft ds = [] :=
      fun _ all => List.dropWhile_eq_nil_iff.2 all
    rw [blanks _ (List.forall_mem_append.2 ⟨alone, after⟩), blanks _ alone]
  · have more : (cs.dropWhile isBlank).isEmpty = false := by
      rw [List.isEmpty_eq_false_iff]
      exact mt List.dropWhile_eq_nil_iff.1 alone
    have left : trimLeft (cs ++ back) = trimLeft cs ++ back := by
      rw [trimLeft, List.dropWhile_append, more]
      rfl
    rw [left, trimRight_blanks after]

/-- There is no blank at either end of the text. -/
structure Tight (cs : List Char) : Prop where
  front : ∀ c ∈ cs.head?, isBlank c = false
  back : ∀ c ∈ cs.getLast?, isBlank c = false

theorem dropWhile_isBlank_of_head? (front : ∀ c ∈ cs.head?, isBlank c = false) :
    cs.dropWhile isBlank = cs := by
  cases cs with
  | nil => rfl
  | cons c cs => exact List.dropWhile_cons_of_neg (by simp [front c rfl])

theorem trimChars_of_tight (tight : Tight cs) : trimChars cs = cs := by
  have back : ∀ c ∈ cs.reverse.head?, isBlank c = false := by
    rw [List.head?_reverse]
    exact tight.back
  rw [trimChars, trimLeft, dropWhile_isBlank_of_head? tight.front, trimRight,
    dropWhile_isBlank_of_head? back, List.reverse_reverse]

theorem trimChars_of_noBlank (noBlank : ∀ c ∈ cs, isBlank c = false) : trimChars cs = cs :=
  trimChars_of_tight ⟨fun c hc => noBlank c (List.mem_of_mem_head? hc),
    fun c hc => noBlank c (List.mem_of_getLast? hc)⟩

theorem isBlank_of_head?_dropWhile {c : Char} (h : (cs.dropWhile isBlank).head? = some c) :
    isBlank c = false := by
  have first := List.head?_dropWhile_not isBlank cs
  rw [h] at first
  exact first

/-- A trimmed text is tight. -/
theorem tight_trimChars (cs : List Char) : Tight (trimChars cs) := by
  constructor
  case front =>
    intro c hc
    -- What is left starts as it did before blanks were dropped at the end.
    have start : trimRight (trimLeft cs) <+: trimLeft cs := by
      have dropped := List.reverse_prefix.2 (List.dropWhile_suffix isBlank (l := (trimLeft cs).reverse))
      rwa [List.reverse_reverse] at dropped
    obtain ⟨rest, whole⟩ := start
    have first : (trimLeft cs).head? = some c := by
      rw [← whole, List.head?_append]
      exact Option.or_eq_some_iff.2 (.inl hc)
    exact isBlank_of_head?_dropWhile first
  case back =>
    intro c hc
    rw [trimChars, trimRight, List.getLast?_reverse] at hc
    exact isBlank_of_head?_dropWhile hc

theorem trim_trim (s : String) : trim (trim s) = trim s := by
  rw [trim, trim, String.toList_ofList, trimChars_of_tight (tight_trimChars _)]

end CloudSweep.Text
