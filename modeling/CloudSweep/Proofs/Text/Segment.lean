/-
Segments. No piece of a text holds the separator at which the text was cut, so the segments of a path
are free of slashes, the last one as well as those counted from the start.
-/
import CloudSweep.Text.Segment

namespace CloudSweep.Text

variable {separator : Char} {cs piece : List Char} {s part : String}

theorem not_mem_of_mem_pieces (h : piece ∈ pieces separator cs) : separator ∉ piece := by
  induction cs generalizing piece with
  | nil =>
    cases List.mem_singleton.1 h
    exact List.not_mem_nil
  | cons c rest ih =>
    unfold pieces at h
    split at h
    · rcases List.mem_cons.1 h with rfl | later
      · exact List.not_mem_nil
      · exact ih later
    rename_i apart
    split at h
    · cases List.mem_singleton.1 h
      simpa using Ne.symm apart
    · rename_i first others cut
      rcases List.mem_cons.1 h with rfl | later
      · -- The character in front is no separator, and the rest of the piece is one of the rest's.
        have rest := ih (cut ▸ List.mem_cons_self)
        simp [Ne.symm apart, rest]
      · exact ih (cut ▸ List.mem_cons_of_mem first later)

theorem slash_not_mem_lastSegment (s : String) : '/' ∉ (lastSegment s).toList := by
  rw [lastSegment, String.toList_ofList]
  rcases last : (pieces '/' s.toList).getLast? with _ | piece
  · exact List.not_mem_nil
  · exact not_mem_of_mem_pieces (List.mem_of_getLast? last)

theorem slash_not_mem_of_segment? {index : Nat} (h : segment? s index = some part) :
    '/' ∉ part.toList := by
  obtain ⟨piece, there, rfl⟩ := Option.map_eq_some_iff.1 h
  rw [String.toList_ofList]
  exact not_mem_of_mem_pieces (List.mem_of_getElem? there)

end CloudSweep.Text
