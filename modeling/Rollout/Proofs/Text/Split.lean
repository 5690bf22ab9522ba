/-!
# Text in pieces

What stands between the marks that a text is split at.
-/

namespace Rollout.Text

variable {α : Type} [BEq α] [LawfulBEq α] {mark : α} {piece front cs : List α}

theorem not_mem_of_mem_splitOn (h : piece ∈ cs.splitOn mark) : mark ∉ piece := by
  induction cs generalizing piece with
  | nil =>
    rw [List.splitOn_nil, List.mem_singleton] at h
    exact h ▸ List.not_mem_nil
  | cons c rest ih =>
    rw [List.splitOn_cons_eq_if_modifyHead] at h
    split at h
    · rcases List.mem_cons.mp h with rfl | h
      · exact List.not_mem_nil
      · exact ih h
    · rename_i hmark
      obtain ⟨first, pieces, hrest⟩ := List.exists_cons_of_ne_nil (List.splitOn_ne_nil mark rest)
      rw [hrest, List.modifyHead_cons] at h
      rcases List.mem_cons.mp h with rfl | h
      · have hfirst : mark ∉ first := ih (hrest ▸ List.mem_cons_self)
        have hne : mark ≠ c := fun hc => hmark (beq_iff_eq.mpr hc.symm)
        simp [hfirst, hne]
      · exact ih (hrest ▸ List.mem_cons_of_mem _ h)

/-- Text without a mark belongs to the first piece of what follows it. -/
theorem splitOn_append_of_not_mem (h : mark ∉ front) (rest : List α) :
    (front ++ rest).splitOn mark = (rest.splitOn mark).modifyHead (front ++ ·) := by
  induction front with
  | nil => exact (congrFun List.modifyHead_id _).symm
  | cons c front ih =>
    have hmark : ¬(c == mark) = true := fun hc =>
      List.ne_of_not_mem_cons h (beq_iff_eq.mp hc).symm
    rw [List.cons_append, List.splitOn_cons_eq_if_modifyHead, if_neg hmark,
      ih (List.not_mem_of_not_mem_cons h)]
    cases rest.splitOn mark <;> rfl

end Rollout.Text
