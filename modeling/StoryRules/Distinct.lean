/-! Lists without repetitions, when two members count as the same if they agree on a key. -/

namespace StoryRules

variable {α β : Type} [DecidableEq β]

/-- The members of a list whose key no earlier member has. -/
def distinctOn (f : α → β) : List α → List α
  | [] => []
  | a :: rest => a :: (distinctOn f rest).filter fun b => f b ≠ f a

theorem mem_of_mem_distinctOn {f : α → β} {a : α} {as : List α} (h : a ∈ distinctOn f as) :
    a ∈ as := by
  induction as with
  | nil => exact h
  | cons b rest ih =>
    rcases List.mem_cons.1 h with rfl | h
    · exact List.mem_cons_self
    · exact List.mem_cons_of_mem b (ih (List.mem_filter.1 h).1)

theorem nodup_map_distinctOn (f : α → β) (as : List α) : ((distinctOn f as).map f).Nodup := by
  induction as with
  | nil => exact List.nodup_nil
  | cons a rest ih =>
    rw [distinctOn, List.map_cons, List.nodup_cons]
    refine ⟨fun h => ?_, ih.sublist (List.filter_sublist.map f)⟩
    obtain ⟨b, hb, heq⟩ := List.mem_map.1 h
    simpa [heq] using (List.mem_filter.1 hb).2

theorem exists_mem_distinctOn (f : α → β) {a : α} {as : List α} (h : a ∈ as) :
    ∃ b ∈ distinctOn f as, f b = f a := by
  induction as with
  | nil => simp at h
  | cons c rest ih =>
    by_cases hc : f c = f a
    · exact ⟨c, List.mem_cons_self, hc⟩
    · rcases List.mem_cons.1 h with rfl | h
      · exact absurd rfl hc
      · obtain ⟨b, hb, heq⟩ := ih h
        refine ⟨b, List.mem_cons_of_mem c (List.mem_filter.2 ⟨hb, ?_⟩), heq⟩
        simpa [heq] using Ne.symm hc

end StoryRules
