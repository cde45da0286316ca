import Mathlib.Data.List.Induction

namespace CodeOutline

variable {α : Type} {same : α → α → Bool}

theorem foldl_keep_eq_loop (same : α → α → Bool) (xs kept : List α) :
    xs.foldl (fun kept x => if kept.any (same x) then kept else kept ++ [x]) kept =
      List.eraseDupsBy.loop same xs kept.reverse := by
  induction xs generalizing kept with
  | nil => rw [List.foldl_nil, List.eraseDupsBy.loop, List.reverse_reverse]
  | cons x xs ih =>
    rw [List.foldl_cons, List.eraseDupsBy.loop, List.any_reverse, ih]
    cases kept.any (same x) with
    | true => rfl
    | false => simp

theorem foldl_keep_eq_eraseDupsBy (same : α → α → Bool) (xs : List α) :
    xs.foldl (fun kept x => if kept.any (same x) then kept else kept ++ [x]) [] =
      xs.eraseDupsBy same :=
  foldl_keep_eq_loop same xs []

theorem eraseDupsBy_concat (same : α → α → Bool) (xs : List α) (x : α) :
    (xs ++ [x]).eraseDupsBy same =
      if (xs.eraseDupsBy same).any (same x) then xs.eraseDupsBy same
      else xs.eraseDupsBy same ++ [x] := by
  rw [← foldl_keep_eq_eraseDupsBy, ← foldl_keep_eq_eraseDupsBy, List.foldl_append]
  rfl

/-- Nothing new is among what is kept, and nothing changes its place. -/
theorem eraseDupsBy_sublist (same : α → α → Bool) (xs : List α) :
    (xs.eraseDupsBy same).Sublist xs := by
  induction xs using List.reverseRecOn with
  | nil => exact List.Sublist.slnil
  | append_singleton xs x ih =>
    rw [eraseDupsBy_concat]
    split
    · exact ih.trans (List.sublist_append_left xs [x])
    · exact ih.append (List.Sublist.refl [x])

/-- No two things that are kept are the same. -/
theorem pairwise_eraseDupsBy (same : α → α → Bool) (xs : List α) :
    (xs.eraseDupsBy same).Pairwise fun a b => same b a = false := by
  induction xs using List.reverseRecOn with
  | nil => exact List.Pairwise.nil
  | append_singleton xs x ih =>
    rw [eraseDupsBy_concat]
    split
    · exact ih
    · rename_i hnew
      refine List.pairwise_append.mpr ⟨ih, List.pairwise_singleton _ x, ?_⟩
      intro a ha b hb
      rw [List.mem_singleton.mp hb]
      simpa using List.any_eq_false.mp (by simpa using hnew) a ha

section Equivalence

variable (hsame : Equivalence fun a b => same a b = true)

include hsame

/-- Whatever is left out is the same as something that is kept. -/
theorem exists_mem_eraseDupsBy {xs : List α} {x : α} (hx : x ∈ xs) :
    ∃ kept ∈ xs.eraseDupsBy same, same x kept = true := by
  induction xs using List.reverseRecOn with
  | nil => cases hx
  | append_singleton xs y ih =>
    rw [eraseDupsBy_concat]
    rcases List.mem_append.mp hx with hbefore | hlast
    · obtain ⟨kept, hkept, hlike⟩ := ih hbefore
      refine ⟨kept, ?_, hlike⟩
      split
      · exact hkept
      · exact List.mem_append_left _ hkept
    · rw [List.mem_singleton.mp hlast]
      split
      · rename_i hold
        exact List.any_eq_true.mp hold
      · exact ⟨y, List.mem_append_right _ (List.mem_singleton_self y), hsame.refl y⟩

/-- Kept is whatever comes first among all that are the same. -/
theorem mem_eraseDupsBy_iff {xs : List α} {x : α} :
    x ∈ xs.eraseDupsBy same ↔ xs.find? (same x) = some x := by
  induction xs using List.reverseRecOn with
  | nil => simp
  | append_singleton xs z ih =>
    rw [eraseDupsBy_concat, List.find?_append, Option.or_eq_some_iff, ← ih]
    split
    · rename_i hold
      refine ⟨.inl, ?_⟩
      rintro (hkept | ⟨hnone, hlast⟩)
      · exact hkept
      · -- the last is the same as something that is kept, so it is not the first
        obtain rfl := List.mem_singleton.mp (List.mem_of_find?_eq_some hlast)
        obtain ⟨kept, hkept, hlike⟩ := List.any_eq_true.mp hold
        exact absurd hlike (List.find?_eq_none.mp hnone kept
          ((eraseDupsBy_sublist same xs).subset hkept))
    · rename_i hnew
      rw [List.mem_append, List.mem_singleton]
      refine or_congr_right ?_
      constructor
      · rintro rfl
        refine ⟨List.find?_eq_none.mpr ?_, List.find?_cons_of_pos (hsame.refl x)⟩
        intro y hy hlike
        obtain ⟨kept, hkept, hstands⟩ := exists_mem_eraseDupsBy hsame hy
        exact hnew (List.any_eq_true.mpr ⟨kept, hkept, hsame.trans hlike hstands⟩)
      · rintro ⟨_, hlast⟩
        exact List.mem_singleton.mp (List.mem_of_find?_eq_some hlast)

end Equivalence

end CodeOutline
