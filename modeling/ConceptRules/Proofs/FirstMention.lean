import Mathlib.Data.List.Induction
import Mathlib.Data.List.Nodup

/-!
# First mentions

To erase repetitions from a list is to keep of each entry the place where it is
mentioned first.  A list that is read entry by entry, with an entry put down
unless it was put down before, ends up the same (`eraseDups_concat_of_mem` and
`eraseDups_concat_of_not_mem`).
-/

namespace ConceptRules

variable {Entry : Type} [DecidableEq Entry] {entry : Entry}
  {entries : List Entry}

theorem eraseDups_concat_of_mem (mentioned : entry ∈ entries) :
    (entries ++ [entry]).eraseDups = entries.eraseDups := by
  have noneNew : [entry].removeAll entries = [] := by
    simp [List.removeAll, mentioned]
  rw [List.eraseDups_append, noneNew, List.eraseDups_nil, List.append_nil]

theorem eraseDups_concat_of_not_mem (isNew : entry ∉ entries) :
    (entries ++ [entry]).eraseDups = entries.eraseDups ++ [entry] := by
  have oneNew : [entry].removeAll entries = [entry] := by
    simp [List.removeAll, isNew]
  rw [List.eraseDups_append, oneNew]
  rfl

/-- The entries that are kept are in the order of their first mentions. -/
theorem eraseDups_inOrder (entries : List Entry) :
    entries.eraseDups.Pairwise fun earlier later =>
      entries.idxOf earlier < entries.idxOf later := by
  induction entries using List.reverseRecOn with
  | nil => exact List.Pairwise.nil
  | append_singleton entries entry inductionHypothesis =>
      -- a further entry does not move the first mentions of those before it
      have unmoved :
          entries.eraseDups.Pairwise fun earlier later =>
            (entries ++ [entry]).idxOf earlier <
              (entries ++ [entry]).idxOf later := by
        refine inductionHypothesis.imp_of_mem ?_
        intro earlier later earlierMember laterMember inOrder
        rwa [List.idxOf_append_of_mem (List.mem_eraseDups.1 earlierMember),
          List.idxOf_append_of_mem (List.mem_eraseDups.1 laterMember)]
      by_cases mentioned : entry ∈ entries
      · rw [eraseDups_concat_of_mem mentioned]
        exact unmoved
      · rw [eraseDups_concat_of_not_mem mentioned]
        refine List.pairwise_append.2
          ⟨unmoved, List.pairwise_singleton _ _, ?_⟩
        intro earlier earlierMember last isLast
        have member := List.mem_eraseDups.1 earlierMember
        rw [List.mem_singleton.1 isLast, List.idxOf_append_of_mem member,
          List.idxOf_append_of_notMem mentioned]
        exact Nat.lt_of_lt_of_le (List.idxOf_lt_length_of_mem member)
          (Nat.le_add_right _ _)

/-- A list without repetition stays as it is. -/
theorem eraseDups_eq_self (distinct : entries.Nodup) :
    entries.eraseDups = entries := by
  induction entries using List.reverseRecOn with
  | nil => rfl
  | append_singleton entries entry inductionHypothesis =>
      rw [← List.concat_eq_append, List.nodup_concat] at distinct
      obtain ⟨isNew, othersDistinct⟩ := distinct
      rw [eraseDups_concat_of_not_mem isNew,
        inductionHypothesis othersDistinct]

end ConceptRules
