/-!
# Sorting by a numeric key

`sortOn key` puts a list in ascending order of `key` by merge sort, so entries of
one key keep their order.  Where no two entries have one key, the order is
strict (`sortOn_strictlyAscending`), and then the entries alone determine the
list (`eq_of_ascending_of_mem_iff`).
-/

namespace ConceptRules

variable {Entry : Type}

/-- A list in ascending order of a key. -/
def sortOn (key : Entry → Nat) (entries : List Entry) : List Entry :=
  entries.mergeSort fun left right => key left ≤ key right

@[simp]
theorem mem_sortOn
    {key : Entry → Nat} {entries : List Entry} {entry : Entry} :
    entry ∈ sortOn key entries ↔ entry ∈ entries :=
  List.mem_mergeSort

/-- Entries may be changed before they are sorted or afterwards. -/
theorem sortOn_map
    {Image : Type} (key : Image → Nat) (change : Entry → Image)
    (entries : List Entry) :
    sortOn key (entries.map change) =
      (sortOn (fun original => key (change original)) entries).map change := by
  symm
  apply List.map_mergeSort
  intro left _ right _
  rfl

/-- Entries of different keys are strictly ascending once they are sorted. -/
theorem sortOn_strictlyAscending
    {key : Entry → Nat} {entries : List Entry}
    (distinct : (entries.map key).Nodup) :
    (sortOn key entries).Pairwise
      fun left right => key left < key right := by
  have ascending :
      (sortOn key entries).Pairwise fun left right =>
        decide (key left ≤ key right) = true := by
    apply List.pairwise_mergeSort
    · intro first second third
      simpa only [decide_eq_true_eq] using Nat.le_trans
    · intro left right
      simpa only [Bool.or_eq_true, decide_eq_true_eq] using
        Nat.le_total (key left) (key right)
  have sortedDistinct : ((sortOn key entries).map key).Nodup :=
    ((List.mergeSort_perm entries _).map key).nodup_iff.2 distinct
  refine (ascending.and (List.pairwise_map.1 sortedDistinct)).imp ?_
  intro left right ordered
  exact Nat.lt_of_le_of_ne (of_decide_eq_true ordered.1) ordered.2

/-! ## Strictly ascending lists -/

theorem nodup_of_ascending
    (key : Entry → Nat) {entries : List Entry}
    (ascending : entries.Pairwise
      fun earlier later => key earlier < key later) :
    entries.Nodup := by
  refine ascending.imp ?_
  rintro earlier later precedes rfl
  exact Nat.lt_irrefl _ precedes

/-- A strictly ascending list is told apart by its entries. -/
theorem eq_of_ascending_of_mem_iff
    (key : Entry → Nat) {left right : List Entry}
    (leftAscending : left.Pairwise
      fun earlier later => key earlier < key later)
    (rightAscending : right.Pairwise
      fun earlier later => key earlier < key later)
    (sameEntries : ∀ entry, entry ∈ left ↔ entry ∈ right) :
    left = right := by
  have rearranged : left.Perm right :=
    (List.perm_ext_iff_of_nodup (nodup_of_ascending key leftAscending)
      (nodup_of_ascending key rightAscending)).2 sameEntries
  refine rearranged.eq_of_pairwise ?_ leftAscending rightAscending
  intro earlier later _ _ precedes follows
  exact absurd follows (Nat.lt_asymm precedes)

end ConceptRules
