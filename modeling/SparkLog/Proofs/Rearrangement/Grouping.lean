import SparkLog.Proofs.Keyed

/-!
# Items grouped by key

Items that are put into a collection of lists, each behind the items of the same key (`grouped`),
are told by the keys in order of arrival and by the items of each key (`grouped_entries`).
-/

namespace SparkLog

variable {κ α ι : Type} [BEq κ] {items others : List (κ × α)}

/-- Items grouped by key, keys and items in order of arrival. -/
def grouped (items : List (κ × α)) : Keyed κ (List α) :=
  items.foldl (fun table item => table.alter item.1 [] (· ++ [item.2])) .empty

/-- The items of a key, in order of arrival. -/
def itemsOf (items : List (κ × α)) (key : κ) : List α :=
  (items.filter fun item => item.1 == key).map Prod.snd

/-- One more item is put behind those of its key. -/
theorem grouped_append (items : List (κ × α)) (item : κ × α) :
    grouped (items ++ [item]) = (grouped items).alter item.1 [] (· ++ [item.2]) := by
  rw [grouped, List.foldl_append]
  rfl

/-- The items of a key do not depend on the order of all items, but for their own order. -/
theorem items_of_perm (hperm : items.Perm others) (key : κ) :
    (itemsOf items key).Perm (itemsOf others key) :=
  (hperm.filter _).map _

/-- Many changes leave keys that are apart. -/
theorem fold_alter_apart (key : ι → κ) (default : α) (change : ι → α → α) (things : List ι) :
    (things.foldl (fun table thing => table.alter (key thing) default (change thing))
      Keyed.empty).Apart (· == ·) := by
  induction things using List.reverseRecOn with
  | nil => exact .nil
  | append_singleton before thing ih =>
      rw [List.foldl_append]
      exact ih.insert_by _ _

/-- The keys of groups are apart. -/
theorem grouped_apart (items : List (κ × α)) : (grouped items).Apart (· == ·) :=
  fold_alter_apart Prod.fst [] (fun item group => group ++ [item.2]) items

variable [LawfulBEq κ]

/-- The items of a key are those that come under it. -/
theorem mem_items_of {key : κ} {item : α} : item ∈ itemsOf items key ↔ (key, item) ∈ items := by
  simp [itemsOf]

/-- What many changes leave under a key is told by the changes of that key. -/
theorem find_fold_alter (key : ι → κ) (default : α) (change : ι → α → α) (things : List ι)
    (wanted : κ) :
    (things.foldl (fun table thing => table.alter (key thing) default (change thing))
        Keyed.empty).find? wanted =
      (things.filter fun thing => key thing == wanted).foldl
        (fun found thing => some (change thing (found.getD default))) none := by
  induction things using List.reverseRecOn with
  | nil => rfl
  | append_singleton before thing ih =>
      rw [List.foldl_append, List.filter_append, List.foldl_append, ← ih]
      show (Keyed.insert _ _ _).find? wanted = _
      rw [Keyed.find_insert]
      by_cases hkey : key thing = wanted
      · subst hkey
        simp
      · simp [hkey]

/-- The group of a key holds the items of that key. -/
theorem find_grouped (items : List (κ × α)) (key : κ) :
    ((grouped items).find? key).getD [] = itemsOf items key := by
  induction items using List.reverseRecOn with
  | nil => rfl
  | append_singleton before item ih =>
      rw [grouped_append, Keyed.alter, Keyed.find_insert, itemsOf, List.filter_append,
        List.map_append]
      by_cases hkey : item.1 = key
      · subst hkey
        simp [ih, itemsOf]
      · simp [hkey, ih, itemsOf]

/-- The keys of groups are those of the items. -/
theorem mem_keys_grouped {key : κ} : key ∈ (grouped items).keys ↔ ∃ item ∈ items, item.1 = key := by
  induction items using List.reverseRecOn with
  | nil => simp [grouped, Keyed.keys]
  | append_singleton before item ih =>
      have hknown : (grouped before).keys.any (· == item.1) = true ↔
          item.1 ∈ (grouped before).keys := by
        simp
      rw [grouped_append, Keyed.alter, Keyed.insert, Keyed.keys_insert_by]
      simp only [List.mem_append, List.mem_singleton, or_and_right, exists_or,
        exists_eq_left, ← ih]
      split
      · rename_i h
        refine ⟨.inl, fun hor => hor.elim id ?_⟩
        rintro rfl
        exact hknown.mp h
      · simp [eq_comm]

/-- Groups are told by the keys and the items of each key. -/
theorem grouped_entries (items : List (κ × α)) :
    (grouped items).entries = (grouped items).keys.map fun key => (key, itemsOf items key) := by
  rw [Keyed.keys, List.map_map]
  refine (List.map_id _).symm.trans (List.map_congr_left fun entry hmem => ?_)
  have hfound := (grouped_apart items).find_by_of_mem beq_equivalence hmem (beq_self_eq_true _)
  have hitems := find_grouped items entry.1
  rw [Keyed.find?, hfound] at hitems
  exact Prod.ext rfl hitems

/-- The keys of groups do not depend on the order of items, but for the order of keys. -/
theorem keys_grouped_perm (hperm : items.Perm others) :
    (grouped items).keys.Perm (grouped others).keys := by
  have hkeys := (grouped_apart items).nodup
  have hothers := (grouped_apart others).nodup
  refine (List.perm_ext_iff_of_nodup hkeys hothers).mpr fun key => ?_
  simp only [mem_keys_grouped, hperm.mem_iff]

end SparkLog
