import Mathlib.Algebra.Order.Ring.Int
import Mathlib.Data.List.Nodup
import SparkLog.Metrics.Tables
import SparkLog.Order
import SparkLog.Proofs.Distinct

/-!
# What does not depend on the order of items

Sums and largest values do not depend on the order of the items (`total_perm`, `max_perm`), nor do
the members of `distinct`. Sorting does not either, if no two items have the same keys
(`sort_by_keys_perm`), nor if repetitions are erased afterwards (`sorted_erase_reps_congr`). Things
with the same keys keep their order (`sort_by_keys_filter`). Distinct integers in increasing order
are sorted strictly (`increasing_sorted`).
-/

namespace SparkLog

/-! ## Sorting -/

section Lex

variable {a b c : List Int}

/-- A list of keys is in front of another one, or behind it. -/
theorem lex_le_total (a b : List Int) : (lexLe a b || lexLe b a) = true := by
  induction a generalizing b with
  | nil => rfl
  | cons first rest ih =>
      cases b with
      | nil => rfl
      | cons second others =>
          simp only [lexLe, Bool.or_eq_true, Bool.and_eq_true, decide_eq_true_eq, beq_iff_eq]
          have hrest := ih others
          rw [Bool.or_eq_true] at hrest
          obtain hlt | rfl | hgt := Int.lt_trichotomy first second
          · exact .inl (.inl hlt)
          · exact hrest.imp (fun h => .inr ⟨rfl, h⟩) fun h => .inr ⟨rfl, h⟩
          · exact .inr (.inl hgt)

/-- The order of lists of keys is transitive. -/
theorem lex_le_trans (h : lexLe a b = true) (h' : lexLe b c = true) : lexLe a c = true := by
  induction a generalizing b c with
  | nil => rfl
  | cons first rest ih =>
      cases b with
      | nil => cases h
      | cons second others =>
          cases c with
          | nil => cases h'
          | cons third more =>
              simp only [lexLe, Bool.or_eq_true, Bool.and_eq_true, decide_eq_true_eq,
                beq_iff_eq] at h h' ⊢
              obtain hlt | ⟨rfl, hrest⟩ := h
              · exact .inl (by omega)
              · obtain hlt | ⟨rfl, hothers⟩ := h'
                · exact .inl hlt
                · exact .inr ⟨rfl, ih hrest hothers⟩

/-- Lists of keys that are in front of each other are the same. -/
theorem lex_le_antisymm (h : lexLe a b = true) (h' : lexLe b a = true) : a = b := by
  induction a generalizing b with
  | nil =>
      cases b with
      | nil => rfl
      | cons second others => cases h'
  | cons first rest ih =>
      cases b with
      | nil => cases h
      | cons second others =>
          simp only [lexLe, Bool.or_eq_true, Bool.and_eq_true, decide_eq_true_eq,
            beq_iff_eq] at h h'
          obtain ⟨rfl, hrest⟩ := h.resolve_left (by omega)
          obtain ⟨-, hothers⟩ := h'.resolve_left (by omega)
          rw [ih hrest hothers]

end Lex

section SortByKeys

variable {α β : Type} {keys : α → List Int} {items others : List α}

/-- Things are sorted if each is not behind those that follow it. -/
theorem sort_by_keys_sorted (keys : α → List Int) (items : List α) :
    (sortByKeys keys items).Pairwise fun a b => lexLe (keys a) (keys b) = true :=
  @List.pairwise_mergeSort α (fun a b => lexLe (keys a) (keys b))
    (fun _ _ _ h h' => lex_le_trans h h') (fun a b => lex_le_total (keys a) (keys b)) items

/-- Entries under different integers are sorted strictly. -/
theorem sort_by_id_strict {entries : List (Int × α)} (h : (entries.map Prod.fst).Nodup) :
    (sortByKeys (fun entry => [entry.1]) entries).Pairwise fun a b => a.1 < b.1 := by
  have hsorted := sort_by_keys_sorted (fun entry : Int × α => [entry.1]) entries
  have hids : ((sortByKeys (fun entry => [entry.1]) entries).map Prod.fst).Nodup :=
    (((List.mergeSort_perm entries _).map Prod.fst).nodup_iff).mpr h
  refine (hsorted.and (List.pairwise_map.mp hids)).imp fun ⟨hle, hne⟩ => ?_
  simp only [lexLe, Bool.and_true, Bool.or_eq_true, decide_eq_true_eq, beq_iff_eq] at hle
  omega

/-- Sorting does not depend on the order of things if no two have the same keys. -/
theorem sort_by_keys_perm (hperm : items.Perm others)
    (hkeys : ∀ a ∈ items, ∀ b ∈ items, keys a = keys b → a = b) :
    sortByKeys keys items = sortByKeys keys others := by
  have hsorted : (sortByKeys keys items).Perm (sortByKeys keys others) :=
    (List.mergeSort_perm items _).trans (hperm.trans (List.mergeSort_perm others _).symm)
  -- Of two sorted lists with the same items, one could only differ where keys are equal.
  refine List.Perm.eq_of_pairwise (fun a b ha hb hle hle' => ?_) (sort_by_keys_sorted keys items)
    (sort_by_keys_sorted keys others) hsorted
  have hitem : a ∈ items := List.mem_mergeSort.mp ha
  have hother : b ∈ items := hperm.mem_iff.mpr (List.mem_mergeSort.mp hb)
  exact hkeys a hitem b hother (lex_le_antisymm hle hle')

/-- Sorting does not depend on the order of things if different identifiers stand for different
keys. -/
theorem sort_by_keys_of_nodup (keys : α → List Int) (ids : α → β)
    (hperm : items.Perm others) (hids : (items.map ids).Nodup)
    (hkeys : ∀ a b, keys a = keys b → ids a = ids b) :
    sortByKeys keys items = sortByKeys keys others :=
  sort_by_keys_perm hperm fun a ha b hb hsame =>
    List.inj_on_of_nodup_map hids ha hb (hkeys a b hsame)

/-- Sorting some of the things does not depend on the order of all of them either. -/
theorem sort_selected_of_nodup (keys : α → List Int) (ids : α → β) (hperm : items.Perm others)
    (hids : (items.map ids).Nodup) (hkeys : ∀ a b, keys a = keys b → ids a = ids b)
    (select : α → Bool) :
    sortByKeys keys (items.filter select) = sortByKeys keys (others.filter select) :=
  sort_by_keys_of_nodup keys ids (hperm.filter select) (hids.sublist (List.filter_sublist.map ids))
    hkeys

/-- Things that are made of others with the same keys are sorted as these are. -/
theorem sort_by_keys_map {keys : β → List Int} (make : α → β) (items : List α) :
    sortByKeys keys (items.map make) = (sortByKeys (fun item => keys (make item)) items).map make :=
  (@List.map_mergeSort α β (fun a b => lexLe (keys (make a)) (keys (make b)))
    (fun a b => lexLe (keys a) (keys b)) make items fun _ _ _ _ => rfl).symm

/-- Sorting keeps the order of things of which each may stand in front of the others. -/
theorem merge_sort_filter {le : α → α → Bool}
    (htrans : ∀ a b c, le a b = true → le b c = true → le a c = true)
    (htotal : ∀ a b, (le a b || le b a) = true) (items : List α) {select : α → Bool}
    (hsame : ∀ a b, select a = true → select b = true → le a b = true) :
    (items.mergeSort le).filter select = items.filter select := by
  have hselected : ∀ a ∈ items.filter select, select a = true := fun a hmem =>
    (List.mem_filter.mp hmem).2
  have hpairwise : (items.filter select).Pairwise fun a b => le a b = true :=
    List.pairwise_of_forall_mem_list fun a ha b hb => hsame a b (hselected a ha) (hselected b hb)
  have hsorted : (items.filter select).Sublist (items.mergeSort le) :=
    List.sublist_mergeSort htrans htotal hpairwise List.filter_sublist
  have hfilter := hsorted.filter select
  simp only [List.filter_filter, Bool.and_self] at hfilter
  have hperm : ((items.mergeSort le).filter select).Perm (items.filter select) :=
    (List.mergeSort_perm items le).filter select
  exact (hfilter.eq_of_length hperm.length_eq.symm).symm

/-- Sorting keeps the order of things with the same keys. -/
theorem sort_by_keys_filter (keys : α → List Int) (items : List α) {select : α → Bool}
    (hsame : ∀ a b, select a = true → select b = true → keys a = keys b) :
    (sortByKeys keys items).filter select = items.filter select := by
  refine @merge_sort_filter α (fun a b => lexLe (keys a) (keys b))
    (fun _ _ _ h h' => lex_le_trans h h') (fun a b => lex_le_total (keys a) (keys b)) items select
    fun a b ha hb => ?_
  have htotal := lex_le_total (keys b) (keys b)
  rw [hsame a b ha hb]
  exact (Bool.or_self _).symm.trans htotal

end SortByKeys

/-! ## Repetitions in sorted lists -/

section EraseReps

variable {α : Type} [BEq α] {items others : List α} {le : α → α → Prop}

/-- What was kept before stands in front of what is kept. -/
theorem erase_reps_loop (first : α) (rest before : List α) :
    List.eraseRepsBy.loop (· == ·) first rest before =
      before.reverse ++ List.eraseRepsBy.loop (· == ·) first rest [] := by
  induction rest generalizing first before with
  | nil => simp [List.eraseRepsBy.loop]
  | cons next rest ih =>
      simp only [List.eraseRepsBy.loop]
      cases first == next with
      | true => exact ih first before
      | false =>
          simp only
          rw [ih next (first :: before), ih next [first]]
          simp

/-- The first of two neighbours goes if they are the same. -/
theorem erase_reps_cons_cons (first next : α) (rest : List α) :
    (first :: next :: rest).eraseReps =
      if first == next then (first :: rest).eraseReps else first :: (next :: rest).eraseReps := by
  simp only [List.eraseReps, List.eraseRepsBy, List.eraseRepsBy.loop]
  cases first == next with
  | true => rfl
  | false => exact erase_reps_loop next rest [first]

variable [LawfulBEq α]

/-- Erasing repetitions keeps the members. -/
theorem mem_erase_reps {item : α} : item ∈ items.eraseReps ↔ item ∈ items := by
  cases items with
  | nil => rfl
  | cons first rest =>
      induction rest generalizing first with
      | nil => rfl
      | cons next rest ih =>
          rw [erase_reps_cons_cons]
          split
          · rename_i hsame
            obtain rfl := eq_of_beq hsame
            rw [ih]
            simp
          · rw [List.mem_cons, ih, List.mem_cons (a := item) (b := first)]

/-- In a sorted list whose repetitions are erased, every item stands strictly in front of those that
follow it. -/
theorem erase_reps_sorted (hsorted : items.Pairwise le)
    (hanti : ∀ a ∈ items, ∀ b ∈ items, le a b → le b a → a = b) :
    items.eraseReps.Pairwise fun a b => le a b ∧ a ≠ b := by
  cases items with
  | nil => exact .nil
  | cons first rest =>
      induction rest generalizing first with
      | nil => exact List.pairwise_singleton _ _
      | cons next rest ih =>
          obtain ⟨hfirst, hrest⟩ := List.pairwise_cons.mp hsorted
          rw [erase_reps_cons_cons]
          split
          · rename_i hsame
            obtain rfl := eq_of_beq hsame
            exact ih first hrest fun a ha b hb =>
              hanti a (List.mem_cons_of_mem _ ha) b (List.mem_cons_of_mem _ hb)
          · rename_i hother
            refine List.pairwise_cons.mpr ⟨fun other hmem => ?_, ih next hrest fun a ha b hb =>
              hanti a (List.mem_cons_of_mem _ ha) b (List.mem_cons_of_mem _ hb)⟩
            rw [mem_erase_reps] at hmem
            refine ⟨hfirst other hmem, ?_⟩
            rintro rfl
            -- An item that came back would stand in front of its neighbour and behind it.
            obtain rfl | hmem := List.mem_cons.mp hmem
            · exact hother (beq_self_eq_true _)
            · have hle := hfirst next List.mem_cons_self
              have hge := (List.pairwise_cons.mp hrest).1 first hmem
              have hnext : next ∈ first :: next :: rest :=
                List.mem_cons_of_mem _ List.mem_cons_self
              exact hother (beq_iff_eq.mpr (hanti first List.mem_cons_self next hnext hle hge))

/-- Sorting items and erasing their repetitions depends on the members alone, if no two of them
stand at the same place. -/
theorem sorted_erase_reps_congr {le : α → α → Bool}
    (htrans : ∀ a b c, le a b = true → le b c = true → le a c = true)
    (htotal : ∀ a b, (le a b || le b a) = true)
    (hanti : ∀ a ∈ items, ∀ b ∈ items, le a b = true → le b a = true → a = b)
    (hmembers : ∀ item, item ∈ items ↔ item ∈ others) :
    (items.mergeSort le).eraseReps = (others.mergeSort le).eraseReps := by
  have hsorted (list : List α) (hlist : ∀ a ∈ list, a ∈ items) :
      (list.mergeSort le).eraseReps.Pairwise fun a b => le a b = true ∧ a ≠ b :=
    erase_reps_sorted (List.pairwise_mergeSort htrans htotal list) fun a ha b hb =>
      hanti a (hlist a (List.mem_mergeSort.mp ha)) b (hlist b (List.mem_mergeSort.mp hb))
  have hfirst := hsorted items fun _ h => h
  have hsecond := hsorted others fun _ h => (hmembers _).mpr h
  have hmem (list : List α) (item : α) : item ∈ (list.mergeSort le).eraseReps ↔ item ∈ list := by
    rw [mem_erase_reps, List.mem_mergeSort]
  have hperm : (items.mergeSort le).eraseReps.Perm (others.mergeSort le).eraseReps :=
    (List.perm_ext_iff_of_nodup (hfirst.imp And.right) (hsecond.imp And.right)).mpr fun item => by
      rw [hmem, hmem, hmembers]
  refine List.Perm.eq_of_pairwise (fun a b ha hb hle hge => ?_) hfirst hsecond hperm
  exact hanti a ((hmem items a).mp ha) b ((hmembers b).mpr ((hmem others b).mp hb)) hle.1 hge.1

end EraseReps

/-! ## Distinct integers in increasing order -/

/-- Integers are sorted by their order. -/
theorem merge_sort_sorted (numbers : List Int) :
    (numbers.mergeSort fun a b => decide (a ≤ b)).Pairwise fun a b => a ≤ b := by
  simpa using @List.pairwise_mergeSort Int (fun a b => decide (a ≤ b))
    (fun a b c h h' => by simp only [decide_eq_true_eq] at h h' ⊢; omega)
    (fun a b => by simp only [Bool.or_eq_true, decide_eq_true_eq]; omega) numbers

/-- The distinct integers of a list in increasing order do not depend on the order of the list. -/
theorem increasing_perm {items others : List Int} (hperm : items.Perm others) :
    Metrics.increasing items = Metrics.increasing others := by
  have hsame : (items.mergeSort fun a b => decide (a ≤ b)).Perm
      (others.mergeSort fun a b => decide (a ≤ b)) :=
    (List.mergeSort_perm items _).trans (hperm.trans (List.mergeSort_perm others _).symm)
  rw [Metrics.increasing, Metrics.increasing,
    List.Perm.eq_of_pairwise (fun a b _ _ hle hge => Int.le_antisymm hle hge)
      (merge_sort_sorted items) (merge_sort_sorted others) hsame]

/-- The distinct integers of a list are those of the list. -/
theorem mem_increasing {items : List Int} {n : Int} : n ∈ Metrics.increasing items ↔ n ∈ items := by
  rw [Metrics.increasing, mem_erase_reps, List.mem_mergeSort]

/-- The distinct integers of a list come strictly one after the other. -/
theorem increasing_sorted (items : List Int) : (Metrics.increasing items).Pairwise (· < ·) :=
  (erase_reps_sorted (merge_sort_sorted items) fun _ _ _ _ => Int.le_antisymm).imp
    fun h => lt_of_le_of_ne h.1 h.2

/-! ## Sums, largest values and distinct items -/

/-- The sum of integers adds them up. -/
theorem total_eq_sum (items : List Int) : total items = items.sum := by
  induction items with
  | nil => rfl
  | cons n rest ih => rw [total, ih, List.sum_cons]

/-- A sum does not depend on the order. -/
theorem total_perm {items others : List Int} (hperm : items.Perm others) :
    total items = total others := by
  induction hperm with
  | nil => rfl
  | cons item _ ih => rw [total, total, ih]
  | swap first second rest =>
      simp only [total]
      omega
  | trans _ _ ih ih' => exact ih.trans ih'

/-- The largest integer does not depend on the order. -/
theorem max_perm {items others : List Int} (hperm : items.Perm others) :
    items.max? = others.max? := by
  refine Option.ext fun largest => ?_
  simp only [List.max?_eq_some_iff, hperm.mem_iff]

/-- The smallest integer does not depend on the order. -/
theorem min_perm {items others : List Int} (hperm : items.Perm others) :
    items.min? = others.min? := by
  refine Option.ext fun smallest => ?_
  simp only [List.min?_eq_some_iff, hperm.mem_iff]

section Distinct

variable {α : Type} [BEq α] [LawfulBEq α] {items others : List α}

/-- Distinct items of the same members are the same, but for their order. -/
theorem distinct_perm (h : ∀ item, item ∈ items ↔ item ∈ others) :
    (distinct items).Perm (distinct others) := by
  refine (List.perm_ext_iff_of_nodup (distinct_nodup items) (distinct_nodup others)).mpr ?_
  intro item
  rw [mem_distinct, mem_distinct, h]

end Distinct

end SparkLog
