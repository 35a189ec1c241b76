import Mathlib.Data.List.Induction
import Mathlib.Data.List.Nodup
import SparkLog.Distinct

/-!
# Laws of distinct items

`distinct` keeps the items of a list, each once. It is one of the ways to go through items in which
an item that was met is settled: it stays so, and meeting it again changes nothing (`Settles`). So
items that were met may be appended (`Settles.fold_append`). Erasing duplicates by a relation of its
own is told item by item from the end (`erase_dups_by_concat`).
-/

namespace SparkLog

variable {σ ι : Type} {step : σ → ι → σ} {settled : σ → ι → Prop}

/-- A step settles its item: the item stays settled, and a step with a settled item does nothing. -/
structure Settles (step : σ → ι → σ) (settled : σ → ι → Prop) : Prop where
  own : ∀ state item, settled (step state item) item
  stays : ∀ state item other, settled state other → settled (step state item) other
  idle : ∀ state item, settled state item → step state item = state

namespace Settles

variable (h : Settles step settled)
include h

/-- What is settled stays so over a run. -/
theorem fold_stays {state : σ} {item : ι} (hitem : settled state item) (items : List ι) :
    settled (items.foldl step state) item := by
  induction items generalizing state with
  | nil => exact hitem
  | cons first rest ih => exact ih (h.stays state first item hitem)

/-- A run settles its items. -/
theorem fold_mem {items : List ι} {item : ι} (hmem : item ∈ items) (state : σ) :
    settled (items.foldl step state) item := by
  induction items generalizing state with
  | nil => cases hmem
  | cons first rest ih =>
      obtain rfl | hmem := List.mem_cons.mp hmem
      · exact h.fold_stays (h.own state item) rest
      · exact ih hmem (step state first)

/-- A run over settled items does nothing. -/
theorem fold_idle {state : σ} {items : List ι} (hitems : ∀ item ∈ items, settled state item) :
    items.foldl step state = state := by
  induction items with
  | nil => rfl
  | cons first rest ih =>
      obtain ⟨hfirst, hrest⟩ := List.forall_mem_cons.mp hitems
      rw [List.foldl_cons, h.idle state first hfirst, ih hrest]

/-- Items that were met may be met again. -/
theorem fold_append {items again : List ι} (hagain : again ⊆ items) (state : σ) :
    (items ++ again).foldl step state = items.foldl step state := by
  rw [List.foldl_append]
  exact h.fold_idle fun item hmem => h.fold_mem (hagain hmem) state

end Settles

section Distinct

variable {α : Type} [BEq α] [LawfulBEq α] {items again : List α}

/-- Keeping an item settles it. -/
theorem settles_distinct :
    Settles (fun (seen : List α) item => if seen.contains item then seen else seen ++ [item])
      fun seen item => item ∈ seen where
  own := by
    intro seen item
    split <;> simp_all
  stays := by
    intro seen item other hother
    split <;> simp [hother]
  idle := by
    intro seen item hitem
    simp [hitem]

/-- Items that are there may be appended. -/
theorem distinct_append (hagain : again ⊆ items) : distinct (items ++ again) = distinct items :=
  settles_distinct.fold_append hagain []

/-- No item is met twice among distinct items. -/
theorem distinct_nodup (items : List α) : (distinct items).Nodup := by
  refine List.foldlRecOn items _ List.nodup_nil fun seen h item _ => ?_
  split
  · exact h
  · rename_i hnew
    rw [List.contains_iff_mem] at hnew
    rw [← List.concat_eq_append]
    exact h.concat hnew

omit [LawfulBEq α] in
/-- The distinct items are what is left when duplicates are erased. -/
theorem distinct_eq_erase_dups (items : List α) : distinct items = items.eraseDups := by
  suffices hfold : ∀ seen : List α,
      items.foldl (fun seen item => if seen.contains item then seen else seen ++ [item])
        seen.reverse = List.eraseDupsBy.loop (· == ·) items seen from hfold []
  induction items with
  | nil => exact fun seen => rfl
  | cons first rest ih =>
      intro seen
      rw [List.foldl_cons, List.eraseDupsBy.loop, List.contains_reverse, List.contains_eq_any_beq]
      cases seen.any (first == ·) with
      | true => exact ih seen
      | false =>
          rw [if_neg Bool.false_ne_true, ← List.reverse_cons]
          exact ih (first :: seen)

/-- The distinct items are the items. -/
theorem mem_distinct {item : α} : item ∈ distinct items ↔ item ∈ items := by
  rw [distinct_eq_erase_dups]
  exact List.mem_eraseDups

/-- Items that differ are distinct as they are. -/
theorem distinct_of_nodup (h : items.Nodup) : distinct items = items := by
  induction items using List.reverseRecOn with
  | nil => rfl
  | append_singleton items last ih =>
      obtain ⟨hitems, -, hlast⟩ := List.nodup_append.mp h
      have hnew : last ∉ items := fun hmem =>
        hlast last hmem last (List.mem_singleton_self last) rfl
      unfold distinct at ih ⊢
      rw [List.foldl_concat, ih hitems]
      simp [hnew]

end Distinct

/-! ## First items -/

section First

variable {α : Type} {again : α → α → Bool} {items : List α} {item : α}

/-- Behind a list whose duplicates are erased, an item stays unless it comes again. -/
theorem erase_dups_by_concat : (items ++ [item]).eraseDupsBy again =
    if (items.eraseDupsBy again).any (again item) then items.eraseDupsBy again
    else items.eraseDupsBy again ++ [item] := by
  suffices hloop : ∀ seen : List α, List.eraseDupsBy.loop again (items ++ [item]) seen =
      if (List.eraseDupsBy.loop again items seen).any (again item) then
        List.eraseDupsBy.loop again items seen
      else List.eraseDupsBy.loop again items seen ++ [item] from hloop []
  induction items with
  | nil =>
      intro seen
      simp only [List.nil_append, List.eraseDupsBy.loop, List.any_reverse]
      cases seen.any (again item) <;> simp
  | cons first rest ih =>
      intro seen
      rw [List.cons_append, List.eraseDupsBy.loop, List.eraseDupsBy.loop]
      cases seen.any (again first) with
      | true => exact ih seen
      | false => exact ih (first :: seen)

/-- Where coming again is transitive, an item comes again after a list exactly if it does after
what is left when duplicates are erased. -/
theorem any_erase_dups_by
    (htrans : ∀ a b c, again a b = true → again b c = true → again a c = true) :
    (items.eraseDupsBy again).any (again item) = items.any (again item) := by
  induction items using List.reverseRecOn with
  | nil => rfl
  | append_singleton items last ih =>
      rw [erase_dups_by_concat, List.any_append, ← ih]
      split
      · rename_i hlast
        -- The last item was erased for one that it comes again after.
        cases hitem : again item last with
        | false => simp [hitem]
        | true =>
            obtain ⟨kept, hkept, hagain⟩ := List.any_eq_true.mp hlast
            have hany : (items.eraseDupsBy again).any (again item) = true :=
              List.any_eq_true.mpr ⟨kept, hkept, htrans item last kept hitem hagain⟩
            simp [hany]
      · exact List.any_append

end First

end SparkLog
