import Mathlib.Data.List.Forall2
import SparkLog.Schema.Field

/-!
# Outcomes of computations that may fail

Inversion of computations that succeed: a chain succeeds exactly when each of its parts does
(`bind_eq_ok_iff`), and so does a record that is read field by field (`Checked.seq_eq_ok_iff`;
`Checked.Ensures.seq` for records of many fields).
`Interrupts` tells the failures that no record is left out for, and has the same laws: a chain
interrupts exactly when one of its parts does and the parts before that succeed.
-/

namespace SparkLog

variable {α β : Type}

/-! ## Success -/

/-- A chain succeeds exactly when both of its parts do. -/
theorem bind_eq_ok_iff {outcome : Except Failure α} {next : α → Except Failure β} {value : β} :
    (outcome >>= next) = .ok value ↔ ∃ first, outcome = .ok first ∧ next first = .ok value := by
  cases outcome <;> simp [bind, Except.bind]

/-- A chain succeeds if its first part does, and its second part for what the first one gives. -/
theorem bind_ok {outcome : Except Failure α} {next : α → Except Failure β}
    (hfirst : ∃ first, outcome = .ok first)
    (hnext : ∀ first, outcome = .ok first → ∃ value, next first = .ok value) :
    ∃ value, (outcome >>= next) = .ok value := by
  obtain ⟨first, hfirst⟩ := hfirst
  obtain ⟨value, hvalue⟩ := hnext first hfirst
  exact ⟨value, bind_eq_ok_iff.mpr ⟨first, hfirst, hvalue⟩⟩

/-- A pure outcome succeeds with its value. -/
theorem pure_eq_ok_iff {first value : α} :
    (pure first : Except Failure α) = .ok value ↔ first = value := by
  simp [pure, Except.pure]

/-- The value of an outcome, if it succeeds. -/
theorem to_option_eq_some_iff {outcome : Except Failure α} {value : α} :
    outcome.toOption = some value ↔ outcome = .ok value := by
  cases outcome <;> simp [Except.toOption]

/-- A mapped outcome succeeds exactly when the outcome does. -/
theorem map_eq_ok_iff {outcome : Except Failure α} {f : α → β} {value : β} :
    (f <$> outcome) = .ok value ↔ ∃ first, outcome = .ok first ∧ f first = value := by
  cases outcome <;> simp [Functor.map, Except.map]

/-- Items succeed one after the other exactly when every one of them does. -/
theorem map_m_eq_ok_iff {f : α → Except Failure β} {items : List α} {values : List β} :
    items.mapM f = .ok values ↔ items.map f = values.map .ok := by
  induction items generalizing values with
  | nil => cases values <;> simp [pure, Except.pure]
  | cons item rest ih =>
      simp only [List.mapM_cons, bind_eq_ok_iff, pure_eq_ok_iff, ih, List.map_cons]
      cases values with
      | nil => simp
      | cons value values =>
          simp only [List.map_cons, List.cons.injEq]
          constructor
          · rintro ⟨_, hitem, _, hrest, rfl, rfl⟩
            exact ⟨hitem, hrest⟩
          · rintro ⟨hitem, hrest⟩
            exact ⟨value, hitem, values, hrest, rfl, rfl⟩

/-- Items that succeed one after the other are paired with their values. -/
theorem paired_of_map_m {f : α → Except Failure β} {items : List α} {values : List β}
    (h : items.mapM f = .ok values) :
    List.Forall₂ (fun item value => f item = .ok value) items values := by
  rw [map_m_eq_ok_iff] at h
  have hlength : items.length = values.length := by
    simpa using congrArg List.length h
  refine List.forall₂_iff_get.mpr ⟨hlength, fun k hk hk' => ?_⟩
  have hget := congrArg (·[k]?) h
  simpa [hk, hk'] using hget

/-- What is paired with something is paired with an item. -/
theorem exists_of_paired {R : α → β → Prop} {items : List α} {others : List β}
    (h : List.Forall₂ R items others) {other : β} (hmem : other ∈ others) :
    ∃ item ∈ items, R item other := by
  induction h with
  | nil => cases hmem
  | cons hfirst _ ih =>
      obtain rfl | hmem := List.mem_cons.mp hmem
      · exact ⟨_, List.mem_cons_self, hfirst⟩
      · obtain ⟨item, hitem, hpaired⟩ := ih hmem
        exact ⟨item, List.mem_cons_of_mem _ hitem, hpaired⟩

/-- What is paired with what is paired with items is paired with the items. -/
theorem paired_trans {γ : Type} {R : α → β → Prop} {S : β → γ → Prop} {T : α → γ → Prop}
    (hstep : ∀ a b c, R a b → S b c → T a c) {items : List α} {others : List β} {more : List γ}
    (h : List.Forall₂ R items others) (h' : List.Forall₂ S others more) :
    List.Forall₂ T items more := by
  induction h generalizing more with
  | nil =>
      cases h'
      exact .nil
  | cons hfirst _ ih =>
      cases h' with
      | cons hother hrest => exact .cons (hstep _ _ _ hfirst hother) (ih hrest)

/-- Items that fail one after the other fail as one of them does. -/
theorem map_m_eq_error {f : α → Except Failure β} {items : List α} {failure : Failure}
    (h : items.mapM f = .error failure) : ∃ item ∈ items, f item = .error failure := by
  induction items with
  | nil => cases h
  | cons item rest ih =>
      rw [List.mapM_cons] at h
      cases hitem : f item with
      | error other =>
          rw [hitem] at h
          obtain rfl : other = failure := Except.error.inj h
          exact ⟨item, List.mem_cons_self, hitem⟩
      | ok value =>
          rw [hitem] at h
          cases hrest : rest.mapM f with
          | ok values =>
              rw [hrest] at h
              cases h
          | error other =>
              rw [hrest] at h
              obtain rfl : other = failure := Except.error.inj h
              obtain ⟨item', hmem, hfails⟩ := ih hrest
              exact ⟨item', List.mem_cons_of_mem _ hmem, hfails⟩

/-- Items succeed one after the other if each of them does. -/
theorem map_m_ok {f : α → Except Failure β} {items : List α}
    (h : ∀ item ∈ items, ∃ value, f item = .ok value) : ∃ values, items.mapM f = .ok values := by
  cases hvalues : items.mapM f with
  | ok values => exact ⟨values, rfl⟩
  | error failure =>
      obtain ⟨item, hmem, hfails⟩ := map_m_eq_error hvalues
      obtain ⟨value, hvalue⟩ := h item hmem
      cases hfails.symm.trans hvalue

/-- Items that succeed one after the other, each with values that are paired with things of its own,
have values that are paired with the things of all items. -/
theorem map_m_flatten_ok {γ : Type} {R : β → γ → Prop} {f : α → Except Failure (List γ)}
    {things : α → List β} {items : List α}
    (h : ∀ item ∈ items, ∃ values, f item = .ok values ∧ List.Forall₂ R (things item) values) :
    ∃ values, (items.mapM f >>= fun lists => pure lists.flatten) = .ok values ∧
      List.Forall₂ R (items.flatMap things) values := by
  obtain ⟨lists, hlists⟩ := map_m_ok fun item hmem => (h item hmem).imp fun _ hvalues => hvalues.1
  refine ⟨lists.flatten, bind_eq_ok_iff.mpr ⟨lists, hlists, rfl⟩, ?_⟩
  have hpaired := paired_of_map_m hlists
  clear hlists
  induction hpaired with
  | nil => exact .nil
  | cons hfirst _ ih =>
      obtain ⟨⟨values, hvalues, hthings⟩, hrest⟩ := List.forall_mem_cons.mp h
      obtain rfl := Except.ok.inj (hfirst.symm.trans hvalues)
      rw [List.flatMap_cons, List.flatten_cons]
      exact List.rel_append hthings (ih hrest)

/-- A record is accepted exactly when it has no fault. -/
theorem Schema.accept_eq_ok_iff {record : String} {checked : Checked α} {value : α} :
    Schema.accept record checked = .ok value ↔ checked = .ok value := by
  cases checked <;> simp [Schema.accept]

/-- A floating-point number that is read as an integer equals it. -/
theorem Schema.to_int_of_int_float {x : Binary64} {n : Int} (h : Schema.int (.float x) = .ok n) :
    x.toInt? = some n := by
  simp only [Schema.int, Schema.wholeFloat?] at h
  cases hx : x.toInt? with
  | none => simp [hx, Checked.ofOption, Checked.fault] at h
  | some whole =>
      simp only [hx] at h
      split at h
      · exact congrArg some (Checked.ok.inj h)
      · cases h

namespace Checked

/-- An option is a checked value exactly when there is one. -/
theorem of_option_eq_ok_iff {found : Option α} {value : α} :
    ofOption found = .ok value ↔ found = some value := by
  cases found <;> simp [ofOption, fault]

/-- A checked value is mapped to a value exactly when it has no fault. -/
theorem map_eq_ok_iff {checked : Checked α} {f : α → β} {value : β} :
    (f <$> checked) = .ok value ↔ ∃ first, checked = .ok first ∧ f first = value := by
  cases checked <;> simp [Functor.map, apply]

/-- A checked function is applied exactly when neither it nor its argument has a fault. -/
theorem seq_eq_ok_iff {f : Checked (α → β)} {checked : Checked α} {value : β} :
    (f <*> checked) = .ok value ↔
      ∃ g, f = .ok g ∧ ∃ first, checked = .ok first ∧ g first = value := by
  cases f <;> cases checked <;> simp [Seq.seq, apply]

/-- A checked value has a property if it has no fault. -/
def Ensures (checked : Checked α) (P : α → Prop) : Prop :=
  ∀ value, checked = .ok value → P value

/-- A value that is mapped has a property if its image has it. -/
theorem Ensures.map {checked : Checked α} {f : α → β} {P : β → Prop}
    (h : ∀ first, checked = .ok first → P (f first)) : (f <$> checked).Ensures P := by
  intro value hvalue
  obtain ⟨first, hfirst, rfl⟩ := map_eq_ok_iff.mp hvalue
  exact h first hfirst

/-- What a checked function gives has a property if it has it for every argument. -/
theorem Ensures.seq {f : Checked (α → β)} {checked : Checked α} {P : β → Prop}
    (h : f.Ensures fun g => ∀ first, checked = .ok first → P (g first)) :
    (f <*> checked).Ensures P := by
  intro value hvalue
  obtain ⟨g, hg, first, hfirst, rfl⟩ := seq_eq_ok_iff.mp hvalue
  exact h g hg first hfirst

end Checked

/-! ## Interruption -/

/-- A computation interrupts: it fails in a way that is not skippable. -/
def Interrupts (outcome : Except Failure α) : Prop :=
  ∃ failure, outcome = .error failure ∧ failure.isSkippable = false

/-- Success does not interrupt. -/
@[simp]
theorem not_interrupts_ok (value : α) : ¬ Interrupts (.ok value : Except Failure α) := by
  simp [Interrupts]

/-- A failure interrupts exactly when it is not skippable. -/
@[simp]
theorem interrupts_error_iff {failure : Failure} :
    Interrupts (.error failure : Except Failure α) ↔ failure.isSkippable = false := by
  simp [Interrupts]

@[simp]
theorem not_interrupts_pure (value : α) : ¬ Interrupts (pure value : Except Failure α) :=
  not_interrupts_ok value

/-- A chain interrupts exactly when its first part does, or that succeeds and the rest does. -/
theorem interrupts_bind_iff {outcome : Except Failure α} {next : α → Except Failure β} :
    Interrupts (outcome >>= next) ↔
      Interrupts outcome ∨ ∃ first, outcome = .ok first ∧ Interrupts (next first) := by
  cases outcome <;> simp [bind, Except.bind]

/-- Mapping changes nothing about interruption. -/
@[simp]
theorem interrupts_map_iff {outcome : Except Failure α} {f : α → β} :
    Interrupts (f <$> outcome) ↔ Interrupts outcome := by
  cases outcome <;> simp [Functor.map, Except.map]

/-- A record that does not fit its fields is skippable. -/
@[simp]
theorem not_interrupts_accept {record : String} {checked : Checked α} :
    ¬ Interrupts (Schema.accept record checked) := by
  cases checked <;> simp [Schema.accept, Failure.isSkippable]

/-- Going through items interrupts exactly at an item that does so behind items that succeed. -/
theorem interrupts_map_m_iff {f : α → Except Failure β} {items : List α} :
    Interrupts (items.mapM f) ↔
      ∃ before item after, items = before ++ item :: after ∧
        (∀ earlier ∈ before, ∃ value, f earlier = .ok value) ∧ Interrupts (f item) := by
  induction items with
  | nil => simp
  | cons first rest ih =>
      rw [List.mapM_cons, interrupts_bind_iff]
      constructor
      · rintro (hfirst | ⟨value, hvalue, hrest⟩)
        · exact ⟨[], first, rest, rfl, by simp, hfirst⟩
        · have hrest' : Interrupts (rest.mapM f) := by
            simpa [interrupts_bind_iff] using hrest
          obtain ⟨before, item, after, rfl, hbefore, hitem⟩ := ih.mp hrest'
          refine ⟨first :: before, item, after, rfl, ?_, hitem⟩
          simpa using ⟨⟨value, hvalue⟩, hbefore⟩
      · rintro ⟨before, item, after, he, hbefore, hitem⟩
        cases before with
        | nil =>
            obtain ⟨rfl, rfl⟩ := List.cons.inj he
            exact .inl hitem
        | cons other before =>
            obtain ⟨rfl, rfl⟩ := List.cons.inj he
            obtain ⟨value, hvalue⟩ := hbefore first (by simp)
            refine .inr ⟨value, hvalue, interrupts_bind_iff.mpr (.inl ?_)⟩
            exact ih.mpr ⟨before, item, after, rfl, fun earlier h => hbefore earlier (by simp [h]),
              hitem⟩

end SparkLog
