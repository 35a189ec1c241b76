import Mathlib.Data.List.Induction
import SparkLog.Keyed

/-!
# Laws of keyed collections

What an insertion does to the keys (`keys_insert_by`) and to the entries (`mem_insert_by`) of a
collection, for any comparison of keys. Keys that are told apart stay so (`Apart.insert_by`). Where
the comparison is an equivalence, an insertion is told by what is found afterwards
(`find_by_insert_by`), and a collection by its keys and what is found under them (`ext_find_by`).
Entries are put in one after the other under two policies: the first of a key stays (`fillBy`), or
the last one does (`overrideBy`).
-/

namespace SparkLog

/-- Lawful comparisons are equivalences. -/
theorem beq_equivalence {κ : Type} [BEq κ] [LawfulBEq κ] :
    Equivalence fun a b : κ => (a == b) = true := by
  simpa using eq_equivalence

namespace Keyed

variable {κ α : Type} {same : κ → κ → Bool} {table : Keyed κ α}

/-- An insertion keeps the keys if a same key is there and adds its key behind them otherwise. -/
theorem keys_insert_by (table : Keyed κ α) (key : κ) (value : α) :
    (table.insertBy same key value).keys =
      if table.keys.any (same · key) then table.keys else table.keys ++ [key] := by
  obtain ⟨entries⟩ := table
  induction entries with
  | nil => rfl
  | cons entry rest ih =>
      simp only [insertBy, keys, putBy, List.map_cons, List.any_cons] at ih ⊢
      cases same entry.1 key with
      | true => simp
      | false =>
          simp only [Bool.false_eq_true, if_false, List.map_cons, ih, Bool.false_or]
          exact apply_ite (entry.1 :: ·) _ _ _

/-- An entry behind an insertion is an entry from before, the new one, or the new value under a
same key from before. -/
theorem mem_insert_by {key : κ} {value : α} {entry : κ × α}
    (h : entry ∈ (table.insertBy same key value).entries) :
    entry ∈ table.entries ∨ entry = (key, value) ∨
      ∃ old ∈ table.entries, same old.1 key = true ∧ entry = (old.1, value) := by
  obtain ⟨entries⟩ := table
  induction entries with
  | nil => exact .inr (.inl (List.mem_singleton.mp h))
  | cons first rest ih =>
      simp only [insertBy, putBy] at h ih ⊢
      split at h
      · rename_i hsame
        cases h with
        | head => exact .inr (.inr ⟨first, List.mem_cons_self, hsame, rfl⟩)
        | tail _ h => exact .inl (List.mem_cons_of_mem _ h)
      · cases h with
        | head => exact .inl List.mem_cons_self
        | tail _ h =>
            obtain hmem | rfl | ⟨old, hmem, hsame, rfl⟩ := ih h
            · exact .inl (List.mem_cons_of_mem _ hmem)
            · exact .inr (.inl rfl)
            · exact .inr (.inr ⟨old, List.mem_cons_of_mem _ hmem, hsame, rfl⟩)

/-- Of two insertions under a key, the second one takes the place of the first one. -/
theorem insert_by_twice {key : κ} (hkey : same key key = true) (table : Keyed κ α)
    (first value : α) :
    (table.insertBy same key first).insertBy same key value = table.insertBy same key value := by
  obtain ⟨entries⟩ := table
  rw [insertBy, insertBy, insertBy, Keyed.mk.injEq]
  induction entries with
  | nil => simp [putBy, hkey]
  | cons entry rest ih => cases hentry : same entry.1 key <;> simp [putBy, hentry, ih]

/-- No two keys of a collection are the same. -/
def Apart (same : κ → κ → Bool) (table : Keyed κ α) : Prop :=
  table.keys.Pairwise fun a b => same a b = false

/-- An insertion keeps the keys of a collection apart. -/
theorem Apart.insert_by (h : table.Apart same) (key : κ) (value : α) :
    (table.insertBy same key value).Apart same := by
  rw [Apart, keys_insert_by]
  split
  · exact h
  · rename_i hnone
    refine List.pairwise_append.mpr ⟨h, List.pairwise_singleton _ _, fun a ha b hb => ?_⟩
    obtain rfl := List.mem_singleton.mp hb
    simpa using fun hsame => hnone (List.any_eq_true.mpr ⟨a, ha, hsame⟩)

/-- Changing values keeps the keys. -/
theorem keys_map_values {β : Type} (f : κ → α → β) (table : Keyed κ α) :
    (table.mapValues f).keys = table.keys := by
  simp [keys, mapValues]

/-- Changing values keeps keys apart. -/
theorem Apart.map_values {β : Type} (h : table.Apart same) (f : κ → α → β) :
    (table.mapValues f).Apart same := by
  rw [Apart, keys_map_values]
  exact h

/-- Values that are changed twice are changed by both changes. -/
theorem map_values_map_values {β γ : Type} (table : Keyed κ α) (first : κ → α → β)
    (last : κ → β → γ) : (table.mapValues first).mapValues last =
      table.mapValues fun key value => last key (first key value) := by
  simp [mapValues, Function.comp_def]

/-! ## Look-ups -/

/-- Something is found exactly under keys that are the same as one that is there. -/
theorem find_by_is_some_iff {key : κ} :
    (table.findBy? same key).isSome ↔ ∃ entry ∈ table.entries, same entry.1 key = true := by
  simp [findBy?]

/-- Nothing is found exactly under keys that are the same as none that is there. -/
theorem find_by_eq_none_iff {key : κ} :
    table.findBy? same key = none ↔ ∀ entry ∈ table.entries, same entry.1 key = false := by
  simp [findBy?]

/-- A key is among the keys exactly if it is there. -/
theorem mem_keys_iff [BEq κ] [LawfulBEq κ] {key : κ} : key ∈ table.keys ↔ table.has key = true := by
  simp [has, find?, findBy?, keys]

/-- The entry behind a look-up. -/
theorem mem_of_find_by {key : κ} {value : α} (h : table.findBy? same key = some value) :
    ∃ entry ∈ table.entries, same entry.1 key = true ∧ entry.2 = value := by
  obtain ⟨entry, hfound, hvalue⟩ := Option.map_eq_some_iff.mp h
  have hsameKey := List.find?_some hfound
  exact ⟨entry, List.mem_of_find?_eq_some hfound, hsameKey, hvalue⟩

/-- An insertion under a key that is not there adds an entry behind the others. -/
theorem insert_by_of_none {key : κ} {value : α} (h : table.findBy? same key = none) :
    table.insertBy same key value = ⟨table.entries ++ [(key, value)]⟩ := by
  obtain ⟨entries⟩ := table
  rw [find_by_eq_none_iff] at h
  rw [insertBy, Keyed.mk.injEq]
  induction entries with
  | nil => rfl
  | cons entry rest ih =>
      rw [putBy, if_neg (by simp [h entry List.mem_cons_self]), List.cons_append,
        ih fun other hmem => h other (List.mem_cons_of_mem _ hmem)]

section Equivalence

variable (hsame : Equivalence fun a b => same a b = true)
include hsame

/-- The same keys are the same as a third one, or neither is. -/
theorem same_congr {a b : κ} (h : same a b = true) (key : κ) : same a key = same b key :=
  Bool.eq_iff_iff.mpr ⟨hsame.trans (hsame.symm h), hsame.trans h⟩

/-- The same is found under the same keys. -/
theorem find_by_congr {a b : κ} (h : same a b = true) :
    table.findBy? same a = table.findBy? same b := by
  have hentries : (fun entry : κ × α => same entry.1 a) = fun entry => same entry.1 b :=
    funext fun entry => Bool.eq_iff_iff.mpr
      ⟨fun ha => hsame.trans ha h, fun hb => hsame.trans hb (hsame.symm h)⟩
  rw [findBy?, findBy?, hentries]

/-- After an insertion, the value is found under the same keys, and all others find what they
found. -/
theorem find_by_insert_by (table : Keyed κ α) (key other : κ) (value : α) :
    (table.insertBy same key value).findBy? same other =
      if same key other then some value else table.findBy? same other := by
  obtain ⟨entries⟩ := table
  induction entries with
  | nil => cases h : same key other <;> simp [findBy?, insertBy, putBy, h]
  | cons entry rest ih =>
      simp only [findBy?, insertBy, putBy] at ih ⊢
      cases hentry : same entry.1 key with
      | true =>
          have hother := same_congr hsame hentry other
          cases h : same key other <;> simp [hother, h]
      | false =>
          simp only [Bool.false_eq_true, if_false, List.find?_cons]
          cases hother : same entry.1 other with
          | true =>
              have hkey : same key other = false := by
                rw [Bool.eq_false_iff]
                intro h
                exact absurd (hsame.trans hother (hsame.symm h)) (by simp [hentry])
              simp [hkey]
          | false => exact ih

/-- In a collection whose keys are apart, an entry is found under every key that is the same as its
own. -/
theorem Apart.find_by_of_mem (h : table.Apart same) {entry : κ × α} (hmem : entry ∈ table.entries)
    {key : κ} (hkey : same entry.1 key = true) : table.findBy? same key = some entry.2 := by
  obtain ⟨entries⟩ := table
  induction entries with
  | nil => cases hmem
  | cons first rest ih =>
      obtain ⟨hfirst, hrest⟩ := List.pairwise_cons.mp h
      simp only [findBy?, List.find?_cons]
      obtain rfl | hmem := List.mem_cons.mp hmem
      · simp [hkey]
      · have happart : same first.1 key = false := by
          rw [Bool.eq_false_iff]
          intro hsameKey
          have hin : entry.1 ∈ rest.map Prod.fst := List.mem_map_of_mem hmem
          simpa [hsame.trans hsameKey (hsame.symm hkey)] using hfirst entry.1 hin
        rw [happart]
        exact ih hrest hmem

/-- A collection whose keys are apart is told by its keys and by what is found under them. -/
theorem ext_find_by {other : Keyed κ α} (h : table.Apart same) (hkeys : table.keys = other.keys)
    (hfind : ∀ key ∈ table.keys, table.findBy? same key = other.findBy? same key) :
    table = other := by
  have hother : other.Apart same := by rwa [Apart, ← hkeys]
  have hlength : table.entries.length = other.entries.length := by
    simpa [keys] using congrArg List.length hkeys
  obtain ⟨entries⟩ := table
  obtain ⟨others⟩ := other
  rw [Keyed.mk.injEq]
  refine List.ext_getElem hlength fun place hplace hplace' => ?_
  have hkey : entries[place].1 = others[place].1 := by
    have hget := congrArg (·[place]?) hkeys
    simpa [keys, hplace, hplace'] using hget
  have hmem := List.getElem_mem hplace
  have hfound := hfind _ (List.mem_map_of_mem (f := Prod.fst) hmem)
  rw [h.find_by_of_mem hsame hmem (hsame.refl _),
    hother.find_by_of_mem hsame (List.getElem_mem hplace') (hkey ▸ hsame.refl _)] at hfound
  exact Prod.ext hkey (Option.some.inj hfound)

end Equivalence

/-- Keys that are told apart by their values come once each. -/
theorem Apart.nodup [BEq κ] [LawfulBEq κ] (h : table.Apart (· == ·)) : table.keys.Nodup :=
  List.Pairwise.imp (fun hne he => by simp [he] at hne) h

/-- After an insertion, the value is found under its key, and all others find what they found. -/
theorem find_insert [BEq κ] [LawfulBEq κ] (table : Keyed κ α) (key other : κ) (value : α) :
    (table.insert key value).find? other = if key == other then some value else table.find? other :=
  find_by_insert_by beq_equivalence table key other value

/-! ## Many entries -/

/-- Put entries in, each unless its key is there. -/
def fillBy (same : κ → κ → Bool) (table : Keyed κ α) (entries : List (κ × α)) : Keyed κ α :=
  entries.foldl (fun table entry =>
    if (table.findBy? same entry.1).isSome then table
    else table.insertBy same entry.1 entry.2) table

/-- Put entries in, each in the place of one with the same key. -/
def overrideBy (same : κ → κ → Bool) (table : Keyed κ α) (entries : List (κ × α)) : Keyed κ α :=
  entries.foldl (fun table entry => table.insertBy same entry.1 entry.2) table

@[simp]
theorem fill_by_nil (table : Keyed κ α) : table.fillBy same [] = table := rfl

@[simp]
theorem override_by_nil (table : Keyed κ α) : table.overrideBy same [] = table := rfl

@[simp]
theorem fill_by_singleton (table : Keyed κ α) (entry : κ × α) :
    table.fillBy same [entry] =
      if (table.findBy? same entry.1).isSome then table
      else table.insertBy same entry.1 entry.2 := rfl

@[simp]
theorem override_by_singleton (table : Keyed κ α) (entry : κ × α) :
    table.overrideBy same [entry] = table.insertBy same entry.1 entry.2 := rfl

@[simp]
theorem entries_empty : (empty : Keyed κ α).entries = [] := rfl

/-- One entry at most that is filled into the empty collection is what is in it. -/
@[simp]
theorem fill_by_empty {found : Option (κ × α)} :
    (empty.fillBy same found.toList).entries = found.toList := by
  cases found <;> rfl

/-- One entry at most that is put into the empty collection is what is in it. -/
@[simp]
theorem override_by_empty {found : Option (κ × α)} :
    (empty.overrideBy same found.toList).entries = found.toList := by
  cases found <;> rfl

/-- Entries are put in one list after the other. -/
theorem override_by_append (table : Keyed κ α) (entries others : List (κ × α)) :
    table.overrideBy same (entries ++ others) =
      (table.overrideBy same entries).overrideBy same others :=
  List.foldl_append

/-- Putting entries in keeps the keys of a collection apart. -/
theorem Apart.override_by (h : table.Apart same) (entries : List (κ × α)) :
    (table.overrideBy same entries).Apart same := by
  induction entries generalizing table with
  | nil => exact h
  | cons entry rest ih => exact ih (h.insert_by entry.1 entry.2)

/-- Nothing is filled in if all keys are there. -/
theorem fill_by_eq_self {entries : List (κ × α)}
    (h : ∀ entry ∈ entries, (table.findBy? same entry.1).isSome) :
    table.fillBy same entries = table := by
  induction entries with
  | nil => rfl
  | cons entry rest ih =>
      rw [fillBy, List.foldl_cons, if_pos (h entry List.mem_cons_self)]
      exact ih fun other hmem => h other (List.mem_cons_of_mem _ hmem)

/-- Entries that are filled in come behind those that are there. -/
theorem prefix_fill_by (table : Keyed κ α) (entries : List (κ × α)) :
    table.entries <+: (table.fillBy same entries).entries := by
  induction entries generalizing table with
  | nil => exact List.prefix_rfl
  | cons entry rest ih =>
      rw [fillBy, List.foldl_cons]
      split
      · exact ih table
      · rename_i hnew
        have hinsert : (table.insertBy same entry.1 entry.2).entries =
            table.entries ++ [(entry.1, entry.2)] := by
          rw [insert_by_of_none (by simpa using hnew)]
        have hrest := ih (table.insertBy same entry.1 entry.2)
        rw [hinsert] at hrest
        exact (List.prefix_append _ _).trans hrest

/-- Entries whose keys are apart, and not in the collection, come behind the others under either
policy. -/
theorem put_in_of_none {entries : List (κ × α)}
    (hnew : ∀ entry ∈ entries, table.findBy? same entry.1 = none)
    (hapart : (⟨entries⟩ : Keyed κ α).Apart same) :
    table.fillBy same entries = ⟨table.entries ++ entries⟩ ∧
      table.overrideBy same entries = ⟨table.entries ++ entries⟩ := by
  induction entries generalizing table with
  | nil => rw [fill_by_nil, override_by_nil, List.append_nil, and_self]
  | cons entry rest ih =>
      obtain ⟨hfirst, hrest⟩ := List.pairwise_cons.mp hapart
      have hentry := hnew entry List.mem_cons_self
      rw [fillBy, overrideBy, List.foldl_cons, List.foldl_cons, if_neg (by simp [hentry]),
        insert_by_of_none hentry]
      have hothers : ∀ other ∈ rest,
          (⟨table.entries ++ [(entry.1, entry.2)]⟩ : Keyed κ α).findBy? same other.1 = none := by
        intro other hmem
        have hother := find_by_eq_none_iff.mp (hnew other (List.mem_cons_of_mem _ hmem))
        refine find_by_eq_none_iff.mpr fun old hold => ?_
        obtain hold | hold := List.mem_append.mp hold
        · exact hother old hold
        · obtain rfl := List.mem_singleton.mp hold
          exact hfirst other.1 (List.mem_map_of_mem hmem)
      have hih := ih hothers hrest
      rw [List.append_assoc] at hih
      exact hih

/-- A collection whose keys are apart is filled into the empty one as it is. -/
theorem fill_by_apart (hapart : table.Apart same) : empty.fillBy same table.entries = table :=
  (put_in_of_none (fun _ _ => rfl) hapart).1

/-- A collection whose keys are apart is put into the empty one as it is. -/
theorem override_by_apart (hapart : table.Apart same) :
    empty.overrideBy same table.entries = table :=
  (put_in_of_none (fun _ _ => rfl) hapart).2

/-- A collection has at most one entry, of which something holds. -/
def AtMostOne (table : Keyed κ α) (P : κ × α → Prop) : Prop :=
  table.entries = [] ∨ ∃ entry, table.entries = [entry] ∧ P entry

section AtMostOne

variable {P : κ × α → Prop}

/-- The one entry that may be there comes from an option. -/
theorem at_most_one_of_option {found : Option (κ × α)} (hentries : table.entries = found.toList)
    (h : ∀ entry ∈ found, P entry) : table.AtMostOne P := by
  cases found with
  | none => exact .inl hentries
  | some entry => exact .inr ⟨entry, hentries, h entry rfl⟩

/-- What holds of the one entry holds of every entry. -/
theorem AtMostOne.of_mem (h : table.AtMostOne P) {entry : κ × α} (hmem : entry ∈ table.entries) :
    P entry := by
  obtain hnone | ⟨found, hfound, hholds⟩ := h
  · rw [hnone] at hmem
    cases hmem
  · rw [hfound, List.mem_singleton] at hmem
    exact hmem ▸ hholds

/-- What follows of the one entry holds of it. -/
theorem AtMostOne.imp {Q : κ × α → Prop} (h : table.AtMostOne P)
    (himp : ∀ entry, P entry → Q entry) : table.AtMostOne Q :=
  h.imp_right fun ⟨entry, hentry, hholds⟩ => ⟨entry, hentry, himp entry hholds⟩

end AtMostOne

section Equivalence

variable (hsame : Equivalence fun a b => same a b = true)
include hsame

/-- What is there stays there when entries are filled in. -/
theorem is_some_fill_by {key : κ} (entries : List (κ × α))
    (h : (table.findBy? same key).isSome) :
    ((table.fillBy same entries).findBy? same key).isSome := by
  induction entries generalizing table with
  | nil => exact h
  | cons entry rest ih =>
      rw [fillBy, List.foldl_cons]
      split
      · exact ih h
      · refine ih ?_
        rw [find_by_insert_by hsame]
        split <;> simp [h]

/-- What is filled in is there. -/
theorem is_some_of_filled {entries : List (κ × α)} {entry : κ × α} (hmem : entry ∈ entries) :
    ((table.fillBy same entries).findBy? same entry.1).isSome := by
  induction entries generalizing table with
  | nil => cases hmem
  | cons first rest ih =>
      rw [fillBy, List.foldl_cons]
      obtain rfl | hmem := List.mem_cons.mp hmem
      · refine is_some_fill_by hsame rest ?_
        split
        · assumption
        · rw [find_by_insert_by hsame, if_pos (hsame.refl _)]
          rfl
      · exact ih hmem

/-- Filling entries in twice is filling them in once. -/
theorem fill_by_twice (table : Keyed κ α) (entries : List (κ × α)) :
    (table.fillBy same entries).fillBy same entries = table.fillBy same entries :=
  fill_by_eq_self fun _ hmem => is_some_of_filled hsame hmem

/-- After entries were put in, the last one of a key is found, or else what was there before. -/
theorem find_by_override_by (table : Keyed κ α) (entries : List (κ × α)) (key : κ) :
    (table.overrideBy same entries).findBy? same key =
      ((empty.overrideBy same entries).findBy? same key).or (table.findBy? same key) := by
  induction entries using List.reverseRecOn with
  | nil => rfl
  | append_singleton entries entry ih =>
      have hlast : ∀ table : Keyed κ α, table.overrideBy same (entries ++ [entry]) =
          (table.overrideBy same entries).insertBy same entry.1 entry.2 := by
        intro table
        simp [overrideBy]
      rw [hlast, hlast, find_by_insert_by hsame, find_by_insert_by hsame, ih]
      split <;> rfl

/-- What is found among entries that were put in is one of them. -/
theorem mem_of_overridden {entries : List (κ × α)} {key : κ} {value : α}
    (h : (empty.overrideBy same entries).findBy? same key = some value) :
    ∃ entry ∈ entries, same entry.1 key = true ∧ entry.2 = value := by
  induction entries using List.reverseRecOn with
  | nil => cases h
  | append_singleton entries entry ih =>
      have hlast : (empty.overrideBy same (entries ++ [entry])).findBy? same key =
          if same entry.1 key then some entry.2
          else (empty.overrideBy same entries).findBy? same key := by
        simp only [overrideBy, List.foldl_append, List.foldl_cons, List.foldl_nil]
        exact find_by_insert_by hsame _ _ _ _
      rw [hlast] at h
      split at h
      · exact ⟨entry, by simp, by assumption, Option.some.inj h⟩
      · obtain ⟨other, hmem, hother⟩ := ih h
        exact ⟨other, List.mem_append_left _ hmem, hother⟩

/-- What is put in is there. -/
theorem is_some_of_overridden {entries : List (κ × α)} {entry : κ × α} (hmem : entry ∈ entries) :
    ((table.overrideBy same entries).findBy? same entry.1).isSome := by
  induction entries generalizing table with
  | nil => cases hmem
  | cons first rest ih =>
      obtain rfl | hmem := List.mem_cons.mp hmem
      · have hfirst := find_by_override_by hsame (table.insertBy same entry.1 entry.2) rest entry.1
        rw [find_by_insert_by hsame, if_pos (hsame.refl _)] at hfirst
        rw [overrideBy, List.foldl_cons]
        refine (congrArg Option.isSome hfirst).trans ?_
        cases (empty.overrideBy same rest).findBy? same entry.1 <;> rfl
      · exact ih hmem

/-- Entries whose keys are all there add no key. -/
theorem keys_override_by {entries : List (κ × α)}
    (h : ∀ entry ∈ entries, (table.findBy? same entry.1).isSome) :
    (table.overrideBy same entries).keys = table.keys := by
  induction entries generalizing table with
  | nil => rfl
  | cons entry rest ih =>
      have hkeys : (table.insertBy same entry.1 entry.2).keys = table.keys := by
        obtain ⟨old, hmem, hkey⟩ := find_by_is_some_iff.mp (h entry List.mem_cons_self)
        have hknown : table.keys.any (same · entry.1) = true :=
          List.any_eq_true.mpr ⟨old.1, List.mem_map_of_mem hmem, hkey⟩
        rw [keys_insert_by, if_pos hknown]
      rw [← hkeys, overrideBy, List.foldl_cons]
      refine ih fun other hmem => ?_
      rw [find_by_insert_by hsame]
      split
      · rfl
      · exact h other (List.mem_cons_of_mem _ hmem)

/-- Entries leave a collection as it is if the last one of each key is there. -/
theorem override_by_eq_self (hapart : table.Apart same) {entries : List (κ × α)}
    (h : ∀ key value, (empty.overrideBy same entries).findBy? same key = some value →
      table.findBy? same key = some value) : table.overrideBy same entries = table := by
  have hkeys : (table.overrideBy same entries).keys = table.keys := by
    refine keys_override_by hsame fun entry hmem => ?_
    obtain ⟨value, hvalue⟩ := Option.isSome_iff_exists.mp (is_some_of_overridden hsame hmem)
    rw [h entry.1 value hvalue]
    rfl
  refine ext_find_by hsame (hapart.override_by entries) hkeys fun key _ => ?_
  rw [find_by_override_by hsame]
  cases hlast : (empty.overrideBy same entries).findBy? same key with
  | none => rfl
  | some value => exact (h key value hlast).symm

/-- Putting entries in twice is putting them in once. -/
theorem override_by_twice (hapart : table.Apart same) (entries : List (κ × α)) :
    (table.overrideBy same entries).overrideBy same entries = table.overrideBy same entries := by
  refine override_by_eq_self hsame (hapart.override_by entries) fun key value hvalue => ?_
  rw [find_by_override_by hsame, hvalue]
  rfl

end Equivalence

end Keyed

end SparkLog
