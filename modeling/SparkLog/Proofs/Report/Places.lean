import Mathlib.Data.List.Basic
import SparkLog.Report.Disk
import SparkLog.Proofs.Text.Pieces

/-!
# Places below a directory

Names without slashes lead below a directory one by one, unless they are dots. So two paths of such
names below one directory lead to the same place, or have the same text, only if the names are the
same (`place_extend_inj`, `text_extend_inj`).
-/

namespace SparkLog.FilePath

/-- A name of a file or a directory: it has no slash, and is not one of the names for the directory
itself and the one above. -/
structure IsName (name : String) : Prop where
  whole : '/' ∉ name.toList
  nonempty : name ≠ ""
  notSelf : name ≠ "."
  notAbove : name ≠ ".."

instance (name : String) : Decidable (IsName name) :=
  decidable_of_iff ('/' ∉ name.toList ∧ name ≠ "" ∧ name ≠ "." ∧ name ≠ "..")
    ⟨fun ⟨hwhole, hnonempty, hself, habove⟩ => ⟨hwhole, hnonempty, hself, habove⟩,
      fun h => ⟨h.whole, h.nonempty, h.notSelf, h.notAbove⟩⟩

/-- A path that goes on with further names. -/
def extend (path : FilePath) (names : List String) : FilePath :=
  { path with names := path.names ++ names }

variable {path : FilePath} {name : String} {names others : List String}

/-- A name is a path of one name. -/
theorem of_text_name (h : IsName name) : ofText name = ⟨false, [name]⟩ := by
  have hrelative : (name.toList.head? == some '/') = false := by
    cases hname : name.toList with
    | nil => rfl
    | cons c rest =>
        have hc : c ≠ '/' := fun he => h.whole (by simp [hname, he])
        simpa using hc
  rw [ofText, Text.pieces_whole h.whole, hrelative]
  simp [h.nonempty, h.notSelf]

/-- A name leads one step below a path. -/
theorem below_name (h : IsName name) : path.below name = path.extend [name] := by
  rw [below, of_text_name h]
  rfl

/-- Every name is entered. -/
theorem fold_enter_names (h : ∀ name ∈ names, IsName name) (absolute : Bool) (kept : List String) :
    names.foldl (enter absolute) kept = names.reverse ++ kept := by
  induction names generalizing kept with
  | nil => rfl
  | cons name names ih =>
      obtain ⟨hname, hnames⟩ := List.forall_mem_cons.mp h
      have hstep : enter absolute kept name = name :: kept := if_neg hname.notAbove
      rw [List.foldl_cons, hstep, ih hnames, List.reverse_cons, List.append_assoc,
        List.singleton_append]

/-- Names lead below the place of a path. -/
theorem place_extend (h : ∀ name ∈ names, IsName name) :
    (path.extend names).place = path.place.extend names := by
  simp [place, extend, fold_enter_names h]

/-- Names that lead to the same place below a directory are the same. -/
theorem place_extend_inj (hnames : ∀ name ∈ names, IsName name)
    (hothers : ∀ name ∈ others, IsName name) :
    (path.extend names).place = (path.extend others).place ↔ names = others := by
  rw [place_extend hnames, place_extend hothers]
  simp [extend]

/-- Names are told apart in a text by the slashes between them. -/
theorem intercalate_inj (hnames : names ≠ []) (hothers : others ≠ [])
    (hwhole : ∀ name ∈ names, '/' ∉ name.toList) (hwhole' : ∀ name ∈ others, '/' ∉ name.toList)
    (h : "/".intercalate names = "/".intercalate others) : names = others := by
  have hpieces {names : List String} (hne : names ≠ [])
      (hwhole : ∀ name ∈ names, '/' ∉ name.toList) :
      Text.pieces '/' (("/".intercalate names).toList ++ ['/']) =
        names.map String.toList ++ [[]] := by
    rw [String.toList_intercalate]
    exact Text.pieces_lines (by simpa using hne) (by simpa using hwhole)
  have hsame := hpieces hnames hwhole
  rw [h, hpieces hothers hwhole', List.append_left_inj] at hsame
  exact (List.map_injective_iff.mpr (fun _ _ => String.toList_inj.mp) hsame).symm

/-- Names that make the same text below a directory are the same. -/
theorem text_extend_inj (hnames : names ≠ []) (hothers : others ≠ [])
    (hwhole : ∀ name ∈ names, '/' ∉ name.toList) (hwhole' : ∀ name ∈ others, '/' ∉ name.toList) :
    (path.extend names).text = (path.extend others).text ↔ names = others := by
  refine ⟨fun h => intercalate_inj hnames hothers hwhole hwhole' ?_, fun h => h ▸ rfl⟩
  have hjoined :
      "/".intercalate (path.names ++ names) = "/".intercalate (path.names ++ others) := by
    unfold text extend at h
    split at h
    · exact (String.append_right_inj "/").mp h
    · simpa [hnames, hothers] using h
  cases hpath : path.names with
  | nil => simpa [hpath] using hjoined
  | cons name rest =>
      have hne : path.names ≠ [] := by simp [hpath]
      rwa [String.intercalate_append_of_ne_nil hne hnames,
        String.intercalate_append_of_ne_nil hne hothers, String.append_right_inj] at hjoined

end SparkLog.FilePath
