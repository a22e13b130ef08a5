import CodeAtlas.Paths

/-! Paths taken apart and put together again. The components of a path are names without slashes,
and joining names gives a path with these components. So the components of what lies below a
folder are those of the folder and then those that lead on from there, in one list. -/

namespace CodeAtlas

/-! ### Pieces between separators -/

namespace Text

theorem splitAt_eq_splitOn (sep : Char) (cs : List Char) : splitAt sep cs = cs.splitOn sep := by
  induction cs with
  | nil => rfl
  | cons c cs ih =>
    rw [splitAt, List.splitOn_cons_eq_if_modifyHead, ih]
    split
    · rfl
    · cases h : cs.splitOn sep with
      | nil => exact absurd h (List.splitOn_ne_nil sep cs)
      | cons piece rest => rfl

theorem sep_notMem_of_mem_splitAt {sep : Char} {cs piece : List Char}
    (h : piece ∈ splitAt sep cs) : sep ∉ piece := by
  induction cs generalizing piece with
  | nil =>
    obtain rfl : piece = [] := List.mem_singleton.mp h
    exact List.not_mem_nil
  | cons c cs ih =>
    rw [splitAt] at h
    split at h
    · rcases List.mem_cons.mp h with rfl | h
      · exact List.not_mem_nil
      · exact ih h
    next hc =>
      have hne : sep ≠ c := fun heq => hc (by simp [heq])
      cases hsplit : splitAt sep cs with
      | nil =>
        rw [hsplit, consRow, List.mem_singleton] at h
        simp [h, hne]
      | cons first rest =>
        rw [hsplit] at ih
        rw [hsplit, consRow, List.mem_cons] at h
        rcases h with rfl | h
        · simp [hne, ih List.mem_cons_self]
        · exact ih (List.mem_cons_of_mem _ h)

end Text

namespace Paths

/-! ### Components -/

/-- What one thing in a folder can be called. -/
structure IsName (p : String) : Prop where
  ne_empty : p ≠ ""
  ne_dot : p ≠ "."
  slash_notMem : '/' ∉ p.toList

instance : DecidablePred IsName := fun p =>
  decidable_of_iff (p ≠ "" ∧ p ≠ "." ∧ '/' ∉ p.toList)
    ⟨fun ⟨hempty, hdot, hslash⟩ => ⟨hempty, hdot, hslash⟩,
      fun h => ⟨h.ne_empty, h.ne_dot, h.slash_notMem⟩⟩

theorem isName_of_mem_parts {path p : String} (h : p ∈ parts path) : IsName p := by
  obtain ⟨hmem, hplain⟩ := List.mem_filter.mp h
  obtain ⟨piece, hpiece, rfl⟩ := List.mem_map.mp hmem
  have hslash := Text.sep_notMem_of_mem_splitAt hpiece
  simp only [Bool.and_eq_true, decide_eq_true_eq] at hplain
  exact ⟨hplain.1, hplain.2, by rwa [String.toList_ofList]⟩

theorem parts_slash (a b : String) : parts (a ++ "/" ++ b) = parts a ++ parts b := by
  have hsplit : Text.splitAt '/' (a ++ "/" ++ b).toList =
      Text.splitAt '/' a.toList ++ Text.splitAt '/' b.toList := by
    simp only [Text.splitAt_eq_splitOn, String.toList_append]
    rw [List.append_assoc]
    exact List.splitOn_append_cons_self a.toList b.toList
  rw [parts, hsplit, List.map_append, List.filter_append]
  rfl

theorem parts_of_isName {p : String} (h : IsName p) : parts p = [p] := by
  rw [parts, Text.splitAt_eq_splitOn, List.splitOn_eq_singleton h.slash_notMem]
  simp [h.ne_empty, h.ne_dot]

theorem parts_intercalate {ps : List String} (h : ∀ p ∈ ps, IsName p) :
    parts ("/".intercalate ps) = ps := by
  induction ps with
  | nil => rfl
  | cons p ps ih =>
    obtain ⟨hp, hps⟩ := List.forall_mem_cons.mp h
    cases ps with
    | nil => rw [String.intercalate_singleton, parts_of_isName hp]
    | cons q rest =>
      rw [String.intercalate_cons_cons, parts_slash, parts_of_isName hp, ih hps]
      rfl

/-- Joined names do not begin with a slash. -/
theorem exists_head_intercalate {ps : List String} (hne : ps ≠ []) (h : ∀ p ∈ ps, IsName p) :
    ∃ c cs, ("/".intercalate ps).toList = c :: cs ∧ c ≠ '/' := by
  cases ps with
  | nil => exact absurd rfl hne
  | cons p rest =>
    have hp := h p List.mem_cons_self
    cases hcs : p.toList with
    | nil => exact absurd (String.toList_inj.mp hcs) hp.ne_empty
    | cons c cs =>
      have hc : c ≠ '/' := fun heq => hp.slash_notMem (by simp [hcs, heq])
      cases rest with
      | nil => exact ⟨c, cs, by rw [String.intercalate_singleton, hcs], hc⟩
      | cons q rest =>
        refine ⟨c, cs ++ ("/" ++ "/".intercalate (q :: rest)).toList, ?_, hc⟩
        rw [String.intercalate_cons_cons, String.append_assoc, String.toList_append, hcs]
        rfl

/-! ### Below a folder -/

/-- The path of what lies below a folder, by the names that lead there. -/
def under (folder : String) (names : List String) : String :=
  if isAbsolute folder then root folder ++ "/".intercalate (parts folder ++ names)
  else ofParts (parts folder ++ names)

theorem root_of_isAbsolute {path : String} (h : isAbsolute path = true) :
    root path = "/" ∨ root path = "//" := by
  unfold root
  split
  · exact .inl rfl
  · exact .inr rfl
  · exact .inl rfl
  next hnone =>
    rw [isAbsolute] at h
    cases hcs : path.toList with
    | nil => simp [hcs] at h
    | cons c cs =>
      simp only [hcs, List.head?_cons, beq_iff_eq, Option.some.injEq] at h
      exact absurd (h ▸ hcs) (hnone cs)

/-- What begins with one or two slashes has just these as its root. -/
theorem root_append {slashes rest : String} (h : slashes = "/" ∨ slashes = "//")
    (hrest : ∃ c cs, rest.toList = c :: cs ∧ c ≠ '/') :
    isAbsolute (slashes ++ rest) = true ∧ root (slashes ++ rest) = slashes ∧
      parts (slashes ++ rest) = parts rest := by
  obtain ⟨c, cs, hcs, hc⟩ := hrest
  rcases h with rfl | rfl
  · have hlist : ("/" ++ rest).toList = '/' :: c :: cs := by rw [String.toList_append, hcs]; rfl
    refine ⟨by simp [isAbsolute, hlist], ?_, parts_slash "" rest⟩
    unfold root
    split <;> simp_all
  · have hlist : ("//" ++ rest).toList = '/' :: '/' :: c :: cs := by
      rw [String.toList_append, hcs]
      rfl
    refine ⟨by simp [isAbsolute, hlist], ?_, parts_slash "/" rest⟩
    unfold root
    split <;> simp_all

section Under
variable {folder : String} {names : List String} (hne : names ≠ []) (h : ∀ p ∈ names, IsName p)
include hne h

/-- The place and the components of a path below a folder. -/
theorem under_cases : isAbsolute (under folder names) = isAbsolute folder ∧
    (isAbsolute folder = true → root (under folder names) = root folder) ∧
    parts (under folder names) = parts folder ++ names := by
  have hall : ∀ p ∈ parts folder ++ names, IsName p := by
    intro p hp
    rcases List.mem_append.mp hp with hp | hp
    · exact isName_of_mem_parts hp
    · exact h p hp
  have hhead := exists_head_intercalate (by simp [hne]) hall
  have hparts := parts_intercalate hall
  unfold under
  by_cases habs : isAbsolute folder = true
  · obtain ⟨habs', hroot, hsame⟩ := root_append (root_of_isAbsolute habs) hhead
    rw [if_pos habs]
    exact ⟨habs'.trans habs.symm, fun _ => hroot, hsame.trans hparts⟩
  · have hplain : ofParts (parts folder ++ names) = "/".intercalate (parts folder ++ names) := by
      simp [ofParts, hne]
    rw [if_neg habs, hplain]
    refine ⟨?_, fun hcontra => absurd hcontra habs, hparts⟩
    obtain ⟨c, cs, hcs, hc⟩ := hhead
    rw [Bool.eq_false_iff.mpr habs]
    simp [isAbsolute, hcs, hc]

theorem parts_under : parts (under folder names) = parts folder ++ names :=
  (under_cases hne h).2.2

/-- A path below a folder is in its plain form. -/
theorem normalize_under : normalize (under folder names) = under folder names := by
  obtain ⟨habs, hroot, hparts⟩ : isAbsolute (under folder names) = isAbsolute folder ∧ _ :=
    under_cases hne h
  rw [normalize, habs, hparts]
  by_cases hfolder : isAbsolute folder = true
  · rw [if_pos hfolder, hroot hfolder, under, if_pos hfolder]
  · rw [if_neg hfolder, under, if_neg hfolder]

theorem name_under : name (under folder names) = names.getLast hne := by
  rw [name, parts_under hne h, List.getLast?_append, List.getLast?_eq_some_getLast hne]
  rfl

end Under

end Paths

end CodeAtlas
