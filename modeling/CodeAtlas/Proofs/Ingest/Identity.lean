import CodeAtlas.Ingest.File
import CodeAtlas.Proofs.Ingest.Walk

/-! Which ids belong to which file. A definition goes by its path, name and row, and a
file by its project and path, all joined by colons. Paths may have colons in them, so an
id is taken apart from its end: a row has no colon, and neither has a name in the files
considered here. A file's own id ends like its path and not in a digit. -/

namespace CodeAtlas

/-! ### Texts joined by colons -/

/-- What follows the last colon tells where that colon is. -/
theorem append_colon_inj {a a' b b' : List Char} (hb : ':' ∉ b) (hb' : ':' ∉ b')
    (h : a ++ ':' :: b = a' ++ ':' :: b') : a = a' ∧ b = b' := by
  rcases List.append_eq_append_iff.mp h with ⟨c, ha, hc⟩ | ⟨c, ha, hc⟩
  · cases c with
    | nil => simp_all
    | cons x c =>
      simp only [List.cons_append, List.cons.injEq] at hc
      exact absurd (hc.2 ▸ by simp : ':' ∈ b) hb
  · cases c with
    | nil => simp_all
    | cons x c =>
      simp only [List.cons_append, List.cons.injEq] at hc
      exact absurd (hc.2 ▸ by simp : ':' ∈ b') hb'

theorem isDigit_of_mem_toString {n : Nat} {c : Char} (h : c ∈ (toString n).toList) :
    c.isDigit = true := by
  rw [Nat.toString_eq_repr, Nat.toList_repr] at h
  exact Nat.isDigit_of_mem_toDigits (by decide) (by decide) h

theorem colon_notMem_toString (n : Nat) : ':' ∉ (toString n).toList :=
  fun h => absurd (isDigit_of_mem_toString h) (by decide)

theorem getLast?_toString (n : Nat) : ∃ c, (toString n).toList.getLast? = some c ∧
    c.isDigit = true := by
  have hne : (toString n).toList ≠ [] := by
    rw [Nat.toString_eq_repr, Nat.toList_repr]
    exact Nat.toDigits_ne_nil
  exact ⟨_, List.getLast?_eq_some_getLast hne, isDigit_of_mem_toString (List.getLast_mem hne)⟩

namespace Paths

/-! ### The end of a path -/

theorem getLast?_intercalate (sep : String) (ps : List String) {p : String}
    (hp : ps.getLast? = some p) {c : Char} (hc : p.toList.getLast? = some c) :
    (sep.intercalate ps).toList.getLast? = some c := by
  induction ps with
  | nil => simp at hp
  | cons q rest ih =>
    cases rest with
    | nil =>
      obtain rfl : q = p := by simpa using hp
      simpa using hc
    | cons r rest =>
      rw [String.intercalate_cons_cons, String.toList_append, List.getLast?_append,
        ih (by simpa using hp)]
      rfl

/-- A name with an ending ends as the ending does. -/
theorem getLast?_of_suffixOf {name ending : String} (h : suffixOf name = ending)
    {c : Char} (hc : ending.toList.getLast? = some c) :
    name.toList.getLast? = some c := by
  subst h
  unfold suffixOf at hc
  simp only at hc
  split at hc
  · have hlast : (Text.afterLast '.' name.toList).getLast? = some c := by
      rw [String.toList_ofList] at hc
      cases hl : Text.afterLast '.' name.toList with
      | nil => simp_all
      | cons x xs => simpa [hl] using hc
    rw [Text.afterLast, List.getLast?_reverse] at hlast
    rw [← List.head?_reverse]
    cases hr : name.toList.reverse with
    | nil => simp [hr] at hlast
    | cons x xs =>
      rw [hr, List.takeWhile_cons] at hlast
      split at hlast <;> simp_all
  · simp at hc

theorem getLast?_normalize {path : String} {c : Char}
    (h : (name path).toList.getLast? = some c) : (normalize path).toList.getLast? = some c := by
  obtain ⟨p, hp⟩ : ∃ p, (parts path).getLast? = some p := by
    cases hl : (parts path).getLast? with
    | none => simp [name, hl] at h
    | some p => exact ⟨p, rfl⟩
  have hc : p.toList.getLast? = some c := by simpa [name, hp] using h
  have hjoin := getLast?_intercalate "/" _ hp hc
  have hne : (parts path).isEmpty = false := by
    cases hl : parts path with
    | nil => simp [hl] at hp
    | cons q rest => rfl
  unfold normalize
  split
  · rw [String.toList_append, List.getLast?_append, hjoin]
    rfl
  · rw [ofParts, hne]
    exact hjoin

end Paths

namespace Ingest

/-- The path does not end in a digit. -/
def PlainEnd (path : String) : Prop :=
  ∃ c, path.toList.getLast? = some c ∧ c.isDigit = false

/-- A path with one of the known endings keeps it in its plain form. -/
theorem plainEnd_normalize {path : String}
    (h : (supportedSuffixes.lookup (Paths.suffix path)).isSome) :
    PlainEnd (Paths.normalize path) := by
  by_cases hpy : Paths.suffixOf (Paths.name path) = ".py"
  · exact ⟨'y', Paths.getLast?_normalize (Paths.getLast?_of_suffixOf hpy rfl), rfl⟩
  by_cases hjava : Paths.suffixOf (Paths.name path) = ".java"
  · exact ⟨'a', Paths.getLast?_normalize (Paths.getLast?_of_suffixOf hjava rfl), rfl⟩
  · simp [supportedSuffixes, Paths.suffix, List.lookup_cons, beq_false_of_ne hpy,
      beq_false_of_ne hjava] at h

/-! ### Ids of definitions -/

/-- Where a definition stands. -/
def definitionId (path name : String) (row : Nat) : String :=
  path ++ ":" ++ name ++ ":" ++ toString row

/-- The id of a file in its project. -/
def fileId (project path : String) : String :=
  project ++ ":" ++ path

theorem definitionId_inj {path path' name name' : String} {row row' : Nat}
    (hn : ':' ∉ name.toList) (hn' : ':' ∉ name'.toList)
    (h : definitionId path name row = definitionId path' name' row') :
    path = path' ∧ name = name' ∧ toString row = toString row' := by
  have hl : (path ++ ":" ++ name).toList ++ ':' :: (toString row).toList =
      (path' ++ ":" ++ name').toList ++ ':' :: (toString row').toList := by
    simpa [definitionId, ← String.toList_inj] using h
  obtain ⟨hfront, hrow⟩ :=
    append_colon_inj (colon_notMem_toString row) (colon_notMem_toString row') hl
  have hf : path.toList ++ ':' :: name.toList = path'.toList ++ ':' :: name'.toList := by
    simpa using hfront
  obtain ⟨hpath, hname⟩ := append_colon_inj hn hn' hf
  exact ⟨String.toList_inj.mp hpath, String.toList_inj.mp hname, String.toList_inj.mp hrow⟩

/-- A definition is never taken for a file. -/
theorem definitionId_ne_fileId {project path : String} (hp : PlainEnd path)
    (path' name : String) (row : Nat) : definitionId path' name row ≠ fileId project path := by
  intro h
  obtain ⟨c, hc, hplain⟩ := hp
  obtain ⟨d, hd, hdigit⟩ := getLast?_toString row
  have hlast : (definitionId path' name row).toList.getLast? = some d := by
    rw [definitionId, String.toList_append, List.getLast?_append, hd]
    rfl
  rw [h, fileId, String.toList_append, List.getLast?_append, hc] at hlast
  simp only [Option.some_or, Option.some.injEq] at hlast
  rw [hlast, hdigit] at hplain
  exact absurd hplain (by decide)

/-- The ids that a file of a project writes to, its names being without colons. -/
def Owns (project path id : String) : Prop :=
  id = fileId project path ∨ ∃ name row, ':' ∉ name.toList ∧ id = definitionId path name row

/-- No id belongs to two files. -/
theorem Owns.path_eq {project path path' id : String} (hp : PlainEnd path) (hp' : PlainEnd path')
    (h : Owns project path id) (h' : Owns project path' id) : path = path' := by
  rcases h with rfl | ⟨name, row, hn, rfl⟩
  · rcases h' with h' | ⟨name, row, -, h'⟩
    · have : (project ++ ":").toList ++ path.toList = (project ++ ":").toList ++ path'.toList := by
        simpa [fileId, ← String.toList_inj] using h'
      exact String.toList_inj.mp (List.append_cancel_left this)
    · exact absurd h'.symm (definitionId_ne_fileId hp path' name row)
  · rcases h' with h' | ⟨name', row', hn', h'⟩
    · exact absurd h' (definitionId_ne_fileId hp' path name row)
    · exact (definitionId_inj hn hn' h').1

/-! ### What is extracted -/

theorem definitions_of_contribution {src : Source} {owner : Option String} {d : Option Definition}
    {n : Node} {x : Extraction} (h : contribution src owner d n = .ok x) :
    x.definitions = d.toList := by
  unfold contribution at h
  split at h
  · cases h
    rfl
  next owner _ =>
    rcases hc : callsAt src.language owner n with _ | calls
    · simp [hc, bind, Except.bind] at h
    rcases hu : usagesAt src.language owner n with _ | usages
    · simp [hc, hu, bind, Except.bind] at h
    simp only [hc, hu, bind, Except.bind, pure, Except.pure, Except.ok.injEq] at h
    rw [← h]

mutual

/-- Every definition in a tree is the definition at one of its nodes. -/
theorem exists_definitionAt (src : Source) (owner : Option String) :
    ∀ (n : Node) {x : Extraction}, extractFrom src owner n = .ok x → ∀ d ∈ x.definitions,
      ∃ owner n, definitionAt? src owner n = some d
  | .mk kind first last text roles children, x, h, d, hd => by
    simp only [extractFrom] at h
    generalize hn : Node.mk kind first last text roles children = n at h
    rcases hown : contribution src owner (definitionAt? src owner n) n with _ | own
    · simp [hown, bind, Except.bind] at h
    rcases hbelow : extractAll src (((definitionAt? src owner n).map (·.id)).or owner) children
      with _ | below
    · simp [hown, hbelow, bind, Except.bind] at h
    obtain rfl : own.append below = x := by
      simpa [hown, hbelow, bind, Except.bind, pure, Except.pure] using h
    rcases List.mem_append.mp hd with hd | hd
    · rw [definitions_of_contribution hown] at hd
      exact ⟨owner, n, Option.mem_toList.mp hd⟩
    · exact exists_definitionAt_all src _ children hbelow d hd

theorem exists_definitionAt_all (src : Source) (owner : Option String) :
    ∀ (ns : List Node) {x : Extraction}, extractAll src owner ns = .ok x → ∀ d ∈ x.definitions,
      ∃ owner n, definitionAt? src owner n = some d
  | [], x, h, d, hd => by
    simp only [extractAll, Except.ok.injEq] at h
    simp [← h, Extraction.empty] at hd
  | n :: rest, x, h, d, hd => by
    simp only [extractAll] at h
    rcases ha : extractFrom src owner n with _ | a
    · simp [ha, bind, Except.bind] at h
    rcases hb : extractAll src owner rest with _ | b
    · simp [ha, hb, bind, Except.bind] at h
    obtain rfl : a.append b = x := by
      simpa [ha, hb, bind, Except.bind, pure, Except.pure] using h
    rcases List.mem_append.mp hd with hd | hd
    · exact exists_definitionAt src owner n ha d hd
    · exact exists_definitionAt_all src owner rest hb d hd

end

/-- What is extracted from a file goes by the file's path. -/
theorem id_of_mem_extract {lang : Language} {content path : String} {maxRows : Int} {tree : Node}
    {x : Extraction} (h : extract lang content path maxRows tree = .ok x) {d : Definition}
    (hd : d ∈ x.definitions) : d.id = definitionId path d.name d.startLine := by
  rw [extract_eq_extractFrom] at h
  obtain ⟨owner, n, hat⟩ := exists_definitionAt _ none tree h d hd
  obtain ⟨type, -, rfl⟩ := Option.map_eq_some_iff.mp hat
  rfl

/-! ### Fingerprints -/

theorem wordHex_ne_nil (w : UInt32) : Digest.wordHex w ≠ [] := by
  simp [Digest.wordHex, Nat.toDigits_ne_nil]

theorem fingerprint_ne_empty (code : String) : fingerprint code ≠ "" := by
  intro h
  rw [← String.toList_inj] at h
  simp [fingerprint, Digest.sha256, Digest.sha256Bytes, wordHex_ne_nil] at h

end Ingest

end CodeAtlas
