import CodeAtlas.Proofs.Ingest.Scoping
import CodeAtlas.Proofs.Text.Rows

/-! The text of a definition. A tree counts rows by line feeds, and the text of a definition is
cut out of the rows of a listing. The two agree up to the first character that ends a row of a
listing and is not a line feed, so a definition has its own rows if no such character comes before
its end, and only if there is none in these rows. -/

namespace CodeAtlas.Ingest

open Text

/-- The rows of a node, by line feeds. -/
def ownRows (content : String) (n : Node) : List (List Char) :=
  ((splitAt '\n' content.toList).take (n.last + 1)).drop n.first

/-- The rows of a node are rows of the content. -/
structure Within (content : String) (n : Node) : Prop where
  first_le_last : n.first ≤ n.last
  last_lt : n.last < rowCount content.toList

/-- A definition is recorded with the text of its own rows, and shortened to the first of them. -/
structure KeepsRows (content : String) (maxRows : Int) (n : Node) (d : Definition) : Prop where
  full : d.fullCode = String.ofList (joinRows (ownRows content n))
  truncated : d.truncatedCode = String.ofList (joinRows
    ((ownRows content n).take (min maxRows.toNat (n.last - n.first + 1))))

/-! ### The rows that are cut out -/

theorem rowsUpTo_eq (rs : List (List Char)) (s : Nat) {stop : Int} (h : 0 ≤ stop) :
    rowsUpTo rs (s + 1) stop = String.ofList (joinRows ((rs.take stop.toNat).drop s)) := by
  have hstop : ¬stop < 0 := by omega
  simp only [rowsUpTo, if_neg hstop, rowsBetween, Nat.add_sub_cancel]

/-- The rows of a listing that stand for those of a node. -/
def listedRows (content : String) (n : Node) : List (List Char) :=
  ((rows content.toList).take (n.last + 1)).drop n.first

section Cut
variable {lang : Language} {content path : String} {maxRows : Int} {p : Place} {d : Definition}

theorem RecordedAt.fullCode_eq
    (h : RecordedAt ⟨lang, path, rows content.toList, maxRows⟩ p d) :
    d.fullCode = String.ofList (joinRows (listedRows content p.node)) := by
  rw [h.fullCode, rowsUpTo_eq _ _ (by omega)]
  rfl

theorem RecordedAt.truncatedCode_eq
    (h : RecordedAt ⟨lang, path, rows content.toList, maxRows⟩ p d) (hmax : 1 ≤ maxRows)
    (hrows : p.node.first ≤ p.node.last) :
    d.truncatedCode = String.ofList (joinRows ((listedRows content p.node).take
      (min maxRows.toNat (p.node.last - p.node.first + 1)))) := by
  have htext : d.truncatedCode = rowsUpTo (rows content.toList) (p.node.first + 1)
      (min (p.node.last + 1 : Int) ((p.node.first + 1 : Nat) + maxRows - 1)) := h.truncatedCode
  have hstop : (min (p.node.last + 1 : Int) ((p.node.first + 1 : Nat) + maxRows - 1)).toNat =
      min (p.node.last + 1) (p.node.first + maxRows.toNat) := by omega
  have hcount : min (p.node.last + 1) (p.node.first + maxRows.toNat) - p.node.first =
      min (min maxRows.toNat (p.node.last - p.node.first + 1))
        (p.node.last + 1 - p.node.first) := by omega
  rw [htext, rowsUpTo_eq _ _ (by omega), hstop, listedRows, List.drop_take, List.drop_take,
    List.take_take, hcount]

theorem unbroken_listedRows (content : String) (n : Node) : Unbroken (listedRows content n) :=
  fun r hr => unbroken_rows _ r (List.mem_of_mem_take (List.mem_of_mem_drop hr))

/-- The listing has the rows of a node if no other character ends a row before their end. There
is no row in the listing of an empty text. -/
theorem listedRows_eq {n : Node} (h : Within content n)
    (hun : Unbroken ((splitAt '\n' content.toList).take (n.last + 1))) :
    listedRows content n = ownRows content n ∨
      (listedRows content n = [] ∧ ownRows content n = [[]]) := by
  obtain ⟨hle, hlt⟩ := h
  by_cases hne : content.toList = []
  · -- Line feeds make one empty row of it, a listing makes none, and both join to nothing.
    have hlast : n.last = 0 := by
      rw [hne] at hlt
      exact Nat.lt_one_iff.mp hlt
    have hfirst : n.first = 0 := by omega
    rw [listedRows, ownRows, hne, hlast, hfirst]
    exact .inr ⟨rfl, rfl⟩
  · rw [listedRows, ownRows, take_rows hne hlt hun]
    exact .inl rfl

theorem RecordedAt.keepsRows (h : RecordedAt ⟨lang, path, rows content.toList, maxRows⟩ p d)
    (hmax : 1 ≤ maxRows) (hwithin : Within content p.node)
    (hun : Unbroken ((splitAt '\n' content.toList).take (p.node.last + 1))) :
    KeepsRows content maxRows p.node d := by
  have hfull := h.fullCode_eq
  have htruncated := h.truncatedCode_eq hmax hwithin.first_le_last
  rcases listedRows_eq hwithin hun with heq | ⟨hlisted, hown⟩
  · rw [heq] at hfull htruncated
    exact ⟨hfull, htruncated⟩
  · rw [hlisted] at hfull htruncated
    have hone : 1 ≤ min maxRows.toNat (p.node.last - p.node.first + 1) := by omega
    refine ⟨by rw [hfull, hown]; rfl, ?_⟩
    rw [htruncated, hown, List.take_nil, List.take_of_length_le hone]
    rfl

theorem RecordedAt.unbroken_of_keepsRows
    (h : RecordedAt ⟨lang, path, rows content.toList, maxRows⟩ p d)
    (hkeeps : KeepsRows content maxRows p.node d) : Unbroken (ownRows content p.node) := by
  have hjoin : joinRows (listedRows content p.node) = joinRows (ownRows content p.node) :=
    String.ofList_injective (h.fullCode_eq.symm.trans hkeeps.full)
  intro r hr c hc
  have hne : c ≠ '\n' :=
    ne_newline_of_mem_row (List.mem_of_mem_take (List.mem_of_mem_drop hr)) hc
  have hin : c ∈ joinRows (listedRows content p.node) := by
    rw [hjoin, mem_joinRows hne]
    exact ⟨r, hr, hc⟩
  obtain ⟨r', hr', hc'⟩ := (mem_joinRows hne _).mp hin
  exact unbroken_listedRows content p.node r' hr' c hc'

end Cut

/-! ### Every tree -/

theorem forall₂_keepsRows {lang : Language} {content path : String} {maxRows : Int} {tree : Node}
    {x : Extraction} (hmax : 1 ≤ maxRows) (hx : extract lang content path maxRows tree = .ok x) :
    List.Forall₂ (fun p d => Within content p.node →
        (Unbroken ((splitAt '\n' content.toList).take (p.node.last + 1)) →
          KeepsRows content maxRows p.node d) ∧
        (KeepsRows content maxRows p.node d → Unbroken (ownRows content p.node)))
      (definitionPlaces lang tree) x.definitions :=
  (extract_eq_ok hx).1.imp fun _ _ hat hwithin =>
    ⟨fun hun => hat.keepsRows hmax hwithin hun, fun hkeeps => hat.unbroken_of_keepsRows hkeeps⟩

/-- A tree of one class that has the rows up to this one. -/
def classTo (lang : Language) (row : Nat) : Node :=
  match lang with
  | .python => .mk "class_definition" 0 row (.ok "") [] []
  | .java => .mk "class_declaration" 0 row (.ok "") [] []

theorem extract_classTo (lang : Language) (content path : String) (row : Nat) :
    ∃ x d, extract lang content path 1 (classTo lang row) = .ok x ∧ x.definitions = [d] := by
  rw [extract_eq_extractFrom]
  cases lang
  · exact ⟨_, _, rfl, rfl⟩
  · exact ⟨_, _, rfl, rfl⟩

theorem definitionPlaces_classTo (lang : Language) (row : Nat) :
    definitionPlaces lang (classTo lang row) = [⟨[], classTo lang row, []⟩] := by
  cases lang
  · rfl
  · rfl

theorem classTo_rows (lang : Language) (row : Nat) :
    (classTo lang row).first = 0 ∧ (classTo lang row).last = row := by
  cases lang
  · exact ⟨rfl, rfl⟩
  · exact ⟨rfl, rfl⟩

/-- A row with a character that ends it in a listing is lost to a class that ends with it. -/
theorem not_keepsRows_classTo {lang : Language} {content path : String} {row : Nat} {r : List Char}
    (hr : (splitAt '\n' content.toList)[row]? = some r) (hrow : row < rowCount content.toList)
    {c : Char} (hc : c ∈ r) (hbreak : isRowBreak c = true) :
    ∃ x, extract lang content path 1 (classTo lang row) = .ok x ∧
      ¬List.Forall₂ (fun p d => Within content p.node → KeepsRows content 1 p.node d)
        (definitionPlaces lang (classTo lang row)) x.definitions := by
  obtain ⟨x, d, hx, hd⟩ := extract_classTo lang content path row
  refine ⟨x, hx, fun hkeeps => ?_⟩
  have hall := forall₂_keepsRows (by omega) hx
  rw [definitionPlaces_classTo, hd, List.forall₂_cons] at hkeeps hall
  obtain ⟨hfirst, hlast⟩ := classTo_rows lang row
  have hwithin : Within content (classTo lang row) := ⟨by omega, by omega⟩
  have hun := (hall.1 hwithin).2 (hkeeps.1 hwithin)
  have hmem : r ∈ ownRows content (classTo lang row) := by
    rw [ownRows, hfirst, hlast, List.drop_zero]
    exact List.mem_of_getElem? ((List.getElem?_take_of_lt (Nat.lt_succ_self row)).trans hr)
  exact absurd (hun r hmem c hc) (by simp [hbreak])

/-- In a text where only line feeds end rows, every definition of every tree is recorded with its
own rows, and in no other text is that so. It is enough for a definition that no other character
ends a row before its end, and there is none in its own rows if it is recorded with them. -/
theorem recorded_rows_iff (lang : Language) (content path : String) :
    (∀ maxRows, 1 ≤ maxRows → ∀ tree x, extract lang content path maxRows tree = .ok x →
      List.Forall₂ (fun p d => Within content p.node →
          (Unbroken ((splitAt '\n' content.toList).take (p.node.last + 1)) →
            KeepsRows content maxRows p.node d) ∧
          (KeepsRows content maxRows p.node d → Unbroken (ownRows content p.node)))
        (definitionPlaces lang tree) x.definitions) ∧
    ((∀ maxRows, 1 ≤ maxRows → ∀ tree x, extract lang content path maxRows tree = .ok x →
      List.Forall₂ (fun p d => Within content p.node → KeepsRows content maxRows p.node d)
        (definitionPlaces lang tree) x.definitions) ↔
      ∀ c ∈ content.toList, isRowBreak c = true → c = '\n') := by
  refine ⟨fun maxRows hmax tree x hx => forall₂_keepsRows hmax hx, ?_, ?_⟩
  · intro hkeeps c hc hbreak
    by_contra hne
    -- Some tree has a class that ends in the row with this character.
    obtain ⟨row, r, hr, hcr, hrow⟩ := exists_row_of_mem hne hc
    obtain ⟨x, hx, hnot⟩ := not_keepsRows_classTo hr hrow hcr hbreak
    exact hnot (hkeeps 1 (by omega) _ x hx)
  · intro hplain maxRows hmax tree x hx
    refine (forall₂_keepsRows hmax hx).imp fun p d h hwithin => (h hwithin).1 ?_
    exact fun r hr => unbroken_splitAt hplain r (List.mem_of_mem_take hr)

namespace Report

/-- Two functions with a page break between them, on a row of its own. -/
def content : String := "def total(): pass\n\x0c\ndef report(): pass"

def function (row : Nat) (name : String) : Node :=
  .mk "function_definition" row row (.ok ("def " ++ name ++ "(): pass")) [("name", 0)]
    [.mk "identifier" row row (.ok name) [] []]

def tree : Node :=
  .mk "module" 0 2 (.ok content) [] [function 0 "total", function 2 "report"]

theorem extract_eq : ∃ x d d', extract .python content "shop/report.py" 300 tree = .ok x ∧
    x.definitions = [d, d'] ∧ d'.fullCode = "" := by
  rw [extract_eq_extractFrom]
  exact ⟨_, _, _, rfl, rfl, rfl⟩

theorem definitionPlaces_eq : definitionPlaces .python tree =
    [⟨[0], function 0 "total", [tree]⟩, ⟨[1], function 2 "report", [tree]⟩] :=
  rfl

theorem unbroken_before : Unbroken ((splitAt '\n' content.toList).take 1) := by
  have hrow : (splitAt '\n' content.toList).take 1 = ["def total(): pass".toList] := by decide
  have hplain : "def total(): pass".toList.all (fun c => !isRowBreak c) = true := by decide
  rw [hrow]
  refine unbroken_cons.mpr ⟨fun c hc => ?_, fun r hr => by cases hr⟩
  simpa using List.all_eq_true.mp hplain c hc

/-- The function before the page break is recorded with its row. -/
theorem total_keeps_row : ∃ x d d', extract .python content "shop/report.py" 300 tree = .ok x ∧
    x.definitions = [d, d'] ∧ Within content (function 0 "total") ∧
    KeepsRows content 300 (function 0 "total") d := by
  obtain ⟨x, d, d', hx, hdefinitions, -⟩ := extract_eq
  have hall := (recorded_rows_iff .python content "shop/report.py").1 300 (by decide) tree x hx
  rw [definitionPlaces_eq, hdefinitions, List.forall₂_cons] at hall
  have hwithin : Within content (function 0 "total") := ⟨by decide, by decide⟩
  exact ⟨x, d, d', hx, hdefinitions, hwithin, (hall.1 hwithin).1 unbroken_before⟩

/-- The function behind the page break is recorded with an empty text. -/
theorem report_loses_row : '\r' ∉ content.toList ∧ Within content (function 2 "report") ∧
    ∃ x d d', extract .python content "shop/report.py" 300 tree = .ok x ∧
      x.definitions = [d, d'] ∧ ¬KeepsRows content 300 (function 2 "report") d' := by
  obtain ⟨x, d, d', hx, hdefinitions, htext⟩ := extract_eq
  refine ⟨by decide, ⟨by decide, by decide⟩, x, d, d', hx, hdefinitions, fun hkeeps => ?_⟩
  have hfull := hkeeps.full
  rw [htext] at hfull
  revert hfull
  decide

end Report

end CodeAtlas.Ingest
