import CodeAtlas.Proofs.Issue.Analysis
import CodeAtlas.Proofs.Lists
import CodeAtlas.Proofs.Text.Blocks
import Mathlib.Algebra.GroupWithZero.Nat
import Mathlib.Data.Finset.Card
import Mathlib.Data.Nat.Find

/-! Repeated blocks of Java code. Only the first block of each text is kept in mind, and that is
enough: a block is reported just when an earlier one has its text, once and with the row of the
first of these. The rows are sums over the blocks before, so they do not fall; but the empty lines
between the blocks are left out of the sums, so no report stands on the row of its block. -/

namespace CodeAtlas.Issue

/-! ### What is kept in mind -/

section Seen
variable {lang : Language} {seen prior : List Block} {a b x : Block}

theorem earlierLine?_congr (h : b.Alike x) (seen : List Block) :
    earlierLine? seen b = earlierLine? seen x := by
  rw [earlierLine?, earlierLine?, h]

theorem earlierLine?_append (seen : List Block) (a b : Block) :
    earlierLine? (seen ++ [a]) b =
      (earlierLine? seen b).or
        (if Text.strip a.text = Text.strip b.text then some a.line else none) := by
  by_cases h : Text.strip a.text = Text.strip b.text <;>
    cases hfind : seen.find? fun a => Text.strip a.text == Text.strip b.text <;>
    simp [earlierLine?, List.find?_append, hfind, h]

/-- A block that is like one in mind adds nothing to it. -/
theorem earlierLine?_append_of_some {line : Nat} (h : earlierLine? seen a = some line) (x : Block) :
    earlierLine? (seen ++ [a]) x = earlierLine? seen x := by
  rw [earlierLine?_append]
  split
  next hlike => rw [← earlierLine?_congr (b := a) hlike, h, Option.some_or]
  next => rw [Option.or_none]

/-- What is told of block `i`, with the earlier ones and those before them in mind. -/
def repetition? (lang : Language) (prior bs : List Block) (i : Nat) : Option Issue :=
  bs[i]?.bind fun b => (earlierLine? (prior ++ bs.take i) b).map fun line =>
    ⟨lang, .duplicate line b.line⟩

theorem repetition?_cons_succ (lang : Language) (prior bs : List Block) (b : Block) (i : Nat) :
    repetition? lang prior (b :: bs) (i + 1) = repetition? lang (prior ++ [b]) bs i := by
  simp [repetition?]

/-- To keep the first of each text in mind comes to the same as to keep all. -/
theorem repeatedFrom_eq (hseen : ∀ x, earlierLine? seen x = earlierLine? prior x)
    (bs : List Block) :
    repeatedFrom lang seen bs = (List.range bs.length).filterMap (repetition? lang prior bs) := by
  induction bs generalizing seen prior with
  | nil => rfl
  | cons b bs ih =>
    have hfirst : repetition? lang prior (b :: bs) 0 =
        (earlierLine? seen b).map fun line => ⟨lang, .duplicate line b.line⟩ := by
      simp [repetition?, hseen]
    have hrest : (List.range bs.length).filterMap (repetition? lang prior (b :: bs) ∘ Nat.succ) =
        (List.range bs.length).filterMap (repetition? lang (prior ++ [b]) bs) :=
      List.filterMap_congr fun i _ => repetition?_cons_succ lang prior bs b i
    rw [List.length_cons, List.range_succ_eq_map, List.filterMap_cons, List.filterMap_map, hrest,
      hfirst, repeatedFrom]
    cases hline : earlierLine? seen b with
    | some line =>
      have hkept : ∀ x, earlierLine? seen x = earlierLine? (prior ++ [b]) x := fun x => by
        rw [earlierLine?_append_of_some ((hseen b).symm.trans hline), hseen]
      exact congrArg (_ :: ·) (ih hkept)
    | none =>
      have hadded : ∀ x, earlierLine? (seen ++ [b]) x = earlierLine? (prior ++ [b]) x := fun x => by
        rw [earlierLine?_append, earlierLine?_append, hseen]
      exact ih hadded

/-- Each block is reported, or it is the first of its text. -/
theorem length_repeatedFrom_add_card (lang : Language) (seen bs : List Block) :
    (repeatedFrom lang seen bs).length +
        (((seen ++ bs).map fun b => Text.strip b.text).toFinset).card =
      ((seen.map fun b => Text.strip b.text).toFinset).card + bs.length := by
  induction bs generalizing seen with
  | nil => simp [repeatedFrom]
  | cons b bs ih =>
    have hmem : Text.strip b.text ∈ seen.map (fun b => Text.strip b.text) ↔
        ∃ a ∈ seen, a.Alike b := List.mem_map
    rw [repeatedFrom]
    cases hline : earlierLine? seen b with
    | some line =>
      have hold : Text.strip b.text ∈ (seen.map fun b => Text.strip b.text).toFinset := by
        rw [List.mem_toFinset, hmem]
        by_contra hnone
        rw [earlierLine?_eq_none_iff.mpr fun a ha hab => hnone ⟨a, ha, hab⟩] at hline
        cases hline
      have hsame : ((seen ++ b :: bs).map fun b => Text.strip b.text).toFinset =
          ((seen ++ bs).map fun b => Text.strip b.text).toFinset := by
        simp only [List.map_append, List.map_cons, List.toFinset_append, List.toFinset_cons,
          Finset.union_insert]
        exact Finset.insert_eq_of_mem (Finset.mem_union_left _ hold)
      rw [hsame, List.length_cons, List.length_cons, Nat.add_right_comm, ih, Nat.add_assoc]
    | none =>
      have hnew : Text.strip b.text ∉ (seen.map fun b => Text.strip b.text).toFinset := by
        rw [List.mem_toFinset, hmem]
        rintro ⟨a, ha, hab⟩
        exact earlierLine?_eq_none_iff.mp hline a ha hab
      have hone : ((seen ++ [b]).map fun b => Text.strip b.text).toFinset.card =
          (seen.map fun b => Text.strip b.text).toFinset.card + 1 := by
        rw [List.map_append, List.toFinset_append, List.map_singleton, Finset.union_comm]
        exact Finset.card_insert_of_notMem hnew
      have hrest := ih (seen ++ [b])
      rw [List.append_assoc, List.singleton_append, hone] at hrest
      rw [hrest, List.length_cons]
      omega

end Seen

/-! ### Blocks of Java code -/

section Paragraphs
variable {blocks : List (List Char)} {i j k : Nat}

/-- The row on which block `i` is taken to start: the one behind all rows of the blocks before. -/
def startLine (blocks : List (List Char)) (i : Nat) : Nat :=
  ((blocks.take i).map fun b => (Text.rows b).length).sum + 1

theorem startLine_mono (blocks : List (List Char)) (h : i ≤ j) :
    startLine blocks i ≤ startLine blocks j := by
  obtain ⟨d, rfl⟩ := Nat.exists_eq_add_of_le h
  rw [startLine, startLine, List.take_add, List.map_append, List.sum_append]
  omega

theorem getElem?_paragraphsFrom (n : Nat) (blocks : List (List Char)) (i : Nat) :
    (paragraphsFrom n blocks)[i]? = blocks[i]?.map fun b => ⟨b, n + startLine blocks i⟩ := by
  induction blocks generalizing n i with
  | nil => rfl
  | cons b blocks ih =>
    cases i with
    | zero => rfl
    | succ i =>
      rw [paragraphsFrom, List.getElem?_cons_succ, List.getElem?_cons_succ, ih]
      simp only [startLine, List.take_succ_cons, List.map_cons, List.sum_cons, Nat.add_assoc]

theorem length_paragraphsFrom (n : Nat) (blocks : List (List Char)) :
    (paragraphsFrom n blocks).length = blocks.length := by
  induction blocks generalizing n with
  | nil => rfl
  | cons b blocks ih => rw [paragraphsFrom, List.length_cons, List.length_cons, ih]

theorem map_text_paragraphsFrom (n : Nat) (blocks : List (List Char)) :
    (paragraphsFrom n blocks).map (·.text) = blocks := by
  refine List.ext_getElem? fun i => ?_
  rw [List.getElem?_map, getElem?_paragraphsFrom, Option.map_map]
  exact Option.map_id'

/-- Two blocks have the same text, blanks at their ends aside. -/
def SameText (blocks : List (List Char)) (j i : Nat) : Prop :=
  blocks[j]?.map Text.strip = blocks[i]?.map Text.strip

instance : Decidable (SameText blocks j i) :=
  inferInstanceAs (Decidable (blocks[j]?.map Text.strip = blocks[i]?.map Text.strip))

/-- Block `i` has the text of an earlier one. -/
def Repeats (blocks : List (List Char)) (i : Nat) : Prop := ∃ j < i, SameText blocks j i

instance : DecidablePred (Repeats blocks) := fun i =>
  inferInstanceAs (Decidable (∃ j, j < i ∧ SameText blocks j i))

/-- Block `k` is the first of those with the text of block `i`, which comes later. -/
structure FirstLike (blocks : List (List Char)) (k i : Nat) : Prop where
  within : i < blocks.length
  lt : k < i
  same : SameText blocks k i
  first : ∀ j < k, ¬ SameText blocks j i

theorem Repeats.exists_first (h : Repeats blocks i) (hi : i < blocks.length) :
    ∃ k, FirstLike blocks k i := by
  obtain ⟨hlt, hsame⟩ := Nat.find_spec h
  refine ⟨Nat.find h, hi, hlt, hsame, fun j hj hlike => ?_⟩
  exact Nat.find_min h hj ⟨hj.trans hlt, hlike⟩

theorem sameText_iff {bs : List Block} {a b : Block} (ha : bs[k]? = some a) (hb : bs[i]? = some b) :
    SameText (bs.map (·.text)) k i ↔ a.Alike b := by
  rw [SameText, List.getElem?_map, List.getElem?_map, ha, hb]
  exact Option.some_inj

/-- The first block with the same text is the one that is found. -/
theorem earlierLine?_of_first {bs : List Block} {a b : Block}
    (h : FirstLike (bs.map (·.text)) k i) (ha : bs[k]? = some a) (hb : bs[i]? = some b) :
    earlierLine? (bs.take i) b = some a.line := by
  have htake : ∀ j < i, (bs.take i)[j]? = bs[j]? := fun j => List.getElem?_take_of_lt
  obtain ⟨hk, hget⟩ := List.getElem?_eq_some_iff.mp ((htake k h.lt).trans ha)
  have hfind : (bs.take i).find? (fun a => Text.strip a.text == Text.strip b.text) = some a := by
    refine List.find?_eq_some_iff_getElem.mpr
      ⟨beq_iff_eq.mpr ((sameText_iff ha hb).mp h.same), k, hk, hget, fun j hj => ?_⟩
    have hj' := (htake j (hj.trans h.lt)).symm.trans (List.getElem?_eq_getElem (hj.trans hk))
    have hother := mt (sameText_iff hj' hb).mpr (h.first j hj)
    simpa [Block.Alike] using hother
  rw [earlierLine?, hfind, Option.map_some]

theorem earlierLine?_of_not_repeats {bs : List Block} {b : Block}
    (h : ¬ Repeats (bs.map (·.text)) i) (hb : bs[i]? = some b) :
    earlierLine? (bs.take i) b = none := by
  refine earlierLine?_eq_none_iff.mpr fun a ha hlike => h ?_
  obtain ⟨j, hj⟩ := List.mem_iff_getElem?.mp ha
  rw [List.getElem?_take] at hj
  split at hj
  next hji => exact ⟨j, hji, (sameText_iff hj hb).mpr hlike⟩
  next => cases hj

/-- The report on block `i`, which repeats block `k`. -/
def report (blocks : List (List Char)) (k i : Nat) : Issue :=
  ⟨.java, .duplicate (startLine blocks k) (startLine blocks i)⟩

/-- The words about a block that repeats one starting on the given row. -/
def repeatText (line : Nat) : String :=
  "Duplicate code block found matching block starting at line " ++ toString line ++ "."

theorem message_report (blocks : List (List Char)) (k i : Nat) :
    (report blocks k i).message = repeatText (startLine blocks k) := by
  have hwords : "Duplicate code block" ++ " found matching block starting at line " =
      "Duplicate code block found matching block starting at line " := by decide +kernel
  exact congrArg (· ++ toString (startLine blocks k) ++ ".") hwords

theorem lineStart_report (blocks : List (List Char)) (k i : Nat) :
    (report blocks k i).lineStart = startLine blocks i := rfl

end Paragraphs

/-- The places of the blocks that repeat an earlier one, in order. -/
def repeats (blocks : List (List Char)) : List Nat :=
  (List.range blocks.length).filter (Repeats blocks)

/-- The reports go with the places of repeated blocks, one by one. -/
theorem forall₂_repeatedFrom (lang : Language) (bs : List Block) :
    List.Forall₂ (fun i issue => ∃ k a b, FirstLike (bs.map (·.text)) k i ∧ bs[k]? = some a ∧
        bs[i]? = some b ∧ issue = ⟨lang, .duplicate a.line b.line⟩)
      (repeats (bs.map (·.text))) (repeatedFrom lang [] bs) := by
  rw [repeatedFrom_eq (fun _ => rfl), repeats, List.length_map]
  refine forall₂_filter_filterMap (fun i hi hrepeats => ?_) fun i hi hnot => ?_
  · have hb := List.getElem?_eq_getElem (List.mem_range.mp hi)
    obtain ⟨k, hk⟩ := hrepeats.exists_first (by simpa using hi)
    have ha := List.getElem?_eq_getElem (hk.lt.trans (List.mem_range.mp hi))
    refine ⟨_, ?_, k, _, _, hk, ha, hb, rfl⟩
    rw [repetition?, hb, Option.bind_some, List.nil_append, earlierLine?_of_first hk ha hb,
      Option.map_some]
  · have hb := List.getElem?_eq_getElem (List.mem_range.mp hi)
    rw [repetition?, hb, Option.bind_some, List.nil_append, earlierLine?_of_not_repeats hnot hb,
      Option.map_none]

theorem forall₂_duplicates_java (code : String) :
    List.Forall₂ (fun i issue => ∃ k, FirstLike (Text.splitBlocks code.toList) k i ∧
        issue = report (Text.splitBlocks code.toList) k i)
      (repeats (Text.splitBlocks code.toList)) (duplicates .java code) := by
  have hall := forall₂_repeatedFrom .java (paragraphs code.toList)
  rw [paragraphs, map_text_paragraphsFrom] at hall
  rw [duplicates_eq]
  refine hall.imp ?_
  rintro i issue ⟨k, a, b, hk, ha, hb, rfl⟩
  rw [getElem?_paragraphsFrom, Option.map_eq_some_iff] at ha hb
  obtain ⟨-, -, rfl⟩ := ha
  obtain ⟨-, -, rfl⟩ := hb
  simp only [Nat.zero_add]
  exact ⟨k, hk, rfl⟩

theorem map_bare_paragraphs (code : String) :
    (paragraphs code.toList).map Block.bare = (Text.splitBlocks code.toList).map Text.strip := by
  rw [← map_text_paragraphsFrom 0 (Text.splitBlocks code.toList), List.map_map]
  rfl

theorem length_duplicates_java_add_card (code : String) :
    (duplicates .java code).length +
        ((Text.splitBlocks code.toList).map Text.strip).toFinset.card =
      (Text.splitBlocks code.toList).length := by
  have hcount := length_repeatedFrom_add_card .java [] (paragraphs code.toList)
  have hstrip : (paragraphs code.toList).map (fun b => Text.strip b.text) =
      (Text.splitBlocks code.toList).map Text.strip :=
    map_bare_paragraphs code
  rw [List.nil_append, hstrip, paragraphs, length_paragraphsFrom, List.map_nil,
    List.toFinset_nil, Finset.card_empty, Nat.zero_add] at hcount
  rwa [duplicates_eq]

theorem repeats_increasing (blocks : List (List Char)) : (repeats blocks).Pairwise (· < ·) :=
  List.pairwise_lt_range.filter _

/-- Each block whose text an earlier one has is reported once, in the order of the blocks and with
the row of the first block of that text; no other is. So the reports and the different texts make up
the number of blocks, and the rows do not fall from one report to the next. All this holds under any
digest that is different for different texts among the blocks. -/
theorem java_repeats_reported_once (code : String) :
    ∃ blocks, Text.Cuts code.toList blocks ∧
      List.Forall₂ (fun i issue => ∃ k, FirstLike blocks k i ∧
          issue.message = repeatText (startLine blocks k) ∧
          issue.lineStart = (startLine blocks i : Int))
        (repeats blocks) (duplicates .java code) ∧
      (duplicates .java code).length + (blocks.map Text.strip).toFinset.card = blocks.length ∧
      ((duplicates .java code).map Issue.lineStart).Pairwise (· ≤ ·) ∧
      ∀ {δ : Type} [DecidableEq δ] (digest : List Char → δ),
        NoCollision digest (blocks.map Text.strip) →
          duplicatesBy digest .java code = duplicates .java code := by
  refine ⟨_, Text.cuts_splitBlocks code.toList, ?_, length_duplicates_java_add_card code, ?_,
    fun digest hdigest => duplicatesBy_eq ?_⟩
  · refine (forall₂_duplicates_java code).imp ?_
    rintro i issue ⟨k, hk, rfl⟩
    exact ⟨k, hk, message_report .., lineStart_report ..⟩
  · have hlines : (duplicates .java code).map Issue.lineStart =
        (repeats (Text.splitBlocks code.toList)).map fun i =>
          (startLine (Text.splitBlocks code.toList) i : Int) := by
      refine map_eq_of_forall₂ (forall₂_duplicates_java code) ?_
      rintro i issue ⟨k, -, rfl⟩
      exact lineStart_report ..
    rw [hlines, List.pairwise_map]
    refine (repeats_increasing _).imp fun hij => ?_
    exact Int.ofNat_le.mpr (startLine_mono _ hij.le)
  · rwa [← map_bare_paragraphs] at hdigest

/-! ### The rows of reports -/

section Lines
variable {cs : List Char} {blocks : List (List Char)} {i k : Nat}

/-- The row of a text on which block `i` starts: the one behind all line feeds before it. -/
def lineAt (blocks : List (List Char)) (i : Nat) : Nat := (Text.before blocks i).count '\n' + 1

/-- The rows that the blocks before block `i` do not account for: the line feeds behind each of them
begin two rows, of which the block itself ends one, unless it is empty. -/
def missedRows (blocks : List (List Char)) (i : Nat) : Nat :=
  ((blocks.take i).map fun b => if b = [] then 2 else 1).sum

theorem missedRows_succ {b : List Char} (hb : blocks[i]? = some b) :
    missedRows blocks (i + 1) = missedRows blocks i + if b = [] then 2 else 1 := by
  simp [missedRows, List.take_add_one, hb]

theorem startLine_succ {b : List Char} (hb : blocks[i]? = some b) :
    startLine blocks (i + 1) = startLine blocks i + (Text.rows b).length := by
  simp only [startLine, List.take_add_one, hb, Option.toList_some, List.map_append, List.sum_append,
    List.map_singleton, List.sum_singleton]
  omega

theorem lineAt_succ {b : List Char} (hb : blocks[i]? = some b) :
    lineAt blocks (i + 1) = lineAt blocks i + (b ++ Text.pair).count '\n' := by
  simp only [lineAt, Text.before, List.take_add_one, hb, Option.toList_some, List.flatMap_append,
    List.flatMap_singleton, List.count_append]
  omega

theorem le_missedRows (hi : i ≤ blocks.length) : i ≤ missedRows blocks i := by
  induction i with
  | zero => exact Nat.zero_le _
  | succ i ih =>
    have hle := ih (by omega)
    rw [missedRows_succ (List.getElem?_eq_getElem hi)]
    split <;> omega

/-- A block and the pair behind it have its rows and those that are missed. -/
theorem count_append_pair {b : List Char} (h : Text.FeedsOnly b) (hlast : b.getLast? ≠ some '\n') :
    (b ++ Text.pair).count '\n' = (Text.rows b).length + if b = [] then 2 else 1 := by
  have hpair : Text.pair.count '\n' = 2 := by decide
  rw [List.count_append, hpair, Text.length_rows h hlast]
  by_cases hb : b = []
  · subst hb
    rfl
  · rw [if_neg hb, if_neg hb]

theorem startLine_add_missedRows (h : Text.Cuts cs blocks) (hfeeds : Text.FeedsOnly cs)
    (hi : i < blocks.length) : startLine blocks i + missedRows blocks i = lineAt blocks i := by
  induction i with
  | zero => rfl
  | succ i ih =>
    obtain ⟨b, hb⟩ : ∃ b, blocks[i]? = some b := ⟨_, List.getElem?_eq_getElem (by omega)⟩
    have hin : Text.FeedsOnly b := fun c hc =>
      hfeeds c ((h.before_append_prefix hb).subset (List.mem_append_right _ hc))
    have hrows := count_append_pair hin (h.getLast?_ne hb hi)
    have hbefore := ih (by omega)
    rw [startLine_succ hb, missedRows_succ hb, lineAt_succ hb, hrows]
    omega

/-- Only the first block has its own row. -/
theorem startLine_eq_lineAt_iff (h : Text.Cuts cs blocks) (hfeeds : Text.FeedsOnly cs)
    (hi : i < blocks.length) : startLine blocks i = lineAt blocks i ↔ i = 0 := by
  have hsum := startLine_add_missedRows h hfeeds hi
  have hle := le_missedRows hi.le
  constructor
  · omega
  · rintro rfl
    rfl

end Lines

/-- Where line feeds alone end rows, a report on block `i` stands on a row before the one on which
the block starts, by all the rows that the blocks before it do not account for. The row in its words
is short in the same way, so it is right just for the first block of the code. -/
theorem java_report_line_short {code : String} (hfeeds : Text.FeedsOnly code.toList) :
    ∃ blocks, Text.Cuts code.toList blocks ∧
      (∀ i b, blocks[i]? = some b → Text.before blocks i ++ b <+: code.toList) ∧
      List.Forall₂ (fun i issue =>
          issue.lineStart + missedRows blocks i = (lineAt blocks i : Int) ∧
          issue.lineStart ≠ (lineAt blocks i : Int) ∧
          ∃ k line, FirstLike blocks k i ∧ issue.message = repeatText line ∧
            line + missedRows blocks k = lineAt blocks k ∧ (line = lineAt blocks k ↔ k = 0))
        (repeats blocks) (duplicates .java code) := by
  have hcuts := Text.cuts_splitBlocks code.toList
  refine ⟨_, hcuts, fun i b hb => hcuts.before_append_prefix hb, ?_⟩
  refine (forall₂_duplicates_java code).imp ?_
  rintro i issue ⟨k, hk, rfl⟩
  have hkwithin := hk.lt.trans hk.within
  have hline := startLine_add_missedRows hcuts hfeeds hk.within
  have hfirst := startLine_eq_lineAt_iff hcuts hfeeds hk.within
  rw [lineStart_report]
  refine ⟨by exact_mod_cast hline, fun heq => ?_, k, startLine _ k, hk, message_report ..,
    startLine_add_missedRows hcuts hfeeds hkwithin, startLine_eq_lineAt_iff hcuts hfeeds hkwithin⟩
  exact absurd (hfirst.mp (by exact_mod_cast heq)) (Nat.ne_zero_of_lt hk.lt)

/-! ### A shop that lists its stock twice -/

namespace Stock

/-- The second and the third block are the same, and so are the first and the fourth. -/
def listed : String := "int apples = 3;\n\nint pears;\n\n int pears;\n\nint apples = 3;"

theorem feedsOnly_listed : Text.FeedsOnly listed.toList := by decide +kernel

theorem listed_reports_short :
    Text.FeedsOnly listed.toList ∧
      duplicates .java listed = [⟨.java, .duplicate 2 3⟩, ⟨.java, .duplicate 1 4⟩] ∧
      ∃ blocks, Text.Cuts listed.toList blocks ∧
        (∀ i b, blocks[i]? = some b → Text.before blocks i ++ b <+: listed.toList) ∧
        List.Forall₂ (fun i issue =>
            issue.lineStart + missedRows blocks i = (lineAt blocks i : Int) ∧
            issue.lineStart ≠ (lineAt blocks i : Int) ∧
            ∃ k line, FirstLike blocks k i ∧ issue.message = repeatText line ∧
              line + missedRows blocks k = lineAt blocks k ∧ (line = lineAt blocks k ↔ k = 0))
          (repeats blocks) (duplicates .java listed) :=
  ⟨feedsOnly_listed, by decide +kernel, java_report_line_short feedsOnly_listed⟩

def front : String := "int apples = 3;\n\n"

def apples : String := "int apples = 3;"

/-- The only other block stands behind two line feeds, on the third row, and is reported on the
second. -/
theorem apples_reported_above :
    Text.FeedsOnly (front ++ apples).toList ∧ Text.Cuts (front ++ apples).toList
        [apples.toList, apples.toList] ∧
      duplicates .java (front ++ apples) = [⟨.java, .duplicate 1 2⟩] ∧
      (⟨.java, .duplicate 1 2⟩ : Issue).lineStart ≠ (front.toList.count '\n' + 1 : Nat) := by
  have hsplit : Text.splitBlocks (front ++ apples).toList = [apples.toList, apples.toList] := by
    decide +kernel
  exact ⟨by decide +kernel, hsplit ▸ Text.cuts_splitBlocks _, by decide +kernel, by decide +kernel⟩

end Stock

end CodeAtlas.Issue
