import CodeAtlas.Text.Blank
import Mathlib.Data.List.DropRight

/-! Stripping. Blanks put at either end of a text do not show once it is stripped, and only a text
without blanks at its ends is left as it is. -/

namespace CodeAtlas.Text

/-- Nothing but blanks. -/
def Blanks (s : List Char) : Prop := ∀ c ∈ s, isBlank c = true

/-- There is no blank at either end. -/
def Bare (s : List Char) : Prop :=
  (∀ c, s.head? = some c → isBlank c = false) ∧ ∀ c, s.getLast? = some c → isBlank c = false

variable {b s : List Char}

theorem Blanks.reverse (h : Blanks b) : Blanks b.reverse :=
  fun c hc => h c (List.mem_reverse.mp hc)

theorem Blanks.dropBlanks_append (h : Blanks b) (s : List Char) :
    dropBlanks (b ++ s) = dropBlanks s :=
  List.dropWhile_append_of_pos h

theorem Blanks.dropBlanks_eq (h : Blanks b) : dropBlanks b = [] := by
  simpa [dropBlanks] using h.dropBlanks_append []

theorem Blanks.strip_append_left (h : Blanks b) (s : List Char) : strip (b ++ s) = strip s := by
  rw [strip, h.dropBlanks_append, strip]

theorem Blanks.strip_append_right (h : Blanks b) (s : List Char) : strip (s ++ b) = strip s := by
  unfold strip
  by_cases hs : dropBlanks s = []
  · have hall : dropBlanks (s ++ b) = [] := by
      rw [dropBlanks, List.dropWhile_append, ← dropBlanks, hs]
      exact h.dropBlanks_eq
    rw [hs, hall]
  · have hrest : dropBlanks (s ++ b) = dropBlanks s ++ b := by
      rw [dropBlanks, List.dropWhile_append, ← dropBlanks, if_neg (by simpa using hs)]
    rw [hrest, List.reverse_append, h.reverse.dropBlanks_append]

/-- What stands between blanks is stripped alone. -/
theorem strip_between {b c : List Char} (hb : Blanks b) (hc : Blanks c) (s : List Char) :
    strip (b ++ s ++ c) = strip s := by
  rw [hc.strip_append_right, hb.strip_append_left]

theorem dropBlanks_eq_self_iff :
    dropBlanks s = s ↔ ∀ c, s.head? = some c → isBlank c = false := by
  cases s with
  | nil => simp [dropBlanks]
  | cons c s =>
    by_cases hc : isBlank c = true
    · have hshort : (dropBlanks (c :: s)).length ≤ s.length := by
        rw [dropBlanks, List.dropWhile_cons_of_pos hc]
        exact (List.dropWhile_suffix _).length_le
      have hne : dropBlanks (c :: s) ≠ c :: s := by
        intro heq
        rw [heq, List.length_cons] at hshort
        omega
      simp [hne, hc]
    · simp [dropBlanks, hc]

/-- A text is left as it is just when there is nothing to strip. -/
theorem strip_eq_self_iff : strip s = s ↔ Bare s := by
  have hlast : (∀ c, s.getLast? = some c → isBlank c = false) ↔
      dropBlanks s.reverse = s.reverse := by
    rw [dropBlanks_eq_self_iff, List.head?_reverse]
  rw [Bare, ← dropBlanks_eq_self_iff, hlast]
  constructor
  · intro h
    have hlen : (strip s).length ≤ (dropBlanks s).length := by
      rw [strip, List.length_reverse]
      exact (List.dropWhile_suffix _).length_le.trans_eq List.length_reverse
    rw [h] at hlen
    have hfront : dropBlanks s = s := (List.dropWhile_suffix _).eq_of_length_le hlen
    rw [strip, hfront, List.reverse_eq_iff] at h
    exact ⟨hfront, h⟩
  · rintro ⟨hfront, hback⟩
    rw [strip, hfront, hback, List.reverse_reverse]

theorem blanks_takeWhile (s : List Char) : Blanks (s.takeWhile isBlank) :=
  fun _ hc => List.mem_takeWhile_imp hc

/-- Only blanks are stripped. -/
theorem exists_around_strip (s : List Char) :
    ∃ b c, Blanks b ∧ Blanks c ∧ s = b ++ strip s ++ c := by
  have hfront : s.takeWhile isBlank ++ dropBlanks s = s := List.takeWhile_append_dropWhile
  have hback : (dropBlanks s).reverse.takeWhile isBlank ++ dropBlanks (dropBlanks s).reverse =
      (dropBlanks s).reverse := List.takeWhile_append_dropWhile
  refine ⟨_, _, blanks_takeWhile s, (blanks_takeWhile (dropBlanks s).reverse).reverse, ?_⟩
  have hstrip : strip s ++ ((dropBlanks s).reverse.takeWhile isBlank).reverse = dropBlanks s := by
    rw [strip, ← List.reverse_append, hback, List.reverse_reverse]
  rw [List.append_assoc, hstrip, hfront]

theorem strip_strip (s : List Char) : strip (strip s) = strip s := by
  obtain ⟨b, c, hb, hc, heq⟩ := exists_around_strip s
  calc strip (strip s) = strip (b ++ strip s ++ c) := (strip_between hb hc _).symm
    _ = strip s := by rw [← heq]

end CodeAtlas.Text
