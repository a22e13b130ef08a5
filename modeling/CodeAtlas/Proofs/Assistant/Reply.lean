import CodeAtlas.Assistant.Extraction
import CodeAtlas.Proofs.Json.ReadBack

/-! The object in a reply. What is taken off a reply before its object is looked for, blanks and a
fence, holds no brace. So the object is what stands between the first opening and the last closing
brace of the reply as it came, and an object that is written into a reply is found again whatever
stands around it, as long as no brace opens before it and none closes behind it. -/

namespace CodeAtlas.Assistant

/-! ### What is taken off -/

/-- No braces. -/
def Plain (cs : List Char) : Prop := ∀ c ∈ cs, c ≠ '\x7b' ∧ c ≠ '\x7d'

theorem plain_nil : Plain [] := fun c hc => by cases hc

theorem plain_append {cs cs' : List Char} : Plain (cs ++ cs') ↔ Plain cs ∧ Plain cs' :=
  List.forall_mem_append

theorem Plain.reverse {cs : List Char} (h : Plain cs) : Plain cs.reverse :=
  fun c hc => h c (List.mem_reverse.mp hc)

/-- The second text is the first one without some characters at its ends that are no braces. -/
def Trims (cs cs' : List Char) : Prop :=
  ∃ xs ys, cs = xs ++ cs' ++ ys ∧ Plain xs ∧ Plain ys

section Trims
variable {cs cs' cs'' : List Char}

theorem Trims.refl (cs : List Char) : Trims cs cs :=
  ⟨[], [], by simp, plain_nil, plain_nil⟩

theorem Trims.front {xs : List Char} (h : Plain xs) : Trims (xs ++ cs) cs :=
  ⟨xs, [], by simp, h, plain_nil⟩

theorem Trims.trans (h : Trims cs cs') (h' : Trims cs' cs'') : Trims cs cs'' := by
  obtain ⟨xs, ys, rfl, hxs, hys⟩ := h
  obtain ⟨xs', ys', rfl, hxs', hys'⟩ := h'
  refine ⟨xs ++ xs', ys' ++ ys, by simp only [List.append_assoc], ?_, ?_⟩
  · exact plain_append.mpr ⟨hxs, hxs'⟩
  · exact plain_append.mpr ⟨hys', hys⟩

theorem Trims.reverse (h : Trims cs cs') : Trims cs.reverse cs'.reverse := by
  obtain ⟨xs, ys, rfl, hxs, hys⟩ := h
  exact ⟨ys.reverse, xs.reverse, by simp, hys.reverse, hxs.reverse⟩

end Trims

theorem trims_dropBlanks (cs : List Char) : Trims cs (Text.dropBlanks cs) := by
  have hplain : Plain (cs.takeWhile Text.isBlank) := by
    intro c hc
    have hblank : Text.isBlank c = true := List.mem_takeWhile_imp hc
    constructor
    · rintro rfl
      cases hblank
    · rintro rfl
      cases hblank
  have htrims : Trims (cs.takeWhile Text.isBlank ++ Text.dropBlanks cs) (Text.dropBlanks cs) :=
    Trims.front hplain
  rwa [Text.dropBlanks, List.takeWhile_append_dropWhile] at htrims

theorem trims_strip (cs : List Char) : Trims cs (Text.strip cs) := by
  have hend := (trims_dropBlanks (Text.dropBlanks cs).reverse).reverse
  rw [List.reverse_reverse] at hend
  exact (trims_dropBlanks cs).trans hend

/-- Only characters of the classes are passed over. -/
theorem afterClasses?_eq_some {classes : List (List Char)} {cs rest : List Char}
    (h : afterClasses? classes cs = some rest) :
    ∃ xs, cs = xs ++ rest ∧ ∀ c ∈ xs, c ∈ classes.flatten := by
  fun_induction afterClasses? classes cs with
  | case1 cs => exact ⟨[], (Option.some.inj h).symm ▸ rfl, fun c hc => by cases hc⟩
  | case2 cls classes c cs hc ih =>
    obtain ⟨xs, rfl, hxs⟩ := ih h
    have hc : c ∈ cls := by simpa using hc
    refine ⟨c :: xs, rfl, List.forall_mem_cons.mpr ⟨?_, fun c' hc' => ?_⟩⟩
    · exact List.mem_append_left _ hc
    · exact List.mem_append_right _ (hxs c' hc')
  | case3 => cases h
  | case4 => cases h

theorem trims_dropOpening (cs : List Char) : Trims cs (dropOpening cs) := by
  unfold dropOpening
  split
  · next rest hrest =>
    obtain ⟨xs, rfl, hxs⟩ := afterClasses?_eq_some hrest
    have hplain : Plain fenceWord.flatten := by
      intro c hc
      constructor
      · rintro rfl
        revert hc
        decide
      · rintro rfl
        revert hc
        decide
    exact (Trims.front fun c hc => hplain c (hxs c hc)).trans (trims_dropBlanks rest)
  · exact Trims.refl cs

theorem trims_dropClosing (cs : List Char) : Trims cs (dropClosing cs) := by
  unfold dropClosing
  split
  · next rest hcs =>
    have hticks : Plain ['`', '`', '`'] := by
      intro c hc
      simp only [List.mem_cons, List.not_mem_nil, or_false, or_self] at hc
      subst hc
      decide
    have hrest : Trims cs.reverse (Text.dropBlanks rest) := by
      rw [hcs]
      exact (Trims.front hticks).trans (trims_dropBlanks rest)
    simpa using hrest.reverse
  · exact Trims.refl cs

/-- Braces are left where they are. -/
theorem trims_unfence (cs : List Char) : Trims cs (unfence cs) :=
  (((trims_strip cs).trans (trims_dropOpening _)).trans (trims_dropClosing _)).trans (trims_strip _)

/-! ### Between the braces -/

theorem dropWhile_ne_append {b : Char} {xs : List Char} (h : b ∉ xs) (cs : List Char) :
    (xs ++ cs).dropWhile (· ≠ b) = cs.dropWhile (· ≠ b) := by
  refine List.dropWhile_append_of_pos fun c hc => ?_
  have hne : c ≠ b := fun he => h (he ▸ hc)
  simpa using hne

theorem dropWhile_ne_eq_nil {b : Char} {cs : List Char} (h : b ∉ cs) :
    cs.dropWhile (· ≠ b) = [] := by
  rw [List.dropWhile_eq_nil_iff]
  intro c hc
  have hne : c ≠ b := fun he => h (he ▸ hc)
  simpa using hne

theorem jsonObject?_append_left {xs : List Char} (h : '\x7b' ∉ xs) (cs : List Char) :
    jsonObject? (xs ++ cs) = jsonObject? cs := by
  rw [jsonObject?, jsonObject?, dropWhile_ne_append h]

/-- Behind an opening brace only closing braces count. -/
theorem jsonObject?_opened {cs ys : List Char} (hopen : '\x7b' ∈ cs) (h : '\x7d' ∉ ys) :
    jsonObject? (cs ++ ys) = jsonObject? cs := by
  obtain ⟨xs, tail, rfl, hxs⟩ := List.eq_append_cons_of_mem hopen
  have hys : '\x7d' ∉ ys.reverse := fun hc => h (List.mem_reverse.mp hc)
  rw [List.append_assoc, jsonObject?_append_left hxs, jsonObject?_append_left hxs, List.cons_append]
  simp only [jsonObject?]
  rw [List.dropWhile_cons_of_neg (by simp), List.dropWhile_cons_of_neg (by simp),
    ← List.cons_append, List.reverse_append, dropWhile_ne_append hys]

theorem jsonObject?_eq_none {cs : List Char} (h : '\x7b' ∉ cs) : jsonObject? cs = none := by
  rw [jsonObject?, dropWhile_ne_eq_nil h]
  rfl

theorem Trims.jsonObject?_eq {cs cs' : List Char} (h : Trims cs cs') :
    jsonObject? cs = jsonObject? cs' := by
  obtain ⟨xs, ys, rfl, hxs, hys⟩ := h
  have hleft : '\x7b' ∉ xs := fun hc => (hxs _ hc).1 rfl
  rw [List.append_assoc, jsonObject?_append_left hleft]
  by_cases hopen : '\x7b' ∈ cs'
  · exact jsonObject?_opened hopen fun hc => (hys _ hc).2 rfl
  · have hright : '\x7b' ∉ cs' ++ ys := fun hc =>
      (List.mem_append.mp hc).elim hopen fun hc => (hys _ hc).1 rfl
    rw [jsonObject?_eq_none hopen, jsonObject?_eq_none hright]

theorem infix_of_jsonObject? {cs span : List Char} (h : jsonObject? cs = some span) :
    span <:+: cs := by
  simp only [jsonObject?] at h
  split at h
  · cases h
  · obtain rfl := Option.some.inj h
    refine List.IsInfix.trans ?_ (List.dropWhile_suffix (· ≠ '\x7b')).isInfix
    have hend := List.dropWhile_suffix (l := (cs.dropWhile (· ≠ '\x7b')).reverse) (· ≠ '\x7d')
    rw [← List.reverse_prefix, List.reverse_reverse] at hend
    exact hend.isInfix

/-- A fence makes no difference. -/
theorem jsonObject?_unfence (cs : List Char) : jsonObject? (unfence cs) = jsonObject? cs :=
  (trims_unfence cs).jsonObject?_eq.symm

/-- An object is found in whatever stands around it. -/
theorem jsonObject?_around {before after : List Char} (inner : List Char)
    (hbefore : '\x7b' ∉ before) (hafter : '\x7d' ∉ after) :
    jsonObject? (before ++ ('\x7b' :: inner ++ ['\x7d']) ++ after) =
      some ('\x7b' :: inner ++ ['\x7d']) := by
  have hopen : '\x7b' ∈ '\x7b' :: inner ++ ['\x7d'] := List.mem_cons_self
  rw [List.append_assoc, jsonObject?_append_left hbefore, jsonObject?_opened hopen hafter]
  simp only [jsonObject?, List.cons_append]
  rw [List.dropWhile_cons_of_neg (by simp), ← List.cons_append, List.reverse_append,
    List.reverse_singleton, List.singleton_append, List.dropWhile_cons_of_neg (by simp)]
  simp

/-! ### The object -/

variable {reply : String} {fields : Fields} {why : Json.ReadError}

/-- The reply has an object with these fields between its outermost braces. -/
def Holds (reply : String) (fields : Fields) : Prop :=
  ∃ cs, jsonObject? reply.toList = some cs ∧ Json.readChars cs = .ok (.object fields)

/-- What the reply has between its outermost braces is too much for the reader. -/
def Overtaxes (reply : String) (why : Json.ReadError) : Prop :=
  why ≠ .malformed ∧ ∃ cs, jsonObject? reply.toList = some cs ∧ Json.readChars cs = .error why

/-- The failure that comes of a text that cannot be read. -/
def failureOf : Json.ReadError → Failure
  | .malformed => .malformedJson
  | .tooDeep => .tooDeep
  | .tooManyDigits n => .tooManyDigits n

theorem Holds.objectIn_eq (h : Holds reply fields) : objectIn reply = .ok (some fields) := by
  obtain ⟨cs, hcs, hread⟩ := h
  rw [objectIn, jsonObject?_unfence, hcs]
  dsimp only
  rw [hread]

theorem Overtaxes.objectIn_eq (h : Overtaxes reply why) :
    objectIn reply = .error (failureOf why) := by
  obtain ⟨hwhy, cs, hcs, hread⟩ := h
  rw [objectIn, jsonObject?_unfence, hcs]
  dsimp only
  rw [hread]
  cases why with
  | malformed => exact absurd rfl hwhy
  | tooDeep => rfl
  | tooManyDigits n => rfl

/-- A reply holds an object, or none, or one that is too much. -/
theorem objectIn_cases (reply : String) :
    (∃ fields, Holds reply fields ∧ objectIn reply = .ok (some fields)) ∨
      objectIn reply = .ok none ∨
      ∃ why, Overtaxes reply why ∧ objectIn reply = .error (failureOf why) := by
  unfold objectIn
  rw [jsonObject?_unfence]
  cases hcs : jsonObject? reply.toList with
  | none => exact .inr (.inl rfl)
  | some cs =>
    dsimp only
    cases hread : Json.readChars cs with
    | error why =>
      cases why with
      | malformed => exact .inr (.inl rfl)
      | tooDeep => exact .inr (.inr ⟨.tooDeep, ⟨by decide, cs, hcs, hread⟩, rfl⟩)
      | tooManyDigits n =>
        exact .inr (.inr ⟨.tooManyDigits n, ⟨by simp, cs, hcs, hread⟩, rfl⟩)
    | ok j =>
      cases j with
      | object fields => exact .inl ⟨fields, ⟨cs, hcs, hread⟩, rfl⟩
      | _ => exact .inr (.inl rfl)

/-- A written object is found in a reply, with words before and behind it, and read back. -/
theorem holds_around {before after : String} (hexact : (Json.object fields).Exact)
    (hdepth : (Json.object fields).depth ≤ Json.maxNesting)
    (hbefore : '\x7b' ∉ before.toList) (hafter : '\x7d' ∉ after.toList) :
    Holds (before ++ (Json.object fields).write ++ after) fields := by
  have hread : Json.readChars ((Json.object fields).writeChars ++ []) = .ok (.object fields) :=
    Json.readWithin_rereads hexact hdepth fun c hc => by cases hc
  rw [List.append_nil] at hread
  refine ⟨(Json.object fields).writeChars, ?_, hread⟩
  rw [String.toList_append, String.toList_append, Json.write, String.toList_ofList, Json.writeChars]
  exact jsonObject?_around _ hbefore hafter

end CodeAtlas.Assistant
