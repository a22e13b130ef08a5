import CodeAtlas.Proofs.Assistant.Reply
import CodeAtlas.Proofs.Dialogue.Laws
import CodeAtlas.Proofs.Json.Refusal
import Mathlib.Data.List.Forall2

/-! Plans in replies. A plan that is written into a reply comes back, whatever its symbols are, in
whatever letters its operation is spelled and whatever stands around it. Of any reply at all comes
the plan that it proposes, or none, with two exceptions: a reply that names symbols and something
that is no text for the operation, and one whose object is too much for the reader. -/

namespace CodeAtlas

namespace Json

theorem string?_eq_some_iff {j : Json} {x : String} : j.string? = some x ↔ j = .string x := by
  cases j <;> simp [string?]

theorem mapM_string?_eq_some_iff {items : List Json} {xs : List String} :
    items.mapM string? = some xs ↔ items = xs.map .string := by
  induction items generalizing xs with
  | nil => cases xs <;> simp
  | cons j items ih =>
    rw [List.mapM_cons]
    simp only [Option.bind_eq_bind, Option.bind_eq_some_iff, string?_eq_some_iff, ih]
    constructor
    · rintro ⟨x, rfl, ys, rfl, h⟩
      obtain rfl := Option.some.inj h
      rfl
    · intro h
      cases xs with
      | nil => cases h
      | cons x xs =>
        obtain ⟨rfl, rfl⟩ := List.cons.inj h
        exact ⟨x, rfl, xs, rfl, rfl⟩

theorem strings?_eq_some_iff {j : Json} {xs : List String} :
    j.strings? = some xs ↔ j = .ofStrings xs := by
  cases j with
  | array items => simp [strings?, array?, ofStrings, mapM_string?_eq_some_iff]
  | _ => simp [strings?, array?, ofStrings]

theorem truthy_ofStrings {xs : List String} : (ofStrings xs).truthy = true ↔ xs ≠ [] := by
  simp [ofStrings, truthy]

theorem depthItems_strings (xs : List String) : depthItems (xs.map .string) = 0 := by
  induction xs with
  | nil => rfl
  | cons x xs ih => rw [List.map_cons, depthItems, ih]; rfl

end Json

theorem Graph.Operation.ofName?_eq_some_iff {s : String} {op : Graph.Operation} :
    Graph.Operation.ofName? s = some op ↔ s = op.name := by
  constructor
  · intro h
    have hname := List.find?_some h
    exact (beq_iff_eq.mp hname).symm
  · rintro rfl
    cases op <;> rfl

namespace Assistant

open Dialogue

variable {σ : Type} {reply : String} {fields : Fields} {plan : QueryPlan}

/-! ### From an object -/

/-- The symbols are a list of texts that is not empty, and the operation is spelled in letters of
any case. -/
def States (fields : Fields) (plan : QueryPlan) : Prop :=
  plan.symbols ≠ [] ∧ fields.getOrNull "symbols" = .ofStrings plan.symbols ∧
    ∃ word, fields.get? "operation" = some (.string word) ∧ Text.lower word = plan.operation.name

/-- There are symbols, and the operation is this value, which is no text. -/
def Misstates (fields : Fields) (v : Json) : Prop :=
  (fields.getOrNull "symbols").truthy = true ∧ fields.get? "operation" = some v ∧
    ∀ word, v ≠ .string word

theorem States.planOf_eq (h : States fields plan) : planOf fields = .ok (some plan) := by
  obtain ⟨hne, hsymbols, word, hop, hword⟩ := h
  have htruthy : (fields.getOrNull "symbols").truthy = true := by
    rw [hsymbols]
    exact Json.truthy_ofStrings.mpr hne
  have hstrings := Json.strings?_eq_some_iff.mpr hsymbols
  have hoperation := Graph.Operation.ofName?_eq_some_iff.mpr hword
  rw [planOf, htruthy, hop]
  dsimp only
  rw [hstrings, hoperation]
  rfl

theorem Misstates.planOf_eq {v : Json} (h : Misstates fields v) :
    planOf fields = .error (.noMember v.typeName "lower") := by
  obtain ⟨htruthy, hop, hv⟩ := h
  rw [planOf, htruthy, hop]
  cases v with
  | string word => exact absurd rfl (hv word)
  | _ => rfl

/-- An object states a plan, or none, or it misstates the operation. -/
theorem planOf_cases (fields : Fields) :
    (∃ plan, States fields plan) ∨ planOf fields = .ok none ∨ ∃ v, Misstates fields v := by
  unfold planOf
  split
  · exact .inr (.inl rfl)
  next htruthy =>
    have htruthy : (fields.getOrNull "symbols").truthy = true := by simpa using htruthy
    split
    · exact .inr (.inl rfl)
    · next word hop =>
      cases hstrings : (fields.getOrNull "symbols").strings? with
      | none => exact .inr (.inl rfl)
      | some symbols =>
        cases hoperation : Graph.Operation.ofName? (Text.lower word) with
        | none => exact .inr (.inl rfl)
        | some operation =>
          have hsymbols := Json.strings?_eq_some_iff.mp hstrings
          rw [hsymbols] at htruthy
          exact .inl ⟨⟨symbols, operation⟩, Json.truthy_ofStrings.mp htruthy, hsymbols, word, hop,
            Graph.Operation.ofName?_eq_some_iff.mp hoperation⟩
    · next v hv hop => exact .inr (.inr ⟨v, htruthy, hop, hv⟩)

/-! ### From a reply -/

/-- The reply has an object that states the plan. -/
def Proposes (reply : String) (plan : QueryPlan) : Prop :=
  ∃ fields, Holds reply fields ∧ States fields plan

/-- The reply has an object that gives this value for the operation, which is no text. -/
def Misleads (reply : String) (v : Json) : Prop :=
  ∃ fields, Holds reply fields ∧ Misstates fields v

theorem planIn_of_holds (h : Holds reply fields) : planIn reply = planOf fields := by
  rw [planIn, h.objectIn_eq]
  rfl

theorem Overtaxes.planIn_eq {why : Json.ReadError} (h : Overtaxes reply why) :
    planIn reply = .error (failureOf why) := by
  rw [planIn, h.objectIn_eq]
  rfl

theorem Proposes.planIn_eq (h : Proposes reply plan) : planIn reply = .ok (some plan) := by
  obtain ⟨fields, hholds, hstates⟩ := h
  rw [planIn_of_holds hholds, hstates.planOf_eq]

theorem Misleads.planIn_eq {v : Json} (h : Misleads reply v) :
    planIn reply = .error (.noMember v.typeName "lower") := by
  obtain ⟨fields, hholds, hmisstates⟩ := h
  rw [planIn_of_holds hholds, hmisstates.planOf_eq]

/-- What becomes of a reply. -/
theorem planIn_cases (reply : String) :
    (∃ plan, Proposes reply plan) ∨ planIn reply = .ok none ∨ (∃ v, Misleads reply v) ∨
      ∃ why, Overtaxes reply why := by
  rcases objectIn_cases reply with ⟨fields, hholds, -⟩ | hnone | ⟨why, htaxes, -⟩
  · rcases planOf_cases fields with ⟨plan, hstates⟩ | hnone | ⟨v, hmisstates⟩
    · exact .inl ⟨plan, fields, hholds, hstates⟩
    · exact .inr (.inl ((planIn_of_holds hholds).trans hnone))
    · exact .inr (.inr (.inl ⟨v, fields, hholds, hmisstates⟩))
  · refine .inr (.inl ?_)
    rw [planIn, hnone]
    rfl
  · exact .inr (.inr (.inr ⟨why, htaxes⟩))

theorem planIn_eq_some_iff : planIn reply = .ok (some plan) ↔ Proposes reply plan := by
  refine ⟨fun h => ?_, Proposes.planIn_eq⟩
  rcases planIn_cases reply with ⟨plan', hplan⟩ | hnone | ⟨v, hmisleads⟩ | ⟨why, htaxes⟩
  · rw [hplan.planIn_eq] at h
    obtain rfl := Option.some.inj (Except.ok.inj h)
    exact hplan
  · rw [hnone] at h
    cases h
  · rw [hmisleads.planIn_eq] at h
    cases h
  · rw [htaxes.planIn_eq] at h
    cases h

theorem planIn_eq_error_iff {e : Failure} :
    planIn reply = .error e ↔
      (∃ v, Misleads reply v ∧ e = .noMember v.typeName "lower") ∨
        ∃ why, Overtaxes reply why ∧ e = failureOf why := by
  constructor
  · intro h
    rcases planIn_cases reply with ⟨plan, hplan⟩ | hnone | ⟨v, hmisleads⟩ | ⟨why, htaxes⟩
    · rw [hplan.planIn_eq] at h
      cases h
    · rw [hnone] at h
      cases h
    · rw [hmisleads.planIn_eq] at h
      exact .inl ⟨v, hmisleads, (Except.error.inj h).symm⟩
    · rw [htaxes.planIn_eq] at h
      exact .inr ⟨why, htaxes, (Except.error.inj h).symm⟩
  · rintro (⟨v, hmisleads, rfl⟩ | ⟨why, htaxes, rfl⟩)
    · exact hmisleads.planIn_eq
    · exact htaxes.planIn_eq

/-- Only brackets that stand in one another and long numbers are too much. -/
theorem Overtaxes.warrants {why : Json.ReadError} (h : Overtaxes reply why) :
    Json.Warrants Json.maxNesting reply.toList why := by
  obtain ⟨-, cs, hcs, hread⟩ := h
  exact (Json.warrants_of_readChars hread).mono (infix_of_jsonObject? hcs)

/-! ### A plan in other words -/

/-- Spelled like a name, with any of its letters as capitals. -/
def SpelledLike (word name : String) : Prop :=
  List.Forall₂ (fun c d => c = d ∨ c = d.toUpper) word.toList name.toList

instance (word name : String) : Decidable (SpelledLike word name) :=
  inferInstanceAs (Decidable (List.Forall₂ _ _ _))

/-- The object that a plan is written as. -/
def planObject (symbols : List String) (word : String) : Json :=
  .object [("symbols", .ofStrings symbols), ("operation", .string word)]

theorem lower_eq_of_spelledLike {word : String} {op : Graph.Operation}
    (h : SpelledLike word op.name) : Text.lower word = op.name := by
  have hsmall : ∀ d ∈ op.name.toList, Text.small d = d ∧ Text.small d.toUpper = d := by
    have hall : op.name.toList.all
        (fun d => Text.small d = d ∧ Text.small d.toUpper = d) = true := by
      cases op <;> decide
    simpa using hall
  have hmap : word.toList.map Text.small = op.name.toList := by
    unfold SpelledLike at h
    generalize word.toList = cs at h
    generalize op.name.toList = ds at h hsmall
    induction h with
    | nil => rfl
    | cons hcd _ ih =>
      obtain ⟨hd, hds⟩ := List.forall_mem_cons.mp hsmall
      rw [List.map_cons, ih hds]
      rcases hcd with rfl | rfl
      · rw [hd.1]
      · rw [hd.2]
  rw [Text.lower, hmap, String.ofList_toList]

theorem exact_planObject (symbols : List String) (word : String) :
    (planObject symbols word).Exact :=
  Json.rereads_object (by simp) (Json.rereadsFields_cons _ (Json.exact_ofStrings symbols)
    (Json.rereadsFields_cons _ rfl rfl))

theorem depth_planObject (symbols : List String) (word : String) :
    (planObject symbols word).depth ≤ Json.maxNesting := by
  simp [planObject, Json.ofStrings, Json.depth, Json.depthFields, Json.depthItems_strings,
    Json.maxNesting]

theorem proposes_around {before after word : String} {symbols : List String}
    {op : Graph.Operation} (hsymbols : symbols ≠ []) (hword : SpelledLike word op.name)
    (hbefore : '\x7b' ∉ before.toList) (hafter : '\x7d' ∉ after.toList) :
    Proposes (before ++ (planObject symbols word).write ++ after) ⟨symbols, op⟩ :=
  ⟨_, holds_around (exact_planObject symbols word) (depth_planObject symbols word) hbefore hafter,
    hsymbols, rfl, word, rfl, lower_eq_of_spelledLike hword⟩

/-! ### The model's reply -/

section Reply
variable {world : World σ} {s : σ} {question : String}

/-- Asked for a plan, the model gives this reply. -/
def Replies (world : World σ) (s : σ) (question reply : String) : Prop :=
  (world (.chat (messages Prompts.queryPlan question)) s).1 = .ok reply

theorem run_extractPlan (h : Replies world s question reply) :
    (extractPlan question).run world s =
      (planIn reply, (world (.chat (messages Prompts.queryPlan question)) s).2) := by
  have hask : (ask Prompts.queryPlan question).run world s =
      (.ok reply, (world (.chat (messages Prompts.queryPlan question)) s).2) :=
    run_request_of_ok world h
  rw [extractPlan, bind_eq, run_bind_of_ok world hask]
  exact run_ofExcept world _ _

/-- A plan gets through whatever the model puts around it, as long as no brace opens before it and
none closes behind it. -/
theorem extractPlan_around {before after word : String} {symbols : List String}
    {op : Graph.Operation} (hsymbols : symbols ≠ []) (hword : SpelledLike word op.name)
    (hbefore : '\x7b' ∉ before.toList) (hafter : '\x7d' ∉ after.toList)
    (hreply : Replies world s question (before ++ (planObject symbols word).write ++ after)) :
    ((extractPlan question).run world s).1 = .ok (some ⟨symbols, op⟩) := by
  rw [run_extractPlan hreply]
  exact (proposes_around hsymbols hword hbefore hafter).planIn_eq

/-- Every reply gives the plan that it proposes, or none, unless it misleads about the operation
or is too much for the reader. -/
theorem extractPlan_outcomes (hreply : Replies world s question reply) :
    (∀ plan, ((extractPlan question).run world s).1 = .ok (some plan) ↔ Proposes reply plan) ∧
    (∀ e, ((extractPlan question).run world s).1 = .error e ↔
      (∃ v, Misleads reply v ∧ e = .noMember v.typeName "lower") ∨
        ∃ why, Overtaxes reply why ∧ e = failureOf why) ∧
    ∀ why, Overtaxes reply why → Json.Warrants Json.maxNesting reply.toList why := by
  rw [run_extractPlan hreply]
  exact ⟨fun _ => planIn_eq_some_iff, fun _ => planIn_eq_error_iff, fun _ h => h.warrants⟩

end Reply

/-! ### Symbols as code points -/

/-- The code points of a text. -/
def pointsOf (s : String) : List Nat := s.toList.map Char.toNat

/-- A code point as it is written, which may be half of a surrogate pair. -/
def escapePoint (n : Nat) : List Char :=
  if 0xd800 ≤ n ∧ n < 0xe000 then Json.escapeUnit n else Json.escapeChar (Char.ofNat n)

def writePoints (points : List Nat) : List Char := '"' :: points.flatMap escapePoint ++ ['"']

/-- A plan as it is written when its symbols are any code points. -/
def planText (symbols : List (List Nat)) (word : String) : String :=
  String.ofList ('\x7b' :: (Json.writeString "symbols" ++ ':' :: ' ' ::
    ('[' :: List.intercalate [',', ' '] (symbols.map writePoints) ++ [']']) ++ ',' :: ' ' ::
    (Json.writeString "operation" ++ ':' :: ' ' :: Json.writeString word)) ++ ['\x7d'])

theorem escapePoint_toNat (c : Char) : escapePoint c.toNat = Json.escapeChar c := by
  have hvalid : c.toNat < 0xd800 ∨ (0xdfff < c.toNat ∧ c.toNat < 0x110000) := c.valid
  rw [escapePoint, if_neg (by omega), Char.ofNat_toNat]

theorem writePoints_pointsOf (s : String) : writePoints (pointsOf s) = Json.writeString s := by
  rw [writePoints, pointsOf, List.flatMap_map]
  simp only [escapePoint_toNat]
  rfl

theorem writeItems_strings (xs : List String) :
    Json.writeItems (xs.map .string) = List.intercalate [',', ' '] (xs.map Json.writeString) := by
  induction xs with
  | nil => rfl
  | cons x xs ih =>
    cases xs with
    | nil => simp [Json.writeItems, Json.writeChars]
    | cons y xs =>
      rw [List.map_cons, List.map_cons, Json.writeItems, ← List.map_cons, ih]
      simp [Json.writeChars, List.intercalate_cons_cons]

theorem writeChars_pair (k k' : String) (v v' : Json) :
    (Json.object [(k, v), (k', v')]).writeChars =
      '\x7b' :: (Json.writeString k ++ ':' :: ' ' :: v.writeChars ++ ',' :: ' ' ::
        (Json.writeString k' ++ ':' :: ' ' :: v'.writeChars)) ++ ['\x7d'] := by
  rw [Json.writeChars, Json.writeFields, Json.writeFields]

/-- Symbols that are texts are written as they are in an object. -/
theorem planText_pointsOf (symbols : List String) (word : String) :
    planText (symbols.map pointsOf) word = (planObject symbols word).write := by
  have hmap : (symbols.map pointsOf).map writePoints = symbols.map Json.writeString := by
    rw [List.map_map]
    exact List.map_congr_left fun s _ => writePoints_pointsOf s
  rw [planText, hmap, ← writeItems_strings, Json.write, planObject, writeChars_pair, Json.ofStrings,
    Json.writeChars, Json.writeChars]

/-! ### A talkative model -/

namespace Teller

/-- A model that says the same to everyone. -/
def tells (reply : String) : World Unit
  | .chat _, _ => (.ok reply, ())
  | _, _ => (.error .untold, ())

theorem replies (question reply : String) : Replies (tells reply) () question reply := rfl

/-- Symbols that look like the marks around them. -/
def symbols : List String := ["\x7dtotal\x7b", "\"\n```", "```json"]

def before : String := "Sure \x7d:\n```JSON\n"

def after : String := "\n```\nAnything else \x7b?"

def prose : String := before ++ (planObject symbols "Called_BY").write ++ after

theorem plan_in_prose :
    symbols ≠ [] ∧ SpelledLike "Called_BY" Graph.Operation.calledBy.name ∧
      '\x7b' ∉ before.toList ∧ '\x7d' ∉ after.toList ∧
      ((extractPlan "Who calls total?").run (tells prose) ()).1 =
        .ok (some ⟨symbols, .calledBy⟩) := by
  have hsymbols : symbols ≠ [] := by decide
  have hword : SpelledLike "Called_BY" Graph.Operation.calledBy.name := by decide
  have hbefore : '\x7b' ∉ before.toList := by decide
  have hafter : '\x7d' ∉ after.toList := by decide
  have hreply := replies "Who calls total?" prose
  exact ⟨hsymbols, hword, hbefore, hafter,
    extractPlan_around hsymbols hword hbefore hafter hreply⟩

/-- The two halves of a surrogate pair are written like the one character for which the pair
stands, and what comes back is that character. -/
theorem halves_come_back_joined :
    ((extractPlan "What does it use?").run (tells (planText [[0xd83d, 0xde00]] "uses")) ()).1 =
        .ok (some ⟨["😀"], .uses⟩) ∧
      pointsOf "😀" ≠ [0xd83d, 0xde00] := by
  have hsame : planText [[0xd83d, 0xde00]] "uses" = planText (["😀"].map pointsOf) "uses" := by
    decide +kernel
  have hplan : Proposes ("" ++ (planObject ["😀"] "uses").write ++ "") ⟨["😀"], .uses⟩ :=
    proposes_around (by decide) (by decide) (by decide) (by decide)
  rw [String.empty_append, String.append_empty, ← planText_pointsOf, ← hsame] at hplan
  exact ⟨by rw [run_extractPlan (replies _ _), hplan.planIn_eq], by decide⟩

/-- Nothing but a plan. -/
def terse : String := "" ++ (planObject ["total"] "uses").write ++ ""

theorem plan_alone :
    Replies (tells terse) () "What does total use?" terse ∧
      ((extractPlan "What does total use?").run (tells terse) ()).1 =
        .ok (some ⟨["total"], .uses⟩) := by
  have hplan : Proposes terse ⟨["total"], .uses⟩ :=
    proposes_around (by decide) (by decide) (by decide) (by decide)
  have hreply := replies "What does total use?" terse
  exact ⟨hreply, ((extractPlan_outcomes hreply).1 _).mpr hplan⟩

/-- The model leaves the operation open. -/
def undecided : String := "\x7b\"symbols\": [\"total\"], \"operation\": null\x7d"

theorem undecided_misleads : Misleads undecided .null := by
  let fields : Fields := [("symbols", .ofStrings ["total"]), ("operation", .null)]
  have htext : undecided = "" ++ (Json.object fields).write ++ "" := by decide +kernel
  have hexact : (Json.object fields).Exact :=
    Json.rereads_object (by simp [fields]) (Json.rereadsFields_cons _
      (Json.exact_ofStrings ["total"]) (Json.rereadsFields_cons _ rfl rfl))
  have hholds : Holds undecided fields := by
    rw [htext]
    exact holds_around hexact (by decide) (by decide) (by decide)
  exact ⟨fields, hholds, rfl, rfl, fun word h => by cases h⟩

theorem undecided_fails :
    ((extractPlan "Who calls total?").run (tells undecided) ()).1 =
      .error (.noMember "NoneType" "lower") := by
  rw [run_extractPlan (replies _ undecided)]
  exact undecided_misleads.planIn_eq

end Teller

end Assistant

end CodeAtlas
