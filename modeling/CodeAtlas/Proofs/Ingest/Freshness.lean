import CodeAtlas.Proofs.Ingest.Turn

/-! Taking a file in a second time. After a run that ends well the store has the current
fingerprint of every definition, so that the next one finds nothing to do: it asks again
for the file's own record and place, looks every definition up, and leaves the store as it
is. Definitions with the same id have to have the same code; of others only the last one
would be found. The file's own record, written first, is never in the way, since its id is
not that of a definition. -/

namespace CodeAtlas.Ingest

open Dialogue

/-- Where only one fingerprint is noted under an id, it is there in the end. -/
theorem replay_of_consistent {ws : List (String × String)} {h : String → Option String}
    {id hash : String} (hall : ∀ p ∈ ws, p.1 = id → p.2 = hash)
    (hid : h id = some hash ∨ (id, hash) ∈ ws) : replay h ws id = some hash := by
  induction ws generalizing h with
  | nil => simpa [replay] using hid
  | cons p rest ih =>
    rw [replay_cons]
    refine ih (fun p hp => hall p (List.mem_cons_of_mem _ hp)) ?_
    by_cases hp : p.1 = id
    · left
      rw [noted_apply, if_pos hp.symm, hall p List.mem_cons_self hp]
    · rcases hid with hid | hmem
      · left
        rw [noted_apply, if_neg (Ne.symm hp), hid]
      · right
        rcases List.mem_cons.mp hmem with rfl | hmem
        · exact absurd rfl hp
        · exact hmem

namespace SourceFile

variable {f : SourceFile} {w : Surroundings}

/-- The record of the file, once stored, stays. -/
theorem holds_of_asks (hne : ∀ d ∈ f.extraction.definitions, d.id ≠ f.nodeId) {q : Request}
    (hq : f.Asks q) {s : Ledger} (h : s.store.Holds f.nodeId f.fileRecord.properties) :
    (w.world q s).2.store.Holds f.nodeId f.fileRecord.properties := by
  have hafter : (s.storeAfter q).Holds f.nodeId f.fileRecord.properties := by
    cases hq with
    | fileRecord =>
      simp only [Ledger.storeAfter, recordQuery, Graph.Store.answer_upsertNode]
      have hsame : s.store.upsert f.fileRecord.id f.fileRecord.properties = s.store := h.upsert_eq
      rwa [hsame]
    | record hd summary =>
      simp only [Ledger.storeAfter, recordQuery, Graph.Store.answer_upsertNode]
      exact h.upsert (Ne.symm (hne _ hd)) _
    | quiet hq => cases q <;> first | exact hq.elim | exact h
    | project | lookUp _ | link _ | documents _ => exact h
  change Graph.Store.Holds (if (w.result s q).isOk then s.storeAfter q else s.store) _ _
  split
  · exact hafter
  · exact h

/-- What a file asks when nothing in it has changed. -/
def recheck (f : SourceFile) : List Request :=
  .graph (recordQuery f.fileRecord) :: .graph f.projectQuery ::
    f.extraction.definitions.map Definition.lookUp

/-- With the file's record and all fingerprints in the store, nothing is done again. -/
theorem run_ingest_fresh (mode : Mode) {s : Ledger}
    (hfile : s.store.Holds f.nodeId f.fileRecord.properties)
    (hdefs : ∀ d ∈ f.extraction.definitions, s.store.hash? d.id = some d.hash) :
    ∃ r es, (f.ingest mode).run w.world s = (r, ⟨s.store, s.journal ++ es⟩) ∧
      es.map Entry.request <+: f.recheck ∧
      (w.Serves → r = .ok () ∧ es = f.recheck.map fun q => ⟨q, true⟩) := by
  rw [run_ingest, opened, hfile.upsert_eq]
  cases hr : w.refusal s.journal (.graph (recordQuery f.fileRecord)) with
  | some e =>
    refine ⟨_, _, rfl, by simp [recheck], fun hserves => ?_⟩
    rw [hserves] at hr
    cases hr
  | none =>
    cases hp : w.refusal (s.journal ++ [⟨.graph (recordQuery f.fileRecord), true⟩])
      (.graph f.projectQuery) with
    | some e =>
      refine ⟨_, _, rfl, by simp [recheck, opening], fun hserves => ?_⟩
      rw [hserves] at hp
      cases hp
    | none =>
      obtain ⟨r, es, hrun, hpre, hall⟩ := run_ingestAll_upToDate (w := w) (f := f)
        (s := ⟨s.store, s.journal ++ f.opening true⟩) mode f.extraction.definitions hdefs
      refine ⟨r, f.opening true ++ es, ?_, ?_, fun hserves => ?_⟩
      · simp only
        rw [hrun, List.append_assoc]
      · simpa [opening, recheck] using hpre
      · obtain ⟨hok, hes⟩ := hall hserves
        exact ⟨hok, by simp [hes, opening, recheck]⟩

end SourceFile

/-- After a file was taken in, the store has the fingerprint of every definition. Taking the
unchanged file in again leaves the store as it is, and besides reading it asks at most for the
file's record and place and for a look at each definition: for all of these, and in that
order, unless a database refuses. -/
theorem ingestFile_again (w w' : Surroundings) (hsame : w'.answer = w.answer) (mode mode' : Mode)
    (path project : String) (hsuffix : (supportedSuffixes.lookup (Paths.suffix path)).isSome)
    (f : SourceFile) (hf : w.source path project = .ok (some f))
    (hcodes : ∀ d ∈ f.extraction.definitions, ∀ d' ∈ f.extraction.definitions,
      d.id = d'.id → d.fullCode = d'.fullCode)
    (s t : Ledger) (hrun : (ingestFile mode path project).run w.world s = (.ok (), t)) :
    (∀ d ∈ f.extraction.definitions,
      t.store.hash? d.id = some (fingerprint d.fullCode)) ∧
    (∀ e ∈ w.readings path project, Plain e.request) ∧
    ∃ r es, (ingestFile mode' path project).run w'.world t =
        (r, ⟨t.store, t.journal ++ w.readings path project ++ es⟩) ∧
      es.map Entry.request <+: f.recheck ∧
      (w'.Serves → r = .ok () ∧ es = f.recheck.map fun q => ⟨q, true⟩) := by
  have hne : ∀ d ∈ f.extraction.definitions, d.id ≠ f.nodeId :=
    fun d hd => (Surroundings.isRead_of_source hf).id_ne_nodeId hsuffix hd
  obtain ⟨hsource, hreadings⟩ := Surroundings.source_congr hsame path project
  rw [Surroundings.run_ingestFile, hf] at hrun
  have hall := SourceFile.run_ingest_ok hrun
  have hhash : ∀ d ∈ f.extraction.definitions, t.store.hash? d.id = some d.hash := by
    intro d hd
    rw [(SourceFile.run_ingestAll_ok hall).1]
    refine replay_of_consistent (fun p hp hid => ?_)
      (.inr (List.mem_map_of_mem (f := fun d => (d.id, d.hash)) hd))
    obtain ⟨d', hd', rfl⟩ := List.mem_map.mp hp
    exact congrArg fingerprint (hcodes d' hd' d hd hid)
  have hfile : t.store.Holds f.nodeId f.fileRecord.properties := by
    have hkeeps : Keeps w.world f.Asks (fun _ => True)
        (f.ingestAll mode f.extraction.definitions (.of [])) :=
      SourceFile.keeps_ingestAll mode (fun _ hd => hd) (fun _ hdoc => by cases hdoc)
    have hopened : (f.opened ⟨s.store, s.journal ++ w.readings path project⟩).store.Holds f.nodeId
        f.fileRecord.properties :=
      Graph.Store.holds_upsert _ _ _ f.fileRecord.properties_nodup
    have hend := hkeeps.run_preserves (fun s => s.store.Holds f.nodeId f.fileRecord.properties)
      (fun q s hq hs => SourceFile.holds_of_asks hne hq hs) hopened
    rwa [hall] at hend
  refine ⟨hhash, Surroundings.plain_readings path project, ?_⟩
  rw [Surroundings.run_ingestFile, hsource, hreadings, hf]
  exact SourceFile.run_ingest_fresh mode' hfile hhash

/-- A class on one row with a constructor: two definitions with one id and one code. -/
def twins : Surroundings :=
  .ofText "class A { A() {} }" (.mk "program" 0 0 (.ok "") []
    [.mk "class_declaration" 0 0 (.ok "") [] [.mk "identifier" 0 0 (.ok "A") [] [],
      .mk "class_body" 0 0 (.ok "") [] [.mk "constructor_declaration" 0 0 (.ok "") []
        [.mk "identifier" 0 0 (.ok "A") [] []]]]])

set_option maxRecDepth 10000 in
theorem twins_again :
    ∃ f t es, twins.source "A.java" "p" = .ok (some f) ∧
      f.extraction.definitions.map Definition.id = ["A.java:A:1", "A.java:A:1"] ∧
      (ingestFile (.full 2) "A.java" "p").run twins.world .empty = (.ok (), t) ∧
      t.store.hash? "A.java:A:1" = some (fingerprint "class A { A() {} }") ∧
      (ingestFile .graphOnly "A.java" "p").run twins.world t =
        (.ok (), ⟨t.store, t.journal ++ twins.readings "A.java" "p" ++ es⟩) ∧
      es = f.recheck.map fun q => ⟨q, true⟩ := by
  obtain ⟨f, hf, htest⟩ := Surroundings.exists_of_readsTo (w := twins) "A.java" "p"
    (fun f => f.extraction.definitions.map (fun d => (d.id, d.fullCode)) =
      List.replicate 2 ("A.java:A:1", "class A { A() {} }")) (by decide +kernel)
  have hpairs := of_decide_eq_true htest
  have hpair : ∀ d ∈ f.extraction.definitions,
      d.id = "A.java:A:1" ∧ d.fullCode = "class A { A() {} }" := fun d hd => by
    have hmem := List.mem_map_of_mem (f := fun d : Definition => (d.id, d.fullCode)) hd
    rw [hpairs] at hmem
    exact Prod.mk.inj (List.eq_of_mem_replicate hmem)
  have hids : f.extraction.definitions.map Definition.id = ["A.java:A:1", "A.java:A:1"] := by
    have hfst := congrArg (List.map Prod.fst) hpairs
    rw [List.map_map] at hfst
    exact hfst
  have hrun := run_eq_of_isOk (d := ingestFile (.full 2) "A.java" "p") (s := .empty) twins.world
    (by decide +kernel)
  obtain ⟨hhash, -, r, es, hagain, -, hall⟩ := ingestFile_again twins twins rfl (.full 2) .graphOnly
    "A.java" "p" (by decide +kernel) f hf
    (fun d hd d' hd' _ => (hpair d hd).2.trans (hpair d' hd').2.symm) .empty _ hrun
  obtain ⟨rfl, hes⟩ := hall fun _ _ => rfl
  refine ⟨f, _, es, hf, hids, hrun, ?_, hagain, hes⟩
  obtain ⟨d, hd, hid⟩ : ∃ d ∈ f.extraction.definitions, d.id = "A.java:A:1" :=
    List.mem_map.mp (hids ▸ List.mem_cons_self)
  rw [← hid, hhash d hd, (hpair d hd).2]

end CodeAtlas.Ingest
