import CodeAtlas.Proofs.Ingest.Reading

/-! What becomes of the definitions of a file. Taking in one of them comes to one of four
things, and everything said about whole files is drawn from these. A run that ends well has
taken in just the definitions that were out of date when their turn came; one that breaks
off has at most one record in the store whose link is missing. -/

namespace CodeAtlas.Ingest

open Dialogue

/-- The fingerprint of a definition's code. -/
def Definition.hash (d : Definition) : String := fingerprint d.fullCode

/-- What a definition is looked up with. -/
def Definition.lookUp (d : Definition) : Request := .graph (.node (.string d.id))

namespace SourceFile

variable {f : SourceFile} {w : Surroundings}

/-- The link that a definition gets. -/
def linkOf (f : SourceFile) (d : Definition) : Containment := .inNode (f.container d) d.id

/-! ### One definition -/

/-- The record of a definition stored, and its link made or refused. -/
def storing (f : SourceFile) (d : Definition) (summary : String) (linked : Bool) : Journal :=
  [⟨.graph (recordQuery (f.record d summary)), true⟩, ⟨.graph (f.linkQuery d), linked⟩]

/-- What taking in a definition can come to: it stops before anything is stored, there is
nothing to do, the record is stored but not linked, or all is done. -/
inductive Turn (f : SourceFile) (d : Definition) (s : Ledger) :
    Except Failure (Option Document) × Ledger → Prop where
  | stopped (e : Failure) {es : Journal} (hes : es.Idle) :
    Turn f d s (.error e, ⟨s.store, s.journal ++ es⟩)
  | kept (h : s.store.hash? d.id = some d.hash) :
    Turn f d s (.ok none, ⟨s.store, s.journal ++ [⟨d.lookUp, true⟩]⟩)
  | unlinked (e : Failure) (summary : String) {es : Journal} (hes : es.Idle)
    (h : s.store.hash? d.id ≠ some d.hash) :
    Turn f d s (.error e, ⟨s.store.upsert d.id (f.record d summary).properties,
      s.journal ++ (es ++ f.storing d summary false)⟩)
  | taken (summary : String) {es : Journal} (hes : es.Idle)
    (h : s.store.hash? d.id ≠ some d.hash) :
    Turn f d s (.ok (some (f.document d summary)),
      ⟨s.store.upsert d.id (f.record d summary).properties,
        s.journal ++ (es ++ f.storing d summary true)⟩)

theorem idle_lookUp (d : Definition) (accepted : Bool) : Entry.Idle ⟨d.lookUp, accepted⟩ := by
  cases accepted <;> exact ⟨rfl, rfl, rfl, rfl⟩

theorem idle_refused_record (r : Graph.CodeRecord) :
    Entry.Idle ⟨.graph (recordQuery r), false⟩ :=
  ⟨rfl, rfl, rfl, rfl⟩

theorem idle_singleton {e : Entry} (h : e.Idle) : Journal.Idle [e] :=
  fun _ he => List.mem_singleton.mp he ▸ h

/-- Storing and linking a definition goes through, or stops at one of the two. -/
theorem run_store (f : SourceFile) (d : Definition) (summary : String) (s : Ledger) :
    ((Graph.upsertNode (f.record d summary)).bind fun _ => (f.linkDefinition d).bind fun _ =>
        (.done (some (f.document d summary)) : Dialogue (Option Document))).run w.world s =
      match w.refusal s.journal (.graph (recordQuery (f.record d summary))) with
      | some e =>
        (.error e, ⟨s.store, s.journal ++ [⟨.graph (recordQuery (f.record d summary)), false⟩]⟩)
      | none =>
        match w.refusal (s.journal ++ [⟨.graph (recordQuery (f.record d summary)), true⟩])
          (.graph (f.linkQuery d)) with
        | some e => (.error e, ⟨s.store.upsert d.id (f.record d summary).properties,
            s.journal ++ f.storing d summary false⟩)
        | none => (.ok (some (f.document d summary)),
            ⟨s.store.upsert d.id (f.record d summary).properties,
              s.journal ++ f.storing d summary true⟩) := by
  have hstore : (s.store.answer (recordQuery (f.record d summary))).2 =
      s.store.upsert d.id (f.record d summary).properties :=
    congrArg Prod.snd (Graph.Store.answer_upsertNode s.store (f.record d summary))
  have hupsert : Graph.upsertNode (f.record d summary) =
      Graph.execute (recordQuery (f.record d summary)) := rfl
  rw [hupsert, run_bind, Surroundings.run_execute, hstore]
  cases w.refusal s.journal (.graph (recordQuery (f.record d summary))) with
  | some e => rfl
  | none =>
    simp only
    rw [linkDefinition_eq, run_bind, Surroundings.run_execute]
    cases w.refusal (s.journal ++ [⟨.graph (recordQuery (f.record d summary)), true⟩])
      (.graph (f.linkQuery d)) <;> simp [linkQuery, storing]

theorem turn (f : SourceFile) (d : Definition) (s : Ledger) :
    Turn f d s ((f.ingestDefinition d).run w.world s) := by
  rw [ingestDefinition, bind_eq, run_bind, Surroundings.run_getNode]
  cases w.refusal s.journal (.graph (.node (.string d.id))) with
  | some e => exact .stopped e (idle_singleton (idle_lookUp d false))
  | none =>
    by_cases hup : upToDate d (s.store.get? d.id) = true
    · simp only [hup, if_true]
      exact .kept ((upToDate_iff s.store d).mp hup)
    · have hstale : s.store.hash? d.id ≠ some d.hash := fun h => hup ((upToDate_iff s.store d).mpr h)
      obtain ⟨es, hes, hrun⟩ := Surroundings.run_quiet
        (Surroundings.keeps_summarize (w := w) d.fullCode)
        ⟨s.store, s.journal ++ [⟨.graph (.node (.string d.id)), true⟩]⟩
      have hfront := (idle_singleton (idle_lookUp d true)).append hes
      simp only [hup, bind_eq]
      rw [if_neg Bool.false_ne_true, run_bind]
      rcases hsum : (Assistant.summarize d.fullCode).run w.world
        ⟨s.store, s.journal ++ [⟨.graph (.node (.string d.id)), true⟩]⟩ with ⟨e | summary, s'⟩
      all_goals
        rw [hsum]
        obtain rfl : s' = ⟨s.store, s.journal ++ ([⟨d.lookUp, true⟩] ++ es)⟩ := by
          rw [hsum] at hrun
          simpa [Definition.lookUp] using hrun
      · exact .stopped e hfront
      · change Turn f d s (run w.world (((Graph.upsertNode (f.record d summary)).bind fun _ =>
          (f.linkDefinition d).bind fun _ => .done (some (f.document d summary)))) _)
        rw [run_store]
        split
        · rw [List.append_assoc]
          exact .stopped _ (hfront.append (idle_singleton (idle_refused_record _)))
        · split
          · rw [List.append_assoc]
            exact .unlinked _ summary hfront hstale
          · rw [List.append_assoc]
            exact .taken summary hfront hstale

/-- What a journal says of a definition that was stored, linked or not. -/
theorem views_storing {es : Journal} (hes : es.Idle) (d : Definition) (summary : String)
    (linked : Bool) :
    Journal.links (es ++ f.storing d summary linked) = (if linked then [f.linkOf d] else []) ∧
      Journal.refusedLinks (es ++ f.storing d summary linked) =
        (if linked then [] else [f.linkOf d]) ∧
      Journal.writes (es ++ f.storing d summary linked) = [(d.id, d.hash)] ∧
      Journal.documents (es ++ f.storing d summary linked) = [] := by
  simp only [Journal.links_append, Journal.refusedLinks_append, Journal.writes_append,
    Journal.documents_append, hes.links, hes.refusedLinks, hes.writes, hes.documents]
  cases linked <;> exact ⟨rfl, rfl, rfl, rfl⟩

end SourceFile

/-! ### Fingerprints, one after another -/

/-- A fingerprint is noted under an id. -/
def noted (h : String → Option String) (id hash : String) : String → Option String :=
  fun k => if k = id then some hash else h k

theorem noted_apply (h : String → Option String) (id hash k : String) :
    noted h id hash k = if k = id then some hash else h k := rfl

theorem noted_self {h : String → Option String} {id hash : String} (hid : h id = some hash) :
    noted h id hash = h := by
  funext k
  by_cases hk : k = id
  · rw [noted_apply, if_pos hk, hk, hid]
  · rw [noted_apply, if_neg hk]

/-- Fingerprints are noted one after another. -/
def replay (h : String → Option String) (ws : List (String × String)) : String → Option String :=
  ws.foldl (fun h p => noted h p.1 p.2) h

theorem replay_cons (h : String → Option String) (p : String × String)
    (ws : List (String × String)) : replay h (p :: ws) = replay (noted h p.1 p.2) ws := rfl

/-- The definitions whose fingerprint is not there when their turn comes. -/
def outOfDate (h : String → Option String) : List Definition → List Definition
  | [] => []
  | d :: rest =>
    if h d.id = some d.hash then outOfDate h rest
    else d :: outOfDate (noted h d.id d.hash) rest

namespace SourceFile

variable {f : SourceFile} {w : Surroundings}

theorem hash?_stored (store : Graph.Store) (d : Definition) (summary : String) :
    (store.upsert d.id (f.record d summary).properties).hash? = noted store.hash? d.id d.hash := by
  funext k
  exact Graph.Store.hash?_upsert store (f.record d summary) (fingerprint_ne_empty _) k

/-! ### Batches -/

def addCode (batch : Columns) : Dialogue Unit :=
  Dialogue.request (.addDocuments .code batch)

theorem flushFull_eq (batchSize : Int) (batch : Columns) :
    flushFull batchSize batch =
      if batchSize ≤ batch.texts.length then (addCode batch).bind fun _ => .done .empty
      else .done batch := rfl

theorem run_addCode (batch : Columns) (s : Ledger) :
    ∃ r es, (addCode batch).run w.world s = (r, ⟨s.store, s.journal ++ es⟩) ∧
      Journal.links es = [] ∧ Journal.refusedLinks es = [] ∧ Journal.writes es = [] ∧
      (r = .ok () → Journal.documents es = batch.documents) := by
  have hrun : (addCode batch).run w.world s = w.world (.addDocuments .code batch) s :=
    run_request ..
  rw [hrun, Surroundings.world_addDocuments]
  cases w.refusal s.journal (.addDocuments .code batch) with
  | some e => exact ⟨_, _, rfl, rfl, rfl, rfl, fun hr => by cases hr⟩
  | none => exact ⟨_, _, rfl, rfl, rfl, rfl, fun _ => List.append_nil batch.documents⟩

/-- Columns that are in step are put away or held back in step: either way the documents are
those there were. -/
theorem run_flushFull (batchSize : Int) (batch : Columns) (s : Ledger) :
    ∃ r es, (flushFull batchSize batch).run w.world s = (r, ⟨s.store, s.journal ++ es⟩) ∧
      Journal.links es = [] ∧ Journal.refusedLinks es = [] ∧ Journal.writes es = [] ∧
      ∀ docs rest, batch = .of docs → r = .ok rest →
        ∃ held, rest = .of held ∧ Journal.documents es ++ held = docs := by
  rw [flushFull_eq]
  split
  · obtain ⟨r, es, hrun, hlinks, hrefused, hwrites, hdocs⟩ := run_addCode (w := w) batch s
    rw [run_bind, hrun]
    cases r with
    | error e => exact ⟨_, es, rfl, hlinks, hrefused, hwrites, fun docs rest _ hr => by cases hr⟩
    | ok u =>
      refine ⟨_, es, rfl, hlinks, hrefused, hwrites, fun docs rest hbatch hr => ?_⟩
      refine ⟨[], (Except.ok.inj hr).symm, ?_⟩
      rw [hdocs rfl, hbatch, Columns.documents_of, List.append_nil]
  · refine ⟨.ok batch, [], ?_, rfl, rfl, rfl, fun docs rest hbatch hr => ?_⟩
    · simp
    · exact ⟨docs, (Except.ok.inj hr).symm.trans hbatch, rfl⟩

/-! ### All definitions of a file -/

/-- The documents that a run which ends well adds, of those held back before it and those of
the definitions that it takes in. -/
def Mode.added (mode : Mode) (batch docs : List Document) : List Document :=
  match mode with
  | .graphOnly => []
  | .full _ => batch ++ docs

/-- Go on after a definition was taken in: with its document in the batch, or without. -/
def goOn (f : SourceFile) (mode : Mode) (rest : List Definition) (batch : Columns)
    (doc : Document) : Dialogue Unit :=
  match mode with
  | .graphOnly => f.ingestAll mode rest batch
  | .full batchSize => (flushFull batchSize (batch.push doc)).bind (f.ingestAll mode rest)

theorem ingestAll_nil (mode : Mode) (batch : Columns) :
    f.ingestAll mode [] batch = .done () ∨ f.ingestAll mode [] batch = addCode batch := by
  cases mode with
  | graphOnly => exact .inl rfl
  | full _ =>
    obtain ⟨_ | ⟨text, texts⟩, abouts, ids⟩ := batch
    · exact .inl rfl
    · exact .inr rfl

theorem ingestAll_cons (mode : Mode) (d : Definition) (rest : List Definition)
    (batch : Columns) :
    f.ingestAll mode (d :: rest) batch = (f.ingestDefinition d).bind fun
      | some doc => f.goOn mode rest batch doc
      | none => f.ingestAll mode rest batch := by
  refine congrArg (Dialogue.bind (f.ingestDefinition d)) (funext fun r => ?_)
  cases r with
  | none => rfl
  | some doc => cases mode <;> rfl

/-- Putting documents away neither stores nor links anything, and loses none. -/
theorem run_goOn_ok {mode : Mode} {rest : List Definition} {batch : List Document}
    {doc : Document} {s t : Ledger}
    (h : (f.goOn mode rest (.of batch) doc).run w.world s = (.ok (), t)) :
    ∃ batch' es,
      (f.ingestAll mode rest (.of batch')).run w.world ⟨s.store, s.journal ++ es⟩ = (.ok (), t) ∧
      Journal.links es = [] ∧ Journal.writes es = [] ∧
      ∀ docs, Journal.documents es ++ Mode.added mode batch' docs =
        Mode.added mode batch (doc :: docs) := by
  cases mode with
  | graphOnly => exact ⟨batch, [], by simpa [goOn] using h, rfl, rfl, fun _ => rfl⟩
  | full batchSize =>
    obtain ⟨rows, s', hflush, hrest⟩ := run_bind_eq_ok _ h
    obtain ⟨r, es, hrun, hlinks, -, hwrites, hdocs⟩ :=
      run_flushFull (w := w) batchSize (Columns.push (.of batch) doc) s
    obtain ⟨rfl, rfl⟩ : r = .ok rows ∧ ⟨s.store, s.journal ++ es⟩ = s' :=
      Prod.mk.inj (hrun.symm.trans hflush)
    obtain ⟨batch', rfl, hheld⟩ := hdocs (batch ++ [doc]) rows (Columns.push_of batch doc) rfl
    refine ⟨batch', es, hrest, hlinks, hwrites, fun docs => ?_⟩
    simp only [Mode.added]
    rw [← List.append_assoc, hheld, List.append_assoc, List.singleton_append]

/-- A run that ends well takes in just what is out of date: it stores, links and adds that. -/
theorem run_ingestAll_ok {mode : Mode} {ds : List Definition} {batch : List Document}
    {s t : Ledger} (h : (f.ingestAll mode ds (.of batch)).run w.world s = (.ok (), t)) :
    t.store.hash? = replay s.store.hash? (ds.map fun d => (d.id, d.hash)) ∧
      ∃ es summaries, t.journal = s.journal ++ es ∧
        Journal.links es = (outOfDate s.store.hash? ds).map f.linkOf ∧
        Journal.writes es = (outOfDate s.store.hash? ds).map (fun d => (d.id, d.hash)) ∧
        summaries.length = (outOfDate s.store.hash? ds).length ∧
        Journal.documents es = Mode.added mode batch
          (List.zipWith f.document (outOfDate s.store.hash? ds) summaries) := by
  induction ds generalizing batch s with
  | nil =>
    rcases mode with _ | batchSize
    · cases h
      exact ⟨rfl, [], [], by simp, rfl, rfl, rfl, rfl⟩
    cases batch with
    | nil =>
      cases h
      exact ⟨rfl, [], [], by simp, rfl, rfl, rfl, rfl⟩
    | cons doc batch =>
      obtain ⟨r, es, hrun, hlinks, -, hwrites, hdocs⟩ :=
        run_addCode (w := w) (.of (doc :: batch)) s
      obtain ⟨rfl, rfl⟩ : r = .ok () ∧ ⟨s.store, s.journal ++ es⟩ = t :=
        Prod.mk.inj (hrun.symm.trans h)
      exact ⟨rfl, es, [], rfl, hlinks, hwrites, rfl, by simp [hdocs rfl, Mode.added, Columns.documents_of]⟩
  | cons d rest ih =>
    rw [ingestAll_cons] at h
    obtain ⟨r, s', hturn, hrest⟩ := run_bind_eq_ok _ h
    have hcases := turn (w := w) f d s
    rw [hturn] at hcases
    cases hcases with
    | kept hup =>
      obtain ⟨hhash, es, summaries, hj, hlinks, hwrites, hlen, hdocs⟩ := ih hrest
      have hfront := idle_singleton (idle_lookUp d true)
      rw [outOfDate, if_pos hup]
      refine ⟨?_, [⟨d.lookUp, true⟩] ++ es, summaries, by simp [hj], ?_, ?_, hlen, ?_⟩
      · rw [hhash, List.map_cons, replay_cons, noted_self hup]
      · rw [Journal.links_append, hfront.links, hlinks, List.nil_append]
      · rw [Journal.writes_append, hfront.writes, hwrites, List.nil_append]
      · rw [Journal.documents_append, hfront.documents, hdocs, List.nil_append]
    | @taken summary es₁ hes hstale =>
      obtain ⟨batch', es₂, hgo, hlinks₂, hwrites₂, hdocs₂⟩ := run_goOn_ok hrest
      obtain ⟨hhash, es, summaries, hj, hlinks, hwrites, hlen, hdocs⟩ := ih hgo
      obtain ⟨hlinks₁, -, hwrites₁, hdocs₁⟩ := views_storing (f := f) hes d summary true
      simp only [hash?_stored] at hhash hlinks hwrites hlen hdocs
      rw [outOfDate, if_neg hstale]
      refine ⟨hhash, es₁ ++ f.storing d summary true ++ (es₂ ++ es), summary :: summaries,
        ?_, ?_, ?_, ?_, ?_⟩
      · rw [hj, List.append_assoc, List.append_assoc]
      · rw [Journal.links_append (es₁ ++ _), Journal.links_append es₂, hlinks₁, hlinks₂, hlinks]
        rfl
      · rw [Journal.writes_append (es₁ ++ _), Journal.writes_append es₂, hwrites₁, hwrites₂, hwrites]
        rfl
      · simp [hlen]
      · rw [Journal.documents_append (es₁ ++ _), Journal.documents_append es₂, hdocs₁, hdocs, hdocs₂]
        rfl

/-- Whatever was stored is one of these definitions, and its link was made or refused. -/
def WritesLinked (f : SourceFile) (ds : List Definition) (es : Journal) : Prop :=
  ∀ p ∈ es.writes, ∃ d ∈ ds, p = (d.id, d.hash) ∧ f.linkOf d ∈ es.links ++ es.refusedLinks

theorem writesLinked_of_writes {ds : List Definition} {es : Journal} (h : es.writes = []) :
    f.WritesLinked ds es := by
  intro p hp
  rw [h] at hp
  cases hp

theorem writesLinked_storing {ds : List Definition} {d : Definition} (hd : d ∈ ds)
    {es : Journal} (hes : es.Idle) (summary : String) (linked : Bool) :
    f.WritesLinked ds (es ++ f.storing d summary linked) := by
  obtain ⟨hlinks, hrefused, hwrites, -⟩ := views_storing (f := f) hes d summary linked
  intro p hp
  rw [hwrites, List.mem_singleton] at hp
  refine ⟨d, hd, hp, ?_⟩
  rw [hlinks, hrefused]
  cases linked <;> simp

theorem WritesLinked.append {ds : List Definition} {es es' : Journal} (h : f.WritesLinked ds es)
    (h' : f.WritesLinked ds es') : f.WritesLinked ds (es ++ es') := by
  intro p hp
  rw [Journal.writes_append] at hp
  rw [Journal.links_append, Journal.refusedLinks_append]
  rcases List.mem_append.mp hp with hp | hp
  · obtain ⟨d, hd, hpd, hlink⟩ := h p hp
    exact ⟨d, hd, hpd, by grind⟩
  · obtain ⟨d, hd, hpd, hlink⟩ := h' p hp
    exact ⟨d, hd, hpd, by grind⟩

theorem WritesLinked.mono {ds ds' : List Definition} {es : Journal} (h : f.WritesLinked ds es)
    (hsub : ds ⊆ ds') : f.WritesLinked ds' es := by
  intro p hp
  obtain ⟨d, hd, hrest⟩ := h p hp
  exact ⟨d, hsub hd, hrest⟩

/-- However a run ends, at most a link is missing for what it stored, and that was refused. -/
theorem run_ingestAll_writes (mode : Mode) (ds : List Definition) (batch : Columns)
    (s : Ledger) :
    ∃ es, ((f.ingestAll mode ds batch).run w.world s).2.journal = s.journal ++ es ∧
      f.WritesLinked ds es := by
  induction ds generalizing batch s with
  | nil =>
    rcases f.ingestAll_nil mode batch with h | h
    · rw [h]
      exact ⟨[], by simp, writesLinked_of_writes rfl⟩
    · obtain ⟨r, es, hrun, -, -, hwrites, -⟩ := run_addCode (w := w) batch s
      rw [h, hrun]
      exact ⟨es, rfl, writesLinked_of_writes hwrites⟩
  | cons d rest ih =>
    have hd : d ∈ d :: rest := List.mem_cons_self
    have hgo : ∀ (batch : Columns) (s : Ledger), ∃ es,
        ((f.ingestAll mode rest batch).run w.world s).2.journal = s.journal ++ es ∧
          f.WritesLinked (d :: rest) es := fun batch s => by
      obtain ⟨es, hj, hes⟩ := ih batch s
      exact ⟨es, hj, hes.mono (List.subset_cons_self d rest)⟩
    rw [ingestAll_cons, run_bind]
    rcases hturn : (f.ingestDefinition d).run w.world s with ⟨r, s'⟩
    have hcases := turn (w := w) f d s
    rw [hturn] at hcases
    cases hcases with
    | stopped e hes => exact ⟨_, rfl, writesLinked_of_writes hes.writes⟩
    | kept _ =>
      obtain ⟨es, hj, hes⟩ := hgo batch ⟨s.store, s.journal ++ [⟨d.lookUp, true⟩]⟩
      have hfront := idle_singleton (idle_lookUp d true)
      exact ⟨[⟨d.lookUp, true⟩] ++ es, by rw [hj, List.append_assoc],
        (writesLinked_of_writes hfront.writes).append hes⟩
    | unlinked e summary hes _ => exact ⟨_, rfl, writesLinked_storing hd hes summary false⟩
    | taken summary hes _ =>
      have hstored := writesLinked_storing (f := f) hd hes summary true
      cases mode with
      | graphOnly =>
        obtain ⟨es, hj, hes⟩ := hgo batch _
        exact ⟨_ ++ es, hj.trans (List.append_assoc ..), hstored.append hes⟩
      | full batchSize =>
        simp only [goOn]
        obtain ⟨r, es₂, hrun, -, -, hwrites₂, -⟩ := run_flushFull (w := w) batchSize
          (batch.push (f.document d summary)) _
        rw [run_bind, hrun]
        have hfront := hstored.append (writesLinked_of_writes hwrites₂)
        cases r with
        | error e => exact ⟨_, List.append_assoc .., hfront⟩
        | ok batch' =>
          obtain ⟨es, hj, hes⟩ := hgo batch' _
          exact ⟨_ ++ es, hj.trans (by simp), hfront.append hes⟩

/-- A definition that is up to date is looked up and left alone. -/
theorem run_ingestDefinition_upToDate {d : Definition} {s : Ledger}
    (h : s.store.hash? d.id = some d.hash) :
    (f.ingestDefinition d).run w.world s =
      match w.refusal s.journal d.lookUp with
      | some e => (.error e, ⟨s.store, s.journal ++ [⟨d.lookUp, false⟩]⟩)
      | none => (.ok none, ⟨s.store, s.journal ++ [⟨d.lookUp, true⟩]⟩) := by
  have hup : upToDate d (s.store.get? d.id) = true := (upToDate_iff s.store d).mpr h
  rw [ingestDefinition, bind_eq, run_bind, Surroundings.run_getNode, Definition.lookUp]
  cases w.refusal s.journal (.graph (.node (.string d.id))) with
  | some e => rfl
  | none =>
    simp only [hup, if_true]
    rfl

/-- Where everything is up to date, definitions are looked up and nothing else is asked. -/
theorem run_ingestAll_upToDate (mode : Mode) (ds : List Definition) {s : Ledger}
    (h : ∀ d ∈ ds, s.store.hash? d.id = some d.hash) :
    ∃ r es, (f.ingestAll mode ds .empty).run w.world s = (r, ⟨s.store, s.journal ++ es⟩) ∧
      es.map Entry.request <+: ds.map Definition.lookUp ∧
      (w.Serves → r = .ok () ∧ es = ds.map fun d => ⟨d.lookUp, true⟩) := by
  induction ds generalizing s with
  | nil =>
    have hdone : f.ingestAll mode [] .empty = .done () := by cases mode <;> rfl
    exact ⟨.ok (), [], by simp [hdone], by simp, fun _ => ⟨rfl, rfl⟩⟩
  | cons d rest ih =>
    rw [ingestAll_cons, run_bind, run_ingestDefinition_upToDate (h d List.mem_cons_self)]
    cases hr : w.refusal s.journal d.lookUp with
    | some e =>
      refine ⟨.error e, [⟨d.lookUp, false⟩], rfl, by simp, fun hserves => ?_⟩
      rw [hserves] at hr
      cases hr
    | none =>
      obtain ⟨r, es, hrun, hpre, hall⟩ := ih (s := ⟨s.store, s.journal ++ [⟨d.lookUp, true⟩]⟩)
        fun d hd => h d (List.mem_cons_of_mem _ hd)
      refine ⟨r, ⟨d.lookUp, true⟩ :: es, by simpa using hrun, ?_, fun hserves => ?_⟩
      · simpa using hpre
      · obtain ⟨hok, hes⟩ := hall hserves
        exact ⟨hok, by rw [hes, List.map_cons]⟩

/-! ### A whole file -/

/-- The file's record stored, and the file linked to its project or not. -/
def opening (f : SourceFile) (linked : Bool) : Journal :=
  [⟨.graph (recordQuery f.fileRecord), true⟩, ⟨.graph f.projectQuery, linked⟩]

/-- The ledger when the definitions' turn comes. -/
def opened (f : SourceFile) (s : Ledger) : Ledger :=
  ⟨s.store.upsert f.nodeId f.fileRecord.properties, s.journal ++ f.opening true⟩

theorem run_ingest (f : SourceFile) (mode : Mode) (s : Ledger) :
    (f.ingest mode).run w.world s =
      match w.refusal s.journal (.graph (recordQuery f.fileRecord)) with
      | some e => (.error e, ⟨s.store, s.journal ++ [⟨.graph (recordQuery f.fileRecord), false⟩]⟩)
      | none =>
        match w.refusal (s.journal ++ [⟨.graph (recordQuery f.fileRecord), true⟩])
          (.graph f.projectQuery) with
        | some e => (.error e, ⟨s.store.upsert f.nodeId f.fileRecord.properties,
            s.journal ++ f.opening false⟩)
        | none => (f.ingestAll mode f.extraction.definitions .empty).run w.world (f.opened s) := by
  have hstore : (s.store.answer (recordQuery f.fileRecord)).2 =
      s.store.upsert f.nodeId f.fileRecord.properties :=
    congrArg Prod.snd (Graph.Store.answer_upsertNode s.store f.fileRecord)
  have hingest : f.ingest mode = (Graph.execute (recordQuery f.fileRecord)).bind fun _ =>
      (Graph.execute f.projectQuery).bind fun _ =>
        f.ingestAll mode f.extraction.definitions .empty := rfl
  rw [hingest, run_bind, Surroundings.run_execute, hstore]
  cases w.refusal s.journal (.graph (recordQuery f.fileRecord)) with
  | some e => rfl
  | none =>
    simp only
    rw [run_bind, Surroundings.run_execute]
    cases w.refusal (s.journal ++ [⟨.graph (recordQuery f.fileRecord), true⟩])
      (.graph f.projectQuery) <;> simp [projectQuery, opening, opened]

theorem run_ingest_ok {mode : Mode} {s t : Ledger} (h : (f.ingest mode).run w.world s = (.ok (), t)) :
    (f.ingestAll mode f.extraction.definitions (.of [])).run w.world (f.opened s) = (.ok (), t) := by
  rw [run_ingest] at h
  split at h
  · cases h
  · split at h
    · cases h
    · exact h

theorem hash?_opened (s : Ledger) :
    (f.opened s).store.hash? = noted s.store.hash? f.nodeId (fingerprint f.content) := by
  funext k
  exact Graph.Store.hash?_upsert s.store f.fileRecord (fingerprint_ne_empty _) k

end SourceFile

end CodeAtlas.Ingest
