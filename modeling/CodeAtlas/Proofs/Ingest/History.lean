import CodeAtlas.Proofs.Ingest.Turn
import Mathlib.Data.List.Induction

/-! Files are taken in again and again, by runs that may find other versions of a file on the
disk and that may break off at any request. Of every such history the journal tells where the
store's fingerprints come from: each was written by a run, and a run that wrote one for a
definition also asked for the definition's link. What a run that ends well does depends on
the history only through the fingerprints. -/

namespace CodeAtlas.Ingest

open Dialogue

/-- One run: what is taken in, how, and in which surroundings. -/
structure Visit where
  surroundings : Surroundings
  mode : Mode
  path : String
  project : String

namespace Visit

/-- What the run finds on the disk. -/
def source (v : Visit) : Except Failure (Option SourceFile) :=
  v.surroundings.source v.path v.project

def run (v : Visit) (s : Ledger) : Except Failure Unit × Ledger :=
  (ingestFile v.mode v.path v.project).run v.surroundings.world s

/-- What the run adds to the journal. -/
def entries (v : Visit) (s : Ledger) : Journal :=
  (v.run s).2.journal.drop s.journal.length

end Visit

/-- The ledger after some runs on empty databases. -/
def after (history : List Visit) : Ledger :=
  history.foldl (fun s v => (v.run s).2) .empty

@[simp] theorem after_nil : after [] = .empty := rfl

@[simp] theorem after_concat (history : List Visit) (v : Visit) :
    after (history ++ [v]) = (v.run (after history)).2 := by
  simp [after]

/-- The run is one of a history, and finds the databases in this state. -/
def Took (history : List Visit) (v : Visit) (s : Ledger) : Prop :=
  ∃ earlier later, history = earlier ++ v :: later ∧ s = after earlier

theorem took_concat_iff {history : List Visit} {last v : Visit} {s : Ledger} :
    Took (history ++ [last]) v s ↔ Took history v s ∨ (v = last ∧ s = after history) := by
  constructor
  · rintro ⟨earlier, later, heq, rfl⟩
    cases later using List.reverseRecOn with
    | nil =>
      obtain ⟨rfl, hlast⟩ := List.append_inj' heq rfl
      exact .inr ⟨(List.cons.inj hlast).1.symm, rfl⟩
    | append_singleton later u =>
      rw [← List.cons_append, ← List.append_assoc] at heq
      exact .inl ⟨earlier, later, (List.append_inj' heq rfl).1, rfl⟩
  · rintro (⟨earlier, later, rfl, rfl⟩ | ⟨rfl, rfl⟩)
    · exact ⟨earlier, later ++ [last], by simp, rfl⟩
    · exact ⟨history, [], rfl, rfl⟩

theorem took_singleton_iff {v u : Visit} {s : Ledger} : Took [u] v s ↔ v = u ∧ s = .empty := by
  rw [← List.nil_append [u], took_concat_iff, after_nil]
  simp [Took]

theorem Took.mem {history : List Visit} {v : Visit} {s : Ledger} (h : Took history v s) :
    v ∈ history := by
  obtain ⟨earlier, later, rfl, -⟩ := h
  simp

/-! ### One run -/

theorem journal_run {α : Type} (w : Surroundings) (d : Dialogue α) (s : Ledger) :
    ∃ es, (d.run w.world s).2.journal = s.journal ++ es := by
  induction d generalizing s with
  | done a => exact ⟨[], by simp⟩
  | fail e => exact ⟨[], by simp⟩
  | ask q next ih =>
    obtain ⟨es, hes⟩ := ih (w.world q s).1 (w.world q s).2
    exact ⟨⟨q, (w.result s q).isOk⟩ :: es, by simpa [Surroundings.world, Ledger.note] using hes⟩

namespace Visit

theorem journal_eq (v : Visit) (s : Ledger) :
    (v.run s).2.journal = s.journal ++ v.entries s := by
  obtain ⟨es, hes⟩ := journal_run v.surroundings (ingestFile v.mode v.path v.project) s
  have hrun : (v.run s).2.journal = s.journal ++ es := hes
  rw [entries, hrun, List.drop_left]

theorem entries_eq {v : Visit} {s : Ledger} {es : Journal}
    (h : (v.run s).2.journal = s.journal ++ es) : v.entries s = es := by
  rw [entries, h, List.drop_left]

end Visit

theorem journal_after_concat (history : List Visit) (v : Visit) :
    (after (history ++ [v])).journal = (after history).journal ++ v.entries (after history) := by
  rw [after_concat, v.journal_eq]

theorem Took.entries_subset {history : List Visit} {v : Visit} {s : Ledger}
    (h : Took history v s) : v.entries s ⊆ (after history).journal := by
  induction history using List.reverseRecOn with
  | nil => simp [Took] at h
  | append_singleton history last ih =>
    rw [journal_after_concat]
    rcases took_concat_iff.mp h with h | ⟨rfl, rfl⟩
    · exact List.Subset.trans (ih h) (List.subset_append_left ..)
    · exact List.subset_append_right ..

theorem Took.links_subset {history : List Visit} {v : Visit} {s : Ledger} (h : Took history v s) :
    (v.entries s).links ⊆ (after history).journal.links := by
  intro c hc
  obtain ⟨e, he, hce⟩ := List.mem_flatMap.mp hc
  exact List.mem_flatMap.mpr ⟨e, h.entries_subset he, hce⟩

namespace SourceFile

variable {w : Surroundings}

/-- The definitions that are out of date when the file is taken in. -/
def pending (f : SourceFile) (s : Ledger) : List Definition :=
  outOfDate (noted s.store.hash? f.nodeId (fingerprint f.content)) f.extraction.definitions

theorem views_opening (f : SourceFile) (linked : Bool) :
    (f.opening linked).links = (if linked then [.inProject f.project f.nodeId] else []) ∧
      (f.opening linked).writes = [(f.nodeId, fingerprint f.content)] ∧
      (f.opening linked).documents = [] := by
  cases linked <;> exact ⟨rfl, rfl, rfl⟩

/-- Whatever taking a file in stores is its own record, or that of a definition for which the
link was made or refused. -/
theorem run_ingest_writes (f : SourceFile) (mode : Mode) (s : Ledger) :
    ∃ es, ((f.ingest mode).run w.world s).2.journal = s.journal ++ es ∧
      ∀ p ∈ es.writes, p = (f.nodeId, fingerprint f.content) ∨
        ∃ d ∈ f.extraction.definitions, p = (d.id, d.hash) ∧
          f.linkOf d ∈ es.links ++ es.refusedLinks := by
  rw [run_ingest]
  split
  · exact ⟨_, rfl, fun p hp => by cases hp⟩
  · split
    · exact ⟨_, rfl, fun p hp => .inl (List.mem_singleton.mp hp)⟩
    · obtain ⟨es, hj, hes⟩ := run_ingestAll_writes (f := f) (w := w) mode f.extraction.definitions .empty
        (f.opened s)
      refine ⟨f.opening true ++ es, hj.trans (List.append_assoc ..), fun p hp => ?_⟩
      rw [Journal.writes_append, (f.views_opening true).2.1] at hp
      rcases List.mem_cons.mp hp with hp | hp
      · exact .inl hp
      · obtain ⟨d, hd, hpd, hlink⟩ := hes p hp
        refine .inr ⟨d, hd, hpd, ?_⟩
        rw [Journal.links_append, Journal.refusedLinks_append]
        grind

end SourceFile

namespace Visit

variable {v : Visit} {f : SourceFile} {s t : Ledger}

/-- A run that ends well links, stores and adds what is out of date, and nothing else. -/
theorem run_ok (hf : v.source = .ok (some f)) (h : v.run s = (.ok (), t)) :
    (v.entries s).links = .inProject f.project f.nodeId :: (f.pending s).map f.linkOf ∧
      (v.entries s).writes = (f.nodeId, fingerprint f.content) ::
        (f.pending s).map (fun d => (d.id, d.hash)) ∧
      ∃ summaries, summaries.length = (f.pending s).length ∧ (v.entries s).documents =
        SourceFile.Mode.added v.mode [] (List.zipWith f.document (f.pending s) summaries) := by
  have hread : v.surroundings.source v.path v.project = .ok (some f) := hf
  have hrun := h
  rw [Visit.run, Surroundings.run_ingestFile, hread] at hrun
  obtain ⟨-, es, summaries, hj, hlinks, hwrites, hlen, hdocs⟩ :=
    SourceFile.run_ingestAll_ok (SourceFile.run_ingest_ok hrun)
  have hidle := Surroundings.idle_readings (w := v.surroundings) v.path v.project
  obtain ⟨hlinks₀, hwrites₀, hdocs₀⟩ := f.views_opening true
  have hentries : v.entries s = v.surroundings.readings v.path v.project ++ (f.opening true ++ es) :=
    entries_eq (by rw [h, hj]; simp [SourceFile.opened])
  simp only [SourceFile.hash?_opened] at hlinks hwrites hlen hdocs
  rw [hentries]
  refine ⟨?_, ?_, summaries, hlen, ?_⟩
  · rw [Journal.links_append, Journal.links_append, hidle.links, hlinks₀, hlinks]
    rfl
  · rw [Journal.writes_append, Journal.writes_append, hidle.writes, hwrites₀, hwrites]
    rfl
  · rw [Journal.documents_append, Journal.documents_append, hidle.documents, hdocs₀, hdocs]
    rfl

/-- Whatever a run stores is the file's own record or that of a definition for which it also
asked for the link. -/
theorem exists_of_mem_writes {p : String × String} (hp : p ∈ (v.entries s).writes) :
    ∃ g, v.source = .ok (some g) ∧ (p = (g.nodeId, fingerprint g.content) ∨
      ∃ d ∈ g.extraction.definitions, p = (d.id, d.hash) ∧
        g.linkOf d ∈ (v.entries s).links ++ (v.entries s).refusedLinks) := by
  have hidle := Surroundings.idle_readings (w := v.surroundings) v.path v.project
  have hrun := congrArg (·.2.journal)
    (Surroundings.run_ingestFile (w := v.surroundings) v.mode v.path v.project s)
  rcases hsource : v.source with e | _ | g
  all_goals
    have hread : v.surroundings.source v.path v.project = _ := hsource
    simp only [hread] at hrun
  · rw [entries_eq hrun, hidle.writes] at hp
    cases hp
  · rw [entries_eq hrun, hidle.writes] at hp
    cases hp
  · obtain ⟨es, hj, hes⟩ := g.run_ingest_writes (w := v.surroundings) v.mode
      ⟨s.store, s.journal ++ v.surroundings.readings v.path v.project⟩
    have hentries := entries_eq (hrun.trans (hj.trans (List.append_assoc ..)))
    rw [hentries] at hp ⊢
    rw [Journal.writes_append, hidle.writes, List.nil_append] at hp
    rw [Journal.links_append, Journal.refusedLinks_append, hidle.links, hidle.refusedLinks]
    exact ⟨g, rfl, hes p hp⟩

end Visit

/-! ### The fingerprints of a history -/

theorem replay_append (h : String → Option String) (ws ws' : List (String × String)) :
    replay h (ws ++ ws') = replay (replay h ws) ws' := List.foldl_append

/-- A fingerprint that is there after some were noted is one of these, or was there before and
stayed. -/
theorem replay_eq_some {h : String → Option String} {ws : List (String × String)}
    {id hash : String} (heq : replay h ws id = some hash) :
    (id, hash) ∈ ws ∨ ((∀ p ∈ ws, p.1 ≠ id) ∧ h id = some hash) := by
  induction ws generalizing h with
  | nil => exact .inr ⟨by simp, heq⟩
  | cons p ws ih =>
    rw [replay_cons] at heq
    rcases ih heq with hmem | ⟨hws, hp⟩
    · exact .inl (List.mem_cons_of_mem _ hmem)
    rw [noted_apply] at hp
    split at hp
    next hid =>
      left
      rw [hid, ← Option.some.inj hp]
      exact List.mem_cons_self
    next hid =>
      right
      refine ⟨fun p' hp' => ?_, hp⟩
      rcases List.mem_cons.mp hp' with rfl | hp'
      · exact Ne.symm hid
      · exact hws p' hp'

/-- The store has the fingerprints that the journal has last for each id. -/
def Coherent (s : Ledger) : Prop :=
  s.store.hash? = replay (fun _ => none) s.journal.writes

/-- Of all that is asked for a file, only its records touch fingerprints. -/
theorem hash?_storeAfter {f : SourceFile} {q : Request} (hq : f.Asks q) (s : Ledger) :
    (s.storeAfter q).hash? = replay s.store.hash? (write? q).toList := by
  cases hq with
  | fileRecord => exact f.hash?_opened (s := s)
  | record hd summary =>
    simp only [Ledger.storeAfter, SourceFile.recordQuery, Graph.Store.answer_upsertNode]
    exact SourceFile.hash?_stored ..
  | quiet hq => cases q <;> first | exact hq.elim | rfl
  | project | lookUp _ | link _ | documents _ => rfl

theorem coherent_step {w : Surroundings} {path project : String} {q : Request}
    (hq : w.Asks path project q) {s : Ledger} (hs : Coherent s) : Coherent (w.world q s).2 := by
  have hafter : (s.storeAfter q).hash? = replay s.store.hash? (write? q).toList := by
    rcases hq with hq | ⟨f, -, hq⟩
    · cases q <;> first | exact hq.elim | rfl
    · exact hash?_storeAfter hq s
  have hwrites : (w.world q s).2.journal.writes =
      s.journal.writes ++ Entry.writes ⟨q, (w.result s q).isOk⟩ := by
    simp [Surroundings.world, Ledger.note, Journal.writes]
  rw [Coherent, hwrites, replay_append, ← hs]
  simp only [Surroundings.world, Ledger.note]
  cases (w.result s q).isOk with
  | false => rfl
  | true => exact hafter

theorem coherent_after (history : List Visit) : Coherent (after history) := by
  induction history using List.reverseRecOn with
  | nil => rfl
  | append_singleton history v ih =>
    rw [after_concat]
    exact (v.surroundings.keeps_ingestFile v.mode v.path v.project).run_preserves Coherent
      (fun _ _ hq hs => coherent_step hq hs) ih

/-- The run is one of a history, and nothing was stored under an id after it. -/
def Latest (history : List Visit) (id : String) (v : Visit) (s : Ledger) : Prop :=
  Took history v s ∧
    ∃ ws, (after history).journal.writes = (v.run s).2.journal.writes ++ ws ∧ ∀ p ∈ ws, p.1 ≠ id

/-- The fingerprint that the store has under an id was written by the last run to store
anything there. -/
theorem exists_latest {history : List Visit} {id hash : String}
    (h : (after history).store.hash? id = some hash) :
    ∃ v s, Latest history id v s ∧ (id, hash) ∈ (v.entries s).writes := by
  rw [coherent_after history] at h
  induction history using List.reverseRecOn with
  | nil => cases h
  | append_singleton history v ih =>
    have hwrites := congrArg Journal.writes (journal_after_concat history v)
    rw [Journal.writes_append] at hwrites
    rw [hwrites, replay_append] at h
    -- Either the last run wrote the fingerprint, or it wrote nothing under the id.
    rcases replay_eq_some h with hmem | ⟨hnone, hearlier⟩
    · refine ⟨v, after history, ⟨took_concat_iff.mpr (.inr ⟨rfl, rfl⟩), [], ?_, by simp⟩, hmem⟩
      rw [after_concat, List.append_nil]
    · obtain ⟨u, s, ⟨htook, ws, hws, hother⟩, hmem⟩ := ih hearlier
      refine ⟨u, s, ⟨took_concat_iff.mpr (.inl htook),
        ws ++ (v.entries (after history)).writes, ?_, ?_⟩, hmem⟩
      · rw [hwrites, hws, List.append_assoc]
      · exact fun p hp => (List.mem_append.mp hp).elim (hother p) (hnone p)

/-! ### What is up to date -/

theorem mem_of_mem_outOfDate {h : String → Option String} {ds : List Definition} {d : Definition}
    (hd : d ∈ outOfDate h ds) : d ∈ ds := by
  induction ds generalizing h with
  | nil => cases hd
  | cons d' rest ih =>
    rw [outOfDate] at hd
    split at hd
    · exact List.mem_cons_of_mem _ (ih hd)
    · rcases List.mem_cons.mp hd with rfl | hd
      · exact List.mem_cons_self
      · exact List.mem_cons_of_mem _ (ih hd)

/-- A definition whose fingerprint was not there is taken in, or another one with the same id
and fingerprint is. -/
theorem hash_or_mem_outOfDate {ds : List Definition} {n : Definition} (hn : n ∈ ds)
    (h : String → Option String) :
    h n.id = some n.hash ∨ ∃ d ∈ outOfDate h ds, d.id = n.id ∧ d.hash = n.hash := by
  induction ds generalizing h with
  | nil => cases hn
  | cons d rest ih =>
    rw [outOfDate]
    split
    next hup =>
      rcases List.mem_cons.mp hn with rfl | hn
      · exact .inl hup
      · exact ih hn h
    next hstale =>
      rcases List.mem_cons.mp hn with rfl | hn
      · exact .inr ⟨n, List.mem_cons_self, rfl, rfl⟩
      -- A fingerprint that is found now may be that of the definition just taken in.
      rcases ih hn (noted h d.id d.hash) with hnoted | ⟨d', hd', hsame⟩
      · rw [noted_apply] at hnoted
        split at hnoted
        next hid => exact .inr ⟨d, List.mem_cons_self, hid.symm, Option.some.inj hnoted⟩
        next hid => exact .inl hnoted
      · exact .inr ⟨d', List.mem_cons_of_mem _ hd', hsame⟩

end CodeAtlas.Ingest
