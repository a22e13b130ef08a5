import CodeAtlas.Proofs.Ingest.History

/-! What a history of runs has left out when a last run ends well. That run passes over every
definition whose fingerprint is in the store, so a link or a document of such a definition has
to come from before. It does if the last run to store anything under the id did its part: for
a link, if it put the code where it stands now and the link was made; for a document, if it was
a full run and ended well. Without this both can be missing for good: a method of a class that
got another name keeps the link from the old one, and what was stored without documents never
gets any. -/

namespace CodeAtlas.Ingest

open Dialogue

/-- No file that is taken in goes by this id. -/
def Unclaimed (visits : List Visit) (id : String) : Prop :=
  ∀ v ∈ visits, ∀ g, v.source = .ok (some g) → g.nodeId ≠ id

/-- Files with a known ending leave the ids of definitions alone. -/
theorem unclaimed_of_suffix {visits : List Visit}
    (h : ∀ v ∈ visits, (supportedSuffixes.lookup (Paths.suffix v.path)).isSome)
    {path project : String} {f : SourceFile} (hf : f.IsRead path project) {n : Definition}
    (hn : n ∈ f.extraction.definitions) : Unclaimed visits n.id := by
  intro v hv g hg
  rw [(Surroundings.isRead_of_source hg).nodeId_eq, hf.id_eq hn]
  exact Ne.symm (definitionId_ne_fileId (plainEnd_normalize (h v hv)) _ _ _)

namespace Visit

/-- The run stored the code of a definition under its id, and asked for this link with it. -/
def Places (v : Visit) (s : Ledger) (n : Definition) (c : Containment) : Prop :=
  (n.id, n.hash) ∈ (v.entries s).writes ∧ c ∈ (v.entries s).links ++ (v.entries s).refusedLinks ∧
    ∃ g, v.source = .ok (some g) ∧ ∃ d ∈ g.extraction.definitions,
      d.id = n.id ∧ d.hash = n.hash ∧ c = g.linkOf d

/-- The run stored the code of a definition under its id, and added a document for it. -/
def Embeds (v : Visit) (s : Ledger) (n : Definition) : Prop :=
  (n.id, n.hash) ∈ (v.entries s).writes ∧
    ∃ g, v.source = .ok (some g) ∧ ∃ d ∈ g.extraction.definitions, d.id = n.id ∧ d.hash = n.hash ∧
      ∃ summary, g.document d summary ∈ (v.entries s).documents

variable {v : Visit} {s t : Ledger} {n : Definition} {f : SourceFile}

/-- Code that was stored, and not for a file, was stored for a definition. -/
theorem exists_definition (hmem : (n.id, n.hash) ∈ (v.entries s).writes)
    (hfile : ∀ g, v.source = .ok (some g) → g.nodeId ≠ n.id) :
    ∃ g, v.source = .ok (some g) ∧ ∃ d ∈ g.extraction.definitions, d.id = n.id ∧ d.hash = n.hash ∧
      g.linkOf d ∈ (v.entries s).links ++ (v.entries s).refusedLinks := by
  obtain ⟨g, hg, hp | ⟨d, hd, hp, hlink⟩⟩ := exists_of_mem_writes hmem
  · exact absurd (Prod.mk.inj hp).1.symm (hfile g hg)
  · obtain ⟨hid, hhash⟩ := Prod.mk.inj hp
    exact ⟨g, hg, d, hd, hid.symm, hhash.symm, hlink⟩

/-- What a run that ends well has stored was out of date. -/
theorem mem_pending_of_mem_writes (hf : v.source = .ok (some f)) (hrun : v.run s = (.ok (), t))
    (hfile : f.nodeId ≠ n.id) (hmem : (n.id, n.hash) ∈ (v.entries s).writes) :
    ∃ d ∈ f.pending s, d.id = n.id ∧ d.hash = n.hash := by
  rw [(run_ok hf hrun).2.1] at hmem
  rcases List.mem_cons.mp hmem with hp | hp
  · exact absurd (Prod.mk.inj hp).1.symm hfile
  · obtain ⟨d, hd, hp⟩ := List.mem_map.mp hp
    exact ⟨d, hd, Prod.mk.inj hp⟩

/-- A full run that ends well adds a document for everything that was out of date. -/
theorem embeds_of_pending {batchSize : Int} (hmode : v.mode = .full batchSize)
    (hf : v.source = .ok (some f)) (hrun : v.run s = (.ok (), t))
    (hd : ∃ d ∈ f.pending s, d.id = n.id ∧ d.hash = n.hash) : v.Embeds s n := by
  obtain ⟨d, hd, hid, hhash⟩ := hd
  obtain ⟨-, hwrites, summaries, hlen, hdocs⟩ := run_ok hf hrun
  refine ⟨?_, f, hf, d, mem_of_mem_outOfDate hd, hid, hhash, ?_⟩
  · rw [hwrites, ← hid, ← hhash]
    exact List.mem_cons_of_mem _ (List.mem_map_of_mem hd)
  · obtain ⟨i, hi, rfl⟩ := List.mem_iff_getElem.mp hd
    have his : i < summaries.length := hlen ▸ hi
    refine ⟨summaries[i], ?_⟩
    rw [hdocs, hmode, SourceFile.Mode.added, List.nil_append]
    exact List.mem_iff_getElem.mpr ⟨i, by simpa using Nat.lt_min.mpr ⟨hi, his⟩, by simp⟩

end Visit

/-- A definition of the last file is out of date, or its code was stored by the last run to
store anything under its id. -/
theorem latest_or_pending {history : List Visit} {final : Visit} {f : SourceFile}
    (hf : final.source = .ok (some f)) {n : Definition} (hn : n ∈ f.extraction.definitions)
    (hfile : Unclaimed (history ++ [final]) n.id) :
    (∃ v s, Latest history n.id v s ∧ (n.id, n.hash) ∈ (v.entries s).writes) ∨
      ∃ d ∈ f.pending (after history), d.id = n.id ∧ d.hash = n.hash := by
  rcases hash_or_mem_outOfDate hn
    (noted (after history).store.hash? f.nodeId (fingerprint f.content)) with hup | hd
  · have hne : n.id ≠ f.nodeId := Ne.symm (hfile final (by simp) f hf)
    rw [noted_apply, if_neg hne] at hup
    exact .inl (exists_latest hup)
  · exact .inr hd

/-! ### Links -/

/-- After a run that ended well a definition's link has been made just if it was before, or if
the definition was out of date. It has been made if the last run to store anything under the
definition's id, in case that was its current code, put it in the same place and got the link:
provided no file goes by that id, and all in the file that share id and code with the
definition and are out of date share its place too. -/
theorem link_made_of_latest (history : List Visit) (final : Visit) (f : SourceFile)
    (hf : final.source = .ok (some f)) (t : Ledger)
    (hrun : final.run (after history) = (.ok (), t)) (n : Definition)
    (hn : n ∈ f.extraction.definitions) :
    (f.linkOf n ∈ t.journal.links ↔ f.linkOf n ∈ (after history).journal.links ∨
      ∃ d ∈ f.pending (after history), f.linkOf d = f.linkOf n) ∧
    (Unclaimed (history ++ [final]) n.id →
      (∀ d ∈ f.pending (after history), d.id = n.id → d.hash = n.hash →
        f.container d = f.container n) →
      (∀ v s c, Latest history n.id v s → v.Places s n c →
        c = f.linkOf n ∧ c ∈ (v.entries s).links) →
      f.linkOf n ∈ t.journal.links) := by
  have hjournal : t.journal = (after history).journal ++ final.entries (after history) := by
    rw [← final.journal_eq, hrun]
  have hlaw : f.linkOf n ∈ t.journal.links ↔ f.linkOf n ∈ (after history).journal.links ∨
      ∃ d ∈ f.pending (after history), f.linkOf d = f.linkOf n := by
    rw [hjournal, Journal.links_append, (Visit.run_ok hf hrun).1]
    simp [SourceFile.linkOf]
  refine ⟨hlaw, fun hfile hplace hlatest => hlaw.mpr ?_⟩
  rcases latest_or_pending hf hn hfile with ⟨v, s, hlast, hmem⟩ | ⟨d, hd, hid, hhash⟩
  · left
    have hv : v ∈ history ++ [final] := List.mem_append_left _ hlast.1.mem
    obtain ⟨g, hg, d, hd, hid, hhash, hlink⟩ := Visit.exists_definition hmem (hfile v hv)
    obtain ⟨hsame, hmade⟩ := hlatest v s _ hlast ⟨hmem, hlink, g, hg, d, hd, hid, hhash, rfl⟩
    rw [← hsame]
    exact hlast.1.links_subset hmade
  · right
    refine ⟨d, hd, ?_⟩
    rw [SourceFile.linkOf, hplace d hd hid hhash, hid, SourceFile.linkOf]

/-- A class with methods of one row each. -/
def classOf (name : String) (methods : List String) : Surroundings :=
  .ofText ("\n".intercalate (("class " ++ name ++ ":") ::
      methods.map fun m => "    def " ++ m ++ "(self): pass"))
    (.mk "module" 0 methods.length (.ok "") []
      [.mk "class_definition" 0 methods.length (.ok "") [] (.mk "identifier" 0 0 (.ok name) [] [] ::
        methods.zipIdx.map fun (m, i) => .mk "function_definition" (i + 1) (i + 1) (.ok "") []
          [.mk "identifier" (i + 1) (i + 1) (.ok m) [] []])])

/-- One file of a project, with the class that it has at the time. -/
def stock (mode : Mode) (name : String) (methods : List String) : Visit :=
  ⟨classOf name methods, mode, "shop/stock.py", "shop"⟩

/-- A definition of the file goes by this id only with this link. -/
def linkedOnly (holder id : String) (f : SourceFile) : Bool :=
  f.extraction.definitions.all fun d => d.id ≠ id ∨ f.linkOf d = .inNode holder id

theorem linkOf_of_linkedOnly {holder id : String} {f : SourceFile}
    (h : linkedOnly holder id f = true) {d : Definition} (hd : d ∈ f.extraction.definitions)
    (hid : d.id = id) : f.linkOf d = .inNode holder id :=
  (of_decide_eq_true (List.all_eq_true.mp h d hd)).resolve_left (not_not_intro hid)

set_option maxRecDepth 10000 in
/-- A method that is passed over when its class gets another method has its link. -/
theorem stock_link_made :
    ∃ f n t, (stock .graphOnly "Shelf" ["add", "take"]).source = .ok (some f) ∧
      n ∈ f.extraction.definitions ∧
      f.linkOf n = .inNode "shop/stock.py:Shelf:1" "shop/stock.py:add:2" ∧
      (stock .graphOnly "Shelf" ["add", "take"]).run (after [stock .graphOnly "Shelf" ["add"]]) =
        (.ok (), t) ∧
      f.linkOf n ∈ t.journal.links := by
  obtain ⟨f, hf, htest⟩ := Surroundings.exists_of_readsTo (w := classOf "Shelf" ["add", "take"])
    "shop/stock.py" "shop" (fun f => "shop/stock.py:add:2" ∈ f.extraction.definitions.map Definition.id ∧
      linkedOnly "shop/stock.py:Shelf:1" "shop/stock.py:add:2" f) (by decide +kernel)
  obtain ⟨hmem, honly⟩ := of_decide_eq_true htest
  obtain ⟨n, hn, hid⟩ := List.mem_map.mp hmem
  have hlink := linkOf_of_linkedOnly honly hn hid
  obtain ⟨g, hg, honly'⟩ := Surroundings.exists_of_readsTo (w := classOf "Shelf" ["add"])
    "shop/stock.py" "shop" (linkedOnly "shop/stock.py:Shelf:1" "shop/stock.py:add:2")
    (by decide +kernel)
  have hrun : (stock .graphOnly "Shelf" ["add", "take"]).run
      (after [stock .graphOnly "Shelf" ["add"]]) = (.ok (), _) :=
    run_eq_of_isOk _ (by decide +kernel)
  refine ⟨f, n, _, hf, hn, hlink, hrun, ?_⟩
  refine (link_made_of_latest [stock .graphOnly "Shelf" ["add"]]
    (stock .graphOnly "Shelf" ["add", "take"]) f hf _ hrun n hn).2 ?_ ?_ ?_
  · exact unclaimed_of_suffix (by decide +kernel) (Surroundings.isRead_of_source hf) hn
  · intro d hd hsame _
    have hlink' := linkOf_of_linkedOnly honly (mem_of_mem_outOfDate hd) (hsame.trans hid)
    exact (Containment.inNode.inj (hlink'.trans hlink.symm)).1
  · rintro v s c ⟨htook, -⟩ ⟨-, -, g', hg', d, hd, hsame, -, rfl⟩
    obtain ⟨rfl, rfl⟩ := took_singleton_iff.mp htook
    obtain rfl : g' = g := Option.some.inj (Except.ok.inj (hg'.symm.trans hg))
    rw [hlink, linkOf_of_linkedOnly honly' hd (hsame.trans hid)]
    exact ⟨rfl, by decide +kernel⟩

set_option maxRecDepth 10000 in
/-- A method whose class got another name is linked from the old one only. -/
theorem stock_link_missing :
    ∃ f n t, (stock .graphOnly "Rack" ["add"]).source = .ok (some f) ∧
      n ∈ f.extraction.definitions ∧
      f.linkOf n = .inNode "shop/stock.py:Rack:1" "shop/stock.py:add:2" ∧
      (stock .graphOnly "Rack" ["add"]).run (after [stock .graphOnly "Shelf" ["add"]]) =
        (.ok (), t) ∧
      f.linkOf n ∉ t.journal.links := by
  obtain ⟨f, hf, htest⟩ := Surroundings.exists_of_readsTo (w := classOf "Rack" ["add"])
    "shop/stock.py" "shop" (fun f => f.extraction.definitions.any fun n =>
      f.linkOf n = .inNode "shop/stock.py:Rack:1" "shop/stock.py:add:2") (by decide +kernel)
  obtain ⟨n, hn, hlink⟩ := List.any_eq_true.mp htest
  refine ⟨f, n, _, hf, hn, of_decide_eq_true hlink, run_eq_of_isOk _ (by decide +kernel), ?_⟩
  rw [of_decide_eq_true hlink]
  decide +kernel

/-! ### Documents -/

/-- After a full run that ended well the current code of a definition has been added just if it
was before, or if the definition was out of date. It has been added if the last run to store
anything under the definition's id, in case that was its current code, was itself a full run
that ended well. No file may go by that id. -/
theorem document_added_of_latest (history : List Visit) (final : Visit) (batchSize : Int)
    (hmode : final.mode = .full batchSize) (f : SourceFile) (hf : final.source = .ok (some f))
    (t : Ledger) (hrun : final.run (after history) = (.ok (), t)) (n : Definition)
    (hn : n ∈ f.extraction.definitions) (hfile : Unclaimed (history ++ [final]) n.id) :
    ((∃ v s, Took (history ++ [final]) v s ∧ v.Embeds s n) ↔
      (∃ v s, Took history v s ∧ v.Embeds s n) ∨
        ∃ d ∈ f.pending (after history), d.id = n.id ∧ d.hash = n.hash) ∧
    ((∀ v s, Latest history n.id v s → (n.id, n.hash) ∈ (v.entries s).writes →
        (∃ batchSize, v.mode = .full batchSize) ∧ (v.run s).1 = .ok ()) →
      ∃ v s, Took (history ++ [final]) v s ∧ v.Embeds s n) := by
  have hlaw : (∃ v s, Took (history ++ [final]) v s ∧ v.Embeds s n) ↔
      (∃ v s, Took history v s ∧ v.Embeds s n) ∨
        ∃ d ∈ f.pending (after history), d.id = n.id ∧ d.hash = n.hash := by
    constructor
    · rintro ⟨v, s, htook, hembeds⟩
      rcases took_concat_iff.mp htook with htook | ⟨rfl, rfl⟩
      · exact .inl ⟨v, s, htook, hembeds⟩
      · exact .inr (Visit.mem_pending_of_mem_writes hf hrun (hfile v (by simp) f hf) hembeds.1)
    · rintro (⟨v, s, htook, hembeds⟩ | hpending)
      · exact ⟨v, s, took_concat_iff.mpr (.inl htook), hembeds⟩
      · exact ⟨final, after history, took_concat_iff.mpr (.inr ⟨rfl, rfl⟩),
          Visit.embeds_of_pending hmode hf hrun hpending⟩
  refine ⟨hlaw, fun hlatest => hlaw.mpr ?_⟩
  rcases latest_or_pending hf hn hfile with ⟨v, s, hlast, hmem⟩ | hpending
  · left
    have hv : v ∈ history ++ [final] := List.mem_append_left _ hlast.1.mem
    obtain ⟨⟨batchSize', hmode'⟩, hok⟩ := hlatest v s hlast hmem
    have hrun' : v.run s = (.ok (), (v.run s).2) := Prod.ext hok rfl
    obtain ⟨g, hg, -⟩ := Visit.exists_definition hmem (hfile v hv)
    have hpending := Visit.mem_pending_of_mem_writes hg hrun' (hfile v hv g hg) hmem
    exact ⟨v, s, hlast.1, Visit.embeds_of_pending hmode' hg hrun' hpending⟩
  · exact .inr hpending

set_option maxRecDepth 10000 in
/-- A class that is passed over by a full run has its document from the one before. -/
theorem stock_document_added :
    ∃ f n t, (stock (.full 5) "Shelf" []).source = .ok (some f) ∧
      n ∈ f.extraction.definitions ∧ n.id = "shop/stock.py:Shelf:1" ∧
      (stock (.full 5) "Shelf" []).run (after [stock (.full 5) "Shelf" []]) = (.ok (), t) ∧
      t.journal.documents.map Document.id = ["shop/stock.py:Shelf:1"] ∧
      ∃ v s, Took [stock (.full 5) "Shelf" [], stock (.full 5) "Shelf" []] v s ∧
        v.Embeds s n := by
  obtain ⟨f, hf, htest⟩ := Surroundings.exists_of_readsTo (w := classOf "Shelf" [])
    "shop/stock.py" "shop" (fun f => f.extraction.definitions.any fun n =>
      n.id = "shop/stock.py:Shelf:1") (by decide +kernel)
  obtain ⟨n, hn, hid⟩ := List.any_eq_true.mp htest
  have hrun : (stock (.full 5) "Shelf" []).run (after [stock (.full 5) "Shelf" []]) = (.ok (), _) :=
    run_eq_of_isOk _ (by decide +kernel)
  refine ⟨f, n, _, hf, hn, of_decide_eq_true hid, hrun, by decide +kernel, ?_⟩
  have hfile : Unclaimed ([stock (.full 5) "Shelf" []] ++ [stock (.full 5) "Shelf" []]) n.id :=
    unclaimed_of_suffix (by decide +kernel) (Surroundings.isRead_of_source hf) hn
  refine (document_added_of_latest [stock (.full 5) "Shelf" []] (stock (.full 5) "Shelf" []) 5 rfl
    f hf _ hrun n hn hfile).2 ?_
  rintro v s ⟨htook, -⟩ -
  obtain ⟨rfl, rfl⟩ := took_singleton_iff.mp htook
  exact ⟨⟨5, rfl⟩, congrArg Prod.fst (run_eq_of_isOk _ (by decide +kernel))⟩

set_option maxRecDepth 10000 in
/-- What was stored without documents gets none from a full run after it. -/
theorem stock_documents_missing :
    ∃ f t, (stock (.full 5) "Shelf" []).source = .ok (some f) ∧
      f.extraction.definitions.map Definition.id = ["shop/stock.py:Shelf:1"] ∧
      (stock (.full 5) "Shelf" []).run (after [stock .graphOnly "Shelf" []]) = (.ok (), t) ∧
      t.journal.documents = [] := by
  obtain ⟨f, hf, htest⟩ := Surroundings.exists_of_readsTo (w := classOf "Shelf" [])
    "shop/stock.py" "shop" (fun f => f.extraction.definitions.map Definition.id =
      ["shop/stock.py:Shelf:1"]) (by decide +kernel)
  exact ⟨f, _, hf, of_decide_eq_true htest, run_eq_of_isOk _ (by decide +kernel),
    List.isEmpty_iff.mp (by decide +kernel)⟩

end CodeAtlas.Ingest
