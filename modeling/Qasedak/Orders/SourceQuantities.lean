import Qasedak.Orders.SourceVisits

/-! # The quantities of the sources

A bundle and a group of PasarGuard users deliver the greatest quantity of their sources, and a
link of a user counts for every source of its group. -/

namespace Qasedak.Orders

open Foundation Store Panels

/-- The outputs that a source contributed. -/
def outputsFor (links : List DeliveredLink) (source : ℕ) : ℕ := links.countP (source ∈ ·.sources)

/-- Every source contributes its quantity, and together they make what the preview expects; a
result is fine only with the full quantity of its sources. -/
structure ContributesQuantities (db : Db) (config : DeliveryConfig) (visits : List PlannedVisit)
    (results : List SourceResult) : Prop where
  each : ∀ source ∈ activeDeliverySources db config.pk,
    outputsFor (results.flatMap (·.links)) source.pk = DeliverySource.units source
  total : (results.flatMap (·.links)).length = (previewPlanDelivery db config).expectedOutputCount
  full : List.Forall₂ (fun (p : PlannedVisit) (r : SourceResult) => r.ok = true →
    ∀ source ∈ p.sources, outputsFor r.links source.pk = DeliverySource.units source) visits results

/-- The clients without a link on the inbound of a source. -/
def missingLinks (platform : Platform) (sources : List DeliverySource) (source : DeliverySource)
    (found : List (List (Inbound × RemoteClient))) : ℕ :=
  (found.flatMap sources.zip).countP fun x =>
    x.1.pk = source.pk ∧ strip (platform.directLink x.2.1 x.2.2) = ""

/-- A visit for the greatest quantity is right for every source: one that asks for less lacks
exactly so many links, PasarGuard serves one source with one link for each user, and the
inventory has one link for each unit. -/
def VisitAnswers.Exact (platform : Platform) (sources : List DeliverySource) :
    VisitAnswers → Prop
  | .clients found => ∀ source ∈ sources,
      missingLinks platform sources source found + DeliverySource.units source =
        groupQuantity sources
  | .users found => sources.length = 1 ∧ ∀ u ∈ found, (usableLinks platform u).length = 1
  | .stock drawn => sources.length = 1 ∧ drawn.countP (strip ·.2 ≠ "") = groupQuantity sources

/-- A planned visit with the answers to it. -/
structure Visit where
  plan : PlannedVisit
  answers : VisitAnswers

def Visit.links (platform : Platform) (x : Visit) : List DeliveredLink :=
  x.answers.links platform x.plan.sources

def visitedSources (visits : List Visit) : List DeliverySource := visits.flatMap (·.plan.sources)

/-- What an error-free result of a visit holds. -/
structure Visited (platform : Platform) (x : Visit) (r : SourceResult) : Prop where
  routine : x.answers.routine = x.plan.routine
  complete : x.answers.Complete platform x.plan.sources
  links : r.links = x.links platform
  ok : r.ok = true ↔ r.links ≠ []

variable {platform : Platform} {now : Instant} {o : Order} {s : Shop} {config : DeliveryConfig}
  {sources : List DeliverySource} {links : List DeliveredLink} {answers : VisitAnswers} {db : Db}

/-! ## The links of a visit -/

theorem outputsFor_append (links links' : List DeliveredLink) (k : ℕ) :
    outputsFor (links ++ links') k = outputsFor links k + outputsFor links' k :=
  List.countP_append

theorem outputsFor_eq_zero {keys : List ℕ} {k : ℕ} (h : ∀ link ∈ links, link.sources ⊆ keys)
    (hk : k ∉ keys) : outputsFor links k = 0 := by
  rw [outputsFor, List.countP_eq_zero]
  intro link hlink hmem
  exact hk (h link hlink (of_decide_eq_true hmem))

theorem sum_indicator (sources : List DeliverySource) (k : ℕ) :
    (sources.map fun t => if t.pk = k then 1 else 0).sum = (sources.map (·.pk)).count k := by
  induction sources with
  | nil => rfl
  | cons t sources ih =>
      rw [List.map_cons, List.sum_cons, ih, List.map_cons, List.count_cons]
      by_cases ht : t.pk = k
      · simp [ht, Nat.add_comm]
      · simp [ht]

/-- The links of one source each, counted by their sources. -/
theorem sum_outputsFor (hnodup : (sources.map (·.pk)).Nodup)
    (h : ∀ link ∈ links, ∃ source ∈ sources, link.sources = [source.pk]) :
    (sources.map fun source => outputsFor links source.pk).sum = links.length := by
  induction links with
  | nil => simp [outputsFor]
  | cons link links ih =>
      obtain ⟨source, hsource, hlink⟩ := h link List.mem_cons_self
      have hrest := ih fun link hlink => h link (List.mem_cons_of_mem _ hlink)
      have hone : (sources.map fun t => if t.pk = source.pk then 1 else 0).sum = 1 := by
        rw [sum_indicator]
        exact List.count_eq_one_of_mem hnodup (List.mem_map_of_mem hsource)
      have hcons (t : DeliverySource) : outputsFor (link :: links) t.pk =
          outputsFor links t.pk + if t.pk = source.pk then 1 else 0 := by
        rw [outputsFor, List.countP_cons, hlink]
        simp [outputsFor]
      simp only [hcons]
      rw [List.sum_map_add, hrest, hone, List.length_cons]

theorem units_pos (source : DeliverySource) : 0 < DeliverySource.units source :=
  Nat.lt_of_lt_of_le Nat.zero_lt_one (le_max_right _ _)

theorem sum_units_congr (h : ∀ source ∈ sources, outputsFor links source.pk =
    DeliverySource.units source) : (sources.map fun source => outputsFor links source.pk).sum =
      (sources.map DeliverySource.units).sum :=
  congrArg List.sum (List.map_congr_left h)

/-- The links of the clients on their inbounds. -/
theorem links_clients (found : List (List (Inbound × RemoteClient))) :
    VisitAnswers.links platform sources (.clients found) =
      (found.flatMap sources.zip).flatMap fun x =>
        linkOf [x.1.pk] (platform.directLink x.2.1 x.2.2) none := by
  rw [List.flatMap_assoc]
  rfl

/-- A source has a link or lacks one on every client. -/
theorem outputsFor_directLinks (pairs : List (DeliverySource × Inbound × RemoteClient)) (k : ℕ) :
    outputsFor (pairs.flatMap fun x => linkOf [x.1.pk] (platform.directLink x.2.1 x.2.2) none) k +
        pairs.countP (fun x => x.1.pk = k ∧ strip (platform.directLink x.2.1 x.2.2) = "") =
      pairs.countP fun x => x.1.pk = k := by
  induction pairs with
  | nil => rfl
  | cons x pairs ih =>
      have hone : outputsFor (linkOf [x.1.pk] (platform.directLink x.2.1 x.2.2) none) k +
          (if x.1.pk = k ∧ strip (platform.directLink x.2.1 x.2.2) = "" then 1 else 0) =
            if x.1.pk = k then 1 else 0 := by
        rw [linkOf, outputsFor]
        by_cases hlink : strip (platform.directLink x.2.1 x.2.2) = ""
        · simp [hlink]
        · by_cases hk : x.1.pk = k
          · simp [hlink, hk]
          · simp [hlink, hk, Ne.symm hk]
      rw [List.flatMap_cons, outputsFor_append, List.countP_cons, List.countP_cons]
      simp only [decide_eq_true_eq]
      omega

theorem countP_zip {A : Type} {client : List A} {source : DeliverySource}
    (hlength : client.length = sources.length) (hnodup : (sources.map (·.pk)).Nodup)
    (hsource : source ∈ sources) : (sources.zip client).countP (·.1.pk = source.pk) = 1 := by
  have hfst : (sources.zip client).map Prod.fst = sources := List.map_fst_zip (hlength ▸ le_rfl)
  have hcount : (sources.zip client).countP (·.1.pk = source.pk) =
      ((sources.zip client).map Prod.fst).countP (·.pk = source.pk) := by
    rw [List.countP_map]
    rfl
  have hone := List.count_eq_one_of_mem hnodup (List.mem_map_of_mem hsource)
  rw [hcount, hfst, ← hone, List.count_eq_countP, List.countP_map]
  refine List.countP_congr fun t _ => ?_
  simp

theorem countP_found {found : List (List (Inbound × RemoteClient))} {source : DeliverySource}
    (hfound : ∀ client ∈ found, client.length = sources.length)
    (hnodup : (sources.map (·.pk)).Nodup) (hsource : source ∈ sources) :
    (found.flatMap sources.zip).countP (·.1.pk = source.pk) = found.length := by
  induction found with
  | nil => rfl
  | cons client found ih =>
      rw [List.flatMap_cons, List.countP_append, List.length_cons,
        countP_zip (hfound client List.mem_cons_self) hnodup hsource,
        ih fun c hc => hfound c (List.mem_cons_of_mem client hc), Nat.add_comm]

theorem mem_links_clients {found : List (List (Inbound × RemoteClient))} {link : DeliveredLink}
    (h : link ∈ VisitAnswers.links platform sources (.clients found)) :
    ∃ source ∈ sources, link.sources = [source.pk] := by
  rw [links_clients] at h
  obtain ⟨x, hx, hlink⟩ := List.mem_flatMap.mp h
  obtain ⟨client, -, hx⟩ := List.mem_flatMap.mp hx
  refine ⟨x.1, (List.of_mem_zip hx).1, ?_⟩
  rw [linkOf] at hlink
  split at hlink
  · cases hlink
  · rw [List.mem_singleton.mp hlink]

theorem mem_links_users {users : List PasarguardUser} {link : DeliveredLink}
    (h : link ∈ VisitAnswers.links platform sources (.users users)) :
    link.sources = sources.map (·.pk) := by
  obtain ⟨user, -, hlink⟩ := List.mem_flatMap.mp h
  obtain ⟨raw, -, rfl⟩ := List.mem_map.mp hlink
  rfl

theorem length_links_users (users : List PasarguardUser) :
    (VisitAnswers.links platform sources (.users users)).length =
      (users.map fun u => (usableLinks platform u).length).sum := by
  rw [VisitAnswers.links, List.length_flatMap]
  simp

theorem mem_links_stock {stock : List (ℕ × String)} {link : DeliveredLink}
    (h : link ∈ VisitAnswers.links platform sources (.stock stock)) :
    link.sources = sources.map (·.pk) := by
  obtain ⟨x, -, hlink⟩ := List.mem_flatMap.mp h
  rw [linkOf] at hlink
  split at hlink
  · cases hlink
  · rw [List.mem_singleton.mp hlink]

theorem length_links_stock (stock : List (ℕ × String)) :
    (VisitAnswers.links platform sources (.stock stock)).length = stock.countP (strip ·.2 ≠ "") := by
  rw [VisitAnswers.links]
  induction stock with
  | nil => rfl
  | cons x stock ih =>
      rw [List.flatMap_cons, List.length_append, ih, List.countP_cons, Nat.add_comm]
      congr 1
      rw [linkOf]
      by_cases hx : strip x.2 = ""
      · simp [hx]
      · simp [hx]

/-- The links of a visit are of its sources. -/
theorem sources_links (answers : VisitAnswers) :
    ∀ link ∈ answers.links platform sources, link.sources ⊆ sources.map (·.pk) := by
  intro link hlink
  cases answers with
  | clients found =>
      obtain ⟨source, hsource, heq⟩ := mem_links_clients hlink
      rw [heq]
      exact List.cons_subset.mpr ⟨List.mem_map_of_mem hsource, List.nil_subset _⟩
  | users users => rw [mem_links_users hlink]; exact List.Subset.refl _
  | stock stock => rw [mem_links_stock hlink]; exact List.Subset.refl _

theorem outputsFor_shared (h : ∀ link ∈ links, link.sources = sources.map (·.pk))
    {source : DeliverySource} (hsource : source ∈ sources) :
    outputsFor links source.pk = links.length := by
  rw [outputsFor, List.countP_eq_length]
  intro link hlink
  rw [h link hlink]
  exact decide_eq_true (List.mem_map_of_mem hsource)

/-! ## One visit -/

/-- The visit delivers its sources' quantities. -/
def DeliversUnits (sources : List DeliverySource) (links : List DeliveredLink) : Prop :=
  (∀ source ∈ sources, outputsFor links source.pk = DeliverySource.units source) ∧
    links.length = (sources.map DeliverySource.units).sum

/-- Shared links are enough for one source only. -/
theorem deliversUnits_shared (h : ∀ link ∈ links, link.sources = sources.map (·.pk))
    (hne : sources ≠ []) :
    DeliversUnits sources links ↔ sources.length = 1 ∧ links.length = groupQuantity sources := by
  cases sources with
  | nil => exact absurd rfl hne
  | cons first rest =>
      have hshared {source : DeliverySource} (hsource : source ∈ first :: rest) :=
        outputsFor_shared h hsource
      constructor
      · rintro ⟨heach, htotal⟩
        have hfirst := heach first List.mem_cons_self
        rw [hshared List.mem_cons_self] at hfirst
        cases rest with
        | nil => exact ⟨rfl, hfirst⟩
        | cons second rest =>
            have hsecond := units_pos second
            simp only [List.map_cons, List.sum_cons] at htotal
            omega
      · rintro ⟨hone, hlength⟩
        obtain rfl : rest = [] := List.length_eq_zero_iff.mp (Nat.succ.inj hone)
        refine ⟨fun source hsource => ?_, ?_⟩
        · rw [hshared hsource, List.mem_singleton.mp hsource]
          exact hlength
        · rw [hlength]
          rfl

theorem sum_length_iff {users : List PasarguardUser} {links : PasarguardUser → List String}
    (h : ∀ u ∈ users, links u ≠ []) :
    (users.map fun u => (links u).length).sum = users.length ↔
      ∀ u ∈ users, (links u).length = 1 := by
  induction users with
  | nil => simp
  | cons user users ih =>
      have hrest := ih fun u hu => h u (List.mem_cons_of_mem user hu)
      have hge : users.length ≤ (users.map fun u => (links u).length).sum := by
        have hall : ∀ n ∈ users.map fun u => (links u).length, 1 ≤ n := by
          intro n hn
          obtain ⟨u, hu, rfl⟩ := List.mem_map.mp hn
          exact List.length_pos_iff.mpr (h u (List.mem_cons_of_mem user hu))
        simpa using List.card_nsmul_le_sum (users.map fun u => (links u).length) 1 hall
      have hpos : 0 < (links user).length := List.length_pos_iff.mpr (h user List.mem_cons_self)
      rw [List.map_cons, List.sum_cons, List.length_cons, List.forall_mem_cons, ← hrest]
      omega

theorem exact_clients_iff {found : List (List (Inbound × RemoteClient))}
    (hnodup : (sources.map (·.pk)).Nodup)
    (h : (VisitAnswers.clients found).Complete platform sources) :
    (VisitAnswers.clients found).Exact platform sources ↔ ∀ source ∈ sources,
      outputsFor (VisitAnswers.links platform sources (.clients found)) source.pk =
        DeliverySource.units source := by
  refine forall₂_congr fun source hsource => ?_
  have hcount := @outputsFor_directLinks platform (found.flatMap sources.zip) source.pk
  rw [countP_found (fun client hc => (h.2 client hc).length_eq.symm) hnodup hsource, h.1,
    ← links_clients] at hcount
  change missingLinks platform sources source found + _ = _ ↔ _
  rw [missingLinks]
  omega

theorem exact_iff (hnodup : (sources.map (·.pk)).Nodup) (hne : sources ≠ [])
    (h : answers.Complete platform sources) :
    answers.Exact platform sources ↔ DeliversUnits sources (answers.links platform sources) := by
  cases answers with
  | clients found =>
      rw [exact_clients_iff hnodup h, DeliversUnits]
      refine ⟨fun heach => ⟨heach, ?_⟩, And.left⟩
      rw [← sum_outputsFor hnodup fun link => @mem_links_clients platform sources found link]
      exact sum_units_congr heach
  | users users =>
      rw [deliversUnits_shared (fun link => mem_links_users) hne, length_links_users, ← h.1,
        sum_length_iff h.2]
      rfl
  | stock stock =>
      rw [deliversUnits_shared (fun link => mem_links_stock) hne, length_links_stock]
      rfl

/-- No visit makes more links than its sources are counted for. -/
theorem length_links_le (hnodup : (sources.map (·.pk)).Nodup) (hne : sources ≠ [])
    (heach : ∀ source ∈ sources,
      outputsFor (answers.links platform sources) source.pk = DeliverySource.units source) :
    (answers.links platform sources).length ≤ (sources.map DeliverySource.units).sum := by
  have hshared (links : List DeliveredLink)
      (h : ∀ link ∈ links, link.sources = sources.map (·.pk))
      (heach : ∀ source ∈ sources, outputsFor links source.pk = DeliverySource.units source) :
      links.length ≤ (sources.map DeliverySource.units).sum := by
    obtain ⟨first, hfirst⟩ := List.exists_mem_of_ne_nil sources hne
    rw [← outputsFor_shared h hfirst, heach first hfirst]
    exact List.single_le_sum (fun _ _ => Nat.zero_le _) _ (List.mem_map_of_mem hfirst)
  cases answers with
  | clients found =>
      rw [← sum_outputsFor hnodup fun link => @mem_links_clients platform sources found link,
        sum_units_congr heach]
  | users users => exact hshared _ (fun link => mem_links_users) heach
  | stock stock => exact hshared _ (fun link => mem_links_stock) heach

/-! ## All visits -/

theorem outputsFor_visits_eq_zero {visits : List Visit} {k : ℕ}
    (hk : k ∉ (visitedSources visits).map (·.pk)) :
    outputsFor (visits.flatMap (Visit.links platform)) k = 0 := by
  refine @outputsFor_eq_zero _ ((visitedSources visits).map (·.pk)) k ?_ hk
  intro link hlink n hn
  obtain ⟨x, hx, hlink⟩ := List.mem_flatMap.mp hlink
  obtain ⟨source, hsource, rfl⟩ := List.mem_map.mp (sources_links x.answers link hlink hn)
  exact List.mem_map_of_mem (List.mem_flatMap.mpr ⟨x, hx, hsource⟩)

/-- Visits of different sources contribute on their own. -/
theorem each_cons {x : Visit} {visits : List Visit}
    (hnodup : ((visitedSources (x :: visits)).map (·.pk)).Nodup) :
    (∀ source ∈ visitedSources (x :: visits),
        outputsFor ((x :: visits).flatMap (Visit.links platform)) source.pk = DeliverySource.units source) ↔
      (∀ source ∈ x.plan.sources, outputsFor (x.links platform) source.pk = DeliverySource.units source) ∧
        ∀ source ∈ visitedSources visits,
          outputsFor (visits.flatMap (Visit.links platform)) source.pk = DeliverySource.units source := by
  rw [visitedSources, List.flatMap_cons, List.map_append] at hnodup
  have hdisjoint := List.disjoint_of_nodup_append hnodup
  have hhead {source : DeliverySource} (hsource : source ∈ x.plan.sources) :
      outputsFor ((x :: visits).flatMap (Visit.links platform)) source.pk = outputsFor (x.links platform) source.pk := by
    rw [List.flatMap_cons, outputsFor_append, outputsFor_visits_eq_zero 
      fun hmem => hdisjoint (List.mem_map_of_mem hsource) hmem, Nat.add_zero]
  have htail {source : DeliverySource} (hsource : source ∈ visitedSources visits) :
      outputsFor ((x :: visits).flatMap (Visit.links platform)) source.pk =
        outputsFor (visits.flatMap (Visit.links platform)) source.pk := by
    have hzero : outputsFor (x.links platform) source.pk = 0 :=
      outputsFor_eq_zero (sources_links x.answers) fun hmem =>
        hdisjoint hmem (List.mem_map_of_mem hsource)
    rw [List.flatMap_cons, outputsFor_append, hzero, Nat.zero_add]
  rw [visitedSources, List.flatMap_cons, List.forall_mem_append]
  refine and_congr (forall₂_congr fun source hsource => ?_) (forall₂_congr fun source hsource => ?_)
  · rw [hhead hsource]
  · rw [htail hsource]

theorem length_visits_le {visits : List Visit}
    (hnodup : ((visitedSources visits).map (·.pk)).Nodup)
    (hne : ∀ x ∈ visits, x.plan.sources ≠ [])
    (heach : ∀ source ∈ visitedSources visits,
      outputsFor (visits.flatMap (Visit.links platform)) source.pk = DeliverySource.units source) :
    (visits.flatMap (Visit.links platform)).length ≤
      ((visitedSources visits).map DeliverySource.units).sum := by
  induction visits with
  | nil => simp
  | cons x visits ih =>
      obtain ⟨hhead, htail⟩ := (each_cons hnodup).mp heach
      rw [visitedSources, List.flatMap_cons, List.map_append] at hnodup
      have hfirst := length_links_le hnodup.of_append_left (hne x List.mem_cons_self) hhead
      have hrest := ih hnodup.of_append_right (fun y hy => hne y (List.mem_cons_of_mem x hy)) htail
      rw [visitedSources, List.flatMap_cons, List.flatMap_cons, List.length_append,
        List.map_append, List.sum_append]
      exact Nat.add_le_add hfirst hrest

theorem deliversUnits_visits {visits : List Visit}
    (hnodup : ((visitedSources visits).map (·.pk)).Nodup)
    (hne : ∀ x ∈ visits, x.plan.sources ≠ []) (h : ∀ x ∈ visits, x.answers.Complete platform x.plan.sources) :
    DeliversUnits (visitedSources visits) (visits.flatMap (Visit.links platform)) ↔
      ∀ x ∈ visits, x.answers.Exact platform x.plan.sources := by
  induction visits with
  | nil => simp [DeliversUnits, visitedSources]
  | cons x visits ih =>
      have hsplit := @each_cons platform x visits hnodup
      rw [visitedSources, List.flatMap_cons, List.map_append] at hnodup
      have hnex := hne x List.mem_cons_self
      have hne' := fun y hy => hne y (List.mem_cons_of_mem x hy)
      have hrest := ih hnodup.of_append_right hne' fun y hy => h y (List.mem_cons_of_mem x hy)
      have hx := exact_iff hnodup.of_append_left hnex (h x List.mem_cons_self)
      have hsum : ((visitedSources (x :: visits)).map DeliverySource.units).sum =
          (x.plan.sources.map DeliverySource.units).sum +
            ((visitedSources visits).map DeliverySource.units).sum := by
        rw [visitedSources, List.flatMap_cons, List.map_append, List.sum_append]
        rfl
      rw [List.forall_mem_cons, hx, ← hrest, DeliversUnits, hsplit, hsum, List.flatMap_cons,
        List.length_append]
      constructor
      · rintro ⟨⟨hhead, htail⟩, htotal⟩
        have hfirst := length_links_le hnodup.of_append_left hnex hhead
        have hlater := length_visits_le hnodup.of_append_right hne' htail
        refine ⟨⟨hhead, ?_⟩, htail, ?_⟩
        · change (x.links platform).length = _
          change (x.links platform).length ≤ _ at hfirst
          omega
        · change (x.links platform).length ≤ _ at hfirst
          omega
      · rintro ⟨⟨hhead, hfirst⟩, htail, hlater⟩
        exact ⟨⟨hhead, htail⟩, congrArg₂ (· + ·) hfirst hlater⟩

theorem links_of_visited {visits : List Visit} {results : List SourceResult}
    (h : List.Forall₂ (Visited platform) visits results) :
    results.flatMap (·.links) = visits.flatMap (Visit.links platform) := by
  induction h with
  | nil => rfl
  | cons hx _ ih => rw [List.flatMap_cons, List.flatMap_cons, hx.links, ih]

theorem complete_of_visited {visits : List Visit} {results : List SourceResult}
    (h : List.Forall₂ (Visited platform) visits results) :
    ∀ x ∈ visits, x.answers.Complete platform x.plan.sources := by
  induction h with
  | nil => simp
  | cons hx _ ih => exact List.forall_mem_cons.mpr ⟨hx.complete, ih⟩

/-- Where every source has its quantity, so has every result. -/
theorem full_of_each {visits : List Visit} {results : List SourceResult}
    (hnodup : ((visitedSources visits).map (·.pk)).Nodup)
    (h : List.Forall₂ (Visited platform) visits results)
    (heach : ∀ source ∈ visitedSources visits,
      outputsFor (visits.flatMap (Visit.links platform)) source.pk = DeliverySource.units source) :
    List.Forall₂ (fun (p : PlannedVisit) (r : SourceResult) => r.ok = true →
      ∀ source ∈ p.sources, outputsFor r.links source.pk = DeliverySource.units source)
      (visits.map (·.plan)) results := by
  induction h with
  | nil => exact .nil
  | cons hx hrest ih =>
      obtain ⟨hhead, htail⟩ := (each_cons hnodup).mp heach
      rw [visitedSources, List.flatMap_cons, List.map_append] at hnodup
      refine .cons (fun _ source hsource => ?_) (ih hnodup.of_append_right htail)
      rw [hx.links]
      exact hhead source hsource

/-- All the sources are visited: the quantities are right where every visit is exact. -/
theorem contributesQuantities_iff {visits : List Visit} {results : List SourceResult}
    (h : List.Forall₂ (Visited platform) visits results) (hne : ∀ x ∈ visits, x.plan.sources ≠ [])
    (hperm : (visitedSources visits).Perm (activeDeliverySources db config.pk)) :
    ContributesQuantities db config (visits.map (·.plan)) results ↔
      ∀ x ∈ visits, x.answers.Exact platform x.plan.sources := by
  have hnodup : ((visitedSources visits).map (·.pk)).Nodup :=
    (hperm.map _).nodup_iff.mpr (nodup_activeDeliverySources db config.pk)
  have hcomplete := complete_of_visited h
  have hsum := (hperm.map DeliverySource.units).sum_eq
  rw [← deliversUnits_visits hnodup hne hcomplete, DeliversUnits, hsum]
  constructor
  · rintro ⟨heach, htotal, -⟩
    rw [links_of_visited h] at heach htotal
    exact ⟨fun source hsource => heach source (hperm.subset hsource), htotal⟩
  · rintro ⟨heach, htotal⟩
    rw [← links_of_visited h] at heach htotal
    refine ⟨fun source hsource => heach source (hperm.symm.subset hsource), htotal, ?_⟩
    rw [links_of_visited h] at heach
    exact full_of_each hnodup h heach

/-! ## The delivery -/

/-- No source waits behind the others. -/
def OneKind (sources : List DeliverySource) : Prop :=
  sources.filter (·.isFallback) = [] ∨ sources.filter (!·.isFallback) = []

theorem sources_perm_of_plan {visits : List Visit}
    (h : visits.map (·.plan) = plannedVisits db sources) :
    (visitedSources visits).Perm sources ∧ ∀ x ∈ visits, x.plan.sources ≠ [] := by
  have hsources : visitedSources visits = (plannedVisits db sources).flatMap (·.sources) := by
    rw [← h, List.flatMap_map]
    rfl
  refine ⟨hsources ▸ sources_plannedVisits db sources, fun x hx => ?_⟩
  exact ne_nil_of_mem_plannedVisits (h ▸ List.mem_map_of_mem hx)

/-- Results without errors have their visits. -/
theorem visits_of_answered {planned : List PlannedVisit} {results : List SourceResult}
    (h : List.Forall₂ (Answered platform) planned results) (herrors : ∀ r ∈ results, r.errors = []) :
    ∃ visits : List Visit, visits.map (·.plan) = planned ∧
      List.Forall₂ (Visited platform) visits results := by
  induction h with
  | nil => exact ⟨[], rfl, .nil⟩
  | cons hr _ ih =>
      rename_i p r planned results _
      obtain ⟨visits, hplan, hvisits⟩ := ih fun r hr => herrors r (List.mem_cons_of_mem _ hr)
      obtain ⟨answers, hroutine, hcomplete, hlinks, hok⟩ := hr (herrors r List.mem_cons_self)
      refine ⟨⟨p, answers⟩ :: visits, ?_, .cons ⟨hroutine, hcomplete, hlinks, hok⟩ hvisits⟩
      rw [List.map_cons, hplan]

/-- A source that nothing delivers for goes without its quantity. -/
theorem not_contributes {visits : List PlannedVisit} {results : List SourceResult}
    {source : DeliverySource} (hsource : source ∈ activeDeliverySources db config.pk)
    (hnone : outputsFor (results.flatMap (·.links)) source.pk = 0) :
    ¬ ContributesQuantities db config visits results := by
  rintro ⟨heach, -, -⟩
  have hunits := heach source hsource
  have hpos := units_pos source
  omega

theorem pk_not_mem_filter {p : DeliverySource → Bool} {source : DeliverySource}
    (hsource : source ∈ activeDeliverySources db config.pk) (hp : p source = false) :
    source.pk ∉ ((activeDeliverySources db config.pk).filter p).map (·.pk) := by
  intro hmem
  obtain ⟨t, ht, hpk⟩ := List.mem_map.mp hmem
  obtain ⟨ht, htp⟩ := List.mem_filter.mp ht
  obtain rfl : t = source :=
    List.inj_on_of_nodup_map (nodup_activeDeliverySources db config.pk) ht hsource hpk
  rw [hp] at htp
  cases htp

/-- The sources of a kind deliver nothing for the others. -/
theorem outputsFor_other {p : DeliverySource → Bool} {visits : List Visit} {source : DeliverySource}
    (hplan : visits.map (·.plan) =
      plannedVisits db ((activeDeliverySources db config.pk).filter p))
    (hsource : source ∈ activeDeliverySources db config.pk) (hp : p source = false) :
    outputsFor (visits.flatMap (Visit.links platform)) source.pk = 0 := by
  refine outputsFor_visits_eq_zero fun hmem => pk_not_mem_filter hsource hp ?_
  exact ((sources_perm_of_plan hplan).1.map (·.pk)).subset hmem

theorem plannedVisits_nil (db : Db) : plannedVisits db [] = [] := rfl

theorem plannedVisits_kept {db' : Db} (h : db'.withoutDeliveries = db.withoutDeliveries)
    (sources : List DeliverySource) : plannedVisits db' sources = plannedVisits db sources := by
  have hpanel (source : DeliverySource) : sourcePanel db' source = sourcePanel db source := by
    rw [sourcePanel_withoutServices]
    change sourcePanel db'.withoutDeliveries source = _
    rw [h, sourcePanel_withoutServices db]
    rfl
  have hgroup : groupVisits db' = groupVisits db := by
    funext group
    cases group with
    | nil => rfl
    | cons first rest => simp only [groupVisits, hpanel]
  simp only [plannedVisits, groupByPanel, hpanel, hgroup]

/-- The visits of a delivery; the fallbacks follow where no other source delivered. -/
structure DeliveryVisits (platform : Platform) (db : Db) (sources : List DeliverySource)
    (visits : List Visit) (results : List SourceResult) : Prop where
  plan : visits.map (·.plan) = plannedVisits db (sources.filter (!·.isFallback)) ∨
    visits.map (·.plan) = plannedVisits db (sources.filter (!·.isFallback)) ++
      plannedVisits db (sources.filter (·.isFallback))
  visited : List.Forall₂ (Visited platform) visits results

theorem links_of_failed {visits : List Visit} {results : List SourceResult}
    (h : List.Forall₂ (Visited platform) visits results) (hfailed : ∀ r ∈ results, r.ok = false) :
    results.flatMap (·.links) = [] := by
  induction h with
  | nil => rfl
  | cons hx _ ih =>
      rename_i x r visits results _
      have hlinks : r.links = [] := by
        by_contra hne
        have hok := hx.ok.mpr hne
        rw [hfailed r List.mem_cons_self] at hok
        cases hok
      rw [List.flatMap_cons, hlinks, ih fun r hr => hfailed r (List.mem_cons_of_mem _ hr)]
      rfl

theorem failed_of_shouldUseFallback {results : List SourceResult}
    (h : shouldUseFallback results = true) (herrors : ∀ r ∈ results, r.errors = []) :
    ∀ r ∈ results, r.ok = false := by
  intro r hr
  rw [shouldUseFallback, Bool.or_eq_true, Bool.or_eq_true] at h
  rcases h with (h | h) | h
  · rw [of_decide_eq_true h] at hr
    cases hr
  · rw [Bool.not_eq_true', List.any_eq_false] at h
    exact Bool.eq_false_of_not_eq_true (h r hr)
  · obtain ⟨t, ht, hne⟩ := List.any_eq_true.mp h
    exact absurd (herrors t ht) (of_decide_eq_true hne)

/-- The fallbacks ran after sources that delivered nothing. -/
theorem contributes_with_fallbacks {primary fallback : List Visit}
    {results more : List SourceResult} (hprimary : List.Forall₂ (Visited platform) primary results)
    (hfallback : List.Forall₂ (Visited platform) fallback more)
    (hplan : primary.map (·.plan) =
      plannedVisits db ((activeDeliverySources db config.pk).filter (!·.isFallback)))
    (hplan' : fallback.map (·.plan) =
      plannedVisits db ((activeDeliverySources db config.pk).filter (·.isFallback)))
    (hfailed : ∀ r ∈ results, r.ok = false) :
    ContributesQuantities db config ((primary ++ fallback).map (·.plan)) (results ++ more) ↔
      OneKind (activeDeliverySources db config.pk) ∧
        ∀ x ∈ primary ++ fallback, x.answers.Exact platform x.plan.sources := by
  obtain ⟨hperm, hne⟩ := sources_perm_of_plan hplan
  obtain ⟨hperm', hne'⟩ := sources_perm_of_plan hplan'
  have hall : (visitedSources (primary ++ fallback)).Perm (activeDeliverySources db config.pk) := by
    rw [visitedSources, List.flatMap_append]
    refine ((hperm.append hperm').trans List.perm_append_comm).trans ?_
    exact List.filter_append_perm (fun source : DeliverySource => source.isFallback) _
  have hiff := contributesQuantities_iff (List.rel_append hprimary hfallback)
    (List.forall_mem_append.mpr ⟨hne, hne'⟩) hall
  rw [hiff]
  refine ⟨fun hexact => ⟨?_, hexact⟩, And.right⟩
  by_contra hmixed
  obtain ⟨source, hsource⟩ := List.exists_mem_of_ne_nil _ (not_or.mp hmixed).2
  obtain ⟨hsource, hkind⟩ := List.mem_filter.mp hsource
  rw [Bool.not_eq_true'] at hkind
  refine not_contributes hsource ?_ (hiff.mpr hexact)
  rw [List.flatMap_append, links_of_failed hprimary hfailed, List.nil_append,
    links_of_visited hfallback]
  exact outputsFor_other hplan' hsource hkind

/-- The fallbacks did not run. -/
theorem contributes_without_fallbacks {visits : List Visit} {results : List SourceResult}
    (hvisits : List.Forall₂ (Visited platform) visits results)
    (hplan : visits.map (·.plan) =
      plannedVisits db ((activeDeliverySources db config.pk).filter (!·.isFallback)))
    (hunused : ¬ ((activeDeliverySources db config.pk).filter (·.isFallback) ≠ [] ∧
      shouldUseFallback results = true)) :
    ContributesQuantities db config (visits.map (·.plan)) results ↔
      OneKind (activeDeliverySources db config.pk) ∧
        ∀ x ∈ visits, x.answers.Exact platform x.plan.sources := by
  obtain ⟨hperm, hne⟩ := sources_perm_of_plan hplan
  by_cases hnone : (activeDeliverySources db config.pk).filter (·.isFallback) = []
  · have hall : (activeDeliverySources db config.pk).filter (!·.isFallback) =
        activeDeliverySources db config.pk := by
      refine List.filter_eq_self.mpr fun source hsource => ?_
      have hkind := List.filter_eq_nil_iff.mp hnone source hsource
      rw [Bool.eq_false_of_not_eq_true hkind]
      rfl
    rw [contributesQuantities_iff hvisits hne (hall ▸ hperm)]
    exact ⟨fun hexact => ⟨.inl hnone, hexact⟩, And.right⟩
  · obtain ⟨source, hsource⟩ := List.exists_mem_of_ne_nil _ hnone
    obtain ⟨hsource, hkind⟩ := List.mem_filter.mp hsource
    have hlost : ¬ ContributesQuantities db config (visits.map (·.plan)) results := by
      refine not_contributes hsource ?_
      rw [links_of_visited hvisits]
      exact outputsFor_other hplan hsource (by rw [hkind]; rfl)
    refine ⟨fun h => absurd h hlost, ?_⟩
    rintro ⟨hkinds, -⟩
    rcases hkinds with hkinds | hkinds
    · exact absurd hkinds hnone
    · rw [hkinds, plannedVisits_nil, List.map_eq_nil_iff] at hplan
      subst hplan
      cases hvisits
      exact absurd ⟨hnone, rfl⟩ hunused

/-- A paid order of a plan with two sources on one panel, for one link and for two. -/
def unevenShop : Shop where
  db :=
    { orders := Table.empty.put
        { pk := 1, publicId := "o1", orderTrackingCode := "T1", plan := 3, isPaid := true }
      sms := .empty
      clients := .empty
      inbounds := (Table.empty.put { pk := 5, panel := 4, inboundId := 7 }).put
        { pk := 6, panel := 4, inboundId := 8 }
      panels := Table.empty.put { pk := 4, capabilityProfile := .modernMultiNode }
      plans := Table.empty.put
        { pk := 3, price := 90, trafficLimitBytes := 1000, durationDays := 30, deviceLimit := 2 }
      stores := .empty
      automations := .empty
      deliveryConfigs := Table.empty.put { pk := 9, plan := 3, deliveryMode := .directLinks }
      deliverySources := (Table.empty.put
        { pk := 11, deliveryConfig := 9, sourceType := .panelInbound, inbound := some 5 }).put
        { pk := 12, deliveryConfig := 9, sourceType := .panelInbound, inbound := some 6,
          quantity := 2 } }
  remote := {}

def unevenConfig : DeliveryConfig := { pk := 9, plan := 3, deliveryMode := .directLinks }

def unevenPlatform : Platform :=
  .ofTables
    [("qasedak|paid-multi-inbound-provisioning|o1|T1|4|4:local:7,4:local:8|1",
        "7e70add6-eaa7-5c53-abda-f106bb3146d4"),
      ("qasedak|paid-multi-inbound-provisioning|o1|T1|4|4:local:7,4:local:8|2",
        "2a4a29ad-289a-50f6-8f99-46649257af7b")]
    [("sub:qasedak|paid-multi-inbound-provisioning|o1|T1|4|4:local:7,4:local:8|1",
        "c501d120db301eda7be51a901484601798273c6397ce5a33cb920f686fc324b8"),
      ("sub:qasedak|paid-multi-inbound-provisioning|o1|T1|4|4:local:7,4:local:8|2",
        "24254a79ffbc0f68de1927b97a084f66d0d64d6c2923c14ad9328591ca5c5d58")]

/-- The bundle of the two sources, once for each unit of the greater quantity. -/
def unevenResult : SourceResult where
  required := true
  ok := true
  links :=
    [{ rawLink := "vless://7e70add6-eaa7-5c53-abda-f106bb3146d4", sources := [11] },
      { rawLink := "vless://7e70add6-eaa7-5c53-abda-f106bb3146d4", sources := [12] },
      { rawLink := "vless://2a4a29ad-289a-50f6-8f99-46649257af7b", sources := [11] },
      { rawLink := "vless://2a4a29ad-289a-50f6-8f99-46649257af7b", sources := [12] }]
  clients := [0, 1]

end Qasedak.Orders
