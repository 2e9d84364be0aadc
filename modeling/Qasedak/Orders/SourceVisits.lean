import Qasedak.Orders.ReadyDelivery
import Qasedak.Orders.DeliveredStock

/-! # What the sources of a plan answer

A delivery visits its sources in groups: one by one, as the bundle of a panel, as the groups of
PasarGuard users, and from the inventory. The links of a result are those of the answers of its
visit. -/

namespace Qasedak.Orders

open Foundation Store Panels

/-! ## The preview -/

/-- What `preview_plan_delivery` returns. -/
structure DeliveryPreview where
  deliveryConfigId : ℕ
  deliveryMode : DeliveryMode
  sourceCount : ℕ
  panelSourceCount : ℕ
  inventorySourceCount : ℕ
  expectedOutputCount : ℕ
  deriving DecidableEq, Repr

/-- `preview_plan_delivery`. -/
def previewPlanDelivery (db : Db) (config : DeliveryConfig) : DeliveryPreview :=
  let sources := activeDeliverySources db config.pk
  { deliveryConfigId := config.pk
    deliveryMode := config.deliveryMode
    sourceCount := sources.length
    panelSourceCount := sources.countP (·.sourceType = .panelInbound)
    inventorySourceCount := sources.countP (·.sourceType = .inventoryPool)
    expectedOutputCount := (sources.map DeliverySource.units).sum }

/-! ## Visits -/

/-- How a group of sources is executed. -/
inductive SourceRoutine where
  | clients
  | users
  | inventory
  deriving DecidableEq, Repr

structure PlannedVisit where
  routine : SourceRoutine
  sources : List DeliverySource

/-- The visits of a group of `_execute_panel_sources`. -/
def groupVisits (db : Db) : List DeliverySource → List PlannedVisit
  | [] => []
  | first :: rest =>
      let panel := sourcePanel db first
      if panel.map (·.family) = some .pasarguard then [⟨.users, first :: rest⟩]
      else if rest ≠ [] ∧ panel.map (·.capabilityProfile) = some .modernMultiNode then
        [⟨.clients, first :: rest⟩]
      else (first :: rest).map fun source => ⟨.clients, [source]⟩

/-- The visits of `_execute_sources`. -/
def plannedVisits (db : Db) (sources : List DeliverySource) : List PlannedVisit :=
  (groupByPanel db (sources.filter (·.sourceType = .panelInbound))).flatMap (groupVisits db) ++
    (sources.filter (·.sourceType = .inventoryPool)).map fun source => ⟨.inventory, [source]⟩

theorem sources_groupVisits (db : Db) (group : List DeliverySource) :
    (groupVisits db group).flatMap (·.sources) = group := by
  cases group with
  | nil => rfl
  | cons first rest =>
      simp only [groupVisits]
      split
      · simp
      · split
        · simp
        · simp [List.flatMap_map]

theorem flatten_groups_perm {key : DeliverySource → Option ℕ} {keys : List (Option ℕ)}
    {sources : List DeliverySource} (hkeys : keys.Nodup)
    (hall : ∀ source ∈ sources, key source ∈ keys) :
    (keys.map fun k => sources.filter fun s => key s = k).flatten.Perm sources := by
  induction keys generalizing sources with
  | nil =>
      have hnone : sources = [] := List.eq_nil_iff_forall_not_mem.mpr fun source hsource =>
        absurd (hall source hsource) List.not_mem_nil
      simp [hnone]
  | cons k keys ih =>
      have hfresh : k ∉ keys := (List.nodup_cons.mp hkeys).1
      have hrest := @ih (sources.filter (key · ≠ k)) hkeys.of_cons ?_
      · have hsame : (keys.map fun j => (sources.filter (key · ≠ k)).filter (key · = j)) =
            keys.map fun j => sources.filter (key · = j) := by
          refine List.map_congr_left fun j hj => ?_
          rw [List.filter_filter]
          refine List.filter_congr fun source _ => ?_
          by_cases hkey : key source = j
          · have hne : j ≠ k := fun h => hfresh (h ▸ hj)
            simp [hkey, hne]
          · simp [hkey]
        rw [hsame] at hrest
        rw [List.map_cons, List.flatten_cons]
        have hsplit := List.filter_append_perm (fun source => decide (key source = k)) sources
        refine (List.Perm.append_left _ hrest).trans (List.Perm.trans ?_ hsplit)
        simp
      · intro source hsource
        obtain ⟨hsource, hne⟩ := List.mem_filter.mp hsource
        exact (List.mem_cons.mp (hall source hsource)).resolve_left (of_decide_eq_true hne)

theorem flatten_groupByPanel (db : Db) (sources : List DeliverySource) :
    (groupByPanel db sources).flatten.Perm sources := by
  refine flatten_groups_perm (List.nodup_reverse.mpr (List.nodup_dedup _)) fun source hsource => ?_
  rw [List.mem_reverse, List.mem_dedup, List.mem_reverse]
  exact List.mem_map_of_mem hsource

/-- Every source has its visit. -/
theorem sources_plannedVisits (db : Db) (sources : List DeliverySource) :
    ((plannedVisits db sources).flatMap (·.sources)).Perm sources := by
  have hgroups : ((groupByPanel db (sources.filter (·.sourceType = .panelInbound))).flatMap
      (groupVisits db)).flatMap (·.sources) =
        (groupByPanel db (sources.filter (·.sourceType = .panelInbound))).flatten := by
    rw [List.flatMap_assoc, List.flatten_eq_flatMap]
    exact congrArg (List.flatMap · _) (funext fun group => sources_groupVisits db group)
  have hstock : sources.filter (·.sourceType = .inventoryPool) =
      sources.filter (fun source => !decide (source.sourceType = .panelInbound)) := by
    refine List.filter_congr fun source _ => ?_
    cases source.sourceType <;> rfl
  rw [plannedVisits, List.flatMap_append, hgroups, List.flatMap_map, List.flatMap_singleton', hstock]
  exact ((flatten_groupByPanel db _).append_right _).trans (List.filter_append_perm _ _)

theorem ne_nil_of_mem_plannedVisits {db : Db} {sources : List DeliverySource} {p : PlannedVisit}
    (hp : p ∈ plannedVisits db sources) : p.sources ≠ [] := by
  rcases List.mem_append.mp hp with hp | hp
  · obtain ⟨group, -, hp⟩ := List.mem_flatMap.mp hp
    cases group with
    | nil => cases hp
    | cons first rest =>
        simp only [groupVisits] at hp
        split at hp
        · rw [List.mem_singleton.mp hp]
          exact List.cons_ne_nil first rest
        · split at hp
          · rw [List.mem_singleton.mp hp]
            exact List.cons_ne_nil first rest
          · obtain ⟨source, -, rfl⟩ := List.mem_map.mp hp
            exact List.cons_ne_nil source []
  · obtain ⟨source, -, rfl⟩ := List.mem_map.mp hp
    exact List.cons_ne_nil source []

/-- The answers to a visit: the clients that the panel verified, each on the inbounds of the
sources; the PasarGuard users; the keys of the allocations, with the links of their assets. -/
inductive VisitAnswers where
  | clients (found : List (List (Inbound × RemoteClient)))
  | users (found : List PasarguardUser)
  | stock (drawn : List (ℕ × String))

def VisitAnswers.routine : VisitAnswers → SourceRoutine
  | .clients _ => .clients
  | .users _ => .users
  | .stock _ => .inventory

/-- The link of some sources, if there is one. -/
def linkOf (sources : List ℕ) (text : String) (allocation : Option ℕ) : List DeliveredLink :=
  if strip text = "" then []
  else [{ rawLink := strip text, sources := sources, allocation := allocation }]

/-- The native links of a user that are not blank. -/
def usableLinks (platform : Platform) (u : PasarguardUser) : List String :=
  ((platform.nativeLinks u).map strip).filter (· ≠ "")

/-- The links that answers make for sources. -/
def VisitAnswers.links (platform : Platform) (sources : List DeliverySource) :
    VisitAnswers → List DeliveredLink
  | .clients found => found.flatMap fun client => (sources.zip client).flatMap fun x =>
      linkOf [x.1.pk] (platform.directLink x.2.1 x.2.2) none
  | .users found => found.flatMap fun u => (usableLinks platform u).map fun link =>
      { rawLink := link, sources := sources.map (·.pk) }
  | .stock drawn => drawn.flatMap fun x => linkOf (sources.map (·.pk)) x.2 (some x.1)

/-- Every call was answered: for all the clients that the quantities ask for, on every inbound,
for users with links, and for all the units of the inventory. -/
def VisitAnswers.Complete (platform : Platform) (sources : List DeliverySource) :
    VisitAnswers → Prop
  | .clients found => found.length = groupQuantity sources ∧ ∀ client ∈ found,
      List.Forall₂ (fun (source : DeliverySource) x => source.inbound = some x.1.pk) sources client
  | .users found => found.length = groupQuantity sources ∧ ∀ u ∈ found, usableLinks platform u ≠ []
  | .stock drawn => groupQuantity sources ≤ drawn.length

/-- A result without errors comes from answers to all the calls of its visit. -/
def Answered (platform : Platform) (p : PlannedVisit) (r : SourceResult) : Prop :=
  r.errors = [] → ∃ answers : VisitAnswers, answers.routine = p.routine ∧
    answers.Complete platform p.sources ∧ r.links = answers.links platform p.sources ∧
    (r.ok = true ↔ r.links ≠ [])

variable {platform : Platform} {now : Instant} {o : Order} {s : Shop} {source : DeliverySource}
  {sources : List DeliverySource} {results : List SourceResult}

/-! ## One visit -/

/-- The clients of a visit answer one by one. -/
theorem wp_deliverClients_answers {A : Type} {f : A → List DeliveredLink} {K : A → Prop}
    {indices : List ℕ} {client : ℕ → ShopM (List DeliveredLink × ℕ)}
    (hclient : ∀ i s, Prog.wp (client i) (fun r _ => ∃ a, K a ∧ r.1 = f a)
      (fun _ _ => True) s) :
    Prog.wp (deliverClients indices client)
      (fun r _ => ∃ answers : List A, answers.length = indices.length ∧
        (∀ a ∈ answers, K a) ∧ r.1 = answers.flatMap f)
      (fun _ _ => True) s := by
  have hstart : ∃ answers : List A, answers.length + indices.length = indices.length ∧
      (∀ a ∈ answers, K a) ∧ (([], []) : List DeliveredLink × List ℕ).1 = answers.flatMap f :=
    ⟨[], by simp, by simp, rfl⟩
  unfold deliverClients
  refine Prog.wp_mono (Prog.wp_forEach
    (I := fun rest (delivered : List DeliveredLink × List ℕ) (_ : Shop) =>
      ∃ answers : List A, answers.length + rest.length = indices.length ∧ (∀ a ∈ answers, K a) ∧
        delivered.1 = answers.flatMap f) hstart ?_) (fun r _ h => by simpa using h) fun _ _ h => h
  · rintro i rest delivered s' ⟨answers, hlength, hok, hlinks⟩
    rw [Prog.wp_bind]
    refine Prog.wp_mono (hclient i s') ?_ fun _ _ h => h
    rintro r _ ⟨a, ha, hr⟩
    refine ⟨answers ++ [a], ?_, ?_, ?_⟩
    · simp only [List.length_append, List.length_cons, List.length_nil] at hlength ⊢
      omega
    · intro x hx
      rcases List.mem_append.mp hx with hx | hx
      · exact hok x hx
      · exact List.mem_singleton.mp hx ▸ ha
    · simp [hlinks, hr]

/-- The result of a visit whose program returns the links of its answers. -/
theorem wp_answered {p : PlannedVisit} {required : Bool}
    {q : ShopM (List DeliveredLink × List ℕ)}
    (h : Prog.wp q (fun r _ => ∃ answers : VisitAnswers, answers.routine = p.routine ∧
      answers.Complete platform p.sources ∧
        r.1 = answers.links platform p.sources) (fun _ _ => True) s) :
    Prog.wp (do
        let outcome ← Prog.caught q
        return sourceResult required outcome)
      (fun r _ => Answered platform p r) (fun _ _ => True) s := by
  rw [Prog.wp_bind, Prog.wp_caught]
  refine Prog.wp_mono h ?_ fun halt _ _ => ?_
  · rintro r _ ⟨answers, hroutine, hcomplete, hlinks⟩
    exact fun _ => ⟨answers, hroutine, hcomplete, hlinks, by simp [sourceResult]⟩
  · cases halt with
    | crashed => trivial
    | raised e => exact fun herrors => absurd herrors (by simp [sourceResult])

/-- What a lookup finds is a client of the panel, with the link that is built for it. -/
theorem wp_lookup_link {p : Panel} {i : Inbound} {identity : ClientIdentity} :
    Prog.wp (lookupExistingRemoteClient platform p i identity true)
      (fun r _ => ∀ result, r = some result →
        ∃ c, result.directLink = platform.directLink (onPanel p i) c)
      (fun _ _ => True) s := by
  refine Prog.wp_remoteRead (fun r hr _ result hresult => ?_) fun _ _ => trivial
  subst hresult
  rw [findExistingRemoteClient] at hr
  split at hr
  · cases hr
  · next c _ =>
      split at hr
      · cases hr
      · rw [← Option.some.inj (Except.ok.inj hr)]
        exact ⟨c, rfl⟩
  · cases hr

theorem wp_verified_link {p : Panel} {i : Inbound} {identity : ClientIdentity} {e : String} :
    Prog.wp (do
        let verified ← lookupExistingRemoteClient platform p i identity true
        Prog.orRaise e verified)
      (fun result _ => ∃ c, result.directLink = platform.directLink (onPanel p i) c)
      (fun _ _ => True) s := by
  rw [Prog.wp_bind]
  refine Prog.wp_mono wp_lookup_link (fun verified s hverified => ?_) fun _ _ h => h
  rw [Prog.wp_orRaise]
  cases verified with
  | none => trivial
  | some verified => exact hverified verified rfl

theorem wp_ensureClient_link {p : Panel} {i : Inbound} {plan : Plan} {identity : ClientIdentity} :
    Prog.wp (ensureClient platform now p i plan identity)
      (fun result _ => ∃ c, result.directLink = platform.directLink (onPanel p i) c)
      (fun _ _ => True) s := by
  refine Prog.wp_bind_of_forall fun found s => ?_
  cases found with
  | some result => exact wp_verified_link
  | none =>
      refine Prog.wp_bind_of_forall fun result s => ?_
      cases result with
      | none => trivial
      | some result => exact wp_verified_link

theorem inbound_of_valid {db : Db} {i : Inbound}
    (h : validatePanelInbound (sourceInbound db source) = .ok i) : source.inbound = some i.pk := by
  cases hi : sourceInbound db source with
  | none =>
      rw [hi] at h
      cases h
  | some j =>
      rw [hi, validatePanelInbound] at h
      split at h
      · cases h
      · obtain rfl := Except.ok.inj h
        rw [sourceInbound] at hi
        obtain ⟨k, hk, hget⟩ := Option.bind_eq_some_iff.mp hi
        rw [hk, (Table.mem_of_get? hget).2]

theorem wp_executeSinglePanelSource_answered :
    Prog.wp (executeSinglePanelSource platform now o source)
      (fun r _ => Answered platform ⟨.clients, [source]⟩ r) (fun _ _ => True) s := by
  refine wp_answered ?_
  refine Prog.wp_bind_of_forall fun db s => ?_
  rw [Prog.wp_bind, Prog.wp_ofExcept]
  cases hvalid : validatePanelInbound (sourceInbound db source) with
  | error e => trivial
  | ok i =>
      dsimp only
      refine Prog.wp_bind_of_forall fun p s => Prog.wp_bind_of_forall fun plan s => ?_
      refine Prog.wp_mono (wp_deliverClients_answers (A := Inbound × RemoteClient)
        (f := fun x => linkOf [source.pk] (platform.directLink x.1 x.2) none)
        (K := fun x => source.inbound = some x.1.pk) fun index s => ?_) ?_ fun _ _ h => h
      · rw [Prog.wp_bind]
        refine Prog.wp_mono wp_ensureClient_link ?_ fun _ _ h => h
        rintro result s ⟨c, hc⟩
        refine Prog.wp_bind_of_forall fun recorded s => ?_
        refine ⟨(onPanel p i, c), show source.inbound = some i.pk from inbound_of_valid hvalid, ?_⟩
        rw [← hc]
        rfl
      · rintro r _ ⟨answers, hlength, hok, hlinks⟩
        refine ⟨.clients (answers.map fun x => [x]), rfl, ⟨by simpa using hlength, ?_⟩, ?_⟩
        · intro client hclient
          obtain ⟨x, hx, rfl⟩ := List.mem_map.mp hclient
          exact .cons (hok x hx) .nil
        · rw [hlinks]
          simp [VisitAnswers.links, List.flatMap_map]

theorem wp_readUserLinks_native {p : Panel} {user : PasarguardUser}
    {existing : Option PasarguardUser} :
    Prog.wp (readUserLinks platform p user existing)
      (fun r _ => r.2 = platform.nativeLinks user) (fun _ _ => True) s := by
  have hlinks (url : String) (s : Shop) :
      Prog.wp (if url = "" then
          Prog.raise "PasarGuard کاربر را ساخت اما subscription_url برنگرداند."
        else do
          let links ← Prog.remoteRead timedOut fun _ => .ok (platform.nativeLinks user)
          if links = [] then
            Prog.raise "خروجی native links پنل PasarGuard خالی بود یا کانفیگ قابل استفاده نداشت."
          else return (url, links))
        (fun r _ => r.2 = platform.nativeLinks user) (fun _ _ => True) s := by
    rw [Prog.wp_ite]
    refine ⟨fun _ => trivial, fun _ => ?_⟩
    rw [Prog.wp_bind]
    refine Prog.wp_remoteRead (fun links hlinks _ => ?_) fun _ _ => trivial
    rw [Prog.wp_ite]
    exact ⟨fun _ => trivial, fun _ => (Except.ok.inj hlinks).symm⟩
  rw [readUserLinks]
  dsimp only
  rw [Prog.wp_ite]
  refine ⟨fun _ => Prog.wp_bind_of_forall fun fetched s => ?_, fun _ => ?_⟩
  · exact hlinks _ _
  · exact hlinks _ _

theorem wp_createPasarguardUser_native {p : Panel} {inbounds : List Inbound}
    {request : ClientRequest} :
    Prog.wp (createPasarguardUser platform now p inbounds request)
      (fun r _ => ∃ u, r.2 = platform.nativeLinks u ∧ r.1.directLink = r.2.headD "")
      (fun _ _ => True) s := by
  refine Prog.wp_bind_of_forall fun groups s => Prog.wp_bind_of_forall fun _ s => ?_
  refine Prog.wp_bind_of_forall fun existing s => ?_
  cases existing with
  | some u =>
      dsimp only
      rw [Prog.wp_ite]
      refine ⟨fun _ => trivial, fun _ => Prog.wp_bind_of_forall fun _ s => ?_⟩
      rw [Prog.wp_bind]
      exact Prog.wp_mono wp_readUserLinks_native (fun r _ hr => ⟨_, hr, rfl⟩) fun _ _ h => h
  | none =>
      refine Prog.wp_bind_of_forall fun _ s => ?_
      rw [Prog.wp_bind, withCleanup, Prog.wp_onError]
      refine Prog.wp_mono wp_readUserLinks_native (fun r _ hr => ⟨_, hr, rfl⟩) fun h s _ => ?_
      cases h with
      | crashed => trivial
      | raised e => exact Prog.wp_bind_of_forall fun _ s => trivial

theorem rawLinksOf_native {result : ClientResult} {u : PasarguardUser}
    (h : result.directLink = (platform.nativeLinks u).headD "") :
    rawLinksOf result (platform.nativeLinks u) = usableLinks platform u := by
  rw [rawLinksOf, usableLinks, h]
  refine if_neg ?_
  rintro ⟨hnone, hhead⟩
  cases hlinks : platform.nativeLinks u with
  | nil =>
      have hempty : strip "" = "" := strip_eq_self (by simp) (by simp)
      rw [hlinks] at hhead
      exact hhead hempty
  | cons link links =>
      rw [hlinks] at hnone hhead
      exact absurd (List.filter_eq_nil_iff.mp hnone (strip link) List.mem_cons_self)
        (by simpa using hhead)

theorem wp_ensureUserLinks_usable {p : Panel} {inbounds : List Inbound} {plan : Plan}
    {identity : ClientIdentity} {empty : String} :
    Prog.wp (ensureUserLinks platform now p inbounds plan identity empty)
      (fun r _ => r.2 ≠ [] ∧ ∃ u, r.2 = usableLinks platform u) (fun _ _ => True) s := by
  rw [ensureUserLinks, Prog.wp_bind]
  refine Prog.wp_mono wp_createPasarguardUser_native ?_ fun _ _ h => h
  rintro user s ⟨u, hlinks, hdirect⟩
  obtain ⟨result, links⟩ := user
  dsimp only at hlinks hdirect ⊢
  subst hlinks
  rw [rawLinksOf_native hdirect]
  cases hraw : usableLinks platform u with
  | nil => trivial
  | cons link raw => exact ⟨List.cons_ne_nil link raw, u, hraw.symm⟩

theorem wp_executePasarguardPanelGroup_answered {rest : List DeliverySource} :
    Prog.wp (executePasarguardPanelGroup platform now o false source (source :: rest))
      (fun r _ => Answered platform ⟨.users, source :: rest⟩ r) (fun _ _ => True) s := by
  refine wp_answered ?_
  refine Prog.wp_bind_of_forall fun db s => Prog.wp_bind_of_forall fun p s => ?_
  refine Prog.wp_bind_of_forall fun _ s => Prog.wp_bind_of_forall fun inbound s => ?_
  refine Prog.wp_bind_of_forall fun plan s => ?_
  refine Prog.wp_mono (wp_deliverClients_answers (A := PasarguardUser)
    (f := fun u => (usableLinks platform u).map fun link =>
      { rawLink := link, sources := (source :: rest).map (·.pk) })
    (K := fun u => usableLinks platform u ≠ []) fun index s => ?_) ?_ fun _ _ h => h
  · rw [Prog.wp_bind]
    refine Prog.wp_mono wp_ensureUserLinks_usable ?_ fun _ _ h => h
    rintro user s ⟨huser, u, hu⟩
    refine Prog.wp_bind_of_forall fun recorded s => ?_
    rw [Prog.wp_bind, Prog.wp_ofExcept, selectLinks, if_pos Bool.false_ne_true]
    exact ⟨u, hu ▸ huser, by rw [hu]⟩
  · rintro r _ ⟨answers, hlength, hok, hlinks⟩
    exact ⟨.users answers, rfl, ⟨by simpa using hlength, hok⟩, hlinks⟩

theorem inbounds_of_valid {db : Db} {inbounds : List Inbound}
    (h : validateSourceInbounds db sources = .ok inbounds) :
    List.Forall₂ (fun (source : DeliverySource) i => source.inbound = some i.pk)
      sources inbounds := by
  induction sources generalizing inbounds with
  | nil =>
      rw [← Except.ok.inj h]
      exact .nil
  | cons t sources ih =>
      rw [validateSourceInbounds] at h
      split at h
      · cases h
      · cases h
      next i rest hi hrest =>
        rw [← Except.ok.inj h]
        exact .cons (inbound_of_valid hi) (ih hrest)

/-- The results of a bundle are of clients on its inbounds. -/
def OnInbounds (platform : Platform) (p : Panel) : List Inbound → List ClientResult → Prop :=
  List.Forall₂ fun i result => ∃ c, result.directLink = platform.directLink (onPanel p i) c

theorem wp_verifyBundle_links {p : Panel} {inbounds : List Inbound} {identity : ClientIdentity} :
    Prog.wp (verifyBundle platform p inbounds identity)
      (fun r _ => OnInbounds platform p inbounds r) (fun _ _ => True) s := by
  have hloop (rest : List Inbound) (done : List Inbound) (results : List ClientResult) (s : Shop)
      (h : OnInbounds platform p done results) :
      Prog.wp (Prog.forEach rest results fun i results => do
          let found ← lookupExistingRemoteClient platform p i identity true
          let result ← Prog.orRaise "remote_multi_inbound_verify_failed" found
          return results ++ [result])
        (fun r _ => OnInbounds platform p (done ++ rest) r) (fun _ _ => True) s := by
    induction rest generalizing done results s with
    | nil =>
        rw [List.append_nil]
        exact h
    | cons i rest ih =>
        rw [Prog.forEach, Prog.wp_bind, Prog.wp_bind]
        refine Prog.wp_mono wp_lookup_link (fun found s hfound => ?_) fun _ _ h => h
        rw [Prog.wp_bind, Prog.wp_orRaise]
        cases found with
        | none => trivial
        | some result =>
            have hrest := ih (done ++ [i]) (results ++ [result]) s
              (List.rel_append h (.cons (hfound result rfl) .nil))
            rw [List.append_assoc] at hrest
            exact hrest
  exact hloop inbounds [] [] s .nil

theorem wp_ensureBundle_links {p : Panel} {inbounds : List Inbound} {plan : Plan}
    {identity : ClientIdentity} :
    Prog.wp (ensureBundle platform now p inbounds plan identity)
      (fun r _ => OnInbounds platform p inbounds r) (fun _ _ => True) s := by
  refine Prog.wp_bind_of_forall fun provided s => ?_
  rw [Prog.wp_ite]
  exact ⟨fun _ => trivial, fun _ => wp_verifyBundle_links⟩

/-- The links of a bundle are those of the clients that were found. -/
theorem found_of_bundle {p : Panel} {inbounds : List Inbound} {results : List ClientResult}
    (hinbounds : List.Forall₂ (fun (source : DeliverySource) i => source.inbound = some i.pk)
      sources inbounds) (h : OnInbounds platform p inbounds results) :
    ∃ client : List (Inbound × RemoteClient),
      List.Forall₂ (fun (source : DeliverySource) x => source.inbound = some x.1.pk)
          sources client ∧
        (sources.zip results).flatMap (fun x => directLinkOf x.1.pk x.2) =
          (sources.zip client).flatMap fun x =>
            linkOf [x.1.pk] (platform.directLink x.2.1 x.2.2) none := by
  induction hinbounds generalizing results with
  | nil =>
      cases h
      exact ⟨[], .nil, rfl⟩
  | cons hi _ ih =>
      cases h with
      | cons hc hrest =>
          obtain ⟨c, hc⟩ := hc
          obtain ⟨client, hclient, hlinks⟩ := ih hrest
          refine ⟨(onPanel p _, c) :: client, .cons hi hclient, ?_⟩
          rw [List.zip_cons_cons, List.zip_cons_cons, List.flatMap_cons, List.flatMap_cons, hlinks,
            ← hc]
          rfl

theorem wp_executeMultiPanelGroup_answered {rest : List DeliverySource} :
    Prog.wp (executeMultiPanelGroup platform now o source (source :: rest))
      (fun r _ => Answered platform ⟨.clients, source :: rest⟩ r) (fun _ _ => True) s := by
  refine wp_answered ?_
  refine Prog.wp_bind_of_forall fun db s => ?_
  rw [Prog.wp_bind, Prog.wp_ofExcept]
  cases hinbounds : validateSourceInbounds db (source :: rest) with
  | error e => trivial
  | ok inbounds =>
      dsimp only
      refine Prog.wp_bind_of_forall fun p s => Prog.wp_bind_of_forall fun inbound s => ?_
      refine Prog.wp_bind_of_forall fun plan s => ?_
      refine Prog.wp_mono (wp_deliverClients_answers (A := List (Inbound × RemoteClient))
        (f := fun client => ((source :: rest).zip client).flatMap fun x =>
          linkOf [x.1.pk] (platform.directLink x.2.1 x.2.2) none)
        (K := fun client => List.Forall₂ (fun (source : DeliverySource) x =>
          source.inbound = some x.1.pk) (source :: rest) client) fun index s => ?_) ?_
        fun _ _ h => h
      · rw [Prog.wp_bind]
        refine Prog.wp_mono wp_ensureBundle_links (fun verified s hverified => ?_) fun _ _ h => h
        refine Prog.wp_bind_of_forall fun result s => Prog.wp_bind_of_forall fun recorded s => ?_
        exact found_of_bundle (inbounds_of_valid hinbounds) hverified
      · rintro r _ ⟨answers, hlength, hok, hlinks⟩
        exact ⟨.clients answers, rfl, ⟨by simpa using hlength, hok⟩, hlinks⟩

theorem wp_executeInventorySource_answered :
    Prog.wp (executeInventorySource now o source)
      (fun r _ => Answered platform ⟨.inventory, [source]⟩ r) (fun _ _ => True) s := by
  have hlinks (db : Db) (rows : List ConfigAllocation) :
      rows.flatMap (allocatedLink db source.pk) =
        VisitAnswers.links platform [source] (.stock (rows.map fun a =>
          (a.pk, ((db.assets.get? a.asset).map (·.rawLink)).getD ""))) := by
    simp only [VisitAnswers.links, List.flatMap_map]
    rfl
  have hquantity : groupQuantity [source] = DeliverySource.units source := rfl
  refine wp_answered ?_
  rw [Prog.wp_bind]
  refine Prog.wp_mono wp_topUpAllocations ?_ fun _ _ _ => trivial
  intro rows s' hrows
  have henough : DeliverySource.units source ≤ rows.length := by
    rcases hrows with ⟨hzero, -, rfl⟩ | ⟨p, added, -, -, -, htops, rfl, -⟩
    · exact Nat.le_of_sub_eq_zero hzero
    · have hlength := htops.length
      rw [missingUnits] at hlength
      rw [List.length_append, hlength]
      unfold DeliverySource.units
      omega
  rw [Prog.wp_bind, Prog.wp_readDb]
  exact ⟨_, rfl, by simpa [VisitAnswers.Complete, hquantity] using henough, hlinks s'.db rows⟩

/-! ## All visits -/

theorem answered_snoc {planned : List PlannedVisit} {p : PlannedVisit} {r : SourceResult}
    (h : List.Forall₂ (Answered platform) planned results) (hr : Answered platform p r) :
    List.Forall₂ (Answered platform) (planned ++ [p]) (results ++ [r]) :=
  List.rel_append h (.cons hr .nil)

/-- The visits of single sources, in turn. -/
theorem wp_singleSources {planned : List PlannedVisit}
    (h : List.Forall₂ (Answered platform) planned results) :
    Prog.wp (Prog.forEach sources results fun source results => do
        let result ← executeSinglePanelSource platform now o source
        return results ++ [result])
      (fun results' _ => List.Forall₂ (Answered platform)
        (planned ++ sources.map fun source => ⟨.clients, [source]⟩) results')
      (fun _ _ => True) s := by
  induction sources generalizing results planned s with
  | nil =>
      rw [List.map_nil, List.append_nil]
      exact h
  | cons source sources ih =>
      rw [Prog.forEach, Prog.wp_bind, Prog.wp_bind]
      refine Prog.wp_mono wp_executeSinglePanelSource_answered (fun r s' hr => ?_) fun _ _ h => h
      have hrest := ih (s := s') (answered_snoc h hr)
      rw [List.append_assoc] at hrest
      exact hrest

theorem wp_executePanelGroup_answered {planned : List PlannedVisit}
    (h : List.Forall₂ (Answered platform) planned results) :
    Prog.wp (executePanelGroup platform now o false sources results)
      (fun results' _ => List.Forall₂ (Answered platform) (planned ++ groupVisits s.db sources) results')
      (fun _ _ => True) s := by
  rw [executePanelGroup, Prog.wp_bind, Prog.wp_readDb]
  dsimp only [id]
  cases sources with
  | nil => simpa [groupVisits] using h
  | cons first rest =>
      rw [Prog.wp_bind, Prog.wp_orRaise]
      cases hpanel : sourcePanel s.db first with
      | none => trivial
      | some p =>
          dsimp only
          simp only [groupVisits, hpanel, Option.map_some, Option.some.injEq]
          rw [Prog.wp_ite, Prog.wp_ite]
          refine ⟨fun hfamily => ?_, fun hfamily => ⟨fun hbundle => ?_, fun hbundle => ?_⟩⟩
          · rw [if_pos hfamily, Prog.wp_bind]
            exact Prog.wp_mono wp_executePasarguardPanelGroup_answered
              (fun r s' hr => answered_snoc h hr) fun _ _ h => h
          · rw [if_neg hfamily, if_pos hbundle, Prog.wp_bind]
            exact Prog.wp_mono wp_executeMultiPanelGroup_answered
              (fun r s' hr => answered_snoc h hr) fun _ _ h => h
          · rw [if_neg hfamily, if_neg hbundle]
            exact wp_singleSources h

theorem groupVisits_kept {db db' : Db} (h : db'.withoutServices = db.withoutServices)
    (sources : List DeliverySource) : groupVisits db' sources = groupVisits db sources := by
  cases sources with
  | nil => rfl
  | cons first rest =>
      have hpanel : sourcePanel db' first = sourcePanel db first := by
        rw [sourcePanel_withoutServices, h, ← sourcePanel_withoutServices]
      simp only [groupVisits, hpanel]

theorem wp_panelGroups_answered {groups : List (List DeliverySource)}
    {planned : List PlannedVisit} {s₀ : Shop} (hkept : Prog.Kept Db.withoutServices s₀ s)
    (h : List.Forall₂ (Answered platform) planned results) :
    Prog.wp (Prog.forEach groups results (executePanelGroup platform now o false))
      (fun results' s' => List.Forall₂ (Answered platform)
        (planned ++ groups.flatMap (groupVisits s₀.db)) results' ∧
          Prog.Kept Db.withoutServices s₀ s')
      (fun _ _ => True) s := by
  induction groups generalizing results planned s with
  | nil => exact ⟨by simpa using h, hkept⟩
  | cons group groups ih =>
      rw [Prog.forEach, Prog.wp_bind]
      refine Prog.wp_mono (keeps_executePanelGroup.wp_and (wp_executePanelGroup_answered h)) ?_
        fun _ _ h => h
      rintro results' s' ⟨hresults, hkept'⟩
      rw [groupVisits_kept hkept.view] at hresults
      have hrest := ih (hkept.trans hkept') hresults
      simpa using hrest

theorem wp_inventorySources_answered {planned : List PlannedVisit}
    (h : List.Forall₂ (Answered platform) planned results) :
    Prog.wp (Prog.forEach sources results fun source results => do
        let result ← executeInventorySource now o source
        return results ++ [result])
      (fun results' _ => List.Forall₂ (Answered platform)
        (planned ++ sources.map fun source => ⟨.inventory, [source]⟩) results')
      (fun _ _ => True) s := by
  induction sources generalizing results planned s with
  | nil =>
      rw [List.map_nil, List.append_nil]
      exact h
  | cons source sources ih =>
      rw [Prog.forEach, Prog.wp_bind, Prog.wp_bind]
      refine Prog.wp_mono (@wp_executeInventorySource_answered platform _ _ _ _)
        (fun r s' hr => ?_) fun _ _ h => h
      have hrest := ih (s := s') (answered_snoc h hr)
      rw [List.append_assoc] at hrest
      exact hrest

/-- Every planned visit has its result. -/
theorem wp_executeSources_answered :
    Prog.wp (executeSources platform now o false sources)
      (fun results _ => List.Forall₂ (Answered platform) (plannedVisits s.db sources) results)
      (fun _ _ => True) s := by
  rw [executeSources, Prog.wp_bind, Prog.wp_readDb, Prog.wp_bind]
  dsimp only [id]
  refine Prog.wp_mono (wp_panelGroups_answered (Prog.Kept.refl s) .nil) ?_ fun _ _ h => h
  rintro results s' ⟨h, -⟩
  exact wp_inventorySources_answered (by simpa using h)

end Qasedak.Orders
