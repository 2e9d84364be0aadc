import Qasedak.Subscriptions.Sync

/-! An adoption touches links of the cup's own services that no other cup shows, and nothing that
is rendered; a second one finds nothing left to do. -/

namespace Qasedak.Subscriptions

open Foundation Store

variable {env : SyncEnv} {row : SubscriptionCup} {g : AdoptionGroup}
  {groups groups' : List AdoptionGroup} {db db₁ db₂ : CupDb} {report : AdoptionReport}
  {items : List CupItem} {x : CupItem}

/-! ## The groups -/

theorem mem_addToGroup {panel client : ℕ} {url : String} :
    (∃ g ∈ addToGroup panel client url x groups, g.panel = panel ∧ g.client = client ∧
      x ∈ g.items) ∧
      ∀ g ∈ groups, ∃ g' ∈ addToGroup panel client url x groups, g'.panel = g.panel ∧
        g'.client = g.client ∧ g.items ⊆ g'.items := by
  induction groups with
  | nil => exact ⟨⟨_, List.mem_singleton_self _, rfl, rfl, List.mem_singleton_self _⟩, by simp⟩
  | cons g groups ih =>
      unfold addToGroup
      by_cases hkey : g.panel = panel ∧ g.client = client
      · rw [if_pos hkey]
        refine ⟨⟨_, List.mem_cons_self, hkey.1, hkey.2, by simp⟩, fun g' hg' => ?_⟩
        rcases List.mem_cons.mp hg' with rfl | hg'
        · exact ⟨_, List.mem_cons_self, rfl, rfl, List.subset_append_left _ _⟩
        · exact ⟨g', List.mem_cons_of_mem _ hg', rfl, rfl, fun _ h => h⟩
      · rw [if_neg hkey]
        obtain ⟨⟨g', hg', hfound⟩, hothers⟩ := ih
        refine ⟨⟨g', List.mem_cons_of_mem _ hg', hfound⟩, fun g' hg' => ?_⟩
        rcases List.mem_cons.mp hg' with rfl | hg'
        · exact ⟨g', List.mem_cons_self, rfl, rfl, fun _ h => h⟩
        · obtain ⟨g'', hg'', hsame⟩ := hothers g' hg'
          exact ⟨g'', List.mem_cons_of_mem _ hg'', hsame⟩

theorem of_mem_addToGroup {panel client : ℕ} {url : String}
    (hg : g ∈ addToGroup panel client url x groups) :
    ∀ y ∈ g.items, y = x ∧ g.panel = panel ∧ g.client = client ∨
      ∃ g' ∈ groups, g'.panel = g.panel ∧ g'.client = g.client ∧ y ∈ g'.items := by
  induction groups with
  | nil =>
      intro y hy
      obtain rfl : g = _ := List.mem_singleton.mp hg
      exact .inl ⟨List.mem_singleton.mp hy, rfl, rfl⟩
  | cons g' groups ih =>
      intro y hy
      unfold addToGroup at hg
      by_cases hkey : g'.panel = panel ∧ g'.client = client
      · rw [if_pos hkey] at hg
        rcases List.mem_cons.mp hg with rfl | hg
        · rcases List.mem_append.mp hy with hy | hy
          · exact .inr ⟨g', List.mem_cons_self, rfl, rfl, hy⟩
          · exact .inl ⟨List.mem_singleton.mp hy, hkey⟩
        · exact .inr ⟨g, List.mem_cons_of_mem _ hg, rfl, rfl, hy⟩
      · rw [if_neg hkey] at hg
        rcases List.mem_cons.mp hg with rfl | hg
        · exact .inr ⟨g, List.mem_cons_self, rfl, rfl, hy⟩
        · rcases ih hg y hy with hnew | ⟨g'', hg'', hold⟩
          · exact .inl hnew
          · exact .inr ⟨g'', List.mem_cons_of_mem _ hg'', hold⟩

theorem addToGroup_nonempty {panel client : ℕ} {url : String}
    (h : ∀ g ∈ groups, g.items ≠ []) :
    ∀ g ∈ addToGroup panel client url x groups, g.items ≠ [] := by
  induction groups with
  | nil => simp [addToGroup]
  | cons g groups ih =>
      have hrest : ∀ g' ∈ groups, g'.items ≠ [] := fun g' hg' => h g' (List.mem_cons_of_mem _ hg')
      unfold addToGroup
      intro g' hg'
      split at hg'
      · rcases List.mem_cons.mp hg' with rfl | hg'
        · simp
        · exact hrest g' hg'
      · rcases List.mem_cons.mp hg' with rfl | hg'
        · exact h g' List.mem_cons_self
        · exact ih hrest g' hg'

/-- The item is put under the panel and the client of the group. -/
def IsGrouped (env : SyncEnv) (db : CupDb) (row : SubscriptionCup) (g : AdoptionGroup)
    (x : CupItem) : Prop :=
  ∃ url, itemFate env db row x = .grouped g.panel g.client url

/-- The groups hold the items that the loop has put there. -/
structure Grouped (env : SyncEnv) (db : CupDb) (row : SubscriptionCup) (items : List CupItem)
    (state : List AdoptionGroup × AdoptionReport) : Prop where
  sound : ∀ g ∈ state.1, ∀ x ∈ g.items, x ∈ items ∧ IsGrouped env db row g x
  complete : ∀ x ∈ items, ∀ panel client url, itemFate env db row x = .grouped panel client url →
    ∃ g ∈ state.1, g.panel = panel ∧ g.client = client ∧ x ∈ g.items
  nonempty : ∀ g ∈ state.1, g.items ≠ []
  report : state.2.created = 0 ∧ state.2.adoptedItems = 0

theorem grouped_groupItems (env : SyncEnv) (db : CupDb) (row : SubscriptionCup)
    (items : List CupItem) : Grouped env db row items (groupItems env db row items) := by
  unfold groupItems
  induction items using List.reverseRecOn with
  | nil => exact ⟨by simp, by simp, by simp, rfl, rfl⟩
  | append_singleton items x ih =>
      rw [List.foldl_append, List.foldl_cons, List.foldl_nil]
      generalize List.foldl _ _ items = state at ih ⊢
      obtain ⟨groups, report⟩ := state
      obtain ⟨hsound, hcomplete, hnonempty, hreport⟩ := ih
      have hmore : ∀ g ∈ groups, ∀ y ∈ g.items, y ∈ items ++ [x] ∧ IsGrouped env db row g y :=
        fun g hg y hy => ⟨List.mem_append_left _ (hsound g hg y hy).1, (hsound g hg y hy).2⟩
      have hstays : (∀ panel client url, itemFate env db row x ≠ .grouped panel client url) →
          ∀ y ∈ items ++ [x], ∀ panel client url,
            itemFate env db row y = .grouped panel client url →
              ∃ g ∈ groups, g.panel = panel ∧ g.client = client ∧ y ∈ g.items := by
        intro hnot y hy panel client url hfate
        rcases List.mem_append.mp hy with hy | hy
        · exact hcomplete y hy panel client url hfate
        · obtain rfl := List.mem_singleton.mp hy
          exact absurd hfate (hnot panel client url)
      dsimp only
      cases hfate : itemFate env db row x with
      | ignored => exact ⟨hmore, hstays (by simp [hfate]), hnonempty, hreport⟩
      | ambiguousOwnership => exact ⟨hmore, hstays (by simp [hfate]), hnonempty, hreport⟩
      | missingUpstreamUrl => exact ⟨hmore, hstays (by simp [hfate]), hnonempty, hreport⟩
      | grouped panel client url =>
          refine ⟨?_, ?_, addToGroup_nonempty hnonempty, hreport⟩
          · intro g hg y hy
            rcases of_mem_addToGroup hg y hy with ⟨rfl, hpanel, hclient⟩ |
              ⟨g', hg', hpanel, hclient, hy'⟩
            · exact ⟨by simp, url, by rw [hfate, hpanel, hclient]⟩
            · obtain ⟨hitem, url', hfate'⟩ := hsound g' hg' y hy'
              exact ⟨List.mem_append_left _ hitem, url', by rw [hfate', hpanel, hclient]⟩
          · intro y hy panel' client' url' hfate'
            rcases List.mem_append.mp hy with hy | hy
            · obtain ⟨g, hg, hpanel, hclient, hitem⟩ := hcomplete y hy _ _ _ hfate'
              obtain ⟨g', hg', hpanel', hclient', hsub⟩ := mem_addToGroup.2 g hg
              exact ⟨g', hg', hpanel'.trans hpanel, hclient'.trans hclient, hsub hitem⟩
            · obtain rfl := List.mem_singleton.mp hy
              rw [hfate] at hfate'
              cases hfate'
              exact mem_addToGroup.1

/-! ## What an adoption may change -/

/-- A link that was under no feed is now under one of a group's panel and client. -/
def IsAdopted (row : SubscriptionCup) (groups : List AdoptionGroup) (db' : CupDb)
    (l l' : ConfigLink) : Prop :=
  l.externalFeed = none ∧ ∃ g ∈ groups, l.pk ∈ g.items.map (·.configLink) ∧
    ∃ f ∈ db'.feeds.rows, f.cup = row.pk ∧ f.panel = some g.panel ∧ f.vpnClient = some g.client ∧
      l' = { l with externalFeed := some f.pk, vpnClient := some g.client }

/-- Feeds are added behind those there are, and links are put under feeds. -/
structure Adopts (row : SubscriptionCup) (groups : List AdoptionGroup) (db db' : CupDb) :
    Prop where
  rest : ∃ links feeds, db' = { db with links := links, feeds := feeds }
  feeds : ∀ f ∈ db.feeds.rows, f ∈ db'.feeds.rows
  newFeeds : ∀ f ∈ db'.feeds.rows, f ∈ db.feeds.rows ∨ ∀ f₀ ∈ db.feeds.rows, f₀.pk < f.pk
  noLink : ∀ k, db.links.get? k = none → db'.links.get? k = none
  links : ∀ k l, db.links.get? k = some l → ∃ l', db'.links.get? k = some l' ∧
    (l' = l ∨ IsAdopted row groups db' l l')

namespace Adopts

theorem refl (row : SubscriptionCup) (groups : List AdoptionGroup) (db : CupDb) :
    Adopts row groups db db :=
  ⟨⟨_, _, rfl⟩, fun _ h => h, fun _ h => .inl h, fun _ h => h, fun _ l h => ⟨l, h, .inl rfl⟩⟩

theorem trans (h : Adopts row groups db db₁) (h' : Adopts row groups' db₁ db₂) :
    Adopts row (groups ++ groups') db db₂ := by
  refine ⟨?_, fun f hf => h'.feeds f (h.feeds f hf), ?_, fun k hk => h'.noLink k (h.noLink k hk),
    ?_⟩
  · obtain ⟨links, feeds, rfl⟩ := h.rest
    obtain ⟨links', feeds', rfl⟩ := h'.rest
    exact ⟨links', feeds', rfl⟩
  · intro f hf
    rcases h'.newFeeds f hf with hold | hnew
    · exact h.newFeeds f hold
    · exact .inr fun f₀ hf₀ => hnew f₀ (h.feeds f₀ hf₀)
  · intro k l hl
    obtain ⟨l₁, hl₁, hfirst⟩ := h.links k l hl
    obtain ⟨l₂, hl₂, hsecond⟩ := h'.links k l₁ hl₁
    refine ⟨l₂, hl₂, ?_⟩
    rcases hfirst with rfl | ⟨hnone, g, hg, hlink, f, hf, hcup, hpanel, hclient, rfl⟩
    · rcases hsecond with rfl | ⟨hnone, g, hg, hadopted⟩
      · exact .inl rfl
      · exact .inr ⟨hnone, g, List.mem_append_right _ hg, hadopted⟩
    · rcases hsecond with rfl | ⟨hnone', -⟩
      · exact .inr ⟨hnone, g, List.mem_append_left _ hg, hlink, f, h'.feeds f hf, hcup, hpanel,
          hclient, rfl⟩
      · cases hnone'

/-- The feed that a cup has for a panel and a client stays the one. -/
theorem feedFor (h : Adopts row groups db db₁) {cup panel client : ℕ}
    {f : ExternalSubscriptionFeed} (hf : db.feedFor cup panel client = some f) :
    db₁.feedFor cup panel client = some f := by
  unfold CupDb.feedFor at hf ⊢
  rw [Table.argmin_filter_eq_some_iff] at hf ⊢
  obtain ⟨⟨hrow, hfor⟩, hmin⟩ := hf
  refine ⟨⟨h.feeds f hrow, hfor⟩, fun f' hf' hfor' => ?_⟩
  rcases h.newFeeds f' hf' with hold | hnew
  · exact hmin f' hold hfor'
  · exact (hnew f hrow).le

end Adopts

theorem feedFor_spec {cup panel client : ℕ} {f : ExternalSubscriptionFeed}
    (h : db.feedFor cup panel client = some f) :
    f ∈ db.feeds.rows ∧ f.cup = cup ∧ f.panel = some panel ∧ f.vpnClient = some client ∧
      f.provider = "pasarguard" := by
  have hmem := List.argmin_mem h
  rw [List.mem_filter] at hmem
  simpa [and_assoc] using And.intro hmem.1 hmem.2

/-- Links are put under a feed of the group's panel and client. -/
theorem adopts_adopt {f : ExternalSubscriptionFeed} (hf : f ∈ db.feeds.rows)
    (hcup : f.cup = row.pk) (hpanel : f.panel = some g.panel)
    (hclient : f.vpnClient = some g.client) : Adopts row [g] db (db.adopt g f.pk) := by
  have hget : ∀ k, (db.adopt g f.pk).links.get? k = (db.links.get? k).map (adoptLink g f.pk) :=
    Table.get?_map _ _ (adoptLink_pk g f.pk)
  refine ⟨⟨_, _, rfl⟩, fun _ h => h, fun _ h => .inl h, fun k hk => ?_, fun k l hl => ?_⟩
  · rw [hget, hk]
    rfl
  · refine ⟨_, by rw [hget, hl]; rfl, ?_⟩
    unfold adoptLink
    split
    · next hlink => exact .inr ⟨hlink.2, g, List.mem_singleton_self g, hlink.1, f, hf, hcup, hpanel,
        hclient, rfl⟩
    · exact .inl rfl

/-- The group has been dealt with: its feed is switched off, or its links are under feeds. -/
def IsSettled (row : SubscriptionCup) (db : CupDb) (g : AdoptionGroup) : Prop :=
  (∃ f, db.feedFor row.pk g.panel g.client = some f ∧ f.isDisabled = true) ∨
    ∀ x ∈ g.items, ∀ l, db.links.get? x.configLink = some l → l.externalFeed ≠ none

theorem IsSettled.adopts (h : IsSettled row db g) (hadopts : Adopts row groups db db₁) :
    IsSettled row db₁ g := by
  rcases h with ⟨f, hf, hdisabled⟩ | hlinks
  · exact .inl ⟨f, hadopts.feedFor hf, hdisabled⟩
  · refine .inr fun x hx l' hl' => ?_
    cases hl : db.links.get? x.configLink with
    | none =>
        rw [hadopts.noLink _ hl] at hl'
        cases hl'
    | some l =>
        obtain ⟨l₁, hl₁, hcase⟩ := hadopts.links _ l hl
        rw [hl'] at hl₁
        cases hl₁
        rcases hcase with rfl | ⟨hnone, -⟩
        · exact hlinks x hx _ hl
        · exact absurd hnone (hlinks x hx l hl)

theorem isSettled_adopt (feed : ℕ) : IsSettled row (db.adopt g feed) g := by
  refine .inr fun x hx l' hl' => ?_
  have hget : (db.adopt g feed).links.get? x.configLink =
      (db.links.get? x.configLink).map (adoptLink g feed) :=
    Table.get?_map _ _ (adoptLink_pk g feed) _
  rw [hget, Option.map_eq_some_iff] at hl'
  obtain ⟨l, hl, rfl⟩ := hl'
  have hkey : l.pk ∈ g.items.map (·.configLink) :=
    List.mem_map.mpr ⟨x, hx, (Table.mem_of_get? hl).2.symm⟩
  unfold adoptLink
  by_cases hnone : l.externalFeed = none
  · simp [hkey, hnone]
  · simp [hnone]

theorem adoptGroup_of_disabled {f : ExternalSubscriptionFeed}
    (hfeed : db.feedFor row.pk g.panel g.client = some f) (hdisabled : f.isDisabled = true) :
    adoptGroup env row g (db, report) =
      (db, { report with feedDisabled := report.feedDisabled + g.items.length }) := by
  simp [adoptGroup, hfeed, hdisabled]

theorem adoptGroup_of_enabled {f : ExternalSubscriptionFeed}
    (hfeed : db.feedFor row.pk g.panel g.client = some f) (henabled : f.isDisabled = false) :
    adoptGroup env row g (db, report) =
      (db.adopt g f.pk, { report with adoptedItems := report.adoptedItems + g.items.length }) := by
  simp [adoptGroup, hfeed, henabled]

/-- The database with a feed for the group. -/
def CupDb.withFeed (env : SyncEnv) (db : CupDb) (row : SubscriptionCup) (g : AdoptionGroup) :
    CupDb :=
  { db with feeds := db.feeds.insert (newFeed env db row g) (newFeed_pk env db row g) }

theorem adoptGroup_of_none (hfeed : db.feedFor row.pk g.panel g.client = none) :
    adoptGroup env row g (db, report) =
      ((db.withFeed env row g).adopt g db.feeds.nextKey,
        { report with
          created := report.created + 1
          adoptedItems := report.adoptedItems + g.items.length }) := by
  simp [adoptGroup, hfeed, CupDb.withFeed]

theorem adopts_withFeed : Adopts row [] db (db.withFeed env row g) := by
  refine ⟨⟨_, _, rfl⟩, fun f hf => List.mem_append_left _ hf, fun f hf => ?_, fun _ h => h,
    fun k l hl => ⟨l, hl, .inl rfl⟩⟩
  rcases List.mem_append.mp hf with hf | hf
  · exact .inl hf
  · obtain rfl := List.mem_singleton.mp hf
    exact .inr fun f₀ hf₀ => Table.lt_nextKey hf₀

/-- The feed of a group is there, or it is added. -/
theorem adopts_adoptGroup (env : SyncEnv) :
    Adopts row [g] db (adoptGroup env row g (db, report)).1 ∧
      IsSettled row (adoptGroup env row g (db, report)).1 g := by
  cases hfeed : db.feedFor row.pk g.panel g.client with
  | some f =>
      obtain ⟨hrow, hcup, hpanel, hclient, -⟩ := feedFor_spec hfeed
      cases hdisabled : f.isDisabled with
      | true =>
          rw [adoptGroup_of_disabled hfeed hdisabled]
          exact ⟨Adopts.refl row [g] db, .inl ⟨f, hfeed, hdisabled⟩⟩
      | false =>
          rw [adoptGroup_of_enabled hfeed hdisabled]
          exact ⟨adopts_adopt hrow hcup hpanel hclient, isSettled_adopt _⟩
  | none =>
      rw [adoptGroup_of_none hfeed]
      have hnew : newFeed env db row g ∈ (db.withFeed env row g).feeds.rows := by
        simp [CupDb.withFeed]
      have hadopt : Adopts row [g] (db.withFeed env row g)
          ((db.withFeed env row g).adopt g db.feeds.nextKey) :=
        adopts_adopt hnew rfl rfl rfl
      exact ⟨adopts_withFeed.trans hadopt, isSettled_adopt _⟩

/-- The loop over the groups. -/
theorem adopts_foldl (env : SyncEnv) (row : SubscriptionCup) (groups : List AdoptionGroup)
    (db : CupDb) (report : AdoptionReport) :
    Adopts row groups db
        (groups.foldl (fun state g => adoptGroup env row g state) (db, report)).1 ∧
      ∀ g ∈ groups, IsSettled row
        (groups.foldl (fun state g => adoptGroup env row g state) (db, report)).1 g := by
  induction groups generalizing db report with
  | nil => exact ⟨Adopts.refl row [] db, by simp⟩
  | cons g groups ih =>
      obtain ⟨hstep, hsettled⟩ := @adopts_adoptGroup row g db report env
      obtain ⟨hrest, hsettledRest⟩ := ih (adoptGroup env row g (db, report)).1
        (adoptGroup env row g (db, report)).2
      refine ⟨hstep.trans hrest, fun g' hg' => ?_⟩
      rcases List.mem_cons.mp hg' with rfl | hg'
      · exact hsettled.adopts hrest
      · exact hsettledRest g' hg'

/-- Groups whose feeds are switched off are left as they are. -/
theorem foldl_adoptGroup_of_disabled {groups : List AdoptionGroup}
    (h : ∀ g ∈ groups, ∃ f, db.feedFor row.pk g.panel g.client = some f ∧ f.isDisabled = true)
    (report : AdoptionReport) :
    ∃ report', groups.foldl (fun state g => adoptGroup env row g state) (db, report) =
      (db, report') ∧ report'.created = report.created ∧
        report'.adoptedItems = report.adoptedItems := by
  induction groups generalizing report with
  | nil => exact ⟨report, rfl, rfl, rfl⟩
  | cons g groups ih =>
      obtain ⟨f, hfeed, hdisabled⟩ := h g List.mem_cons_self
      rw [List.foldl_cons, adoptGroup_of_disabled hfeed hdisabled]
      exact ih (fun g' hg' => h g' (List.mem_cons_of_mem _ hg')) _

/-! ## The adoption as a whole -/

theorem mem_of_bind_get? {k : Option ℕ} {c : VPNClient} (h : k.bind db.clients.get? = some c) :
    c ∈ db.clients.rows := by
  obtain ⟨key, -, hget⟩ := Option.bind_eq_some_iff.mp h
  exact (Table.mem_of_get? hget).1

theorem mem_of_namedClient {l : ConfigLink} {c : VPNClient} (h : db.namedClient row l = some c) :
    c ∈ db.clients.rows := by
  unfold CupDb.namedClient at h
  cases hown : l.vpnClient.bind db.clients.get? with
  | some c' =>
      rw [hown] at h
      cases h
      exact mem_of_bind_get? hown
  | none =>
      rw [hown] at h
      exact mem_of_bind_get? h

theorem mem_of_onlyClientOf {panel : Panel} {c : VPNClient}
    (h : db.onlyClientOf row panel = some c) : c ∈ db.clients.rows := by
  unfold CupDb.onlyClientOf at h
  split at h
  · cases h
  · split at h
    · next hfilter =>
        cases h
        have hmem := List.mem_singleton_self c
        rw [← hfilter, List.mem_filter] at hmem
        exact hmem.1
    · cases h

/-- An item is grouped under a client of the cup's own whose link no other cup shows. -/
theorem itemFate_grouped {panel client : ℕ} {url : String}
    (h : itemFate env db row x = .grouped panel client url) :
    ∃ l p c, db.links.get? x.configLink = some l ∧ p.pk = panel ∧ p.family = .pasarguard ∧
      c.pk = client ∧ c ∈ db.clients.rows ∧ db.isShared row.pk l.pk = false ∧
      db.ownedClient row c p = true := by
  unfold itemFate at h
  cases hl : db.links.get? x.configLink with
  | none => simp [hl] at h
  | some l =>
      cases hpanel : db.panelOfLink l (db.namedClient row l) with
      | none => simp [hl, hpanel] at h
      | some p =>
          cases hclient : (db.namedClient row l <|> db.onlyClientOf row p) with
          | none =>
              simp only [hl, hpanel, hclient] at h
              split at h <;> cases h
          | some c =>
              simp only [hl, hpanel, hclient, ite_not] at h
              have hmem : c ∈ db.clients.rows := by
                cases hnamed : db.namedClient row l with
                | none =>
                    rw [hnamed] at hclient
                    exact mem_of_onlyClientOf hclient
                | some c' =>
                    rw [hnamed] at hclient
                    cases hclient
                    exact mem_of_namedClient hnamed
              split at h
              · next hfamily =>
                  split at h
                  · cases h
                  · next howned =>
                      split at h
                      · cases h
                      · cases h
                        rw [Bool.or_eq_true, not_or, Bool.not_eq_true, Bool.not_eq_true',
                          Bool.not_eq_false] at howned
                        exact ⟨l, p, c, rfl, rfl, hfamily, rfl, hmem, howned⟩
              · cases h

/-- An adoption does not show in what is rendered. -/
theorem Adopts.activeCupLinks_eq {db' : CupDb} (h : Adopts row groups db db') (cup : ℕ) :
    db'.activeCupLinks cup = db.activeCupLinks cup := by
  have hitems : db'.items = db.items := by
    obtain ⟨links, feeds, rfl⟩ := h.rest
    rfl
  have hlink : ∀ k, (db'.links.get? k).map (fun l => (l.rawLink, l.isActive)) =
      (db.links.get? k).map fun l => (l.rawLink, l.isActive) := by
    intro k
    cases hl : db.links.get? k with
    | none => rw [h.noLink k hl]
    | some l =>
        obtain ⟨l', hl', hcase⟩ := h.links k l hl
        rw [hl']
        rcases hcase with rfl | ⟨-, g, -, -, f, -, -, -, -, rfl⟩ <;> rfl
  have hlive : ∀ x, db'.isLive x = db.isLive x := by
    intro x
    have hactive := congrArg (Option.any fun p : String × Bool => p.2) (hlink x.configLink)
    rw [Option.any_map, Option.any_map] at hactive
    unfold CupDb.isLive
    exact congrArg (x.isActive && ·) hactive
  have hraw : ∀ x, db'.rawLink x = db.rawLink x := by
    intro x
    have hlinkRaw := congrArg (Option.map Prod.fst) (hlink x.configLink)
    rw [Option.map_map, Option.map_map] at hlinkRaw
    unfold CupDb.rawLink
    exact congrArg (Option.getD · "") hlinkRaw
  unfold CupDb.activeCupLinks CupDb.liveItems
  rw [hitems]
  simp only [hlive, hraw]

/-- An item that may still be adopted could be adopted before, and would have the same fate. -/
theorem Adopts.adoptableItems {db' : CupDb} {cup : ℕ} (h : Adopts row groups db db')
    (hx : x ∈ db'.adoptableItems cup) :
    x ∈ db.adoptableItems cup ∧ db'.links.get? x.configLink = db.links.get? x.configLink ∧
      ∃ l, db'.links.get? x.configLink = some l ∧ l.externalFeed = none := by
  have hitems : db'.items = db.items := by
    obtain ⟨links, feeds, rfl⟩ := h.rest
    rfl
  unfold CupDb.adoptableItems at hx ⊢
  rw [List.mem_filter, CupDb.mem_liveItems] at hx ⊢
  obtain ⟨⟨hrow, hcup, hlive⟩, hadoptable⟩ := hx
  cases hl : db.links.get? x.configLink with
  | none =>
      rw [h.noLink _ hl] at hadoptable
      cases hadoptable
  | some l =>
      obtain ⟨l', hl', hcase⟩ := h.links _ l hl
      rw [hl', Option.any_some, Bool.and_eq_true, decide_eq_true_iff] at hadoptable
      have hsame : l' = l := by
        rcases hcase with rfl | ⟨-, g, -, -, f, -, -, -, -, rfl⟩
        · rfl
        · cases hadoptable.1
      subst hsame
      refine ⟨⟨⟨hitems ▸ hrow, hcup, ?_⟩, ?_⟩, hl', l', hl', hadoptable.1⟩
      · unfold CupDb.isLive at hlive ⊢
        rwa [hl, ← hl']
      · rw [Option.any_some, Bool.and_eq_true, decide_eq_true_iff]
        exact hadoptable

theorem Adopts.itemFate_eq {db' : CupDb} (h : Adopts row groups db db')
    (hlink : db'.links.get? x.configLink = db.links.get? x.configLink) :
    itemFate env db' row x = itemFate env db row x := by
  obtain ⟨links, feeds, rfl⟩ := h.rest
  unfold itemFate
  rw [hlink]
  rfl

/-- What an adoption of links into feeds of a cup comes to. -/
theorem ensurePasarguardFeeds_spec {cup : ℕ} {clock : Instant} {db' : CupDb}
    (h : ensurePasarguardFeedsForCup env cup clock db = some (db', report)) :
    ∃ row groups, db.cups.get? cup = some row ∧ Adopts row groups db db' ∧
      (∀ g ∈ groups, ∀ x ∈ g.items, IsGrouped env db row g x) ∧
      (row.isAccessible clock = true → ∀ x ∈ db.adoptableItems cup, ∀ panel client url,
        itemFate env db row x = .grouped panel client url →
          ∃ g ∈ groups, g.panel = panel ∧ g.client = client ∧ x ∈ g.items ∧ IsSettled row db' g) := by
  unfold ensurePasarguardFeedsForCup at h
  obtain ⟨row, hrow, h⟩ := Option.map_eq_some_iff.mp h
  refine ⟨row, ?_⟩
  by_cases haccess : row.isAccessible clock = true
  · rw [if_pos haccess] at h
    have hgrouped := grouped_groupItems env db row (db.adoptableItems cup)
    obtain ⟨hadopts, hsettled⟩ := adopts_foldl env row
      (groupItems env db row (db.adoptableItems cup)).1 db
      (groupItems env db row (db.adoptableItems cup)).2
    have hdb : db' = _ := (congrArg Prod.fst h).symm
    rw [← hdb] at hadopts hsettled
    refine ⟨_, hrow, hadopts, fun g hg x hx => (hgrouped.sound g hg x hx).2, ?_⟩
    intro _ x hx panel client url hfate
    obtain ⟨g, hg, hpanel, hclient, hitem⟩ := hgrouped.complete x hx panel client url hfate
    exact ⟨g, hg, hpanel, hclient, hitem, hsettled g hg⟩
  · rw [if_neg haccess] at h
    cases h
    exact ⟨[], hrow, Adopts.refl row [] db, by simp, fun h => absurd h haccess⟩

/-- What is left for a second adoption has its feed switched off. -/
theorem settled_again {cup : ℕ} {db' : CupDb} {state : List AdoptionGroup × AdoptionReport}
    (hadopts : Adopts row groups db db')
    (hcomplete : ∀ x ∈ db.adoptableItems cup, ∀ panel client url,
      itemFate env db row x = .grouped panel client url →
        ∃ g ∈ groups, g.panel = panel ∧ g.client = client ∧ x ∈ g.items ∧ IsSettled row db' g)
    (hgrouped : Grouped env db' row (db'.adoptableItems cup) state) :
    ∀ g ∈ state.1, ∃ f, db'.feedFor row.pk g.panel g.client = some f ∧ f.isDisabled = true := by
  intro g hg
  obtain ⟨x, hx⟩ := List.exists_mem_of_ne_nil _ (hgrouped.nonempty g hg)
  obtain ⟨hadoptable, url, hfate⟩ := hgrouped.sound g hg x hx
  obtain ⟨hbefore, hlink, l, hl, hnone⟩ := hadopts.adoptableItems hadoptable
  rw [hadopts.itemFate_eq hlink] at hfate
  obtain ⟨g', -, hpanel, hclient, hitem, hsettled⟩ := hcomplete x hbefore _ _ _ hfate
  rcases hsettled with hdisabled | hadopted
  · rwa [hpanel, hclient] at hdisabled
  · exact absurd hnone (hadopted x hitem l hl)

/-- A cup that is accessible was so before. -/
theorem isAccessible_of_le {now now' : Instant} (hle : now ≤ now')
    (h : row.isAccessible now' = true) : row.isAccessible now = true := by
  unfold SubscriptionCup.isAccessible at h ⊢
  cases hexpiry : row.expiresAt with
  | none => simpa [hexpiry] using h
  | some e =>
      simp only [hexpiry, Option.any_some, Bool.and_eq_true, decide_eq_true_eq, Bool.not_eq_true',
        decide_eq_false_iff_not] at h ⊢
      exact ⟨h.1, fun he => h.2 (he.trans hle)⟩

/-- A second adoption changes nothing. -/
theorem ensurePasarguardFeeds_again {cup : ℕ} {clock clock' : Instant} {db' : CupDb}
    (h : ensurePasarguardFeedsForCup env cup clock db = some (db', report)) (hclock : clock ≤ clock') :
    ∃ report', ensurePasarguardFeedsForCup env cup clock' db' = some (db', report') ∧
      report'.created = 0 ∧ report'.adoptedItems = 0 := by
  obtain ⟨row, groups, hrow, hadopts, -, hcomplete⟩ := ensurePasarguardFeeds_spec h
  have hcups : db'.cups = db.cups := by
    obtain ⟨links, feeds, rfl⟩ := hadopts.rest
    rfl
  unfold ensurePasarguardFeedsForCup
  rw [hcups, hrow, Option.map_some]
  by_cases haccess : row.isAccessible clock' = true
  · rw [if_pos haccess]
    have hgrouped := grouped_groupItems env db' row (db'.adoptableItems cup)
    obtain ⟨report', hfold, hcreated, hadopted⟩ := @foldl_adoptGroup_of_disabled env _ _ _
      (settled_again hadopts (hcomplete (isAccessible_of_le hclock haccess)) hgrouped)
      (groupItems env db' row (db'.adoptableItems cup)).2
    exact ⟨report', congrArg some hfold, hcreated.trans hgrouped.report.1,
      hadopted.trans hgrouped.report.2⟩
  · rw [if_neg haccess]
    exact ⟨{}, rfl, rfl, rfl⟩

/-- The links that get a feed are those of a service of the cup's own that no other cup shows;
what is rendered stays, and a second adoption changes nothing. -/
theorem ensurePasarguardFeeds_isolated_idempotent (env : SyncEnv) (cup : ℕ) (clock : Instant)
    (db db' : CupDb) (report : AdoptionReport)
    (h : ensurePasarguardFeedsForCup env cup clock db = some (db', report)) :
    (∀ k l, db.links.get? k = some l → ∃ l', db'.links.get? k = some l' ∧
      (l' = l ∨ l.externalFeed = none ∧ db.isShared cup k = false ∧
        ∃ row client panel f, db.cups.get? cup = some row ∧ db.clients.get? client.pk = some client ∧
          db.ownedClient row client panel = true ∧ db'.feeds.get? f.pk = some f ∧ f.cup = cup ∧
          f.panel = some panel.pk ∧ f.vpnClient = some client.pk ∧
          l' = { l with externalFeed := some f.pk, vpnClient := some client.pk })) ∧
    (∀ c, db'.activeCupLinks c = db.activeCupLinks c) ∧
    ∀ clock', clock ≤ clock' → ∃ report', ensurePasarguardFeedsForCup env cup clock' db' =
      some (db', report') ∧ report'.created = 0 ∧ report'.adoptedItems = 0 := by
  obtain ⟨row, groups, hrow, hadopts, hsound, -⟩ := ensurePasarguardFeeds_spec h
  have hkey : row.pk = cup := (Table.mem_of_get? hrow).2
  refine ⟨?_, hadopts.activeCupLinks_eq, ?_⟩
  · intro k l hl
    obtain ⟨l', hl', hcase⟩ := hadopts.links k l hl
    refine ⟨l', hl', ?_⟩
    rcases hcase with rfl | ⟨hnone, g, hg, hlink, f, hf, hcup, hpanel, hclient, rfl⟩
    · exact .inl rfl
    · obtain ⟨x, hx, hxlink⟩ := List.mem_map.mp hlink
      obtain ⟨url, hfate⟩ := hsound g hg x hx
      obtain ⟨l₀, panel, client, hl₀, hp, -, hc, hmem, hshared, howned⟩ := itemFate_grouped hfate
      have hlk : l.pk = k := (Table.mem_of_get? hl).2
      rw [hxlink, hlk, hl] at hl₀
      cases hl₀
      refine .inr ⟨hnone, ?_, row, client, panel, f, hrow, Table.get?_eq_some_iff.mpr ⟨hmem, rfl⟩,
        howned, Table.get?_eq_some_iff.mpr ⟨hf, rfl⟩, hcup.trans hkey, hp ▸ hpanel, hc ▸ hclient, ?_⟩
      · rw [← hkey, ← hlk]
        exact hshared
      · rw [hc]
  · intro clock' hclock
    exact ensurePasarguardFeeds_again h hclock

/-! ## A cup with one link -/

def oneLinkEnv : SyncEnv where
  urlsplit _ := some { scheme := "https", hostname := some "p.example", path := "/sub/abc" }
  resolvedFilterPolicy _ :=
    { protocols := ["vless"], security := ["reality"], transport := ["tcp"] }

def oneLinkDb : CupDb where
  cups := ⟨[{ pk := 1, order := some 1, token := "cup" }], by decide⟩
  items := ⟨[{ pk := 1, cup := 1, configLink := 1, position := 1 }], by decide⟩
  links :=
    ⟨[{ pk := 1
        rawLink := "vless://a"
        sourceType := .panelGenerated
        sourcePanel := some 1
        vpnClient := some 1 }], by decide⟩
  clients :=
    ⟨[{ pk := 1
        order := some 1
        plan := none
        inbound := some 1
        username := "u"
        subLink := "https://p.example/sub/abc" }], by decide⟩
  orders := ⟨[{ pk := 1, plan := 1, status := .completed, verificationStatus := .verified }],
    by decide⟩
  panels := ⟨[{ pk := 1, family := .pasarguard }], by decide⟩
  inbounds := ⟨[{ pk := 1, panel := 1, inboundId := 1 }], by decide⟩

theorem oneLink_adopted : ∃ p, ensurePasarguardFeedsForCup oneLinkEnv 1 0 oneLinkDb = some p ∧
    p.2.created = 1 ∧ ∀ c, p.1.activeCupLinks c = oneLinkDb.activeCupLinks c := by
  refine ⟨_, rfl, ?_, ?_⟩
  · decide +kernel
  · exact (ensurePasarguardFeeds_isolated_idempotent oneLinkEnv 1 0 oneLinkDb _ _ rfl).2.1

end Qasedak.Subscriptions
