import Qasedak.Subscriptions.Reconcile
import Qasedak.Subscriptions.Adoption
import Qasedak.Foundation.Run

/-! The guard against massive drops compares with the count that a feed remembers. The count is
right along every run in which links are adopted into new feeds only and no item is dropped
whose link another one keeps; adopted into a feed that is there, it is not. -/

namespace Qasedak.Subscriptions

open Foundation Store

variable {env : SyncEnv} {row : SubscriptionCup} {g : AdoptionGroup} {groups : List AdoptionGroup}
  {db db' : CupDb} {report : AdoptionReport} {f f' : ExternalSubscriptionFeed}
  {configs : List ParsedNativeConfig} {items : List CupItem} {x y : CupItem} {feed : Option ℕ}
  {filterNativeConfigs : List String → FilterPolicy → NativeConfigFilterResult}

/-! ## Runs -/

inductive FeedOp where
  | refresh (feed minIntervalSeconds : ℕ) (token : String) (fetched : Except String (List String))
      (times : RefreshTimes)
  | adopt (cup : ℕ) (clock : Instant)

def feedStep (filterNativeConfigs : List String → FilterPolicy → NativeConfigFilterResult)
    (env : SyncEnv) (db : CupDb) : FeedOp → CupDb
  | .refresh feed minIntervalSeconds token fetched times =>
      (refreshExternalSubscriptionFeed filterNativeConfigs feed false minIntervalSeconds token
        fetched times db).2
  | .adopt cup clock => ((ensurePasarguardFeedsForCup env cup clock db).map (·.1)).getD db

/-- Items show links that are there, and links belong to feeds that are there. -/
structure ForeignKeys (db : CupDb) : Prop where
  linked : db.Linked
  feeds : ∀ l ∈ db.links.rows, ∀ k ∈ l.externalFeed, (db.feeds.get? k).isSome

/-- Each feed remembers how many of its items are shown. -/
def Counted (db : CupDb) : Prop :=
  ∀ f ∈ db.feeds.rows, f.lastGoodConfigCount = db.sourceOwnedCupItemCount f

instance (db : CupDb) : Decidable (Counted db) := inferInstanceAs (Decidable (∀ _ ∈ _, _))

/-- No feed loses more of what it shows than is permitted, and none loses everything. -/
def KeepsLists (db db' : CupDb) : Prop :=
  ∀ f ∈ db.feeds.rows,
    (dropProtectionMinPreviousCount ≤ db.sourceOwnedCupItemCount f →
      isMassiveDrop (db.sourceOwnedCupItemCount f) (db'.sourceOwnedCupItemCount f) = false) ∧
    (db.sourceOwnedCupItemCount f ≠ 0 → db'.sourceOwnedCupItemCount f ≠ 0)

instance (db db' : CupDb) : Decidable (KeepsLists db db') :=
  inferInstanceAs (Decidable (∀ _ ∈ _, _ ∧ _))

/-- No item that a list drops shows a link that one of the feed's other items keeps. -/
def DropsUnshared (db : CupDb) (f : ExternalSubscriptionFeed) (links : List String) : Prop :=
  ∀ y ∈ db.itemsOf f, y ∉ db.keptItems f links →
    ∀ x ∈ db.keptItems f links, y.configLink ≠ x.configLink

instance (db : CupDb) (f : ExternalSubscriptionFeed) (links : List String) :
    Decidable (DropsUnshared db f links) :=
  inferInstanceAs (Decidable (∀ _ ∈ _, _ → ∀ _ ∈ _, _))

/-- The cup has no feed in use that its links would be adopted into. -/
def AdoptsIntoNewFeeds (env : SyncEnv) (db : CupDb) (cup : ℕ) : Prop :=
  ∀ row ∈ db.cups.get? cup, ∀ x ∈ db.adoptableItems cup, ∀ panel client url,
    itemFate env db row x = .grouped panel client url →
      ∀ f ∈ db.feedFor row.pk panel client, f.isDisabled = true

def FeedOp.IsHarmless
    (filterNativeConfigs : List String → FilterPolicy → NativeConfigFilterResult) (env : SyncEnv)
    (db : CupDb) : FeedOp → Prop
  | .refresh feed _ _ fetched _ =>
      ∀ f ∈ db.feeds.get? feed, ∀ links, fetched = .ok links →
        DropsUnshared db f (filterNativeConfigs links f.resolvedFilterPolicy).rawLinks
  | .adopt cup _ => AdoptsIntoNewFeeds env db cup

/-! ## Counting -/

theorem sourceOwnedCupItemCount_eq (db : CupDb) (f : ExternalSubscriptionFeed) :
    db.sourceOwnedCupItemCount f = (db.block f).length := by
  unfold CupDb.sourceOwnedCupItemCount CupDb.block CupDb.liveItemsOf CupDb.liveItems
  rw [List.countP_eq_length_filter, ((perm_listed _).filter _).length_eq,
    List.filter_filter]
  congr 2
  funext x
  rw [Bool.and_comm]

/-- Feeds that show the same items show as many. -/
theorem sourceOwnedCupItemCount_congr
    (h : ∀ x, x ∈ db'.items.rows ∧ x.cup = f'.cup ∧ db'.isLive x = true ∧
        db'.feedOf x = some f'.pk ↔
      x ∈ db.items.rows ∧ x.cup = f.cup ∧ db.isLive x = true ∧ db.feedOf x = some f.pk) :
    db'.sourceOwnedCupItemCount f' = db.sourceOwnedCupItemCount f := by
  rw [sourceOwnedCupItemCount_eq, sourceOwnedCupItemCount_eq]
  refine List.Perm.length_eq ?_
  have hnodup : ∀ (db : CupDb) (f : ExternalSubscriptionFeed), (db.block f).Nodup :=
    fun db f => (List.Nodup.of_map _ (db.nodup_liveItems_pk f.cup)).filter _
  refine (List.perm_ext_iff_of_nodup (hnodup db' f') (hnodup db f)).mpr fun x => ?_
  unfold CupDb.block
  rw [CupDb.mem_liveItemsOf, CupDb.mem_liveItemsOf]
  exact h x

/-! ## A reconcile -/

/-- A link of the feed stays with it. -/
theorem feedOf_writeConfigs_of_own (hfeed : db.feedOf x = some f.pk) :
    (db.writeConfigs f configs).feedOf x = some f.pk := by
  by_cases hplaced : x.configLink ∈ (db.refillOf f configs).2.map (·.configLink)
  · obtain ⟨z, hz, hlink⟩ := List.mem_map.mp hplaced
    have hzfeed := feedOf_placed hz
    unfold CupDb.feedOf at hzfeed ⊢
    rw [← hlink]
    exact hzfeed
  · unfold CupDb.writeConfigs
    rw [(feedOf_dropItems _ _).1]
    unfold CupDb.feedOf at hfeed ⊢
    rw [(refilled_refillOf db f configs).links _ hplaced]
    exact hfeed

/-- The other feeds show what they showed. -/
theorem count_writeConfigs_of_ne (hlinked : db.Linked) (hne : f'.pk ≠ f.pk) :
    (db.writeConfigs f configs).sourceOwnedCupItemCount f' = db.sourceOwnedCupItemCount f' := by
  have hforeign : ∀ {x : CupItem} {db : CupDb}, db.feedOf x = some f'.pk →
      db.feedOf x ≠ some f.pk :=
    fun h h' => hne (Option.some.inj (h.symm.trans h'))
  have hsame : ∀ x ∈ db.items.rows, db.feedOf x ≠ some f.pk →
      (db.writeConfigs f configs).isLive x = db.isLive x ∧
        (db.writeConfigs f configs).feedOf x = db.feedOf x := by
    intro x hx hfeed
    unfold CupDb.isLive CupDb.feedOf
    rw [get?_link_of_other hlinked hx hfeed]
    exact ⟨rfl, rfl⟩
  refine sourceOwnedCupItemCount_congr fun x => ⟨?_, ?_⟩
  · rintro ⟨hrow, hcup, hlive, hfeed⟩
    have hplaced : x.pk ∉ (db.refillOf f configs).2.map (·.pk) := by
      intro hpk
      obtain ⟨z, hz, hkey⟩ := List.mem_map.mp hpk
      have hzx : z = x :=
        List.inj_on_of_nodup_map (db.writeConfigs f configs).items.keys_nodup
          (Table.mem_of_get? (get?_of_placed hz)).1 hrow hkey
      exact hforeign hfeed (hzx ▸ feedOf_placed hz)
    rcases not_placed_cases hplaced hrow with ⟨hold, -⟩ | ⟨hinactive, -⟩
    · have hother : db.feedOf x ≠ some f.pk :=
        fun h => hforeign hfeed (feedOf_writeConfigs_of_own h)
      obtain ⟨hlive', hfeed'⟩ := hsame x hold hother
      exact ⟨hold, hcup, hlive' ▸ hlive, hfeed' ▸ hfeed⟩
    · simp [CupDb.isLive, hinactive] at hlive
  · rintro ⟨hrow, hcup, hlive, hfeed⟩
    obtain ⟨hlive', hfeed'⟩ := hsame x hrow (hforeign hfeed)
    exact ⟨(Table.mem_of_get? (get?_of_other hrow (hforeign hfeed))).1, hcup, hlive' ▸ hlive,
      hfeed' ▸ hfeed⟩

/-- The feed itself shows the links of the list. -/
theorem count_writeConfigs_self (hlinked : db.Linked)
    (hunshared : DropsUnshared db f (configs.map (·.rawLink))) :
    (db.writeConfigs f configs).sourceOwnedCupItemCount f = configs.length := by
  have hall := unshared_iff.mpr hunshared
  rw [sourceOwnedCupItemCount_eq, block_writeConfigs hlinked, List.filter_eq_self.mpr,
    length_placed]
  exact fun x hx => decide_eq_true (hall x hx)

theorem linked_writeConfigs (hlinked : db.Linked) : (db.writeConfigs f configs).Linked := by
  have hplaced := refilled_refillOf db f configs
  have hkept : ∀ k, (db.links.get? k).isSome →
      ((db.writeConfigs f configs).links.get? k).isSome := by
    intro k hk
    unfold CupDb.writeConfigs
    rw [get?_links_dropItems, Option.isSome_map]
    by_cases hmem : k ∈ (db.refillOf f configs).2.map (·.configLink)
    · obtain ⟨z, hz, rfl⟩ := List.mem_map.mp hmem
      obtain ⟨content, -, hshows⟩ := exists_of_forall₂ hplaced.shown hz
      obtain ⟨l, hl, -⟩ := hshows.link
      simp [hl]
    · rw [hplaced.links _ hmem]
      exact hk
  intro x hx
  by_cases hpk : x.pk ∈ (db.refillOf f configs).2.map (·.pk)
  · obtain ⟨z, hz, hkey⟩ := List.mem_map.mp hpk
    have hzx : z = x :=
      List.inj_on_of_nodup_map (db.writeConfigs f configs).items.keys_nodup
        (Table.mem_of_get? (get?_of_placed hz)).1 hx hkey
    have hfeed := feedOf_placed (hzx ▸ hz)
    obtain ⟨l, hl, -⟩ := exists_link_of_feedOf hfeed
    simp [hl]
  · rcases not_placed_cases hpk hx with ⟨hold, -⟩ | ⟨-, y, hy, hlink⟩
    · exact hkept _ (hlinked x hold)
    · rw [hlink]
      exact hkept _ (hlinked y (mem_itemsOf.mp hy).1)

theorem foreignKeys_writeConfigs (hkeys : ForeignKeys db) (hf : db.feeds.get? f.pk = some f) :
    ForeignKeys (db.writeConfigs f configs) := by
  have hplaced := refilled_refillOf db f configs
  have hfeeds : (db.writeConfigs f configs).feeds = db.feeds := by
    obtain ⟨items, links, hrest⟩ := @writeConfigs_rest db f configs
    rw [hrest]
  refine ⟨linked_writeConfigs hkeys.linked, fun l hl k hk => ?_⟩
  rw [hfeeds]
  have hget : (db.writeConfigs f configs).links.get? l.pk = some l :=
    Table.get?_eq_some_iff.mpr ⟨hl, rfl⟩
  unfold CupDb.writeConfigs at hget
  rw [get?_links_dropItems, Option.map_eq_some_iff] at hget
  obtain ⟨l', hl', hdrop⟩ := hget
  have hfeed : l'.externalFeed = some k := by
    rw [← (dropLink_fields (db.staleItems f configs) l').1, hdrop]
    exact hk
  by_cases hmem : l.pk ∈ (db.refillOf f configs).2.map (·.configLink)
  · obtain ⟨z, hz, hlink⟩ := List.mem_map.mp hmem
    have hzfeed := feedOf_placed hz
    unfold CupDb.writeConfigs at hzfeed
    rw [(feedOf_dropItems _ _).1] at hzfeed
    unfold CupDb.feedOf at hzfeed
    rw [hlink, hl'] at hzfeed
    have hk : k = f.pk := Option.some.inj (hfeed.symm.trans hzfeed)
    simp [hk, hf]
  · rw [hplaced.links _ hmem] at hl'
    exact hkeys.feeds l' (Table.mem_of_get? hl').1 k hfeed

/-! ## A refresh -/

/-- What a refresh may have written once it is claimed. -/
inductive RefreshEffect
    (filterNativeConfigs : List String → FilterPolicy → NativeConfigFilterResult)
    (fetched : Except String (List String)) (db : CupDb) (f : ExternalSubscriptionFeed) :
    CupDb → Prop where
  | unchanged : RefreshEffect filterNativeConfigs fetched db f db
  | failed (code : String) (result : Option NativeConfigFilterResult) (now : Instant) :
      RefreshEffect filterNativeConfigs fetched db f
        (db.modifyFeed f.pk (·.failed code result now)
          (ExternalSubscriptionFeed.failed_pk code result now))
  | succeeded (links : List String) (result : NativeConfigFilterResult) (now : Instant)
      (hfetched : fetched = .ok links)
      (hresult : result = filterNativeConfigs links f.resolvedFilterPolicy)
      (hselected : result.selectedCount ≠ 0)
      (hdrop : shouldBlockMassiveDrop db f result false = false) :
      RefreshEffect filterNativeConfigs fetched db f
        ((db.writeConfigs f result.selectedConfigs).modifyFeed f.pk (·.succeeded result now)
          (ExternalSubscriptionFeed.succeeded_pk result now))

theorem refreshClaimedFeed_effect {feed : ℕ} {token : String}
    {fetched : Except String (List String)} {times : RefreshTimes}
    {summary : ExternalSubscriptionRefreshSummary}
    (h : refreshClaimedFeed filterNativeConfigs feed false token fetched times db =
      some (summary, db')) (hf : db.feeds.get? feed = some f) :
    RefreshEffect filterNativeConfigs fetched db f db' := by
  have hfpk : db.feeds.get? f.pk = some f := by rwa [(Table.mem_of_get? hf).2]
  unfold refreshClaimedFeed at h
  simp only [hf, Option.bind_eq_bind, Option.bind_some] at h
  have hfailure : ∀ {code result}, markFeedFailure f code result (some token) times.writeNow
      times.writeClock db = some (summary, db') →
        RefreshEffect filterNativeConfigs fetched db f db' := by
    intro code result hmark
    obtain ⟨-, rfl | ⟨-, rfl⟩⟩ := markFeedFailure_cases hmark hfpk
    · exact .unchanged
    · exact .failed code result _
  split at h
  · cases h
    exact .unchanged
  · unfold judgeFetch writeRefresh at h
    cases hfetched : fetched with
    | error code =>
        rw [hfetched] at h
        exact hfetched ▸ hfailure h
    | ok links =>
        rw [hfetched] at h
        dsimp only at h
        split at h
        · next hwrite =>
            split at hwrite
            · cases hwrite
              exact hfetched ▸ hfailure h
            · split at hwrite
              · cases hwrite
                exact hfetched ▸ hfailure h
              · cases hwrite
        · next hwrite =>
            split at hwrite
            · cases hwrite
            · next hselected =>
                split at hwrite
                · cases hwrite
                · next hdrop =>
                    cases hwrite
                    rcases reconcileSuccess_cases h hfpk with ⟨-, rfl⟩ | ⟨-, -, rfl⟩
                    · exact .unchanged
                    · exact .succeeded links _ _ rfl rfl hselected (by simpa using hdrop)

/-- What holds between the operations. -/
structure Tallied (db : CupDb) : Prop where
  keys : ForeignKeys db
  counted : Counted db

section ModifyFeed

variable {pk : ℕ} {change : ExternalSubscriptionFeed → ExternalSubscriptionFeed}
  {hchange : ∀ f, (change f).pk = f.pk}

@[simp] theorem count_modifyFeed : (db.modifyFeed pk change hchange).sourceOwnedCupItemCount f =
    db.sourceOwnedCupItemCount f := rfl

theorem ForeignKeys.modifyFeed (h : ForeignKeys db) :
    ForeignKeys (db.modifyFeed pk change hchange) := by
  refine ⟨h.linked, fun l hl k hk => ?_⟩
  have hfeed := h.feeds l hl k hk
  rw [CupDb.get?_modifyFeed, Option.isSome_map]
  exact hfeed

theorem Tallied.modifyFeed (h : Tallied db)
    (hsame : ∀ f, (change f).cup = f.cup ∧ (change f).lastGoodConfigCount = f.lastGoodConfigCount) :
    Tallied (db.modifyFeed pk change hchange) := by
  refine ⟨h.keys.modifyFeed, fun f' hf' => ?_⟩
  obtain ⟨f, hf, rfl⟩ := List.mem_map.mp hf'
  have hcount := h.counted f hf
  split
  · obtain ⟨hcup, hlast⟩ := hsame f
    rw [hlast, hcount]
    unfold CupDb.sourceOwnedCupItemCount
    rw [hcup, hchange]
    rfl
  · exact hcount

end ModifyFeed

theorem isMassiveDrop_self (n : ℕ) : isMassiveDrop n n = false := by
  simp [isMassiveDrop]

theorem keepsLists_of_count_eq
    (h : ∀ f ∈ db.feeds.rows, db'.sourceOwnedCupItemCount f = db.sourceOwnedCupItemCount f) :
    KeepsLists db db' := by
  intro f hf
  rw [h f hf]
  exact ⟨fun _ => isMassiveDrop_self _, fun hne => hne⟩

theorem count_congr (hcup : f'.cup = f.cup) (hpk : f'.pk = f.pk) :
    db.sourceOwnedCupItemCount f' = db.sourceOwnedCupItemCount f := by
  unfold CupDb.sourceOwnedCupItemCount
  rw [hcup, hpk]

theorem KeepsLists.of_modifyFeed {pk : ℕ}
    {change : ExternalSubscriptionFeed → ExternalSubscriptionFeed}
    {hchange : ∀ f, (change f).pk = f.pk} (h : KeepsLists (db.modifyFeed pk change hchange) db')
    (hcup : ∀ f, (change f).cup = f.cup) : KeepsLists db db' := by
  intro f hf
  have hrow := h _ (List.mem_map_of_mem hf)
  by_cases hpk : f.pk = pk
  · rw [if_pos hpk, count_congr (hcup f) (hchange f), count_congr (hcup f) (hchange f)] at hrow
    exact hrow
  · rw [if_neg hpk] at hrow
    exact hrow

/-- The refresh of a feed whose count is right keeps to the guard, and the counts are right
afterwards. -/
theorem RefreshEffect.tallied {fetched : Except String (List String)}
    (heffect : RefreshEffect filterNativeConfigs fetched db f db') (h : Tallied db)
    (hf : db.feeds.get? f.pk = some f)
    (hunshared : ∀ links, fetched = .ok links →
      DropsUnshared db f (filterNativeConfigs links f.resolvedFilterPolicy).rawLinks) :
    Tallied db' ∧ KeepsLists db db' := by
  cases heffect with
  | unchanged => exact ⟨h, keepsLists_of_count_eq fun _ _ => rfl⟩
  | failed code result now =>
      exact ⟨h.modifyFeed fun _ => ⟨rfl, rfl⟩, keepsLists_of_count_eq fun _ _ => rfl⟩
  | succeeded links result now hfetched hresult hselected hdrop =>
      have hrow := (Table.mem_of_get? hf).1
      have hself : (db.writeConfigs f result.selectedConfigs).sourceOwnedCupItemCount f =
          result.selectedCount :=
        count_writeConfigs_self h.keys.linked (hresult ▸ hunshared links hfetched)
      have hother : ∀ f₀ ∈ db.feeds.rows, f₀.pk ≠ f.pk →
          (db.writeConfigs f result.selectedConfigs).sourceOwnedCupItemCount f₀ =
            db.sourceOwnedCupItemCount f₀ :=
        fun f₀ _ hne => count_writeConfigs_of_ne h.keys.linked hne
      have hsame : ∀ f₀ ∈ db.feeds.rows, f₀.pk = f.pk → f₀ = f := fun f₀ hf₀ hpk =>
        List.inj_on_of_nodup_map db.feeds.keys_nodup hf₀ hrow hpk
      have hfeeds : (db.writeConfigs f result.selectedConfigs).feeds = db.feeds := by
        obtain ⟨items, links, hrest⟩ :=
          @writeConfigs_rest db f result.selectedConfigs
        rw [hrest]
      have hkeys := @foreignKeys_writeConfigs _ _ result.selectedConfigs h.keys hf
      refine ⟨⟨hkeys.modifyFeed, fun f' hf' => ?_⟩, fun f₀ hf₀ => ?_⟩
      · obtain ⟨f₀, hf₀, rfl⟩ := List.mem_map.mp hf'
        rw [hfeeds] at hf₀
        by_cases hpk : f₀.pk = f.pk
        · rw [if_pos hpk, hsame f₀ hf₀ hpk]
          exact hself.symm
        · rw [if_neg hpk, h.counted f₀ hf₀]
          exact (hother f₀ hf₀ hpk).symm
      · by_cases hpk : f₀.pk = f.pk
        · obtain rfl := hsame f₀ hf₀ hpk
          have hcount := h.counted f₀ hf₀
          rw [count_modifyFeed, hself]
          refine ⟨fun hmin => ?_, fun _ => hselected⟩
          unfold shouldBlockMassiveDrop at hdrop
          rw [hcount, ite_self] at hdrop
          have hnot : ¬ db.sourceOwnedCupItemCount f₀ < dropProtectionMinPreviousCount := by omega
          simpa [hnot] using hdrop
        · rw [count_modifyFeed, hother f₀ hf₀ hpk]
          exact ⟨fun _ => isMassiveDrop_self _, fun hne => hne⟩

theorem released_fields (token : String) (f : ExternalSubscriptionFeed) :
    (f.released token).cup = f.cup ∧
      (f.released token).lastGoodConfigCount = f.lastGoodConfigCount := by
  unfold ExternalSubscriptionFeed.released
  split <;> exact ⟨rfl, rfl⟩

theorem tallied_refresh {feed minIntervalSeconds : ℕ} {token : String}
    {fetched : Except String (List String)} {times : RefreshTimes} (h : Tallied db)
    (hunshared : ∀ f ∈ db.feeds.get? feed, ∀ links, fetched = .ok links →
      DropsUnshared db f (filterNativeConfigs links f.resolvedFilterPolicy).rawLinks) :
    let db' := (refreshExternalSubscriptionFeed filterNativeConfigs feed false minIntervalSeconds
      token fetched times db).2
    Tallied db' ∧ KeepsLists db db' := by
  unfold refreshExternalSubscriptionFeed
  cases hclaim : claimFeed feed false minIntervalSeconds token times.claimNow times.claimClock db with
  | none => exact ⟨h, keepsLists_of_count_eq fun _ _ => rfl⟩
  | some claim =>
      cases claim with
      | error summary => exact ⟨h, keepsLists_of_count_eq fun _ _ => rfl⟩
      | ok claimed =>
          obtain ⟨f, hf, -, rfl⟩ := claimFeed_ok hclaim
          have hclaimed : Tallied (db.modifyFeed feed (·.claimed token times.claimNow)
              (ExternalSubscriptionFeed.claimed_pk token times.claimNow)) :=
            h.modifyFeed fun _ => ⟨rfl, rfl⟩
          dsimp only
          cases hwrite : refreshClaimedFeed filterNativeConfigs feed false token fetched times
              (db.modifyFeed feed (·.claimed token times.claimNow)
                (ExternalSubscriptionFeed.claimed_pk token times.claimNow)) with
          | none =>
              exact ⟨hclaimed.modifyFeed (released_fields token),
                keepsLists_of_count_eq fun _ _ => rfl⟩
          | some written =>
              have hrow : (db.modifyFeed feed (·.claimed token times.claimNow)
                  (ExternalSubscriptionFeed.claimed_pk token times.claimNow)).feeds.get? feed =
                    some (f.claimed token times.claimNow) := by
                rw [CupDb.get?_modifyFeed, hf, Option.map_some, if_pos rfl]
              have hkey : feed = (f.claimed token times.claimNow).pk :=
                (Table.mem_of_get? hf).2.symm
              have heffect := refreshClaimedFeed_effect hwrite hrow
              obtain ⟨htallied, hkeeps⟩ := heffect.tallied hclaimed (hkey ▸ hrow)
                fun links hlinks => hunshared f hf links hlinks
              have hkept : KeepsLists db written.2 := hkeeps.of_modifyFeed fun _ => rfl
              exact ⟨htallied.modifyFeed (released_fields token), hkept⟩

/-! ## An adoption -/

def AdoptionGroup.key (g : AdoptionGroup) : ℕ × ℕ := (g.panel, g.client)

def ItemFate.isFor (key : ℕ × ℕ) : ItemFate → Bool
  | .grouped panel client _ => (panel, client) = key
  | _ => false

theorem ItemFate.isFor_iff {key : ℕ × ℕ} {fate : ItemFate} :
    fate.isFor key = true ↔ ∃ url, fate = .grouped key.1 key.2 url := by
  cases fate with
  | grouped panel client url =>
      simp only [ItemFate.isFor, decide_eq_true_eq, ItemFate.grouped.injEq]
      exact ⟨fun h => ⟨url, h ▸ rfl, h ▸ rfl, rfl⟩, fun ⟨_, hp, hc, _⟩ => Prod.ext hp hc⟩
  | _ => simp [ItemFate.isFor]

theorem keys_addToGroup {panel client : ℕ} {url : String} :
    (addToGroup panel client url x groups).map AdoptionGroup.key =
      if (panel, client) ∈ groups.map AdoptionGroup.key then groups.map AdoptionGroup.key
      else groups.map AdoptionGroup.key ++ [(panel, client)] := by
  induction groups with
  | nil => rfl
  | cons g groups ih =>
      unfold addToGroup
      by_cases hkey : g.panel = panel ∧ g.client = client
      · have hg : g.key = (panel, client) := Prod.ext hkey.1 hkey.2
        have hg' : AdoptionGroup.key { g with items := g.items ++ [x] } = (panel, client) := hg
        rw [if_pos hkey, List.map_cons, List.map_cons, hg', hg, if_pos List.mem_cons_self]
      · have hg : (panel, client) ≠ g.key := fun h =>
          hkey ⟨(congrArg Prod.fst h).symm, (congrArg Prod.snd h).symm⟩
        rw [if_neg hkey, List.map_cons, ih, List.map_cons]
        by_cases hmem : (panel, client) ∈ groups.map AdoptionGroup.key
        · simp [hmem]
        · simp [hmem, hg]

/-- A group of the new list is one of the old, or the one that got the item. -/
theorem items_of_mem_addToGroup {panel client : ℕ} {url : String}
    (hkeys : (groups.map AdoptionGroup.key).Nodup)
    (hg : g ∈ addToGroup panel client url x groups) :
    g ∈ groups ∧ g.key ≠ (panel, client) ∨ g.key = (panel, client) ∧
      ((∃ g' ∈ groups, g'.key = (panel, client) ∧ g.items = g'.items ++ [x]) ∨
        (panel, client) ∉ groups.map AdoptionGroup.key ∧ g.items = [x]) := by
  induction groups with
  | nil =>
      obtain rfl : g = _ := List.mem_singleton.mp hg
      exact .inr ⟨rfl, .inr ⟨by simp, rfl⟩⟩
  | cons g₀ groups ih =>
      rw [List.map_cons, List.nodup_cons] at hkeys
      unfold addToGroup at hg
      by_cases hkey : g₀.panel = panel ∧ g₀.client = client
      · have hg₀ : g₀.key = (panel, client) := Prod.ext hkey.1 hkey.2
        rw [if_pos hkey] at hg
        rcases List.mem_cons.mp hg with rfl | hg
        · exact .inr ⟨hg₀, .inl ⟨g₀, List.mem_cons_self, hg₀, rfl⟩⟩
        · refine .inl ⟨List.mem_cons_of_mem _ hg, fun h => hkeys.1 ?_⟩
          rw [hg₀, ← h]
          exact List.mem_map_of_mem hg
      · have hg₀ : g₀.key ≠ (panel, client) := fun h =>
          hkey ⟨congrArg Prod.fst h, congrArg Prod.snd h⟩
        rw [if_neg hkey] at hg
        rcases List.mem_cons.mp hg with rfl | hg
        · exact .inl ⟨List.mem_cons_self, hg₀⟩
        · rcases ih hkeys.2 hg with ⟨hold, hne⟩ | ⟨hg, ⟨g', hg', hfound⟩ | ⟨hnew, hitems⟩⟩
          · exact .inl ⟨List.mem_cons_of_mem _ hold, hne⟩
          · exact .inr ⟨hg, .inl ⟨g', List.mem_cons_of_mem _ hg', hfound⟩⟩
          · refine .inr ⟨hg, .inr ⟨?_, hitems⟩⟩
            rw [List.map_cons, List.mem_cons, not_or]
            exact ⟨Ne.symm hg₀, hnew⟩

/-- The groups have keys of their own, and each has the items with its key. -/
theorem groupItems_exact (env : SyncEnv) (db : CupDb) (row : SubscriptionCup)
    (items : List CupItem) :
    ((groupItems env db row items).1.map AdoptionGroup.key).Nodup ∧
      ∀ g ∈ (groupItems env db row items).1,
        g.items = items.filter fun x => (itemFate env db row x).isFor g.key := by
  induction items using List.reverseRecOn with
  | nil => exact ⟨List.nodup_nil, by simp [groupItems]⟩
  | append_singleton items x ih =>
      have hgrouped := grouped_groupItems env db row items
      unfold groupItems at ih hgrouped ⊢
      rw [List.foldl_append, List.foldl_cons, List.foldl_nil]
      generalize List.foldl _ _ items = state at ih hgrouped ⊢
      obtain ⟨groups, report⟩ := state
      obtain ⟨hkeys, hitems⟩ := ih
      have hother : (∀ panel client url, itemFate env db row x ≠ .grouped panel client url) →
          ∀ g ∈ groups, g.items =
            (items ++ [x]).filter fun x => (itemFate env db row x).isFor g.key := by
        intro hnot g hg
        have hx : (itemFate env db row x).isFor g.key = false := by
          rw [Bool.eq_false_iff]
          intro h
          obtain ⟨url, hfate⟩ := ItemFate.isFor_iff.mp h
          exact hnot _ _ url hfate
        rw [List.filter_append, List.filter_singleton, hx, cond_false, List.append_nil]
        exact hitems g hg
      dsimp only
      cases hfate : itemFate env db row x with
      | ignored => exact ⟨hkeys, hother (by simp [hfate])⟩
      | ambiguousOwnership => exact ⟨hkeys, hother (by simp [hfate])⟩
      | missingUpstreamUrl => exact ⟨hkeys, hother (by simp [hfate])⟩
      | grouped panel client url =>
          refine ⟨?_, fun g hg => ?_⟩
          · rw [keys_addToGroup]
            split
            · exact hkeys
            · next hnew =>
                rw [List.nodup_append]
                refine ⟨hkeys, List.nodup_singleton _, ?_⟩
                intro a ha b hb heq
                rw [List.mem_singleton.mp hb] at heq
                exact hnew (heq ▸ ha)
          · rw [List.filter_append, List.filter_singleton, hfate]
            rcases items_of_mem_addToGroup hkeys hg with ⟨hold, hne⟩ |
              ⟨hkey, ⟨g', hg', hkey', hgitems⟩ | ⟨hnew, hgitems⟩⟩
            · have hx : (ItemFate.grouped panel client url).isFor g.key = false := by
                simpa [ItemFate.isFor] using Ne.symm hne
              rw [hx, cond_false, List.append_nil]
              exact hitems g hold
            · have hx : (ItemFate.grouped panel client url).isFor g.key = true := by
                simp [ItemFate.isFor, hkey]
              rw [hx, cond_true, hgitems, hitems g' hg', hkey, hkey']
            · have hx : (ItemFate.grouped panel client url).isFor g.key = true := by
                simp [ItemFate.isFor, hkey]
              have hempty : (items.filter fun x => (itemFate env db row x).isFor g.key) = [] := by
                rw [List.filter_eq_nil_iff]
                intro y hy hfor
                obtain ⟨url', hyfate⟩ := ItemFate.isFor_iff.mp hfor
                obtain ⟨g', hg', hpanel, hclient, -⟩ := hgrouped.complete y hy _ _ _ hyfate
                have hg'key : g'.key = (panel, client) := by
                  rw [← hkey]
                  exact Prod.ext hpanel hclient
                exact hnew (List.mem_map.mpr ⟨g', hg', hg'key⟩)
              rw [hx, cond_true, hgitems, hempty, List.nil_append]

/-- The items of a group are all the items of the cup that show its links, and these are under
no feed. -/
structure ReadyGroup (db : CupDb) (row : SubscriptionCup) (g : AdoptionGroup) : Prop where
  nodup : g.items.Nodup
  mem : ∀ x, x ∈ g.items ↔ x ∈ db.items.rows ∧ x.cup = row.pk ∧ db.isLive x = true ∧
    x.configLink ∈ g.items.map (·.configLink)
  free : ∀ x ∈ g.items, ∃ l, db.links.get? x.configLink = some l ∧ l.externalFeed = none

section Adopt

variable {k : ℕ}

theorem get?_links_adopt (j : ℕ) :
    (db.adopt g k).links.get? j = (db.links.get? j).map (adoptLink g k) :=
  Table.get?_map _ _ (adoptLink_pk g k) j

theorem isLive_adopt (x : CupItem) : (db.adopt g k).isLive x = db.isLive x := by
  have hactive : ∀ l, (adoptLink g k l).isActive = l.isActive := by
    intro l
    unfold adoptLink
    split <;> rfl
  unfold CupDb.isLive
  rw [get?_links_adopt, Option.any_map]
  exact congrArg (x.isActive && Option.any · _) (funext hactive)

/-- A link of the group that is under no feed is put under the feed. -/
theorem feedOf_adopt_of_mem {l : ConfigLink} (hl : db.links.get? x.configLink = some l)
    (hnone : l.externalFeed = none) (hmem : x.configLink ∈ g.items.map (·.configLink)) :
    (db.adopt g k).feedOf x = some k := by
  unfold CupDb.feedOf
  rw [get?_links_adopt, hl, Option.map_some, Option.bind_some, adoptLink,
    if_pos ⟨(Table.mem_of_get? hl).2 ▸ hmem, hnone⟩]

/-- The others stay where they are. -/
theorem feedOf_adopt_of_not_mem (hmem : x.configLink ∉ g.items.map (·.configLink)) :
    (db.adopt g k).feedOf x = db.feedOf x := by
  unfold CupDb.feedOf
  rw [get?_links_adopt]
  cases hl : db.links.get? x.configLink with
  | none => rfl
  | some l =>
      have hkey := (Table.mem_of_get? hl).2
      rw [Option.map_some, Option.bind_some, Option.bind_some, adoptLink,
        if_neg fun h => hmem (hkey ▸ h.1)]

/-- The links of a ready group go under the feed. -/
theorem ReadyGroup.feedOf_adopt (hready : ReadyGroup db row g)
    (hmem : x.configLink ∈ g.items.map (·.configLink)) :
    db.feedOf x = none ∧ (db.adopt g k).feedOf x = some k := by
  obtain ⟨y, hy, hlink⟩ := List.mem_map.mp hmem
  obtain ⟨l, hl, hnone⟩ := hready.free y hy
  rw [hlink] at hl
  refine ⟨?_, feedOf_adopt_of_mem hl hnone hmem⟩
  unfold CupDb.feedOf
  rw [hl, Option.bind_some, hnone]

/-- The group is as ready as before when another group's links are adopted. -/
theorem ReadyGroup.adopt {g' : AdoptionGroup} (hready : ReadyGroup db row g')
    (hdisjoint : ∀ x ∈ g.items, ∀ y ∈ g'.items, x.configLink ≠ y.configLink) :
    ReadyGroup (db.adopt g k) row g' := by
  refine ⟨hready.nodup, fun x => ?_, fun x hx => ?_⟩
  · rw [isLive_adopt]
    exact hready.mem x
  · obtain ⟨l, hl, hnone⟩ := hready.free x hx
    have hother : l.pk ∉ g.items.map (·.configLink) := by
      intro hmem
      obtain ⟨y, hy, hlink⟩ := List.mem_map.mp hmem
      exact hdisjoint y hy x hx (hlink.trans (Table.mem_of_get? hl).2)
    refine ⟨l, ?_, hnone⟩
    rw [get?_links_adopt, hl, Option.map_some, adoptLink, if_neg fun h => hother h.1]

theorem ForeignKeys.adopt (h : ForeignKeys db) (hk : (db.feeds.get? k).isSome) :
    ForeignKeys (db.adopt g k) := by
  refine ⟨fun x hx => ?_, fun l hl j hj => ?_⟩
  · rw [get?_links_adopt, Option.isSome_map]
    exact h.linked x hx
  · obtain ⟨l', hl', rfl⟩ := List.mem_map.mp hl
    change (db.feeds.get? j).isSome
    unfold adoptLink at hj
    split at hj
    · cases hj
      exact hk
    · exact h.feeds l' hl' j hj

/-- A feed that is not the one of the adoption shows what it showed. -/
theorem count_adopt_of_ne (hready : ReadyGroup db row g) (hne : f.pk ≠ k) :
    (db.adopt g k).sourceOwnedCupItemCount f = db.sourceOwnedCupItemCount f := by
  refine sourceOwnedCupItemCount_congr fun x => ?_
  rw [isLive_adopt]
  by_cases hmem : x.configLink ∈ g.items.map (·.configLink)
  · obtain ⟨hbefore, hafter⟩ := hready.feedOf_adopt (k := k) hmem
    have hk : ¬ k = f.pk := fun h => hne h.symm
    simp [hbefore, hafter, hk]
  · rw [feedOf_adopt_of_not_mem hmem]
    exact Iff.rfl

/-- A new feed shows the items of its group. -/
theorem count_adopt_self (hready : ReadyGroup db row g) (hfresh : ∀ x, db.feedOf x ≠ some f.pk)
    (hcup : f.cup = row.pk) : (db.adopt g f.pk).sourceOwnedCupItemCount f = g.items.length := by
  rw [sourceOwnedCupItemCount_eq]
  refine List.Perm.length_eq ?_
  have hnodup : ((db.adopt g f.pk).block f).Nodup :=
    (List.Nodup.of_map _ ((db.adopt g f.pk).nodup_liveItems_pk f.cup)).filter _
  refine (List.perm_ext_iff_of_nodup hnodup hready.nodup).mpr fun x => ?_
  unfold CupDb.block
  rw [CupDb.mem_liveItemsOf, hready.mem, isLive_adopt, hcup]
  constructor
  · rintro ⟨hrow, hcup, hlive, hfeed⟩
    refine ⟨hrow, hcup, hlive, ?_⟩
    by_contra hmem
    rw [feedOf_adopt_of_not_mem hmem] at hfeed
    exact hfresh x hfeed
  · rintro ⟨hrow, hcup, hlive, hmem⟩
    exact ⟨hrow, hcup, hlive, (hready.feedOf_adopt hmem).2⟩

end Adopt

/-- A group's links go under a feed of their own. -/
theorem tallied_adopt_new (h : Tallied db) (hready : ReadyGroup db row g) :
    Tallied ((db.withFeed env row g).adopt g db.feeds.nextKey) ∧
      ∀ f ∈ db.feeds.rows, ((db.withFeed env row g).adopt g
        db.feeds.nextKey).sourceOwnedCupItemCount f = db.sourceOwnedCupItemCount f := by
  have hready' : ReadyGroup (db.withFeed env row g) row g :=
    ⟨hready.nodup, hready.mem, hready.free⟩
  have hget : ∀ k, (db.withFeed env row g).feeds.get? k =
      if k = db.feeds.nextKey then some (newFeed env db row g) else db.feeds.get? k :=
    Table.get?_insert _ _ (newFeed_pk env db row g)
  have hkeys : ForeignKeys (db.withFeed env row g) := by
    refine ⟨h.keys.linked, fun l hl k hk => ?_⟩
    rw [hget]
    split
    · rfl
    · exact h.keys.feeds l hl k hk
  have hfresh : ∀ x, (db.withFeed env row g).feedOf x ≠ some (newFeed env db row g).pk := by
    intro x hfeed
    obtain ⟨l, hl, hnext⟩ := @exists_link_of_feedOf db _ _ hfeed
    have hsome := h.keys.feeds l (Table.mem_of_get? hl).1 _ hnext
    rw [newFeed_pk, Table.get?_nextKey] at hsome
    cases hsome
  have hold : ∀ f ∈ db.feeds.rows, ((db.withFeed env row g).adopt g
      db.feeds.nextKey).sourceOwnedCupItemCount f = db.sourceOwnedCupItemCount f :=
    fun f hf => count_adopt_of_ne hready' (Nat.ne_of_lt (Table.lt_nextKey hf))
  refine ⟨⟨hkeys.adopt (by rw [hget, if_pos rfl]; rfl), fun f hf => ?_⟩, hold⟩
  rcases List.mem_append.mp hf with hf | hf
  · rw [h.counted f hf]
    exact (hold f hf).symm
  · obtain rfl := List.mem_singleton.mp hf
    exact (count_adopt_self hready' hfresh rfl).symm

/-- The feeds for other panels and clients are found as before. -/
theorem feedFor_withFeed_of_ne {panel client : ℕ} (hne : g.key ≠ (panel, client)) :
    (db.withFeed env row g).feedFor row.pk panel client = db.feedFor row.pk panel client := by
  unfold CupDb.feedFor
  have hrows : (db.withFeed env row g).feeds.rows = db.feeds.rows ++ [newFeed env db row g] := rfl
  have hnew : ((newFeed env db row g).cup = row.pk && (newFeed env db row g).panel = some panel &&
      (newFeed env db row g).vpnClient = some client &&
      (newFeed env db row g).provider = "pasarguard") = false := by
    by_contra hcontra
    rw [Bool.not_eq_false] at hcontra
    simp only [newFeed, Bool.and_eq_true, decide_eq_true_eq, Option.some.injEq] at hcontra
    exact hne (Prod.ext hcontra.1.1.2 hcontra.1.2)
  rw [hrows, List.filter_append, List.filter_singleton, hnew, cond_false, List.append_nil]

/-- The links of two groups are different ones. -/
def AdoptionGroup.DisjointFrom (g g' : AdoptionGroup) : Prop :=
  ∀ x ∈ g.items, ∀ y ∈ g'.items, x.configLink ≠ y.configLink

theorem tallied_foldl (env : SyncEnv) (groups : List AdoptionGroup) (db : CupDb)
    (report : AdoptionReport) (h : Tallied db) (hready : ∀ g ∈ groups, ReadyGroup db row g)
    (hnew : ∀ g ∈ groups, ∀ f ∈ db.feedFor row.pk g.panel g.client, f.isDisabled = true)
    (hkeys : (groups.map AdoptionGroup.key).Nodup)
    (hdisjoint : groups.Pairwise AdoptionGroup.DisjointFrom) :
    Tallied (groups.foldl (fun state g => adoptGroup env row g state) (db, report)).1 ∧
      ∀ f ∈ db.feeds.rows, (groups.foldl (fun state g => adoptGroup env row g state)
        (db, report)).1.sourceOwnedCupItemCount f = db.sourceOwnedCupItemCount f := by
  induction groups generalizing db report with
  | nil => exact ⟨h, fun _ _ => rfl⟩
  | cons g groups ih =>
      rw [List.map_cons, List.nodup_cons] at hkeys
      obtain ⟨hfirst, hrest⟩ := List.pairwise_cons.mp hdisjoint
      have hreadyRest : ∀ g' ∈ groups, ReadyGroup db row g' :=
        fun g' hg' => hready g' (List.mem_cons_of_mem _ hg')
      have hnewRest : ∀ g' ∈ groups, ∀ f ∈ db.feedFor row.pk g'.panel g'.client,
          f.isDisabled = true :=
        fun g' hg' => hnew g' (List.mem_cons_of_mem _ hg')
      rw [List.foldl_cons]
      cases hfeed : db.feedFor row.pk g.panel g.client with
      | some f =>
          rw [adoptGroup_of_disabled hfeed (hnew g List.mem_cons_self f hfeed)]
          exact ih db _ h hreadyRest hnewRest hkeys.2 hrest
      | none =>
          rw [adoptGroup_of_none hfeed]
          obtain ⟨htallied, hcounts⟩ := @tallied_adopt_new env _ _ _ h
            (hready g List.mem_cons_self)
          have hreadyAfter : ∀ g' ∈ groups,
              ReadyGroup ((db.withFeed env row g).adopt g db.feeds.nextKey) row g' := by
            intro g' hg'
            have hwith : ReadyGroup (db.withFeed env row g) row g' :=
              ⟨(hreadyRest g' hg').nodup, (hreadyRest g' hg').mem, (hreadyRest g' hg').free⟩
            exact hwith.adopt (hfirst g' hg')
          have hnewAfter : ∀ g' ∈ groups, ∀ f ∈ ((db.withFeed env row g).adopt g
              db.feeds.nextKey).feedFor row.pk g'.panel g'.client, f.isDisabled = true := by
            intro g' hg' f hf
            have hne : g.key ≠ (g'.panel, g'.client) :=
              fun heq => hkeys.1 (List.mem_map.mpr ⟨g', hg', heq.symm⟩)
            have hfind := @feedFor_withFeed_of_ne env row _ db _ _ hne
            exact hnewRest g' hg' f (hfind ▸ hf)
          obtain ⟨hfinal, hfinalCounts⟩ := ih _ _ htallied hreadyAfter hnewAfter hkeys.2 hrest
          refine ⟨hfinal, fun f hf => ?_⟩
          rw [hfinalCounts f (List.mem_append_left _ hf), hcounts f hf]

/-- What becomes of an item depends on its link. -/
theorem itemFate_congr (hlink : x.configLink = y.configLink) :
    itemFate env db row x = itemFate env db row y := by
  unfold itemFate
  rw [hlink]

theorem mem_adoptableItems {cup : ℕ} : x ∈ db.adoptableItems cup ↔
    (x ∈ db.items.rows ∧ x.cup = cup ∧ db.isLive x = true) ∧
      (db.links.get? x.configLink).any (fun l => l.externalFeed = none &&
        (l.sourceType = .panelGenerated || l.sourceType = .externalSubscription)) = true := by
  unfold CupDb.adoptableItems
  rw [List.mem_filter, CupDb.mem_liveItems]

theorem tallied_adopt {cup : ℕ} {clock : Instant} (h : Tallied db)
    (hnew : AdoptsIntoNewFeeds env db cup)
    (hensure : ensurePasarguardFeedsForCup env cup clock db = some (db', report)) :
    Tallied db' ∧ KeepsLists db db' := by
  unfold ensurePasarguardFeedsForCup at hensure
  obtain ⟨row, hrow, hensure⟩ := Option.map_eq_some_iff.mp hensure
  have hcup : row.pk = cup := (Table.mem_of_get? hrow).2
  by_cases haccess : row.isAccessible clock = true
  · rw [if_pos haccess] at hensure
    obtain ⟨hkeys, hitems⟩ := groupItems_exact env db row (db.adoptableItems cup)
    have hgrouped := grouped_groupItems env db row (db.adoptableItems cup)
    have hfate : ∀ g ∈ (groupItems env db row (db.adoptableItems cup)).1, ∀ x ∈ g.items,
        x ∈ db.adoptableItems cup ∧ (itemFate env db row x).isFor g.key = true := by
      intro g hg x hx
      rw [hitems g hg] at hx
      exact List.mem_filter.mp hx
    have hready : ∀ g ∈ (groupItems env db row (db.adoptableItems cup)).1,
        ReadyGroup db row g := by
      intro g hg
      refine ⟨?_, fun x => ⟨fun hx => ?_, fun ⟨hx, hxcup, hlive, hmem⟩ => ?_⟩, fun x hx => ?_⟩
      · rw [hitems g hg]
        exact ((List.Nodup.of_map _ (db.nodup_liveItems_pk cup)).filter _).filter _
      · obtain ⟨⟨hrow, hxcup, hlive⟩, -⟩ := mem_adoptableItems.mp (hfate g hg x hx).1
        exact ⟨hrow, hxcup.trans hcup.symm, hlive, List.mem_map_of_mem hx⟩
      · obtain ⟨y, hy, hlink⟩ := List.mem_map.mp hmem
        obtain ⟨hadoptable, hfor⟩ := hfate g hg y hy
        rw [hitems g hg, List.mem_filter]
        refine ⟨mem_adoptableItems.mpr ⟨⟨hx, hxcup.trans hcup, hlive⟩, ?_⟩, ?_⟩
        · rw [← hlink]
          exact (mem_adoptableItems.mp hadoptable).2
        · rw [itemFate_congr hlink.symm]
          exact hfor
      · have hfree := (mem_adoptableItems.mp (hfate g hg x hx).1).2
        cases hl : db.links.get? x.configLink with
        | none =>
            rw [hl] at hfree
            cases hfree
        | some l =>
            rw [hl, Option.any_some, Bool.and_eq_true, decide_eq_true_iff] at hfree
            exact ⟨l, rfl, hfree.1⟩
    have hdisabled : ∀ g ∈ (groupItems env db row (db.adoptableItems cup)).1,
        ∀ f ∈ db.feedFor row.pk g.panel g.client, f.isDisabled = true := by
      intro g hg f hf
      obtain ⟨x, hx⟩ := List.exists_mem_of_ne_nil _ (hgrouped.nonempty g hg)
      obtain ⟨hadoptable, hfor⟩ := hfate g hg x hx
      obtain ⟨url, hurl⟩ := ItemFate.isFor_iff.mp hfor
      exact hnew row hrow x hadoptable _ _ url hurl f hf
    have hdisjoint : (groupItems env db row (db.adoptableItems cup)).1.Pairwise
        AdoptionGroup.DisjointFrom := by
      refine (List.pairwise_map.mp hkeys).imp_of_mem ?_
      intro g g' hg hg' hne x hx y hy hlink
      obtain ⟨url, hx'⟩ := ItemFate.isFor_iff.mp (hfate g hg x hx).2
      obtain ⟨url', hy'⟩ := ItemFate.isFor_iff.mp (hfate g' hg' y hy).2
      rw [itemFate_congr hlink, hy'] at hx'
      injection hx' with hpanel hclient
      exact hne (Prod.ext hpanel.symm hclient.symm)
    obtain ⟨htallied, hcounts⟩ := tallied_foldl env _ db
      (groupItems env db row (db.adoptableItems cup)).2 h hready hdisabled hkeys hdisjoint
    have hdb : db' = _ := (congrArg Prod.fst hensure).symm
    rw [hdb]
    exact ⟨htallied, keepsLists_of_count_eq hcounts⟩
  · rw [if_neg haccess] at hensure
    cases hensure
    exact ⟨h, keepsLists_of_count_eq fun _ _ => rfl⟩

/-! ## Whole runs -/

theorem tallied_feedStep {op : FeedOp} (h : Tallied db)
    (hop : op.IsHarmless filterNativeConfigs env db) :
    Tallied (feedStep filterNativeConfigs env db op) ∧
      KeepsLists db (feedStep filterNativeConfigs env db op) := by
  cases op with
  | refresh feed minIntervalSeconds token fetched times => exact tallied_refresh h hop
  | adopt cup clock =>
      have hstep : feedStep filterNativeConfigs env db (.adopt cup clock) =
          ((ensurePasarguardFeedsForCup env cup clock db).map (·.1)).getD db := rfl
      rw [hstep]
      cases hensure : ensurePasarguardFeedsForCup env cup clock db with
      | none => exact ⟨h, keepsLists_of_count_eq fun _ _ => rfl⟩
      | some result => exact tallied_adopt h hop hensure

/-- Along a run of operations that are harmless the count that each feed remembers is the number
of its items that are shown, and no operation takes more from a list than is permitted. -/
theorem drop_protection_of_harmless
    (filterNativeConfigs : List String → FilterPolicy → NativeConfigFilterResult) (env : SyncEnv)
    (db : CupDb) (ops : List FeedOp) (op : FeedOp) (hdb : Tallied db)
    (hops : Guarded (feedStep filterNativeConfigs env)
      (fun db op => op.IsHarmless filterNativeConfigs env db) db (ops ++ [op])) :
    let before := run (feedStep filterNativeConfigs env) db ops
    let after := feedStep filterNativeConfigs env before op
    Counted before ∧ KeepsLists before after ∧ Counted after := by
  rw [guarded_append] at hops
  have hbefore : Tallied (run (feedStep filterNativeConfigs env) db ops) :=
    hops.1.invariant (fun db op h hop => (tallied_feedStep h hop).1) hdb
  obtain ⟨hafter, hkeeps⟩ := tallied_feedStep hbefore hops.2.1
  exact ⟨hbefore.counted, hkeeps, hafter.counted⟩

/-! ## Links adopted into a feed that is there -/

/-- A filter that lets every link pass. -/
def passAll (links : List String) (policy : FilterPolicy) : NativeConfigFilterResult where
  policy := policy
  upstreamCount := links.length
  filteredCount := links.length
  selectedConfigs := links.map fun link => { rawLink := link }

/-- Ten links of one service, of which the first ones are under its feed already. -/
def partlyAdoptedDb (adopted : ℕ) : CupDb :=
  { oneLinkDb with
    items := ⟨(List.range 10).map fun i =>
        { pk := i, cup := 1, configLink := i, position := i },
      by decide⟩
    links := ⟨(List.range 10).map fun i =>
        { pk := i
          rawLink := s!"vless://{i}"
          sourceType := .panelGenerated
          sourcePanel := some 1
          vpnClient := some 1
          externalFeed := if i < adopted then some 1 else none },
      by simpa [Function.comp_def] using List.nodup_range⟩
    feeds := ⟨[{
        pk := 1
        provider := "pasarguard"
        cup := 1
        panel := some 1
        vpnClient := some 1
        resolvedFilterPolicy := oneLinkEnv.resolvedFilterPolicy none
        lastGoodConfigCount := adopted }], List.nodup_singleton _⟩ }

def adoptOp : FeedOp := .adopt 1 0

/-- The source lists two of the ten links. -/
def shrinkOp : FeedOp :=
  .refresh 1 0 "token" (.ok ["vless://0", "vless://1"])
    { claimNow := 0, claimClock := 0, writeNow := 1, writeClock := 1 }

/-- The feed remembers five links and shows ten, so that eight of them may go at once. -/
theorem adoption_defeats_drop_protection :
    let adopted := feedStep passAll oneLinkEnv (partlyAdoptedDb 5) adoptOp
    Tallied (partlyAdoptedDb 5) ∧ ¬ Counted adopted ∧
      ¬ KeepsLists adopted (feedStep passAll oneLinkEnv adopted shrinkOp) := by
  refine ⟨⟨⟨?_, ?_⟩, ?_⟩, ?_, ?_⟩
  all_goals decide +kernel

/-- Where all ten are under the feed, and counted, the short list is refused. -/
theorem drop_protection_of_ten :
    let db := partlyAdoptedDb 10
    KeepsLists db (feedStep passAll oneLinkEnv db shrinkOp) := by
  refine (drop_protection_of_harmless passAll oneLinkEnv (partlyAdoptedDb 10) [] shrinkOp
    ⟨⟨?_, ?_⟩, ?_⟩ ⟨?_, trivial⟩).2.1
  · decide +kernel
  · decide +kernel
  · decide +kernel
  · intro f hf links hlinks
    cases hf
    cases hlinks
    decide +kernel

end Qasedak.Subscriptions
