import Qasedak.Outreach.Runners

/-! What one step of an outreach run does to the events, the runs and the messages. -/

namespace Qasedak.Outreach

open Foundation Store CustomerActivity

/-! ## What a reservation rests on -/

/-- The check did not hold where the result is that of the checks after it. -/
theorem of_ite_eq {α : Type*} {P : Prop} [Decidable P] {a b c : α} (hne : a ≠ c)
    (h : (if P then a else b) = c) : ¬P ∧ b = c := by
  by_cases hP : P
  · rw [if_pos hP] at h
    exact absurd h hne
  · rw [if_neg hP] at h
    exact ⟨hP, h⟩

/-- What is so at the moment at which an event is reserved. -/
structure MayReserve {shop : Shop} (e : Surroundings shop) (rows : List OutreachEvent)
    (ev : OutreachEvent) (now : Instant) : Prop where
  customer : shop.customer ev.order ≠ none
  notRenewed : ¬ Renewed e (e.purchase ev.order).order
  notMuted : ¬ IsMuted e (shop.store ev.order) (shop.customer ev.order)
  noTicket : ¬ HasOpenTicket e (shop.store ev.order) (shop.customer ev.order)
  day : reservedSince rows ev.pk (fun pk => shop.customer pk = shop.customer ev.order)
    (now - Revenue.hours 24) = 0
  week : reservedSince rows ev.pk (fun pk => shop.customer pk = shop.customer ev.order)
    (now - Revenue.days 7) < 3
  store : reservedSince rows ev.pk (fun pk => shop.store pk = shop.store ev.order)
    (now - Revenue.days 1) < shop.dailyLimit (shop.store ev.order)

section Checks

variable {shop : Shop} {e : Surroundings shop}

theorem clientRenewalState_ne_none {o : Order} {now : Instant} {c : VPNClient} {renewal : Order}
    (hmem : renewal ∈ e.orders) (hrenewal : IsFulfilledRenewal o c renewal) :
    (clientRenewalState e o now c).isSome := by
  have hkept : renewal ∈ e.orders.filter fun r => IsFulfilledRenewal o c r :=
    List.mem_filter.mpr ⟨hmem, decide_eq_true hrenewal⟩
  have hfold : ∀ (l : List Order) (best : Option Order), best.isSome ∨ l ≠ [] →
      (l.foldl (fun best r => if best.any fun b => r.createdAt ≤ b.createdAt then best else some r)
        best).isSome := by
    intro l
    induction l with
    | nil =>
        intro best h
        simpa using h
    | cons r l ih =>
        intro best _
        apply ih
        left
        cases best with
        | none => simp
        | some b =>
            simp only [Option.any_some]
            split
            · rfl
            · rfl
  have hsome := hfold _ none (Or.inr (List.ne_nil_of_mem hkept))
  obtain ⟨latest, hlatest⟩ := Option.isSome_iff_exists.mp hsome
  simp only [clientRenewalState, hlatest, Option.isSome_some]

theorem not_renewed {o : Order} {now : Instant} (h : renewalState e o now = .none) :
    ¬ Renewed e o := by
  rintro ⟨c, hc, renewal, hmem, hrenewal⟩
  have hsome : (clientRenewalState e o now c).isSome :=
    clientRenewalState_ne_none hmem hrenewal
  have hfound : ((purchaseClients e o).findSome? (clientRenewalState e o now)).isSome := by
    rw [List.findSome?_isSome_iff]
    exact ⟨c, hc, hsome⟩
  obtain ⟨state, hstate⟩ := Option.isSome_iff_exists.mp hfound
  rw [renewalState, hstate, Option.getD_some] at h
  subst h
  -- no client is found in the state that stands for none
  obtain ⟨c', _, hc'⟩ := List.exists_of_findSome?_eq_some hstate
  simp only [clientRenewalState] at hc'
  split at hc'
  · simp at hc'
  · split at hc'
    · simp at hc'
    · simp at hc'

theorem not_renewed_of_candidateKind {pk : ℕ} {a : PurchaseActivity} {config : OutreachSettings}
    {now : Instant} {kind : EventKind} (h : candidateKind e pk a config now = some kind) :
    ¬ Renewed e (e.purchase pk).order := by
  simp only [candidateKind] at h
  cases hobserved : a.observedAt with
  | none => simp [hobserved] at h
  | some observedAt =>
      simp only [hobserved] at h
      obtain ⟨-, h⟩ := of_ite_eq (by simp) h
      obtain ⟨-, h⟩ := of_ite_eq (by simp) h
      obtain ⟨-, h⟩ := of_ite_eq (by simp) h
      obtain ⟨-, h⟩ := of_ite_eq (by simp) h
      obtain ⟨-, h⟩ := of_ite_eq (by simp) h
      obtain ⟨hrenewal, -⟩ := of_ite_eq (by simp) h
      exact not_renewed (not_not.mp hrenewal)

theorem mayReserve {rows : List OutreachEvent} {logs : List OfferLog} {ev : OutreachEvent}
    {a : PurchaseActivity} {config : OutreachSettings} {now : Instant} {kind : EventKind}
    (hcustomer : shop.customer ev.order ≠ none)
    (hlimit : config.dailyLimit ≤ shop.dailyLimit (shop.store ev.order))
    (hkind : candidateKind e ev.order a config now = some kind)
    (hreason : suppression e rows logs ev.order ev.pk config now = "") :
    MayReserve e rows ev now := by
  simp only [suppression] at hreason
  obtain ⟨-, h⟩ := of_ite_eq (by decide) hreason
  obtain ⟨-, h⟩ := of_ite_eq (by decide) h
  obtain ⟨hmuted, h⟩ := of_ite_eq (by decide) h
  obtain ⟨hticket, h⟩ := of_ite_eq (by decide) h
  obtain ⟨hcap, h⟩ := of_ite_eq (by decide) h
  obtain ⟨hstore, -⟩ := of_ite_eq (by decide) h
  simp only [not_or] at hcap
  obtain ⟨hday, -, hweek⟩ := hcap
  exact {
    customer := hcustomer
    notRenewed := not_renewed_of_candidateKind hkind
    notMuted := hmuted
    noTicket := hticket
    day := Nat.eq_zero_of_not_pos hday
    week := by omega
    store := by omega }

end Checks

/-! ## What a step does -/

/-- The event of a reservation whose message is not sent yet. -/
def Phase.held : Phase → Option OutreachEvent
  | .revalidating _ _ event => some event
  | .dropping _ _ event => some event
  | .sending _ _ event _ => some event
  | _ => none

/-- A change of an event that neither reserves it nor makes it pending again. -/
structure Settles (a b : OutreachEvent) : Prop where
  pk : b.pk = a.pk
  key : b.key = a.key
  reserved : b.status.Reserved → a.status.Reserved ∧ b.claimedAt = a.claimedAt
  pending : b.status.Pending → a.status.Pending

theorem Settles.refl (a : OutreachEvent) : Settles a a :=
  ⟨rfl, rfl, fun h => ⟨h, rfl⟩, id⟩

/-- A reservation that is given up. -/
def dropped (event : ℕ) (ev : OutreachEvent) : OutreachEvent :=
  if OutreachSystem.ifSending event ev then
    { ev with status := .cancelled, reason := "not_eligible" }
  else ev

section Does

variable {κ : Type*} [DecidableEq κ] {shop : Shop}

/-- What a step of run `i` does. -/
inductive Does (s : OutreachSystem κ) (i : κ) (e : Surroundings shop) : OutreachSystem κ → Prop
  | settles {s' : OutreachSystem κ} {phase : Phase} {g : OutreachEvent → OutreachEvent}
      (hg : ∀ ev ∈ s.events.rows, Settles ev (g ev)) (hrows : s'.events.rows = s.events.rows.map g)
      (hruns : s'.runs = (s.set i phase).runs) (hheld : phase.held = none)
      (hmessages : s'.messages = s.messages) : Does s i e s'
  | creates {s' : OutreachSystem κ} {phase : Phase} {ev : OutreachEvent}
      (hkey : ∀ x ∈ s.events.rows, x.key ≠ ev.key) (hpreview : ev.status = .preview)
      (hrows : s'.events.rows = s.events.rows ++ [ev])
      (hruns : s'.runs = (s.set i phase).runs) (hheld : phase.held = none)
      (hmessages : s'.messages = s.messages) : Does s i e s'
  | reserves {r : Round} {left : List ℕ} {ev : OutreachEvent} {target : Option BotUser}
      {body : String} {now : Instant} (hev : ev ∈ s.events.rows) (hready : ev.status = .ready)
      (hmay : MayReserve e s.events.rows ev now) :
      Does s i e (s.claim i r left ev target body now)
  | keeps {phase : Phase} {ev : OutreachEvent} (hbefore : (s.runs i).held = some ev)
      (hafter : phase.held = some ev) : Does s i e (s.set i phase)
  | drops {s' : OutreachSystem κ} {phase : Phase} {ev : OutreachEvent}
      (hbefore : (s.runs i).held = some ev)
      (hrows : s'.events.rows = s.events.rows.map (dropped ev.pk))
      (hruns : s'.runs = (s.set i phase).runs) (hheld : phase.held = none)
      (hmessages : s'.messages = s.messages) : Does s i e s'
  | sends {phase : Phase} {ev : OutreachEvent} {m : Message} (hbefore : (s.runs i).held = some ev)
      (hevent : m.event = ev.pk) (hkey : m.key = ev.key) (hheld : phase.held = none) :
      Does s i e { s.set i phase with messages := m :: s.messages }

variable {s : OutreachSystem κ} {i : κ} {e : Surroundings shop}

theorem does_set {phase : Phase} (hheld : phase.held = none) : Does s i e (s.set i phase) :=
  .settles (fun ev _ => Settles.refl ev) (List.map_id _).symm rfl hheld rfl

theorem does_update {p : OutreachEvent → Bool} {f : OutreachEvent → OutreachEvent}
    {hf : ∀ ev, (f ev).pk = ev.pk} {phase : Phase}
    (h : ∀ ev ∈ s.events.rows, p ev = true → Settles ev (f ev)) (hheld : phase.held = none) :
    Does s i e (s.update i p f hf phase) := by
  have hrows := s.update_rows i p f hf phase
  have hruns : (s.update i p f hf phase).runs = (s.set i phase).runs := rfl
  refine .settles (fun ev hev => ?_) hrows hruns hheld rfl
  by_cases hp : p ev = true
  · simpa [hp] using h ev hev hp
  · simpa [hp] using Settles.refl ev

/-- The status stays, and what is claimed. -/
theorem settles_of_same {a b : OutreachEvent} (hpk : b.pk = a.pk) (hkey : b.key = a.key)
    (hstatus : b.status = a.status) (hclaimed : b.claimedAt = a.claimedAt) : Settles a b := by
  refine ⟨hpk, hkey, fun h => ⟨?_, hclaimed⟩, fun h => ?_⟩
  · rwa [hstatus] at h
  · rwa [hstatus] at h

/-- A pending event gets a status of the pending ones. -/
theorem settles_of_pending {a b : OutreachEvent} (hpk : b.pk = a.pk) (hkey : b.key = a.key)
    (ha : a.status.Pending) (hb : b.status.Pending) : Settles a b := by
  refine ⟨hpk, hkey, fun h => ?_, fun _ => ha⟩
  rcases hb with hb | hb | hb <;> rcases h with h | h | h <;> rw [hb] at h <;> cases h

/-- An event that is `sending` gets a status that is final. -/
theorem settles_of_sending {a b : OutreachEvent} (hpk : b.pk = a.pk) (hkey : b.key = a.key)
    (ha : a.status = .sending) (hb : b.status = .sent ∨ b.status = .uncertain ∨ b.status = .failed)
    (hclaimed : b.claimedAt = a.claimedAt) : Settles a b := by
  refine ⟨hpk, hkey, fun _ => ⟨Or.inl ha, hclaimed⟩, fun h => ?_⟩
  rcases hb with hb | hb | hb <;> rcases h with h | h | h <;> rw [hb] at h <;> cases h

/-! ### The steps one by one -/

theorem does_create (r : Round) (orders : List ℕ) (key : EventKey) (activity : PurchaseActivity) :
    Does s i e (s.create i e r orders key activity) := by
  have hnext (event : OutreachEvent) (r : Round) : (if event.status.Pending then
      Phase.refreshing r orders event activity else .preparing r orders).held = none := by
    split
    · rfl
    · rfl
  simp only [OutreachSystem.create]
  split
  case h_1 event hfound => exact does_set (hnext event _)
  case h_2 hfound =>
      refine .creates (fun x hx => ?_) rfl rfl rfl ?_ rfl
      · have hne : ¬ x.key = key := by simpa using List.find?_eq_none.mp hfound x hx
        exact hne
      · split
        · rfl
        · rfl

theorem does_reserve (r : Round) (left : List ℕ) (pk : ℕ) (now : Instant) :
    Does s i e (s.reserve i e r left pk now) := by
  simp only [OutreachSystem.reserve]
  cases hget : s.events.get? pk with
  | none => exact does_set rfl
  | some ev =>
      obtain ⟨hev, rfl⟩ := Serial.get?_eq_some_iff.mp hget
      simp only
      by_cases hcustomer : shop.customer ev.order = none
      · rw [if_pos hcustomer]
        apply does_update _ rfl
        intro x _ hx
        have hready : x.status = .ready := by simp_all
        exact settles_of_pending rfl rfl (Or.inr (Or.inl hready)) (Or.inr (Or.inr rfl))
      · rw [if_neg hcustomer]
        by_cases hlive : (e.settings (shop.store ev.order)).mode ≠ .live ∨ ev.status ≠ .ready
        · rw [if_pos hlive]
          exact does_set rfl
        · rw [if_neg hlive]
          have hready : ev.status = .ready := by
            by_contra hne
            exact hlive (Or.inr hne)
          have hsame (x : OutreachEvent) (hx : x ∈ s.events.rows)
              (hpk : decide (x.pk = ev.pk) = true) : x = ev :=
            Serial.eq_of_key_eq hx hev (of_decide_eq_true hpk)
          cases hactivity : e.activity ev.order with
          | none => exact does_set rfl
          | some activity =>
              simp only
              by_cases hdue : activity.cycle ≠ ev.cycle ∨ candidateKind e ev.order activity
                  (e.settings (shop.store ev.order)) now ≠ some ev.kind
              · rw [if_pos hdue]
                apply does_update _ rfl
                intro x hx hpk
                rw [hsame x hx hpk]
                exact settles_of_pending rfl rfl (Or.inr (Or.inl hready)) (Or.inr (Or.inr rfl))
              · rw [if_neg hdue]
                by_cases hreason : suppression e s.events.rows (s.allLogs e) ev.order ev.pk
                    (e.settings (shop.store ev.order)) now ≠ ""
                · rw [if_pos hreason]
                  apply does_update _ rfl
                  intro x _ _
                  exact settles_of_same rfl rfl rfl rfl
                · rw [if_neg hreason]
                  simp only [not_or, not_not] at hdue
                  exact .reserves hev hready (mayReserve hcustomer (e.keepsLimit _) hdue.2
                    (not_not.mp hreason))

theorem does_revalidate {r : Round} {left : List ℕ} {event : OutreachEvent}
    (hheld : (s.runs i).held = some event) : Does s i e (s.revalidate i e r left event) := by
  simp only [OutreachSystem.revalidate]
  split
  · exact does_set rfl
  · split
    · exact .keeps hheld rfl
    · split
      · exact .keeps hheld rfl
      · exact .keeps hheld rfl

theorem does_record (r : Round) (left : List ℕ) (event : OutreachEvent) (answer : Answer) :
    Does s i e (s.record i e r left event answer) := by
  have hsettles : ∀ ev ∈ s.events.rows, OutreachSystem.ifSending event.pk ev = true →
      Settles ev (OutreachSystem.recorded answer e.now ev) := by
    intro ev _ hev
    have hsending : ev.status = .sending := by
      simp only [OutreachSystem.ifSending, Bool.and_eq_true, decide_eq_true_eq] at hev
      exact hev.2
    cases answer with
    | acknowledged messageId => exact settles_of_sending rfl rfl hsending (Or.inl rfl) rfl
    | rejected => exact settles_of_sending rfl rfl hsending (Or.inr (Or.inr rfl)) rfl
    | unknown => exact settles_of_sending rfl rfl hsending (Or.inr (Or.inl rfl)) rfl
  have hupdate : Does s i e (s.update i (OutreachSystem.ifSending event.pk)
      (OutreachSystem.recorded answer e.now) (OutreachSystem.recorded_pk answer e.now)
      (.looping r left)) := does_update hsettles rfl
  cases answer with
  | acknowledged messageId =>
      refine .settles (fun ev hev => ?_) rfl rfl rfl rfl
      by_cases hp : OutreachSystem.ifSending event.pk ev = true
      · simpa [hp] using hsettles ev hev hp
      · simpa [hp] using Settles.refl ev
  | rejected => exact hupdate
  | unknown => exact hupdate

theorem does_prepare (r : Round) (order : ℕ) (orders : List ℕ) :
    Does s i e (s.prepare i e r order orders) := by
  simp only [OutreachSystem.prepare]
  cases e.activity order with
  | none => exact does_set rfl
  | some activity =>
      simp only
      cases candidateKind e order activity r.config r.now with
      | none =>
          simp only
          split
          · exact does_update (fun x _ _ => settles_of_same rfl rfl rfl rfl) rfl
          · exact does_set rfl
      | some kind =>
          simp only
          split
          · exact does_update (fun x _ _ => settles_of_same rfl rfl rfl rfl) rfl
          · exact does_set rfl

theorem does_interrupt (now : Instant) (storeId : Option ℕ) :
    Does s i e (s.interrupt i e now storeId) := by
  apply does_update _ rfl
  intro x _ hx
  have hsending : x.status = .sending := by
    simp only [Bool.and_eq_true, decide_eq_true_eq] at hx
    exact hx.1
  exact settles_of_sending rfl rfl hsending (Or.inr (Or.inl rfl)) rfl

theorem does_write (r : Round) (orders : List ℕ) (event : ℕ) (body reason : String) :
    Does s i e (s.write i r orders event body reason) := by
  apply does_update _ rfl
  intro x _ hx
  simp only [Bool.and_eq_true, decide_eq_true_eq] at hx
  refine settles_of_pending rfl rfl hx.2 ?_
  by_cases hlive : r.config.mode ≠ .live
  · exact Or.inl (if_pos hlive)
  · exact Or.inr (Or.inl (if_neg hlive))

theorem does_cancelOthers (r : Round) : Does s i e (OutreachSystem.cancelOthers shop s i r) := by
  apply does_update _ rfl
  intro x _ hx
  simp only [Bool.and_eq_true, decide_eq_true_eq] at hx
  exact settles_of_pending rfl rfl hx.1.2 (Or.inr (Or.inr rfl))

theorem does_choose (now : Instant) (stores : List ℕ) :
    Does s i e (s.choose i e now stores) := by
  simp only [OutreachSystem.choose]
  split
  · exact does_set rfl
  · exact does_set rfl

theorem does_refresh (r : Round) (orders : List ℕ) (event : OutreachEvent)
    (activity : PurchaseActivity) : Does s i e (s.refresh i e r orders event activity) := by
  simp only [OutreachSystem.refresh]
  exact does_set rfl

theorem does_list (r : Round) : Does s i e (s.list i r) := by
  simp only [OutreachSystem.list]
  exact does_set rfl

theorem does_advance (answer : Answer) : Does s i e (s.advance i e answer) := by
  simp only [OutreachSystem.advance]
  split
  case h_1 hphase =>
      have hsame : s.set i .idle = s := by
        rw [← hphase]
        exact congrArg (fun runs => { s with runs := runs }) (Function.update_eq_self i s.runs)
      have hdoes : Does s i e (s.set i .idle) := does_set rfl
      rwa [hsame] at hdoes
  case h_2 now storeId _ => exact does_interrupt now storeId
  case h_3 now stores _ => exact does_choose now stores
  case h_4 => exact does_set rfl
  case h_5 r order orders _ => exact does_prepare r order orders
  case h_6 r orders key activity _ => exact does_create r orders key activity
  case h_7 r orders event activity _ => exact does_refresh r orders event activity
  case h_8 r orders event body reason _ => exact does_write r orders event body reason
  case h_9 r _ => exact does_cancelOthers r
  case h_10 r _ => exact does_list r
  case h_11 => exact does_set rfl
  case h_12 => exact does_set rfl
  case h_13 r left event now _ => exact does_reserve r left event now
  case h_14 hphase => exact does_revalidate (by rw [hphase]; rfl)
  case h_15 hphase => exact .drops (by rw [hphase]; rfl) rfl rfl rfl rfl
  case h_16 hphase => exact .sends (by rw [hphase]; rfl) rfl rfl rfl
  case h_17 r left event answer _ => exact does_record r left event answer

end Does

end Qasedak.Outreach
