import Qasedak.FreeTrials.Leftovers
import Mathlib.Data.Fintype.Basic

/-! The clients of trials on their panels: one that is not saved is deleted, unless the panel does
not delete it, and the deletion touches no client of a local service. -/

namespace Qasedak.FreeTrials

open Foundation Store

variable {κ : Type*} [DecidableEq κ] {shop : TrialShop}

/-! ## Identities -/

/-- The clients of two calls are not taken for each other. -/
def Apart (c d : Call shop) (a b : TrialClient) : Prop :=
  a.uuid ≠ b.uuid ∧ ¬ (c.settings.panel = d.settings.panel ∧ a.email = b.email)

instance (c d : Call shop) (a b : TrialClient) : Decidable (Apart c d a b) :=
  inferInstanceAs (Decidable (_ ∧ _))

/-- No local service, no client of the panel and no client of another call has the identity. -/
structure Fresh (s : TrialSystem shop κ) (i : κ) (c : Call shop) (client : TrialClient) : Prop where
  notOwned : ¬ s.IsOwned c client
  notOnPanel : ∀ x ∈ s.panelClients, ¬ x.Matches c.settings.panel client
  notHeld : ∀ j, j ≠ i → ∀ d ∈ s.calls j, ∀ other ∈ d.phase.held, Apart c d client other

instance [Fintype κ] (s : TrialSystem shop κ) (i : κ) (c : Call shop) (client : TrialClient) :
    Decidable (Fresh s i c client) :=
  decidable_of_iff (¬ s.IsOwned c client ∧
      (∀ x ∈ s.panelClients, ¬ x.Matches c.settings.panel client) ∧
      ∀ j, j ≠ i → ∀ d ∈ s.calls j, ∀ other ∈ d.phase.held, Apart c d client other)
    ⟨fun h => ⟨h.1, h.2.1, h.2.2⟩, fun h => ⟨h.notOwned, h.notOnPanel, h.notHeld⟩⟩

/-- A panel that made a client says so, with a fresh identity, and the look-up before a deletion
answers. -/
def PanelAnswers (s : TrialSystem shop κ) (i : κ) (c : Call shop) (o : Outcome) : Prop :=
  match c.phase, o.creation with
  | .creating _, .made client => Fresh s i c client
  | .creating _, .kept client => Fresh s i c client
  | .creating _, .lost _ => False
  | .cleaning _ _ _, _ => o.fault = none
  | _, _ => True

instance [Fintype κ] (s : TrialSystem shop κ) (i : κ) (c : Call shop) (o : Outcome) :
    Decidable (PanelAnswers s i c o) := by
  unfold PanelAnswers
  split <;> infer_instance

/-- The client of a call is saved, held by its call, or known to be left over. -/
def Kept (s : TrialSystem shop κ) (x : PanelClient κ) (i : κ) : Prop :=
  i ∈ s.undeleted ∨
    (∃ c client, s.calls i = some c ∧ c.phase.held = some client ∧
      x.Matches c.settings.panel client) ∨
    ∃ c k, Asks s i c k ∧ ∃ r ∈ s.requests.rows, r.pk = k ∧ r.status = .delivered

structure Tidy (s : TrialSystem shop κ) : Prop where
  free : ∀ {i c client}, s.calls i = some c → c.phase.held = some client → ¬ s.IsOwned c client
  only : ∀ {i c client}, s.calls i = some c → c.phase.held = some client →
    ∀ x ∈ s.panelClients, x.Matches c.settings.panel client →
      x.uuid = client.uuid ∧ x.email = client.email
  apart : ∀ {i j c d a b}, i ≠ j → s.calls i = some c → s.calls j = some d →
    c.phase.held = some a → d.phase.held = some b → Apart c d a b
  made : ∀ x ∈ s.panelClients, ∀ i ∈ x.call, Kept s x i

section Panels

variable {first : ℕ} {s s' : TrialSystem shop κ} {i j : κ} {c d : Call shop} {phase : Phase}

theorem Apart.symm {a b : TrialClient} (h : Apart c d a b) : Apart d c b a :=
  ⟨h.1.symm, fun ⟨hpanel, hemail⟩ => h.2 ⟨hpanel.symm, hemail.symm⟩⟩

/-- A client that a trial was saved as is not that of another trial. -/
theorem not_ownsIdentity_of_apart {a b : TrialClient} (h : Apart c d a b) {x : VPNClient}
    (huuid : x.uuid = some a.uuid) (hemail : x.xuiEmail = a.email)
    (hinbound : x.inbound = some c.settings.inbound) :
    ¬ OwnsIdentity shop x d.settings.panel b.uuid b.email := by
  intro hown
  rcases hown with huuid' | ⟨-, hpanel, hemail'⟩
  · rw [huuid] at huuid'
    exact h.1 (Option.some.inj huuid')
  · rw [hinbound, Option.any_some, decide_eq_true_eq, c.settings.panel_eq] at hpanel
    exact h.2 ⟨hpanel, hemail.symm.trans hemail'⟩

/-- What a step of the call `i` to `phase` leaves as it was. -/
structure Moves (s s' : TrialSystem shop κ) (i : κ) (c : Call shop) (phase : Phase) : Prop where
  caller : ∀ d, s.calls i = some d → d = c
  calls : s'.calls = (s.set i c phase).calls
  request : c.phase.request = none ∨ phase.request = c.phase.request
  undeleted : s.undeleted ⊆ s'.undeleted
  delivered : ∀ r ∈ s.requests.rows, r.status = .delivered → r ∈ s'.requests.rows

theorem Moves.call_cases (h : Moves s s' i c phase) (hd : s'.calls j = some d) :
    j = i ∧ d = { c with phase := phase } ∨ j ≠ i ∧ s.calls j = some d := by
  rw [h.calls] at hd
  by_cases hji : j = i
  · subst hji
    rw [TrialSystem.set_calls_self] at hd
    exact Or.inl ⟨rfl, (Option.some.inj hd).symm⟩
  · rw [TrialSystem.set_calls_of_ne phase hji] at hd
    exact Or.inr ⟨hji, hd⟩

theorem Kept.moves {x : PanelClient κ} (h : Kept s x j) (hm : Moves s s' i c phase)
    (hheld : ∀ client, s.calls i = some c → c.phase.held = some client →
      x.Matches c.settings.panel client → j = i → Kept s' x i) : Kept s' x j := by
  rcases h with hundeleted | ⟨d, client, hd, hclient, hmatches⟩ | ⟨d, k, hd, r, hr, hpk, hstatus⟩
  · exact Or.inl (hm.undeleted hundeleted)
  · by_cases hji : j = i
    · subst hji
      obtain rfl := hm.caller d hd
      exact hheld client hd hclient hmatches rfl
    · refine Or.inr (Or.inl ⟨d, client, ?_, hclient, hmatches⟩)
      rw [hm.calls, TrialSystem.set_calls_of_ne phase hji]
      exact hd
  · have hr := hm.delivered r hr hstatus
    refine Or.inr (Or.inr ?_)
    by_cases hji : j = i
    · subst hji
      obtain rfl := hm.caller d hd.call
      have hrequest : phase.request = some k := by
        rcases hm.request with hnone | hsame
        · rw [hd.request] at hnone
          cases hnone
        · exact hsame.trans hd.request
      refine ⟨{ d with phase := phase }, k, ⟨?_, hrequest⟩, r, hr, hpk, hstatus⟩
      rw [hm.calls, TrialSystem.set_calls_self]
    · refine ⟨d, k, ⟨?_, hd.request⟩, r, hr, hpk, hstatus⟩
      rw [hm.calls, TrialSystem.set_calls_of_ne phase hji]
      exact hd.call

/-- A step that makes no client, and after which the call holds the one that it held or none. -/
theorem Tidy.moves (h : Tidy s) (hm : Moves s s' i c phase)
    (hheld : ∀ client, phase.held = some client → s.calls i = some c ∧ c.phase.held = some client)
    (hpanel : s'.panelClients ⊆ s.panelClients)
    (hfree : ∀ j d client, s'.calls j = some d → d.phase.held = some client →
      ¬ s.IsOwned d client → ¬ s'.IsOwned d client)
    (hmade : ∀ x ∈ s'.panelClients, x.call = some i → ∀ client, s.calls i = some c →
      c.phase.held = some client → x.Matches c.settings.panel client → Kept s' x i) : Tidy s' := by
  have hold {j : κ} {d : Call shop} {client : TrialClient} (hd : s'.calls j = some d)
      (hclient : d.phase.held = some client) : ∃ e, s.calls j = some e ∧
      e.settings = d.settings ∧ e.phase.held = some client := by
    rcases hm.call_cases hd with ⟨rfl, rfl⟩ | ⟨-, hd⟩
    · exact ⟨c, (hheld client hclient).1, rfl, (hheld client hclient).2⟩
    · exact ⟨d, hd, rfl, hclient⟩
  exact {
    free := by
      intro j d client hd hclient
      obtain ⟨e, he, hsettings, hclient'⟩ := hold hd hclient
      apply hfree j d client hd hclient
      have hnot := h.free he hclient'
      simpa only [TrialSystem.IsOwned, hsettings] using hnot
    only := by
      intro j d client hd hclient x hx hmatches
      obtain ⟨e, he, hsettings, hclient'⟩ := hold hd hclient
      rw [← hsettings] at hmatches
      exact h.only he hclient' x (hpanel hx) hmatches
    apart := by
      intro j j' d d' a b hne hd hd' ha hb
      obtain ⟨e, he, hsettings, ha'⟩ := hold hd ha
      obtain ⟨e', he', hsettings', hb'⟩ := hold hd' hb
      have hapart := h.apart hne he he' ha' hb'
      simpa only [Apart, hsettings, hsettings'] using hapart
    made := by
      intro x hx j hj
      apply (h.made x (hpanel hx) j hj).moves hm
      rintro client hi hclient hmatches rfl
      exact hmade x hx hj client hi hclient hmatches }

/-- A step that makes a client. -/
theorem Tidy.adds (h : Tidy s) {client : TrialClient} (hm : Moves s s' i c phase)
    (hfresh : Fresh s i c client) (hbefore : c.phase.held = none)
    (hheld : phase.held = none ∨ phase.held = some client)
    (hpanel : s'.panelClients = TrialSystem.panelClient i c client :: s.panelClients)
    (hdb : s'.db = s.db) (hkept : Kept s' (TrialSystem.panelClient i c client) i) : Tidy s' := by
  have hself (a : TrialClient) (ha : phase.held = some a) : a = client := by
    rcases hheld with hnone | hsome
    · rw [hnone] at ha
      cases ha
    · rw [hsome] at ha
      exact (Option.some.inj ha).symm
  exact {
    free := by
      intro j d a hd ha
      have hsame : s'.IsOwned d a ↔ s.IsOwned d a := by rw [TrialSystem.IsOwned, hdb]; rfl
      rw [hsame]
      rcases hm.call_cases hd with ⟨rfl, rfl⟩ | ⟨-, hd⟩
      · rw [hself a ha]
        exact hfresh.notOwned
      · exact h.free hd ha
    only := by
      intro j d a hd ha x hx hmatches
      rw [hpanel] at hx
      rcases hm.call_cases hd with ⟨rfl, rfl⟩ | ⟨hji, hd⟩
      · obtain rfl := hself a ha
        rcases List.mem_cons.mp hx with rfl | hx
        · exact ⟨rfl, rfl⟩
        · exact absurd hmatches (hfresh.notOnPanel x hx)
      · rcases List.mem_cons.mp hx with rfl | hx
        · -- the new client is not taken for that of another call
          obtain ⟨huuid, hemail⟩ := hfresh.notHeld j hji d hd a ha
          rcases hmatches.2 with hsame | hsame
          · exact absurd hsame huuid
          · exact absurd ⟨hmatches.1, hsame⟩ hemail
        · exact h.only hd ha x hx hmatches
    apart := by
      intro j j' d d' a b hne hd hd' ha hb
      rcases hm.call_cases hd with ⟨rfl, rfl⟩ | ⟨hji, hd⟩
      · rcases hm.call_cases hd' with ⟨rfl, rfl⟩ | ⟨hj'i, hd'⟩
        · exact absurd rfl hne
        · obtain rfl := hself a ha
          exact hfresh.notHeld j' hj'i d' hd' b hb
      · rcases hm.call_cases hd' with ⟨rfl, rfl⟩ | ⟨hj'i, hd'⟩
        · obtain rfl := hself b hb
          exact (hfresh.notHeld j hji d hd a ha).symm
        · exact h.apart hne hd hd' ha hb
    made := by
      intro x hx j hj
      rw [hpanel] at hx
      rcases List.mem_cons.mp hx with rfl | hx
      · obtain rfl := Option.some.inj hj
        exact hkept
      · apply (h.made x hx j hj).moves hm
        intro a _ ha
        rw [hbefore] at ha
        cases ha }

omit [DecidableEq κ] in
theorem isOwned_congr (hdb : s'.db = s.db) (d : Call shop) (client : TrialClient) :
    s'.IsOwned d client ↔ s.IsOwned d client := by
  rw [TrialSystem.IsOwned, hdb]
  rfl

/-- A step that saves and deletes nothing. -/
theorem Tidy.quiet (h : Tidy s) (hm : Moves s s' i c phase)
    (hheld : ∀ client, phase.held = some client → s.calls i = some c ∧ c.phase.held = some client)
    (hpanel : s'.panelClients = s.panelClients) (hdb : s'.db = s.db)
    (hmade : ∀ x ∈ s.panelClients, ∀ client, c.phase.held = some client →
      x.Matches c.settings.panel client → Kept s' x i) : Tidy s' := by
  apply h.moves hm hheld
  · rw [hpanel]
    exact List.Subset.refl _
  · intro j d client _ _ hfree
    rwa [isOwned_congr hdb]
  · intro x hx _ client _ hclient hmatches
    rw [hpanel] at hx
    exact hmade x hx client hclient hmatches

/-- The trial is saved: its client is that of a local service now. -/
theorem Tidy.delivers (h : Tidy s) (hi : s.calls i = some c) {client : TrialClient}
    (hclient : c.phase.held = some client) (hm : Moves s s' i c phase) (hheld : phase.held = none)
    (hpanel : s'.panelClients = s.panelClients) (hsaved : Saved c.settings client s.db s'.db)
    (hkept : ∀ x, Kept s' x i) : Tidy s' := by
  apply h.moves hm
  · intro a ha
    rw [hheld] at ha
    cases ha
  · rw [hpanel]
    exact List.Subset.refl _
  · intro j d a hd ha hfree howned
    obtain ⟨x, hx, hown⟩ := howned
    obtain ⟨new, hclients, -, huuid, hemail, hinbound⟩ := hsaved.clients
    rw [hclients] at hx
    rcases List.mem_append.mp hx with hx | hx
    · exact hfree ⟨x, hx, hown⟩
    · obtain rfl := List.mem_singleton.mp hx
      rcases hm.call_cases hd with ⟨rfl, rfl⟩ | ⟨hji, hd⟩
      · rw [hheld] at ha
        cases ha
      · exact not_ownsIdentity_of_apart (h.apart (Ne.symm hji) hi hd hclient ha) huuid hemail
          hinbound hown
  · exact fun x _ _ _ _ _ _ => hkept x

theorem Tidy.does (h : Tidy s) (hown : Owned first s) (hi : s.calls i = some c) {o : Outcome}
    (hpanels : PanelAnswers s i c o) (hdoes : Does s i c o s') : Tidy s' := by
  have hcaller : ∀ d, s.calls i = some d → d = c := fun d hd =>
    Option.some.inj (hd.symm.trans hi)
  have hsubset : s.undeleted ⊆ s.undeleted := List.Subset.refl _
  cases hdoes with
  | waits => exact h
  | @passes phase locks rows hrequest hheld _ _ _ _ _ =>
      have hm : Moves s { s.set i c phase with locks := locks, rows := rows } i c phase :=
        ⟨hcaller, rfl, Or.inr hrequest, hsubset, fun r hr _ => hr⟩
      apply h.quiet hm
      · intro client hclient
        exact ⟨hi, hheld ▸ hclient⟩
      · rfl
      · rfl
      · intro x hx client hclient hmatches
        refine Or.inr (Or.inl ⟨{ c with phase := phase }, client, ?_, hheld.trans hclient, hmatches⟩)
        simp [TrialSystem.set]
  | @inserts now t hphase _ =>
      have hm : Moves s { s.set i c (.creating s.requests.next) with
          rows := s.unlockRow c
          requests := s.requests.append (s.newRequest c now) fun _ => rfl }
          i c (.creating s.requests.next) :=
        ⟨hcaller, rfl, Or.inl (by rw [hphase]; rfl), hsubset,
          fun r hr _ => List.mem_append_left _ hr⟩
      apply h.quiet hm
      · intro client hclient
        cases hclient
      · rfl
      · rfl
      · intro x hx client hclient
        rw [hphase] at hclient
        cases hclient
  | @creates k client hphase hcreation =>
      have hfresh : Fresh s i c client := by
        simpa [PanelAnswers, hphase, hcreation] using hpanels
      have hm : Moves s (s.created i c client (.committing k client)) i c (.committing k client) :=
        ⟨hcaller, rfl, Or.inr (by rw [hphase]; rfl), hsubset, fun r hr _ => hr⟩
      apply h.adds hm hfresh (by rw [hphase]; rfl) (Or.inr rfl) rfl rfl
      exact Or.inr (Or.inl ⟨_, client, TrialSystem.set_calls_self _, rfl, rfl, Or.inl rfl⟩)
  | loses hphase hcreation => simp [PanelAnswers, hphase, hcreation] at hpanels
  | @keeps k client error hphase hcreation =>
      have hfresh : Fresh s i c client := by
        simpa [PanelAnswers, hphase, hcreation] using hpanels
      have hm : Moves s { s.created i c client (.failing k error) with
          undeleted := i :: s.undeleted } i c (.failing k error) :=
        ⟨hcaller, rfl, Or.inr (by rw [hphase]; rfl), List.subset_cons_self i _,
          fun r hr _ => hr⟩
      exact h.adds hm hfresh (by rw [hphase]; rfl) (Or.inl rfl) rfl rfl
        (Or.inl List.mem_cons_self)
  | @delivers k client r db hphase hr hsave =>
      have hpending : c.phase.pending = some k := by
        rw [hphase]
        rfl
      obtain ⟨x, hx, hpk, -, -, hstatus⟩ := hown.row ⟨hi, Phase.request_of_pending hpending⟩
      subst hpk
      have hrows := rows_modify_pk s.requests x.pk
        (TrialSystem.delivered client s.db.clients.next s.clock) fun _ => rfl
      have hm : Moves s { s.set i c (.releasing (some x.pk)) with
          db := db
          requests := s.requests.modify (·.pk = x.pk)
            (TrialSystem.delivered client s.db.clients.next s.clock) fun _ => rfl }
          i c (.releasing (some x.pk)) := by
        refine ⟨hcaller, rfl, Or.inr (by rw [hphase]; rfl), hsubset, fun q hq hd => ?_⟩
        dsimp only
        rw [hrows]
        exact mem_of_delivered hx (hstatus hpending) _ q hq hd
      apply h.delivers hi (by rw [hphase]; rfl) hm rfl rfl (saved_of_saveTrial hsave)
      intro y
      refine Or.inr (Or.inr ⟨_, x.pk, ⟨TrialSystem.set_calls_self _, rfl⟩,
        TrialSystem.delivered client s.db.clients.next s.clock x, ?_, rfl, rfl⟩)
      dsimp only
      rw [hrows]
      exact List.mem_map.mpr ⟨x, hx, if_pos rfl⟩
  | givesUp hphase hwhy =>
      exfalso
      rcases hwhy with hfault | howned
      · simp only [PanelAnswers, hphase] at hpanels
        exact hfault hpanels
      · exact h.free hi (by rw [hphase]; rfl) howned
  | @deletes k client cause error undeleted hphase hundeleted =>
      have hm : Moves s { s.set i c (.failing k error) with
          panelClients := s.remaining c client
          undeleted := undeleted } i c (.failing k error) :=
        ⟨hcaller, rfl, Or.inr (by rw [hphase]; rfl), hundeleted, fun r hr _ => hr⟩
      apply h.moves hm
      · intro a ha
        cases ha
      · exact List.filter_sublist.subset
      · intro j d a _ _ hfree
        exact hfree
      · intro x hx _ a _ ha hmatches
        -- what the call held is gone from the panel
        rw [hphase] at ha
        obtain rfl := Option.some.inj ha
        exact absurd hmatches (of_decide_eq_true (List.mem_filter.mp hx).2)
  | @cannotDelete k client cause error hphase =>
      have hm : Moves s { s.set i c (.failing k error) with undeleted := i :: s.undeleted }
          i c (.failing k error) :=
        ⟨hcaller, rfl, Or.inr (by rw [hphase]; rfl), List.subset_cons_self i _,
          fun r hr _ => hr⟩
      apply h.quiet hm
      · intro a ha
        cases ha
      · rfl
      · rfl
      · intro _ _ _ _ _
        exact Or.inl List.mem_cons_self
  | @fails k error hphase =>
      have hpending : c.phase.pending = some k := by
        rw [hphase]
        rfl
      obtain ⟨x, hx, hpk, -, -, hstatus⟩ := hown.row ⟨hi, Phase.request_of_pending hpending⟩
      subst hpk
      have hrows := rows_modify_pk s.requests x.pk
        (fun r => { r with status := .failed, errorMessage := error }) fun _ => rfl
      have hm : Moves s { s.set i c (.releasing (some x.pk)) with
          requests := s.requests.modify (·.pk = x.pk)
            (fun r => { r with status := .failed, errorMessage := error }) fun _ => rfl }
          i c (.releasing (some x.pk)) := by
        refine ⟨hcaller, rfl, Or.inr (by rw [hphase]; rfl), hsubset, fun q hq hd => ?_⟩
        dsimp only
        rw [hrows]
        exact mem_of_delivered hx (hstatus hpending) _ q hq hd
      apply h.quiet hm
      · intro a ha
        cases ha
      · rfl
      · rfl
      · intro _ _ a ha
        rw [hphase] at ha
        cases ha

/-- A client that disappears from a panel belongs to no local service. -/
def SparesServices (s s' : TrialSystem shop κ) : Prop :=
  ∀ x ∈ s.panelClients, x ∉ s'.panelClients →
    ∀ v ∈ s.db.clients.rows, ¬ OwnsIdentity shop v x.panel x.uuid x.email

theorem Tidy.spares (h : Tidy s) (hi : s.calls i = some c) {o : Outcome}
    (hdoes : Does s i c o s') : SparesServices s s' := by
  intro x hx hgone
  cases hdoes with
  | waits => exact absurd hx hgone
  | passes _ _ _ _ _ _ _ => exact absurd hx hgone
  | inserts _ _ => exact absurd hx hgone
  | creates _ _ => exact absurd (List.mem_cons_of_mem _ hx) hgone
  | loses _ _ => exact absurd (List.mem_cons_of_mem _ hx) hgone
  | keeps _ _ => exact absurd (List.mem_cons_of_mem _ hx) hgone
  | delivers _ _ _ => exact absurd hx hgone
  | givesUp _ _ => exact absurd hx hgone
  | @deletes k client cause error undeleted hphase _ =>
      have hheld : c.phase.held = some client := by
        rw [hphase]
        rfl
      have hmatches : x.Matches c.settings.panel client := by
        by_contra hno
        exact hgone (List.mem_filter.mpr ⟨hx, decide_eq_true hno⟩)
      obtain ⟨huuid, hemail⟩ := h.only hi hheld x hx hmatches
      intro v hv hown
      apply h.free hi hheld
      rw [huuid, hemail, hmatches.1] at hown
      exact ⟨v, hv, hown⟩
  | cannotDelete _ => exact absurd hx hgone
  | fails _ => exact absurd hx hgone

theorem Tidy.start (h : Tidy s) (hi : s.calls i = none) (a : Applicant)
    (settings : TrialSettings shop) :
    Tidy (s.set i ⟨a, settings, .prechecking⟩ .prechecking) := by
  have hm : Moves s (s.set i ⟨a, settings, .prechecking⟩ .prechecking) i
      ⟨a, settings, .prechecking⟩ .prechecking := by
    refine ⟨fun d hd => ?_, rfl, Or.inl rfl, List.Subset.refl _, fun r hr _ => hr⟩
    rw [hi] at hd
    cases hd
  apply h.quiet hm
  · intro client hclient
    cases hclient
  · rfl
  · rfl
  · intro _ _ client hclient
    cases hclient

omit [DecidableEq κ] in
theorem Tidy.tick (h : Tidy s) (t : Instant) : Tidy { s with clock := t } where
  free := h.free
  only := h.only
  apart := h.apart
  made x hx i hi := by
    rcases h.made x hx i hi with hleft | hheld | ⟨c, k, hc, hrest⟩
    · exact Or.inl hleft
    · exact Or.inr (Or.inl hheld)
    · exact Or.inr (Or.inr ⟨c, k, ⟨hc.call, hc.request⟩, hrest⟩)

/-- The panels answer in the step, and identities are fresh. -/
def PanelsAnswer (s : TrialSystem shop κ) : TrialStep κ → Prop
  | .advance i o => ∀ c ∈ s.calls i, PanelAnswers s i c o
  | _ => True

instance [Fintype κ] (s : TrialSystem shop κ) (a : TrialStep κ) : Decidable (PanelsAnswer s a) :=
  match a with
  | .advance i o => inferInstanceAs (Decidable (∀ c ∈ s.calls i, PanelAnswers s i c o))
  | .start _ _ _ => inferInstanceAs (Decidable True)
  | .tick _ => inferInstanceAs (Decidable True)

theorem Tidy.step (h : Tidy s) (hown : Owned first s) {a : TrialStep κ} (ha : PanelsAnswer s a) :
    Tidy (s.step a) := by
  cases a with
  | tick duration => exact h.tick _
  | start i a store =>
      rcases step_start s i a store with hsame | ⟨hi, settings, hstart⟩
      · rw [hsame]
        exact h
      · rw [hstart]
        exact h.start hi a settings
  | advance i o =>
      simp only [TrialSystem.step]
      split
      · exact h
      · rename_i c hi
        exact h.does hown hi (ha c hi) does_advance

theorem Tidy.spares_step (h : Tidy s) (a : TrialStep κ) : SparesServices s (s.step a) := by
  cases a with
  | tick duration => exact fun x hx hgone => absurd hx hgone
  | start i a store =>
      intro x hx hgone
      rcases step_start s i a store with hsame | ⟨hi, settings, hstart⟩
      · rw [hsame] at hgone
        exact absurd hx hgone
      · rw [hstart] at hgone
        exact absurd hx hgone
  | advance i o =>
      simp only [TrialSystem.step]
      split
      · exact fun x hx hgone => absurd hx hgone
      · rename_i c hi
        exact h.spares hi does_advance

end Panels

end Qasedak.FreeTrials
