import Qasedak.Orders.Approval

/-! What an attempt to renew did to the panel, and where its process may have died. -/

namespace Qasedak.Orders

open Foundation Store Panels Payments

/-! ## The panel after an update -/

/-- The panel's client is the one of the service, by its uuid or its e-mail. -/
def IsServiceClient (i : Inbound) (c : VPNClient) (t : RemoteClient) : Prop :=
  (t.panel = i.panel ∧ t.inbound = i.inboundId) ∧ (some t.id = c.uuid ∨ t.email = serviceEmail c)

instance (i : Inbound) (c : VPNClient) (t : RemoteClient) : Decidable (IsServiceClient i c t) :=
  inferInstanceAs (Decidable (_ ∧ _))

theorem findServiceClient_eq (r : Remote) (i : Inbound) (c : VPNClient) :
    findServiceClient r i c = r.clients.find? fun t => IsServiceClient i c t := by
  rw [findServiceClient, Remote.inboundClients, List.find?_filter]
  congr 1
  funext t
  apply decide_eq_decide.mpr
  simp only [decide_eq_true_eq]
  rfl

/-- After an update the client that a service is has become the payload, or it was found
under one key and addressed under another, and the panel has no client of that other
key any more. -/
theorem findServiceClient_updateClient {r r' : Remote} {modern : Bool} {i : Inbound}
    {c : VPNClient} {t : RemoteClient} {plan : Plan} {e : ℤ} {u : String}
    (hu : c.uuid = some u) (ht : findServiceClient r i c = some t)
    (h : Remote.updateClient modern i.panel i.inboundId u (serviceEmail c)
      (renewedClient t plan e) r = .ok (r', ())) :
    (∀ t', findServiceClient r' i c = some t' →
        t' = { renewedClient t plan e with used := t.used }) ∨
      ∀ x ∈ r'.clients,
        ¬ Remote.Addressed modern i.panel i.inboundId u (serviceEmail c) x := by
  unfold Remote.updateClient at h
  split at h
  case isFalse => cases h
  case isTrue =>
  simp only [Except.ok.injEq, Prod.mk.injEq, and_true] at h
  subst h
  rw [findServiceClient_eq] at ht
  obtain ⟨⟨hpanel, hinbound⟩, hkey⟩ : IsServiceClient i c t := by
    simpa using List.find?_some ht
  by_cases hit : Remote.Addressed modern i.panel i.inboundId u (serviceEmail c) t
  · left
    intro t' ht'
    rw [findServiceClient_eq, List.find?_map] at ht'
    -- The update moves no client in or out of the service's reach.
    have hsame : ∀ x, IsServiceClient i c
        (if Remote.Addressed modern i.panel i.inboundId u (serviceEmail c) x then
          { renewedClient t plan e with used := x.used } else x) ↔ IsServiceClient i c x := by
      intro x
      by_cases hx : Remote.Addressed modern i.panel i.inboundId u (serviceEmail c) x
      · rw [if_pos hx]
        obtain ⟨hp, hi, hk⟩ := hx
        refine ⟨fun _ => ⟨⟨hp, hi⟩, ?_⟩, fun _ => ⟨⟨hpanel, hinbound⟩, hkey⟩⟩
        cases modern with
        | true => exact .inr (by simpa using hk)
        | false => exact .inl (by rw [hu]; simpa using hk)
      · rw [if_neg hx]
    have hfind : r.clients.find? ((fun t => decide (IsServiceClient i c t)) ∘ fun x =>
        if Remote.Addressed modern i.panel i.inboundId u (serviceEmail c) x then
          { renewedClient t plan e with used := x.used } else x) = some t := by
      rw [← ht]
      congr 1
      funext x
      simpa using hsame x
    rw [hfind] at ht'
    simpa [if_pos hit] using ht'.symm
  · right
    intro x hx
    obtain ⟨y, -, rfl⟩ := List.mem_map.mp hx
    by_cases hy : Remote.Addressed modern i.panel i.inboundId u (serviceEmail c) y
    · rw [if_pos hy]
      exact hit
    · rw [if_neg hy]
      exact hy

/-- An update is carried out only where the panel has a client that it addresses. -/
theorem exists_addressed_of_updateClient {r r' : Remote} {modern : Bool} {panel inbound : ℕ}
    {identifier email : String} {payload : RemoteClient}
    (h : Remote.updateClient modern panel inbound identifier email payload r = .ok (r', ())) :
    ∃ x ∈ r.clients, Remote.Addressed modern panel inbound identifier email x := by
  unfold Remote.updateClient at h
  split at h
  case isTrue hx => exact hx
  case isFalse => cases h

/-! ## What attempts did to the panel -/

/-- The requests for a new expiry that took effect. -/
def extensions (s : Shop) : ℕ := s.calls.countP fun c => c.2 && c.1.Extends

/-- The resets that took effect. -/
def resets (s : Shop) : ℕ := s.calls.countP fun c => c.2 && c.1.IsReset

/-- The panel was neither renewed nor reset in between. -/
structure Quiet (s s' : Shop) : Prop where
  remote : s'.remote = s.remote
  extensions : extensions s' = extensions s
  resets : resets s' = resets s

theorem Quiet.refl (s : Shop) : Quiet s s := ⟨rfl, rfl, rfl⟩

theorem Quiet.trans {s s' s'' : Shop} (h : Quiet s s') (h' : Quiet s' s'') : Quiet s s'' :=
  ⟨h'.remote.trans h.remote, h'.extensions.trans h.extensions, h'.resets.trans h.resets⟩

theorem Quiet.db {s₀ s : Shop} (h : Quiet s₀ s) (db : Db) : Quiet s₀ { s with db := db } :=
  ⟨h.remote, h.extensions, h.resets⟩

theorem extensions_refused (s : Shop) (call : RemoteCall) :
    extensions (s.refused call) = extensions s := by simp [extensions]

theorem resets_refused (s : Shop) (call : RemoteCall) :
    resets (s.refused call) = resets s := by simp [resets]

theorem extensions_applied (s : Shop) (call : RemoteCall) (remote : Remote) :
    extensions (s.applied call remote) = extensions s + if call.Extends then 1 else 0 := by
  simp [extensions, List.countP_cons]

theorem resets_applied (s : Shop) (call : RemoteCall) (remote : Remote) :
    resets (s.applied call remote) = resets s + if call.IsReset then 1 else 0 := by
  simp [resets, List.countP_cons]

/-- An interaction that left the panel alone. -/
structure Idle (s s' : Shop) : Prop where
  db : s'.db = s.db
  quiet : Quiet s s'
  signals : s'.signals = s.signals.tail

theorem Idle.next (s : Shop) : Idle s s.next := ⟨rfl, ⟨rfl, rfl, rfl⟩, rfl⟩

theorem Idle.of_or {s s' : Shop} {call : RemoteCall}
    (h : s' = s.next ∨ s' = s.refused call) : Idle s s' := by
  rcases h with rfl | rfl
  · exact Idle.next s
  · exact ⟨rfl, ⟨rfl, extensions_refused s call, resets_refused s call⟩, rfl⟩

/-! ## Crashes

Under the guard `g` no crash follows an effect: the panel is as it was at `s₀` and may be
touched, or the process does not die any more. -/

def Armed (g : Prop) (s₀ s : Shop) : Prop :=
  g → (Quiet s₀ s ∧ ¬ CrashAfterEffect s.signals) ∨ Calm s.signals

/-- The panel is as it was at `s₀`, or the process does not die any more. -/
def Spared (g : Prop) (s₀ s : Shop) : Prop := g → Quiet s₀ s ∨ Calm s.signals

/-- Where the process died the panel is as it was at `s₀`. -/
structure Halted (g : Prop) (s₀ : Shop) (h : Halt String) (s : Shop) : Prop where
  spared : Spared g s₀ s
  died : h = .crashed → g → Quiet s₀ s

variable {g : Prop} {s₀ s : Shop}

theorem Armed.spared (h : Armed g s₀ s) : Spared g s₀ s :=
  fun hg => (h hg).imp_left And.left

theorem Armed.db (h : Armed g s₀ s) (db : Db) : Armed g s₀ { s with db := db } :=
  fun hg => (h hg).imp_left fun ⟨hq, hs⟩ => ⟨hq.db db, hs⟩

theorem Spared.db (h : Spared g s₀ s) (db : Db) : Spared g s₀ { s with db := db } :=
  fun hg => (h hg).imp_left (·.db db)

theorem Armed.idle {s' : Shop} (h : Armed g s₀ s) (hs' : Idle s s')
    (hs : ¬ s.signal.Crashes) : Armed g s₀ s' := by
  intro hg
  rw [hs'.signals]
  exact (h hg).imp
    (fun ⟨hq, hsafe⟩ => ⟨hq.trans hs'.quiet, not_crashAfterEffect_tail hsafe hs⟩) Calm.tail

/-- An interaction that left the panel alone and ended the program. -/
theorem Armed.halted {s' : Shop} {h : Halt String} (ha : Armed g s₀ s) (hs' : Idle s s')
    (hh : h = .crashed ↔ s.signal.Crashes) : Halted g s₀ h s' := by
  have hquiet : g → s.signal.Crashes → Quiet s₀ s' := by
    intro hg hs
    rcases ha hg with ⟨hq, -⟩ | hcalm
    · exact hq.trans hs'.quiet
    · exact absurd hs hcalm.signal
  refine ⟨fun hg => ?_, fun hd hg => hquiet hg (hh.mp hd)⟩
  by_cases hs : s.signal.Crashes
  · exact .inl (hquiet hg hs)
  · exact (ha.idle hs' hs).spared hg

/-- A request that took effect. -/
theorem Armed.applied {call : RemoteCall} {remote : Remote} (h : Armed g s₀ s)
    (hs : s.signal = .acknowledged ∨ s.signal = .unacknowledged) :
    Armed g s₀ (s.applied call remote) := by
  intro hg
  rcases h hg with ⟨-, hsafe⟩ | hcalm
  · exact .inr (calm_of_effect hsafe hs)
  · exact .inr hcalm.tail

/-- A request that took effect and whose answer did not arrive. -/
theorem Armed.lost {h : Halt String} {call : RemoteCall} {remote : Remote} (ha : Armed g s₀ s)
    (hs : s.signal = .unacknowledged ∧ h = .raised timedOut ∨
      s.signal = .crashAfter ∧ h = .crashed) :
    Halted g s₀ h (s.applied call remote) := by
  rcases hs with ⟨hs, rfl⟩ | ⟨hs, rfl⟩
  · exact ⟨(ha.applied (.inr hs)).spared, by simp⟩
  · have hno : ¬ g := by
      intro hg
      rcases ha hg with ⟨-, hsafe⟩ | hcalm
      · exact not_crashAfter_of_effect hsafe hs
      · exact hcalm.signal (.inr hs)
    exact ⟨fun hg => absurd hg hno, fun _ hg => absurd hg hno⟩

/-- A crash point leaves the panel alone. -/
theorem Spared.wp_checkpoint {Q : Unit → Shop → Prop} {X : Halt String → Shop → Prop}
    (h : Spared g s₀ s) (hQ : Spared g s₀ s.next → Q () s.next)
    (hX : (g → Quiet s₀ s.next) → X .crashed s.next) :
    Prog.wp Prog.checkpoint Q X s := by
  refine Prog.wp_checkpoint (fun _ => hQ ?_) (fun hs => hX ?_)
  · exact fun hg => (h hg).imp (·.trans (Idle.next s).quiet) Calm.tail
  · exact fun hg =>
      (h hg).elim (·.trans (Idle.next s).quiet) fun hcalm => absurd hs hcalm.signal

end Qasedak.Orders
