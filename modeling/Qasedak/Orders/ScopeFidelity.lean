import Qasedak.Orders.FrozenScope

/-! What a frozen scope guarantees: an inbound that is resolved from it keeps the panel, the
remote number and the node, except for a row of the local node that has gained a node. -/

namespace Qasedak.Orders

open Foundation Store Panels Payments

/-! ## Fields -/

theorem strip_toString (n : ℕ) : strip (toString n) = toString n := by
  have hspace : ∀ c ∈ (toString n).toList, isSpace c = false := by
    intro c hc
    change c ∈ n.repr.toList at hc
    rw [Nat.toList_repr] at hc
    have hdigit : c.isDigit := Nat.isDigit_of_mem_toDigits (by omega) (by omega) hc
    have hlow : 48 ≤ c.toNat ∧ c.toNat ≤ 57 := by
      simpa [Char.isDigit, UInt32.le_iff_toNat_le] using hdigit
    simp only [isSpace, Bool.or_eq_false_iff, Bool.and_eq_false_iff, decide_eq_false_iff_not,
      beq_eq_false_iff_ne]
    omega
  exact strip_eq_self (fun c hc => hspace c (List.mem_of_mem_head? hc))
    (fun c hc => hspace c (List.mem_of_mem_getLast? hc))

theorem toString_ne_empty (n : ℕ) : toString n ≠ "" := by
  intro h
  have hnil : Nat.toDigits 10 n = [] := by
    rw [← Nat.toList_repr]
    exact congrArg String.toList h
  exact Nat.toDigits_ne_nil hnil

/-- A number of the scope matches the same number only; zero matches nothing. -/
theorem scopeFieldMatches_number {expected current : ℕ} :
    scopeFieldMatches (toString expected) (textOrEmpty current) = true ↔
      expected = current ∧ current ≠ 0 := by
  by_cases hzero : current = 0
  · have hempty : strip "" = "" := strip_eq_self (by simp) (by simp)
    simp [scopeFieldMatches, textOrEmpty, hzero, hempty]
  · have hstrip : strip (textOrEmpty current) = toString current := by
      rw [textOrEmpty, if_neg hzero, strip_toString]
    rw [scopeFieldMatches, hstrip]
    simp only [Bool.or_eq_true, decide_eq_true_eq, toString_ne_empty, false_or, hzero, ne_eq,
      not_false_eq_true, and_true]
    exact ⟨toString_injective, congrArg toString⟩

/-- The inbound is the one that was frozen: its panel, its number there and its node. -/
structure InScope (scope : ProvisioningScope) (i : Inbound) : Prop where
  panel : i.panel = scope.panelId
  number : i.inboundId = scope.xuiInboundId
  node : strip i.xuiNodeId = strip scope.nodeId

/-- What `_scope_matches_inbound` compares. -/
theorem scopeMatchesInbound_iff {scope : ProvisioningScope} {i : Inbound} :
    scopeMatchesInbound scope i = true ↔
      (scope.panelId = i.panel ∧ i.panel ≠ 0) ∧ (scope.inboundPk = i.pk ∧ i.pk ≠ 0) ∧
        (scope.xuiInboundId = i.inboundId ∧ i.inboundId ≠ 0) ∧
          (strip scope.nodeId = "" ∨ strip scope.nodeId = strip i.xuiNodeId) := by
  rw [scopeMatchesInbound]
  simp only [Bool.and_eq_true, scopeFieldMatches_number, and_assoc]
  simp [scopeFieldMatches]

/-! ## Rows -/

/-- The scopes that were frozen with the order. -/
def frozenScopes (o : Order) : List ProvisioningScope :=
  if isBundle o then o.metadata.provisioningScopes else o.metadata.provisioningScope.toList

/-- A row that a frozen scope names, and whose panel and number are still the frozen ones,
is still on a frozen node. -/
def FrozenRowsStay (db : Db) (scopes : List ProvisioningScope) : Prop :=
  ∀ scope ∈ scopes, ∀ i, db.inbounds.get? scope.inboundPk = some i →
    scopeMatchesInbound scope i = true → ∃ frozen ∈ scopes, InScope frozen i

variable {db : Db} {o : Order} {scope : ProvisioningScope} {i : Inbound}

/-- The search by panel, number and node finds inbounds of the scope. -/
theorem inScope_of_search (h : i ∈ inboundsInScope db scope) : InScope scope i := by
  have hmem := List.mem_of_mem_take h
  simp only [List.mem_filter, decide_eq_true_eq] at hmem
  obtain ⟨-, hpanel, hnumber, hnode⟩ := hmem
  exact ⟨hpanel, hnumber, by rw [hnode, strip_strip]⟩

/-- A row that matches is the one that the scope names. -/
theorem get?_of_scopeMatches {k : ℕ} (hget : db.inbounds.get? k = some i)
    (h : scopeMatchesInbound scope i = true) : db.inbounds.get? scope.inboundPk = some i := by
  obtain ⟨-, ⟨hpk, -⟩, -⟩ := scopeMatchesInbound_iff.mp h
  rw [hpk, (Table.mem_of_get? hget).2]
  exact hget

/-- The frozen row, where it still matches. -/
def matchedRow (db : Db) (scope : ProvisioningScope) : Option Inbound :=
  (db.inbounds.get? scope.inboundPk).filter (scopeMatchesInbound scope)

theorem matchedRow_eq_some : matchedRow db scope = some i ↔
    db.inbounds.get? scope.inboundPk = some i ∧ scopeMatchesInbound scope i = true := by
  rw [matchedRow, Option.filter_eq_some_iff]

/-! ## Resolution -/

/-- What a single scope resolves to is the frozen row, or an inbound of the scope. -/
theorem resolveFrozenOrderInbound_ok (hscope : o.metadata.provisioningScope = some scope)
    {result : Option Inbound} (h : resolveFrozenOrderInbound db o = .ok result) :
    ∃ i, result = some i ∧
      (matchedRow db scope = some i ∨ matchedRow db scope = none ∧ InScope scope i) := by
  rw [resolveFrozenOrderInbound] at h
  simp only [hscope] at h
  cases hcurrent : (o.inbound.bind db.inbounds.get?).filter (scopeMatchesInbound scope) with
  | some i =>
      rw [hcurrent] at h
      obtain ⟨hget, hmatches⟩ := Option.filter_eq_some_iff.mp hcurrent
      obtain ⟨k, -, hk⟩ := Option.bind_eq_some_iff.mp hget
      have hrow := matchedRow_eq_some.mpr ⟨get?_of_scopeMatches hk hmatches, hmatches⟩
      exact ⟨i, (Except.ok.inj h).symm, .inl hrow⟩
  | none =>
      rw [hcurrent] at h
      rw [resolveFrozenScope, ← matchedRow] at h
      cases hrow : matchedRow db scope with
      | some i =>
          rw [hrow] at h
          exact ⟨i, (Except.ok.inj h).symm, .inl rfl⟩
      | none =>
          rw [hrow] at h
          cases hsearch : inboundsInScope db scope with
          | nil => simp [hsearch] at h
          | cons i rest =>
              cases rest with
              | nil =>
                  simp only [hsearch] at h
                  have hin : InScope scope i := inScope_of_search (by rw [hsearch]; exact List.mem_singleton_self i)
                  exact ⟨i, (Except.ok.inj h).symm, .inr ⟨rfl, hin⟩⟩
              | cons j rest => simp [hsearch] at h

/-- What one scope of a bundle resolves to. -/
theorem resolveBundleScope_ok (h : resolveBundleScope db scope = .ok i) :
    matchedRow db scope = some i ∨ matchedRow db scope = none ∧ InScope scope i := by
  rw [resolveBundleScope, ← matchedRow] at h
  cases hrow : matchedRow db scope with
  | some j =>
      rw [hrow] at h
      exact .inl (congrArg some (Except.ok.inj h))
  | none =>
      rw [hrow] at h
      cases hsearch : inboundsInScope db scope with
      | nil => simp [hsearch] at h
      | cons j rest =>
          cases rest with
          | nil =>
              simp only [hsearch] at h
              split at h
              · obtain rfl := Except.ok.inj h
                exact .inr ⟨rfl, inScope_of_search (by rw [hsearch]; exact List.mem_singleton_self j)⟩
              · cases h
          | cons j' rest => simp [hsearch] at h

/-- The loop over the scopes returns the inbounds that it began with and one for each
scope, up to repetitions. -/
theorem resolveBundleScopes_ok {scopes : List ProvisioningScope} {seen inbounds : List Inbound}
    (hseen : ∀ i ∈ seen, i ∈ db.inbounds.rows)
    (h : resolveBundleScopes db scopes seen = .ok inbounds) :
    (∀ i ∈ inbounds, i ∈ seen ∨ ∃ scope ∈ scopes, resolveBundleScope db scope = .ok i) ∧
      (∀ i ∈ seen, i ∈ inbounds) ∧
        ∀ scope ∈ scopes, ∃ i ∈ inbounds, resolveBundleScope db scope = .ok i := by
  induction scopes generalizing seen with
  | nil =>
      obtain rfl := Except.ok.inj h
      exact ⟨fun i hi => .inl hi, fun i hi => hi, by simp⟩
  | cons scope scopes ih =>
      rw [resolveBundleScopes] at h
      cases hone : resolveBundleScope db scope with
      | error e => simp [hone] at h
      | ok i =>
          simp only [hone] at h
          have hrow : i ∈ db.inbounds.rows := by
            rw [resolveBundleScope] at hone
            split at hone
            · rename_i j hj
              obtain rfl := Except.ok.inj hone
              exact (Table.mem_of_get? (Option.filter_eq_some_iff.mp hj).1).1
            · split at hone
              · rename_i j hj
                have hmem : j ∈ inboundsInScope db scope := by simp [hj]
                split at hone
                · obtain rfl := Except.ok.inj hone
                  exact (List.mem_filter.mp (List.mem_of_mem_take hmem)).1
                · cases hone
              · cases hone
          split at h
          · rename_i hpk
            -- The inbound was seen: rows of one key are equal.
            have hmem : i ∈ seen := by
              obtain ⟨j, hj, hij⟩ := List.mem_map.mp hpk
              have heq := List.inj_on_of_nodup_map db.inbounds.keys_nodup (hseen j hj) hrow hij
              exact heq ▸ hj
            obtain ⟨hin, hkept, hall⟩ := ih hseen h
            refine ⟨fun j hj => (hin j hj).imp id ?_, hkept, ?_⟩
            · rintro ⟨s, hs, hres⟩
              exact ⟨s, List.mem_cons_of_mem _ hs, hres⟩
            · intro s hs
              rcases List.mem_cons.mp hs with rfl | hs
              · exact ⟨i, hkept i hmem, hone⟩
              · exact hall s hs
          · have hseen' : ∀ j ∈ seen ++ [i], j ∈ db.inbounds.rows := by
              intro j hj
              rcases List.mem_append.mp hj with hj | hj
              · exact hseen j hj
              · rwa [List.mem_singleton.mp hj]
            obtain ⟨hin, hkept, hall⟩ := ih hseen' h
            refine ⟨?_, fun j hj => hkept j (List.mem_append_left _ hj), ?_⟩
            · intro j hj
              rcases hin j hj with hold | ⟨s, hs, hres⟩
              · rcases List.mem_append.mp hold with hold | hnew
                · exact .inl hold
                · exact .inr ⟨scope, List.mem_cons_self, (List.mem_singleton.mp hnew) ▸ hone⟩
              · exact .inr ⟨s, List.mem_cons_of_mem _ hs, hres⟩
            · intro s hs
              rcases List.mem_cons.mp hs with rfl | hs
              · exact ⟨i, hkept i (by simp), hone⟩
              · exact hall s hs

theorem checkBundle_ok {inbounds result : List Inbound} (h : checkBundle db inbounds = .ok result) :
    result = inbounds := by
  unfold checkBundle at h
  split at h
  · cases h
  · split at h
    · cases h
    · split at h
      · exact (Except.ok.inj h).symm
      · cases h

/-- The resolved inbounds come from the frozen scopes, and every scope has its own. -/
theorem resolveFrozenOrderInbounds_ok (hfrozen : frozenScopes o ≠ []) {inbounds : List Inbound}
    (h : resolveFrozenOrderInbounds db o = .ok inbounds) :
    (∀ i ∈ inbounds, ∃ scope ∈ frozenScopes o,
        matchedRow db scope = some i ∨ matchedRow db scope = none ∧ InScope scope i) ∧
      ∀ scope ∈ frozenScopes o, ∀ i, matchedRow db scope = some i → i ∈ inbounds := by
  rw [resolveFrozenOrderInbounds] at h
  rw [frozenScopes] at hfrozen ⊢
  by_cases hbundle : isBundle o = true
  · rw [if_pos hbundle] at h hfrozen ⊢
    cases hloop : resolveBundleScopes db o.metadata.provisioningScopes [] with
    | error e => simp [hloop] at h
    | ok resolved =>
        simp only [hloop] at h
        obtain rfl := checkBundle_ok h
        obtain ⟨hin, -, hall⟩ := resolveBundleScopes_ok (by simp) hloop
        refine ⟨?_, ?_⟩
        · intro i hi
          obtain ⟨scope, hscope, hres⟩ := (hin i hi).resolve_left List.not_mem_nil
          exact ⟨scope, hscope, resolveBundleScope_ok hres⟩
        · intro scope hscope i hrow
          obtain ⟨j, hj, hres⟩ := hall scope hscope
          rcases resolveBundleScope_ok hres with hsome | ⟨hnone, -⟩
          · rw [hrow] at hsome
            exact (Option.some.inj hsome) ▸ hj
          · rw [hrow] at hnone
            cases hnone
  · rw [if_neg hbundle] at h hfrozen ⊢
    cases hscope : o.metadata.provisioningScope with
    | none => simp [hscope] at hfrozen
    | some scope =>
        cases hsingle : resolveFrozenOrderInbound db o with
        | error e => simp [hsingle] at h
        | ok result =>
            obtain ⟨i, rfl, hi⟩ := resolveFrozenOrderInbound_ok hscope hsingle
            simp only [hsingle, Option.toList_some] at h
            obtain rfl := Except.ok.inj h
            refine ⟨?_, ?_⟩
            · intro j hj
              rw [List.mem_singleton.mp hj]
              exact ⟨scope, by simp, hi⟩
            · intro s hs j hrow
              obtain rfl : s = scope := by simpa using hs
              rcases hi with hsome | ⟨hnone, -⟩
              · rw [hrow] at hsome
                simp [Option.some.inj hsome]
              · rw [hrow] at hnone
                cases hnone

/-- What an order resolves to is what was frozen exactly if no frozen row has moved to
another node under its old panel and number. -/
theorem frozen_scope_respected_iff (db : Db) (o : Order) :
    (∀ scope result, o.metadata.provisioningScope = some scope →
      resolveFrozenOrderInbound db o = .ok result →
        ∃ i, result = some i ∧ (InScope scope i ↔ FrozenRowsStay db [scope])) ∧
    (frozenScopes o ≠ [] → ∀ inbounds, resolveFrozenOrderInbounds db o = .ok inbounds →
      ((∀ i ∈ inbounds, ∃ scope ∈ frozenScopes o, InScope scope i) ↔
        FrozenRowsStay db (frozenScopes o))) := by
  constructor
  · intro scope result hscope h
    obtain ⟨i, hresult, hi⟩ := resolveFrozenOrderInbound_ok hscope h
    refine ⟨i, hresult, ?_⟩
    constructor
    · intro hin s hs j hget hmatches
      obtain rfl : s = scope := by simpa using hs
      have hrow := matchedRow_eq_some.mpr ⟨hget, hmatches⟩
      rcases hi with hsome | ⟨hnone, -⟩
      · rw [hrow] at hsome
        exact ⟨s, List.mem_singleton_self s, (Option.some.inj hsome) ▸ hin⟩
      · rw [hrow] at hnone
        cases hnone
    · intro hstay
      rcases hi with hrow | ⟨-, hin⟩
      · obtain ⟨hget, hmatches⟩ := matchedRow_eq_some.mp hrow
        obtain ⟨s, hs, hin⟩ := hstay scope (List.mem_singleton_self scope) i hget hmatches
        exact (List.mem_singleton.mp hs) ▸ hin
      · exact hin
  · intro hfrozen inbounds h
    obtain ⟨hin, hall⟩ := resolveFrozenOrderInbounds_ok hfrozen h
    constructor
    · intro hrespected scope hscope i hget hmatches
      exact hrespected i (hall scope hscope i (matchedRow_eq_some.mpr ⟨hget, hmatches⟩))
    · intro hstay i hi
      obtain ⟨scope, hscope, hrow | ⟨-, hscopeIn⟩⟩ := hin i hi
      · obtain ⟨hget, hmatches⟩ := matchedRow_eq_some.mp hrow
        exact hstay scope hscope i hget hmatches
      · exact ⟨scope, hscope, hscopeIn⟩

/-! ## A local inbound that gains a node -/

/-- Inbound 5 of the local node, as an order was frozen on it. -/
def localInbound : Inbound := { pk := 5, panel := 4, inboundId := 7 }

/-- The same row once its panel reports it from a node. -/
def movedInbound : Inbound := { localInbound with xuiNodeId := "berlin" }

def movedDb : Db where
  orders := .empty
  sms := .empty
  clients := .empty
  inbounds := Table.empty.put movedInbound
  panels := Table.empty.put { pk := 4, capabilityProfile := .modernMultiNode }
  plans := .empty
  stores := .empty
  automations := .empty

/-- An order that was frozen on an inbound. -/
def orderFrozenOn (i : Inbound) : Order :=
  { pk := 1, plan := 3, inbound := some i.pk
    metadata := { provisioningScope := some (provisioningScope i) } }

/-- The same as a bundle. -/
def bundleFrozenOn (i : Inbound) : Order :=
  { pk := 1, plan := 3, inbound := some i.pk
    metadata := { provisioningScopes := [provisioningScope i], multiInboundBundle := true } }

/-- An order of the local node resolves to the inbound of another node. -/
theorem local_scope_left :
    (resolveFrozenOrderInbounds movedDb (orderFrozenOn localInbound)).toOption =
        some [movedInbound] ∧
      (resolveFrozenOrderInbounds movedDb (bundleFrozenOn localInbound)).toOption =
        some [movedInbound] ∧
      strip movedInbound.xuiNodeId ≠ strip (provisioningScope localInbound).nodeId := by
  decide +kernel

/-- An order of a named node, and its inbound. -/
theorem frozen_scope_respected_iff_berlin :
    (∀ i ∈ [movedInbound], ∃ scope ∈ frozenScopes (orderFrozenOn movedInbound), InScope scope i) ↔
      FrozenRowsStay movedDb (frozenScopes (orderFrozenOn movedInbound)) := by
  have hok : resolveFrozenOrderInbounds movedDb (orderFrozenOn movedInbound) =
      .ok [movedInbound] := by
    have h : (resolveFrozenOrderInbounds movedDb (orderFrozenOn movedInbound)).toOption =
        some [movedInbound] := by decide +kernel
    cases hr : resolveFrozenOrderInbounds movedDb (orderFrozenOn movedInbound) with
    | error e => simp [hr, Except.toOption] at h
    | ok inbounds =>
        rw [hr] at h
        exact congrArg Except.ok (Option.some.inj h)
  have hfrozen : frozenScopes (orderFrozenOn movedInbound) ≠ [] := by decide +kernel
  exact (frozen_scope_respected_iff movedDb (orderFrozenOn movedInbound)).2 hfrozen _ hok

end Qasedak.Orders
