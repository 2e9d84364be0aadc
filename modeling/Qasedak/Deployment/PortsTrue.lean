import Qasedak.Deployment.PortBook

/-! What the port book promises. The constraint of the database keeps ports exclusive; whether the
recorded port is the published one, and whether a free port is found, depends on the calls. -/

namespace Qasedak.Deployment.PortBook

open Foundation

/-- No two rows hold the same port, whether they are live or not. -/
def Exclusive (b : PortBook) : Prop :=
  ∀ t t' i i', b.rows.get? t = some i → b.rows.get? t' = some i' → i.port ≠ none →
    i.port = i'.port → t = t'

/-- A running instance records the host port that its container publishes. -/
def Truthful (b : PortBook) : Prop :=
  ∀ t i, b.rows.get? t = some i → i.status = .running → i.port ≠ none ∧ b.containers t = i.port

/-- A port of the range is held by no live instance, or by no other one. -/
def SomeFree (b : PortBook) (exclude : Option ℕ) : Prop :=
  ∃ p, startPort ≤ p ∧ p ≤ endPort ∧ p ∉ usedPorts b.rows exclude

/-- The row of the tenant is missing or marked as deleted. -/
def Vacant (b : PortBook) (tenant : ℕ) : Prop :=
  ∀ i, b.rows.get? tenant = some i → i.status = .deleted

/-- An allocation without an explicit port makes this step with success where a port is free. -/
def Complete (b : PortBook) : PortStep → Prop
  | .createRead run tenant port =>
      orPort port none = none → b.Vacant tenant → b.SomeFree none →
        ∃ free, (b.step (.createRead run tenant port)).stage run = .creating tenant free false
  | .createWrite run => ∀ tenant port, b.stage run = .creating tenant port false →
      b.Vacant tenant → b.SomeFree none →
        ∃ i, (b.step (.createWrite run)).rows.get? tenant = some i ∧ i.port = some port
  | .allocateRead run tenant port =>
      orPort port none = none → b.SomeFree (some tenant) →
        ∃ free, (b.step (.allocateRead run tenant port)).stage run = .allocating tenant free false
  | .allocateWrite run => ∀ tenant port, b.stage run = .allocating tenant port false →
      b.SomeFree (some tenant) → ∀ i, b.rows.get? tenant = some i →
        (b.step (.allocateWrite run)).rows.get? tenant = some { i with port := some port }
  | _ => True

/-- The port and the container of a running instance are left alone, a deployment finishes with the
port that the container publishes, and an allocation without an explicit port starts in the range
and ends at a port that no row holds. -/
def Steady (b : PortBook) : PortStep → Prop
  | .createWrite run => ∀ tenant port, b.stage run = .creating tenant port false →
      ¬ Collides b.rows tenant (some port)
  | .allocateRead _ tenant port => orPort port none = none → ∀ i p,
      b.rows.get? tenant = some i → i.port = some p → startPort ≤ p ∧ p ≤ endPort
  | .allocateWrite run => ∀ tenant port explicit, b.stage run = .allocating tenant port explicit →
      (∀ i, b.rows.get? tenant = some i → i.status = .running → i.port = some port) ∧
        (explicit = false → ¬ Collides b.rows tenant (some port))
  | .release tenant => ∀ i, b.rows.get? tenant = some i → i.status ≠ .running
  | .deployRead _ tenant port => ∀ i, b.rows.get? tenant = some i → i.status = .running →
      orPort port i.port = i.port
  | .deployFinish run => ∀ copy, b.stage run = .started copy →
      copy.port ≠ none ∧ b.containers copy.tenant = copy.port
  | .deleteContainer tenant => ∀ i, b.rows.get? tenant = some i → i.status ≠ .running
  | _ => True

variable {b b' : PortBook} {tenant run : ℕ} {port : Option ℕ} {i copy : TenantInstance}
  {f : TenantInstance → TenantInstance}

/-! ## Saves -/

theorem get?_setRow (b : PortBook) (tenant t : ℕ) (f : TenantInstance → TenantInstance)
    (hf : ∀ i, (f i).tenant = i.tenant) :
    (b.setRow tenant f hf).rows.get? t =
      (b.rows.get? t).map fun i => if t = tenant then f i else i :=
  Table.get?_modify b.rows tenant t f hf

theorem not_collides_iff {tenant : ℕ} {port : Option ℕ} (hport : port ≠ none) :
    ¬ Collides b.rows tenant port ↔
      ∀ t i, b.rows.get? t = some i → i.port = port → t = tenant := by
  constructor
  · intro h t i hi heq
    obtain ⟨hmem, rfl⟩ := Table.mem_of_get? hi
    by_contra hne
    exact h ⟨hport, i, hmem, hne, heq⟩
  · rintro h ⟨_, i, hmem, hne, heq⟩
    exact hne (h i.tenant i (Table.get?_eq_some_iff.mpr ⟨hmem, rfl⟩) heq)

theorem savePort_cases (copy : TenantInstance) (f : TenantInstance → TenantInstance)
    (hf : ∀ i, (f i).tenant = i.tenant) :
    (Collides b.rows copy.tenant copy.port ∧ b.savePort copy f hf = none) ∨
      (¬ Collides b.rows copy.tenant copy.port ∧ b.savePort copy f hf =
        some (b.setRow copy.tenant (fun i => f (withPort copy.port i)) fun i => hf _)) := by
  unfold savePort
  by_cases h : Collides b.rows copy.tenant copy.port
  · exact .inl ⟨h, if_pos h⟩
  · exact .inr ⟨h, if_neg h⟩

/-- A row is changed: its port is kept, given up or free. -/
theorem Exclusive.setRow (h : b.Exclusive) (hf : ∀ i, (f i).tenant = i.tenant)
    (hport : ∀ i, b.rows.get? tenant = some i →
      (f i).port = i.port ∨ ¬ Collides b.rows tenant (f i).port) :
    (b.setRow tenant f hf).Exclusive := by
  have hother : ∀ t i j, b.rows.get? tenant = some i → b.rows.get? t = some j →
      j.port ≠ none → j.port = (f i).port → t = tenant := by
    intro t i j hi hj hne heq
    rcases hport i hi with hkept | hfree
    · exact h t tenant j i hj hi hne (heq.trans hkept)
    · exact (not_collides_iff (heq ▸ hne)).mp hfree t j hj heq
  intro t t' j j' hj hj' hne heq
  simp only [get?_setRow, Option.map_eq_some_iff] at hj hj'
  obtain ⟨r, hr, rfl⟩ := hj
  obtain ⟨r', hr', rfl⟩ := hj'
  by_cases ht : t = tenant
  · subst ht
    by_cases ht' : t' = t
    · exact ht'.symm
    · rw [if_pos rfl, if_neg ht'] at heq
      rw [if_pos rfl] at hne
      exact (hother t' r r' hr hr' (heq ▸ hne) heq.symm).symm
  · rw [if_neg ht] at hne heq
    by_cases ht' : t' = tenant
    · subst ht'
      rw [if_pos rfl] at heq
      exact hother t r' r hr' hr hne heq
    · rw [if_neg ht'] at heq
      exact h t t' r r' hr hr' hne heq

theorem Truthful.setRow (h : b.Truthful) (hf : ∀ i, (f i).tenant = i.tenant)
    (hrunning : ∀ i, b.rows.get? tenant = some i → (f i).status = .running →
      (f i).port ≠ none ∧ b.containers tenant = (f i).port) :
    (b.setRow tenant f hf).Truthful := by
  intro t j hj hstatus
  simp only [get?_setRow, Option.map_eq_some_iff] at hj
  obtain ⟨r, hr, rfl⟩ := hj
  by_cases ht : t = tenant
  · subst ht
    rw [if_pos rfl] at hstatus ⊢
    exact hrunning r hr hstatus
  · rw [if_neg ht] at hstatus ⊢
    exact h t r hr hstatus

theorem Exclusive.savePort (h : b.Exclusive) (copy : TenantInstance)
    (hf : ∀ i, (f i).tenant = i.tenant) (hport : ∀ i, (f i).port = i.port) :
    ∀ b' ∈ b.savePort copy f hf, b'.Exclusive := by
  intro b' hb'
  rcases savePort_cases copy f hf with ⟨-, hnone⟩ | ⟨hfree, hsome⟩
  · rw [hnone] at hb'
    cases hb'
  · rw [hsome] at hb'
    cases hb'
    apply h.setRow
    intro i _
    exact .inr (by rwa [hport, withPort])

/-- A new row under a free port. -/
theorem Exclusive.put (h : b.Exclusive) {p : ℕ} (hnew : b.rows.get? tenant = none)
    (hfree : ¬ Collides b.rows tenant (some p)) :
    Exclusive { b with rows := b.rows.put { tenant := tenant, port := some p } } := by
  have hother := (not_collides_iff (by simp)).mp hfree
  have hself : ∀ t j, (b.rows.put { tenant := tenant, port := some p }).get? t = some j →
      (t = tenant ∧ j.port = some p) ∨ b.rows.get? t = some j := by
    intro t j hj
    by_cases ht : t = tenant
    · subst ht
      have hput := @Table.get?_put_self TenantInstance TenantInstance.tenant b.rows
        { tenant := t, port := some p } hnew
      rw [hput] at hj
      cases hj
      exact .inl ⟨rfl, rfl⟩
    · rw [Table.get?_put_of_ne ht] at hj
      exact .inr hj
  intro t t' j j' hj hj' hne heq
  rcases hself t j hj with ⟨rfl, hp⟩ | hold
  · rcases hself t' j' hj' with ⟨rfl, -⟩ | hold'
    · rfl
    · exact (hother t' j' hold' (heq ▸ hp)).symm
  · rcases hself t' j' hj' with ⟨rfl, hp'⟩ | hold'
    · exact hother t j hold (heq.trans hp')
    · exact h t t' j j' hold hold' hne heq

/-! ## Ports are exclusive -/

theorem Exclusive.of_rows (h : b.Exclusive) (hrows : b'.rows = b.rows) : b'.Exclusive := by
  unfold Exclusive
  rw [hrows]
  exact h

theorem Exclusive.setStage (h : b.Exclusive) (stage : PortStage) :
    (b.setStage run stage).Exclusive := h.of_rows rfl

theorem Exclusive.step (h : b.Exclusive) (a : PortStep) : (b.step a).Exclusive := by
  have hpick : ∀ run tenant port, (step.pickNew b run tenant port).Exclusive := by
    intro run tenant port
    unfold step.pickNew
    split <;> exact h.of_rows rfl
  have hsaved : ∀ (copy : TenantInstance) (f : TenantInstance → TenantInstance)
      (hf : ∀ i, (f i).tenant = i.tenant), (∀ i, (f i).port = i.port) → ∀ run,
      (((b.savePort copy f hf).getD b).setStage run .idle).Exclusive := by
    intro copy f hf hport run
    cases hsave : b.savePort copy f hf with
    | none => exact h.of_rows rfl
    | some b' => exact (h.savePort copy hf hport b' hsave).of_rows rfl
  cases a with
  | createRead run tenant port =>
      simp only [PortBook.step]
      split
      · split
        · exact hpick run tenant port
        · exact h.of_rows rfl
      · exact hpick run tenant port
  | createWrite run =>
      simp only [PortBook.step]
      split
      · split
        · split
          · exact h.of_rows rfl
          · apply hsaved
            exact fun _ => rfl
        · rename_i hnew
          split
          · exact h.of_rows rfl
          · rename_i hfree
            exact (h.put hnew hfree).of_rows rfl
      · exact h
  | allocateRead run tenant port =>
      simp only [PortBook.step]
      split <;> exact h.of_rows rfl
  | allocateWrite run =>
      simp only [PortBook.step]
      split
      · exact hsaved _ _ _ (fun _ => rfl) run
      · exact h
  | release tenant =>
      apply h.setRow
      intro i _
      exact .inr fun hcollides => hcollides.1 rfl
  | deployRead run tenant port =>
      simp only [PortBook.step]
      split
      · exact h.of_rows rfl
      split
      · exact h.of_rows rfl
      split
      · exact h.of_rows rfl
      · rename_i b' hsave
        exact (h.savePort _ _ (fun _ => rfl) b' hsave).of_rows rfl
  | deployMark run =>
      simp only [PortBook.step]
      split
      · exact h.setRow _ fun _ _ => .inl rfl
      · exact h
  | deployContainer run published succeeds =>
      simp only [PortBook.step]
      split
      · split
        · exact h
        split
        · exact h.of_rows rfl
        split
        · exact h
        split
        · exact h
        · rename_i b' hsave
          exact (h.savePort _ _ (fun _ => rfl) b' hsave).of_rows rfl
      · exact h
  | deployFinish run =>
      simp only [PortBook.step]
      split
      · split
        · exact h
        · rename_i b' hsave
          exact (h.savePort _ _ (by exact fun _ => rfl) b' hsave).setStage .idle
      · exact h
  | deployFail run =>
      simp only [PortBook.step]
      split
      · apply Exclusive.setStage
        exact h.setRow _ fun _ _ => .inl rfl
      · apply Exclusive.setStage
        exact h.setRow _ fun _ _ => .inl rfl
      · exact h.of_rows rfl
  | deleteMark tenant => exact h.setRow _ fun _ _ => .inl rfl
  | deleteContainer tenant => exact h.of_rows rfl
  | deleteFinish tenant => exact h.setRow _ fun _ _ => .inl rfl

/-! ## Recorded ports are published -/

theorem Truthful.of_eq (h : b.Truthful) (hrows : b'.rows = b.rows)
    (hcontainers : b'.containers = b.containers) : b'.Truthful := by
  unfold Truthful
  rw [hrows, hcontainers]
  exact h

theorem Truthful.setStage (h : b.Truthful) (stage : PortStage) :
    (b.setStage run stage).Truthful := h.of_eq rfl rfl

/-- A saved port is the published one of a row that runs afterwards. -/
theorem Truthful.savePort (h : b.Truthful) (copy : TenantInstance)
    (hf : ∀ i, (f i).tenant = i.tenant) (hport : ∀ i, (f i).port = i.port)
    (hrunning : ∀ i, b.rows.get? copy.tenant = some i →
      (f (withPort copy.port i)).status = .running →
        copy.port ≠ none ∧ b.containers copy.tenant = copy.port) :
    ∀ b' ∈ b.savePort copy f hf, b'.Truthful := by
  intro b' hb'
  rcases savePort_cases copy f hf with ⟨-, hnone⟩ | ⟨-, hsome⟩
  · rw [hnone] at hb'
    cases hb'
  · rw [hsome] at hb'
    cases hb'
    apply h.setRow
    intro i hi hstatus
    rw [hport]
    exact hrunning i hi hstatus

theorem Truthful.setContainer (h : b.Truthful)
    (hrow : ∀ i, b.rows.get? tenant = some i → i.status = .running → i.port = port) :
    (b.setContainer tenant port).Truthful := by
  intro t i hi hstatus
  refine ⟨(h t i hi hstatus).1, ?_⟩
  by_cases ht : t = tenant
  · subst ht
    exact (if_pos rfl).trans (hrow i hi hstatus).symm
  · exact (if_neg ht).trans (h t i hi hstatus).2

theorem savePort_get? (copy : TenantInstance) (hf : ∀ i, (f i).tenant = i.tenant) :
    ∀ b' ∈ b.savePort copy f hf, ∀ t, b'.rows.get? t =
      (b.rows.get? t).map fun i => if t = copy.tenant then f (withPort copy.port i) else i := by
  intro b' hb' t
  rcases savePort_cases copy f hf with ⟨-, hnone⟩ | ⟨-, hsome⟩
  · rw [hnone] at hb'
    cases hb'
  · rw [hsome] at hb'
    cases hb'
    exact get?_setRow b copy.tenant t (fun i => f (withPort copy.port i)) fun i => hf _

theorem Truthful.step (h : b.Truthful) {a : PortStep} (ha : b.Steady a) : (b.step a).Truthful := by
  have hpick : ∀ run tenant port, (step.pickNew b run tenant port).Truthful := by
    intro run tenant port
    unfold step.pickNew
    split <;> exact h.setStage _
  cases a with
  | createRead run tenant port =>
      simp only [PortBook.step]
      split
      · split
        · exact hpick run tenant port
        · exact h.setStage _
      · exact hpick run tenant port
  | createWrite run =>
      simp only [PortBook.step]
      split
      · rename_i tenant p explicit hstage
        split
        · rename_i i hi
          split
          · exact h.setStage _
          · apply Truthful.setStage
            cases hsave : b.savePort { i with port := some p } (withStatus .pending) fun _ => rfl with
            | none => exact h
            | some b' =>
                refine h.savePort _ _ (by exact fun _ => rfl) ?_ b' hsave
                intro j _ hstatus
                cases hstatus
        · rename_i hnew
          split
          · exact h.setStage _
          · apply Truthful.setStage
            intro t j hj hstatus
            by_cases ht : t = tenant
            · subst ht
              have hput := @Table.get?_put_self TenantInstance TenantInstance.tenant b.rows
                { tenant := t, port := some p } hnew
              rw [hput] at hj
              cases hj
              cases hstatus
            · rw [Table.get?_put_of_ne ht] at hj
              exact h t j hj hstatus
      · exact h
  | allocateRead run tenant port =>
      simp only [PortBook.step]
      split <;> exact h.setStage _
  | allocateWrite run =>
      simp only [PortBook.step]
      split
      · rename_i tenant p explicit hstage
        apply Truthful.setStage
        cases hsave : b.savePort ⟨tenant, some p, .pending, .pending⟩ id fun _ => rfl with
        | none => exact h
        | some b' =>
            refine h.savePort _ _ (by exact fun _ => rfl) ?_ b' hsave
            intro i hi hstatus
            have hkept := (ha tenant p explicit hstage).1 i hi hstatus
            exact ⟨by simp, (h tenant i hi hstatus).2.trans hkept⟩
      · exact h
  | release tenant =>
      apply h.setRow
      intro i hi hstatus
      exact absurd hstatus (ha i hi)
  | deployRead run tenant port =>
      simp only [PortBook.step]
      split
      · exact h.setStage _
      rename_i i hi
      split
      · exact h.setStage _
      split
      · exact h.setStage _
      · rename_i b' hsave
        apply Truthful.setStage
        refine h.savePort _ _ (by exact fun _ => rfl) ?_ b' hsave
        intro j hj hstatus
        have htenant : i.tenant = tenant := (Table.mem_of_get? hi).2
        change b.rows.get? i.tenant = some j at hj
        rw [htenant, hi] at hj
        cases hj
        have hkept := ha i hi hstatus
        obtain ⟨hne, hpublished⟩ := h tenant i hi hstatus
        change orPort port i.port ≠ none ∧ b.containers i.tenant = orPort port i.port
        rw [hkept, htenant]
        exact ⟨hne, hpublished⟩
  | deployMark run =>
      simp only [PortBook.step]
      split
      · apply h.setRow
        intro i _ hstatus
        cases hstatus
      · exact h
  | deployContainer run published succeeds =>
      simp only [PortBook.step]
      split
      · rename_i copy hstage
        split
        · exact h
        split
        · exact h.setStage _
        rename_i hnone
        -- A running instance has a container, so the row of this one does not run.
        have hidle : ∀ i, b.rows.get? copy.tenant = some i → i.status ≠ .running := by
          intro i hi hstatus
          obtain ⟨hne, hpublished⟩ := h copy.tenant i hi hstatus
          rw [hpublished] at hnone
          cases hport : i.port with
          | none => exact hne hport
          | some p => simp [hport] at hnone
        split
        · exact h
        rename_i p hp
        split
        · exact h
        · rename_i b' hsave
          apply Truthful.setStage
          have hsaved : b'.Truthful := by
            refine h.savePort _ _ (by exact fun _ => rfl) ?_ b' hsave
            intro i hi hstatus
            exact absurd hstatus (hidle i hi)
          apply hsaved.setContainer
          intro i hi hstatus
          rw [savePort_get? _ _ b' hsave, Option.map_eq_some_iff] at hi
          obtain ⟨r, hr, rfl⟩ := hi
          rw [if_pos rfl] at hstatus
          exact absurd hstatus (hidle r hr)
      · exact h
  | deployFinish run =>
      simp only [PortBook.step]
      split
      · rename_i copy hstage
        split
        · exact h
        · rename_i b' hsave
          apply Truthful.setStage
          refine h.savePort _ _ (by exact fun _ => rfl) ?_ b' hsave
          intro _ _ _
          exact ha copy hstage
      · exact h
  | deployFail run =>
      simp only [PortBook.step]
      split
      · apply Truthful.setStage
        apply h.setRow
        intro i _ hstatus
        cases hstatus
      · apply Truthful.setStage
        apply h.setRow
        intro i _ hstatus
        cases hstatus
      · exact h.setStage _
  | deleteMark tenant =>
      apply h.setRow
      intro i _ hstatus
      cases hstatus
  | deleteContainer tenant =>
      apply h.setContainer
      intro i hi hstatus
      exact absurd hstatus (ha i hi)
  | deleteFinish tenant =>
      apply h.setRow
      intro i _ hstatus
      cases hstatus

/-! ## Allocations -/

theorem orPort_eq_some {p : ℕ} (hp : startPort ≤ p) (other : Option ℕ) :
    orPort (some p) other = some p := by
  cases p with
  | zero => exact absurd hp (by decide)
  | succ p => rfl

theorem orPort_of_none {other : Option ℕ} (h : orPort port none = none) :
    orPort port other = other := by
  match port with
  | none => rfl
  | some 0 => rfl
  | some (p + 1) => cases h

theorem mem_usedPorts {rows : TenantInstances} {exclude : Option ℕ} {p : ℕ}
    (h : p ∈ usedPorts rows exclude) :
    ∃ i ∈ rows.rows, some i.tenant ≠ exclude ∧ i.port = some p := by
  obtain ⟨i, hi, hport⟩ := List.mem_filterMap.mp h
  obtain ⟨hmem, hlive⟩ := List.mem_filter.mp hi
  exact ⟨i, hmem, (of_decide_eq_true hlive).2, hport⟩

theorem exists_nextFreePort {used : List ℕ} {p : ℕ} (hstart : startPort ≤ p)
    (hfree : ∃ q, p ≤ q ∧ q ≤ endPort ∧ q ∉ used) : ∃ q, nextFreePort used p = .ok q := by
  have hok := (nextFreePort_isOk_iff hstart).mpr hfree
  cases h : nextFreePort used p with
  | error e =>
      rw [h] at hok
      cases hok
  | ok q => exact ⟨q, rfl⟩

theorem savePort_of_free (copy : TenantInstance) (hf : ∀ i, (f i).tenant = i.tenant)
    (hfree : ¬ Collides b.rows copy.tenant copy.port) :
    ∃ b', b.savePort copy f hf = some b' ∧ ∀ t, b'.rows.get? t =
      (b.rows.get? t).map fun i => if t = copy.tenant then f (withPort copy.port i) else i := by
  refine ⟨b.setRow copy.tenant (fun i => f (withPort copy.port i)) fun i => hf _, if_neg hfree, ?_⟩
  intro t
  exact get?_setRow b copy.tenant t (fun i => f (withPort copy.port i)) fun i => hf _

theorem Exclusive.complete (h : b.Exclusive) {a : PortStep} (ha : b.Steady a) : b.Complete a := by
  cases a with
  | createRead run tenant port =>
      intro himplicit hvacant hfree
      obtain ⟨q, hq⟩ := exists_nextFreePort (le_refl startPort) hfree
      have hpick : step.pickNew b run tenant port = b.setStage run (.creating tenant q false) := by
        unfold step.pickNew
        rw [himplicit, Option.getD_none, hq]
        rfl
      refine ⟨q, ?_⟩
      have hstep : b.step (.createRead run tenant port) = b.setStage run (.creating tenant q false) := by
        simp only [PortBook.step]
        split
        · rename_i i hi
          rw [if_pos (hvacant i hi), hpick]
        · exact hpick
      rw [hstep]
      exact if_pos rfl
  | createWrite run =>
      intro tenant p hstage hvacant _
      have hfree := ha tenant p hstage
      simp only [PortBook.step, hstage]
      cases hrow : b.rows.get? tenant with
      | none =>
          simp only [if_neg hfree]
          exact ⟨{ tenant := tenant, port := some p }, Table.get?_put_self hrow, rfl⟩
      | some i =>
          have htenant : i.tenant = tenant := (Table.mem_of_get? hrow).2
          have hdeleted : ¬ i.status ≠ .deleted := not_not.mpr (hvacant i hrow)
          obtain ⟨b', hsave, hget⟩ := @savePort_of_free b (withStatus .pending)
            { i with port := some p } (fun _ => rfl) (by rwa [htenant])
          simp only [if_neg hdeleted, hsave, Option.getD_some]
          refine ⟨withStatus .pending (withPort (some p) i), (hget tenant).trans ?_, rfl⟩
          rw [hrow, Option.map_some, if_pos htenant.symm]
  | allocateRead run tenant port =>
      intro himplicit hfree
      have hok : ∃ q, nextFreePort (usedPorts b.rows (some tenant))
          (b.preferredPort tenant port) = .ok q := by
        unfold preferredPort
        rw [orPort_of_none himplicit]
        cases hrecorded : (b.rows.get? tenant).bind (·.port) with
        | none => exact exists_nextFreePort (le_refl startPort) hfree
        | some p =>
            obtain ⟨i, hi, hport⟩ := Option.bind_eq_some_iff.mp hrecorded
            obtain ⟨hstart, hend⟩ := ha himplicit i p hi hport
            rw [orPort_eq_some hstart, Option.getD_some]
            refine exists_nextFreePort hstart ⟨p, le_refl p, hend, ?_⟩
            intro hused
            obtain ⟨j, hj, hne, hjport⟩ := mem_usedPorts hused
            have hsame := h j.tenant tenant j i (Table.get?_eq_some_iff.mpr ⟨hj, rfl⟩) hi
              (by simp [hjport]) (hjport.trans hport.symm)
            exact hne (congrArg some hsame)
      obtain ⟨q, hq⟩ := hok
      refine ⟨q, ?_⟩
      simp only [PortBook.step, hq, himplicit]
      exact if_pos rfl
  | allocateWrite run =>
      intro tenant p hstage _ i hi
      have hfree := (ha tenant p false hstage).2 rfl
      obtain ⟨b', hsave, hget⟩ := @savePort_of_free b id ⟨tenant, some p, .pending, .pending⟩
        (fun _ => rfl) hfree
      simp only [PortBook.step, hstage, hsave, Option.getD_some]
      refine (hget tenant).trans ?_
      rw [hi, Option.map_some, if_pos rfl]
      rfl
  | release tenant => trivial
  | deployRead run tenant port => trivial
  | deployMark run => trivial
  | deployContainer run published succeeds => trivial
  | deployFinish run => trivial
  | deployFail run => trivial
  | deleteMark tenant => trivial
  | deleteContainer tenant => trivial
  | deleteFinish tenant => trivial

/-- A server without tenants. -/
def emptyServer : PortBook := ⟨.empty, fun _ => none, fun _ => .idle⟩

theorem emptyServer_exclusive : emptyServer.Exclusive := by
  intro _ _ _ _ hi
  cases hi

theorem emptyServer_truthful : emptyServer.Truthful := by
  intro _ _ hi
  cases hi

end Qasedak.Deployment.PortBook
