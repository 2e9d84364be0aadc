import Qasedak.Panels.PanelWrites

/-! What a write reports against what the panel holds. A report is wrong after the answer of a
taken write was lost: a later attempt is then refused, or read as a missing endpoint. -/

namespace Qasedak.Panels.Transport

open Foundation

variable {panel : XuiPanel} {lower : String → String} {w : ClientWrite} {api : ClientApi}
  {clients : List Attached} {l : Ledger}

/-! ## The write on the panel -/

/-- There is a client to change. -/
def ClientWrite.Present (w : ClientWrite) (clients : List Attached) : Prop :=
  match w with
  | .create .. => True
  | _ => ∃ a ∈ clients, w.Names .legacy a

/-- The clients of the panel are those before the write with the write made for the requested
client of the requested inbound and for no other. -/
def ClientWrite.InEffect (w : ClientWrite) (before after : List Attached) : Prop :=
  w.Present before ∧ after = w.apply .legacy before

/-- A request of the API is about the requested client. -/
def ClientWrite.Precise (w : ClientWrite) (api : ClientApi) (clients : List Attached) : Prop :=
  ∀ a ∈ clients, w.Names api a ↔ w.Names .legacy a

theorem ClientWrite.apply_eq (h : w.Precise api clients) :
    w.apply api clients = w.apply .legacy clients := by
  cases w with
  | create inbound client => rfl
  | update inbound identifier email client =>
      apply List.map_congr_left
      intro a ha
      by_cases hnames : (ClientWrite.update inbound identifier email client).Names .legacy a
      · rw [if_pos hnames, if_pos ((h a ha).mpr hnames)]
      · rw [if_neg hnames, if_neg fun hnamed => hnames ((h a ha).mp hnamed)]
  | delete inbound identifier email =>
      apply List.filter_congr
      intro a ha
      simp only [h a ha]

/-- The panel takes an update or a deletion only of a client that it has. -/
theorem ClientWrite.present_of_taken (h : w.Precise api clients)
    (htaken : panel.refusal api w clients = none) : w.Present clients := by
  cases w with
  | create inbound client => trivial
  | update inbound identifier email client =>
      by_contra habsent
      have hrefused := (panel.refuses_absent api inbound identifier email client clients).1
        fun a ha hnames => habsent ⟨a, ha, (h a ha).mp hnames⟩
      simp [htaken] at hrefused
  | delete inbound identifier email =>
      by_contra habsent
      have hrefused := (panel.refuses_absent api inbound identifier email ⟨"", "", true, ""⟩ clients).2
        fun a ha hnames => habsent ⟨a, ha, (h a ha).mp hnames⟩
      simp [htaken] at hrefused

/-- Where the panel takes a write that is in effect once more, it stays in effect. -/
theorem ClientWrite.InEffect.again {after : List Attached} (h : w.InEffect clients after)
    (hprecise : w.Precise api after) (htaken : panel.refusal api w after = none) :
    w.InEffect clients (w.apply api after) := by
  obtain ⟨hpresent, rfl⟩ := h
  refine ⟨hpresent, ?_⟩
  rw [apply_eq hprecise]
  cases w with
  | create inbound client =>
      have hrefused := panel.refuses_duplicate api inbound client _
        ⟨⟨inbound, client⟩, List.mem_append_right clients (List.mem_singleton_self _), .inl rfl⟩
      simp only [apply] at htaken
      simp [htaken] at hrefused
  | update inbound identifier email client =>
      simp only [apply, List.map_map]
      apply List.map_congr_left
      intro a _
      simp only [Function.comp_apply]
      split <;> simp
  | delete inbound identifier email => simp [apply]

/-- What the panel holds while one API is used: the clients as they were, or with the write made
through that API alone. -/
def Held (w : ClientWrite) (clients : List Attached) (api : ClientApi) (l : Ledger) : Prop :=
  (l.taken = [] ∧ l.clients = clients) ∨
    (l.taken ≠ [] ∧ (∀ x ∈ l.taken, x = api) ∧ w.InEffect clients l.clients)

theorem Held.handle (h : Held w clients api l)
    (hprecise : (l.handle panel api w).2.taken ≠ l.taken → w.Precise api l.clients) :
    Held w clients api (l.handle panel api w).2 ∧
      ∀ r, (l.handle panel api w).1 = some r → r.success = true →
        (l.handle panel api w).2.taken ≠ [] := by
  unfold Ledger.handle at hprecise ⊢
  by_cases hserves : panel.serves api = false
  · simp only [hserves, if_true]
    exact ⟨h, by simp⟩
  rw [if_neg hserves] at hprecise ⊢
  cases hrefusal : panel.refusal api w l.clients with
  | some msg =>
      refine ⟨h, ?_⟩
      intro r hr hsuccess
      obtain rfl := Option.some.inj hr
      cases hsuccess
  | none =>
      rw [hrefusal] at hprecise
      have hnames := hprecise (by simp)
      refine ⟨.inr ⟨by simp, ?_, ?_⟩, by simp⟩
      · intro x hx
        rcases List.mem_append.mp hx with hx | hx
        · rcases h with ⟨hnone, -⟩ | ⟨-, hall, -⟩
          · rw [hnone] at hx
            cases hx
          · exact hall x hx
        · exact List.mem_singleton.mp hx
      · rcases h with ⟨-, hclients⟩ | ⟨-, -, heffect⟩
        · rw [hclients] at hnames hrefusal
          simp only [hclients]
          exact ⟨ClientWrite.present_of_taken hnames hrefusal, ClientWrite.apply_eq hnames⟩
        · exact heffect.again hnames hrefusal

/-! ## Safe attempts -/

/-- What an attempt comes to is a refusal that is raised, or is read as a missing endpoint while
the legacy API took the write. -/
def Misleading (lower : String → String) (w : ClientWrite) (l : Ledger) :
    Except WriteFailure WireReply → Prop
  | .error failure => .legacy ∈ l.taken ∧ EndpointMissing lower failure
  | .ok (.status n) => .legacy ∈ l.taken ∧ EndpointMissing lower (.http n)
  | .ok .unreadable => .legacy ∈ l.taken ∧ EndpointMissing lower .invalidJson
  | .ok (.json r) => l.taken ≠ [] ∧ r.success = false ∧ ¬ w.IsDelete

/-- The panel once an attempt is over. -/
def Ledger.after (panel : XuiPanel) (api : ClientApi) (w : ClientWrite) (a : Attempt)
    (l : Ledger) : Ledger :=
  if a.Arrives then (l.handle panel api w).2 else l

/-- A request that the panel takes is about the requested client alone, and once it took the write
no attempt is misleading, neither in a refusal nor as a missing endpoint. -/
def SafeEvent (panel : XuiPanel) (lower : String → String) (w : ClientWrite) : WireEvent → Prop
  | .attempt before api a =>
      ((before.after panel api w a).taken ≠ before.taken → w.Precise api before.clients) ∧
        ¬ Misleading lower w (before.after panel api w a)
          (a.outcome (before.handle panel api w).1)
  | .lookup _ _ => True
  | .aside before failure =>
      .legacy ∈ before.taken → ∀ text ∈ failure, ¬ EndpointMissing lower (.refused text)

/-! ## Rules -/

abbrev ExchangeSys := Sys Exchange Unit Unit

/-- Every event so far is safe. -/
def AllSafe (panel : XuiPanel) (lower : String → String) (w : ClientWrite) (e : Exchange) : Prop :=
  ∀ event ∈ e.made, SafeEvent panel lower w event

/-- A failure that may be raised with the panel in this state. -/
def SoundFailure (lower : String → String) (l : Ledger) (failure : WriteFailure) : Prop :=
  (.legacy ∈ l.taken → ¬ EndpointMissing lower failure) ∧
    ∀ msg, failure = .rejected msg → l.taken = []

/-- From a state with `P` the program keeps the invariant, returns with `G` and raises only sound
failures, all as far as the events are safe. -/
def Sound (panel : XuiPanel) (lower : String → String) (w : ClientWrite) (I P : Ledger → Prop)
    {α : Type} (p : Exchanged α) (G : α → Ledger → Prop) : Prop :=
  ∀ s : ExchangeSys, (AllSafe panel lower w s.db → I s.db.ledger ∧ P s.db.ledger) →
    p.wp (fun a s' => AllSafe panel lower w s'.db → I s'.db.ledger ∧ G a s'.db.ledger)
      (fun h s' => AllSafe panel lower w s'.db → I s'.db.ledger ∧
        ∀ failure, h = .raised failure → SoundFailure lower s'.db.ledger failure) s

section Rules

variable {I P : Ledger → Prop} {α β : Type} {G : α → Ledger → Prop} {G' : β → Ledger → Prop}

theorem sound_pure {a : α} (h : ∀ l, I l → P l → G a l) :
    Sound panel lower w I P (pure a : Exchanged α) G := by
  intro s hs
  rw [Prog.wp_pure]
  intro hsafe
  exact ⟨(hs hsafe).1, h _ (hs hsafe).1 (hs hsafe).2⟩

theorem sound_raise {failure : WriteFailure} (h : ∀ l, I l → P l → SoundFailure lower l failure) :
    Sound panel lower w I P (Prog.raise failure : Exchanged α) G := by
  intro s hs
  rw [Prog.wp_raise]
  intro hsafe
  refine ⟨(hs hsafe).1, ?_⟩
  intro failure' heq
  cases heq
  exact h _ (hs hsafe).1 (hs hsafe).2

theorem Sound.bind {p : Exchanged α} {f : α → Exchanged β} (hp : Sound panel lower w I P p G)
    (hf : ∀ a, Sound panel lower w I (G a) (f a) G') :
    Sound panel lower w I P (p >>= f) G' := by
  intro s hs
  rw [Prog.wp_bind]
  exact Prog.wp_mono (hp s hs) (fun a s' h => hf a s' h) fun _ _ h => h

theorem sound_read {f : Exchange → Exchanged α} (hf : ∀ e, Sound panel lower w I P (f e) G) :
    Sound panel lower w I P (Prog.readDb id >>= f) G := by
  intro s hs
  rw [Prog.wp_bind, Prog.wp_readDb]
  exact hf s.db s hs

/-- A write that leaves the panel and the record of events alone. -/
theorem sound_write {f : Exchange → Exchange} (hledger : ∀ e, (f e).ledger = e.ledger)
    (hmade : ∀ e, (f e).made = e.made) :
    Sound panel lower w I P (Prog.writeDb f) fun _ => P := by
  intro s hs
  rw [Prog.wp_writeDb]
  intro hsafe
  rw [hledger]
  refine hs ?_
  simpa only [AllSafe, hmade] using hsafe

theorem Sound.mono {p : Exchanged α} {P' : Ledger → Prop} {F : α → Ledger → Prop}
    (h : Sound panel lower w I P p F) (hP : ∀ l, P' l → P l) (hG : ∀ a l, F a l → G a l) :
    Sound panel lower w I P' p G := by
  intro s hs
  refine Prog.wp_mono (h s fun hsafe => ⟨(hs hsafe).1, hP _ (hs hsafe).2⟩) ?_ fun _ _ h => h
  intro a s' h hsafe
  exact ⟨(h hsafe).1, hG a _ (h hsafe).2⟩

theorem Sound.onError {p : Exchanged α} {handler : WriteFailure → Exchanged α}
    (hp : Sound panel lower w I P p G)
    (hhandler : ∀ failure,
      Sound panel lower w I (fun l => SoundFailure lower l failure) (handler failure) G) :
    Sound panel lower w I P (Prog.onError p handler) G := by
  intro s hs
  rw [Prog.wp_onError]
  refine Prog.wp_mono (hp s hs) (fun _ _ h => h) ?_
  intro h s' hpost
  cases h with
  | crashed => exact hpost
  | raised failure =>
      refine hhandler failure s' ?_
      intro hsafe
      exact ⟨(hpost hsafe).1, (hpost hsafe).2 failure rfl⟩

end Rules

/-! ## Logins, tokens and attempts -/

section Requests

variable {I P : Ledger → Prop}

theorem allSafe_of_append {e e' : Exchange} {event : WireEvent}
    (hmade : e'.made = e.made ++ [event]) (h : AllSafe panel lower w e') :
    AllSafe panel lower w e ∧ SafeEvent panel lower w event := by
  simp only [AllSafe, hmade, List.mem_append, List.mem_singleton] at h
  exact ⟨fun x hx => h x (.inl hx), h event (.inr rfl)⟩

theorem sound_aside : Sound panel lower w I P aside fun _ => P := by
  intro s hs
  simp only [aside, Prog.wp_bind, Prog.wp_readDb, Prog.wp_writeDb, id_eq]
  have hbefore := fun e' hmade hsafe => @allSafe_of_append panel lower w s.db e'
    (.aside s.db.ledger (s.db.asides.headD none)) hmade hsafe
  cases hfailure : s.db.asides.headD none with
  | none =>
      rw [hfailure] at hbefore
      intro hsafe
      exact hs (hbefore _ rfl hsafe).1
  | some text =>
      rw [hfailure] at hbefore
      intro hsafe
      obtain ⟨hall, hevent⟩ := hbefore _ rfl hsafe
      refine ⟨(hs hall).1, ?_⟩
      intro failure heq
      cases heq
      exact ⟨fun htaken => hevent htaken text rfl, by simp⟩

theorem sound_xuiLogin : Sound panel lower w I P (xuiLogin panel) fun _ => P := by
  apply sound_read
  intro e
  split
  · exact sound_pure fun _ _ h => h
  · exact sound_aside.bind fun _ => sound_write (fun _ => rfl) fun _ => rfl

theorem sound_refreshCsrfToken : Sound panel lower w I P refreshCsrfToken fun _ => P :=
  sound_aside.bind fun _ => sound_write (fun _ => rfl) fun _ => rfl

/-- What may come back with the panel in this state, where a decoded answer has `G`. -/
def SoundReply (lower : String → String) (G : PanelResponse → Ledger → Prop) (reply : WireReply)
    (l : Ledger) : Prop :=
  match reply with
  | .status n => SoundFailure lower l (.http n)
  | .unreadable => SoundFailure lower l .invalidJson
  | .json r => G r l

variable {G : PanelResponse → Ledger → Prop} {request : Exchanged WireReply}

theorem sound_retries {α : Type} {G : α → Ledger → Prop} {request : Exchanged α}
    (h : Sound panel lower w I (fun _ => True) request G) (extra : ℕ) :
    Sound panel lower w I (fun _ => True) (loginRequestWithRetries request extra) G := by
  induction extra with
  | zero => exact h
  | succ extra ih =>
      apply h.onError
      intro failure
      cases failure with
      | lost text => exact ih.mono (fun _ _ => trivial) fun _ _ h => h
      | http n => exact sound_raise fun _ _ h => h
      | invalidJson => exact sound_raise fun _ _ h => h
      | rejected msg => exact sound_raise fun _ _ h => h
      | refused text => exact sound_raise fun _ _ h => h

theorem sound_decodeReply (reply : WireReply) :
    Sound panel lower w I (SoundReply lower G reply) (decodeReply reply) G := by
  cases reply with
  | status n => exact sound_raise fun _ _ h => h
  | unreadable => exact sound_raise fun _ _ h => h
  | json r => exact sound_pure fun _ _ h => h

theorem sound_requestJson
    (h : Sound panel lower w I (fun _ => True) request (SoundReply lower G))
    (unsafeMethod : Bool) :
    Sound panel lower w I (fun _ => True) (requestJson unsafeMethod request) G := by
  apply sound_read
  intro e
  have htoken : Sound panel lower w I (fun _ => True)
      (if (unsafeMethod && (e.csrfToken || e.modernProfile)) && !e.csrfToken then refreshCsrfToken
        else pure ()) fun _ _ => True := by
    split
    · exact sound_refreshCsrfToken
    · exact sound_pure fun _ _ h => h
  refine htoken.bind fun _ => (sound_retries h e.extraAttempts).bind fun first => ?_
  refine Sound.bind (G := SoundReply lower G) ?_ sound_decodeReply
  split
  · refine Sound.bind (G := fun _ _ => True) ?_ fun _ => sound_retries h e.extraAttempts
    exact sound_refreshCsrfToken.mono (fun _ _ => trivial) fun _ _ h => h
  · exact sound_pure fun _ _ h => h

theorem sound_authenticatedJson
    (h : Sound panel lower w I (fun _ => True) request (SoundReply lower G))
    (unsafeMethod : Bool) :
    Sound panel lower w I (fun _ => True) (authenticatedJson panel unsafeMethod request) G :=
  sound_xuiLogin.bind fun _ => sound_requestJson h unsafeMethod

theorem sound_ensureSuccess {r : PanelResponse} (defaultMessage : String)
    (h : ∀ l, I l → G r l → r.success = false → l.taken = []) :
    Sound panel lower w I (G r) (ensureSuccess defaultMessage r)
      fun r' l => r'.success = true ∧ G r' l := by
  unfold ensureSuccess
  split
  · rename_i hsuccess
    exact sound_pure fun _ _ hG => ⟨hsuccess, hG⟩
  · rename_i hfailed
    apply sound_raise
    intro l hI hG
    have hnone := h l hI hG (by simpa using hfailed)
    exact ⟨by simp [hnone], fun _ _ => hnone⟩

end Requests

/-- What the panel answers to the request of a write. -/
def SoundResponse (w : ClientWrite) (r : PanelResponse) (l : Ledger) : Prop :=
  (r.success = true → l.taken ≠ []) ∧ (r.success = false → l.taken ≠ [] → w.IsDelete)

theorem Ledger.after_eq (a : Attempt) (l : Ledger) :
    l.after panel api w a = if a.Arrives then (l.handle panel api w).2 else l := rfl

theorem Held.after (h : Held w clients api l) (a : Attempt)
    (hprecise : (l.after panel api w a).taken ≠ l.taken → w.Precise api l.clients) :
    Held w clients api (l.after panel api w a) := by
  rw [Ledger.after_eq] at hprecise ⊢
  split at hprecise
  · rename_i harrives
    rw [if_pos harrives]
    exact (h.handle hprecise).1
  · rename_i hlost
    rw [if_neg hlost]
    exact h

theorem soundFailure_of_not {failure : WriteFailure}
    (h : ¬ (.legacy ∈ l.taken ∧ EndpointMissing lower failure))
    (hown : ∀ msg, failure ≠ .rejected msg) : SoundFailure lower l failure :=
  ⟨fun htaken hmissing => h ⟨htaken, hmissing⟩, fun msg heq => absurd heq (hown msg)⟩

/-- One attempt of a write. -/
theorem sound_attemptWrite :
    Sound panel lower w (Held w clients api) (fun _ => True) (attemptWrite panel api w)
      (SoundReply lower (SoundResponse w)) := by
  intro s hs
  simp only [attemptWrite, Prog.wp_bind, Prog.wp_readDb, Prog.wp_writeDb, id_eq,
    Prog.wp_ofExcept, ← Ledger.after_eq]
  have hstep := fun e' hmade hsafe => @allSafe_of_append panel lower w s.db e'
    (.attempt s.db.ledger api (s.db.attempts.headD .answered)) hmade hsafe
  generalize s.db.attempts.headD .answered = a at hstep ⊢
  have hheld : ∀ e' : Exchange, e'.made = s.db.made ++ [.attempt s.db.ledger api a] →
      AllSafe panel lower w e' → Held w clients api s.db.ledger ∧
        Held w clients api (s.db.ledger.after panel api w a) ∧
        ((s.db.ledger.after panel api w a).taken ≠ s.db.ledger.taken →
          w.Precise api s.db.ledger.clients) ∧
        ¬ Misleading lower w (s.db.ledger.after panel api w a)
          (a.outcome (s.db.ledger.handle panel api w).1) := by
    intro e' hmade hsafe
    obtain ⟨hall, hprecise, hmisleading⟩ := hstep e' hmade hsafe
    exact ⟨(hs hall).1, (hs hall).1.after a hprecise, hprecise, hmisleading⟩
  clear hstep hs
  cases a with
  | lost arrived text =>
      intro hsafe
      obtain ⟨-, hafter, -, hmisleading⟩ := hheld _ rfl hsafe
      refine ⟨hafter, ?_⟩
      intro failure heq
      cases heq
      exact soundFailure_of_not hmisleading (by simp)
  | turnedAway status =>
      intro hsafe
      obtain ⟨-, hafter, -, hmisleading⟩ := hheld _ rfl hsafe
      exact ⟨hafter, soundFailure_of_not hmisleading (by simp)⟩
  | unreadable arrived =>
      intro hsafe
      obtain ⟨-, hafter, -, hmisleading⟩ := hheld _ rfl hsafe
      exact ⟨hafter, soundFailure_of_not hmisleading (by simp)⟩
  | answered =>
      cases hanswer : (s.db.ledger.handle panel api w).1 with
      | none =>
          simp only [Attempt.outcome]
          intro hsafe
          obtain ⟨-, hafter, -, hmisleading⟩ := hheld _ rfl hsafe
          rw [hanswer] at hmisleading
          exact ⟨hafter, soundFailure_of_not hmisleading (by simp)⟩
      | some r =>
          simp only [Attempt.outcome]
          intro hsafe
          obtain ⟨hbefore, hafter, hprecise, hmisleading⟩ := hheld _ rfl hsafe
          rw [hanswer] at hmisleading
          refine ⟨hafter, ?_, ?_⟩
          · exact (hbefore.handle hprecise).2 r hanswer
          · intro hfailed htaken
            by_contra hdelete
            exact hmisleading ⟨htaken, hfailed, hdelete⟩

/-! ## The two APIs -/

variable {defaultMessage : String}

/-- A create or an update through one API. -/
theorem sound_write_ensured (hw : ¬ w.IsDelete) {p : Exchanged PanelResponse}
    (hp : Sound panel lower w (Held w clients api) (fun _ => True) p (SoundResponse w)) :
    Sound panel lower w (Held w clients api) (fun _ => True)
      (p >>= ensureSuccess defaultMessage) (SoundResponse w) := by
  refine hp.bind fun r => ?_
  refine (sound_ensureSuccess (G := SoundResponse w) defaultMessage ?_).mono (fun _ h => h)
    fun _ _ h => h.2
  intro l _ hr hfailed
  by_contra htaken
  exact hw (hr.2 hfailed htaken)

/-- Nothing taken yet. -/
def Untouched (clients : List Attached) (l : Ledger) : Prop := l.taken = [] ∧ l.clients = clients

theorem Untouched.held (h : Untouched clients l) : Held w clients api l := .inl h

theorem Held.not_legacy (h : Held w clients .modern l) : .legacy ∉ l.taken := by
  rcases h with ⟨hnone, -⟩ | ⟨-, hall, -⟩
  · simp [hnone]
  · intro htaken
    cases hall _ htaken

theorem Held.once (h : Held w clients api l) : ¬ (.legacy ∈ l.taken ∧ .modern ∈ l.taken) := by
  rintro ⟨hlegacy, hmodern⟩
  rcases h with ⟨hnone, -⟩ | ⟨-, hall, -⟩
  · simp [hnone] at hlegacy
  · cases (hall _ hlegacy).trans (hall _ hmodern).symm

/-- The modern API is used with no write taken through the legacy one. -/
theorem sound_refused {P : Ledger → Prop} {α : Type} {G : α → Ledger → Prop} {text : String} :
    Sound panel lower w (Held w clients .modern) P (Prog.raise (.refused text) : Exchanged α) G := by
  apply sound_raise
  intro l hheld _
  exact ⟨fun htaken => absurd htaken hheld.not_legacy, by simp⟩

theorem sound_modern_write (hw : ¬ w.IsDelete) :
    Sound panel lower w (Held w clients api) (fun _ => True)
      (authenticatedJson panel true (attemptWrite panel api w) >>= ensureSuccess defaultMessage)
      (SoundResponse w) :=
  sound_write_ensured hw (sound_authenticatedJson sound_attemptWrite true)

/-- One attempt of a lookup: the panel stays as it is. -/
theorem sound_attemptLookup (email : String) :
    Sound panel lower w (Untouched clients) (fun _ => True) (attemptLookup panel email)
      (SoundReply lower fun _ _ => True) := by
  intro s hs
  simp only [attemptLookup, Prog.wp_bind, Prog.wp_readDb, Prog.wp_writeDb, id_eq,
    Prog.wp_ofExcept]
  have hstep := fun e' hmade hsafe => @allSafe_of_append panel lower w s.db e'
    (.lookup s.db.ledger (s.db.attempts.headD .answered)) hmade hsafe
  generalize s.db.attempts.headD .answered = a at hstep ⊢
  have hsound : ∀ e' : Exchange, e'.made = s.db.made ++ [.lookup s.db.ledger a] →
      AllSafe panel lower w e' → Untouched clients s.db.ledger ∧
        ∀ failure, SoundFailure lower s.db.ledger failure := by
    intro e' hmade hsafe
    have huntouched := (hs (hstep e' hmade hsafe).1).1
    exact ⟨huntouched, fun failure => ⟨by simp [huntouched.1], fun _ _ => huntouched.1⟩⟩
  cases a with
  | lost arrived text =>
      intro hsafe
      exact ⟨(hsound _ rfl hsafe).1, fun failure _ => (hsound _ rfl hsafe).2 failure⟩
  | turnedAway status =>
      intro hsafe
      exact ⟨(hsound _ rfl hsafe).1, (hsound _ rfl hsafe).2 _⟩
  | unreadable arrived =>
      intro hsafe
      exact ⟨(hsound _ rfl hsafe).1, (hsound _ rfl hsafe).2 _⟩
  | answered =>
      cases hanswer : s.db.ledger.lookup panel email with
      | none =>
          simp only [Attempt.outcome]
          intro hsafe
          exact ⟨(hsound _ rfl hsafe).1, (hsound _ rfl hsafe).2 _⟩
      | some r =>
          simp only [Attempt.outcome]
          intro hsafe
          exact ⟨(hsound _ rfl hsafe).1, trivial⟩

theorem soundFailure_of_untouched {failure : WriteFailure} (h : Untouched clients l) :
    SoundFailure lower l failure :=
  ⟨by simp [h.1], fun _ _ => h.1⟩

theorem sound_modernClientAttachments (email : String) :
    Sound panel lower w (Untouched clients) (fun _ => True) (modernClientAttachments panel email)
      fun _ _ => True := by
  unfold modernClientAttachments
  split
  · exact sound_pure fun _ _ _ => trivial
  refine (sound_authenticatedJson (sound_attemptLookup _) false).bind fun r => ?_
  refine Sound.bind (G := fun _ _ => True) ?_ fun _ => sound_pure fun _ _ _ => trivial
  refine (sound_ensureSuccess (G := fun _ _ => True) _ ?_).mono (fun _ _ => trivial)
    fun _ _ _ => trivial
  exact fun _ huntouched _ _ => huntouched.1

theorem sound_singleAttachment (inbound : ℕ) (email operation : String) (allowMultiScope : Bool) :
    Sound panel lower w (Untouched clients) (fun _ => True)
      (assertModernEmailSingleAttachment panel inbound email operation allowMultiScope)
      fun _ _ => True := by
  unfold assertModernEmailSingleAttachment
  split
  · exact sound_pure fun _ _ _ => trivial
  refine (sound_modernClientAttachments email).bind fun inboundIds => ?_
  split
  · exact sound_raise fun _ huntouched _ => soundFailure_of_untouched huntouched
  split
  · exact sound_raise fun _ huntouched _ => soundFailure_of_untouched huntouched
  · exact sound_pure fun _ _ _ => trivial

/-- Before the first request of the write nothing is taken. -/
theorem Sound.untouched {α : Type} {p : Exchanged α} {G : α → Ledger → Prop}
    (h : Sound panel lower w (Untouched clients) (fun _ => True) p G) :
    Sound panel lower w (Held w clients api) (Untouched clients) p fun _ => Untouched clients := by
  intro s hs
  refine Prog.wp_mono (h s fun hsafe => ⟨(hs hsafe).2, trivial⟩) ?_ ?_
  · intro _ s' hpost hsafe
    exact ⟨(hpost hsafe).1.held, (hpost hsafe).1⟩
  · intro _ s' hpost hsafe
    exact ⟨(hpost hsafe).1.held, (hpost hsafe).2⟩

/-- What holds once the write is over. -/
def Reported (w : ClientWrite) (clients : List Attached) (e : Exchange) : Prop :=
  Held w clients .legacy e.ledger ∨ Held w clients .modern e.ledger

theorem wp_postClientWrite {legacy modern : Exchanged PanelResponse} {s : ExchangeSys}
    (hlegacy : Sound panel lower w (Held w clients .legacy) (fun _ => True) legacy
      (SoundResponse w))
    (hmodern : Sound panel lower w (Held w clients .modern) (Untouched clients) modern
      (SoundResponse w))
    (hs : Untouched clients s.db.ledger) :
    (postClientWrite panel lower legacy modern).wp
      (fun r s' => AllSafe panel lower w s'.db →
        Reported w clients s'.db ∧ SoundResponse w r s'.db.ledger)
      (fun h s' => AllSafe panel lower w s'.db → Reported w clients s'.db ∧
        ∀ msg, h = .raised (.rejected msg) → s'.db.ledger.taken = []) s := by
  have hrun : ∀ s' : ExchangeSys,
      (AllSafe panel lower w s'.db → Untouched clients s'.db.ledger) →
      modern.wp
        (fun r s' => AllSafe panel lower w s'.db →
          Reported w clients s'.db ∧ SoundResponse w r s'.db.ledger)
        (fun h s' => AllSafe panel lower w s'.db → Reported w clients s'.db ∧
          ∀ msg, h = .raised (.rejected msg) → s'.db.ledger.taken = []) s' := by
    intro s' huntouched
    refine Prog.wp_mono (hmodern s' fun hsafe => ⟨(huntouched hsafe).held, huntouched hsafe⟩) ?_ ?_
    · intro r s'' h hsafe
      exact ⟨.inr (h hsafe).1, (h hsafe).2⟩
    · intro h s'' hpost hsafe
      exact ⟨.inr (hpost hsafe).1, fun msg heq => ((hpost hsafe).2 _ heq).2 msg rfl⟩
  simp only [postClientWrite, Prog.wp_bind, Prog.wp_readDb, id_eq]
  split
  · exact hrun s fun _ => hs
  rw [Prog.wp_onError]
  refine Prog.wp_mono (hlegacy s fun _ => ⟨hs.held, trivial⟩) ?_ ?_
  · intro r s' h hsafe
    exact ⟨.inl (h hsafe).1, (h hsafe).2⟩
  intro h s' hpost
  cases h with
  | crashed =>
      intro hsafe
      exact ⟨.inl (hpost hsafe).1, by simp⟩
  | raised failure =>
      have hraise : AllSafe panel lower w s'.db → Reported w clients s'.db ∧
          ∀ msg, (Halt.raised failure) = .raised (.rejected msg) → s'.db.ledger.taken = [] := by
        intro hsafe
        refine ⟨.inl (hpost hsafe).1, ?_⟩
        intro msg heq
        exact ((hpost hsafe).2 failure rfl).2 msg (Halt.raised.inj heq)
      simp only
      split
      · rename_i hmissing
        simp only [discoverLive, Prog.wp_bind, Prog.wp_readDb, Prog.wp_writeDb, Prog.wp_pure, id_eq]
        split
        · apply hrun
          intro hsafe
          obtain ⟨hheld, hsound⟩ := hpost hsafe
          -- A missing endpoint is read off only where the legacy API did not take the write.
          rcases hheld with huntouched | ⟨htaken, hall, -⟩
          · exact huntouched
          · obtain ⟨x, hx⟩ := List.exists_mem_of_ne_nil _ htaken
            obtain rfl := hall x hx
            exact absurd hmissing ((hsound failure rfl).1 hx)
        · exact hraise
      · exact hraise

/-! ## The three writes -/

/-- A call of one of the three. -/
inductive ClientCall where
  | create (inbound : ℕ) (client : ClientData)
  | update (inbound : ℕ) (identifier : String) (client : ClientData) (email : String)
  | delete (inbound : ℕ) (identifier email : String) (allowMultiScope : Bool)

/-- What the call is to change. -/
def ClientCall.write : ClientCall → ClientWrite
  | .create inbound client => .create inbound client
  | .update inbound identifier client email =>
      .update inbound identifier (Store.strip (if email = "" then client.email else email)) client
  | .delete inbound identifier email _ => .delete inbound identifier (Store.strip email)

def ClientCall.post (panel : XuiPanel) (lower : String → String) :
    ClientCall → Exchanged PanelResponse
  | .create inbound client => postClientCreate panel lower inbound client
  | .update inbound identifier client email =>
      postClientUpdate panel lower inbound identifier client email
  | .delete inbound identifier email allowMultiScope =>
      postClientDelete panel lower inbound identifier email allowMultiScope

theorem sound_postModernClientUpdate (inbound : ℕ) (identifier email : String)
    (client : ClientData) :
    Sound panel lower (.update inbound identifier email client)
      (Held (.update inbound identifier email client) clients .modern) (Untouched clients)
      (postModernClientUpdate panel inbound identifier email client)
      (SoundResponse (.update inbound identifier email client)) := by
  unfold postModernClientUpdate
  split
  · exact sound_refused
  · exact (sound_modern_write id).mono (fun _ _ => trivial) fun _ _ h => h

theorem wp_post (call : ClientCall) {s : ExchangeSys} (hs : Untouched clients s.db.ledger) :
    (call.post panel lower).wp
      (fun r s' => AllSafe panel lower call.write s'.db →
        Reported call.write clients s'.db ∧ SoundResponse call.write r s'.db.ledger)
      (fun h s' => AllSafe panel lower call.write s'.db → Reported call.write clients s'.db ∧
        ∀ msg, h = .raised (.rejected msg) → s'.db.ledger.taken = []) s := by
  cases call with
  | create inbound client =>
      refine wp_postClientWrite ?_ ?_ hs
      · exact sound_write_ensured id (sound_requestJson sound_attemptWrite true)
      · unfold postModernClientCreate
        split
        · exact sound_refused
        · exact (sound_modern_write id).mono (fun _ _ => trivial) fun _ _ h => h
  | update inbound identifier client email =>
      exact wp_postClientWrite (sound_modern_write id)
        (sound_postModernClientUpdate inbound identifier _ client) hs
  | delete inbound identifier email allowMultiScope =>
      refine wp_postClientWrite (sound_authenticatedJson sound_attemptWrite true) ?_ hs
      unfold postModernClientDelete
      split
      · exact sound_refused
      refine (sound_singleAttachment inbound _ "delete" allowMultiScope).untouched.bind fun _ => ?_
      exact (sound_authenticatedJson sound_attemptWrite true).mono (fun _ _ => trivial)
        fun _ _ h => h

/-- What the call reports is true of the panel: a success of a write in effect for exactly the
requested client and inbound, the panel's rejection of a write that it did not take; and the
write is not taken through both APIs. -/
structure Truthful (w : ClientWrite) (before : Ledger)
    (out : Except (Halt WriteFailure) PanelResponse × ExchangeSys) : Prop where
  success : ∀ r, out.1 = .ok r → r.success = true →
    w.InEffect before.clients out.2.db.ledger.clients
  rejection : ∀ msg, out.1 = .error (.raised (.rejected msg)) → out.2.db.ledger.taken = []
  once : ¬ (.legacy ∈ out.2.db.ledger.taken ∧ .modern ∈ out.2.db.ledger.taken)

/-- A panel that refuses what it has to refuse. -/
def legacyPanel : XuiPanel where
  serves api := api = .legacy
  refusal api w clients := match w with
    | .create _ client =>
        if ∃ a ∈ clients, a.client.id = client.id ∨ a.client.email = client.email then
          some "Duplicate email"
        else none
    | w => if ∀ a ∈ clients, ¬ w.Names api a then some "No such client" else none
  lookupRefusal _ _ := none
  csrfLogin := false
  refuses_duplicate := by
    intro api inbound client clients h
    simp [h]
  refuses_absent := by
    intro api inbound identifier email client clients
    refine ⟨fun h => ?_, fun h => ?_⟩
    · simp only [if_pos h, Option.isSome_some]
    · simp only [if_pos h, Option.isSome_some]

/-- A service of the legacy profile with two attempts for a request. -/
def legacyExchange (attempts : List Attempt) : ExchangeSys :=
  { db :=
      { ledger := ⟨[], []⟩, loggedIn := true, csrfToken := false, modernProfile := false,
        liveModern := false, extraAttempts := 1, attempts := attempts, asides := [], made := [] }
    remote := (), calls := [], signals := [] }

def newClient : ClientData := ⟨"5f0c", "ali-1", true, "10 GB"⟩

end Qasedak.Panels.Transport
