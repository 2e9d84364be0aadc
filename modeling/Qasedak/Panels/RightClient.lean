import Qasedak.Panels.ClientMatching
import Mathlib.Data.List.TakeWhile

/-! The panel operations hit the client that they are meant for just when no entry before it can be
mistaken for it: the first that agrees in any field is taken. -/

namespace Qasedak.Panels

open Store

/-! ## The first of a list -/

section

variable {α : Type*} {p q : α → Bool} {l : List α}

/-- No entry has `p` before the first that has `q` too. -/
def NoneBefore (q p : α → Bool) (l : List α) : Prop :=
  ∀ x ∈ l.takeWhile fun x => !(q x && p x), p x = false

instance : Decidable (NoneBefore q p l) := inferInstanceAs (Decidable (∀ _ ∈ _, _))

theorem noneBefore_iff : NoneBefore q p l ↔ ∀ x, l.find? p = some x → q x = true := by
  induction l with
  | nil => simp [NoneBefore]
  | cons a l ih =>
      cases hp : p a with
      | false =>
          rw [List.find?_cons_of_neg (by simp [hp]), ← ih]
          simp [NoneBefore, hp]
      | true =>
          rw [List.find?_cons_of_pos hp]
          cases hq : q a <;> simp [NoneBefore, hp, hq]

end

/-! ## Clients and their rows -/

section

variable (rt : Runtime)

def clientEmail (c : JsonObject) : String := stringOf rt (field c "email")

/-- The id of a client, or its password where it has no id. -/
def credential (c : JsonObject) : String :=
  if stringOf rt (field c "id") ≠ "" then stringOf rt (field c "id")
  else stringOf rt (field c "password")

/-- A text, or nothing. -/
def Json.IsText (v : Json) : Prop := v = .null ∨ ∃ s, v = .str s

instance : DecidablePred Json.IsText
  | .null => .isTrue (.inl rfl)
  | .str s => .isTrue (.inr ⟨s, rfl⟩)
  | .bool _ => .isFalse fun h => h.elim nofun fun ⟨_, h⟩ => nomatch h
  | .int _ => .isFalse fun h => h.elim nofun fun ⟨_, h⟩ => nomatch h
  | .float _ => .isFalse fun h => h.elim nofun fun ⟨_, h⟩ => nomatch h
  | .arr _ => .isFalse fun h => h.elim nofun fun ⟨_, h⟩ => nomatch h
  | .obj _ => .isFalse fun h => h.elim nofun fun ⟨_, h⟩ => nomatch h

/-- An inbound whose clients have pairwise distinct credentials and emails. -/
structure InboundPayload (data : JsonObject) (clients : List JsonObject) : Prop where
  listed : clientsOf (parseXuiJsonObject rt (field data "settings")) = clients.map Json.obj
  texts : ∀ c ∈ clients, ∀ key ∈ ["id", "password", "email"], (field c key).IsText
  rowEmails : ∀ row ∈ parseXuiClientStats rt data, (field row "email").IsText
  credentials : (clients.map (credential rt)).Nodup
  emails : ((clients.map (clientEmail rt)).filter (· ≠ "")).Nodup

/-- A traffic row is of the client with its email, or without an email of the one whose credential
it has. -/
def OwnRow (t row : JsonObject) : Prop :=
  if clientEmail rt row ≠ "" then clientEmail rt row = clientEmail rt t
  else credential rt t ∈ lookupValues rt row

instance (t row : JsonObject) : Decidable (OwnRow rt t row) :=
  inferInstanceAs (Decidable (if clientEmail rt row ≠ "" then clientEmail rt row = clientEmail rt t
    else credential rt t ∈ lookupValues rt row))

/-- What a client is looked up by. -/
def Identifies (t : JsonObject) (v : String) : Prop :=
  v ≠ "" ∧ (v = credential rt t ∨ v = clientEmail rt t)

/-! ## What must hold -/

/-- The clients' data but for the limits. -/
def SameClient (t client : JsonObject) : Prop :=
  ∀ key ∉ ["totalGB", "expiryTime", "enable", "limitIp"], field client key = field t key

/-- The email is of no other client. -/
def SparesOthers (clients : List JsonObject) (t : JsonObject) (email : String) : Prop :=
  ∀ o ∈ clients, credential rt o ≠ credential rt t → clientEmail rt o ≠ "" →
    clientEmail rt o ≠ email

instance (clients : List JsonObject) (t : JsonObject) (email : String) :
    Decidable (SparesOthers rt clients t email) :=
  inferInstanceAs (Decidable (∀ _ ∈ _, _))

/-- The request is about the client and no other. -/
def HitsOnly (clients : List JsonObject) (t : JsonObject) : PanelWrite → Prop
  | .delete identifier email =>
      identifier = credential rt t ∧ SparesOthers rt clients t email
  | .update identifier client email =>
      identifier = credential rt t ∧ SameClient t client ∧ SparesOthers rt clients t email
  | .deleteTraffic email => SparesOthers rt clients t email
  | .resetTraffic email => SparesOthers rt clients t email

/-- The operations find the client and its own traffic row, and write to no other client. -/
structure HitsRightClient (data : JsonObject) (clients : List JsonObject) (t : JsonObject)
    (s : LocalService) : Prop where
  find : ∀ v, Identifies rt t v → ∃ found, findXuiClientAndStats rt data v = .ok found ∧
    found.client = some t ∧ (∀ row ∈ found.stats, OwnRow rt t row) ∧
    (found.stats = none → ∀ row ∈ parseXuiClientStats rt data, ¬ OwnRow rt t row)
  delete : ∀ v, Identifies rt t v → ∀ scope accepted,
    ∀ w ∈ deleteClientFromInbound rt scope data v accepted, HitsOnly rt clients t w
  update : ∀ v, Identifies rt t v → ∀ scope limits,
    ∀ w ∈ updateClientTrafficAndExpiry rt scope data v limits, HitsOnly rt clients t w
  subscription : ∀ scope intent limits,
    ∀ w ∈ sendSubscription rt scope intent data s limits, HitsOnly rt clients t w
  traffic : ∀ scope limits, ∀ w ∈ sendTraffic rt scope data s limits, HitsOnly rt clients t w

/-- Nothing in the list is taken for the client: no client before it has one of its identifiers in
any field, no row before its own one has a value of it, it has no other uuid, and its local service
is not found by, and does not name, another client's email. -/
structure Unmistakable (data : JsonObject) (clients : List JsonObject) (t : JsonObject)
    (s : LocalService) : Prop where
  client : ∀ v, Identifies rt t v →
    NoneBefore (fun o => credential rt o = credential rt t)
      (fun o => (matchedField rt o v).isSome) clients
  row : ∀ v, Identifies rt t v →
    NoneBefore (fun row => OwnRow rt t row) (relatedRow rt t v) (parseXuiClientStats rt data)
  uuid : stringOf rt (field t "id") = "" →
    stringOf rt (field t "uuid") = "" ∨ stringOf rt (field t "uuid") = credential rt t
  served : (loadedClients rt data).isOk = true →
    NoneBefore (fun o => credential rt o = credential rt t) (servesLocal s) clients
  email : (loadedClients rt data).isOk = true → servesLocal s t = true →
    SparesOthers rt clients t (strip s.email)

end

variable {rt : Runtime} {data t : JsonObject} {clients : List JsonObject} {s : LocalService}
  {v : String}

/-! ## Matching -/

theorem stringOf_text {value : Json} (h : value.IsText) (hne : stringOf rt value ≠ "") :
    ∃ text, value = .str text ∧ strip text = stringOf rt value := by
  obtain rfl | ⟨text, rfl⟩ := h
  · exact absurd (strip_empty) hne
  · refine ⟨text, rfl, ?_⟩
    by_cases htext : text = ""
    · simp [stringOf, Json.truthy, htext]
    · simp [stringOf, Json.truthy, htext, Runtime.strOf]

/-- A text field that identifies a row is one that the row is matched by. -/
theorem matchedField_of_text {row : JsonObject} {key : String} (hkey : key ∈ clientIdentifierFields)
    (htext : (field row key).IsText) (hv : stringOf rt (field row key) = v) (hne : v ≠ "") :
    (matchedField rt row v).isSome = true := by
  obtain ⟨text, hfield, hstrip⟩ := stringOf_text htext (by rw [hv]; exact hne)
  have hfixed : strip v = v := by rw [← hv, ← hstrip, strip_strip]
  rw [matchedField, hfixed, if_neg hne, List.find?_isSome]
  refine ⟨key, hkey, ?_⟩
  rw [fieldMatches, hfield]
  simp only [candidatesOf, List.any_cons, List.any_nil, Bool.or_false]
  rw [hfield] at hv
  rw [hv, hfixed]
  simp [sameText, hne]

/-- A text field has its value among those that rows are related by. -/
theorem mem_lookupValues_of_text {row : JsonObject} {key : String}
    (hkey : key ∈ clientIdentifierFields) (htext : (field row key).IsText)
    (hv : stringOf rt (field row key) = v) (hne : v ≠ "") : v ∈ lookupValues rt row := by
  obtain ⟨text, hfield, hstrip⟩ := stringOf_text htext (by rw [hv]; exact hne)
  refine List.mem_flatMap.mpr ⟨key, hkey, ?_⟩
  rw [hfield]
  rw [hv] at hstrip
  show v ∈ strippedText text
  rw [strippedText, hstrip, if_neg hne]
  exact List.mem_singleton_self v

theorem filterMap_clientOf (hpayload : InboundPayload rt data clients) :
    (clientsOf (parseXuiJsonObject rt (field data "settings"))).filterMap clientOf = clients := by
  rw [hpayload.listed, List.filterMap_map]
  exact List.filterMap_some

section

variable (hpayload : InboundPayload rt data clients) (ht : t ∈ clients)

include hpayload ht

/-- The field by which a client is identified. -/
theorem exists_identifying_field (hv : Identifies rt t v) :
    ∃ key ∈ clientIdentifierFields, (field t key).IsText ∧ stringOf rt (field t key) = v := by
  have htexts := hpayload.texts t ht
  obtain ⟨hne, rfl | rfl⟩ := hv
  · by_cases hid : stringOf rt (field t "id") ≠ ""
    · exact ⟨"id", by decide, htexts "id" (by decide), by rw [credential, if_pos hid]⟩
    · exact ⟨"password", by decide, htexts "password" (by decide), by rw [credential, if_neg hid]⟩
  · exact ⟨"email", by decide, htexts "email" (by decide), rfl⟩

theorem matchedField_self (hv : Identifies rt t v) : (matchedField rt t v).isSome = true := by
  obtain ⟨key, hkey, htext, hvalue⟩ := exists_identifying_field hpayload ht hv
  exact matchedField_of_text hkey htext hvalue hv.1

theorem eq_of_credential_eq {o : JsonObject} (ho : o ∈ clients)
    (h : credential rt o = credential rt t) : o = t :=
  List.inj_on_of_nodup_map hpayload.credentials ho ht h

/-- A client's own row is related to it. -/
theorem relatedRow_of_own (hcredential : credential rt t ≠ "") {row : JsonObject}
    (hrow : row ∈ parseXuiClientStats rt data) (hown : OwnRow rt t row) :
    relatedRow rt t v row = true := by
  have hshared : ∃ x ∈ lookupValues rt row, x ∈ lookupValues rt t := by
    by_cases hemail : clientEmail rt row ≠ ""
    · rw [OwnRow, if_pos hemail] at hown
      refine ⟨clientEmail rt row, ?_, ?_⟩
      · exact mem_lookupValues_of_text (by decide) (hpayload.rowEmails row hrow) rfl hemail
      · exact mem_lookupValues_of_text (by decide) (hpayload.texts t ht "email" (by decide))
          hown.symm hemail
    · rw [OwnRow, if_neg hemail] at hown
      obtain ⟨key, hkey, htext, hvalue⟩ :=
        exists_identifying_field hpayload ht ⟨hcredential, .inl rfl⟩
      exact ⟨credential rt t, hown, mem_lookupValues_of_text hkey htext hvalue hcredential⟩
  obtain ⟨x, hx, hxt⟩ := hshared
  rw [relatedRow, Bool.or_eq_true]
  refine .inr (List.any_eq_true.mpr ⟨x, hx, ?_⟩)
  rw [Bool.or_eq_true]
  exact .inr (List.contains_iff_mem.mpr (List.mem_map_of_mem hxt))

/-! ## Finding -/

/-- The client with an identifier of the list is found first, or another one before it. -/
theorem firstClient_isSome (hv : Identifies rt t v) :
    ∃ x ∈ clients, firstClient rt (clientsOf (parseXuiJsonObject rt (field data "settings"))) v =
      some x := by
  rw [firstClient, filterMap_clientOf hpayload]
  have hsome : (clients.find? fun c => (matchedField rt c v).isSome).isSome = true :=
    List.find?_isSome.mpr ⟨t, ht, matchedField_self hpayload ht hv⟩
  obtain ⟨x, hx⟩ := Option.isSome_iff_exists.mp hsome
  exact ⟨x, List.mem_of_find?_eq_some hx, hx⟩

theorem findXuiClientAndStats_eq (hv : Identifies rt t v) :
    ∃ x ∈ clients, firstClient rt (clientsOf (parseXuiJsonObject rt (field data "settings"))) v =
        some x ∧
      findXuiClientAndStats rt data v = .ok ⟨some x,
        relatedStats rt (parseXuiClientStats rt data) (some x) v,
        (matchedField rt x v).getD ""⟩ := by
  obtain ⟨x, hx, hfirst⟩ := firstClient_isSome hpayload ht hv
  refine ⟨x, hx, hfirst, ?_⟩
  simp only [findXuiClientAndStats, hfirst]

theorem firstClient_eq_self (hv : Identifies rt t v)
    (h : NoneBefore (fun o => credential rt o = credential rt t)
      (fun o => (matchedField rt o v).isSome) clients) :
    firstClient rt (clientsOf (parseXuiJsonObject rt (field data "settings"))) v = some t := by
  obtain ⟨x, hx, hfirst⟩ := firstClient_isSome hpayload ht hv
  have hfind := hfirst
  rw [firstClient, filterMap_clientOf hpayload] at hfind
  have hcredential : credential rt x = credential rt t := by
    simpa using noneBefore_iff.mp h x hfind
  rw [hfirst, eq_of_credential_eq hpayload ht hx hcredential]

theorem find_of_noneBefore (hcredential : credential rt t ≠ "") (hv : Identifies rt t v)
    (hclient : NoneBefore (fun o => credential rt o = credential rt t)
      (fun o => (matchedField rt o v).isSome) clients)
    (hrow : NoneBefore (fun row => OwnRow rt t row) (relatedRow rt t v)
      (parseXuiClientStats rt data)) :
    ∃ found, findXuiClientAndStats rt data v = .ok found ∧ found.client = some t ∧
      (∀ row ∈ found.stats, OwnRow rt t row) ∧
      (found.stats = none → ∀ row ∈ parseXuiClientStats rt data, ¬ OwnRow rt t row) := by
  obtain ⟨x, -, hfirst, hfound⟩ := findXuiClientAndStats_eq hpayload ht hv
  rw [firstClient_eq_self hpayload ht hv hclient] at hfirst
  obtain rfl := Option.some.inj hfirst
  refine ⟨_, hfound, rfl, ?_, ?_⟩
  · intro row hstats
    exact of_decide_eq_true (noneBefore_iff.mp hrow row hstats)
  · intro hnone row hmem hown
    have hunrelated := List.find?_eq_none.mp hnone row hmem
    exact hunrelated (relatedRow_of_own hpayload ht hcredential hmem hown)

theorem noneBefore_of_find (hv : Identifies rt t v) {found : FoundClient}
    (hfound : findXuiClientAndStats rt data v = .ok found) (hclient : found.client = some t)
    (hstats : ∀ row ∈ found.stats, OwnRow rt t row) :
    NoneBefore (fun o => credential rt o = credential rt t)
        (fun o => (matchedField rt o v).isSome) clients ∧
      NoneBefore (fun row => OwnRow rt t row) (relatedRow rt t v)
        (parseXuiClientStats rt data) := by
  obtain ⟨x, -, hfirst, heq⟩ := findXuiClientAndStats_eq hpayload ht hv
  obtain rfl := Except.ok.inj (heq.symm.trans hfound)
  obtain rfl : x = t := Option.some.inj hclient
  rw [firstClient, filterMap_clientOf hpayload] at hfirst
  constructor
  · rw [noneBefore_iff]
    intro y hy
    rw [Option.some.inj (hy.symm.trans hfirst)]
    exact decide_eq_true rfl
  · rw [noneBefore_iff]
    intro row hrow
    exact decide_eq_true (hstats row hrow)

/-! ## What is sent -/

theorem sparesOthers_own : SparesOthers rt clients t (clientEmail rt t) := by
  intro o ho hother hne heq
  have hnodup := hpayload.emails
  rw [List.filter_map] at hnodup
  have hmem : ∀ x ∈ clients, clientEmail rt x ≠ "" →
      x ∈ clients.filter ((fun e => decide (e ≠ "")) ∘ clientEmail rt) := by
    intro x hx hxe
    exact List.mem_filter.mpr ⟨hx, decide_eq_true hxe⟩
  have hsame := List.inj_on_of_nodup_map hnodup (hmem o ho hne) (hmem t ht (heq ▸ hne)) heq
  exact hother (by rw [hsame])

omit ht hpayload in
theorem sparesOthers_blank : SparesOthers rt clients t "" := fun _ _ _ hne => hne

/-- The email that is sent with a client and its own row is the client's, or none. -/
theorem sentEmail_own {found : FoundClient} (hclient : found.client = some t)
    (hstats : ∀ row ∈ found.stats, OwnRow rt t row) :
    SparesOthers rt clients t (sentEmail rt found) := by
  rw [sentEmail, hclient, Option.getD_some]
  by_cases hemail : (field t "email").truthy = true
  · rw [if_pos hemail]
    exact sparesOthers_own hpayload ht
  · have hblank : clientEmail rt t = "" := by
      rw [clientEmail, stringOf, if_neg hemail]
      exact strip_empty
    rw [if_neg hemail]
    cases hrow : found.stats with
    | none => exact (show stringOf rt .null = "" from strip_empty) ▸ sparesOthers_blank
    | some row =>
        have hown := hstats row hrow
        have hnone : clientEmail rt row = "" := by
          by_contra hne
          rw [OwnRow, if_pos hne, hblank] at hown
          exact hne hown
        show SparesOthers rt clients t (clientEmail rt row)
        rw [hnone]
        exact sparesOthers_blank

omit ht hpayload in
/-- The credential is sent, where the client has no other uuid. -/
theorem jsonApiIdentifier_eq (hcredential : credential rt t ≠ "") (identifier : String) :
    jsonApiIdentifier rt t identifier = credential rt t ↔
      (stringOf rt (field t "id") = "" →
        stringOf rt (field t "uuid") = "" ∨ stringOf rt (field t "uuid") = credential rt t) := by
  by_cases hid : stringOf rt (field t "id") = ""
  · have hpassword : credential rt t = stringOf rt (field t "password") := by
      rw [credential, if_neg (not_not.mpr hid)]
    by_cases huuid : stringOf rt (field t "uuid") = ""
    · rw [hpassword] at hcredential ⊢
      simp [jsonApiIdentifier, hid, huuid, hcredential]
    · simp [jsonApiIdentifier, hid, huuid]
  · have hcred : credential rt t = stringOf rt (field t "id") := by rw [credential, if_pos hid]
    simp [jsonApiIdentifier, hid, hcred]

omit ht hpayload in
theorem strip_identifies (hv : Identifies rt t v) : strip v = v := by
  obtain ⟨-, rfl | rfl⟩ := hv
  · rw [credential]
    split
    · exact strip_strip _
    · exact strip_strip _
  · exact strip_strip _

omit ht hpayload in
theorem findInInbound_eq (hv : Identifies rt t v) {found : FoundClient}
    (hfound : findXuiClientAndStats rt data v = .ok found) (hclient : found.client = some t) :
    findInInbound rt data v = .ok found := by
  have hstrip := strip_identifies hv
  simp only [findInInbound, hstrip, if_neg hv.1, hfound, hclient, Option.isNone_some,
    Bool.false_eq_true, false_and, if_false]

omit ht hpayload in
theorem field_setOptional (c : JsonObject) (key : String) (value : Option Json) {key' : String}
    (h : key' ≠ key) : field (setOptional c key value) key' = field c key' := by
  cases value with
  | none => rfl
  | some value => rw [setOptional, field_setField, if_neg h]

omit ht hpayload in
theorem field_applyLimits (c : JsonObject) (limits : ClientLimits) {key : String}
    (h : key ∉ ["totalGB", "expiryTime", "enable", "limitIp"]) :
    field (applyLimits c limits) key = field c key := by
  have hne : key ≠ "totalGB" ∧ key ≠ "expiryTime" ∧ key ≠ "enable" ∧ key ≠ "limitIp" := by
    simpa using h
  rw [applyLimits, field_setOptional _ _ _ hne.2.2.2, field_setOptional _ _ _ hne.2.2.1,
    field_setOptional _ _ _ hne.2.1, field_setOptional _ _ _ hne.1]

omit ht hpayload in
/-- Clients that differ in their limits only have one credential. -/
theorem credential_of_sameClient {x : JsonObject} {limits : ClientLimits}
    (h : SameClient t (applyLimits x limits)) : credential rt x = credential rt t := by
  have hid := h "id" (by decide)
  have hpassword := h "password" (by decide)
  rw [field_applyLimits x limits (by decide)] at hid hpassword
  rw [credential, credential, hid, hpassword]

/-! ## Local services -/

omit ht in
theorem loadedClients_eq {items : List Json} (h : loadedClients rt data = .ok items) :
    items = clients.map Json.obj := by
  rw [← hpayload.listed]
  unfold loadedClients at h
  split at h
  · rename_i text hsettings
    rw [hsettings, parseXuiJsonObject]
    split at h
    · rename_i hblank
      cases h
      rw [if_pos hblank]
      rfl
    · rename_i htext
      rw [if_neg htext]
      split at h
      · rename_i settings hloads
        cases h
        simp [hloads]
      · cases h
  · rename_i hother
    split at h
    · cases h
    · rename_i hfalsy
      cases h
      cases hfield : field data "settings" with
      | obj fields =>
          rw [hfield] at hfalsy
          have hnil : fields = [] := by simpa [Json.truthy] using hfalsy
          rw [hnil]
          rfl
      | str text => exact absurd hfield (hother text)
      | null => rfl
      | bool b => rfl
      | int n => rfl
      | float text => rfl
      | arr items => rfl

omit ht hpayload in
theorem findServed_eq (s : LocalService) (clients : List JsonObject) :
    (∀ x, clients.find? (servesLocal s) = some x →
      findServed s (clients.map Json.obj) = .ok x) ∧
    (clients.find? (servesLocal s) = none →
      ∃ e, findServed s (clients.map Json.obj) = .error e) := by
  induction clients with
  | nil => exact ⟨(fun x hx => by cases hx), fun _ => ⟨_, rfl⟩⟩
  | cons c clients ih =>
      rw [List.map_cons, findServed]
      by_cases hc : servesLocal s c = true
      · rw [List.find?_cons_of_pos hc, if_pos hc]
        exact ⟨(fun x hx => by rw [Option.some.inj hx]), fun hnone => by cases hnone⟩
      · rw [List.find?_cons_of_neg hc, if_neg hc]
        exact ih

/-- What a local service finds, where it finds something. -/
theorem served_eq_self
    (hserved : NoneBefore (fun o => credential rt o = credential rt t) (servesLocal s) clients)
    {items : List Json} (hitems : loadedClients rt data = .ok items) {target : JsonObject}
    (htarget : findServed s items = .ok target) :
    target = t ∧ servesLocal s t = true := by
  rw [loadedClients_eq hpayload hitems] at htarget
  obtain ⟨hsome, hnone⟩ := findServed_eq s clients
  cases hfind : clients.find? (servesLocal s) with
  | none =>
      obtain ⟨e, he⟩ := hnone hfind
      rw [he] at htarget
      cases htarget
  | some x =>
      rw [hsome x hfind] at htarget
      obtain rfl := Except.ok.inj htarget
      have hcredential : credential rt x = credential rt t := by
        simpa using noneBefore_iff.mp hserved x hfind
      have heq := eq_of_credential_eq hpayload ht (List.mem_of_find?_eq_some hfind) hcredential
      exact ⟨heq, heq ▸ List.find?_some hfind⟩

end

/-! ## The client that is meant -/

section

variable (hpayload : InboundPayload rt data clients) (ht : t ∈ clients)
  (hcredential : credential rt t ≠ "") (huuid : s.uuid = credential rt t)

include hpayload ht hcredential huuid

theorem hitsRightClient_of_unmistakable (h : Unmistakable rt data clients t s) :
    HitsRightClient rt data clients t s := by
  have hapi := fun v => (jsonApiIdentifier_eq hcredential v).mpr h.uuid
  have hfind := fun v hv =>
    find_of_noneBefore hpayload ht hcredential (v := v) hv (h.client v hv) (h.row v hv)
  refine ⟨hfind, ?_, ?_, ?_, ?_⟩
  · intro v hv scope accepted w hw
    obtain ⟨found, hfound, hclient, hstats, -⟩ := hfind v hv
    have hemail := sentEmail_own hpayload ht hclient hstats
    rw [deleteClientFromInbound, findInInbound_eq hv hfound hclient] at hw
    simp only [hclient, Option.getD_some, hapi, if_neg hcredential] at hw
    split at hw
    · cases hw
    · rcases List.mem_cons.mp hw with rfl | hw
      · exact ⟨rfl, hemail⟩
      · split at hw
        · rw [List.mem_singleton.mp hw]
          exact hemail
        · cases hw
  · intro v hv scope limits w hw
    obtain ⟨found, hfound, hclient, hstats, -⟩ := hfind v hv
    have hemail := sentEmail_own hpayload ht hclient hstats
    rw [updateClientTrafficAndExpiry, findInInbound_eq hv hfound hclient] at hw
    simp only [hclient, hapi, if_neg hcredential] at hw
    split at hw
    · cases hw
    · rw [List.mem_singleton.mp hw]
      exact ⟨rfl, fun key hkey => field_applyLimits t limits hkey, hemail⟩
  · intro scope intent limits w hw
    unfold sendSubscription at hw
    split at hw
    · rename_i items _ hitems
      have hok : (loadedClients rt data).isOk = true := by
        rw [hitems]
        rfl
      split at hw
      · cases hw
      · rename_i target htarget
        obtain ⟨rfl, hserves⟩ := served_eq_self hpayload ht (h.served hok) hitems htarget
        have hspares := h.email hok hserves
        split at hw
        · cases hw
        · rcases List.mem_append.mp hw with hw | hw
          · split at hw
            · cases hw
            · rw [List.mem_singleton.mp hw]
              exact ⟨huuid, fun key hkey => field_applyLimits _ limits hkey, hspares⟩
          · split at hw
            · cases hw
            · rw [List.mem_singleton.mp hw]
              exact hspares
    · cases hw
  · intro scope limits w hw
    unfold sendTraffic at hw
    split at hw
    · rename_i items _ hitems
      have hok : (loadedClients rt data).isOk = true := by
        rw [hitems]
        rfl
      split at hw
      · cases hw
      · rename_i target htarget
        obtain ⟨rfl, hserves⟩ := served_eq_self hpayload ht (h.served hok) hitems htarget
        rw [List.mem_singleton.mp hw]
        exact ⟨huuid, fun key hkey => field_applyLimits _ limits hkey, h.email hok hserves⟩
    · cases hw

omit ht hcredential huuid in
/-- What a renewal sends with everything allowed. -/
theorem mem_sendSubscription {items : List Json} {x : JsonObject}
    (hitems : loadedClients rt data = .ok items) (hx : clients.find? (servesLocal s) = some x) :
    .update s.uuid (applyLimits x {}) (strip s.email) ∈
      sendSubscription rt (fun _ => .ok ()) (fun _ => .ok ⟨false, true⟩) data s {} := by
  have hserved : findServed s items = .ok x := by
    rw [loadedClients_eq hpayload hitems]
    exact (findServed_eq s clients).1 x hx
  simp only [sendSubscription, hitems, hserved]
  exact List.mem_append_left _ (List.mem_singleton_self _)

omit huuid in
theorem unmistakable_of_hitsRightClient (h : HitsRightClient rt data clients t s) :
    Unmistakable rt data clients t s := by
  have hnone := fun v (hv : Identifies rt t v) =>
    (h.find v hv).elim fun found hfound =>
      noneBefore_of_find hpayload ht hv hfound.1 hfound.2.1 hfound.2.2.1
  have hserved : (loadedClients rt data).isOk = true →
      NoneBefore (fun o => credential rt o = credential rt t) (servesLocal s) clients := by
    intro hok
    rw [noneBefore_iff]
    intro x hx
    obtain ⟨items, hitems⟩ : ∃ items, loadedClients rt data = .ok items := by
      cases hload : loadedClients rt data with
      | error e =>
          rw [hload] at hok
          cases hok
      | ok items => exact ⟨items, rfl⟩
    have hhits := h.subscription _ _ _ _
      (mem_sendSubscription hpayload hitems hx)
    exact decide_eq_true (credential_of_sameClient hhits.2.1)
  refine ⟨fun v hv => (hnone v hv).1, fun v hv => (hnone v hv).2, ?_, hserved, ?_⟩
  · have hv : Identifies rt t (credential rt t) := ⟨hcredential, .inl rfl⟩
    obtain ⟨found, hfound, hclient, -, -⟩ := h.find _ hv
    refine (jsonApiIdentifier_eq hcredential (credential rt t)).mp ?_
    have hdelete := h.delete _ hv (fun _ => .ok ()) false
    rw [deleteClientFromInbound, findInInbound_eq hv hfound hclient] at hdelete
    simp only [hclient, Option.getD_some] at hdelete
    by_cases hblank : jsonApiIdentifier rt t (credential rt t) = ""
    · exfalso
      have hstrip := strip_identifies hv
      revert hblank
      rw [jsonApiIdentifier]
      cases hfirst : (["id", "uuid", "password"].map fun key => stringOf rt (field t key)).find?
          (· ≠ "") with
      | none => simpa [hstrip] using hcredential
      | some x => simpa using List.find?_some hfirst
    · rw [if_neg hblank] at hdelete
      exact (hdelete _ List.mem_cons_self).1
  · intro hok hserves
    obtain ⟨items, hitems⟩ : ∃ items, loadedClients rt data = .ok items := by
      cases hload : loadedClients rt data with
      | error e =>
          rw [hload] at hok
          cases hok
      | ok items => exact ⟨items, rfl⟩
    have hsome : (clients.find? (servesLocal s)).isSome = true :=
      List.find?_isSome.mpr ⟨t, ht, hserves⟩
    obtain ⟨x, hx⟩ := Option.isSome_iff_exists.mp hsome
    exact (h.subscription _ _ _ _
      (mem_sendSubscription hpayload hitems hx)).2.2

end

/-- The operations hit the right client if and only if nothing is taken for it. -/
theorem hitsRightClient_iff (rt : Runtime) (data t : JsonObject) (clients : List JsonObject)
    (s : LocalService) (hpayload : InboundPayload rt data clients) (ht : t ∈ clients)
    (hcredential : credential rt t ≠ "") (huuid : s.uuid = credential rt t) :
    HitsRightClient rt data clients t s ↔ Unmistakable rt data clients t s :=
  ⟨unmistakable_of_hitsRightClient hpayload ht hcredential,
    hitsRightClient_of_unmistakable hpayload ht hcredential huuid⟩

/-! ## Two customers of an inbound -/

/-- The settings text of an inbound is all that is decoded. -/
def sampleRuntime (settings : JsonObject) : Runtime where
  loads _ := some (.obj settings)
  lower text := text
  reprOf _ := ""
  converts _ := true
  safeError _ text := text

def otherCustomer (remark : String) : JsonObject :=
  [("id", .str "a"), ("email", .str "ali"), ("remark", .str remark)]

def customer : JsonObject := [("id", .str "b"), ("email", .str "sara")]

/-- The inbound as the panel answers it, with a traffic row for each of the two. -/
def sampleInbound : JsonObject :=
  [("settings", .str "text"),
    ("clientStats", .arr [.obj [("id", .int 1), ("email", .str "ali")],
      .obj [("id", .int 2), ("email", .str "sara")]])]

def sampleRt (remark : String) : Runtime :=
  sampleRuntime [("clients", .arr [.obj (otherCustomer remark), .obj customer])]

def sampleService : LocalService := ⟨"b", "sara"⟩

theorem samplePayload_plain :
    InboundPayload (sampleRt "vip") sampleInbound [otherCustomer "vip", customer] where
  listed := rfl
  texts := by decide +kernel
  rowEmails := by decide +kernel
  credentials := by decide +kernel
  emails := by decide +kernel

theorem samplePayload_taken :
    InboundPayload (sampleRt "sara") sampleInbound [otherCustomer "sara", customer] where
  listed := rfl
  texts := by decide +kernel
  rowEmails := by decide +kernel
  credentials := by decide +kernel
  emails := by decide +kernel

/-- Two customers with nothing in common. -/
theorem hitsRightClient_plain : HitsRightClient (sampleRt "vip") sampleInbound
    [otherCustomer "vip", customer] customer sampleService := by
  refine (hitsRightClient_iff _ _ _ _ _ samplePayload_plain (by simp) (by decide +kernel)
    (by decide +kernel)).mpr ⟨?_, ?_, by decide +kernel, ?_, ?_⟩
  · rintro v ⟨_, hv⟩
    rcases hv with rfl | rfl
    · decide +kernel
    · decide +kernel
  · rintro v ⟨_, hv⟩
    rcases hv with rfl | rfl
    · decide +kernel
    · decide +kernel
  · intro _
    decide +kernel
  · intro _ _
    decide +kernel

/-- The remark of another customer is the email of this one: that other is found, and deleted. -/
theorem stranger_found_by_remark :
    InboundPayload (sampleRt "sara") sampleInbound [otherCustomer "sara", customer] ∧
      sampleService.uuid = credential (sampleRt "sara") customer ∧
      ¬ HitsRightClient (sampleRt "sara") sampleInbound [otherCustomer "sara", customer] customer
        sampleService := by
  refine ⟨samplePayload_taken, by decide +kernel, fun h => ?_⟩
  have hv : Identifies (sampleRt "sara") customer "sara" := ⟨by decide, .inr (by decide +kernel)⟩
  obtain ⟨found, hfound, hclient, -⟩ := h.find "sara" hv
  have hid : (findXuiClientAndStats (sampleRt "sara") sampleInbound "sara").toOption.bind
      (fun f => f.client.map fun c => stringOf (sampleRt "sara") (field c "id")) = some "a" := by
    decide +kernel
  rw [hfound] at hid
  simp only [Except.toOption, Option.bind_some, hclient, Option.map_some] at hid
  revert hid
  decide +kernel

end Qasedak.Panels
