import Qasedak.NativeConfigs.Parsing

/-! # The selection among native configs

What `filter_native_configs` selects, what it counts, and the policies that stay as they are when
they are normalized again. -/

namespace Qasedak.NativeConfigs

open Store Panels

/-! ## The filter -/

/-- The configs without a later one of a raw link that was seen. -/
def deduplicate (seen : List String) : List ParsedNativeConfig → List ParsedNativeConfig
  | [] => []
  | item :: items =>
      if item.rawLink ∈ seen then deduplicate seen items
      else item :: deduplicate (item.rawLink :: seen) items

/-- `Counter`: the distinct values with how often each occurs. -/
def counter (values : List String) : List (String × ℕ) :=
  values.reverse.dedup.reverse.map fun v => (v, values.count v)

/-- `needle in text`. -/
def containsText (text needle : String) : Bool := decide (needle.toList <:+: text.toList)

variable (reader : LinkReader)

/-- `_remark_matches`. -/
def LinkReader.remarkMatches (policy : FilterPolicy) (item : ParsedNativeConfig) : Bool :=
  let remark := reader.rt.lower item.remark
  let included := reader.rt.lower (strip policy.remarkInclude)
  let excluded := reader.rt.lower (strip policy.remarkExclude)
  if included ≠ "" ∧ ¬ containsText remark included then false
  else if excluded ≠ "" ∧ containsText remark excluded then false
  else true

/-- What the loop of the filter lets through. -/
def LinkReader.passes (policy : FilterPolicy) (item : ParsedNativeConfig) : Bool :=
  if item.protocol ∉ policy.protocols then false
  else if item.security ∉ policy.security then false
  else if item.transport ∉ policy.transport then false
  else if policy.requireRealityPbk ∧ item.security = "reality" ∧ ¬ item.hasPbk then false
  else reader.remarkMatches policy item

structure NativeConfigFilterResult where
  policy : FilterPolicy
  upstreamCount : ℕ
  parsedCount : ℕ
  invalidCount : ℕ
  deduplicatedCount : ℕ
  filteredCount : ℕ
  selectedCount : ℕ
  selectedConfigs : List ParsedNativeConfig
  protocolCounts : List (String × ℕ)
  securityCounts : List (String × ℕ)
  transportCounts : List (String × ℕ)
  invalidReasons : List (String × ℕ)
  deriving DecidableEq, Repr

/-- The raw links of a request, without the empty ones. -/
def rawValues (rawConfigs : List String) : List String := rawConfigs.filter (· ≠ "")

def LinkReader.parsedConfigs (rawConfigs : List String) : List ParsedNativeConfig :=
  (rawValues rawConfigs).map reader.parseNativeConfig

def LinkReader.validConfigs (rawConfigs : List String) : List ParsedNativeConfig :=
  (reader.parsedConfigs rawConfigs).filter (·.valid)

/-- The valid configs that remain after the removal of duplicates. -/
def LinkReader.remainingConfigs (policy : FilterPolicy) (rawConfigs : List String) :
    List ParsedNativeConfig :=
  if policy.deduplicateExact then deduplicate [] (reader.validConfigs rawConfigs)
  else reader.validConfigs rawConfigs

def LinkReader.filteredConfigs (policy : FilterPolicy) (rawConfigs : List String) :
    List ParsedNativeConfig :=
  (reader.remainingConfigs policy rawConfigs).filter (reader.passes policy)

/-- `filtered[:max_configs]` where there is a cap. -/
def capConfigs (maxConfigs : Option ℕ) (configs : List ParsedNativeConfig) :
    List ParsedNativeConfig :=
  match maxConfigs with
  | none => configs
  | some n => configs.take n

/-- `filter_native_configs` under a normalized policy. -/
def LinkReader.filterUnder (policy : FilterPolicy) (rawConfigs : List String) :
    NativeConfigFilterResult :=
  let parsed := reader.parsedConfigs rawConfigs
  let valid := reader.validConfigs rawConfigs
  let filtered := reader.filteredConfigs policy rawConfigs
  let selected := capConfigs policy.maxConfigs filtered
  { policy := policy
    upstreamCount := (rawValues rawConfigs).length
    parsedCount := parsed.length
    invalidCount := parsed.length - valid.length
    deduplicatedCount := valid.length - (reader.remainingConfigs policy rawConfigs).length
    filteredCount := filtered.length
    selectedCount := selected.length
    selectedConfigs := selected
    protocolCounts := counter (valid.map (·.protocol))
    securityCounts := counter (valid.map (·.security))
    transportCounts := counter (valid.map (·.transport))
    invalidReasons :=
      counter ((parsed.filter (!·.valid)).map fun item => orText item.validationReason "invalid") }

/-- `filter_native_configs`; none where the policy raises. -/
def LinkReader.filterNativeConfigs (rawConfigs : List String) (policy : JsonObject) :
    Option NativeConfigFilterResult :=
  (reader.normalizePolicy policy).map fun p => reader.filterUnder p rawConfigs

/-! ## What is selected -/

variable {reader} {policy : FilterPolicy} {rawConfigs : List String}

theorem deduplicate_sublist (seen : List String) (items : List ParsedNativeConfig) :
    (deduplicate seen items).Sublist items := by
  induction items generalizing seen with
  | nil => exact .slnil
  | cons item items ih =>
      simp only [deduplicate]
      split
      · exact (ih seen).cons item
      · exact (ih _).cons_cons item

theorem rawLink_notMem_of_mem_deduplicate {seen : List String} {items : List ParsedNativeConfig}
    {x : ParsedNativeConfig} (hx : x ∈ deduplicate seen items) : x.rawLink ∉ seen := by
  induction items generalizing seen with
  | nil => exact absurd hx List.not_mem_nil
  | cons item items ih =>
      simp only [deduplicate] at hx
      split at hx
      next => exact ih hx
      next hnew =>
        rcases List.mem_cons.mp hx with rfl | hx
        · exact hnew
        · exact fun hmem => ih hx (List.mem_cons_of_mem _ hmem)

theorem nodup_deduplicate (seen : List String) (items : List ParsedNativeConfig) :
    ((deduplicate seen items).map (·.rawLink)).Nodup := by
  induction items generalizing seen with
  | nil => exact List.nodup_nil
  | cons item items ih =>
      simp only [deduplicate]
      split
      · exact ih seen
      · refine List.nodup_cons.mpr ⟨fun hmem => ?_, ih _⟩
        obtain ⟨x, hx, heq⟩ := List.mem_map.mp hmem
        exact rawLink_notMem_of_mem_deduplicate hx (heq ▸ List.mem_cons_self)

/-- Configs of different links are all kept. -/
theorem deduplicate_of_nodup {seen : List String} {items : List ParsedNativeConfig}
    (hnodup : (items.map (·.rawLink)).Nodup) (hnew : ∀ x ∈ items, x.rawLink ∉ seen) :
    deduplicate seen items = items := by
  induction items generalizing seen with
  | nil => rfl
  | cons item items ih =>
      rw [List.map_cons, List.nodup_cons] at hnodup
      rw [deduplicate, if_neg (hnew item List.mem_cons_self)]
      congr 1
      refine ih hnodup.2 fun x hx hmem => ?_
      rcases List.mem_cons.mp hmem with heq | hmem
      · exact hnodup.1 (List.mem_map.mpr ⟨x, hx, heq⟩)
      · exact hnew x (List.mem_cons_of_mem _ hx) hmem

theorem remainingConfigs_sublist (policy : FilterPolicy) (rawConfigs : List String) :
    (reader.remainingConfigs policy rawConfigs).Sublist (reader.validConfigs rawConfigs) := by
  unfold LinkReader.remainingConfigs
  split
  · exact deduplicate_sublist [] _
  · exact .refl _

theorem capConfigs_sublist (maxConfigs : Option ℕ) (configs : List ParsedNativeConfig) :
    (capConfigs maxConfigs configs).Sublist configs := by
  cases maxConfigs with
  | none => exact .refl _
  | some n => exact List.take_sublist n configs

theorem selected_sublist_filtered (policy : FilterPolicy) (rawConfigs : List String) :
    (reader.filterUnder policy rawConfigs).selectedConfigs.Sublist
      (reader.filteredConfigs policy rawConfigs) :=
  capConfigs_sublist _ _

theorem filteredConfigs_sublist (policy : FilterPolicy) (rawConfigs : List String) :
    (reader.filteredConfigs policy rawConfigs).Sublist (reader.remainingConfigs policy rawConfigs) :=
  List.filter_sublist

/-- What a config that passes satisfies. -/
structure Satisfies (reader : LinkReader) (policy : FilterPolicy) (item : ParsedNativeConfig) :
    Prop where
  protocol : item.protocol ∈ policy.protocols
  security : item.security ∈ policy.security
  transport : item.transport ∈ policy.transport
  pbk : policy.requireRealityPbk = true → item.security = "reality" → item.hasPbk = true
  included : reader.rt.lower (strip policy.remarkInclude) = "" ∨
    (reader.rt.lower (strip policy.remarkInclude)).toList <:+: (reader.rt.lower item.remark).toList
  excluded : reader.rt.lower (strip policy.remarkExclude) = "" ∨
    ¬ (reader.rt.lower (strip policy.remarkExclude)).toList <:+: (reader.rt.lower item.remark).toList

theorem satisfies_of_passes {item : ParsedNativeConfig} (h : reader.passes policy item = true) :
    Satisfies reader policy item := by
  simp only [LinkReader.passes] at h
  split_ifs at h with hprotocol hsecurity htransport hpbk
  simp only [LinkReader.remarkMatches] at h
  split_ifs at h with hincluded hexcluded
  refine ⟨hprotocol, hsecurity, htransport, fun hrequired hreality => ?_, ?_, ?_⟩
  · by_contra hmissing
    exact hpbk ⟨hrequired, hreality, hmissing⟩
  · rcases not_and_or.mp hincluded with hempty | hfound
    · exact Or.inl (not_not.mp hempty)
    · rw [not_not, containsText, decide_eq_true_iff] at hfound
      exact Or.inr hfound
  · rcases not_and_or.mp hexcluded with hempty | hfound
    · exact Or.inl (not_not.mp hempty)
    · rw [containsText, decide_eq_true_iff] at hfound
      exact Or.inr hfound

/-! ## What is counted -/

theorem count_sum_counter (values : List String) : ((counter values).map (·.2)).sum = values.length := by
  have hmap : (counter values).map (·.2) =
      values.reverse.dedup.reverse.map fun v => values.count v := by
    rw [counter, List.map_map]
    rfl
  rw [hmap, List.map_reverse, List.sum_reverse]
  have hcount (v : String) : values.count v = values.reverse.count v := by
    rw [List.count_reverse]
  simp only [hcount]
  rw [List.sum_map_count_dedup_eq_length, List.length_reverse]

theorem length_parsedConfigs (rawConfigs : List String) :
    (reader.parsedConfigs rawConfigs).length = (rawValues rawConfigs).length :=
  List.length_map _

theorem length_invalid (configs : List ParsedNativeConfig) :
    configs.length - (configs.filter (·.valid)).length = (configs.filter (!·.valid)).length := by
  have hlength := List.length_eq_length_filter_add (l := configs) (·.valid)
  omega

/-! ## Filtering again -/

theorem rawLink_parseUrlStyle (rawLink protocol : String) :
    (reader.parseUrlStyle rawLink protocol).rawLink = rawLink := by
  unfold LinkReader.parseUrlStyle
  split
  · rfl
  · dsimp only
    split_ifs <;> rfl

theorem rawLink_parseNativeConfig (rawLink : String) :
    (reader.parseNativeConfig rawLink).rawLink = rawLink := by
  simp only [LinkReader.parseNativeConfig]
  split
  · rfl
  next scheme body _ =>
    by_cases hprotocol : reader.canonicalProtocol (String.ofList scheme) ∈ allDynamicProtocols
    · rw [if_neg (not_not_intro hprotocol)]
      by_cases hvmess : reader.canonicalProtocol (String.ofList scheme) = "vmess"
      · rw [if_pos hvmess]
        rfl
      · rw [if_neg hvmess]
        exact rawLink_parseUrlStyle rawLink _
    · rw [if_pos hprotocol]
      rfl

theorem mem_validConfigs {x : ParsedNativeConfig} (hx : x ∈ reader.validConfigs rawConfigs) :
    reader.parseNativeConfig x.rawLink = x ∧ x.rawLink ≠ "" ∧ x.valid = true := by
  rw [LinkReader.validConfigs, List.mem_filter] at hx
  obtain ⟨raw, hraw, rfl⟩ := List.mem_map.mp hx.1
  rw [rawLink_parseNativeConfig]
  refine ⟨rfl, ?_, hx.2⟩
  have hmem := (List.mem_filter.mp hraw).2
  simpa using hmem

/-- The links of valid configs are read as those configs. -/
theorem validConfigs_map_rawLink {configs : List ParsedNativeConfig}
    (h : ∀ x ∈ configs, x ∈ reader.validConfigs rawConfigs) :
    reader.validConfigs (configs.map (·.rawLink)) = configs := by
  have hraw : rawValues (configs.map (·.rawLink)) = configs.map (·.rawLink) := by
    rw [rawValues, List.filter_eq_self]
    intro raw hmem
    obtain ⟨x, hx, rfl⟩ := List.mem_map.mp hmem
    simpa using (mem_validConfigs (h x hx)).2.1
  have hparsed : reader.parsedConfigs (configs.map (·.rawLink)) = configs := by
    rw [LinkReader.parsedConfigs, hraw, List.map_map]
    refine (List.map_congr_left fun x hx => ?_).trans (List.map_id configs)
    exact (mem_validConfigs (h x hx)).1
  rw [LinkReader.validConfigs, hparsed, List.filter_eq_self]
  exact fun x hx => (mem_validConfigs (h x hx)).2.2

theorem capConfigs_of_le {maxConfigs : Option ℕ} {configs : List ParsedNativeConfig}
    (h : ∀ n, maxConfigs = some n → configs.length ≤ n) : capConfigs maxConfigs configs = configs := by
  cases maxConfigs with
  | none => rfl
  | some n => exact List.take_of_length_le (h n rfl)

theorem nodup_selected (hdedup : policy.deduplicateExact = true) (rawConfigs : List String) :
    ((reader.filterUnder policy rawConfigs).selectedConfigs.map (·.rawLink)).Nodup := by
  have hremaining : ((reader.remainingConfigs policy rawConfigs).map (·.rawLink)).Nodup := by
    rw [LinkReader.remainingConfigs, if_pos hdedup]
    exact nodup_deduplicate [] _
  have hsublist := (selected_sublist_filtered policy rawConfigs).trans
    (@filteredConfigs_sublist reader policy rawConfigs)
  exact (hsublist.map _).nodup hremaining

/-- What was selected is selected again, and nothing else. -/
theorem filterUnder_selected (policy : FilterPolicy) (rawConfigs : List String) :
    (reader.filterUnder policy
      ((reader.filterUnder policy rawConfigs).selectedConfigs.map (·.rawLink))).selectedConfigs =
      (reader.filterUnder policy rawConfigs).selectedConfigs := by
  generalize hselected : (reader.filterUnder policy rawConfigs).selectedConfigs = selected
  have hsublist : selected.Sublist (reader.filteredConfigs policy rawConfigs) :=
    hselected ▸ selected_sublist_filtered policy rawConfigs
  have hvalid : ∀ x ∈ selected, x ∈ reader.validConfigs rawConfigs := fun x hx =>
    (remainingConfigs_sublist policy rawConfigs).subset
      ((filteredConfigs_sublist policy rawConfigs).subset (hsublist.subset hx))
  have hparsed := validConfigs_map_rawLink hvalid
  have hremaining : reader.remainingConfigs policy (selected.map (·.rawLink)) = selected := by
    rw [LinkReader.remainingConfigs, hparsed]
    split
    next hdedup =>
      have hnodup := @nodup_selected reader policy hdedup rawConfigs
      rw [hselected] at hnodup
      exact deduplicate_of_nodup hnodup fun _ _ => List.not_mem_nil
    next => rfl
  have hfiltered : reader.filteredConfigs policy (selected.map (·.rawLink)) = selected := by
    rw [LinkReader.filteredConfigs, hremaining, List.filter_eq_self]
    exact fun x hx => (List.mem_filter.mp (hsublist.subset hx)).2
  have hcap : ∀ n, policy.maxConfigs = some n → selected.length ≤ n := by
    intro n hn
    rw [← hselected]
    simp only [LinkReader.filterUnder, hn, capConfigs]
    exact List.length_take_le n _
  simp only [LinkReader.filterUnder, hfiltered]
  exact capConfigs_of_le hcap

/-! ## Normalizing again -/

theorem stringOf_str (rt : Runtime) (s : String) : stringOf rt (.str s) = strip s := by
  by_cases h : s = ""
  · subst h
    rfl
  · simp [stringOf, Json.truthy, Runtime.strOf, h]

/-- The words that a policy is made of: plain, and no wildcard. -/
structure PlainWords (reader : LinkReader) (defaults : List String) (aliases : String → String) :
    Prop where
  nodup : defaults.Nodup
  nonempty : defaults ≠ []
  lower : ∀ x ∈ defaults, reader.rt.lower x = x
  strip : ∀ x ∈ defaults, strip x = x
  alias_eq : ∀ x ∈ defaults, aliases x = x
  wildcard : ∀ x ∈ defaults, x ≠ "*" ∧ x ≠ "all"

/-- What `_normalize_values` returns. -/
structure NormalValues (defaults values : List String) : Prop where
  nonempty : values ≠ []
  nodup : values.Nodup
  subset : ∀ x ∈ values, x ∈ defaults

variable {defaults : List String} {aliases : String → String}

theorem normalValues_collect (hwords : PlainWords reader defaults aliases) (items : List String)
    {normalized : List String} (hnodup : normalized.Nodup) (hsub : ∀ x ∈ normalized, x ∈ defaults) :
    NormalValues defaults (reader.collectValues defaults aliases items normalized) := by
  have hdefaults : NormalValues defaults defaults :=
    ⟨hwords.nonempty, hwords.nodup, fun _ hx => hx⟩
  induction items generalizing normalized with
  | nil =>
      simp only [LinkReader.collectValues]
      split
      · exact hdefaults
      next hne => exact ⟨hne, hnodup, hsub⟩
  | cons item items ih =>
      simp only [LinkReader.collectValues]
      split
      · exact hdefaults
      · split
        next hnew =>
          refine ih ?_ fun x hx => ?_
          · exact List.nodup_append.mpr ⟨hnodup, List.nodup_singleton _, fun a ha b hb heq =>
              hnew.2 (List.mem_singleton.mp hb ▸ heq ▸ ha)⟩
          · rcases List.mem_append.mp hx with hx | hx
            · exact hsub x hx
            · exact List.mem_singleton.mp hx ▸ hnew.1
        next => exact ih hnodup hsub

theorem normalValues_normalize (hwords : PlainWords reader defaults aliases) {value : Json}
    {values : List String} (h : reader.normalizeValues value defaults aliases = some values) :
    NormalValues defaults values := by
  unfold LinkReader.normalizeValues at h
  split at h
  · rw [← Option.some_inj.mp h]
    exact ⟨hwords.nonempty, hwords.nodup, fun _ hx => hx⟩
  · obtain ⟨texts, -, rfl⟩ := Option.map_eq_some_iff.mp h
    exact normalValues_collect hwords texts List.nodup_nil fun _ hx => absurd hx List.not_mem_nil

/-- Words that are normal are collected as they are. -/
theorem collect_normal (hwords : PlainWords reader defaults aliases) (items : List String)
    {normalized : List String} (h : NormalValues defaults (normalized ++ items)) :
    reader.collectValues defaults aliases items normalized = normalized ++ items := by
  induction items generalizing normalized with
  | nil =>
      have hne : normalized ≠ [] := by simpa using h.nonempty
      rw [LinkReader.collectValues, if_neg hne, List.append_nil]
  | cons item items ih =>
      have hmem : item ∈ defaults := h.subset item (by simp)
      have hnew : item ∉ normalized := by
        have hdisjoint := (List.nodup_append.mp h.nodup).2.2
        exact fun hx => hdisjoint item hx item List.mem_cons_self rfl
      have hword : aliases (reader.rt.lower item) = item := by
        rw [hwords.lower item hmem, hwords.alias_eq item hmem]
      have hwild := hwords.wildcard item hmem
      simp only [LinkReader.collectValues, hword]
      rw [if_neg (not_or.mpr hwild), if_pos ⟨hmem, hnew⟩, ih (by simpa using h)]
      simp

theorem normalizeValues_normal (hwords : PlainWords reader defaults aliases) {values : List String}
    (h : NormalValues defaults values) :
    reader.normalizeValues (.arr (values.map .str)) defaults aliases = some values := by
  have htexts : (values.map Json.str).map (stringOf reader.rt) = values := by
    rw [List.map_map]
    refine (List.map_congr_left fun x hx => ?_).trans (List.map_id values)
    rw [Function.comp_apply, stringOf_str]
    exact hwords.strip x (h.subset x hx)
  have hset : isUnset (.arr (values.map .str)) = false := by
    simpa [isUnset] using h.nonempty
  rw [LinkReader.normalizeValues, hset, if_neg Bool.false_ne_true, LinkReader.policyTexts,
    Option.map_some, htexts]
  exact congrArg some (collect_normal hwords values h)

theorem asPositiveInt_bounds {value : Json} {maxValue n : ℕ} {default : Option ℕ} (hmax : 0 < maxValue)
    (hdefault : ∀ k, default = some k → 0 < k ∧ k ≤ maxValue)
    (h : reader.asPositiveInt value default maxValue = some n) : 0 < n ∧ n ≤ maxValue := by
  unfold LinkReader.asPositiveInt at h
  split at h
  · exact hdefault n h
  next number hnumber =>
    split_ifs at h with hpositive
    · exact hdefault n h
    · obtain rfl := Option.some_inj.mp h
      have hnat : 0 < number.toNat := by omega
      exact ⟨lt_min hnat hmax, min_le_right _ _⟩

theorem asPositiveInt_int {n maxValue : ℕ} (default : Option ℕ) (hpos : 0 < n) (hle : n ≤ maxValue) :
    reader.asPositiveInt (.int n) default maxValue = some n := by
  have hn : ¬ (n : ℤ) ≤ 0 := by omega
  simp only [LinkReader.asPositiveInt, LinkReader.toInt, if_neg hn, Int.toNat_natCast]
  rw [min_eq_left hle]

theorem length_strip_le (s : String) : (strip s).toList.length ≤ s.toList.length := by
  rw [strip, String.toList_ofList, stripChars, List.length_reverse]
  refine ((List.dropWhile_sublist _).length_le).trans ?_
  rw [List.length_reverse]
  exact (List.dropWhile_sublist _).length_le

theorem takeText_of_le {n : ℕ} {s : String} (h : s.toList.length ≤ n) : takeText n s = s := by
  rw [takeText, List.take_of_length_le h, String.ofList_toList]

theorem length_takeText (n : ℕ) (s : String) : (takeText n s).toList.length ≤ n := by
  rw [takeText, String.toList_ofList]
  exact List.length_take_le n _

/-- A cut text is cut again as it is exactly when no white space came to its end. -/
theorem takeText_strip_eq_iff (s : String) :
    takeText 200 (strip (takeText 200 s)) = takeText 200 s ↔ strip (takeText 200 s) = takeText 200 s := by
  rw [takeText_of_le ((length_strip_le _).trans (length_takeText 200 s))]

variable (reader)

/-- The texts of the words of a policy are lower case. -/
def LowersWords : Prop :=
  ∀ x ∈ allDynamicProtocols ++ allDynamicSecurity ++ allDynamicTransports, reader.rt.lower x = x

variable {reader}

theorem plainWords_protocols (h : LowersWords reader) :
    PlainWords reader allDynamicProtocols hysteriaAlias where
  nodup := by decide
  nonempty := by decide
  lower x hx := h x (by simp [hx])
  strip := by decide +kernel
  alias_eq := by decide
  wildcard := by decide

theorem plainWords_security (h : LowersWords reader) : PlainWords reader allDynamicSecurity id where
  nodup := by decide
  nonempty := by decide
  lower x hx := h x (by simp [hx])
  strip := by decide +kernel
  alias_eq := by decide
  wildcard := by decide

theorem plainWords_transports (h : LowersWords reader) :
    PlainWords reader allDynamicTransports id where
  nodup := by decide
  nonempty := by decide
  lower x hx := h x (by simp [hx])
  strip := by decide +kernel
  alias_eq := by decide
  wildcard := by decide

/-- A policy that is normalized again keeps all but the white space at the end of its texts. -/
theorem normalizePolicy_toObject (hlower : LowersWords reader) {object : JsonObject}
    {policy : FilterPolicy} (h : reader.normalizePolicy object = some policy) :
    reader.normalizePolicy policy.toObject = some
      { policy with
        remarkInclude := takeText 200 (strip policy.remarkInclude)
        remarkExclude := takeText 200 (strip policy.remarkExclude) } := by
  simp only [LinkReader.normalizePolicy, Option.bind_eq_bind, Option.bind_eq_some_iff,
    Option.pure_def, Option.some_inj] at h
  obtain ⟨protocols, hprotocols, security, hsecurity, transport, htransport, rfl⟩ := h
  have hnormal := normalValues_normalize (plainWords_protocols hlower) hprotocols
  have hnormal' := normalValues_normalize (plainWords_security hlower) hsecurity
  have hnormal'' := normalValues_normalize (plainWords_transports hlower) htransport
  have htruthy : (Json.arr (transport.map .str)).truthy = true := by
    simpa [Json.truthy] using hnormal''.nonempty
  generalize hmax : reader.asPositiveInt (field object "max_configs") none 1000 = maxConfigs
  generalize hrefresh :
    (reader.asPositiveInt (field object "refresh_interval_hours") (some 1) 720).getD 1 = refresh
  have hmaxAgain : reader.asPositiveInt (maxConfigs.elim .null fun n => .int n) none 1000 =
      maxConfigs := by
    cases maxConfigs with
    | none => rfl
    | some n =>
        have hbounds := asPositiveInt_bounds (by omega) (by simp) hmax
        exact asPositiveInt_int none hbounds.1 hbounds.2
  have hrefreshAgain : (reader.asPositiveInt (.int refresh) (some 1) 720).getD 1 = refresh := by
    have hbounds : 0 < refresh ∧ refresh ≤ 720 := by
      cases hr : reader.asPositiveInt (field object "refresh_interval_hours") (some 1) 720 with
      | none =>
          rw [hr, Option.getD_none] at hrefresh
          omega
      | some n =>
          rw [hr, Option.getD_some] at hrefresh
          have hn := asPositiveInt_bounds (by omega) (by simp) hr
          omega
    rw [asPositiveInt_int (some 1) hbounds.1 hbounds.2, Option.getD_some]
  simp [LinkReader.normalizePolicy, FilterPolicy.toObject, field, List.lookup,
    normalizeValues_normal (plainWords_protocols hlower) hnormal,
    normalizeValues_normal (plainWords_security hlower) hnormal', htruthy,
    normalizeValues_normal (plainWords_transports hlower) hnormal'', LinkReader.remarkRule,
    stringOf_str, LinkReader.asBool, hmaxAgain, hrefreshAgain]

/-! ## The contract of the filter -/

/-- What a result says of the request that it answers. -/
structure Faithful (reader : LinkReader) (rawConfigs : List String) (r : NativeConfigFilterResult) :
    Prop where
  sublist : r.selectedConfigs.Sublist (reader.validConfigs rawConfigs)
  rules : ∀ x ∈ r.selectedConfigs, Satisfies reader r.policy x
  distinct : r.policy.deduplicateExact = true → (r.selectedConfigs.map (·.rawLink)).Nodup
  capped : ∀ cap, r.policy.maxConfigs = some cap →
    r.selectedConfigs.length = min r.filteredCount cap
  uncapped : r.policy.maxConfigs = none → r.selectedConfigs.length = r.filteredCount
  parsed : r.upstreamCount = r.parsedCount
  conserved : r.parsedCount =
    r.invalidCount + r.deduplicatedCount + (reader.remainingConfigs r.policy rawConfigs).length
  reasons : (r.invalidReasons.map (·.2)).sum = r.invalidCount

theorem faithful_filterUnder (reader : LinkReader) (policy : FilterPolicy)
    (rawConfigs : List String) :
    Faithful reader rawConfigs (reader.filterUnder policy rawConfigs) := by
  have hfiltered := @filteredConfigs_sublist reader policy rawConfigs
  have hremaining := @remainingConfigs_sublist reader policy rawConfigs
  have hselected := @selected_sublist_filtered reader policy rawConfigs
  have hlength := length_invalid (reader.parsedConfigs rawConfigs)
  refine ⟨hselected.trans (hfiltered.trans hremaining), fun x hx => ?_,
    fun hdedup => nodup_selected hdedup rawConfigs, fun cap hcap => ?_, fun hnone => ?_,
    (length_parsedConfigs rawConfigs).symm, ?_, ?_⟩
  · exact satisfies_of_passes (List.mem_filter.mp (hselected.subset hx)).2
  · have hcap' : policy.maxConfigs = some cap := hcap
    simp only [LinkReader.filterUnder, hcap', capConfigs, List.length_take, min_comm]
  · have hnone' : policy.maxConfigs = none := hnone
    simp only [LinkReader.filterUnder, hnone', capConfigs]
  · have hvalid : (reader.validConfigs rawConfigs).length ≤ (reader.parsedConfigs rawConfigs).length :=
      List.length_filter_le _ _
    have hle := hremaining.length_le
    simp only [LinkReader.filterUnder]
    omega
  · simp only [LinkReader.filterUnder]
    rw [count_sum_counter, List.length_map]
    exact hlength.symm

/-- A text of the policy has no white space at the place where it is cut. -/
def CutsCleanly (reader : LinkReader) (policy : JsonObject) (key : String) : Prop :=
  strip (reader.remarkRule policy key) = reader.remarkRule policy key

/-- A reader of plain texts. -/
def plainLinkReader : LinkReader where
  rt :=
    { loads := fun _ => none
      lower := fun s => String.ofList (s.toList.map Char.toLower)
      reprOf := fun _ => ""
      converts := fun _ => true
      safeError := fun _ e => e }
  intOfText _ := none
  intOfFloat _ := none
  urlsplit _ := none
  parseQs _ := []
  unquote := id
  decodeBase64 _ := none

/-- A text of 201 characters, the last but one of them a blank. -/
def longRemark : String := String.ofList (List.replicate 199 'a' ++ [' ', 'b'])

def longPolicy : JsonObject := [("remark_include", .str longRemark)]

theorem plain_lowersWords : LowersWords plainLinkReader := by
  unfold LowersWords
  decide +kernel

/-- A text that is cut behind its blank. -/
theorem takeText_strip_run {n : ℕ} (hn : 0 < n) :
    takeText (n + 1) (strip (String.ofList (List.replicate n 'a' ++ [' ', 'b']))) =
      String.ofList (List.replicate n 'a' ++ [' ']) := by
  have hhead : (List.replicate n 'a').head? = some 'a' := by
    rw [List.head?_replicate, if_neg hn.ne']
  have hstrip : stripChars Payments.isSpace (List.replicate n 'a' ++ [' ', 'b']) =
      List.replicate n 'a' ++ [' ', 'b'] := by
    refine stripChars_eq_self (fun c hc => ?_) fun c hc => ?_
    · rw [List.head?_append, hhead] at hc
      rw [← Option.mem_some_iff.mp hc]
      decide
    · rw [List.getLast?_append] at hc
      rw [← Option.mem_some_iff.mp hc]
      decide
  have htake : (List.replicate n 'a' ++ [' ', 'b']).take (n + 1) = List.replicate n 'a' ++ [' '] := by
    simp [List.take_append]
  rw [strip, String.toList_ofList, hstrip, takeText, String.toList_ofList, htake]

theorem strip_run_ne {n : ℕ} : strip (String.ofList (List.replicate n 'a' ++ [' '])) ≠
    String.ofList (List.replicate n 'a' ++ [' ']) := by
  intro h
  have hlast := @getLast?_stripChars Payments.isSpace (List.replicate n 'a' ++ [' ']) ' '
  rw [strip, String.toList_ofList] at h
  rw [String.ofList_injective h] at hlast
  exact absurd (hlast (by simp)) (by decide)

theorem takeText_longRemark : takeText 200 (strip longRemark) =
    String.ofList (List.replicate 199 'a' ++ [' ']) :=
  @takeText_strip_run 199 (by omega)

theorem long_cut_at_blank : ¬ CutsCleanly plainLinkReader longPolicy "remark_include" := by
  have hfield : field longPolicy "remark_include" = .str longRemark := rfl
  have hrule : plainLinkReader.remarkRule longPolicy "remark_include" =
      String.ofList (List.replicate 199 'a' ++ [' ']) := by
    rw [LinkReader.remarkRule, hfield, stringOf_str, takeText_longRemark]
  unfold CutsCleanly
  rw [hrule]
  exact strip_run_ne

end Qasedak.NativeConfigs
