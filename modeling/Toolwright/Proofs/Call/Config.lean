import Mathlib.Data.List.Basic
import Mathlib.Data.String.Basic
import Toolwright.Call.Config

/-!
# Which variables count

The settings are made by going through the variables of the environment, in whatever order it has them. Each
setting hears only some of the variables: what the last one to say anything says is what it comes
to (`getD_foldl_apply`). The base URLs are kept in the order of their services, so that they too are
determined by what is found for each service (`Ascending.eq_of_lookup`).
-/

namespace Toolwright

attribute [ext] Config

namespace Config

/-! ### Base URLs by service -/

section

variable {key value : String} {pairs others : List (String × String)}

theorem lookup_cons_ite (k v other : String) (rest : List (String × String)) :
    ((k, v) :: rest).lookup other = if other = k then some v else rest.lookup other := by
  by_cases hk : other = k
  · rw [if_pos hk, hk, List.lookup_cons_self]
  · rw [if_neg hk, List.lookup_cons, beq_false_of_ne hk]

theorem lookup_putSorted (key value other : String) (pairs : List (String × String)) :
    (putSorted key value pairs).lookup other =
      if other = key then some value else pairs.lookup other := by
  induction pairs with
  | nil => exact lookup_cons_ite ..
  | cons pair rest ih =>
    obtain ⟨k, v⟩ := pair
    rw [putSorted]
    split
    · next hsame =>
      subst hsame
      rw [lookup_cons_ite, lookup_cons_ite]
      split <;> rfl
    · next hne =>
      split
      · exact lookup_cons_ite ..
      · rw [lookup_cons_ite, lookup_cons_ite, ih]
        by_cases hother : other = k
        · rw [if_pos hother, if_pos hother, if_neg fun heq => hne (heq.symm.trans hother)]
        · rw [if_neg hother, if_neg hother]

/-- The keys ascend, and so each of them is there once. -/
def Ascending (pairs : List (String × String)) : Prop :=
  pairs.Pairwise fun a b => a.1 < b.1

theorem mem_putSorted {pair : String × String} (h : pair ∈ putSorted key value pairs) :
    pair.1 = key ∨ pair ∈ pairs := by
  induction pairs with
  | nil => exact .inl (congrArg Prod.fst (List.mem_singleton.mp h))
  | cons first rest ih =>
    rw [putSorted] at h
    split at h
    · exact (List.mem_cons.mp h).imp (congrArg Prod.fst) (List.mem_cons_of_mem first)
    · split at h
      · exact (List.mem_cons.mp h).imp_left (congrArg Prod.fst)
      · rcases List.mem_cons.mp h with rfl | h
        · exact .inr List.mem_cons_self
        · exact (ih h).imp_right (List.mem_cons_of_mem first)

theorem Ascending.putSorted (h : Ascending pairs) : Ascending (putSorted key value pairs) := by
  induction pairs with
  | nil => exact List.pairwise_singleton ..
  | cons first rest ih =>
    obtain ⟨hfirst, hrest⟩ := List.pairwise_cons.mp h
    rw [Config.putSorted]
    split
    · next hsame => exact List.pairwise_cons.mpr ⟨hsame ▸ hfirst, hrest⟩
    · next hne =>
      split
      · next hbefore =>
        refine List.pairwise_cons.mpr ⟨fun pair hpair => ?_, h⟩
        rcases List.mem_cons.mp hpair with rfl | hpair
        · exact hbefore
        · exact hbefore.trans (hfirst pair hpair)
      · next hbehind =>
        refine List.pairwise_cons.mpr ⟨fun pair hpair => ?_, ih hrest⟩
        rcases mem_putSorted hpair with heq | hpair
        · exact heq ▸ lt_of_le_of_ne (not_lt.mp hbehind) (Ne.symm hne)
        · exact hfirst pair hpair

theorem Ascending.mem_iff (h : Ascending pairs) {pair : String × String} :
    pair ∈ pairs ↔ pairs.lookup pair.1 = some pair.2 := by
  induction pairs with
  | nil => simp
  | cons first rest ih =>
    obtain ⟨k, v⟩ := first
    obtain ⟨hfirst, hrest⟩ := List.pairwise_cons.mp h
    rw [List.mem_cons, lookup_cons_ite]
    by_cases hk : pair.1 = k
    · rw [if_pos hk, or_iff_left fun hmem => absurd hk (ne_of_gt (hfirst pair hmem)),
        Option.some.injEq]
      exact ⟨fun heq => (congrArg Prod.snd heq).symm, fun heq => Prod.ext hk heq.symm⟩
    · rw [if_neg hk, ← ih hrest, or_iff_right fun heq => hk (congrArg Prod.fst heq)]

/-- Pairs whose keys ascend are determined by what is found under each key. -/
theorem Ascending.eq_of_lookup (h : Ascending pairs) (hothers : Ascending others)
    (hlookup : ∀ key, pairs.lookup key = others.lookup key) : pairs = others := by
  have hnodup : ∀ {pairs : List (String × String)}, Ascending pairs → pairs.Nodup :=
    fun h => h.imp fun hlt heq => absurd (congrArg Prod.fst heq) (ne_of_lt hlt)
  refine List.Perm.eq_of_pairwise (fun a b _ _ hab hba => absurd hab (lt_asymm hba)) h hothers ?_
  rw [List.perm_ext_iff_of_nodup (hnodup h) (hnodup hothers)]
  intro pair
  rw [h.mem_iff, hothers.mem_iff, hlookup]

end

/-! ### Variables for services -/

/-- A variable sets the base URL of a service: it has the name of the service, in letters of any ASCII
case, with `_API_URL` behind it. -/
def IsFor (service : String) (entry : Variable) : Prop :=
  ∃ name, name ≠ "" ∧ entry.name = name ++ "_API_URL" ∧ serviceKey name = serviceKey service

theorem serviceOf?_eq_some_iff {name service : String} :
    serviceOf? name = some service ↔ service ≠ "" ∧ name = service ++ "_API_URL" := by
  rw [serviceOf?]
  have hname : ∀ text, Text.after? urlSuffix.toList.reverse name.toList.reverse = some text ↔
      name.toList = text.reverse ++ "_API_URL".toList := by
    intro text
    rw [Text.after?_eq_some_iff, ← List.reverse_inj, List.reverse_reverse, List.reverse_append,
      List.reverse_reverse]
    rfl
  constructor
  · intro h
    split at h
    · cases h
    · next text hne hafter =>
      obtain rfl := Option.some.inj h
      have htext : (String.ofList text.reverse).toList = text.reverse := String.toList_ofList
      refine ⟨fun hempty => hne ?_, ?_⟩
      · rwa [String.ofList_eq_empty_iff, List.reverse_eq_nil_iff] at hempty
      · rw [← String.toList_inj, String.toList_append, htext]
        exact (hname text).mp hafter
    · cases h
  · rintro ⟨hne, rfl⟩
    have hafter := (hname service.toList.reverse).mpr
      (by rw [List.reverse_reverse, String.toList_append])
    rw [hafter]
    split
    · next hempty =>
      rw [Option.some.injEq, List.reverse_eq_nil_iff] at hempty
      exact absurd (String.toList_eq_nil_iff.mp hempty) hne
    · next text _ heq =>
      rw [← Option.some.inj heq, List.reverse_reverse, String.ofList_toList]
    · next hnone => cases hnone

theorem isFor_iff {service : String} {entry : Variable} :
    IsFor service entry ↔ (serviceOf? entry.name).map serviceKey = some (serviceKey service) := by
  simp only [IsFor, Option.map_eq_some_iff, serviceOf?_eq_some_iff, and_assoc]

instance (service : String) (entry : Variable) : Decidable (IsFor service entry) :=
  decidable_of_iff _ isFor_iff.symm

/-! ### What each setting hears -/

/-- The values of the variables with a name, the first one first. -/
def valuesOf (name : String) (entries : List Variable) : List String :=
  (entries.filter fun entry => entry.name = name).map (·.value)

/-- The URLs that variables set for a service, the first one first. -/
def urlsFor (service : String) (entries : List Variable) : List String :=
  (entries.filter (IsFor service)).map (·.value)

/-- The time that a value gives. -/
def seconds? (value : String) : Option Nat :=
  Text.naturalBelow? (2 ^ 64) (trimmed value)

/-- The number of retries that a value gives. -/
def retries? (value : String) : Option Nat :=
  Text.naturalBelow? (2 ^ 32) (trimmed value)

/-- Whether a value is `true` in letters of any ASCII case. -/
def meansTrue (value : String) : Bool :=
  (trimmed value).map Char.toLower == "true".toList

/-- What is heard of the variables with a name. -/
def namedIn? {α : Type} (name : String) (hears : String → Option α) (entry : Variable) : Option α :=
  if entry.name = name then hears entry.value else none

/-- What is heard of the variables for the service that is looked up under a key. -/
def urlIn? (key : String) (entry : Variable) : Option String :=
  if (serviceOf? entry.name).map serviceKey = some key then some entry.value else none

/-- One variable sets what it says something about, and nothing else. -/
theorem apply_eq (config : Config) (entry : Variable) :
    (apply config entry).timeout = (namedIn? "API_TIMEOUT" seconds? entry).getD config.timeout ∧
    (apply config entry).maxRetries =
      (namedIn? "API_MAX_RETRIES" retries? entry).getD config.maxRetries ∧
    (apply config entry).verifySsl =
      (namedIn? "VERIFY_SSL" (some ∘ meansTrue) entry).getD config.verifySsl ∧
    (∀ key, (apply config entry).baseUrls.lookup key =
      (urlIn? key entry).or (config.baseUrls.lookup key)) ∧
    (Ascending config.baseUrls → Ascending (apply config entry).baseUrls) := by
  obtain ⟨name, value⟩ := entry
  simp only [apply, namedIn?, seconds?, retries?, urlIn?]
  -- no service is named by the three names, so that what one of them sets leaves the URLs alone
  by_cases htimeout : name = "API_TIMEOUT"
  · have hservice : serviceOf? "API_TIMEOUT" = none := by decide
    subst htimeout
    cases hparsed : Text.naturalBelow? (2 ^ 64) (trimmed value) <;> simp_all
  by_cases hretries : name = "API_MAX_RETRIES"
  · have hservice : serviceOf? "API_MAX_RETRIES" = none := by decide
    subst hretries
    cases hparsed : Text.naturalBelow? (2 ^ 32) (trimmed value) <;> simp_all
  by_cases hverify : name = "VERIFY_SSL"
  · have hservice : serviceOf? "VERIFY_SSL" = none := by decide
    subst hverify
    simp [hservice, meansTrue]
  cases hservice : serviceOf? name with
  | none => simp [htimeout, hretries, hverify]
  | some service =>
    simp only [htimeout, hretries, hverify, if_false, withBaseUrl, Option.getD_none, Option.map_some,
      Option.some.injEq, lookup_putSorted, true_and]
    refine ⟨fun key => ?_, Ascending.putSorted⟩
    by_cases hkey : serviceKey service = key
    · rw [if_pos hkey.symm, if_pos hkey, Option.some_or]
    · rw [if_neg (Ne.symm hkey), if_neg hkey, Option.none_or]

/-- Of many variables a setting hears the last one that tells it something. -/
theorem getD_foldl_apply {α : Type} (setting : Config → α) (hears : Variable → Option α)
    (hstep : ∀ config entry, setting (apply config entry) = (hears entry).getD (setting config))
    (entries : List Variable) (config : Config) :
    setting (entries.foldl apply config) =
      (entries.filterMap hears).getLast?.getD (setting config) := by
  induction entries generalizing config with
  | nil => rfl
  | cons entry rest ih =>
    rw [List.foldl_cons, ih, hstep, List.filterMap_cons]
    cases hears entry with
    | none => rfl
    | some value => rw [List.getLast?_cons, Option.getD_some, Option.getD_some]

theorem ascending_ofVariables (entries : List Variable) : Ascending (ofVariables entries).baseUrls :=
  List.foldlRecOn entries apply .nil fun config h entry _ => (apply_eq config entry).2.2.2.2 h

theorem timeout_ofVariables (entries : List Variable) :
    (ofVariables entries).timeout =
      (entries.filterMap (namedIn? "API_TIMEOUT" seconds?)).getLast?.getD 30 :=
  getD_foldl_apply _ _ (fun config entry => (apply_eq config entry).1) entries {}

theorem maxRetries_ofVariables (entries : List Variable) :
    (ofVariables entries).maxRetries =
      (entries.filterMap (namedIn? "API_MAX_RETRIES" retries?)).getLast?.getD 3 :=
  getD_foldl_apply _ _ (fun config entry => (apply_eq config entry).2.1) entries {}

theorem verifySsl_ofVariables (entries : List Variable) :
    (ofVariables entries).verifySsl =
      (entries.filterMap (namedIn? "VERIFY_SSL" (some ∘ meansTrue))).getLast?.getD true :=
  getD_foldl_apply _ _ (fun config entry => (apply_eq config entry).2.2.1) entries {}

theorem lookup_ofVariables (entries : List Variable) (key : String) :
    (ofVariables entries).baseUrls.lookup key = (entries.filterMap (urlIn? key)).getLast? := by
  have hstep : ∀ config entry, (apply config entry).baseUrls.lookup key =
      ((urlIn? key entry).map some).getD (config.baseUrls.lookup key) := by
    intro config entry
    rw [(apply_eq config entry).2.2.2.1 key]
    cases urlIn? key entry <;> rfl
  rw [ofVariables, getD_foldl_apply (fun config => config.baseUrls.lookup key) _ hstep,
    ← List.map_filterMap, List.getLast?_map]
  cases (entries.filterMap (urlIn? key)).getLast? <;> rfl

theorem filterMap_valuesOf {α : Type} (name : String) (hears : String → Option α)
    (entries : List Variable) :
    (valuesOf name entries).filterMap hears = entries.filterMap (namedIn? name hears) := by
  rw [valuesOf, List.filterMap_map, List.filterMap_filter]
  simp only [decide_eq_true_eq]
  rfl

theorem urlsFor_eq (service : String) (entries : List Variable) :
    urlsFor service entries = entries.filterMap (urlIn? (serviceKey service)) := by
  rw [urlsFor, ← List.filterMap_eq_map, List.filterMap_filter]
  simp only [isFor_iff, decide_eq_true_eq]
  rfl

/-! ### Other orders -/

/-- `KeepsOrder entries others`: the variables are the same, and those whose names agree up to ASCII case
come one after another in the same order. -/
def KeepsOrder (entries others : List Variable) : Prop :=
  ∀ key, (entries.filter fun entry => serviceKey entry.name = key) =
    others.filter fun entry => serviceKey entry.name = key

/-- Neighbours whose names differ may change places. -/
theorem KeepsOrder.swap {a b : Variable} (h : serviceKey a.name ≠ serviceKey b.name)
    (before behind : List Variable) :
    KeepsOrder (before ++ a :: b :: behind) (before ++ b :: a :: behind) := by
  intro key
  rw [List.filter_append, List.filter_append]
  refine congrArg _ ?_
  by_cases ha : serviceKey a.name = key
  · have hb : ¬ serviceKey b.name = key := fun hb => h (ha.trans hb.symm)
    simp [ha, hb]
  · simp [List.filter_cons, ha]

/-- What is heard of variables whose names agree does not change with the order of the others. -/
theorem KeepsOrder.filterMap_eq {α : Type} {entries others : List Variable}
    (h : KeepsOrder entries others) {key : String} {hears : Variable → Option α}
    (hkey : ∀ entry, (hears entry).isSome → serviceKey entry.name = key) :
    entries.filterMap hears = others.filterMap hears := by
  have hfilter : ∀ entries : List Variable,
      (entries.filter fun entry => serviceKey entry.name = key).filterMap hears =
        entries.filterMap hears := by
    intro entries
    rw [List.filterMap_filter]
    refine List.filterMap_congr fun entry _ => ?_
    by_cases hheard : (hears entry).isSome
    · rw [if_pos (decide_eq_true (hkey entry hheard))]
    · rw [Option.not_isSome_iff_eq_none.mp hheard, ite_self]
  rw [← hfilter entries, h key, hfilter others]

/-- Two services have one key if their letters are the same but for ASCII case. -/
theorem serviceKey_eq_iff {service other : String} :
    serviceKey service = serviceKey other ↔
      service.toList.map Char.toLower = other.toList.map Char.toLower := by
  rw [← String.toList_inj, serviceKey, serviceKey, String.toList_map, String.toList_map]

theorem serviceKey_append (a b : String) : serviceKey (a ++ b) = serviceKey a ++ serviceKey b := by
  rw [← String.toList_inj]
  simp [serviceKey]

theorem serviceKey_of_namedIn? {α : Type} {name : String} {hears : String → Option α}
    {entry : Variable} (h : (namedIn? name hears entry).isSome) :
    serviceKey entry.name = serviceKey name := by
  rw [namedIn?] at h
  split at h
  · next hname => rw [hname]
  · cases h

theorem serviceKey_of_urlIn? {key : String} {entry : Variable} (h : (urlIn? key entry).isSome) :
    serviceKey entry.name = key ++ serviceKey "_API_URL" := by
  rw [urlIn?] at h
  split at h
  · next hservice =>
    obtain ⟨service, hof, rfl⟩ := Option.map_eq_some_iff.mp hservice
    rw [(serviceOf?_eq_some_iff.mp hof).2, serviceKey_append]
  · cases h

theorem KeepsOrder.ofVariables_eq {entries others : List Variable} (h : KeepsOrder entries others) :
    ofVariables entries = ofVariables others := by
  -- equal look-ups are enough for equal lists, since both are sorted by service
  have hurls : (ofVariables entries).baseUrls = (ofVariables others).baseUrls := by
    refine (ascending_ofVariables entries).eq_of_lookup (ascending_ofVariables others) fun key => ?_
    rw [lookup_ofVariables, lookup_ofVariables, h.filterMap_eq fun _ => serviceKey_of_urlIn?]
  have htimeout : (ofVariables entries).timeout = (ofVariables others).timeout := by
    rw [timeout_ofVariables, timeout_ofVariables, h.filterMap_eq fun _ => serviceKey_of_namedIn?]
  have hretries : (ofVariables entries).maxRetries = (ofVariables others).maxRetries := by
    rw [maxRetries_ofVariables, maxRetries_ofVariables,
      h.filterMap_eq fun _ => serviceKey_of_namedIn?]
  have hverify : (ofVariables entries).verifySsl = (ofVariables others).verifySsl := by
    rw [verifySsl_ofVariables, verifySsl_ofVariables,
      h.filterMap_eq fun _ => serviceKey_of_namedIn?]
  exact Config.ext hurls htimeout hretries hverify

/-- A variable is for one service only. -/
theorem IsFor.serviceKey_eq {service other : String} {entry : Variable} (h : IsFor service entry)
    (hother : IsFor other entry) : serviceKey service = serviceKey other := by
  rw [isFor_iff] at h hother
  exact Option.some.inj (h.symm.trans hother)

theorem urlsFor_filter {service other : String} (h : serviceKey service ≠ serviceKey other)
    (entries : List Variable) :
    urlsFor other (entries.filter fun entry => ¬ IsFor service entry) = urlsFor other entries := by
  rw [urlsFor, urlsFor, List.filter_filter]
  refine congrArg _ (List.filter_congr fun entry _ => ?_)
  rw [← Bool.decide_and]
  exact decide_eq_decide.mpr
    (and_iff_left_of_imp fun hother hservice => h (hservice.serviceKey_eq hother))

theorem baseUrl_ofVariables (entries : List Variable) (service default : String) :
    (ofVariables entries).baseUrl service default = (urlsFor service entries).getLast?.getD default := by
  rw [baseUrl, lookup_ofVariables, urlsFor_eq]

/-- **The last variable that can be understood counts, for each setting and each service by itself.** What
the settings come to is what the last value gives that can be read as a time or as a number of
retries, whether the last value about certificates is `true`, and for each service the last URL that is
set for it; where there is none it is the default. So the order of the variables does not matter
as long as those whose names agree up to ASCII case keep theirs, and whatever variables for one service
are added, changed or removed, the base URL of any other service stays as it is. -/
theorem last_counts (entries : List Variable) :
    let config := ofVariables entries
    config.timeout = ((valuesOf "API_TIMEOUT" entries).filterMap seconds?).getLast?.getD 30 ∧
    config.maxRetries = ((valuesOf "API_MAX_RETRIES" entries).filterMap retries?).getLast?.getD 3 ∧
    config.verifySsl = ((valuesOf "VERIFY_SSL" entries).getLast?.map meansTrue).getD true ∧
    (∀ service default,
      config.baseUrl service default = (urlsFor service entries).getLast?.getD default) ∧
    (∀ others, KeepsOrder entries others → ofVariables others = config) ∧
    ∀ service other, serviceKey service ≠ serviceKey other →
      ∀ others, (others.filter fun entry => ¬ IsFor service entry) =
          (entries.filter fun entry => ¬ IsFor service entry) →
        ∀ default, (ofVariables others).baseUrl other default = config.baseUrl other default := by
  intro config
  refine ⟨?_, ?_, ?_, baseUrl_ofVariables entries, fun others h => h.ofVariables_eq.symm, ?_⟩
  · rw [filterMap_valuesOf]
    exact timeout_ofVariables entries
  · rw [filterMap_valuesOf]
    exact maxRetries_ofVariables entries
  · rw [← List.getLast?_map, ← List.filterMap_eq_map, filterMap_valuesOf]
    exact verifySsl_ofVariables entries
  · intro service other hne others hothers default
    rw [baseUrl_ofVariables, baseUrl_ofVariables, ← urlsFor_filter hne others, hothers,
      urlsFor_filter hne]

/-- A URL that is set before the time or behind it, and one that is set for another service. -/
theorem last_counts_ofTenants :
    let url : Variable := ⟨"ALPHA_API_URL", "https://alpha.example"⟩
    let timeout : Variable := ⟨"API_TIMEOUT", "5"⟩
    KeepsOrder [url, timeout] [timeout, url] ∧
    ofVariables [timeout, url] = ofVariables [url, timeout] ∧
    serviceKey "alpha" ≠ serviceKey "beta" ∧ IsFor "alpha" url ∧
    (ofVariables [timeout]).baseUrl "beta" "none" =
      (ofVariables [url, timeout]).baseUrl "beta" "none" := by
  intro url timeout
  obtain ⟨-, -, -, -, horder, hservices⟩ := last_counts [url, timeout]
  have hkeys : serviceKey "ALPHA_API_URL" ≠ serviceKey "API_TIMEOUT" :=
    mt serviceKey_eq_iff.mp (by decide)
  have hkeeps : KeepsOrder [url, timeout] [timeout, url] := .swap hkeys [] []
  have hne : serviceKey "alpha" ≠ serviceKey "beta" := mt serviceKey_eq_iff.mp (by decide)
  have hfor : IsFor "alpha" url :=
    ⟨"ALPHA", by decide, by decide, serviceKey_eq_iff.mpr (by decide)⟩
  have hrest : ([timeout].filter fun entry => ¬ IsFor "alpha" entry) =
      [url, timeout].filter fun entry => ¬ IsFor "alpha" entry :=
    (List.filter_cons_of_neg (by simpa using hfor)).symm
  exact ⟨hkeeps, horder _ hkeeps, hne, hfor, hservices _ _ hne _ hrest "none"⟩

end Config

end Toolwright
