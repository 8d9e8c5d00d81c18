import Mathlib.Logic.Function.Basic
import Mathlib.Tactic.Common
import OperatorDaemon.Configuration.Basic
import OperatorDaemon.Proofs.Result
import OperatorDaemon.Proofs.Text.Blank

/-!
# What a configuration is read from

Every setting is read from its own variable, or from none if the variable is blank. So a configuration is read if
and only if each variable would do on its own, and the first one that would not is reported. Only the URL of the
service depends on a second setting, the network, and only if it is not set.
-/

namespace OperatorDaemon

lemma Setting.variableName_injective : Function.Injective Setting.variableName := by
  intro s s' h
  cases s <;> cases s' <;> first | rfl | simp [variableName] at h

namespace Configuration

/-- The settings whose values are checked, in the order in which they are. Any text that is not blank is the path of
a key file. -/
def checked : List Setting :=
  [.network, .serviceUrl, .timeout, .host, .port, .nodeAddress, .checkInterval, .logFormat]

/-- Why a value of a setting is not acceptable, if it is not. -/
def reason? (value : String) : Setting → Option String
  | .network => failure? (Network.read value)
  | .serviceUrl => failure? (readUrl value)
  | .timeout => failure? (readSeconds value)
  | .host => failure? (readHost value)
  | .port => failure? (readNumber 65535 value)
  | .keyPath => none
  | .nodeAddress => failure? (readAddress value)
  | .checkInterval => failure? (readSeconds value)
  | .logFormat => failure? (readLogFormat value)

/-- A setting passes if its variable is unset, blank or acceptable. -/
def Passes (vars : Variables) (s : Setting) : Prop :=
  ∀ value, vars s.variableName = some value → isBlankText value ∨ reason? value s = none

/-- The variable of a setting holds a value that is not acceptable. -/
def Fails (vars : Variables) (s : Setting) (reason : String) : Prop :=
  ∃ value, vars s.variableName = some value ∧ isBlankText value = false ∧ reason? value s = some reason

/-- The configurations agree on a setting. -/
def AgreesOn (c c' : Configuration) : Setting → Prop
  | .network => c.network = c'.network
  | .serviceUrl => c.serviceUrl = c'.serviceUrl
  | .timeout => c.timeout = c'.timeout
  | .host => c.host = c'.host
  | .port => c.port = c'.port
  | .keyPath => c.keyPath = c'.keyPath
  | .nodeAddress => c.nodeAddress = c'.nodeAddress
  | .checkInterval => c.checkInterval = c'.checkInterval
  | .logFormat => c.logFormat = c'.logFormat

/-- Only the variable of one setting is set. -/
def alone (s : Setting) (value : String) : Variables :=
  Function.update (fun _ => none) s.variableName (some value)

/-- Variables that hold the same values with blanks around them, except for the path of the key file, which is the
same. -/
def Surrounds (vars vars' : Variables) : Prop :=
  ∀ name, vars' name = vars name ∨
    name ≠ Setting.keyPath.variableName ∧ ∃ before value after, isBlankText before ∧ isBlankText after ∧
      vars name = some value ∧ vars' name = some (surround before value after)

variable {vars vars' : Variables} {s : Setting} {c c' : Configuration} {α : Type}

/-! ### One setting -/

lemma value?_eq_some_iff {value : String} :
    value? vars s = some value ↔ vars s.variableName = some value ∧ isBlankText value = false := by
  simp [value?, Option.filter_eq_some_iff]

lemma value?_congr (h : vars s.variableName = vars' s.variableName) : value? vars s = value? vars' s := by
  rw [value?, value?, h]

/-- The error about a setting, if its value is not acceptable. -/
def fault? (vars : Variables) (s : Setting) : Option Error :=
  (value? vars s).bind fun value => (reason? value s).map (⟨s, ·⟩)

lemma fault?_eq_none_iff : fault? vars s = none ↔ Passes vars s := by
  simp only [fault?, Option.bind_eq_none_iff, Option.map_eq_none_iff, value?_eq_some_iff, and_imp, Passes]
  refine forall₂_congr fun value _ => ?_
  rw [← Bool.not_eq_true, or_iff_not_imp_left]

lemma fault?_eq_some_iff {e : Error} : fault? vars s = some e ↔ e.setting = s ∧ Fails vars s e.reason := by
  simp only [fault?, Option.bind_eq_some_iff, Option.map_eq_some_iff, value?_eq_some_iff, Fails]
  constructor
  · rintro ⟨value, ⟨hvalue, hblank⟩, reason, hreason, rfl⟩
    exact ⟨rfl, value, hvalue, hblank, hreason⟩
  · rintro ⟨rfl, value, hvalue, hblank, hreason⟩
    exact ⟨value, ⟨hvalue, hblank⟩, e.reason, hreason, rfl⟩

section Reader

variable {read : String → Except String α}

lemma failure?_optional (hread : ∀ value, reason? value s = failure? (read value)) :
    failure? (optional vars s read) = fault? vars s := by
  unfold optional fault?
  cases value? vars s with
  | none => rfl
  | some value =>
    simp only [Option.bind_some, hread]
    cases read value <;> rfl

lemma failure?_withDefault (default : α) (hread : ∀ value, reason? value s = failure? (read value)) :
    failure? (withDefault vars s default read) = fault? vars s := by
  rw [withDefault, failure?_map, failure?_optional hread]

lemma optional_congr (h : vars s.variableName = vars' s.variableName) :
    optional vars s read = optional vars' s read := by
  rw [optional, optional, value?_congr h]

lemma optional_eq_ok_iff {value : String} (hvalue : value? vars s = some value)
    {a : Option α} : optional vars s read = .ok a ↔ ∃ b, read value = .ok b ∧ some b = a := by
  rw [optional, hvalue]
  cases hread : read value <;> simp [hread]

lemma withDefault_congr {default : α} (h : vars s.variableName = vars' s.variableName) :
    withDefault vars s default read = withDefault vars' s default read := by
  rw [withDefault, withDefault, optional_congr h]

end Reader

/-- The URL of every network is acceptable. -/
lemma exists_readUrl_serviceUrl (network : Network) : ∃ url, readUrl network.serviceUrl = .ok url := by
  rw [← failure?_eq_none_iff]
  cases network <;> decide +kernel

lemma serviceUrlOf_eq_ok_iff {network : Network} {url : Url} : serviceUrlOf vars network = .ok url ↔
    readUrl ((value? vars .serviceUrl).getD network.serviceUrl) = .ok url := by
  rw [serviceUrlOf]
  cases readUrl ((value? vars .serviceUrl).getD network.serviceUrl) <;> simp

lemma failure?_serviceUrlOf (vars : Variables) (network : Network) :
    failure? (serviceUrlOf vars network) = fault? vars .serviceUrl := by
  rw [serviceUrlOf, fault?]
  cases value? vars .serviceUrl with
  | none =>
    obtain ⟨url, hurl⟩ := exists_readUrl_serviceUrl network
    simp only [Option.getD_none, hurl]
    rfl
  | some value =>
    simp only [Option.getD_some, Option.bind_some, reason?]
    cases readUrl value <;> rfl

lemma readSeconds_eq_ok_iff {value : String} {n : Nat} :
    readSeconds value = .ok n ↔ readNumber 0xFFFFFFFFFFFFFFFF value = .ok n ∧ n ≠ 0 := by
  unfold readSeconds
  split
  · rename_i hzero
    simp only [hzero, reduceCtorEq, Except.ok.injEq, false_iff, not_and, not_not]
    exact fun h => h.symm
  · rename_i hne
    constructor
    · intro h
      exact ⟨h, fun hzero => hne (hzero ▸ h)⟩
    · exact fun h => h.1

lemma ne_zero_of_withDefault_readSeconds {default n : Nat} (hdefault : default ≠ 0)
    (h : withDefault vars s default readSeconds = .ok n) : n ≠ 0 := by
  obtain ⟨seconds, hseconds, rfl⟩ := map_eq_ok_iff.mp h
  cases hvalue : value? vars s with
  | none =>
    rw [optional, hvalue] at hseconds
    cases hseconds
    exact hdefault
  | some value =>
    obtain ⟨n, hread, rfl⟩ := (optional_eq_ok_iff hvalue).mp hseconds
    exact (readSeconds_eq_ok_iff.mp hread).2

/-! ### All settings -/

/-- What a configuration consists of, setting by setting. -/
@[mk_iff]
structure IsReadFrom (vars : Variables) (c : Configuration) : Prop where
  network : withDefault vars .network .mainnet Network.read = .ok c.network
  serviceUrl : serviceUrlOf vars c.network = .ok c.serviceUrl
  timeout : withDefault vars .timeout 30 readSeconds = .ok c.timeout
  host : withDefault vars .host (.v4 .localhost) readHost = .ok c.host
  port : withDefault vars .port 8080 (readNumber 65535) = .ok c.port
  keyPath : value? vars .keyPath = c.keyPath
  nodeAddress : optional vars .nodeAddress readAddress = .ok c.nodeAddress
  checkInterval : withDefault vars .checkInterval 15 readSeconds = .ok c.checkInterval
  logFormat : withDefault vars .logFormat .pretty readLogFormat = .ok c.logFormat

lemma read_eq_ok_iff : read vars = .ok c ↔ IsReadFrom vars c := by
  constructor
  · intro h
    obtain ⟨_, hnetwork, h⟩ := exists_of_bind_eq_ok h
    obtain ⟨_, hurl, h⟩ := exists_of_bind_eq_ok h
    obtain ⟨_, htimeout, h⟩ := exists_of_bind_eq_ok h
    obtain ⟨_, hhost, h⟩ := exists_of_bind_eq_ok h
    obtain ⟨_, hport, h⟩ := exists_of_bind_eq_ok h
    obtain ⟨_, haddress, h⟩ := exists_of_bind_eq_ok h
    obtain ⟨_, hinterval, h⟩ := exists_of_bind_eq_ok h
    obtain ⟨_, hformat, h⟩ := exists_of_bind_eq_ok h
    cases h
    exact ⟨hnetwork, hurl, htimeout, hhost, hport, rfl, haddress, hinterval, hformat⟩
  · rintro ⟨hnetwork, hurl, htimeout, hhost, hport, hpath, haddress, hinterval, hformat⟩
    simp only [read, hnetwork, hurl, htimeout, hhost, hport, hpath, haddress, hinterval, hformat, bind, Except.bind]
    rfl

/-- One setting after the other is checked. -/
lemma failure?_stage {β : Type} {x : Except Error α} {f : α → Except Error β} {rest : List Setting}
    (hx : failure? x = fault? vars s) (hf : ∀ a, failure? (f a) = rest.findSome? (fault? vars)) :
    failure? (x >>= f) = (s :: rest).findSome? (fault? vars) := by
  rw [List.findSome?_cons, ← hx]
  cases x with
  | error e => rfl
  | ok a => exact hf a

/-- The first fault is reported. -/
theorem failure?_read (vars : Variables) : failure? (read vars) = checked.findSome? (fault? vars) :=
  failure?_stage (failure?_withDefault _ fun _ => rfl) fun network =>
  failure?_stage (failure?_serviceUrlOf vars network) fun _ =>
  failure?_stage (failure?_withDefault _ fun _ => rfl) fun _ =>
  failure?_stage (failure?_withDefault _ fun _ => rfl) fun _ =>
  failure?_stage (failure?_withDefault _ fun _ => rfl) fun _ =>
  failure?_stage (failure?_optional fun _ => rfl) fun _ =>
  failure?_stage (failure?_withDefault _ fun _ => rfl) fun _ =>
  failure?_stage (failure?_withDefault _ fun _ => rfl) fun _ => rfl

lemma exists_read_iff : (∃ c, read vars = .ok c) ↔ ∀ s ∈ checked, Passes vars s := by
  simp only [← failure?_eq_none_iff, failure?_read, List.findSome?_eq_none_iff, fault?_eq_none_iff]

/-- What is reported is the first setting that does not pass. -/
lemma exists_split_of_read_eq_error {e : Error} (h : read vars = .error e) :
    ∃ before after, checked = before ++ e.setting :: after ∧ (∀ s ∈ before, Passes vars s) ∧
      Fails vars e.setting e.reason := by
  rw [← failure?_eq_some_iff, failure?_read, List.findSome?_eq_some_iff] at h
  obtain ⟨before, s, after, hchecked, hfault, hbefore⟩ := h
  obtain ⟨rfl, hfails⟩ := fault?_eq_some_iff.mp hfault
  exact ⟨before, after, hchecked, fun s hs => fault?_eq_none_iff.mp (hbefore s hs), hfails⟩

/-- A setting that does not pass is reported, or one before it. -/
lemma exists_read_eq_error {before after : List Setting} {reason : String}
    (hchecked : checked = before ++ s :: after) (h : Fails vars s reason) :
    ∃ e, read vars = .error e ∧ ((∀ s ∈ before, Passes vars s) → e = ⟨s, reason⟩) := by
  have hfault : fault? vars s = some ⟨s, reason⟩ := fault?_eq_some_iff.mpr ⟨rfl, h⟩
  have hfailure := failure?_read vars
  rw [hchecked, List.findSome?_append, List.findSome?_cons, hfault] at hfailure
  cases hbefore : before.findSome? (fault? vars) with
  | some e =>
    rw [hbefore, Option.some_or, failure?_eq_some_iff] at hfailure
    refine ⟨e, hfailure, fun hpass => ?_⟩
    rw [List.findSome?_eq_none_iff.mpr fun s hs => fault?_eq_none_iff.mpr (hpass s hs)] at hbefore
    cases hbefore
  | none =>
    rw [hbefore, Option.none_or, failure?_eq_some_iff] at hfailure
    exact ⟨_, hfailure, fun _ => rfl⟩

lemma passes_alone_iff {value : String} {s' : Setting} :
    Passes (alone s value) s' ↔ (s' = s → isBlankText value ∨ reason? value s = none) := by
  unfold Passes alone
  by_cases hs : s' = s
  · subst hs
    simp
  · simp [hs, Setting.variableName_injective.ne hs]

/-- A value is blank or acceptable if it does no harm when nothing else is set. -/
lemma exists_read_alone_iff {value : String} (hs : s ∈ checked) :
    (∃ c, read (alone s value) = .ok c) ↔ isBlankText value ∨ reason? value s = none := by
  simp only [exists_read_iff, passes_alone_iff]
  constructor
  · intro h
    exact h s hs rfl
  · intro h s' _ _
    exact h

/-! ### Variables that stand for the same -/

/-- Nothing but the values that are not blank is looked at. -/
lemma read_congr (h : ∀ s, value? vars s = value? vars' s) : read vars = read vars' := by
  simp only [read, withDefault, optional, serviceUrlOf, h]

lemma read_update_blank (vars : Variables) (name : String) {blank : String} (h : isBlankText blank) :
    read (Function.update vars name (some blank)) = read (Function.update vars name none) := by
  refine read_congr fun s => ?_
  unfold value?
  by_cases hs : s.variableName = name
  · subst hs
    simp [h]
  · simp [hs]

lemma serviceUrlOf_congr {network network' : Network}
    (hvars : vars Setting.serviceUrl.variableName = vars' Setting.serviceUrl.variableName)
    (hnetwork : value? vars .serviceUrl = none → network = network') :
    serviceUrlOf vars network = serviceUrlOf vars' network' := by
  have htext : (value? vars .serviceUrl).getD network.serviceUrl =
      (value? vars' .serviceUrl).getD network'.serviceUrl := by
    rw [← value?_congr hvars]
    cases hvalue : value? vars .serviceUrl with
    | none => rw [hnetwork hvalue]
    | some value => rfl
  rw [serviceUrlOf, serviceUrlOf, htext]

/-- Configurations whose variables for a setting are the same agree on it, provided that the network is the same as
well if it is the URL of the service that is not set. -/
lemma IsReadFrom.agreesOn (h : IsReadFrom vars c) (h' : IsReadFrom vars' c')
    (hvars : vars s.variableName = vars' s.variableName)
    (hnetwork : s = .serviceUrl → value? vars s = none → c.network = c'.network) : AgreesOn c c' s := by
  cases s with
  | network => exact eq_of_eq_ok h.network h'.network (withDefault_congr hvars)
  | serviceUrl => exact eq_of_eq_ok h.serviceUrl h'.serviceUrl (serviceUrlOf_congr hvars (hnetwork rfl))
  | timeout => exact eq_of_eq_ok h.timeout h'.timeout (withDefault_congr hvars)
  | host => exact eq_of_eq_ok h.host h'.host (withDefault_congr hvars)
  | port => exact eq_of_eq_ok h.port h'.port (withDefault_congr hvars)
  | keyPath => exact h.keyPath.symm.trans ((value?_congr hvars).trans h'.keyPath)
  | nodeAddress => exact eq_of_eq_ok h.nodeAddress h'.nodeAddress (optional_congr hvars)
  | checkInterval => exact eq_of_eq_ok h.checkInterval h'.checkInterval (withDefault_congr hvars)
  | logFormat => exact eq_of_eq_ok h.logFormat h'.logFormat (withDefault_congr hvars)

section NodeAddress

variable (hvars : ∀ s : Setting, s ≠ .nodeAddress → vars s.variableName = vars' s.variableName)
include hvars

lemma IsReadFrom.eq_of_nodeAddress (h : IsReadFrom vars c) (h' : IsReadFrom vars' c') :
    c' = { c with nodeAddress := c'.nodeAddress } := by
  have hnetwork : c.network = c'.network := h.agreesOn h' (s := .network) (hvars _ (by decide)) (by simp)
  have hagrees (s : Setting) (hs : s ≠ .nodeAddress) : AgreesOn c c' s :=
    h.agreesOn h' (hvars s hs) fun _ _ => hnetwork
  have hurl : c.serviceUrl = c'.serviceUrl := hagrees .serviceUrl (by decide)
  have htimeout : c.timeout = c'.timeout := hagrees .timeout (by decide)
  have hhost : c.host = c'.host := hagrees .host (by decide)
  have hport : c.port = c'.port := hagrees .port (by decide)
  have hpath : c.keyPath = c'.keyPath := hagrees .keyPath (by decide)
  have hinterval : c.checkInterval = c'.checkInterval := hagrees .checkInterval (by decide)
  have hformat : c.logFormat = c'.logFormat := hagrees .logFormat (by decide)
  rw [hnetwork, hurl, htimeout, hhost, hport, hpath, hinterval, hformat]

variable (h : Passes vars .nodeAddress) (h' : Passes vars' .nodeAddress)
include h h'

/-- Acceptable node addresses make no difference to whether there is a configuration, nor to what is reported. -/
lemma failure?_read_of_nodeAddress : failure? (read vars') = failure? (read vars) := by
  have hfault : fault? vars' = fault? vars := by
    funext s
    by_cases hs : s = .nodeAddress
    · rw [hs, fault?_eq_none_iff.mpr h, fault?_eq_none_iff.mpr h']
    · rw [fault?, fault?, value?_congr (hvars s hs)]
  rw [failure?_read, failure?_read, hfault]

lemma exists_read_of_nodeAddress (hread : read vars = .ok c) :
    ∃ address, read vars' = .ok { c with nodeAddress := address } := by
  have hfailure := failure?_read_of_nodeAddress hvars h h'
  rw [failure?_eq_none_iff.mpr ⟨c, hread⟩, failure?_eq_none_iff] at hfailure
  obtain ⟨c', hread'⟩ := hfailure
  refine ⟨c'.nodeAddress, ?_⟩
  rw [hread', ← (read_eq_ok_iff.mp hread).eq_of_nodeAddress hvars (read_eq_ok_iff.mp hread')]

end NodeAddress

/-! ### Blanks around values -/

/-- What is read does not depend on the blanks around it. -/
def IgnoresBlanks (read : String → Except String α) : Prop :=
  ∀ {before after}, isBlankText before → isBlankText after →
    ∀ value a, read (surround before value after) = .ok a ↔ read value = .ok a

lemma ignoresBlanks_network : IgnoresBlanks Network.read := by
  intro before after hbefore hafter value a
  rw [Network.read, Network.read, trim_surround hbefore hafter]

lemma ignoresBlanks_readUrl : IgnoresBlanks readUrl := by
  intro before after hbefore hafter value a
  rw [readUrl, readUrl, trim_surround hbefore hafter]
  cases Url.parse (trim value) <;> simp

lemma ignoresBlanks_readNumber (limit : Nat) : IgnoresBlanks (readNumber limit) := by
  intro before after hbefore hafter value a
  rw [readNumber, readNumber, trim_surround hbefore hafter, mapError_eq_ok_iff, mapError_eq_ok_iff]

lemma ignoresBlanks_readSeconds : IgnoresBlanks readSeconds := by
  intro before after hbefore hafter value a
  rw [readSeconds_eq_ok_iff, readSeconds_eq_ok_iff, ignoresBlanks_readNumber _ hbefore hafter]

lemma ignoresBlanks_readHost : IgnoresBlanks readHost := by
  intro before after hbefore hafter value a
  rw [readHost, readHost, trim_surround hbefore hafter]
  cases IpAddress.parse? (trim value) <;> simp

lemma ignoresBlanks_readAddress : IgnoresBlanks readAddress := by
  intro before after hbefore hafter value a
  rw [readAddress, readAddress, trim_surround hbefore hafter, mapError_eq_ok_iff, mapError_eq_ok_iff]

lemma ignoresBlanks_readLogFormat : IgnoresBlanks readLogFormat := by
  intro before after hbefore hafter value a
  rw [readLogFormat, readLogFormat, trim_surround hbefore hafter]

section Surrounds

variable (h : Surrounds vars vars')
include h

lemma Surrounds.value?_keyPath : value? vars' .keyPath = value? vars .keyPath :=
  (h Setting.keyPath.variableName).elim value?_congr fun hname => absurd rfl hname.1

/-- A setting has the same value with blanks around it, or both times none. -/
lemma Surrounds.value? (s : Setting) : value? vars' s = value? vars s ∨
    ∃ before value after, isBlankText before ∧ isBlankText after ∧
      value? vars s = some value ∧ value? vars' s = some (surround before value after) := by
  rcases h s.variableName with hsame | ⟨-, before, value, after, hbefore, hafter, hvalue, hvalue'⟩
  · exact .inl (value?_congr hsame)
  · have hblank := isBlankText_surround hbefore hafter value
    unfold Configuration.value?
    rw [hvalue, hvalue']
    cases hisBlank : isBlankText value with
    | true => simp [Option.filter, hblank, hisBlank]
    | false => exact .inr ⟨before, value, after, hbefore, hafter, by simp [hisBlank], by simp [hblank, hisBlank]⟩

lemma Surrounds.optional {read : String → Except String α} (hread : IgnoresBlanks read) {a : Option α} :
    optional vars' s read = .ok a ↔ optional vars s read = .ok a := by
  rcases h.value? s with hsame | ⟨before, value, after, hbefore, hafter, hvalue, hvalue'⟩
  · rw [Configuration.optional, Configuration.optional, hsame]
  · simp only [optional_eq_ok_iff hvalue, optional_eq_ok_iff hvalue', hread hbefore hafter]

lemma Surrounds.withDefault {read : String → Except String α} (hread : IgnoresBlanks read) {default a : α} :
    withDefault vars' s default read = .ok a ↔ withDefault vars s default read = .ok a := by
  simp only [Configuration.withDefault, map_eq_ok_iff, h.optional hread]

lemma Surrounds.serviceUrlOf {network : Network} {url : Url} :
    serviceUrlOf vars' network = .ok url ↔ serviceUrlOf vars network = .ok url := by
  rw [serviceUrlOf_eq_ok_iff, serviceUrlOf_eq_ok_iff]
  rcases h.value? .serviceUrl with hsame | ⟨before, value, after, hbefore, hafter, hvalue, hvalue'⟩
  · rw [hsame]
  · rw [hvalue, hvalue', Option.getD_some, Option.getD_some, ignoresBlanks_readUrl hbefore hafter]

/-- Blanks around values change neither whether there is a configuration nor which one it is. -/
lemma Surrounds.read_eq_ok_iff : read vars' = .ok c ↔ read vars = .ok c := by
  simp only [Configuration.read_eq_ok_iff, isReadFrom_iff, h.serviceUrlOf, h.value?_keyPath,
    h.withDefault ignoresBlanks_network, h.withDefault ignoresBlanks_readSeconds,
    h.withDefault ignoresBlanks_readHost, h.withDefault (ignoresBlanks_readNumber _),
    h.withDefault ignoresBlanks_readLogFormat, h.optional ignoresBlanks_readAddress]

end Surrounds

/-- Whether there is a configuration is decided by each variable on its own, and the first one that would not do is
reported. Each setting comes from its own variable, except that the URL of the service is that of the network if it is
not set. A blank variable counts as unset, blanks around values do not count, and the times are not zero. -/
theorem read_one_by_one (vars : Variables) :
    ((∃ c, read vars = .ok c) ↔ ∀ s ∈ checked, Passes vars s) ∧
    (∀ s ∈ checked, ∀ value,
      (∃ c, read (alone s value) = .ok c) ↔ isBlankText value ∨ reason? value s = none) ∧
    (∀ e, read vars = .error e →
      (∃ before after, checked = before ++ e.setting :: after ∧ (∀ s ∈ before, Passes vars s) ∧
        Fails vars e.setting e.reason) ∧
      e.message = "invalid value for " ++ e.setting.variableName ++ ": " ++ e.reason) ∧
    (checked.map Setting.variableName = ["HYPERDRIVE_NETWORK", "NODESET_API_URL", "CLIENT_TIMEOUT_SECS", "HOST",
      "PORT", "NODE_ADDRESS", "REGISTRATION_CHECK_INTERVAL_SECS", "LOG_FORMAT"]) ∧
    (∀ c, read vars = .ok c →
      c.timeout ≠ 0 ∧ c.checkInterval ≠ 0 ∧
      (value? vars .serviceUrl = none → readUrl c.network.serviceUrl = .ok c.serviceUrl) ∧
      ∀ vars' c', read vars' = .ok c' → ∀ s, vars s.variableName = vars' s.variableName →
        (s = .serviceUrl → value? vars s = none → c.network = c'.network) → AgreesOn c c' s) ∧
    (∀ name blank, isBlankText blank →
      read (Function.update vars name (some blank)) = read (Function.update vars name none)) ∧
    (∀ vars', Surrounds vars vars' → ∀ c, read vars' = .ok c ↔ read vars = .ok c) := by
  refine ⟨exists_read_iff, fun s hs value => exists_read_alone_iff hs,
    fun e h => ⟨exists_split_of_read_eq_error h, rfl⟩, rfl, fun c h => ?_,
    fun name blank h => read_update_blank vars name h, fun vars' h c => h.read_eq_ok_iff⟩
  rw [read_eq_ok_iff] at h
  refine ⟨ne_zero_of_withDefault_readSeconds (by decide) h.timeout,
    ne_zero_of_withDefault_readSeconds (by decide) h.checkInterval, fun hvalue => ?_,
    fun vars' c' h' s => h.agreesOn (read_eq_ok_iff.mp h')⟩
  have hurl := serviceUrlOf_eq_ok_iff.mp h.serviceUrl
  rwa [hvalue] at hurl

end Configuration

end OperatorDaemon
