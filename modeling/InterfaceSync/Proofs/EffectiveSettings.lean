import InterfaceSync.Proofs.NameOrder
import InterfaceSync.Proofs.Results
import InterfaceSync.Proofs.RunStages

/-! How the API is reached. The options count before the profile that they choose, and the profile
before the defaults, for each setting by itself; a run asks the API in the way that comes of it and
in no other. -/

namespace InterfaceSync

def IsBase (raw : String) (url : Url) : Prop :=
  Url.parse raw = .ok url ∧ (url.scheme = "http".toList ∨ url.scheme = "https".toList)

def BadBase (raw reason : String) : Prop :=
  (∃ cause, Url.parse raw = .error cause ∧ reason = s!"invalid URL '{raw}': {cause.message}") ∨
    ∃ url, Url.parse raw = .ok url ∧
      ¬ (url.scheme = "http".toList ∨ url.scheme = "https".toList) ∧
      reason = s!"unsupported scheme '{String.ofList url.scheme}', expected http or https"

theorem isHttp_iff {url : Url} :
    Client.isHttp url = true ↔ url.scheme = "http".toList ∨ url.scheme = "https".toList := by
  rw [Client.isHttp, Bool.or_eq_true, beq_iff_eq, beq_iff_eq]

theorem readApiBase_ok {raw : String} {url : Url} : readApiBase raw = .ok url ↔ IsBase raw url := by
  unfold readApiBase IsBase
  cases Url.parse raw with
  | error cause => simp
  | ok parsed =>
    dsimp only
    split
    next http =>
      rw [isHttp_iff] at http
      constructor
      · rintro ⟨⟩
        exact ⟨rfl, http⟩
      · rintro ⟨⟨⟩, _⟩
        rfl
    next other =>
      rw [isHttp_iff] at other
      refine ⟨nofun, ?_⟩
      rintro ⟨⟨⟩, http⟩
      exact absurd http other

private theorem readApiBase_bad {raw : String} {error : SettingsError} :
    readApiBase raw = .error error ↔
      ∃ reason, BadBase raw reason ∧ error = .invalid "api_base" reason := by
  unfold readApiBase BadBase
  cases Url.parse raw with
  | error cause => simp [eq_comm]
  | ok parsed =>
    dsimp only
    split
    next http =>
      rw [isHttp_iff] at http
      constructor
      · intro failed
        cases failed
      · rintro ⟨_, ⟨_, ⟨⟩, _⟩ | ⟨_, ⟨⟩, other, _⟩, _⟩
        exact absurd http other
    next other =>
      rw [isHttp_iff] at other
      constructor
      · rintro ⟨⟩
        exact ⟨_, .inr ⟨parsed, rfl, other, rfl⟩, rfl⟩
      · rintro ⟨_, ⟨_, ⟨⟩, _⟩ | ⟨_, ⟨⟩, _, rfl⟩, rfl⟩
        rfl

private theorem TlsTrust.eq_of {first second : TlsTrust}
    (unchecked : first = .anyCertificate ↔ second = .anyCertificate)
    (certificates : ∀ path, first = .customCa path ↔ second = .customCa path) : first = second := by
  cases second with
  | anyCertificate => exact unchecked.mpr rfl
  | customCa path => exact (certificates path).mpr rfl
  | system =>
    cases first with
    | anyCertificate => exact (unchecked.mp rfl).symm
    | customCa path => exact ((certificates path).mp rfl).symm
    | system => rfl

/-- The certificates that count for a profile. -/
def Profile.trust (profile : Profile) (defaults : Defaults) : TlsTrust :=
  if profile.insecure.getD defaults.insecure then .anyCertificate
  else
    match profile.caCert with
    | some path => .customCa path
    | none => .system

private theorem clientSettings_ok {profile : Profile} {defaults : Defaults}
    {client : ClientSettings} :
    profile.clientSettings defaults = .ok client ↔ IsBase profile.apiBase client.apiBase ∧
      client.trust = profile.trust defaults ∧
      client.timeout = profile.timeout.getD defaults.timeout := by
  rw [Profile.clientSettings, bind_ok]
  simp only [readApiBase_ok]
  constructor
  · rintro ⟨base, isBase, ⟨⟩⟩
    exact ⟨isBase, rfl, rfl⟩
  · obtain ⟨base, trust, timeout⟩ := client
    rintro ⟨isBase, rfl, rfl⟩
    exact ⟨base, isBase, rfl⟩

private theorem clientSettings_bad {profile : Profile} {defaults : Defaults} {error : SettingsError}
    :
    profile.clientSettings defaults = .error error ↔
      ∃ reason, BadBase profile.apiBase reason ∧ error = .invalid "api_base" reason := by
  rw [Profile.clientSettings, bind_error, ← readApiBase_bad]
  refine or_iff_left ?_
  rintro ⟨_, _, ⟨⟩⟩

namespace Cli

namespace Options

variable (options : Options) (settings : Settings)

def chosen : String :=
  (options.profile <|> settings.defaultProfile).getD "development"

def profile? : Option Profile :=
  settings.profiles.get? (options.chosen settings)

def base? : Option String :=
  options.apiBase <|> (options.profile? settings).map (·.apiBase)

/-- Certificates are not checked. The defaults are only asked where the profile says nothing. -/
def Unchecked : Prop :=
  options.insecure = true ∨ (options.profile? settings).bind (·.insecure) = some true ∨
    (options.profile? settings).bind (·.insecure) = none ∧ settings.defaults.insecure = true

/-- How the API is reached, or why it is not tried. -/
def reached : Except Failure ClientSettings :=
  (options.clientSettings settings).mapError .ofSettings

/-- A way to reach the API is the one that options, profile and defaults ask for. -/
structure Reaches (client : ClientSettings) : Prop where
  base : ∃ raw, options.base? settings = some raw ∧ IsBase raw client.apiBase
  timeout : client.timeout = (options.timeout <|>
    (options.profile? settings).bind (·.timeout)).getD settings.defaults.timeout
  unchecked : client.trust = .anyCertificate ↔ options.Unchecked settings
  certificates : ∀ path, client.trust = .customCa path ↔
    ¬ options.Unchecked settings ∧ (options.profile? settings).bind (·.caCert) = some path

variable {options settings}

theorem base?_none :
    options.base? settings = none ↔ options.profile? settings = none ∧ options.apiBase = none := by
  rw [base?]
  cases options.apiBase <;> simp

theorem activeProfile_eq : settings.activeProfile options.profile = options.chosen settings := rfl

theorem profileIn_error_iff {error : SettingsError} :
    options.profileIn settings = .error error ↔ options.base? settings = none ∧
      error = .unknownProfile (options.chosen settings)
        (", ".intercalate settings.profiles.names) := by
  rw [base?_none, profileIn, Settings.profile, activeProfile_eq, profile?]
  cases settings.profiles.get? (options.chosen settings) with
  | some profile => simp
  | none => cases options.apiBase <;> simp [eq_comm]

/-- A profile as it counts under the options. -/
structure Overruled (options : Options) (settings : Settings) (profile : Profile) : Prop where
  base : options.base? settings = some profile.apiBase
  timeout : profile.timeout = (options.timeout <|> (options.profile? settings).bind (·.timeout))
  caCert : profile.caCert = (options.profile? settings).bind (·.caCert)
  insecure : profile.insecure =
    if options.insecure then some true else (options.profile? settings).bind (·.insecure)

theorem overruled {profile : Profile} (given : options.profileIn settings = .ok profile) :
    options.Overruled settings (options.overrule profile) := by
  have named : options.profile? settings =
    settings.profiles.get? (options.chosen settings) := rfl
  rw [profileIn, Settings.profile, activeProfile_eq] at given
  cases found : settings.profiles.get? (options.chosen settings) with
  | some own =>
    rw [found] at given named
    cases given
    constructor <;> simp [base?, named, overrule]
  | none =>
    rw [found] at given named
    cases base : options.apiBase with
    | none =>
      rw [base] at given
      cases given
    | some raw =>
      rw [base] at given
      cases given
      constructor <;> simp [base?, named, overrule, base, Profile.ofBase]

namespace Overruled

variable {profile : Profile} (counts : options.Overruled settings profile)
include counts

theorem unchecked_iff :
    profile.insecure.getD settings.defaults.insecure = true ↔ options.Unchecked settings := by
  rw [counts.insecure, Unchecked]
  cases options.insecure with
  | true => simp
  | false =>
    cases (options.profile? settings).bind (·.insecure) <;> simp

private theorem trust_unchecked :
    profile.trust settings.defaults = .anyCertificate ↔ options.Unchecked settings := by
  rw [← counts.unchecked_iff, Profile.trust]
  cases profile.insecure.getD settings.defaults.insecure with
  | true => simp
  | false => cases profile.caCert <;> simp

private theorem trust_customCa (path : String) :
    profile.trust settings.defaults = .customCa path ↔
      ¬ options.Unchecked settings ∧ (options.profile? settings).bind (·.caCert) = some path := by
  rw [← counts.unchecked_iff, ← counts.caCert, Profile.trust]
  cases profile.insecure.getD settings.defaults.insecure with
  | true => simp
  | false => cases profile.caCert <;> simp

end Overruled

private theorem Overruled.reaches_iff {profile : Profile} {client : ClientSettings}
    (counts : options.Overruled settings profile) :
    profile.clientSettings settings.defaults = .ok client ↔ options.Reaches settings client := by
  rw [clientSettings_ok]
  constructor
  · rintro ⟨base, trust, timeout⟩
    refine ⟨⟨_, counts.base, base⟩, counts.timeout ▸ timeout, ?_, fun path => ?_⟩
    · rw [trust, counts.trust_unchecked]
    · rw [trust, counts.trust_customCa]
  · intro reaches
    obtain ⟨raw, counted, base⟩ := reaches.base
    rw [counts.base] at counted
    cases counted
    refine ⟨base, TlsTrust.eq_of ?_ fun path => ?_, counts.timeout ▸ reaches.timeout⟩
    · rw [reaches.unchecked, counts.trust_unchecked]
    · rw [reaches.certificates, counts.trust_customCa]

private theorem clientSettings_ok_iff {client : ClientSettings} :
    options.clientSettings settings = .ok client ↔ options.Reaches settings client := by
  rw [clientSettings, bind_ok]
  constructor
  · rintro ⟨profile, given, made⟩
    exact (overruled given).reaches_iff.mp made
  · intro reaches
    cases given : options.profileIn settings with
    | error error =>
      obtain ⟨raw, counted, _⟩ := reaches.base
      rw [(profileIn_error_iff.mp given).1] at counted
      cases counted
    | ok profile => exact ⟨profile, rfl, (overruled given).reaches_iff.mpr reaches⟩

private theorem clientSettings_error_iff {error : SettingsError} :
    options.clientSettings settings = .error error ↔
      (options.base? settings = none ∧ error = .unknownProfile (options.chosen settings)
        (", ".intercalate settings.profiles.names)) ∨
      ∃ raw reason, options.base? settings = some raw ∧ BadBase raw reason ∧
        error = .invalid "api_base" reason := by
  rw [clientSettings, bind_error, profileIn_error_iff]
  refine or_congr_right ?_
  constructor
  · rintro ⟨profile, given, failed⟩
    obtain ⟨reason, bad, rfl⟩ := clientSettings_bad.mp failed
    exact ⟨_, reason, (overruled given).base, bad, rfl⟩
  · rintro ⟨raw, reason, counted, bad, rfl⟩
    cases given : options.profileIn settings with
    | error error =>
      rw [(profileIn_error_iff.mp given).1] at counted
      cases counted
    | ok profile =>
      have same := (overruled given).base
      rw [counted] at same
      cases same
      exact ⟨profile, rfl, clientSettings_bad.mpr ⟨reason, bad, rfl⟩⟩

private theorem reached_ok {client : ClientSettings} :
    options.reached settings = .ok client ↔ options.Reaches settings client := by
  rw [reached, mapError_ok, clientSettings_ok_iff]

private theorem reached_error {failure : Failure} :
    options.reached settings = .error failure ↔
      (options.base? settings = none ∧ failure = .profileNotFound (options.chosen settings)
        (", ".intercalate settings.profiles.names)) ∨
      ∃ raw reason, options.base? settings = some raw ∧ BadBase raw reason ∧
        failure = .invalid "api_base" reason := by
  simp only [reached, mapError_error, clientSettings_error_iff]
  constructor
  · rintro ⟨_, ⟨missing, rfl⟩ | ⟨raw, reason, counted, bad, rfl⟩, rfl⟩
    · exact .inl ⟨missing, rfl⟩
    · exact .inr ⟨raw, reason, counted, bad, rfl⟩
  · rintro (⟨missing, rfl⟩ | ⟨raw, reason, counted, bad, rfl⟩)
    · exact ⟨_, .inl ⟨missing, rfl⟩, rfl⟩
    · exact ⟨_, .inr ⟨raw, reason, counted, bad, rfl⟩, rfl⟩

private theorem profileIn_found {profile : Profile}
    (found : options.profile? settings = some profile) :
    options.profileIn settings = .ok profile := by
  rw [profile?] at found
  rw [profileIn, Settings.profile, activeProfile_eq, found]

theorem reached_withProfile {base : String} (given : options.apiBase = some base)
    {profile : Profile} (own : options.profile? settings = some profile) (other : String) :
    options.reached (settings.withProfile (options.chosen settings)
      { profile with apiBase := other }) = options.reached settings := by
  have replaced : options.profile? (settings.withProfile (options.chosen settings)
      { profile with apiBase := other }) = some { profile with apiBase := other } :=
    (NameMap.get?_insert ..).trans (if_pos rfl)
  have same : options.overrule { profile with apiBase := other } = options.overrule profile := by
    simp only [overrule, given, Option.getD_some]
  simp only [reached, Machine.clientSettings_eq, profileIn_found own, profileIn_found replaced,
    same]
  rfl

end Options

namespace Machine

variable (machine : Machine) (environment : List (String × String))

/-- The machine as the program sees it, where requests may be answered by the settings with which
they are made. -/
def hostReaching (fetch : ClientSettings → Url → StateM Machine Exchange) :
    Host (StateM Machine) :=
  { machine.host environment with fetch := fetch }

variable {machine environment} {settings : Settings} (options : Options) (command : ApiCommand)
  (fetch : ClientSettings → Url → StateM Machine Exchange)

private theorem findFile_reaching (paths : List String) :
    (machine.hostReaching environment fetch).findFile paths =
      (machine.host environment).findFile paths := by
  induction paths with
  | nil => rfl
  | cons path paths ih =>
    rw [Host.findFile, Host.findFile, ih]
    rfl

theorem resolve_reaching :
    resolve (machine.hostReaching environment fetch) options =
      resolve (machine.host environment) options := by
  have found (path : String) : (machine.hostReaching environment fetch).readOptional path =
      (machine.host environment).readOptional path := by
    have same : (machine.hostReaching environment fetch).candidates path =
      (machine.host environment).candidates path := rfl
    rw [Host.readOptional, findFile_reaching, same]
    rfl
  rw [resolve, Host.loadSettings, Host.settingsContent, found]
  rfl

private theorem logAll_reaching (events : List Event) :
    (machine.hostReaching environment fetch).logAll events =
      (machine.host environment).logAll events := by
  induction events with
  | nil => rfl
  | cons event events ih =>
    rw [Host.logAll, Host.logAll, ih]
    rfl

variable (machine environment) in
theorem proceed_reaching (client : ClientSettings) (connected : Client) :
    proceed options command (machine.hostReaching environment fetch) client connected =
      proceed options command (machine.hostReaching environment fun _ => fetch client) client
        connected := by
  have answers (inquiry : Inquiry) :
      answer (machine.hostReaching environment fetch) client connected inquiry =
        answer (machine.hostReaching environment fun _ => fetch client) client connected
          inquiry := by
    simp only [answer, logAll_reaching]
    rfl
  simp only [proceed, answers]
  rfl

private theorem runs_reaching (loaded : Machine.settings machine machine environment = .ok settings)
    :
    machine.runs (runApi (machine.hostReaching environment fetch) options command) =
      match options.reached settings with
      | .error failure => (.error failure, machine)
      | .ok client => machine.runs (connect (machine.host environment) client >>=
          proceed options command (machine.hostReaching environment fun _ => fetch client)
            client) := by
  have resolved :
      machine.runs (resolve (machine.hostReaching environment fetch) options) =
        (options.reached settings, machine) := by
    rw [resolve_reaching, runs_resolve, loaded]
    rfl
  rw [runApi_eq, runs_bind, resolved]
  cases options.reached settings with
  | error failure => rfl
  | ok client =>
    have connects : connect (machine.hostReaching environment fetch) client =
      connect (machine.host environment) client := rfl
    have proceeds := funext (proceed_reaching machine environment options command fetch client)
    dsimp only
    rw [connects, proceeds]

private theorem connected_plain {client : ClientSettings}
    (plain : ∀ path, client.trust ≠ .customCa path) :
    machine.connected client = .ok ⟨client.apiBase⟩ := by
  unfold connected Client.connect
  cases trust : client.trust with
  | customCa path => exact absurd trust (plain path)
  | _ => rfl

end Machine

/-- The options count before the profile and the profile before the defaults, in whether the API is
tried, in how it is reached, and in what a run does then. -/
structure Options.Precedence (options : Options) (settings : Settings) : Prop where
  unknown : ∀ name available, options.reached settings = .error (.profileNotFound name available) ↔
    options.profile? settings = none ∧ options.apiBase = none ∧ name = options.chosen settings ∧
      available = ", ".intercalate settings.profiles.names
  names : settings.profiles.names.Pairwise (fun first second => utf8 first < utf8 second) ∧
    ∀ name, name ∈ settings.profiles.names ↔ ∃ profile, settings.profiles.get? name = some profile
  unfit : ∀ reason, options.reached settings = .error (.invalid "api_base" reason) ↔
    ∃ raw, options.base? settings = some raw ∧ BadBase raw reason
  failures : ∀ failure, options.reached settings = .error failure →
    (∃ name available, failure = .profileNotFound name available) ∨
      ∃ reason, failure = .invalid "api_base" reason
  succeeds : ∀ client, options.reached settings = .ok client ↔ options.Reaches settings client
  ownBase : ∀ base profile other, options.apiBase = some base →
    options.profile? settings = some profile →
      options.reached (settings.withProfile (options.chosen settings)
        { profile with apiBase := other }) = options.reached settings
  refused : ∀ machine environment command fetch failure,
    Machine.settings machine machine environment = .ok settings →
      options.reached settings = .error failure →
        machine.runs (runApi (machine.hostReaching environment fetch) options command) =
          (.error failure, machine)
  /-- Every request is made in the way that was found. -/
  asked : ∀ machine environment command fetch client,
    Machine.settings machine machine environment = .ok settings →
      options.reached settings = .ok client →
        machine.runs (runApi (machine.hostReaching environment fetch) options command) =
          machine.runs (runApi (machine.hostReaching environment fun _ => fetch client) options
            command)
  /-- A file of certificates is looked at exactly if certificates are checked and there is one. -/
  trusted : ∀ (machine : Machine) client, options.reached settings = .ok client →
    (∀ path, ¬ options.Unchecked settings → (options.profile? settings).bind (·.caCert) = some path →
      machine.connected client = Machine.trusting client (trustFailure? (machine.readFile path))) ∧
    (options.Unchecked settings ∨ (options.profile? settings).bind (·.caCert) = none →
      machine.connected client = .ok ⟨client.apiBase⟩)

theorem Options.precedence (options : Options) (settings : Settings) :
    options.Precedence settings where
  unknown name available := by
    rw [reached_error, base?_none]
    constructor
    · rintro (⟨⟨missing, baseless⟩, ⟨⟩⟩ | ⟨_, _, _, _, ⟨⟩⟩)
      exact ⟨missing, baseless, rfl, rfl⟩
    · rintro ⟨missing, baseless, rfl, rfl⟩
      exact .inl ⟨⟨missing, baseless⟩, rfl⟩
  names := ⟨settings.profiles.names_ascend, fun _ => settings.profiles.mem_names⟩
  unfit reason := by
    rw [reached_error]
    constructor
    · rintro (⟨_, ⟨⟩⟩ | ⟨raw, _, counted, bad, ⟨⟩⟩)
      exact ⟨raw, counted, bad⟩
    · rintro ⟨raw, counted, bad⟩
      exact .inr ⟨raw, reason, counted, bad, rfl⟩
  failures failure failed := by
    rcases reached_error.mp failed with ⟨_, rfl⟩ | ⟨_, reason, _, _, rfl⟩
    · exact .inl ⟨_, _, rfl⟩
    · exact .inr ⟨reason, rfl⟩
  succeeds _ := reached_ok
  ownBase _ _ other given own := reached_withProfile given own other
  refused machine environment command fetch failure loaded failed := by
    rw [Machine.runs_reaching options command fetch loaded, failed]
  asked machine environment command fetch client loaded reached := by
    rw [Machine.runs_reaching options command fetch loaded,
      Machine.runs_reaching options command _ loaded, reached]
  trusted machine client reached := by
    have certificates := (reached_ok.mp reached).certificates
    refine ⟨fun path checked named => ?_, fun unused => ?_⟩
    · exact Machine.connected_customCa machine ((certificates path).mpr ⟨checked, named⟩)
    · refine Machine.connected_plain fun path trust => ?_
      obtain ⟨checked, named⟩ := (certificates path).mp trust
      rcases unused with unchecked | unnamed
      · exact checked unchecked
      · rw [unnamed] at named
        cases named

end Cli

end InterfaceSync
