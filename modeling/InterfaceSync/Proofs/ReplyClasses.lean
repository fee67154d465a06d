import InterfaceSync.Proofs.CommandViews

/-! Answers of the API, sorted, and what becomes of them. The status and the body of an answer, or
its absence, decide what a read comes to; a load ends well exactly if both of its reads do, and
otherwise keeps the resource and the status of one that did not. -/

namespace InterfaceSync

namespace Client

variable (client : Client) (network : Url → Exchange)

/-- The request for a resource can be put together, and goes to a URL. -/
def Sends (resource : Resource) (url : Url) : Prop :=
  client.endpoint resource = .ok url ∧ isSendable url = true

/-- A request for a resource is answered with a status and a body. -/
def Answered (resource : Resource) (url : Url) (status : Nat) (body : String) : Prop :=
  client.Sends resource url ∧ network url.withoutCredentials = .answered status body

/-- The head of an answer to a request for a resource comes, with a status. -/
def Headed (resource : Resource) (url : Url) (status : Nat) : Prop :=
  client.Sends resource url ∧ (network url.withoutCredentials).status? = some status

def names : Except ApiError (List String) :=
  (client.reply network .ifnames).result.bind decodeNames

def payload : Except ApiError Payload :=
  (client.reply network .config).result.bind decodePayload

def IsSuccess (status : Nat) : Prop :=
  200 ≤ status ∧ status < 300

instance (status : Nat) : Decidable (IsSuccess status) :=
  inferInstanceAs (Decidable (_ ∧ _))

/-- What a read comes to, by the answer to its request. -/
structure Classified {α : Type} (resource : Resource) (parse? : String → Option α)
    (result : Except ApiError α) : Prop where
  success : ∀ value, result = .ok value ↔ ∃ url status body,
    client.Answered network resource url status body ∧ IsSuccess status ∧ parse? body = some value
  /-- Without success nothing depends on the body, not even whether it comes. -/
  refusal : ∀ url status, client.Headed network resource url status → ¬ IsSuccess status →
    result = .error (.status status url.text)
  undecodable : ∀ url status body, client.Answered network resource url status body →
    IsSuccess status → parse? body = none → ∃ reason, result = .error (.undecodable reason body)
  unanswered : ∀ url, client.Sends resource url →
    (∀ status body, network url.withoutCredentials ≠ .answered status body) →
    (∀ status, client.Headed network resource url status → IsSuccess status) →
      ∃ cause, result = .error (.transport cause) ∧
        (cause.isTimeout = true ↔ network url.withoutCredentials = .silent ∨
          ∃ status, network url.withoutCredentials = .cut status true) ∧
        (cause.isConnect = true ↔ network url.withoutCredentials = .refused ∨
          network url.withoutCredentials = .unreachable)
  /-- A failure has a status exactly if it is that of an answer without success. -/
  status : ∀ error, result = .error error → ∀ status, error.status? = some status ↔
    ∃ url, client.Headed network resource url status ∧ ¬ IsSuccess status

variable {client network} {resource : Resource} {url : Url}

theorem isSuccess_iff {status : Nat} : Status.isSuccess status = true ↔ IsSuccess status := by
  simp [Status.isSuccess, IsSuccess]

theorem Answered.headed {status : Nat} {body : String}
    (answered : client.Answered network resource url status body) :
    client.Headed network resource url status :=
  ⟨answered.1, by rw [answered.2, Exchange.status?]⟩

theorem reply_sent (sends : client.Sends resource url) :
    (client.reply network resource).result = body url (network url.withoutCredentials) := by
  rw [reply, get, sends.1]
  dsimp only
  rw [if_pos sends.2]
  rfl

private theorem reply_unsent (unsent : ∀ url, ¬ client.Sends resource url) :
    ∃ error, (client.reply network resource).result = .error error ∧ error.status? = none := by
  rw [reply, get]
  cases reached : client.endpoint resource with
  | error cause => exact ⟨_, rfl, rfl⟩
  | ok url =>
    dsimp only
    rw [if_neg fun sendable => unsent url ⟨reached, sendable⟩]
    exact ⟨_, rfl, rfl⟩

/-- A failure of the transport that comes of an exchange without an answer that is read. -/
structure ComesOf (cause : TransportError) (exchange : Exchange) : Prop where
  statusless : cause.status? = none
  timeout : cause.isTimeout = true ↔ exchange = .silent ∨ ∃ status, exchange = .cut status true
  connect : cause.isConnect = true ↔ exchange = .refused ∨ exchange = .unreachable

private theorem body_refused (url : Url) {exchange : Exchange} {status : Nat}
    (headed : exchange.status? = some status) (refused : ¬ IsSuccess status) :
    body url exchange = .error (.status status url.text) := by
  have fails : ¬ Status.isSuccess status = true := isSuccess_iff.not.mpr refused
  cases exchange with
  | answered code text =>
    cases headed
    exact if_neg fails
  | cut code late =>
    cases headed
    exact congrArg Except.error (if_neg fails)
  | unreachable | refused | closed | silent => cases headed

private theorem body_unanswered (url : Url) {exchange : Exchange}
    (silent : ∀ status text, exchange ≠ .answered status text)
    (accepted : ∀ status, exchange.status? = some status → IsSuccess status) :
    ∃ cause, body url exchange = .error (.transport cause) ∧ ComesOf cause exchange := by
  cases exchange with
  | answered status text => exact absurd rfl (silent status text)
  | cut status late =>
    have success : Status.isSuccess status = true := isSuccess_iff.mpr (accepted status rfl)
    exact ⟨_, congrArg Except.error (if_pos success), rfl, by simp [TransportError.isTimeout],
      by simp [TransportError.isConnect]⟩
  | unreachable | refused | closed | silent =>
    exact ⟨_, rfl, rfl, by simp [TransportError.isTimeout], by simp [TransportError.isConnect]⟩

section
variable {α : Type} {parse? : String → Option α} {decode : String → Except ApiError α}
  {status : Nat} {text : String}

theorem read_success (answered : client.Answered network resource url status text)
    (success : IsSuccess status) :
    (client.reply network resource).result.bind decode = decode text := by
  rw [reply_sent answered.1, answered.2, body, if_pos (isSuccess_iff.mpr success)]
  rfl

theorem read_refused (headed : client.Headed network resource url status)
    (refused : ¬ IsSuccess status) :
    (client.reply network resource).result.bind decode = .error (.status status url.text) := by
  rw [reply_sent headed.1, body_refused url headed.2 refused]
  rfl

variable (decode) in
theorem read_unanswered (sends : client.Sends resource url)
    (silent : ∀ status text, network url.withoutCredentials ≠ .answered status text)
    (accepted : ∀ status, client.Headed network resource url status → IsSuccess status) :
    ∃ cause, (client.reply network resource).result.bind decode = .error (.transport cause) ∧
      ComesOf cause (network url.withoutCredentials) := by
  obtain ⟨cause, failed, comes⟩ :=
    body_unanswered url silent fun status headed => accepted status ⟨sends, headed⟩
  refine ⟨cause, ?_, comes⟩
  rw [reply_sent sends, failed]
  rfl

variable (decode) in
theorem read_silent
    (silent : ¬ ∃ url status text, client.Answered network resource url status text)
    (accepted : ¬ ∃ url status, client.Headed network resource url status ∧ ¬ IsSuccess status) :
    ∃ error, (client.reply network resource).result.bind decode = .error error ∧
      error.status? = none := by
  by_cases sent : ∃ url, client.Sends resource url
  · obtain ⟨url, sends⟩ := sent
    have success (status : Nat) (headed : client.Headed network resource url status) :
        IsSuccess status :=
      Decidable.not_not.mp fun refused => accepted ⟨url, status, headed, refused⟩
    obtain ⟨cause, failed, comes⟩ := read_unanswered decode sends
      (fun status text same => silent ⟨url, status, text, sends, same⟩) success
    exact ⟨.transport cause, failed, comes.statusless⟩
  · obtain ⟨error, failed, statusless⟩ := reply_unsent fun url sends => sent ⟨url, sends⟩
    refine ⟨error, ?_, statusless⟩
    rw [failed]
    rfl

structure Decodes (parse? : String → Option α) (decode : String → Except ApiError α) : Prop where
  ok : ∀ {text value}, parse? text = some value → decode text = .ok value
  error : ∀ {text}, parse? text = none → ∃ reason, decode text = .error (.undecodable reason text)

private theorem Decodes.statusless (decodes : Decodes parse? decode) {error : ApiError}
    (failed : decode text = .error error) : error.status? = none := by
  cases parsed : parse? text with
  | some value => cases (decodes.ok parsed).symm.trans failed
  | none =>
    obtain ⟨reason, undecodable⟩ := decodes.error parsed
    cases undecodable.symm.trans failed
    rfl

private theorem read_ok_iff (decodes : Decodes parse? decode) {value : α} :
    (client.reply network resource).result.bind decode = .ok value ↔ ∃ url status text,
      client.Answered network resource url status text ∧ IsSuccess status ∧
        parse? text = some value := by
  constructor
  · intro ended
    have accepted : ∀ url status, client.Headed network resource url status → IsSuccess status := by
      intro url status headed
      by_contra refused
      rw [read_refused headed refused] at ended
      cases ended
    by_cases answer : ∃ url status text, client.Answered network resource url status text
    · obtain ⟨url, status, text, answered⟩ := answer
      have success := accepted url status answered.headed
      rw [read_success answered success] at ended
      refine ⟨url, status, text, answered, success, ?_⟩
      cases parsed : parse? text with
      | none =>
        obtain ⟨reason, failed⟩ := decodes.error parsed
        cases failed.symm.trans ended
      | some other =>
        cases (decodes.ok parsed).symm.trans ended
        rfl
    · obtain ⟨error, failed, _⟩ := read_silent decode answer
        fun ⟨url, status, headed, refused⟩ => refused (accepted url status headed)
      cases failed.symm.trans ended
  · rintro ⟨url, status, text, answered, success, parsed⟩
    rw [read_success answered success, decodes.ok parsed]

theorem read_status_iff (decodes : Decodes parse? decode) {error : ApiError}
    (ended : (client.reply network resource).result.bind decode = .error error) {code : Nat} :
    error.status? = some code ↔
      ∃ url, client.Headed network resource url code ∧ ¬ IsSuccess code := by
  constructor
  · intro held
    by_cases refusal : ∃ url status, client.Headed network resource url status ∧ ¬ IsSuccess status
    · obtain ⟨url, status, headed, refused⟩ := refusal
      rw [read_refused headed refused] at ended
      cases ended
      cases held
      exact ⟨url, headed, refused⟩
    by_cases answer : ∃ url status text, client.Answered network resource url status text
    · obtain ⟨url, status, text, answered⟩ := answer
      have success : IsSuccess status :=
        Decidable.not_not.mp fun refused => refusal ⟨url, status, answered.headed, refused⟩
      rw [read_success answered success] at ended
      cases (decodes.statusless ended).symm.trans held
    · obtain ⟨cause, failed, statusless⟩ := read_silent decode answer refusal
      cases failed.symm.trans ended
      cases statusless.symm.trans held
  · rintro ⟨url, headed, refused⟩
    rw [read_refused headed refused] at ended
    cases ended
    rfl

private theorem classified (decodes : Decodes parse? decode) :
    client.Classified network resource parse?
      ((client.reply network resource).result.bind decode) where
  success _ := read_ok_iff decodes
  refusal _ _ headed refused := read_refused headed refused
  undecodable url status text answered success unparsed := by
    rw [read_success answered success]
    exact decodes.error unparsed
  unanswered url sends silent accepted := by
    obtain ⟨cause, failed, comes⟩ := read_unanswered decode sends silent accepted
    exact ⟨cause, failed, comes.timeout, comes.connect⟩
  status _ ended _ := read_status_iff decodes ended

end

theorem decodes_names : Decodes parseNames? decodeNames := by
  constructor
  · intro text names parsed
    rw [decodeNames, parsed]
  · intro text unparsed
    rw [decodeNames, unparsed]
    exact ⟨_, rfl⟩

theorem decodes_payload : Decodes Payload.parse? decodePayload := by
  constructor
  · intro text payload parsed
    rw [decodePayload, parsed]
  · intro text unparsed
    rw [decodePayload, unparsed]
    exact ⟨_, rfl⟩

variable (client network) in
def replies : Replies := ⟨client.names network, client.payload network⟩

theorem replies_names : (client.replies network).names = client.names network := by
  rw [replies]

theorem replies_config : (client.replies network).config = client.payload network := by
  rw [replies]

theorem fails_names {error : ApiError} :
    (client.replies network).FailsWith error .ifnames ↔ client.names network = .error error := by
  rw [Replies.FailsWith, replies_names]

theorem fails_payload {error : ApiError} :
    (client.replies network).FailsWith error .config ↔ client.payload network = .error error := by
  rw [Replies.FailsWith, replies_config]

private theorem replies_status {error : ApiError}
    (failed : (client.replies network).FailsWith error resource)
    {code : Nat} : error.status? = some code ↔
      ∃ url, client.Headed network resource url code ∧ ¬ IsSuccess code := by
  cases resource with
  | ifnames =>
    rw [fails_names, names] at failed
    exact read_status_iff decodes_names failed
  | config =>
    rw [fails_payload, payload] at failed
    exact read_status_iff decodes_payload failed

variable (client network) in
/-- How a load over a network ends, and what it leaves of the store. -/
structure Concluded (answer : Except SyncError Snapshot) (state : LoadState) : Prop where
  success : (∃ snapshot, answer = .ok snapshot) ↔
    (∃ names, client.names network = .ok names) ∧ ∃ payload, client.payload network = .ok payload
  ready : ∀ snapshot, answer = .ok snapshot → state = .ready
  /-- A failure is that of one of the reads, and has the status of its answer if that was one without
  success. -/
  failure : ∀ error, answer = .error error → ∃ resource cause,
    (client.replies network).FailsWith cause resource ∧
    error = .loadFailed resource.name (.ofApi cause) ∧
    state = .failed ⟨some resource.name, (SyncError.ofApi cause).message, error.status?⟩ ∧
    ∀ status, error.status? = some status ↔
      ∃ url, client.Headed network resource url status ∧ ¬ IsSuccess status

theorem Concluded.succeeded {names : List String} {payload : Payload}
    (named : client.names network = .ok names) (configured : client.payload network = .ok payload)
    (snapshot : Snapshot) : client.Concluded network (.ok snapshot) .ready where
  success := ⟨fun _ => ⟨⟨names, named⟩, payload, configured⟩, fun _ => ⟨snapshot, rfl⟩⟩
  ready _ _ := rfl
  failure _ failed := nomatch failed

theorem Concluded.failed {resource : Resource} {cause : ApiError}
    (fails : (client.replies network).FailsWith cause resource) :
    client.Concluded network (.error (Fetches.failedRead resource cause))
      (.failed (.ofError (Fetches.failedRead resource cause))) := by
  have status : (Fetches.failedRead resource cause).status? = cause.status? :=
    congrArg LoadFailure.status (LoadFailure.ofError_failedRead resource cause)
  refine ⟨⟨nofun, ?_⟩, nofun, ?_⟩
  · rintro ⟨⟨names, named⟩, payload, configured⟩
    cases resource with
    | ifnames => cases named.symm.trans (fails_names.mp fails)
    | config => cases configured.symm.trans (fails_payload.mp fails)
  · rintro _ ⟨⟩
    refine ⟨resource, cause, fails, rfl, ?_, fun code => ?_⟩
    · rw [LoadFailure.ofError_failedRead, status]
    · rw [status]
      exact replies_status fails

theorem concluded_look {waiting : Session} {handle : Nat} {arrived : Resource → Prop}
    {selected : Option Ifname}
    (atomic : AtomicLoad waiting handle (client.replies network) arrived selected)
    (decided : (client.replies network).Decided arrived) (now : Time) :
    ∃ answer, (waiting.poll handle now).answer = some (.ready answer) ∧
      client.Concluded network answer (waiting.poll handle now).state.store.snapshot.loadState := by
  by_cases failing : ∃ resource error, (client.replies network).FailsWith error resource
  · obtain ⟨resource, error, _, fails, answer, store⟩ := atomic.failed now decided failing
    refine ⟨_, answer, ?_⟩
    rw [store, ← LoadFailure.ofError_failedRead]
    exact .failed fails
  · have both : ∀ resource, arrived resource := by
      rcases decided with ⟨resource, error, fails, _⟩ | both
      · exact absurd ⟨resource, error, fails⟩ failing
      · exact both
    cases named : client.names network with
    | error error => exact absurd ⟨.ifnames, error, fails_names.mpr named⟩ failing
    | ok names =>
      cases configured : client.payload network with
      | error error => exact absurd ⟨.config, error, fails_payload.mpr configured⟩ failing
      | ok payload =>
        obtain ⟨answer, store⟩ := atomic.published names payload now both
          (replies_names.trans named) (replies_config.trans configured)
        refine ⟨_, answer, ?_⟩
        rw [store]
        exact .succeeded named configured _

variable (client network) in
private theorem readBoth_cases :
    (∃ names payload, client.names network = .ok names ∧ client.payload network = .ok payload ∧
      (client.readBoth (m := Id) network).1 = .ok (names, payload)) ∨
    ∃ resource cause, (client.replies network).FailsWith cause resource ∧
      (client.readBoth (m := Id) network).1 = .error (Fetches.failedRead resource cause) := by
  have both : (client.readBoth (m := Id) network).1 = do
      let names ← (client.names network).mapError (Fetches.failedRead .ifnames)
      let payload ← (client.payload network).mapError (Fetches.failedRead .config)
      return (names, payload) :=
    (Cli.Machine.ofFiles [] [] network).fetched_eq client
  rw [both]
  cases named : client.names network with
  | error cause => exact .inr ⟨.ifnames, cause, fails_names.mpr named, rfl⟩
  | ok names =>
    cases configured : client.payload network with
    | error cause => exact .inr ⟨.config, cause, fails_payload.mpr configured, rfl⟩
    | ok payload => exact .inl ⟨names, payload, rfl, rfl, rfl⟩

variable (client network) in
theorem load_idle {store : Store} (idle : store.snapshot.loadState.Idle) (now : Time) :
    let begun := store.publishSnapshot { store.snapshot with loadState := .loading }
    let finished := begun.finishLoad (client.readBoth (m := Id) network).1 now
    (store.load (m := Id) client network now).answer = finished.answer ∧
      (store.load (m := Id) client network now).state = finished.state := by
  simp only [Store.load, Store.startLoad_idle idle]
  exact ⟨rfl, rfl⟩

private theorem concluded_load {store : Store} (idle : store.snapshot.loadState.Idle) (now : Time) :
    let ended := store.load (m := Id) client network now
    client.Concluded network ended.answer ended.state.snapshot.loadState := by
  obtain ⟨answer, state⟩ := load_idle client network idle now
  let begun := store.publishSnapshot { store.snapshot with loadState := .loading }
  have unloaded : begun.snapshot.loadState ≠ .ready := nofun
  dsimp only
  rw [answer, state]
  rcases readBoth_cases client network with
    ⟨names, payload, named, configured, read⟩ | ⟨resource, cause, fails, read⟩
  · obtain ⟨answer, state⟩ := Store.finishLoad_ok names payload now unloaded
    rw [read, answer, state]
    exact .succeeded named configured _
  · obtain ⟨answer, state⟩ :=
      Store.finishLoad_error (Fetches.failedRead resource cause) now unloaded
    rw [read, answer, state]
    exact .failed fails

variable (client network) in
/-- The status and the body of an answer decide what a read comes to, for each of the two resources;
and a load, with its replies in any order or over a network, ends well exactly if both reads do, and
else as one of those that failed, whose status it keeps. -/
theorem load_classified (prior : List Session.Action) (handle : Nat) (events : List LoadEvent)
    (made : (Session.new.after prior).attempt? handle = some (.created .waiting))
    (idle : (Session.new.after prior).store.snapshot.loadState.Idle)
    (undecided : (client.replies network).Undecided events) :
    let waiting := (Session.new.after prior).after
      (events.map (·.action handle (client.replies network)))
    client.Classified network .ifnames parseNames? (client.names network) ∧
    client.Classified network .config Payload.parse? (client.payload network) ∧
    (∀ now, ¬ (client.replies network).Decided (Arrived events) →
      (waiting.poll handle now).answer = some .pending) ∧
    (∀ now, (client.replies network).Decided (Arrived events) →
      ∃ answer, (waiting.poll handle now).answer = some (.ready answer) ∧
        client.Concluded network answer
          (waiting.poll handle now).state.store.snapshot.loadState) ∧
    ∀ (store : Store) (now : Time), store.snapshot.loadState.Idle →
      let ended := store.load (m := Id) client network now
      client.Concluded network ended.answer ended.state.snapshot.loadState := by
  intro waiting
  obtain ⟨waits, _⟩ := Session.waiting_after made idle undecided
  exact ⟨classified decodes_names, classified decodes_payload,
    fun now undecided => (waits.atomic.pending now undecided).1,
    fun now decided => concluded_look waits.atomic decided now,
    fun _ now idle => concluded_load idle now⟩

/-- A network on which the names are there and the entries are not. -/
def halfNetwork (url : Url) : Exchange :=
  if url = Cli.Machine.localUrl ["api", "config"] then .answered 503 "<html>"
  else .answered 200 "[]"

theorem load_classified_half :
    let client : Client := ⟨Cli.Machine.localUrl ["api"]⟩
    let waiting := (Session.new.after [.create]).after
      ([LoadEvent.arrive .config].map (·.action 0 (client.replies halfNetwork)))
    (Session.new.after [.create]).attempt? 0 = some (.created .waiting) ∧
    (Session.new.after [.create]).store.snapshot.loadState.Idle ∧
    (client.replies halfNetwork).Undecided [.arrive .config] ∧
    client.names halfNetwork = .ok [] ∧
    client.payload halfNetwork = .error (.status 503 "http://[::1]/api/config") ∧
    ∃ error, (waiting.poll 0 7).answer = some (.ready (.error error)) ∧
      error.status? = some 503 ∧ ∃ cause, error = .loadFailed "config" cause := by
  intro client waiting
  have made : (Session.new.after [.create]).attempt? 0 = some (.created .waiting) := rfl
  have idle : (Session.new.after [.create]).store.snapshot.loadState.Idle := .inl rfl
  have undecided : (client.replies halfNetwork).Undecided [.arrive .config] := by
    rintro earlier now later split
    simp [List.cons_eq_append_iff] at split
  obtain ⟨names, payload, _, looked, _⟩ :=
    load_classified client halfNetwork [.create] 0 [.arrive .config] made idle undecided
  have sends (resource : Resource) :
      client.Sends resource (Cli.Machine.localUrl ["api", resource.name]) := by
    cases resource <;> exact ⟨by decide +kernel, by decide +kernel⟩
  have reported : client.Answered halfNetwork .ifnames (Cli.Machine.localUrl ["api", "ifnames"]) 200
      "[]" := ⟨sends .ifnames, by decide +kernel⟩
  have named : client.names halfNetwork = .ok [] :=
    (names.success []).mpr ⟨_, 200, "[]", reported, by decide, by cbv⟩
  have refused : ¬ IsSuccess 503 := by decide
  have answered : client.Answered halfNetwork .config (Cli.Machine.localUrl ["api", "config"]) 503
      "<html>" := ⟨sends .config, by decide +kernel⟩
  have failed := payload.refusal _ _ answered.headed refused
  have text : (Cli.Machine.localUrl ["api", "config"]).text = "http://[::1]/api/config" := by
    decide +kernel
  rw [text] at failed
  refine ⟨made, idle, undecided, named, failed, ?_⟩
  have decided : (client.replies halfNetwork).Decided (Arrived [.arrive .config]) :=
    .inl ⟨.config, _, fails_payload.mpr failed, List.mem_singleton_self _⟩
  obtain ⟨answer, ended, concluded⟩ := looked 7 decided
  cases answer with
  | ok snapshot =>
    obtain ⟨_, _, configured⟩ := concluded.success.mp ⟨snapshot, rfl⟩
    cases failed.symm.trans configured
  | error error =>
    obtain ⟨resource, cause, fails, rfl, _, status⟩ := concluded.failure error rfl
    cases resource with
    | ifnames => cases named.symm.trans (fails_names.mp fails)
    | config => exact ⟨_, ended, (status 503).mpr ⟨_, answered.headed, refused⟩, _, rfl⟩

end Client

end InterfaceSync
