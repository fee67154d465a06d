import InterfaceSync.Proofs.RootCause

/-! What is kept of a failure. However many failed loads an error is wrapped in, the record of it
has the resource from the outside, and the text and the status from the inside. -/

namespace InterfaceSync

/-- A transport error of any kind, as far as it answers for itself. The kinds that requests come to
end with are some of many. -/
structure TransportReport where
  isTimeout : Bool
  isConnect : Bool
  url? : Option String
  message : String
  status? : Option Nat

def TransportError.report (cause : TransportError) : TransportReport :=
  ⟨cause.isTimeout, cause.isConnect, cause.url?.map Url.text, cause.message, cause.status?⟩

namespace TransportReport

variable {report : TransportReport}

def Answered (report : TransportReport) : Prop :=
  report.status?.isSome = true → report.isTimeout = false ∧ report.isConnect = false

theorem answered_report (cause : TransportError) : cause.report.Answered := by
  cases cause <;> simp [Answered, TransportError.report, TransportError.isTimeout,
    TransportError.isConnect, TransportError.status?]

/-- The error that is made of a report: what does not count as a timeout or a failure to connect
keeps its text and its status. -/
def restated (report : TransportReport) : SyncError :=
  if report.isTimeout then .timeout
  else if report.isConnect then .connectionFailed (report.url?.getD "<unknown>") report.message
  else .api report.message report.status?

theorem ofTransport_eq (cause : TransportError) :
    SyncError.ofTransport cause = cause.report.restated := rfl

theorem resources_restated (report : TransportReport) : report.restated.resources = [] := by
  unfold restated
  split
  · rfl
  · split <;> rfl

theorem status?_restated : report.restated.status? = report.status? ↔ report.Answered := by
  have bare := SyncError.root_bare report.resources_restated
  rw [SyncError.status?, bare, Answered, restated]
  cases report.status? <;> cases report.isTimeout <;> cases report.isConnect <;> simp

end TransportReport

namespace SyncError

variable {error : SyncError}

theorem root_within (resources : List String) (error : SyncError) :
    (error.within resources).root = error.root := by
  induction resources with
  | nil => rfl
  | cons resource rest ih => exact ih

theorem status?_within (resources : List String) (error : SyncError) :
    (error.within resources).status? = error.status? := by
  rw [status?, root_within, ← status?]

def loadPrefixes (resources : List String) : String :=
  String.join (resources.map fun resource => s!"Failed to load {resource}: ")

private theorem message_within (resources : List String) (error : SyncError) :
    (error.within resources).message = loadPrefixes resources ++ error.message := by
  induction resources with
  | nil => exact String.empty_append.symm
  | cons resource rest ih =>
    change s!"Failed to load {resource}: " ++ (error.within rest).message = _
    rw [ih, loadPrefixes, loadPrefixes, List.map_cons, String.join_cons]
    simp only [String.append_assoc]

private theorem ofError_within (resources : List String) (bare : error.resources = []) :
    LoadFailure.ofError (error.within resources) =
      ⟨resources.head?, error.message, error.status?⟩ := by
  have root := (root_within resources error).trans (root_bare bare)
  cases resources with
  | nil =>
    cases error with
    | loadFailed resource source => cases bare
    | _ => rfl
  | cons resource rest =>
    change LoadFailure.mk (some resource) (error.within (resource :: rest)).root.message
      (error.within (resource :: rest)).status? = _
    rw [root, status?_within, List.head?_cons]

/-- An error in failed loads of some resources, the outermost one first: which end of the chain each
part of what is known of it comes from. -/
structure RightEnds (resources : List String) (base : SyncError) (code : Option Nat) : Prop where
  root : (base.within resources).root = base
  unwrapped : ∀ resource source, (base.within resources).root ≠ .loadFailed resource source
  status : (base.within resources).status? = code
  message : (base.within resources).message = loadPrefixes resources ++ base.message
  recorded : LoadFailure.ofError (base.within resources) =
    ⟨resources.head?, base.message, code⟩
  stored : ∀ store : Store, store.snapshot.loadState ≠ .ready →
    (store.recordFailure (base.within resources)).state.snapshot.loadState =
      .failed ⟨resources.head?, base.message, code⟩

private theorem rightEnds (resources : List String) {base : SyncError} (bare : base.resources = [])
    : RightEnds resources base base.status? where
  root := (root_within resources base).trans (root_bare bare)
  unwrapped resource source wrapped := by
    rw [root_within, root_bare bare] at wrapped
    rw [wrapped] at bare
    cases bare
  status := status?_within resources base
  message := message_within resources base
  recorded := ofError_within resources bare
  stored store unloaded := by
    rw [Store.recordFailure_unloaded _ unloaded, ofError_within resources bare]
    rfl

/-- Whatever an API error is wrapped in, the cause itself is found behind it, with the status that
it had; the text names every wrapper, and the record of the failure only the outermost one. This
holds of transport errors of any kind, as long as those with a status neither ran out of time nor
failed to connect. -/
theorem failure_records (resources : List String) :
    (∀ cause : ApiError, RightEnds resources (.ofApi cause) cause.status?) ∧
    ∀ report : TransportReport, report.Answered →
      RightEnds resources report.restated report.status? := by
  constructor
  · intro cause
    rw [← status?_ofApi]
    exact rightEnds resources (resources_ofApi cause)
  · intro report answered
    rw [← TransportReport.status?_restated.mpr answered]
    exact rightEnds resources report.resources_restated

/-- A refused request behind three failed loads, and a transport error of another kind behind
none. -/
theorem failure_records_nested :
    let refused := SyncError.ofApi (.status 502 "http://host/api/config")
    let report : TransportReport := ⟨false, false, none, "error decoding response body", some 200⟩
    LoadFailure.ofError (refused.within ["a", "ifnames", "config"]) =
        ⟨some "a", "API error: HTTP 502 from http://host/api/config", some 502⟩ ∧
      LoadFailure.ofError report.restated =
        ⟨none, "API error: error decoding response body", some 200⟩ := by
  intro refused report
  have answered : report.Answered := fun _ => ⟨rfl, rfl⟩
  exact ⟨((failure_records ["a", "ifnames", "config"]).1
      (.status 502 "http://host/api/config")).recorded,
    ((failure_records []).2 report answered).recorded⟩

end SyncError

end InterfaceSync
