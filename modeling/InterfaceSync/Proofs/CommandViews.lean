import InterfaceSync.Proofs.MachineFiles
import InterfaceSync.Proofs.PayloadShapes
import InterfaceSync.Proofs.RunStages

/-! One load seen through the three commands. The list, the whole document, a single configuration
and the document behind an edit come about in different ways, and say the same of every name. -/

namespace InterfaceSync

private theorem firstOccurrences_eq (seen names : List Ifname) :
    firstOccurrences seen names = (names.filter (· ∉ seen)).eraseDups := by
  induction names generalizing seen with
  | nil => rfl
  | cons name rest ih =>
    by_cases known : name ∈ seen
    · simp [firstOccurrences, known, ih]
    · have later : (rest.filter (· ∉ seen)).filter (fun other => !other == name) =
          rest.filter (· ∉ name :: seen) := by
        rw [List.filter_filter]
        apply List.filter_congr
        intro other _
        by_cases same : other = name <;> simp [same]
      rw [firstOccurrences, if_neg known, ih, List.filter_cons_of_pos (by simpa using known),
        List.eraseDups_cons, later]

theorem firstOccurrences_nil (names : List Ifname) :
    firstOccurrences [] names = names.eraseDups := by
  rw [firstOccurrences_eq]
  simp

namespace Document

theorem get?_edited (document : Document) (ifname other : Ifname) (config : InterfaceConfig)
    (different : other ≠ ifname) :
    (document.edited ifname config).get? other = document.get? other := by
  unfold Document.edited
  split
  · rfl
  · rw [get?_withConfig, if_neg different]

private theorem get?_edited_self (document : Document) (ifname : Ifname) (config : InterfaceConfig)
    :
    ∃ held, (document.edited ifname config).get? ifname = some held ∧ held.same config = true := by
  unfold Document.edited
  split
  next equal =>
    cases stored : document.get? ifname with
    | none => simp [stored] at equal
    | some held => exact ⟨held, rfl, by simpa [stored] using equal⟩
  next =>
    refine ⟨config, ?_, config.same_refl⟩
    rw [get?_withConfig, if_pos rfl]

end Document

namespace Cli

/-- The formats that print a JSON value for any answer. -/
def OutputFormat.spacing? : OutputFormat → Option Json.Spacing
  | .json => some .indented
  | .jsonCompact => some .compact
  | _ => none

def fieldCountOf : Option Json → Nat
  | some (.object members) => members.length
  | _ => 0

/-- The row of a name in a list, given the entries of the document. -/
def rowOf (shown : List (String × Json)) (ifname : Ifname) : Json :=
  .object [
    ("ifname", .string ifname), ("configured", .bool (shown.lookup ifname).isSome),
    ("keys", .ofNat (fieldCountOf (shown.lookup ifname)))]

def Finding.toJson : Finding → Json
  | .summaries rows => .array (rows.map Summary.toJson)
  | .document whole => whole.toJson
  | .config one => one.value

private theorem Finding.render_eq {format : OutputFormat} {spacing : Json.Spacing}
    (json : format.spacing? = some spacing) (finding : Finding) :
    finding.render format = .ofList (Json.writeWith spacing 0 finding.toJson) := by
  cases format with
  | json | jsonCompact => cases json; cases finding <;> rfl
  | table | yaml | plain => cases json

private theorem written_isEmpty (spacing : Json.Spacing) (value : Json) :
    (String.ofList (Json.writeWith spacing 0 value)).isEmpty = false := by
  obtain ⟨c, more, text, _⟩ := Json.writeWith_head spacing 0 value
  rw [text]
  simp

namespace Machine

variable (machine : Machine) (environment : List (String × String)) (options : Options)

/-- A run of a command succeeds and prints a value on a line of its own. -/
def Prints (spacing : Json.Spacing) (command : ApiCommand) (value : Json) : Prop :=
  let (result, after) := machine.running environment options command
  result = .ok () ∧
    after.printed = machine.printed ++ (.ofList (Json.writeWith spacing 0 value) ++ "\n")

/-- The client comes about, and both of its requests succeed. -/
def Serves (names : List String) (payload : Payload) : Prop :=
  ∃ settings clientSettings client,
    Machine.settings machine machine environment = .ok settings ∧
    options.clientSettings settings = .ok clientSettings ∧
    machine.connected clientSettings = .ok client ∧
    (client.reply machine.network .ifnames).result.bind Client.decodeNames = .ok names ∧
    (client.reply machine.network .config).result.bind Client.decodePayload = .ok payload

/-- The value of an edit is the text of a JSON value, or the path of such a text. -/
def Gives (value : String) (json : Json) : Prop :=
  ∃ text, machine.valueText value = .ok text ∧ Json.parse? text = some json

variable {machine environment options}

private theorem Serves.ending {names : List String} {payload : Payload}
    (serves : machine.Serves environment options names payload) :
    ∃ client, machine.fetched client = .ok (names, payload) ∧
      ∀ command,
        machine.ending environment options command = machine.endingOver client command := by
  obtain ⟨settings, clientSettings, client, loaded, resolved, connected, reported, stored⟩ := serves
  refine ⟨client, ?_, fun command => ?_⟩
  · rw [fetched_eq, reported, stored]
    rfl
  · rw [clientSettings_eq] at resolved
    unfold Machine.ending
    rw [loaded]
    dsimp only
    cases chosen : options.profileIn settings with
    | error error =>
      rw [chosen] at resolved
      cases resolved
    | ok profile =>
      rw [chosen] at resolved
      dsimp only at resolved ⊢
      rw [resolved]
      dsimp only
      rw [connected]

variable {names : List String} {payload : Payload} {client : Client}

/-- The snapshot in which every command looks for its answer. -/
def loadedSnapshot (machine : Machine) (names : List String) (payload : Payload) : Snapshot :=
  machine.snapshotOf (names, payload)

theorem reports_iff (machine : Machine) (payload : Payload) (ifname : Ifname) :
    (machine.loadedSnapshot names payload).reports ifname = true ↔ ifname ∈ names.eraseDups := by
  change (firstOccurrences [] names).contains ifname = true ↔ _
  rw [firstOccurrences_nil, List.contains_iff_mem]

private theorem told_printed {spacing : Json.Spacing}
    (json : options.output.spacing? = some spacing)
    (loud : options.quiet = false) (inquiry : Inquiry) (snapshot : Snapshot) :
    (machine.told environment options inquiry snapshot).printed = machine.printed ++
      (.ofList (Json.writeWith spacing 0 (inquiry.found snapshot).toJson) ++ "\n") := by
  have shown : (machine.told environment options inquiry snapshot).printed = machine.printed ++
      if options.quiet || ((inquiry.found snapshot).render options.output).isEmpty then ""
      else (inquiry.found snapshot).render options.output ++ "\n" := by
    cases inquiry <;> rfl
  rw [shown, Finding.render_eq json, written_isEmpty, loud]
  rfl

section
variable {command : ApiCommand} {inquiry : Inquiry}
  (fetched : machine.fetched client = .ok (names, payload))
  (ends : machine.ending environment options command = machine.endingOver client command)
  (asked : machine.inquired command = .ok inquiry)

include fetched ends asked

theorem ending_eq :
    machine.ending environment options command =
      match inquiry.ifname?.filter (! (machine.loadedSnapshot names payload).reports ·) with
      | some ifname => .unreported client ifname
      | none => .answered client inquiry (machine.loadedSnapshot names payload) := by
  rw [ends, endingOver, asked]
  dsimp only
  rw [fetched]
  rfl

/-- A command whose name is reported, or that has none, prints what is found. -/
theorem prints {spacing : Json.Spacing} (json : options.output.spacing? = some spacing)
    (loud : options.quiet = false)
    (reported : ∀ ifname ∈ inquiry.ifname?, ifname ∈ names.eraseDups) {value : Json}
    (found : (inquiry.found (machine.loadedSnapshot names payload)).toJson = value) :
    machine.Prints environment options spacing command value := by
  have known :
      inquiry.ifname?.filter (! (machine.loadedSnapshot names payload).reports ·) = none := by
    apply Option.filter_eq_none_iff.mpr
    intro ifname named
    have there := (reports_iff machine payload ifname).mpr
      (reported ifname named)
    simp [there]
  unfold Prints
  rw [running_eq, ending_eq fetched ends asked, known, ← found]
  exact ⟨rfl, told_printed json loud inquiry _⟩

private theorem unreported_iff {ifname : Ifname} (named : inquiry.ifname? = some ifname) :
    exitStatus (machine.running environment options command).1 = 4 ↔ ifname ∉ names.eraseDups := by
  rw [← reports_iff machine payload, running_eq,
    ending_eq fetched ends asked, named]
  cases there : (machine.loadedSnapshot names payload).reports ifname <;>
    simp [Option.filter, there, Ending.result, Ending.failure?, exitStatus, Failure.exitCode]

end

private theorem fieldCountOf_value (stored : Option InterfaceConfig) :
    fieldCountOf (stored.map (·.value)) = (stored.map InterfaceConfig.fieldCount).getD 0 := by
  cases stored with
  | none => rfl
  | some config =>
    simp only [Option.map_some, Option.getD_some, InterfaceConfig.fieldCount]
    cases config.value <;> rfl

theorem lookup_values (document : Document) (ifname : Ifname) :
    document.values.entries.lookup ifname = (document.get? ifname).map (·.value) :=
  document.get?_values ifname

private theorem summary_toJson (snapshot : Snapshot) (ifname : Ifname) :
    (Summary.of snapshot ifname).toJson = rowOf snapshot.document.values.entries ifname := by
  rw [rowOf, lookup_values, fieldCountOf_value, Summary.of, Summary.toJson]
  simp

private theorem found_list (snapshot : Snapshot) :
    (Inquiry.list.found snapshot).toJson =
      .array (snapshot.ifnames.map (rowOf snapshot.document.values.entries)) := by
  simp only [Inquiry.found, Finding.toJson, summarize, List.map_map, Function.comp_def,
    summary_toJson]

private theorem found_config (snapshot : Snapshot) (ifname : Ifname) :
    ((Inquiry.view (some ifname)).found snapshot).toJson =
      (snapshot.document.values.entries.lookup ifname).getD (.object []) := by
  rw [lookup_values]
  cases stored : snapshot.document.get? ifname <;>
    simp [Inquiry.found, Finding.toJson, stored, InterfaceConfig.empty]

private theorem loadedSnapshot_ifnames :
    (machine.loadedSnapshot names payload).ifnames = names.eraseDups :=
  firstOccurrences_nil names

private theorem loadedSnapshot_document :
    (machine.loadedSnapshot names payload).document = payload.document := rfl

private theorem inquired_edit {value : String} {json : Json} (given : machine.Gives value json)
    (ifname : Ifname) :
    machine.inquired (.edit ifname value) = .ok (.edit ifname (.ofJson json)) := by
  obtain ⟨text, read, parsed⟩ := given
  simp [inquired, Machine.given, read, configOf, parsed, Except.mapError, Except.bind, Except.map]

variable (machine environment options) in
/-- All that is printed after a load agrees: a row is configured exactly when the document has an
entry for its name and counts the fields of that entry, a single configuration is that entry or an
empty object, and an edit changes that entry and no other. Names are known when they have a row. -/
theorem views_agree {names : List String} {payload : Payload} {spacing : Json.Spacing}
    (json : options.output.spacing? = some spacing) (loud : options.quiet = false)
    (serves : machine.Serves environment options names payload) :
    ∃ shown : List (String × Json), Ordered shown ∧
      (∀ ifname, shown.lookup ifname = (payload.nics.get? ifname).filter (! ·.isNull)) ∧
      machine.Prints environment options spacing (.view none) (.object shown) ∧
      machine.Prints environment options spacing .list
        (.array (names.eraseDups.map (rowOf shown))) ∧
      ∀ ifname,
        (exitStatus (machine.running environment options (.view (some ifname))).1 = 4 ↔
          ifname ∉ names.eraseDups) ∧
        (ifname ∈ names.eraseDups →
          machine.Prints environment options spacing (.view (some ifname))
            ((shown.lookup ifname).getD (.object []))) ∧
        ∀ value json, machine.Gives value json →
          (exitStatus (machine.running environment options (.edit ifname value)).1 = 4 ↔
            ifname ∉ names.eraseDups) ∧
          (ifname ∈ names.eraseDups → ∃ edited : List (String × Json), Ordered edited ∧
            machine.Prints environment options spacing (.edit ifname value) (.object edited) ∧
            (∃ held, edited.lookup ifname = some held ∧
              held.same (if json.isNull then .object [] else json) = true) ∧
            ∀ other, other ≠ ifname → edited.lookup other = shown.lookup other) := by
  obtain ⟨client, fetched, ends⟩ := serves.ending
  refine ⟨payload.document.values.entries, payload.document.values.ordered, ?_, ?_, ?_, ?_⟩
  · intro ifname
    rw [lookup_values]
    exact payload.document_holds ifname
  · apply prints fetched (ends _) rfl json loud
    · exact fun _ named => nomatch named
    · rfl
  · apply prints fetched (ends _) rfl json loud
    · exact fun _ named => nomatch named
    · rw [found_list, loadedSnapshot_ifnames, loadedSnapshot_document]
  · intro ifname
    refine ⟨unreported_iff fetched (ends _) rfl rfl, ?_, ?_⟩
    · intro known
      apply prints fetched (ends _) rfl json loud
      · rintro _ ⟨⟩
        exact known
      · rw [found_config, loadedSnapshot_document]
    · intro value edited given
      have asked := inquired_edit given ifname
      refine ⟨unreported_iff fetched (ends _) asked rfl, ?_⟩
      intro known
      let document := payload.document.edited ifname (.ofJson edited)
      refine ⟨document.values.entries, document.values.ordered, ?_, ?_, ?_⟩
      · apply prints fetched (ends _) asked json loud
        · rintro _ ⟨⟩
          exact known
        · rfl
      · obtain ⟨held, stored, same⟩ := payload.document.get?_edited_self ifname (.ofJson edited)
        refine ⟨held.value, ?_, ?_⟩
        · rw [lookup_values, stored]
          rfl
        · rw [← InterfaceConfig.ofJson_value]
          exact same
      · intro other different
        rw [lookup_values, lookup_values, Document.get?_edited _ _ _ _ different]

private theorem readFile_noFiles (network : Url → Exchange) (path : String) :
    ((ofFiles [] [] network).readFile path).toOption = none := by
  cases read : (ofFiles [] [] network).readFile path with
  | error error => rfl
  | ok text =>
    obtain ⟨_, _, _, held⟩ := readFile_ok.mp read
    cases held

private theorem settingsText_noFiles (network : Url → Exchange) (path : String) :
    settingsText (ofFiles [] [] network) (ofFiles [] [] network) environment path = none := by
  rw [settingsText, firstText, List.findSome?_eq_none_iff]
  intro candidate _
  exact readFile_noFiles network candidate

def localUrl (segments : List String) : Url where
  scheme := "http".toList
  username := []
  password := []
  host := some (.ipv6 [0, 0, 0, 0, 0, 0, 0, 1])
  port := none
  path := .segments (segments.map String.toList)
  query := none
  fragment := none

def localOptions : Options :=
  ⟨none, some "http://[::1]/api", .jsonCompact, .auto, 0, false, false, none⟩

def reportedNames : Json := .array [.string "eth0", .string "eth1", .string "eth0"]

def heldEntries : NameMap Json :=
  ⟨[("eth0", .object [("up", .bool true)]), ("eth1", .null), ("lo", .bool true)], by decide⟩

def servedValue : Resource → Json
  | .ifnames => reportedNames
  | .config => Payload.bareBody heldEntries

def localNetwork (url : Url) : Exchange :=
  .answered 200 (.ofList (Json.writeWith .compact 0
    (servedValue (if url = localUrl ["api", "ifnames"] then .ifnames else .config))))

private theorem reply_localNetwork (resource : Resource) :
    ((⟨localUrl ["api"]⟩ : Client).reply localNetwork resource).result =
      .ok (.ofList (Json.writeWith .compact 0 (servedValue resource))) := by
  have endpoint : (⟨localUrl ["api"]⟩ : Client).endpoint resource =
      .ok (localUrl ["api", resource.name]) := by
    cases resource <;> decide +kernel
  have sendable : Client.isSendable (localUrl ["api", resource.name]) = true := by
    cases resource <;> decide +kernel
  rw [Client.reply, Client.get, endpoint]
  dsimp only
  rw [if_pos sendable]
  cases resource <;> rfl

private theorem localNetwork_serves :
    (ofFiles [] [] localNetwork).Serves [] localOptions ["eth0", "eth1", "eth0"]
      (.bare heldEntries) := by
  refine ⟨.builtin, ⟨localUrl ["api"], .system, 30⟩, ⟨localUrl ["api"]⟩, ?_, ?_, rfl, ?_, ?_⟩
  · rw [settings, settingsText_noFiles]
    rfl
  · decide +kernel
  · have read := Json.read?_writeWith Json.Spacing.blank_compact (by decide)
      (show (servedValue .ifnames).depth ≤ Json.maxDepth by decide)
    have network : (ofFiles [] [] localNetwork).network = localNetwork := rfl
    simp only [network, reply_localNetwork, Except.bind, Client.decodeNames, parseNames?, read]
    rfl
  · have read := Json.read?_writeWith Json.Spacing.blank_compact (by decide)
      (show (servedValue .config).depth ≤ Json.maxDepth by decide)
    have canonical : heldEntries.Canonical := by
      simp [NameMap.Canonical, heldEntries, Json.Canonical, Json.canonical, Json.canonicalMembers,
        sortEntries, insertEntry]
    have unmarked : ¬ heldEntries.HoldsNics := by
      rintro ⟨_, holds⟩
      cases holds
    have bare := Payload.ofJson?_bareBody canonical unmarked
    have network : (ofFiles [] [] localNetwork).network = localNetwork := rfl
    simp only [network, reply_localNetwork, Except.bind, Client.decodePayload, Payload.parse?, read,
      Option.bind_some]
    rw [servedValue, bare]

theorem views_agree_localNetwork :
    ∃ shown : List (String × Json),
      shown.lookup "lo" = some (.bool true) ∧ shown.lookup "eth1" = none ∧
      (ofFiles [] [] localNetwork).Prints [] localOptions .compact .list
        (.array [rowOf shown "eth0", rowOf shown "eth1"]) ∧
      exitStatus ((ofFiles [] [] localNetwork).running [] localOptions (.view (some "lo"))).1 = 4 ∧
      (ofFiles [] [] localNetwork).Prints [] localOptions .compact (.view (some "eth1"))
        (.object []) ∧
      ∃ edited : List (String × Json), edited.lookup "lo" = some (.bool true) ∧
        (ofFiles [] [] localNetwork).Prints [] localOptions .compact (.edit "eth1" "null")
          (.object edited) := by
  obtain ⟨shown, _, holds, _, listed, each⟩ :=
    views_agree (ofFiles [] [] localNetwork) [] localOptions rfl rfl localNetwork_serves
  have absent : shown.lookup "eth1" = none := holds "eth1"
  have unreported : shown.lookup "lo" = some (.bool true) := holds "lo"
  refine ⟨shown, unreported, absent, listed, ?_, ?_, ?_⟩
  · exact (each "lo").1.mpr (by decide)
  · have printed := (each "eth1").2.1 (by decide)
    rwa [absent] at printed
  · obtain ⟨_, edits⟩ := (each "eth1").2.2 "null" .null ⟨"null", rfl, by cbv⟩
    obtain ⟨edited, _, printed, _, kept⟩ := edits (by decide)
    exact ⟨edited, (kept "lo" (by decide)).trans unreported, printed⟩

end Machine

end Cli

end InterfaceSync
