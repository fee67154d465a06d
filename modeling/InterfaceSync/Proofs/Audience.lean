import InterfaceSync.Proofs.EditHistory
import InterfaceSync.Sync.Subscription

/-! Any number of subscriptions to one store, taken, asked and turned into feeds in any order with the
commands, until the store goes and after that. Beside each subscription stands what it was told; the
invariant is that a subscription remembers the last of the publications that it has marked seen. -/

namespace InterfaceSync

inductive Subscription
  | watcher (watcher : Watcher)
  | feed (feed : SnapshotFeed)

inductive Question
  | changed
  | settled
  | next
deriving DecidableEq

namespace Subscription

def ask (source : Source) : Subscription → Question → Option (Poll Snapshot × Subscription)
  | .watcher held, .changed => some ((held.changed source).map id .watcher)
  | .watcher held, .settled => some ((held.settled source).map id .watcher)
  | .feed held, .next => some ((held.next source).map id .feed)
  | _, _ => none

def toFeed : Subscription → Subscription
  | .watcher _ => .feed .start
  | .feed held => .feed held

/-- What a question can be answered, and what the subscription remembers of it. -/
inductive Asked (source : Source) : Subscription → Question → Poll Snapshot → Subscription → Prop
  | changed {held : Watcher} (unseen : held.seen ≠ source.store.version) :
      Asked source (.watcher held) .changed (.ready source.store.snapshot)
        (.watcher ⟨source.store.snapshot, source.store.version⟩)
  | unchanged {held : Watcher} (seen : held.seen = source.store.version) :
      Asked source (.watcher held) .changed source.rest (.watcher held)
  | settled {held : Watcher} (ended : source.store.snapshot.isSettled = true) :
      Asked source (.watcher held) .settled (.ready source.store.snapshot)
        (.watcher ⟨source.store.snapshot, source.store.version⟩)
  | unsettled {held : Watcher} (under_way : source.store.snapshot.isSettled = false) :
      Asked source (.watcher held) .settled source.rest
        (.watcher ⟨held.current, source.store.version⟩)
  | next {held : SnapshotFeed} (unseen : held.seen ≠ some source.store.version) :
      Asked source (.feed held) .next (.ready source.store.snapshot)
        (.feed ⟨some source.store.version⟩)
  | exhausted {held : SnapshotFeed} (seen : held.seen = some source.store.version) :
      Asked source (.feed held) .next source.rest (.feed held)

theorem ask_asked {source : Source} {subscription after : Subscription} {question : Question}
    {answer : Poll Snapshot} (told : subscription.ask source question = some (answer, after)) :
    Asked source subscription question answer after := by
  cases subscription with
  | watcher held =>
    cases question with
    | changed =>
      simp only [ask, Watcher.changed, Watcher.take] at told
      split at told
      next seen => cases told; exact .unchanged seen
      next unseen => cases told; exact .changed unseen
    | settled =>
      simp only [ask, Watcher.settled, Watcher.take] at told
      split at told
      next ended => cases told; exact .settled ended
      next under_way => cases told; exact .unsettled (by simpa using under_way)
    | next => cases told
  | feed held =>
    cases question with
    | changed | settled => cases told
    | next =>
      simp only [ask, SnapshotFeed.next] at told
      split at told
      next seen => cases told; exact .exhausted seen
      next unseen => cases told; exact .next unseen

end Subscription

theorem Source.rest_ne_ready (source : Source) (snapshot : Snapshot) :
    source.rest ≠ .ready snapshot := by
  unfold Source.rest
  split <;> simp

theorem Subscription.Asked.ready_eq {source : Source} {subscription after : Subscription}
    {question : Question} {answer : Poll Snapshot} {snapshot : Snapshot}
    (asked : Asked source subscription question answer after) (ready : answer = .ready snapshot) :
    snapshot = source.store.snapshot := by
  cases asked with
  | changed | settled | next => cases ready; rfl
  | unchanged | unsettled | exhausted => exact absurd ready (source.rest_ne_ready snapshot)

/-- A question that was asked, its answer, and the index of the newest publication at that moment. -/
structure Sighting where
  question : Question
  answer : Poll Snapshot
  newest : Nat

def Sighting.marks (sighting : Sighting) : Bool :=
  match sighting.answer with
  | .ready _ => true
  | _ => sighting.question == .settled

private theorem Sighting.marks_rest (question : Question) (source : Source) (newest : Nat) :
    (Sighting.mk question source.rest newest).marks = (question == .settled) := by
  cases gone : source.gone <;> simp [marks, Source.rest, gone]

/-- A subscription with all that it was told, oldest first, since the publication of index `since`. -/
structure Reader where
  subscription : Subscription
  since : Nat
  sightings : List Sighting

namespace Reader

/-- The indices of the publications that were marked seen. A new subscription marks the present one. -/
def marked (reader : Reader) : List Nat :=
  reader.since :: (reader.sightings.filter Sighting.marks).map Sighting.newest

def answer (reader : Reader) (source : Source) (question : Question) : Option (Poll Snapshot) :=
  (reader.subscription.ask source question).map (·.1)

def ask (reader : Reader) (source : Source) (newest : Nat) (question : Question) : Reader :=
  match reader.subscription.ask source question with
  | none => reader
  | some (answer, subscription) =>
    { reader with subscription, sightings := reader.sightings ++ [⟨question, answer, newest⟩] }

def toFeed (reader : Reader) : Reader :=
  { reader with subscription := reader.subscription.toFeed }

/-- The reader has asked for the next publication before. -/
def Opened (reader : Reader) : Prop :=
  ∃ sighting ∈ reader.sightings, sighting.question = .next

end Reader

/-- A source with everything that it has published, oldest first, and its readers, by their handles. -/
structure Audience where
  source : Source
  published : List Snapshot
  readers : List Reader

namespace Audience

inductive Action
  | command (command : Command)
  | dropStore
  | subscribe
  | toFeed (handle : Nat)
  | ask (handle : Nat) (question : Question)

def new : Audience := ⟨⟨.new, false⟩, [.initial], []⟩

def newest (audience : Audience) : Nat :=
  audience.published.length - 1

def perform (audience : Audience) (command : Command) : Audience :=
  let store := (command.run audience.source.store).state
  let published :=
    if store.version = audience.source.store.version then audience.published
    else audience.published ++ [store.snapshot]
  { audience with source := { audience.source with store }, published }

def subscribe (audience : Audience) : Audience :=
  let reader : Reader := ⟨.watcher (.subscribe audience.source.store), audience.newest, []⟩
  { audience with readers := audience.readers ++ [reader] }

def change (audience : Audience) (handle : Nat) (f : Reader → Reader) : Audience :=
  { audience with readers := audience.readers.modify handle f }

/-- A store that is gone takes no commands and no subscriptions; readers may still ask. -/
def act (audience : Audience) : Action → Audience
  | .command issued => if audience.source.gone then audience else audience.perform issued
  | .dropStore => { audience with source := { audience.source with gone := true } }
  | .subscribe => if audience.source.gone then audience else audience.subscribe
  | .toFeed handle => audience.change handle Reader.toFeed
  | .ask handle question =>
    audience.change handle (·.ask audience.source audience.newest question)

def after (audience : Audience) (actions : List Action) : Audience :=
  actions.foldl act audience

@[simp] theorem after_cons (audience : Audience) (action : Action) (rest : List Action) :
    audience.after (action :: rest) = (audience.act action).after rest := rfl

@[simp] theorem after_append (audience : Audience) (earlier later : List Action) :
    audience.after (earlier ++ later) = (audience.after earlier).after later :=
  List.foldl_append

end Audience

def Snapshot.Stays (earlier later : Snapshot) : Prop :=
  earlier.loadState = .ready → later.loadState = .ready ∧ later.ifnames = earlier.ifnames

private theorem Transition.stays {found : Snapshot} {command : Command} {answer : Answer}
    {published : Option Snapshot} (transition : Transition found command answer published) :
    found.Stays (published.getD found) := by
  intro ready
  obtain ⟨stays, ifnames, -⟩ := transition.ready_data ready
  exact ⟨stays, ifnames⟩

def Latest (marked : List Nat) (index : Nat) : Prop :=
  index ∈ marked ∧ ∀ other ∈ marked, other ≤ index

/-- What a subscription remembers is what it has marked last. A feed that was not asked yet has
forgotten what the watcher before it had marked. -/
def Subscription.Remembers (marked : List Nat) (opened : Prop) : Subscription → Prop
  | .watcher held => Latest marked held.seen ∧ ¬ opened
  | .feed ⟨none⟩ => ¬ opened
  | .feed ⟨some seen⟩ => Latest marked seen ∧ opened

private theorem Subscription.Remembers.toFeed {marked : List Nat} {opened : Prop}
    {subscription : Subscription} (remembers : subscription.Remembers marked opened) :
    subscription.toFeed.Remembers marked opened := by
  cases subscription with
  | watcher held => exact remembers.2
  | feed held => exact remembers

namespace Reader

variable {reader : Reader} {source : Source} {published : List Snapshot}

structure Sound (published : List Snapshot) (reader : Reader) : Prop where
  remembers : reader.subscription.Remembers reader.marked reader.Opened
  begun : reader.since < published.length
  past : ∀ sighting ∈ reader.sightings, sighting.newest < published.length
  ordered : reader.sightings.Pairwise fun earlier later => earlier.newest ≤ later.newest
  told : ∀ sighting ∈ reader.sightings, ∀ snapshot, sighting.answer = .ready snapshot →
    published[sighting.newest]? = some snapshot

theorem Sound.marked_lt (sound : reader.Sound published) {index : Nat}
    (marked : index ∈ reader.marked) : index < published.length := by
  rcases List.mem_cons.mp marked with rfl | later
  · exact sound.begun
  · obtain ⟨sighting, member, rfl⟩ := List.mem_map.mp later
    exact sound.past sighting (List.mem_filter.mp member).1

private theorem Sound.publish (sound : reader.Sound published) (more : List Snapshot) :
    reader.Sound (published ++ more) where
  remembers := sound.remembers
  begun := by
    have begun := sound.begun
    simp only [List.length_append]
    omega
  past sighting member := by
    have past := sound.past sighting member
    simp only [List.length_append]
    omega
  ordered := sound.ordered
  told sighting member snapshot answer := by
    rw [List.getElem?_append_left (sound.past sighting member)]
    exact sound.told sighting member snapshot answer

private theorem Sound.toFeed (sound : reader.Sound published) :
    reader.toFeed.Sound published where
  remembers := sound.remembers.toFeed
  begun := sound.begun
  past := sound.past
  ordered := sound.ordered
  told := sound.told

private theorem latest_append {marked : List Nat} {index : Nat}
    (bounded : ∀ other ∈ marked, other ≤ index) : Latest (marked ++ [index]) index := by
  refine ⟨by simp, ?_⟩
  intro other member
  rcases List.mem_append.mp member with earlier | last
  · exact bounded other earlier
  · exact Nat.le_of_eq (List.mem_singleton.mp last)

def sight (reader : Reader) (subscription : Subscription) (sighting : Sighting) : Reader :=
  { reader with subscription, sightings := reader.sightings ++ [sighting] }

private theorem marked_sight (subscription : Subscription) (sighting : Sighting) :
    (reader.sight subscription sighting).marked =
      if sighting.marks then reader.marked ++ [sighting.newest] else reader.marked := by
  cases marks : sighting.marks <;> simp [sight, marked, List.filter_append, marks]

private theorem opened_sight (subscription : Subscription) (sighting : Sighting) :
    (reader.sight subscription sighting).Opened ↔ reader.Opened ∨ sighting.question = .next := by
  simp only [Opened, sight, List.mem_append, List.mem_singleton, or_and_right, exists_or,
    exists_eq_left]

theorem ask_cases (reader : Reader) (source : Source) (newest : Nat) (question : Question) :
    reader.ask source newest question = reader ∨ ∃ answer subscription,
      Subscription.Asked source reader.subscription question answer subscription ∧
      reader.ask source newest question = reader.sight subscription ⟨question, answer, newest⟩ := by
  cases asked : reader.subscription.ask source question with
  | none => exact .inl (by simp [ask, asked])
  | some told =>
    obtain ⟨answer, subscription⟩ := told
    exact .inr ⟨answer, subscription, Subscription.ask_asked asked, by simp [ask, asked, sight]⟩

theorem remembers_sight {question : Question} {answer : Poll Snapshot} {subscription : Subscription}
    (remembers : reader.subscription.Remembers reader.marked reader.Opened)
    (bounded : ∀ index ∈ reader.marked, index ≤ source.store.version)
    (asked : Subscription.Asked source reader.subscription question answer subscription) :
    subscription.Remembers
      (reader.sight subscription ⟨question, answer, source.store.version⟩).marked
      (reader.sight subscription ⟨question, answer, source.store.version⟩).Opened := by
  have latest := latest_append bounded
  generalize reader.subscription = before at asked remembers
  rw [marked_sight, opened_sight]
  cases asked with
  | changed unseen => exact ⟨latest, by simpa using remembers.2⟩
  | unchanged seen =>
    rw [Sighting.marks_rest]
    exact ⟨remembers.1, by simpa using remembers.2⟩
  | settled ended => exact ⟨latest, by simpa using remembers.2⟩
  | unsettled under_way =>
    rw [Sighting.marks_rest]
    exact ⟨latest, by simpa using remembers.2⟩
  | next unseen => exact ⟨latest, .inr rfl⟩
  | @exhausted held seen =>
    obtain ⟨seen⟩ := held
    subst seen
    rw [Sighting.marks_rest]
    exact ⟨remembers.1, .inr rfl⟩

theorem Sound.ask {earlier : List Snapshot} (question : Question)
    (sound : reader.Sound (earlier ++ [source.store.snapshot]))
    (counted : earlier.length = source.store.version) :
    (reader.ask source source.store.version question).Sound
      (earlier ++ [source.store.snapshot]) := by
  have bounded : ∀ index ∈ reader.marked, index ≤ source.store.version := by
    intro index marked
    have inside := sound.marked_lt marked
    simp only [List.length_append, List.length_singleton] at inside
    omega
  rcases reader.ask_cases source source.store.version question with
    same | ⟨answer, subscription, asked, same⟩
  · rw [same]
    exact sound
  rw [same]
  refine ⟨remembers_sight sound.remembers bounded asked, sound.begun, ?_, ?_, ?_⟩
  · intro sighting member
    rcases List.mem_append.mp member with old | last
    · exact sound.past sighting old
    · rw [List.mem_singleton.mp last]
      simp [counted]
  · refine List.pairwise_append.mpr ⟨sound.ordered, List.pairwise_singleton _ _, ?_⟩
    intro sighting member last same
    have past := sound.past sighting member
    simp only [List.length_append, List.length_singleton, counted] at past
    rw [List.mem_singleton.mp same]
    exact Nat.le_of_lt_succ past
  · intro sighting member snapshot answered
    rcases List.mem_append.mp member with old | last
    · exact sound.told sighting old snapshot answered
    · rw [List.mem_singleton.mp last] at answered ⊢
      rw [asked.ready_eq answered, ← counted, List.getElem?_concat_length]

end Reader

private theorem Snapshot.Stays.trans {first second third : Snapshot} (earlier : first.Stays second)
    (later : second.Stays third) : first.Stays third := by
  intro ready
  obtain ⟨ready', ifnames⟩ := earlier ready
  obtain ⟨ready'', ifnames'⟩ := later ready'
  exact ⟨ready'', ifnames'.trans ifnames⟩

namespace Audience

variable {audience : Audience}

structure Sound (audience : Audience) : Prop where
  first : audience.published.head? = some .initial
  history : ∃ earlier, audience.published = earlier ++ [audience.source.store.snapshot] ∧
    earlier.length = audience.source.store.version
  lasting : audience.published.Pairwise Snapshot.Stays
  readers : ∀ reader ∈ audience.readers, reader.Sound audience.published

theorem Sound.newest_eq (sound : audience.Sound) :
    audience.newest = audience.source.store.version := by
  obtain ⟨earlier, published, counted⟩ := sound.history
  simp [newest, published, counted]

theorem Sound.newest? (sound : audience.Sound) :
    audience.published[audience.newest]? = some audience.source.store.snapshot := by
  rw [sound.newest_eq]
  obtain ⟨earlier, published, counted⟩ := sound.history
  rw [published, ← counted, List.getElem?_concat_length]

theorem sound_new : new.Sound where
  first := rfl
  history := ⟨[], rfl, rfl⟩
  lasting := List.pairwise_singleton _ _
  readers _ member := by cases member

private theorem Sound.perform (sound : audience.Sound) (command : Command) :
    (audience.perform command).Sound := by
  obtain ⟨published, transition, state⟩ := command.run_transition audience.source.store
  cases published with
  | none =>
    have same : audience.perform command = audience := by
      simp [Audience.perform, state]
    rw [same]
    exact sound
  | some snapshot =>
    obtain ⟨earlier, history, counted⟩ := sound.history
    have grown : audience.perform command =
        { audience with
          source := { audience.source with store := audience.source.store.publishSnapshot snapshot }
          published := audience.published ++ [snapshot] } := by
      simp [Audience.perform, state, Store.publishSnapshot]
    rw [grown]
    refine ⟨?_, ⟨audience.published, rfl, ?_⟩, ?_, fun reader member => ?_⟩
    · rw [List.head?_append, sound.first]
      rfl
    · rw [history, List.length_append, counted]
      rfl
    · refine List.pairwise_append.mpr ⟨sound.lasting, List.pairwise_singleton _ _, ?_⟩
      intro before member last same
      rw [List.mem_singleton.mp same]
      have lasting := sound.lasting
      rw [history] at member lasting
      rcases List.mem_append.mp member with old | present
      · exact ((List.pairwise_append.mp lasting).2.2 before old _ (by simp)).trans transition.stays
      · rw [List.mem_singleton.mp present]
        exact transition.stays
    · exact (sound.readers reader member).publish [snapshot]

private theorem Sound.subscribe (sound : audience.Sound) : audience.subscribe.Sound where
  first := sound.first
  history := sound.history
  lasting := sound.lasting
  readers reader member := by
    rcases List.mem_append.mp member with old | fresh
    · exact sound.readers reader old
    rw [List.mem_singleton.mp fresh, sound.newest_eq]
    obtain ⟨earlier, published, counted⟩ := sound.history
    refine ⟨⟨⟨by simp [Reader.marked, Watcher.subscribe], ?_⟩, ?_⟩, ?_, ?_, ?_, ?_⟩
    · simp [Reader.marked, Watcher.subscribe]
    · simp [Reader.Opened]
    · simp [Audience.subscribe, published, counted]
    · simp
    · exact List.Pairwise.nil
    · simp

theorem mem_change {handle : Nat} {f : Reader → Reader} {reader : Reader}
    (member : reader ∈ (audience.change handle f).readers) :
    reader ∈ audience.readers ∨ ∃ old ∈ audience.readers, reader = f old := by
  obtain ⟨index, held⟩ := List.mem_iff_getElem?.mp member
  simp only [Audience.change, List.getElem?_modify] at held
  obtain ⟨old, found, same⟩ := Option.map_eq_some_iff.mp held
  have stored : old ∈ audience.readers := List.mem_of_getElem? found
  split at same
  · exact .inr ⟨old, stored, same.symm⟩
  · exact .inl (same ▸ stored)

private theorem Sound.change (sound : audience.Sound) (handle : Nat) {f : Reader → Reader}
    (keeps : ∀ reader ∈ audience.readers, (f reader).Sound audience.published) :
    (audience.change handle f).Sound where
  first := sound.first
  history := sound.history
  lasting := sound.lasting
  readers reader member := by
    rcases mem_change member with old | ⟨old, stored, rfl⟩
    · exact sound.readers reader old
    · exact keeps old stored

theorem Sound.act (sound : audience.Sound) (action : Action) : (audience.act action).Sound := by
  cases action with
  | command issued =>
    simp only [Audience.act]
    split
    · exact sound
    · exact sound.perform issued
  | dropStore => exact ⟨sound.first, sound.history, sound.lasting, sound.readers⟩
  | subscribe =>
    simp only [Audience.act]
    split
    · exact sound
    · exact sound.subscribe
  | toFeed handle => exact sound.change handle fun reader member => (sound.readers reader member).toFeed
  | ask handle question =>
    refine sound.change handle fun reader member => ?_
    have held := sound.readers reader member
    rw [sound.newest_eq]
    obtain ⟨earlier, published, counted⟩ := sound.history
    rw [published] at held ⊢
    exact held.ask question counted

theorem Sound.after (sound : audience.Sound) (actions : List Action) :
    (audience.after actions).Sound := by
  induction actions generalizing audience with
  | nil => exact sound
  | cons action rest ih => exact ih (sound.act action)

end Audience

end InterfaceSync
