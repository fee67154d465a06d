import InterfaceSync.Proofs.Audience

/-! What a subscription is told is always the newest publication, never an older one than before, and
does not depend on what others are asked. -/

namespace InterfaceSync

namespace Reader

variable {reader : Reader} {source : Source} {question : Question}

theorem asked_of_answer {answer : Poll Snapshot} (told : reader.answer source question = some answer) :
    ∃ after, Subscription.Asked source reader.subscription question answer after := by
  obtain ⟨⟨_, after⟩, asked, rfl⟩ := Option.map_eq_some_iff.mp told
  exact ⟨after, Subscription.ask_asked asked⟩

variable {earlier : List Snapshot}

theorem Sound.newest_marked (sound : reader.Sound (earlier ++ [source.store.snapshot]))
    (counted : earlier.length = source.store.version) {seen : Nat}
    (latest : Latest reader.marked seen) :
    seen ≤ source.store.version ∧
      (source.store.version ∈ reader.marked ↔ seen = source.store.version) := by
  have bounded : seen ≤ source.store.version := by
    have inside := sound.marked_lt latest.1
    simp only [List.length_append, List.length_singleton] at inside
    omega
  refine ⟨bounded, ?_, ?_⟩
  · intro marked
    exact Nat.le_antisymm bounded (latest.2 _ marked)
  · rintro rfl
    exact latest.1

private theorem Sound.fresh (sound : reader.Sound (earlier ++ [source.store.snapshot]))
    (counted : earlier.length = source.store.version) (asks : question ≠ .settled)
    (again : question = .next → reader.Opened) {snapshot : Snapshot}
    (told : reader.answer source question = some (.ready snapshot)) :
    ∀ index ∈ reader.marked, index < source.store.version := by
  obtain ⟨after, asked⟩ := asked_of_answer told
  have unseen : ∃ seen, Latest reader.marked seen ∧ seen ≠ source.store.version := by
    have remembers := sound.remembers
    generalize answered : Poll.ready snapshot = answer at asked
    generalize reader.subscription = subscription at asked remembers
    cases asked with
    | changed unseen => exact ⟨_, remembers.1, unseen⟩
    | settled | unsettled => exact absurd rfl asks
    | @next held unseen =>
      obtain ⟨seen⟩ := held
      cases seen with
      | none => exact absurd (again rfl) remembers
      | some seen => exact ⟨seen, remembers.1, fun same => unseen (congrArg some same)⟩
    | unchanged | exhausted => exact absurd answered.symm (source.rest_ne_ready snapshot)
  obtain ⟨seen, latest, different⟩ := unseen
  have bounded := (sound.newest_marked counted latest).1
  intro index marked
  have below := latest.2 index marked
  omega

private theorem answer_changed {held : Watcher} (watches : reader.subscription = .watcher held) :
    reader.answer source .changed =
      some (if held.seen = source.store.version then source.rest else .ready source.store.snapshot) := by
  simp only [answer, watches, Subscription.ask, Watcher.changed, Watcher.take]
  split <;> rfl

private theorem Sound.waits (sound : reader.Sound (earlier ++ [source.store.snapshot]))
    (counted : earlier.length = source.store.version) {held : Watcher}
    (watches : reader.subscription = .watcher held) :
    (reader.answer source .changed = some .pending ↔
      source.gone = false ∧ source.store.version ∈ reader.marked) ∧
    (reader.answer source .changed = some .closed ↔
      source.gone = true ∧ source.store.version ∈ reader.marked) := by
  have remembers := sound.remembers
  rw [watches] at remembers
  rw [answer_changed watches, (sound.newest_marked counted remembers.1).2]
  by_cases seen : held.seen = source.store.version
  · cases gone : source.gone <;> simp [seen, Source.rest, gone]
  · simp [seen]

private theorem Sound.opens (sound : reader.Sound (earlier ++ [source.store.snapshot]))
    {held : SnapshotFeed} (feeds : reader.subscription = .feed held) (unopened : ¬ reader.Opened) :
    reader.answer source .next = some (.ready source.store.snapshot) := by
  have remembers := sound.remembers
  rw [feeds] at remembers
  obtain ⟨seen⟩ := held
  cases seen with
  | none => simp [answer, feeds, Subscription.ask, SnapshotFeed.next]
  | some seen => exact absurd remembers.2 unopened

end Reader

namespace Audience

variable {audience : Audience}

/-- What subscriptions observe of the history of publications. -/
structure Faithful (audience : Audience) : Prop where
  /-- The history begins with the initial snapshot and ends with the one that the source holds. -/
  first : audience.published.head? = some .initial
  last : audience.published[audience.newest]? = some audience.source.store.snapshot
  /-- Whoever is given a snapshot is given the newest one, now and in the past. -/
  newest : ∀ reader ∈ audience.readers, ∀ question snapshot,
    reader.answer audience.source question = some (.ready snapshot) →
      snapshot = audience.source.store.snapshot
  told : ∀ reader ∈ audience.readers, ∀ sighting ∈ reader.sightings, ∀ snapshot,
    sighting.answer = .ready snapshot → audience.published[sighting.newest]? = some snapshot
  /-- Indices never decrease; those that a watcher is told of as a change, or a feed after its first
  snapshot, are beyond all that was marked seen. -/
  ordered : ∀ reader ∈ audience.readers,
    reader.sightings.Pairwise fun earlier later => earlier.newest ≤ later.newest
  fresh : ∀ reader ∈ audience.readers, ∀ question snapshot, question ≠ .settled →
    (question = .next → reader.Opened) →
    reader.answer audience.source question = some (.ready snapshot) →
      ∀ index ∈ reader.marked, index < audience.newest
  /-- Only a watcher that has seen the newest publication waits, for as long as the store lives. -/
  pending : ∀ reader ∈ audience.readers, ∀ watcher, reader.subscription = .watcher watcher →
    (reader.answer audience.source .changed = some .pending ↔
      audience.source.gone = false ∧ audience.newest ∈ reader.marked)
  closed : ∀ reader ∈ audience.readers, ∀ watcher, reader.subscription = .watcher watcher →
    (reader.answer audience.source .changed = some .closed ↔
      audience.source.gone = true ∧ audience.newest ∈ reader.marked)
  opens : ∀ reader ∈ audience.readers, ∀ feed, reader.subscription = .feed feed → ¬ reader.Opened →
    reader.answer audience.source .next = some (.ready audience.source.store.snapshot)
  /-- After a ready snapshot come only ready ones, with the same names. -/
  lasting : ∀ reader ∈ audience.readers, reader.sightings.Pairwise fun earlier later =>
    ∀ before after, earlier.answer = .ready before → later.answer = .ready after →
      before.loadState = .ready → after.loadState = .ready ∧ after.ifnames = before.ifnames

private theorem Sound.stays (sound : audience.Sound) {earlier later : Nat}
    (ordered : earlier ≤ later)
    {before after : Snapshot} (found : audience.published[earlier]? = some before)
    (found' : audience.published[later]? = some after) : before.Stays after := by
  rcases Nat.lt_or_eq_of_le ordered with less | rfl
  · obtain ⟨inside, rfl⟩ := List.getElem?_eq_some_iff.mp found
    obtain ⟨inside', rfl⟩ := List.getElem?_eq_some_iff.mp found'
    exact List.pairwise_iff_getElem.mp sound.lasting earlier later inside inside' less
  · rw [found] at found'
    cases found'
    exact fun ready => ⟨ready, rfl⟩

private theorem Sound.faithful (sound : audience.Sound) : audience.Faithful := by
  have index := sound.newest_eq
  obtain ⟨earlier, published, counted⟩ := sound.history
  have held : ∀ reader ∈ audience.readers,
      reader.Sound (earlier ++ [audience.source.store.snapshot]) := by
    intro reader member
    rw [← published]
    exact sound.readers reader member
  refine ⟨sound.first, sound.newest?, ?_, ?_, ?_, ?_, ?_, ?_, ?_, ?_⟩
  · intro reader member question snapshot told
    obtain ⟨after, asked⟩ := Reader.asked_of_answer told
    exact asked.ready_eq rfl
  · intro reader member
    exact (sound.readers reader member).told
  · intro reader member
    exact (sound.readers reader member).ordered
  · intro reader member question snapshot asks again told
    rw [index]
    exact (held reader member).fresh counted asks again told
  · intro reader member watcher watches
    rw [index]
    exact ((held reader member).waits counted watches).1
  · intro reader member watcher watches
    rw [index]
    exact ((held reader member).waits counted watches).2
  · intro reader member feed feeds unopened
    exact (held reader member).opens feeds unopened
  · intro reader member
    have told := (sound.readers reader member).told
    refine (sound.readers reader member).ordered.imp_of_mem ?_
    intro before after member' member'' ordered snapshot later answer answer'
    exact sound.stays ordered (told before member' snapshot answer) (told after member'' later answer')

structure AgreeBut (handle : Nat) (first second : Audience) : Prop where
  source : first.source = second.source
  published : first.published = second.published
  size : first.readers.length = second.readers.length
  others : ∀ other, other ≠ handle → first.readers[other]? = second.readers[other]?

variable {handle : Nat} {second : Audience}

private theorem AgreeBut.newest (agree : AgreeBut handle audience second) :
    audience.newest = second.newest := by
  simp [Audience.newest, agree.published]

private theorem AgreeBut.change (agree : AgreeBut handle audience second) (changed : Nat)
    (f : Reader → Reader) : AgreeBut handle (audience.change changed f) (second.change changed f) where
  source := agree.source
  published := agree.published
  size := by simp [Audience.change, agree.size]
  others other different := by
    simp only [Audience.change, List.getElem?_modify, agree.others other different]

private theorem AgreeBut.act (agree : AgreeBut handle audience second) (action : Action) :
    AgreeBut handle (audience.act action) (second.act action) := by
  have newest := agree.newest
  have source := agree.source
  cases action with
  | command issued =>
    simp only [Audience.act, Audience.perform, source]
    split
    · exact agree
    · exact ⟨rfl, by simp [agree.published], agree.size, agree.others⟩
  | dropStore => exact ⟨by simp [Audience.act, source], agree.published, agree.size, agree.others⟩
  | subscribe =>
    simp only [Audience.act, Audience.subscribe, source, newest]
    split
    · exact agree
    · refine ⟨rfl, agree.published, by simp [agree.size], ?_⟩
      intro other different
      simp only [List.getElem?_append, agree.size, agree.others other different]
  | toFeed changed => exact agree.change changed _
  | ask asked question =>
    simp only [Audience.act, source, newest]
    exact agree.change asked _

private theorem AgreeBut.after (agree : AgreeBut handle audience second) (actions : List Action) :
    AgreeBut handle (audience.after actions) (second.after actions) := by
  induction actions generalizing audience second with
  | nil => exact agree
  | cons action rest ih => exact ih (agree.act action)

private theorem agreeBut_ask (audience : Audience) (handle : Nat) (question : Question) :
    AgreeBut handle audience (audience.act (.ask handle question)) where
  source := rfl
  published := rfl
  size := by simp [Audience.act, Audience.change]
  others other different := by
    simp [Audience.act, Audience.change, Ne.symm different]

/-- Commands, subscriptions and questions in any order, and the end of the store at any moment: every
subscription observes the history faithfully, and what one is asked makes no difference to what any
other one is ever told. -/
theorem observes_history (actions : List Action) :
    (new.after actions).Faithful ∧
    ∀ earlier later handle question, actions = earlier ++ .ask handle question :: later →
      ∀ other, other ≠ handle →
        (new.after (earlier ++ later)).readers[other]? = (new.after actions).readers[other]? := by
  refine ⟨(sound_new.after actions).faithful, ?_⟩
  rintro earlier later handle question rfl other different
  rw [after_append, after_append, after_cons]
  exact ((agreeBut_ask _ handle question).after later).others other different

end Audience

end InterfaceSync
