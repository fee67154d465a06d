import InterfaceSync.Proofs.Audience

/-! Waiting for the end of loading, and giving up. A wait that is given up has looked at snapshots that
it did not hand out, and a watcher is not told of these as changes any more. They are snapshots before
the end of loading only: no result of a load is ever lost. -/

namespace InterfaceSync

/-- The watcher has waited in vain for the end of loading when this was the newest publication. -/
def Reader.WaitedAt (reader : Reader) (index : Nat) : Prop :=
  ∃ sighting ∈ reader.sightings, sighting.question = .settled ∧ sighting.answer = .pending ∧
    sighting.newest = index

/-- What a watcher has seen it holds, or it has waited there before the end of loading. -/
def Reader.Kept (published : List Snapshot) (reader : Reader) : Prop :=
  ∀ held, reader.subscription = .watcher held → ∃ snapshot,
    published[held.seen]? = some snapshot ∧
      (held.current = snapshot ∨ snapshot.isSettled = false ∧ reader.WaitedAt held.seen)

namespace Reader

variable {reader : Reader} {source : Source} {published : List Snapshot}

private theorem WaitedAt.sight {index : Nat} (waited : reader.WaitedAt index)
    (subscription : Subscription)
    (sighting : Sighting) : (reader.sight subscription sighting).WaitedAt index := by
  obtain ⟨earlier, member, asked⟩ := waited
  exact ⟨earlier, List.mem_append_left _ member, asked⟩

private theorem Kept.publish (kept : reader.Kept published) (more : List Snapshot) :
    reader.Kept (published ++ more) := by
  intro held watches
  obtain ⟨snapshot, found, rest⟩ := kept held watches
  have inside := (List.getElem?_eq_some_iff.mp found).1
  exact ⟨snapshot, by rw [List.getElem?_append_left inside, found], rest⟩

private theorem kept_toFeed (published : List Snapshot) (reader : Reader) : reader.toFeed.Kept
    published := by
  intro held watches
  cases before : reader.subscription <;> simp [toFeed, Subscription.toFeed, before] at watches

private theorem Kept.ask {newest : Nat} (kept : reader.Kept published) (alive : source.gone = false)
    (counted : newest = source.store.version)
    (present : published[newest]? = some source.store.snapshot) (question : Question) :
    (reader.ask source newest question).Kept published := by
  subst counted
  rcases reader.ask_cases source source.store.version question with
    same | ⟨answer, subscription, asked, same⟩
  · rw [same]
    exact kept
  rw [same]
  intro held watches
  cases watches
  generalize before : reader.subscription = subscription at asked
  cases asked with
  | changed | settled => exact ⟨_, present, .inl rfl⟩
  | unchanged seen =>
    obtain ⟨snapshot, found, rest⟩ := kept held before
    exact ⟨snapshot, found, rest.imp id fun ⟨unsettled, waited⟩ => ⟨unsettled, waited.sight _ _⟩⟩
  | unsettled under_way =>
    have pending : source.rest = .pending := by simp [Source.rest, alive]
    exact ⟨_, present, .inr ⟨under_way, _, List.mem_append_right _ (List.mem_singleton_self _), rfl,
      pending, rfl⟩⟩

end Reader

namespace Audience

variable {audience : Audience}

private theorem kept_act (sound : audience.Sound) (action : Action)
    (kept : audience.source.gone = false → ∀ reader ∈ audience.readers, reader.Kept audience.published)
    (alive : (audience.act action).source.gone = false) :
    ∀ reader ∈ (audience.act action).readers, reader.Kept (audience.act action).published := by
  cases action with
  | command issued =>
    intro reader member
    simp only [Audience.act] at alive member ⊢
    split at alive
    next gone => cases gone.symm.trans alive
    next lives =>
      simp only [lives] at member ⊢
      have before := kept alive reader member
      simp only [Audience.perform, Bool.false_eq_true, if_false]
      split
      · exact before
      · exact before.publish _
  | dropStore => cases alive
  | subscribe =>
    simp only [Audience.act] at alive ⊢
    split at alive
    next gone => cases gone.symm.trans alive
    next lives =>
      intro reader member
      simp only [lives, Bool.false_eq_true, if_false] at member ⊢
      rcases List.mem_append.mp member with old | fresh
      · exact kept alive reader old
      · intro held watches
        rw [List.mem_singleton.mp fresh] at watches
        cases watches
        have newest := sound.newest?
        rw [sound.newest_eq] at newest
        exact ⟨_, newest, .inl rfl⟩
  | toFeed handle =>
    intro reader member
    rcases mem_change member with old | ⟨old, stored, rfl⟩
    · exact kept alive reader old
    · exact Reader.kept_toFeed _ old
  | ask handle question =>
    intro reader member
    rcases mem_change member with old | ⟨old, stored, rfl⟩
    · exact kept alive reader old
    · exact (kept alive old stored).ask alive sound.newest_eq sound.newest? question

private theorem kept_after (sound : audience.Sound) (actions : List Action)
    (kept : audience.source.gone = false → ∀ reader ∈ audience.readers, reader.Kept audience.published)
    (alive : (audience.after actions).source.gone = false) :
    ∀ reader ∈ (audience.after actions).readers, reader.Kept (audience.after actions).published := by
  induction actions generalizing audience with
  | nil => exact kept alive
  | cons action rest ih =>
    exact ih (sound.act action) (fun still => kept_act sound action kept still) alive

/-- A watcher of a living store that is told to wait for a change holds the newest snapshot, unless it
has waited there for the end of loading; so a wait that was given up hides neither a success nor a
failure from it. -/
theorem pending_current (actions : List Action) :
    let audience := new.after actions
    audience.source.gone = false → ∀ reader ∈ audience.readers, ∀ watcher,
      reader.subscription = .watcher watcher →
      reader.answer audience.source .changed = some .pending →
      watcher.current = audience.source.store.snapshot ∨
        audience.source.store.snapshot.isSettled = false ∧ reader.WaitedAt audience.newest := by
  intro audience alive reader member watcher watches pending
  have sound : audience.Sound := sound_new.after actions
  have seen : watcher.seen = audience.newest := by
    simp only [Reader.answer, watches, Subscription.ask, Watcher.changed] at pending
    split at pending
    next seen => exact seen.trans sound.newest_eq.symm
    next => cases pending
  have nobody : new.source.gone = false → ∀ reader ∈ new.readers, reader.Kept new.published :=
    fun _ _ impossible => by cases impossible
  obtain ⟨snapshot, found, held⟩ := kept_after sound_new actions nobody alive reader member watcher watches
  have newest : snapshot = audience.source.store.snapshot := by
    rw [seen] at found
    exact Option.some.inj (found.symm.trans sound.newest?)
  rw [newest, seen] at held
  exact held

def resumedWait : List Action :=
  [.subscribe, .command .startLoad, .ask 0 .settled, .command (.publish ⟨["eth0"], .empty⟩ 7),
    .ask 0 .changed]

theorem pending_current_resumedWait :
    let audience := new.after resumedWait
    ∃ reader ∈ audience.readers, ∃ watcher, audience.source.gone = false ∧
      reader.subscription = .watcher watcher ∧
      reader.answer audience.source .changed = some .pending ∧
      (watcher.current = audience.source.store.snapshot ∨
        audience.source.store.snapshot.isSettled = false ∧ reader.WaitedAt audience.newest) := by
  intro audience
  have held := pending_current resumedWait rfl _ (List.mem_singleton_self _) _ rfl rfl
  exact ⟨_, List.mem_singleton_self _, _, rfl, rfl, rfl, held⟩

/-- A wait is given up while a load is under way; the watcher is never told that the load began. -/
theorem abandonedWait_hides :
    let audience := new.after [.subscribe, .command .startLoad, .ask 0 .settled]
    ∃ reader ∈ audience.readers, ∃ watcher, audience.source.gone = false ∧
      reader.subscription = .watcher watcher ∧
      reader.answer audience.source .changed = some .pending ∧
      watcher.current.same audience.source.store.snapshot = false := by
  exact ⟨_, List.mem_singleton_self _, _, rfl, rfl, rfl, rfl⟩

end Audience

end InterfaceSync
