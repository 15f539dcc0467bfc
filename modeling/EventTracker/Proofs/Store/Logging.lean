import EventTracker.Proofs.Store.Basic
import EventTracker.Store.Composition

/-!
# The log decides nothing

What a store has logged so far has no bearing on what an operation does: from another log
it comes to the same store and the same result, with another log.
-/

namespace EventTracker

theorem Disk.exists_set_withLog (d : Disk) (log : List LogRecord) (key value : Value) :
    ∃ log', ({ d with log } : Disk).set key value =
      ({ (d.set key value).1 with log := log' }, (d.set key value).2) := by
  obtain ⟨storage, files, logged⟩ := d
  unfold Disk.set
  cases storage with
  | memory items off writes =>
    simp only
    split
    · exact ⟨_, rfl⟩
    · split <;> exact ⟨_, rfl⟩
  | folder folder =>
    simp only
    split
    · exact ⟨_, rfl⟩
    · split
      case isFalse => exact ⟨_, rfl⟩
      case isTrue =>
        unfold Disk.writeFile
        simp only
        split
        · exact ⟨_, rfl⟩
        · split
          · exact ⟨_, rfl⟩
          · split
            · exact ⟨_, rfl⟩
            · split
              · exact ⟨_, rfl⟩
              · split <;> exact ⟨_, rfl⟩
            · exact ⟨_, rfl⟩

namespace Store

theorem exists_save_withLog (s : Store) (log : List LogRecord) :
    ∃ log', ({ s with log } : Store).save = { s.save with log := log' } := by
  unfold save
  simp only
  split
  · exact ⟨_, rfl⟩
  case h_2 text _ =>
    obtain ⟨log', same⟩ := s.toDisk.exists_set_withLog log s.name (.str text)
    rw [same]
    obtain ⟨disk, fault⟩ := s.set s.name (.str text)
    cases fault <;> exact ⟨_, rfl⟩

theorem exists_registerEntries_withLog (s : Store) (log : List LogRecord)
    (entries : List (String × Value)) :
    ∃ log', ({ s with log } : Store).registerEntries entries =
      { s.registerEntries entries with log := log' } := by
  unfold registerEntries
  exact exists_save_withLog { s with props := _ } log

theorem exists_identify_withLog (s : Store) (log : List LogRecord) (id : Value) :
    ∃ log', ({ s with log } : Store).identify id =
      ({ (s.identify id).1 with log := log' }, (s.identify id).2) := by
  unfold identify
  split
  case h_1 text =>
    split
    · exact ⟨_, rfl⟩
    · obtain ⟨log', same⟩ := s.exists_registerEntries_withLog log
        [(distinctIdKey, .str text), (userIdKey, .str text)]
      exact ⟨log', Prod.ext same rfl⟩
  · exact ⟨_, rfl⟩

theorem compose_withLog (s : Store) (log : List LogRecord) (token : Text)
    (environment : Option Environment) (event properties : Value) :
    ({ s with log } : Store).compose token environment event properties =
      ({ (s.compose token environment event properties).1 with log },
        (s.compose token environment event properties).2) := by
  unfold compose composeFor
  simp only [baseLayers, distinctId]
  split
  · rfl
  · split <;> rfl

end Store

end EventTracker
