import Mathlib
import ComputeBench.Proofs.Walk.Refinement

namespace ComputeBench

variable {records : Array Record} {step : Nat}

namespace Cursor

def place (records : Array Record) (step : Nat) : Cursor where
  record := .ofNat (Walk.position records step)
  lane := step % recordSize
  count := .ofNat records.size

variable {cursor : Cursor}

theorem At.eq_place (there : cursor.At records step) : cursor = place records step := by
  cases cursor with
  | mk record lane count =>
      rw [place, ← there.record, ← there.lane, ← there.count]
      simp only [UInt64.ofNat_toNat]

theorem place_at (walkable : Walkable records) (step : Nat) :
    (place records step).At records step := by
  have room : records.size < UInt64.size := walkable.room.trans_lt (by decide)
  have inside := (Walk.position_lt walkable.nonempty step).trans room
  exact ⟨UInt64.toNat_ofNat_of_lt' inside, rfl, UInt64.toNat_ofNat_of_lt' room⟩

theorem follow_place (walkable : Walkable records) (steps step : Nat) :
    follow records steps (place records step) =
      .ok ((List.range' step (steps + 1)).map (place records)) := by
  induction steps generalizing step with
  | zero => rfl
  | succ steps ih =>
      have there := place_at walkable step
      obtain ⟨current, present⟩ := Walk.exists_current walkable.nonempty step
      obtain ⟨next, advanced, arrived⟩ := there.advance walkable present
      rw [arrived.eq_place] at advanced
      rw [follow, itemAt, there.record, present]
      simp only [ok_bind, advanced, ih]
      rfl

end Cursor

/-- A path holds the cursors of the walk after no step, after one, and so on to the last. -/
theorem Walker.cursors_of_follow {walker : Walker} {steps : Nat} {path : List Cursor}
    (followed : Cursor.follow records steps walker.cursor = .ok path) :
    path.length = steps + 1 ∧ ∀ step ≤ steps, ∃ reached,
      run records step walker = .ok reached ∧ path[step]? = some reached.cursor := by
  induction steps generalizing walker path with
  | zero =>
      cases followed
      refine ⟨rfl, fun step within => ?_⟩
      obtain rfl := Nat.le_zero.mp within
      exact ⟨walker, rfl, rfl⟩
  | succ steps ih =>
      obtain ⟨current, read, advances⟩ := bind_eq_ok.mp followed
      obtain ⟨next, advanced, follows⟩ := bind_eq_ok.mp advances
      obtain ⟨rest, later, same⟩ := bind_eq_ok.mp follows
      cases same
      have stepped : walker.step records = .ok ⟨next, walker.tally.addRecord current⟩ := by
        rw [step, read, ok_bind, advanced]
        rfl
      obtain ⟨length, cursors⟩ := @ih ⟨next, walker.tally.addRecord current⟩ _ later
      refine ⟨congrArg Nat.succ length, fun step within => ?_⟩
      cases step with
      | zero => exact ⟨walker, rfl, rfl⟩
      | succ step =>
          obtain ⟨reached, ran, cursor⟩ := cursors step (Nat.le_of_succ_le_succ within)
          exact ⟨reached, by rwa [run, stepped, ok_bind], cursor⟩

namespace Walk

def samplesUnder (records : Array Record) (cursors : List Cursor) : List Int :=
  cursors.flatMap fun cursor => samplesAt records cursor.record.toNat

theorem samplesUnder_places (walkable : Walkable records) (steps : Nat) :
    samplesUnder records ((List.range steps).map (Cursor.place records)) =
      samples records steps := by
  rw [samplesUnder, List.flatMap_map]
  simp only [(Cursor.place_at walkable _).record]
  rfl

/-- What there is to see of a walk: the samples under its cursor at the start of each step, and the
tally it answers with. -/
structure Observed (iterations count : UInt64) (records : Array Record) (read : List Int)
    (tally : Tally) : Prop where
  path : ∃ first path, Cursor.start count = .ok first ∧
    Cursor.follow records iterations.toNat first = .ok path ∧
      read = samplesUnder records path.dropLast
  answer : walk iterations count records = .ok tally

/-- What is read is read under the cursor of the walk that answers. -/
theorem Observed.reached {iterations count : UInt64} {read : List Int} {tally : Tally}
    (observed : Observed iterations count records read tally) :
    ∃ path : List Cursor, read = samplesUnder records path.dropLast ∧
      path.length = iterations.toNat + 1 ∧ ∀ step ≤ iterations.toNat, ∃ walker : Walker,
        walker.Reached count records step ∧ path[step]? = some walker.cursor := by
  obtain ⟨first, path, started, followed, read⟩ := observed.path
  obtain ⟨length, cursors⟩ := @Walker.cursors_of_follow _ ⟨first, .empty⟩ _ _ followed
  refine ⟨path, read, length, fun step within => ?_⟩
  obtain ⟨walker, ran, cursor⟩ := cursors step within
  exact ⟨walker, ⟨first, started, ran⟩, cursor⟩

theorem observed_of_size (iterations : UInt64) {count : UInt64}
    (walkable : Walkable records) (whole : records.size = count.toNat) :
    ∃ tally, Observed iterations count records (samples records iterations.toNat) tally ∧
      tally.Summarizes (samples records iterations.toNat) := by
  obtain ⟨tally, ran, summary⟩ := walk_of_size iterations walkable whole
  have fresh : (⟨0, 0, count⟩ : Cursor) = Cursor.place records 0 :=
    (Walker.start_at count whole).cursor.eq_place
  have followed : Cursor.follow records iterations.toNat ⟨0, 0, count⟩ =
      .ok ((List.range (iterations.toNat + 1)).map (Cursor.place records)) := by
    rw [fresh, Cursor.follow_place walkable, List.range_eq_range']
  have under : samples records iterations.toNat = samplesUnder records
      ((List.range (iterations.toNat + 1)).map (Cursor.place records)).dropLast := by
    rw [List.range_succ, List.map_append, List.map_singleton, List.dropLast_concat,
      samplesUnder_places walkable]
  have start := Cursor.start_of_size walkable whole
  exact ⟨tally, ⟨⟨_, _, start, followed, under⟩, ran⟩, summary⟩

end Walk

end ComputeBench
