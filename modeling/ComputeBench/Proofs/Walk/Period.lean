import Mathlib
import ComputeBench.Proofs.Walk.Path
import ComputeBench.Proofs.Walk.Samples

namespace ComputeBench

namespace Walk

variable {records : Array Record} {lead period step : Nat}

theorem jump_add_lanes (records : Array Record) (index step rounds : Nat) :
    jump records index (step + 16 * rounds) = jump records index step := by
  simp only [jump, recordSize, Nat.add_mul_mod_self_left]

/-- After `lead` rounds of the lanes the exact walk is at a record to which it returns in `period`
more rounds. -/
structure Returns (records : Array Record) (lead period : Nat) : Prop where
  positive : 1 ≤ period
  within : lead + period ≤ records.size
  again : position records (16 * lead + 16 * period) = position records (16 * lead)

/-- Two stops in the first lane at one record, among the first that outnumber the records. -/
theorem exists_returns (nonempty : 0 < records.size) :
    ∃ lead period, Returns records lead period := by
  obtain ⟨first, second, apart, same⟩ := Fintype.exists_ne_map_eq_of_card_lt
    (fun round : Fin (records.size + 1) =>
      (⟨position records (16 * round), position_lt nonempty _⟩ : Fin records.size))
    (by simp)
  -- of two stops at one record the earlier ends the lead
  wlog before : first < second generalizing first second
  · exact this second first apart.symm same.symm (lt_of_le_of_ne (not_lt.mp before) apart.symm)
  refine ⟨first, second - first, Nat.sub_pos_of_lt before, ?_, ?_⟩
  · have last := second.isLt
    have order : first.val < second.val := before
    omega
  · rw [← Nat.mul_add, Nat.add_sub_cancel' (Fin.le_of_lt before)]
    exact (congrArg Fin.val same).symm

theorem Returns.position_eq (returns : Returns records lead period) (later : 16 * lead ≤ step) :
    position records (step + 16 * period) = position records step := by
  induction step, later using Nat.le_induction with
  | base => exact returns.again
  | succ step later ih =>
      rw [Nat.add_right_comm, position, position, ih, jump_add_lanes]

theorem Returns.place_eq (returns : Returns records lead period) (later : 16 * lead ≤ step) :
    Cursor.place records (step + 16 * period) = Cursor.place records step := by
  rw [Cursor.place, Cursor.place, returns.position_eq later, recordSize,
    Nat.add_mul_mod_self_left]

def gain (records : Array Record) (step period : Nat) : Int :=
  (samples records (step + 16 * period)).sum - (samples records step).sum

theorem Returns.gain_eq (returns : Returns records lead period) (later : 16 * lead ≤ step) :
    gain records step period = gain records (16 * lead) period := by
  induction step, later using Nat.le_induction with
  | base => rfl
  | succ step later ih =>
      rw [← ih, gain, gain, Nat.add_right_comm, samples_succ, samples_succ, List.sum_append,
        List.sum_append, returns.position_eq later]
      ring

theorem Returns.exists_reached (returns : Returns records lead period)
    (walkable : Walkable records) {count : UInt64} (whole : records.size = count.toNat)
    (later : 16 * lead ≤ step) :
    ∃ early late : Walker, early.Reached count records step ∧
      late.Reached count records (step + 16 * period) ∧ late.cursor = early.cursor ∧
        late.tally.sum = early.tally.sum + .ofInt (gain records (16 * lead) period) := by
  obtain ⟨early, reached, before⟩ := Walker.exists_reached walkable whole step
  obtain ⟨late, reachedLate, after⟩ :=
    Walker.exists_reached walkable whole (step + 16 * period)
  refine ⟨early, late, reached, reachedLate, ?_, ?_⟩
  · rw [before.cursor.eq_place, after.cursor.eq_place, returns.place_eq later]
  · rw [before.tally.sum_eq_add after.tally, ← returns.gain_eq later]
    rfl

theorem Returns.exists_early (returns : Returns records lead period) (step : Nat) :
    ∃ early < 16 * (lead + period), position records early = position records step := by
  have positive := returns.positive
  induction step using Nat.strong_induction_on with
  | h step ih =>
      by_cases late : 16 * (lead + period) ≤ step
      · -- one period earlier the walk was at the same record, still no earlier than the lead
        obtain ⟨before, rfl⟩ : ∃ before, step = before + 16 * period :=
          Nat.exists_eq_add_of_le' (by omega)
        obtain ⟨early, inside, same⟩ := ih before (by omega)
        exact ⟨early, inside, same.trans (returns.position_eq (by omega)).symm⟩
      · exact ⟨step, not_le.mp late, rfl⟩

theorem mem_samples_iff {iterations : Nat} {sample : Int} :
    sample ∈ samples records iterations ↔
      ∃ step < iterations, sample ∈ samplesAt records (position records step) := by
  simp only [samples, List.mem_flatMap, List.mem_range]

theorem mem_samples_settled (nonempty : 0 < records.size) {iterations : Nat}
    (enough : 16 * records.size ≤ iterations) {sample : Int} :
    sample ∈ samples records iterations ↔ sample ∈ samples records (16 * records.size) := by
  obtain ⟨lead, period, returns⟩ := exists_returns nonempty
  rw [mem_samples_iff, mem_samples_iff]
  constructor
  · rintro ⟨step, -, read⟩
    obtain ⟨early, inside, same⟩ := returns.exists_early step
    have within := returns.within
    exact ⟨early, by omega, same ▸ read⟩
  · rintro ⟨step, inside, read⟩
    exact ⟨step, inside.trans_le enough, read⟩

/-- Walks that have both made sixteen steps for each record have read the same samples. -/
theorem extremes_settled {tally final : Tally} {iterations : Nat} (nonempty : 0 < records.size)
    (enough : 16 * records.size ≤ iterations)
    (summary : tally.Summarizes (samples records iterations))
    (base : final.Summarizes (samples records (16 * records.size))) :
    tally.least = final.least ∧ tally.greatest = final.greatest := by
  have same : {sample | sample ∈ samples records iterations} =
      {sample | sample ∈ samples records (16 * records.size)} := by
    ext sample
    exact mem_samples_settled nonempty enough
  have least := isLeast_of_summarizes nonempty (by omega) summary
  have greatest := isGreatest_of_summarizes nonempty (by omega) summary
  rw [same] at least greatest
  refine ⟨Int64.toInt_inj.mp ?_, Int64.toInt_inj.mp ?_⟩
  · exact least.unique (isLeast_of_summarizes nonempty (by omega) base)
  · exact greatest.unique (isGreatest_of_summarizes nonempty (by omega) base)

end Walk

/-- After a lead of some rounds of the lanes the cursor recurs with a period of some rounds, both
together no more than there are records, and every period adds the same to the sum. The extremes are
settled once there have been sixteen steps for each record. -/
theorem walk_eventually_periodic (records : Array Record) (count : UInt64)
    (nonempty : 0 < records.size) (fits : records.size ≤ maxAllocation / recordSize)
    (whole : records.size = count.toNat) :
    (∃ lead period, ∃ constant : Int64, 1 ≤ period ∧ lead + period ≤ records.size ∧
      ∀ step, 16 * lead ≤ step → step + 16 * period < 2 ^ 64 →
        ∃ early late : Walker, early.Reached count records step ∧
          late.Reached count records (step + 16 * period) ∧ late.cursor = early.cursor ∧
          walk (.ofNat step) count records = .ok early.tally ∧
          walk (.ofNat (step + 16 * period)) count records = .ok late.tally ∧
          late.tally.sum = early.tally.sum + constant) ∧
    ∀ iterations : UInt64, 16 * records.size ≤ iterations.toNat →
      ∃ tally final, walk iterations count records = .ok tally ∧
        walk (.ofNat (16 * records.size)) count records = .ok final ∧
          tally.least = final.least ∧ tally.greatest = final.greatest := by
  have walkable : Walkable records := .of_fits nonempty fits
  have word {steps : Nat} (short : steps < 2 ^ 64) : (UInt64.ofNat steps).toNat = steps :=
    UInt64.toNat_ofNat_of_lt' short
  constructor
  · obtain ⟨lead, period, returns⟩ := Walk.exists_returns nonempty
    refine ⟨lead, period, .ofInt (Walk.gain records (16 * lead) period), returns.positive,
      returns.within, ?_⟩
    intro step later short
    obtain ⟨early, late, reached, reachedLate, cursor, sum⟩ :=
      returns.exists_reached walkable whole later
    refine ⟨early, late, reached, reachedLate, cursor, ?_, ?_, sum⟩
    · exact Walker.Reached.answer (by rwa [word (by omega)]) whole
    · exact Walker.Reached.answer (by rwa [word short]) whole
  · intro iterations enough
    obtain ⟨tally, ran, summary⟩ := walk_of_size iterations walkable whole
    obtain ⟨final, stopped, base⟩ :=
      walk_of_size (.ofNat (16 * records.size)) walkable whole
    rw [word (enough.trans_lt iterations.toNat_lt)] at base
    exact ⟨tally, final, ran, stopped, Walk.extremes_settled nonempty enough summary base⟩

theorem walk_eventually_periodic_last_count :
    0 < #[Record.sample, .zero].size ∧
      #[Record.sample, .zero].size ≤ maxAllocation / recordSize ∧
      #[Record.sample, .zero].size = (2 : UInt64).toNat ∧
      (∃ lead period, 1 ≤ period ∧ lead + period ≤ 2 ∧ ∃ early late : Walker,
        early.Reached 2 #[.sample, .zero] 32 ∧
          late.Reached 2 #[.sample, .zero] (32 + 16 * period) ∧ late.cursor = early.cursor) ∧
      ∃ tally, walk 0xffffffffffffffff 2 #[.sample, .zero] = .ok tally ∧
        tally.least.toInt = -120 ∧ tally.greatest.toInt = 113 := by
  obtain ⟨⟨lead, period, constant, positive, inside, again⟩, settled⟩ :=
    walk_eventually_periodic #[.sample, .zero] 2 (by decide) (by decide) (by decide)
  have few : lead + period ≤ 2 := inside
  refine ⟨by decide, by decide, by decide, ⟨lead, period, positive, few, ?_⟩, ?_⟩
  · obtain ⟨early, late, reached, reachedLate, cursor, -⟩ := again 32 (by omega) (by omega)
    exact ⟨early, late, reached, reachedLate, cursor⟩
  · obtain ⟨tally, final, ran, stopped, least, greatest⟩ :=
      settled 0xffffffffffffffff (by decide)
    obtain ⟨base, reached, summary⟩ : ∃ base, walk 32 2 #[.sample, .zero] = .ok base ∧
        base.Summarizes (Walk.samples #[.sample, .zero] 32) :=
      walk_of_size 32 ⟨by decide, by decide⟩ (by decide)
    cases stopped.symm.trans reached
    refine ⟨tally, ran, ?_, ?_⟩
    · rw [least, summary.least]
      decide +kernel
    · rw [greatest, summary.greatest]
      decide +kernel

end ComputeBench
