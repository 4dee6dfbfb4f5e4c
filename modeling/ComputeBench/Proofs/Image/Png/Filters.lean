import Mathlib
import ComputeBench.Image.Png.Encoding
import ComputeBench.Image.Png.Filter

namespace ComputeBench.Png

theorem argmin_three {α : Type} (rank : α → Nat) (first second third : α) :
    [first, second, third].argmin rank =
      some (if rank first ≤ rank second ∧ rank first ≤ rank third then first
        else if rank second ≤ rank third then second else third) := by
  simp only [List.argmin_cons, List.argmin_nil]
  by_cases later : rank third < rank second
  · simp only [if_pos later, not_le.mpr later, if_false]
    by_cases far : rank third < rank first
    · simp [far, not_le.mpr far]
    · simp [far, not_lt.mp far, (not_lt.mp far).trans later.le]
  · simp only [if_neg later, not_lt.mp later, if_true]
    by_cases far : rank second < rank first
    · simp [far, not_le.mpr far]
    · simp [far, not_lt.mp far, (not_lt.mp far).trans (not_lt.mp later)]

theorem paeth_eq_argmin (left above corner : UInt8) :
    paeth left above corner =
      ([left, above, corner].argmin (Filter.distance left above corner)).getD 0 := by
  rw [argmin_three]
  rfl

theorem predict_number (filter : Filter) (left above corner : UInt8) :
    predict filter.number.toNat left above corner =
      some (filter.prediction left above corner) := by
  cases filter with
  | none | sub | up | average => rfl
  | paeth => exact congrArg some (paeth_eq_argmin left above corner)

def window (size : Nat) (source : Nat → UInt8) : Bytes :=
  (List.range size).map source

theorem headD_window {size : Nat} (positive : 0 < size) (source : Nat → UInt8) :
    (window size source).headD 0 = source 0 := by
  cases size with
  | zero => cases positive
  | succ size => rw [window, List.range_succ_eq_map]; rfl

theorem tail_window_concat {size : Nat} (positive : 0 < size) (source : Nat → UInt8) :
    (window size source).tail ++ [source size] =
      window size fun place => source (place + 1) := by
  cases size with
  | zero => cases positive
  | succ size =>
      rw [window, window, List.range_succ_eq_map, List.map_cons, List.tail_cons, List.map_map,
        ← List.range_succ_eq_map, List.range_succ, List.map_append]
      rfl

theorem window_toLeft (pixelSize : Nat) (line : Bytes) :
    window pixelSize (toLeft pixelSize line) = List.replicate pixelSize 0 := by
  apply List.eq_replicate_iff.mpr
  constructor
  · rw [window, List.length_map, List.length_range]
  · intro byte member
    obtain ⟨place, inside, rfl⟩ := List.mem_map.mp member
    exact if_pos (List.mem_range.mp inside)

theorem toLeft_add (pixelSize : Nat) (line : Bytes) (place : Nat) :
    toLeft pixelSize line (pixelSize + place) = line.getD place 0 := by
  rw [toLeft, if_neg (by omega), Nat.add_sub_cancel_left]

/-- A line is restored byte by byte if the sources of what the reader keeps run into the line and
into the line above. -/
theorem restore_filtered (filter : Filter) {pixelSize : Nat} (positive : 0 < pixelSize)
    {lefts corners : Nat → UInt8} {line aboves : Bytes}
    (onLine : ∀ place, lefts (pixelSize + place) = line.getD place 0)
    (onAbove : ∀ place, corners (pixelSize + place) = aboves.getD place 0) (done : Bytes) :
    restore filter.number.toNat
        (line.mapIdx fun place byte =>
          byte - filter.prediction (lefts place) (aboves.getD place 0) (corners place))
        aboves (window pixelSize lefts) (window pixelSize corners) done =
      some (done.reverse ++ line) := by
  induction line generalizing lefts corners aboves done with
  | nil => simp [restore]
  | cons byte line ih =>
      have above : aboves.headD 0 = aboves.getD 0 0 := by cases aboves <;> rfl
      have tail : ∀ place, aboves.tail.getD place 0 = aboves.getD (place + 1) 0 := by
        cases aboves <;> exact fun _ => rfl
      -- both windows move on by one byte, into the line and into the line above
      have left : lefts pixelSize = byte := onLine 0
      have corner : corners pixelSize = aboves.getD 0 0 := onAbove 0
      have back := UInt8.sub_add_cancel byte
        (filter.prediction (lefts 0) (aboves.getD 0 0) (corners 0))
      have onLater : ∀ place, lefts (pixelSize + place + 1) = line.getD place 0 :=
        fun place => onLine (place + 1)
      have onTail : ∀ place, corners (pixelSize + place + 1) = aboves.tail.getD place 0 :=
        fun place => (onAbove (place + 1)).trans (tail place).symm
      have rest := @ih (fun place => lefts (place + 1)) (fun place => corners (place + 1))
        aboves.tail onLater onTail (byte :: done)
      rw [← tail_window_concat positive, ← tail_window_concat positive, left, corner] at rest
      simp only [tail] at rest
      simp only [List.mapIdx_cons, restore, headD_window positive, predict_number, above, back,
        rest]
      simp

theorem restoreLine_apply (filter : Filter) {pixelSize : Nat} (positive : 0 < pixelSize)
    (above line : Bytes) :
    restoreLine pixelSize above (filter.number :: filter.apply pixelSize above line) =
      some line := by
  have restored := restore_filtered filter positive (toLeft_add pixelSize line)
    (toLeft_add pixelSize above) []
  rwa [window_toLeft, window_toLeft] at restored

theorem Filtered.restoreLines {pixelSize : Nat} (positive : 0 < pixelSize) {above : Bytes}
    {lines stored : List Bytes} (filtered : Filtered pixelSize above lines stored)
    (done : Array Bytes) :
    Png.restoreLines pixelSize above stored done = some (done ++ lines) := by
  induction filtered generalizing done with
  | done above => simp [Png.restoreLines]
  | line filter above line lines stored _ ih =>
      simp [Png.restoreLines, restoreLine_apply filter positive, ih]

theorem Filtered.length_eq {pixelSize : Nat} {above : Bytes} {lines stored : List Bytes}
    (filtered : Filtered pixelSize above lines stored) : stored.length = lines.length := by
  induction filtered with
  | done above => rfl
  | line filter above line lines stored _ ih => rw [List.length_cons, List.length_cons, ih]

theorem Filtered.length_of_mem {pixelSize size : Nat} {above : Bytes} {lines stored : List Bytes}
    (filtered : Filtered pixelSize above lines stored)
    (whole : ∀ line ∈ lines, line.length = size) :
    ∀ line ∈ stored, line.length = 1 + size := by
  induction filtered with
  | done above => exact fun line member => nomatch member
  | line filter above line lines stored _ ih =>
      intro other member
      rcases List.mem_cons.mp member with rfl | later
      · rw [List.length_cons, Filter.apply, List.length_mapIdx, whole line List.mem_cons_self,
          Nat.add_comm]
      · exact ih (fun line member => whole line (List.mem_cons_of_mem _ member)) other later

end ComputeBench.Png
