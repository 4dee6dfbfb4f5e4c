import Mathlib
import ComputeBench.Bytes.Blocks
import ComputeBench.Capacity

namespace ComputeBench

variable {α β : Type}

theorem size_overwrite (buffer : Array α) (place : Nat) (items : List α) :
    (overwrite buffer place items).size = buffer.size := by
  induction items generalizing buffer place with
  | nil => rfl
  | cons item rest ih => rw [overwrite, ih, Array.size_setIfInBounds]

theorem getElem?_overwrite_of_lt {buffer : Array α} {place other : Nat}
    (before : other < place) (items : List α) :
    (overwrite buffer place items)[other]? = buffer[other]? := by
  induction items generalizing buffer place with
  | nil => rfl
  | cons item rest ih =>
      rw [overwrite, ih (by omega), Array.getElem?_setIfInBounds_ne (by omega)]

theorem getElem?_overwrite_of_le {buffer : Array α} {place other : Nat}
    {items : List α} (after : place + items.length ≤ other) :
    (overwrite buffer place items)[other]? = buffer[other]? := by
  induction items generalizing buffer place with
  | nil => rfl
  | cons item rest ih =>
      rw [List.length_cons] at after
      rw [overwrite, ih (by omega), Array.getElem?_setIfInBounds_ne (by omega)]

theorem getElem?_overwrite_add {buffer : Array α} {place offset : Nat}
    {items : List α} (inside : offset < items.length)
    (fits : place + items.length ≤ buffer.size) :
    (overwrite buffer place items)[place + offset]? = items[offset]? := by
  induction items generalizing buffer place offset with
  | nil => cases inside
  | cons item rest ih =>
      rw [List.length_cons] at inside fits
      cases offset with
      | zero =>
          have room : place < buffer.size := by omega
          rw [Nat.add_zero, overwrite, getElem?_overwrite_of_lt (by omega),
            Array.getElem?_setIfInBounds_self_of_lt room]
          rfl
      | succ offset =>
          have written : (overwrite (buffer.setIfInBounds place item) (place + 1)
              rest)[place + 1 + offset]? = rest[offset]? := by
            apply ih
            · omega
            · rw [Array.size_setIfInBounds]
              omega
          rw [overwrite, List.getElem?_cons_succ, ← written, Nat.add_right_comm,
            Nat.add_assoc]

theorem overwrite_whole {buffer : Array α} {items : List α}
    (length : items.length = buffer.size) : overwrite buffer 0 items = items.toArray := by
  rw [← Array.toList_inj, List.toList_toArray]
  apply List.ext_getElem?
  intro place
  rw [Array.getElem?_toList]
  by_cases inside : place < items.length
  · have fits : 0 + items.length ≤ buffer.size := by omega
    have written := getElem?_overwrite_add inside fits
    rwa [Nat.zero_add] at written
  · have past := not_lt.mp inside
    rw [List.getElem?_eq_none past, Array.getElem?_eq_none_iff, size_overwrite, ← length]
    exact past

namespace Gram

def rowAt (width : Nat) (buffer : Array α) (row : Nat) : List α :=
  (buffer.extract (row * width) ((row + 1) * width)).toList

variable {width rows row : Nat} {buffer : Array α}

theorem row_end_le (inside : row < rows) (whole : buffer.size = rows * width) :
    (row + 1) * width ≤ buffer.size := by
  rw [whole]
  exact Nat.mul_le_mul_right width inside

theorem place_lt (inside : row < rows) (whole : buffer.size = rows * width)
    {column : Nat} (within : column < width) :
    row * width + column < buffer.size := by
  have fits := row_end_le inside whole
  rw [Nat.add_one_mul] at fits
  omega

theorem place_div {column : Nat} (row : Nat) (within : column < width) :
    (row * width + column) / width = row := by
  rw [Nat.mul_comm, Nat.mul_add_div (by omega), Nat.div_eq_of_lt within, Nat.add_zero]

theorem place_mod {column : Nat} (row : Nat) (within : column < width) :
    (row * width + column) % width = column := by
  rw [Nat.mul_comm, Nat.mul_add_mod, Nat.mod_eq_of_lt within]

theorem place_div_ne {place : Nat} (positive : 0 < width)
    (outside : place < row * width ∨ row * width + width ≤ place) : place / width ≠ row := by
  rintro rfl
  have lower := Nat.div_mul_le_self place width
  have upper := Nat.lt_div_mul_add (a := place) positive
  omega

theorem stretch_row (inside : row < rows) (whole : buffer.size = rows * width) :
    stretch buffer (row * width) ((row + 1) * width) =
      .ok (rowAt width buffer row) :=
  if_pos (row_end_le inside whole)

theorem length_rowAt (inside : row < rows) (whole : buffer.size = rows * width) :
    (rowAt width buffer row).length = width := by
  rw [rowAt, Array.length_toList, Array.size_extract,
    Nat.min_eq_left (row_end_le inside whole), Nat.add_one_mul, Nat.add_sub_cancel_left]

theorem getElem?_rowAt {column : Nat} (within : column < width) :
    (rowAt width buffer row)[column]? = buffer[row * width + column]? := by
  rw [rowAt, Array.getElem?_toList, Array.getElem?_extract, Nat.add_one_mul]
  split
  · rfl
  · rw [eq_comm, Array.getElem?_eq_none_iff]
    omega

theorem rowAt_eq (inside : row < rows) (whole : buffer.size = rows * width)
    {items : List α} (length : items.length = width)
    (entries : ∀ column < width, buffer[row * width + column]? = items[column]?) :
    rowAt width buffer row = items := by
  apply List.ext_getElem?
  intro column
  by_cases within : column < width
  · rw [getElem?_rowAt within, entries column within]
  · have past := not_lt.mp within
    rw [List.getElem?_eq_none ((length_rowAt inside whole).trans_le past),
      List.getElem?_eq_none (length.trans_le past)]

theorem rowAt_eq_map_getD (inside : row < rows) (whole : buffer.size = rows * width)
    (fallback : α) :
    rowAt width buffer row =
      (List.range width).map fun column => buffer.getD (row * width + column) fallback := by
  apply rowAt_eq inside whole
  · rw [List.length_map, List.length_range]
  · intro column within
    have stored := place_lt inside whole within
    rw [List.getElem?_map, List.getElem?_range within, Option.map_some,
      Array.getD_eq_getD_getElem?, Array.getElem?_eq_getElem stored, Option.getD_some]

theorem rowAt_flatMap {values : List β} {encode : β → List α} {value : β}
    (length : ∀ value ∈ values, (encode value).length = width)
    (present : values[row]? = some value) :
    rowAt width (values.flatMap encode).toArray row = encode value := by
  obtain ⟨inside, -⟩ := List.getElem?_eq_some_iff.mp present
  have cut : (blocks width values.length (values.flatMap encode))[row]? = _ :=
    getElem?_blocks _ inside
  rw [blocks_flatMap length, List.getElem?_map, present] at cut
  rw [rowAt, Array.toList_extract, List.extract_eq_take_drop, Nat.add_one_mul,
    Nat.add_sub_cancel_left, Nat.mul_comm]
  exact (Option.some.inj cut).symm

theorem blocks_eq_rows (positive : 0 < width) (whole : buffer.size = rows * width) :
    blocks width (buffer.size / width) buffer.toList =
      (List.range rows).map (rowAt width buffer) := by
  rw [whole, Nat.mul_div_cancel _ positive]
  apply List.ext_getElem?
  intro row
  by_cases inside : row < rows
  · rw [getElem?_blocks _ inside, List.getElem?_map, List.getElem?_range inside,
      Option.map_some, rowAt, Array.toList_extract, List.extract_eq_take_drop,
      Nat.add_one_mul, Nat.add_sub_cancel_left, Nat.mul_comm]
  · have past := not_lt.mp inside
    rw [List.getElem?_eq_none, List.getElem?_eq_none]
    · rwa [List.length_map, List.length_range]
    · rwa [length_blocks]

theorem rowAt_map (change : α → β) :
    rowAt width (buffer.map change) row = (rowAt width buffer row).map change := by
  rw [rowAt, rowAt, ← Array.toList_map, Array.map_extract]

theorem flatten_rowAt_take (width : Nat) (buffer : Array α) (count : Nat) :
    ((List.range count).map (rowAt width buffer)).flatten =
      buffer.toList.take (count * width) := by
  induction count with
  | zero => simp
  | succ count ih =>
      rw [List.range_succ, List.map_append, List.flatten_append, ih]
      simp [rowAt, Nat.add_one_mul, List.take_add]

theorem flatten_rowAt (whole : buffer.size = rows * width) :
    ((List.range rows).map (rowAt width buffer)).flatten = buffer.toList := by
  rw [flatten_rowAt_take, ← whole, ← Array.length_toList, List.take_length]

end Gram

end ComputeBench
