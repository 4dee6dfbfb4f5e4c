namespace ComputeBench

variable {α : Type}

def gatherBlocks (size : Nat) : Nat → List α → Array (List α) → Array (List α)
  | 0, _, done => done
  | count + 1, items, done =>
      gatherBlocks size count (items.drop size) (done.push (items.take size))

def blocks (size count : Nat) (items : List α) : List (List α) :=
  (gatherBlocks size count items #[]).toList

theorem toList_gatherBlocks (size count : Nat) (items : List α)
    (done : Array (List α)) :
    (gatherBlocks size count items done).toList =
      done.toList ++ blocks size count items := by
  unfold blocks
  induction count generalizing items done with
  | zero => simp [gatherBlocks]
  | succ count ih =>
      simp only [gatherBlocks]
      rw [ih, ih _ (#[].push _)]
      simp

@[simp] theorem blocks_zero (size : Nat) (items : List α) :
    blocks size 0 items = [] := rfl

@[simp] theorem blocks_succ (size count : Nat) (items : List α) :
    blocks size (count + 1) items =
      items.take size :: blocks size count (items.drop size) := by
  rw [blocks, gatherBlocks, toList_gatherBlocks]
  simp

@[simp] theorem length_blocks (size count : Nat) (items : List α) :
    (blocks size count items).length = count := by
  induction count generalizing items with
  | zero => rfl
  | succ count ih => simp [ih]

theorem flatten_blocks (size count : Nat) (items : List α)
    (whole : items.length = size * count) :
    (blocks size count items).flatten = items := by
  induction count generalizing items with
  | zero => exact (List.eq_nil_of_length_eq_zero whole).symm
  | succ count ih =>
      have rest : (items.drop size).length = size * count := by
        rw [List.length_drop, whole, Nat.mul_succ, Nat.add_sub_cancel]
      rw [blocks_succ, List.flatten_cons, ih _ rest, List.take_append_drop]

theorem blocks_flatten {size : Nat} {parts : List (List α)}
    (whole : ∀ part ∈ parts, part.length = size) :
    blocks size parts.length parts.flatten = parts := by
  induction parts with
  | nil => rfl
  | cons part rest ih =>
      have length : part.length = size := whole part List.mem_cons_self
      have tail := ih fun other member => whole other (List.mem_cons_of_mem part member)
      rw [List.length_cons, blocks_succ, List.flatten_cons, ← length,
        List.take_left, List.drop_left, length, tail]

theorem length_of_mem_blocks {size count : Nat} {items : List α}
    (whole : items.length = size * count) :
    ∀ block ∈ blocks size count items, block.length = size := by
  induction count generalizing items with
  | zero => exact fun block member => nomatch member
  | succ count ih =>
      have rest : (items.drop size).length = size * count := by
        rw [List.length_drop, whole, Nat.mul_succ, Nat.add_sub_cancel]
      intro block member
      rw [blocks_succ, List.mem_cons] at member
      rcases member with rfl | later
      · rw [List.length_take, whole, Nat.mul_succ]
        exact Nat.min_eq_left (Nat.le_add_left size _)
      · exact ih rest block later

theorem getElem?_blocks {size count index : Nat} (items : List α)
    (inside : index < count) :
    (blocks size count items)[index]? =
      some ((items.drop (size * index)).take size) := by
  induction count generalizing items index with
  | zero => cases inside
  | succ count ih =>
      rw [blocks_succ]
      cases index with
      | zero => rfl
      | succ index =>
          rw [List.getElem?_cons_succ, ih _ (Nat.lt_of_succ_lt_succ inside),
            List.drop_drop, Nat.mul_succ, Nat.add_comm]

section Codes

variable {β : Type} {encode : β → List α} {decode : List α → β} {size : Nat}

theorem length_flatMap_of_mem {values : List β}
    (length : ∀ value ∈ values, (encode value).length = size) :
    (values.flatMap encode).length = size * values.length := by
  induction values with
  | nil => rfl
  | cons value rest ih =>
      have tail := ih fun other member => length other (List.mem_cons_of_mem value member)
      rw [List.flatMap_cons, List.length_append, length value List.mem_cons_self, tail,
        List.length_cons, Nat.mul_succ, Nat.add_comm]

theorem blocks_flatMap {values : List β}
    (length : ∀ value ∈ values, (encode value).length = size) :
    blocks size values.length (values.flatMap encode) = values.map encode := by
  have whole : ∀ block ∈ values.map encode, block.length = size := by
    intro block member
    obtain ⟨value, present, rfl⟩ := List.mem_map.mp member
    exact length value present
  have cut := blocks_flatten whole
  rwa [List.length_map, ← List.flatMap_def] at cut

theorem map_blocks_flatMap (length : ∀ value, (encode value).length = size)
    (back : ∀ value, decode (encode value) = value) (values : List β) :
    (blocks size values.length (values.flatMap encode)).map decode = values := by
  have undone : decode ∘ encode = id := funext back
  rw [blocks_flatMap fun value _ => length value, List.map_map, undone, List.map_id]

theorem flatMap_map_blocks {count : Nat} {items : List α}
    (whole : items.length = size * count)
    (back : ∀ block, block.length = size → encode (decode block) = block) :
    ((blocks size count items).map decode).flatMap encode = items := by
  have undone : ∀ block ∈ blocks size count items,
      (encode ∘ decode) block = id block := fun block member =>
    back block (length_of_mem_blocks whole block member)
  rw [List.flatMap_def, List.map_map, List.map_congr_left undone, List.map_id,
    flatten_blocks size count items whole]

end Codes

end ComputeBench
