import Wristband.Bytes.Basic

/-! Cutting a list into pieces. -/

namespace Wristband

variable {α : Type} {size : Nat}

private theorem pieces_count_step (positive : 0 < size) {total : Nat} (some_ : 0 < total) :
    (total + size - 1) / size = (total - size + size - 1) / size + 1 := by
  by_cases several : size ≤ total
  · have shape : total + size - 1 = (total - size + size - 1) + size := by omega
    rw [shape, Nat.add_div_right _ positive]
  · have last : total + size - 1 = (total - 1) + size := by omega
    have nothing : total - size = 0 := by omega
    rw [last, Nat.add_div_right _ positive, nothing, Nat.div_eq_of_lt (by omega),
      Nat.div_eq_of_lt (by omega)]

private theorem length_piecesUpTo (positive : 0 < size) {bound : Nat} {items : List α}
    (enough : items.length ≤ bound) :
    (piecesUpTo size bound items).length = (items.length + size - 1) / size := by
  have none_ : (0 + size - 1) / size = 0 := Nat.div_eq_of_lt (by omega)
  induction bound generalizing items with
  | zero =>
    obtain rfl := List.eq_nil_of_length_eq_zero (Nat.le_zero.mp enough)
    exact none_.symm
  | succ bound ih =>
    cases items with
    | nil => exact none_.symm
    | cons first rest =>
      have fewer : ((first :: rest).drop size).length ≤ bound := by
        simp only [List.length_drop, List.length_cons] at *
        omega
      have some_ : 0 < (first :: rest).length := List.length_pos_iff.mpr (List.cons_ne_nil _ _)
      rw [pieces_count_step positive some_, ← List.length_drop, ← ih fewer]
      rfl

theorem length_pieces (positive : 0 < size) (items : List α) :
    (pieces size items).length = (items.length + size - 1) / size :=
  length_piecesUpTo positive (Nat.le_refl _)

/-- What holds of a list when it holds of what is left behind its first piece. -/
@[elab_as_elim]
theorem pieces_induction (positive : 0 < size) {motive : List α → Prop} (items : List α)
    (nil : motive []) (step : ∀ items, items ≠ [] → motive (items.drop size) → motive items) :
    motive items := by
  induction long : items.length using Nat.strongRecOn generalizing items with
  | _ total ih =>
    by_cases some_ : items = []
    · exact some_ ▸ nil
    · have first := List.length_pos_iff.mpr some_
      have fewer : (items.drop size).length < total := by
        rw [List.length_drop]
        omega
      exact step items some_ (ih _ fewer _ rfl)

private theorem piecesUpTo_eq (positive : 0 < size) {bound other : Nat} {items : List α}
    (enough : items.length ≤ bound) (enough_ : items.length ≤ other) :
    piecesUpTo size bound items = piecesUpTo size other items := by
  induction bound generalizing other items with
  | zero =>
    obtain rfl := List.eq_nil_of_length_eq_zero (Nat.le_zero.mp enough)
    cases other <;> rfl
  | succ bound ih =>
    cases items with
    | nil => cases other <;> rfl
    | cons first rest =>
      simp only [List.length_cons] at enough enough_
      obtain ⟨other, rfl⟩ := Nat.exists_eq_succ_of_ne_zero (n := other) (by omega)
      have fewer : ((first :: rest).drop size).length ≤ rest.length := by
        simp only [List.length_drop, List.length_cons]
        omega
      change _ :: piecesUpTo size bound _ = _ :: piecesUpTo size other _
      rw [ih (by omega) (by omega : _ ≤ other)]

theorem pieces_eq (positive : 0 < size) {items : List α} (some_ : items ≠ []) :
    pieces size items = items.take size :: pieces size (items.drop size) := by
  obtain ⟨first, rest, rfl⟩ := List.exists_cons_of_ne_nil some_
  have fewer : ((first :: rest).drop size).length ≤ rest.length := by
    simp only [List.length_drop, List.length_cons]
    omega
  exact congrArg (_ :: ·) (piecesUpTo_eq positive fewer (Nat.le_refl _))

theorem pieces_append (positive : 0 < size) {first : List α} (rest : List α)
    (sized : first.length = size) : pieces size (first ++ rest) = first :: pieces size rest := by
  have some_ : first ++ rest ≠ [] := by
    apply List.append_ne_nil_of_left_ne_nil
    apply List.ne_nil_of_length_pos
    omega
  rw [pieces_eq positive some_, List.take_left' sized, List.drop_left' sized]

theorem flatten_pieces (positive : 0 < size) (items : List α) :
    (pieces size items).flatten = items := by
  induction items using pieces_induction positive with
  | nil => rfl
  | step items some_ ih =>
    rw [pieces_eq positive some_, List.flatten_cons, ih, List.take_append_drop]

theorem length_of_mem_pieces_le (positive : 0 < size) {items piece : List α}
    (listed : piece ∈ pieces size items) : piece.length ≤ size := by
  induction items using pieces_induction positive with
  | nil => cases listed
  | step items some_ ih =>
    rw [pieces_eq positive some_] at listed
    rcases List.mem_cons.mp listed with rfl | later
    · exact List.length_take_le _ _
    · exact ih later

theorem length_of_mem_pieces (positive : 0 < size) {items piece : List α}
    (whole : items.length % size = 0) (listed : piece ∈ pieces size items) :
    piece.length = size := by
  induction items using pieces_induction positive with
  | nil => cases listed
  | step items some_ ih =>
    have enough : size ≤ items.length := by
      apply Nat.le_of_dvd (List.length_pos_iff.mpr some_)
      exact Nat.dvd_of_mod_eq_zero whole
    rw [pieces_eq positive some_] at listed
    rcases List.mem_cons.mp listed with rfl | later
    · exact List.length_take_of_le enough
    · apply ih _ later
      rw [List.length_drop, ← Nat.mod_eq_sub_mod enough]
      exact whole

/-- Of the pieces only the last may be short. -/
theorem length_of_mem_dropLast_pieces (positive : 0 < size) {items piece : List α}
    (listed : piece ∈ (pieces size items).dropLast) : piece.length = size := by
  induction items using pieces_induction positive with
  | nil => cases listed
  | step items some_ ih =>
    rw [pieces_eq positive some_] at listed
    by_cases last : items.drop size = []
    · rw [last] at listed
      cases listed
    · have several : pieces size (items.drop size) ≠ [] := by
        rw [pieces_eq positive last]
        exact List.cons_ne_nil _ _
      rw [List.dropLast_cons_of_ne_nil several] at listed
      rcases List.mem_cons.mp listed with rfl | later
      · have behind := List.length_pos_iff.mpr last
        rw [List.length_drop] at behind
        exact List.length_take_of_le (by omega)
      · exact ih later

theorem pieces_append_pieces (positive : 0 < size) {first : List α} (rest : List α)
    (whole : first.length % size = 0) :
    pieces size (first ++ rest) = pieces size first ++ pieces size rest := by
  induction first using pieces_induction positive with
  | nil => rfl
  | step first some_ ih =>
    have enough : size ≤ first.length := by
      apply Nat.le_of_dvd (List.length_pos_iff.mpr some_)
      exact Nat.dvd_of_mod_eq_zero whole
    have sized : (first.take size).length = size := List.length_take_of_le enough
    have behind : (first.drop size).length % size = 0 := by
      rw [List.length_drop, ← Nat.mod_eq_sub_mod enough]
      exact whole
    have split : first ++ rest = first.take size ++ (first.drop size ++ rest) := by
      rw [← List.append_assoc, List.take_append_drop]
    rw [split, pieces_append positive _ sized, ih behind, pieces_eq positive some_, List.cons_append]

/-- Each piece lies as many pieces from the front as its number says. -/
theorem pieces_eq_map_range (positive : 0 < size) (items : List α) :
    pieces size items = (List.range ((items.length + size - 1) / size)).map fun index =>
      (items.drop (index * size)).take size := by
  induction items using pieces_induction positive with
  | nil =>
    have none_ : (0 + size - 1) / size = 0 := Nat.div_eq_of_lt (by omega)
    rw [List.length_nil, none_]
    rfl
  | step items some_ ih =>
    have count := pieces_count_step positive (List.length_pos_iff.mpr some_)
    rw [← List.length_drop] at count
    rw [pieces_eq positive some_, ih, count, List.range_succ_eq_map, List.map_cons, List.map_map,
      Nat.zero_mul, List.drop_zero]
    apply congrArg (items.take size :: ·)
    apply List.map_congr_left
    intro index _
    simp only [Function.comp_apply, List.drop_drop, Nat.succ_mul, Nat.add_comm size]

end Wristband
