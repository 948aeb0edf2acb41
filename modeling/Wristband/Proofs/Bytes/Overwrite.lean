import Wristband.Bytes.Basic

/-! Storing bytes over others. -/

namespace Wristband.Bytes

variable (bytes data : Bytes) (start : Nat)

@[simp] theorem length_overwrite : (bytes.overwrite start data).length = bytes.length := by
  simp only [overwrite, List.length_append, List.length_take, List.length_drop]
  omega

theorem getElem?_overwrite_of_outside {index : Nat}
    (outside : index < start ∨ start + data.length ≤ index) :
    (bytes.overwrite start data)[index]? = bytes[index]? := by
  by_cases within : index < bytes.length
  · unfold overwrite
    obtain before | behind := outside
    · have kept : index < (bytes.take start).length := by
        rw [List.length_take]
        omega
      rw [List.getElem?_append_left kept, List.getElem?_take_of_lt before]
    · have skipped : (bytes.take start).length = start := List.length_take_of_le (by omega)
      rw [List.getElem?_append_right (by omega), skipped, List.getElem?_take_of_lt (by omega),
        List.getElem?_append_right (by omega), List.getElem?_drop]
      congr 1
      omega
  · have long : bytes.length ≤ index := Nat.not_lt.mp within
    rw [List.getElem?_eq_none long, List.getElem?_eq_none (by rwa [length_overwrite])]

private theorem getElem?_overwrite_of_inside {index : Nat} (behind : start ≤ index)
    (before : index < start + data.length) (within : index < bytes.length) :
    (bytes.overwrite start data)[index]? = data[index - start]? := by
  have skipped : (bytes.take start).length = start := List.length_take_of_le (by omega)
  unfold overwrite
  rw [List.getElem?_append_right (by omega), skipped, List.getElem?_take_of_lt (by omega),
    List.getElem?_append_left (by omega)]

theorem getElem?_overwrite_congr {other : Bytes} (sized : other.length = bytes.length) {index : Nat}
    (outside : index < start ∨ start + data.length ≤ index → other[index]? = bytes[index]?) :
    (other.overwrite start data)[index]? = (bytes.overwrite start data)[index]? := by
  by_cases inside : start ≤ index ∧ index < start + data.length
  · by_cases within : index < bytes.length
    · rw [getElem?_overwrite_of_inside _ _ _ inside.1 inside.2 within,
        getElem?_overwrite_of_inside _ _ _ inside.1 inside.2 (by rwa [sized])]
    · have long : bytes.length ≤ index := Nat.not_lt.mp within
      have longOther : other.length ≤ index := sized ▸ long
      rw [List.getElem?_eq_none (by rwa [length_overwrite]),
        List.getElem?_eq_none (by rwa [length_overwrite])]
  · have away : index < start ∨ start + data.length ≤ index := by omega
    rw [getElem?_overwrite_of_outside _ _ _ away, getElem?_overwrite_of_outside _ _ _ away,
      outside away]

/-- Stretches are the same when their bytes are. -/
theorem take_drop_congr {other : Bytes} {count : Nat}
    (same : ∀ place, start ≤ place → place < start + count → other[place]? = bytes[place]?) :
    (other.drop start).take count = (bytes.drop start).take count := by
  apply List.ext_getElem?
  intro index
  by_cases inside : index < count
  · rw [List.getElem?_take_of_lt inside, List.getElem?_take_of_lt inside, List.getElem?_drop,
      List.getElem?_drop]
    exact same _ (Nat.le_add_right _ _) (Nat.add_lt_add_left inside _)
  · rw [List.getElem?_take_eq_none (Nat.le_of_not_lt inside),
      List.getElem?_take_eq_none (Nat.le_of_not_lt inside)]

theorem getD_overwrite_of_outside {index : Nat}
    (outside : index < start ∨ start + data.length ≤ index) :
    (bytes.overwrite start data).getD index 0 = bytes.getD index 0 := by
  rw [List.getD_eq_getElem?_getD, List.getD_eq_getElem?_getD,
    getElem?_overwrite_of_outside bytes data start outside]

variable {bytes data start}

theorem getD_set_of_ne {place other : Nat} (value : UInt8) (different : place ≠ other) :
    (bytes.set place value).getD other 0 = bytes.getD other 0 := by
  simp only [List.getD_eq_getElem?_getD, List.getElem?_set_ne different]

theorem getD_set_self {place : Nat} (value : UInt8) (inside : place < bytes.length) :
    (bytes.set place value).getD place 0 = value := by
  rw [List.getD_eq_getElem?_getD, List.getElem?_set_self inside, Option.getD_some]

theorem overwrite_of_fits (fits : start + data.length ≤ bytes.length) :
    bytes.overwrite start data = bytes.take start ++ (data ++ bytes.drop (start + data.length)) := by
  have rest : (data ++ bytes.drop (start + data.length)).length ≤ bytes.length - start := by
    rw [List.length_append, List.length_drop]
    omega
  rw [overwrite, List.take_of_length_le rest]

@[simp] theorem overwrite_nil : bytes.overwrite start [] = bytes := by
  by_cases inside : start ≤ bytes.length
  · rw [overwrite_of_fits (by rwa [List.length_nil, Nat.add_zero]), List.nil_append, List.length_nil,
      Nat.add_zero, List.take_append_drop]
  · have long : bytes.length ≤ start := Nat.le_of_not_le inside
    rw [overwrite, List.take_of_length_le long, Nat.sub_eq_zero_of_le long, List.take_zero,
      List.append_nil]

/-- Data that is stored piece by piece is stored as a whole. -/
theorem overwrite_append (first second : Bytes)
    (fits : start + first.length + second.length ≤ bytes.length) :
    (bytes.overwrite start first).overwrite (start + first.length) second =
      bytes.overwrite start (first ++ second) := by
  have inside : start + first.length ≤ bytes.length := by omega
  have together : start + (first ++ second).length ≤ bytes.length := by
    rw [List.length_append]
    omega
  have before : (bytes.take start).length = start := List.length_take_of_le (by omega)
  have taken : (bytes.overwrite start first).take (start + first.length) =
      bytes.take start ++ first := by
    rw [overwrite_of_fits inside, ← List.append_assoc]
    exact List.take_left' (by rw [List.length_append, before])
  have dropped : (bytes.overwrite start first).drop (start + first.length + second.length) =
      bytes.drop (start + (first ++ second).length) := by
    rw [overwrite_of_fits inside, ← List.append_assoc, ← List.drop_drop,
      List.drop_left' (by rw [List.length_append, before]), List.drop_drop, List.length_append,
      Nat.add_assoc]
  rw [overwrite_of_fits (by rwa [length_overwrite]), overwrite_of_fits together, taken, dropped,
    List.append_assoc, List.append_assoc]

/-- Every part of what was stored is found where it was stored. -/
theorem take_drop_overwrite_part (first part rest : Bytes)
    (fits : start + (first ++ part ++ rest).length ≤ bytes.length) :
    ((bytes.overwrite start (first ++ part ++ rest)).drop (start + first.length)).take part.length =
      part := by
  have before : (bytes.take start ++ first).length = start + first.length := by
    rw [List.length_append, List.length_take_of_le (by omega)]
  rw [overwrite_of_fits fits, List.append_assoc, List.append_assoc, ← List.append_assoc,
    List.drop_left' before, List.take_left]

theorem take_drop_overwrite (fits : start + data.length ≤ bytes.length) :
    ((bytes.overwrite start data).drop start).take data.length = data := by
  have alone : start + ([] ++ data ++ []).length ≤ bytes.length := by rwa [List.append_nil]
  have found := take_drop_overwrite_part [] data [] alone
  rwa [List.append_nil] at found

theorem overwrite_eq_self_iff (fits : start + data.length ≤ bytes.length) :
    bytes.overwrite start data = bytes ↔ (bytes.drop start).take data.length = data := by
  constructor
  · intro same
    have stored := take_drop_overwrite fits
    rwa [same] at stored
  · intro held
    have rest : data ++ (bytes.drop start).drop data.length = bytes.drop start :=
      (congrArg (· ++ (bytes.drop start).drop data.length) held.symm).trans
        (List.take_append_drop data.length (bytes.drop start))
    rw [overwrite_of_fits fits, ← List.drop_drop, rest, List.take_append_drop]

/-- One byte of a stretch is changed by storing the stretch with that byte changed. -/
theorem overwrite_set {count place : Nat} (fits : start + count ≤ bytes.length)
    (inside : place < count) (value : UInt8) :
    bytes.overwrite start (((bytes.drop start).take count).set place value) =
      bytes.set (start + place) value := by
  have sized : (((bytes.drop start).take count).set place value).length = count := by
    rw [List.length_set, List.length_take, List.length_drop]
    omega
  have before : (bytes.take start).length = start := List.length_take_of_le (by omega)
  have within : ((bytes.drop start).take count).length = count := by
    rw [List.length_take, List.length_drop]
    omega
  have parts : bytes = bytes.take start ++ ((bytes.drop start).take count ++
      bytes.drop (start + count)) := by
    rw [← List.drop_drop, List.take_append_drop, List.take_append_drop]
  have changed : bytes.set (start + place) value =
      (bytes.take start ++ ((bytes.drop start).take count ++ bytes.drop (start + count))).set
        (start + place) value := congrArg (·.set (start + place) value) parts
  rw [overwrite_of_fits (by rwa [sized]), sized, changed, List.set_append_right _ _ (by omega),
    before, Nat.add_sub_cancel_left, List.set_append_left _ _ (by omega)]

end Wristband.Bytes
