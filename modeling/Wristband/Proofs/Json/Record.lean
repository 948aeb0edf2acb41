import Mathlib.Data.List.Nodup
import Wristband.Json.Record
import Wristband.Proofs.Json.Text

/-! Values that are written one after another are read back one by one. A number ends where no digit
follows, so a value is only read back if what follows it is no part of a value, and in a list or a
record that is a comma, a colon or a closing bracket. -/

namespace Wristband.Json

variable {α β σ : Type}

theorem run_bind {first : Reading α} {next : α → Reading β} {text rest : List Char} {value : α}
    (found : first.run text = .ok (value, rest)) :
    (first >>= next).run text = (next value).run rest := by
  rw [StateT.run_bind, found]
  rfl

private theorem run_get (text : List Char) : (get : Reading (List Char)).run text = .ok (text, text) := rfl

private theorem run_lift {result : Except ReadError α} {value : α} (found : result = .ok value)
    (text : List Char) : (liftM result : Reading α).run text = .ok (value, text) := by
  rw [found]
  rfl

def IsVisible (text : List Char) : Prop := ∀ character ∈ text.head?, isSpace character = false

private theorem isVisible_cons {first : Char} (visible : isSpace first = false) (rest : List Char) :
    IsVisible (first :: rest) := fun _ found => Option.some.inj found ▸ visible

instance : (text : List Char) → Decidable (IsVisible text)
  | [] => isTrue nofun
  | first :: rest =>
    if visible : isSpace first = false then isTrue (isVisible_cons visible rest)
    else isFalse fun all => visible (all first rfl)

private theorem IsVisible.skipSpaces {text : List Char} (visible : IsVisible text) :
    skipSpaces text = text := by
  cases text with
  | nil => rfl
  | cons first rest =>
    have mark : isSpace first = false := visible first rfl
    exact List.dropWhile_cons_of_neg (by rw [mark]; exact Bool.false_ne_true)

private theorem IsVisible.append {text : List Char} (visible : IsVisible text) (some_ : text ≠ [])
    (rest : List Char) : IsVisible (text ++ rest) := by
  rw [IsVisible, List.head?_append_of_ne_nil text some_]
  exact visible

private theorem run_skipSpaces {text : List Char} (visible : IsVisible text) :
    (modify skipSpaces : Reading PUnit).run text = .ok (PUnit.unit, text) := by
  have skipped : (modify skipSpaces : Reading PUnit).run text =
      .ok (PUnit.unit, Json.skipSpaces text) := rfl
  rw [skipped, visible.skipSpaces]

private theorem run_peek {text : List Char} (visible : IsVisible text) :
    peek.run text = .ok (text.head?, text) := by
  rw [peek, run_bind (run_skipSpaces visible), run_bind (run_get text)]
  rfl

private theorem run_takeExactly (expected rest : List Char) :
    (takeExactly expected).run (expected ++ rest) = .ok (PUnit.unit, rest) := by
  have starts : expected.isPrefixOf (expected ++ rest) = true :=
    List.isPrefixOf_iff_prefix.mpr (List.prefix_append expected rest)
  rw [takeExactly, run_bind (run_get _), if_pos starts, List.drop_left]
  rfl

private theorem run_takeMark {mark : Char} (visible : isSpace mark = false) (rest : List Char) :
    (takeMark mark).run (mark :: rest) = .ok (PUnit.unit, rest) := by
  rw [takeMark, run_bind (run_skipSpaces (isVisible_cons visible rest))]
  exact run_takeExactly [mark] rest

private theorem run_takeWord {word : String} (visible : IsVisible word.toList) (some_ : word.toList ≠ [])
    (rest : List Char) : (takeWord word).run (word.toList ++ rest) = .ok (PUnit.unit, rest) := by
  rw [takeWord, run_bind (run_skipSpaces (visible.append some_ rest))]
  exact run_takeExactly word.toList rest

private theorem run_peek_writeText (text : String) (rest : List Char) :
    peek.run ((writeText text).toList ++ rest) =
      .ok (some '\x22', (writeText text).toList ++ rest) := by
  rw [toList_writeText, List.cons_append]
  exact run_peek (isVisible_cons (by decide) _)

private theorem run_readText (text : String) (rest : List Char) :
    readText.run ((writeText text).toList ++ rest) = .ok (text, rest) := by
  rw [toList_writeText, List.cons_append, List.append_assoc, List.singleton_append, readText,
    run_bind (run_takeMark (by decide) _), run_bind (run_get _),
    run_bind (run_lift (readCharacters_flatMap text.toList rest) _)]
  simp only [String.ofList_toList]
  rfl

/-- The text does not begin with what could be a part of the value before it. -/
def Follows (text : List Char) : Prop :=
  ∀ character ∈ text.head?, character ∈ [',', ':', ']', '\x7d']

/-- The reading takes just this text from the front of whatever may follow it. -/
def Reads (reading : Reading α) (written : List Char) (value : α) : Prop :=
  ∀ rest, Follows rest → reading.run (written ++ rest) = .ok (value, rest)

/-- A value that is read is put to some use. -/
theorem Reads.use {reading : Reading α} {written : List Char} {value : α}
    (reads : Reads reading written value) (use : α → β) :
    Reads (do let value ← reading; return use value) written (use value) := by
  intro rest follows
  rw [run_bind (reads rest follows)]
  rfl

theorem reads_text (text : String) : Reads readText (writeText text).toList text :=
  fun rest _ => run_readText text rest

theorem reads_bool (value : Bool) : Reads readBool (toString value).toList value := by
  intro rest _
  cases value with
  | true =>
    have word : (toString true).toList ++ rest = 't' :: 'r' :: 'u' :: 'e' :: rest := rfl
    rw [readBool, word, run_bind (run_peek (isVisible_cons (by decide) _))]
    exact (run_bind (run_takeWord (by decide : IsVisible "true".toList) (by decide) rest)).trans rfl
  | false =>
    have word : (toString false).toList ++ rest = 'f' :: 'a' :: 'l' :: 's' :: 'e' :: rest := rfl
    rw [readBool, word, run_bind (run_peek (isVisible_cons (by decide) _))]
    exact (run_bind (run_takeWord (by decide : IsVisible "false".toList) (by decide) rest)).trans rfl

private theorem digitsValue_toDigits (number : Nat) : digitsValue (Nat.toDigits 10 number) = number := by
  have value := Nat.ofDigitChars_ten_toDigits (n := number)
  simp only [Nat.ofDigitChars_eq_foldl, Nat.mul_comm 10] at value
  exact value

private theorem head?_toDigits {number : Nat} (positive : 0 < number) :
    (Nat.toDigits 10 number).head? ≠ some '0' := by
  induction number using Nat.strongRecOn with
  | ind number ih =>
    rw [Nat.toDigits_eq_if (by decide)]
    split
    next small =>
      intro zero
      exact Nat.ne_of_gt positive (Nat.digitChar_eq_zero.mp (Option.some.inj zero))
    next large =>
      rw [List.head?_append_of_ne_nil _ Nat.toDigits_ne_nil]
      exact ih (number / 10) (by omega) (by omega)

private theorem not_isSpace_of_isDigit {digit : Char} (isDigit : digit.isDigit = true) :
    isSpace digit = false := by
  apply eq_false_of_ne_true
  intro space
  simp only [isSpace, Bool.or_eq_true, beq_iff_eq] at space
  obtain ((rfl | rfl) | rfl) | rfl := space <;> cases isDigit

private theorem isVisible_toDigits (number : Nat) : IsVisible (Nat.toDigits 10 number) := fun _ first =>
  not_isSpace_of_isDigit
    (Nat.isDigit_of_mem_toDigits (by decide) (by decide) (List.mem_of_head? first))

private theorem Follows.ends_number {rest : List Char} (follows : Follows rest) :
    rest.takeWhile Char.isDigit = [] ∧ rest.dropWhile Char.isDigit = rest ∧
      continuesNumber rest = false := by
  cases rest with
  | nil => exact ⟨rfl, rfl, rfl⟩
  | cons mark rest =>
    have ends : ¬ mark.isDigit = true ∧ (mark == '.' || mark == 'e' || mark == 'E') = false := by
      have listed := follows mark rfl
      simp only [List.mem_cons, List.not_mem_nil, or_false] at listed
      obtain rfl | rfl | rfl | rfl := listed <;> decide
    exact ⟨List.takeWhile_cons_of_neg ends.1, List.dropWhile_cons_of_neg ends.1, ends.2⟩

theorem reads_natural {limit number : Nat} (below : number < limit) :
    Reads (readNatural limit) (toString number).toList number := by
  intro rest follows
  rw [Nat.toString_eq_repr, Nat.toList_repr]
  have digits : ∀ digit ∈ Nat.toDigits 10 number, digit.isDigit = true := fun _ listed =>
    Nat.isDigit_of_mem_toDigits (by decide) (by decide) listed
  have unpadded : ¬ ((Nat.toDigits 10 number).head? = some '0' ∧
      (Nat.toDigits 10 number).length ≠ 1) := by
    rintro ⟨zero, several⟩
    cases number with
    | zero => exact several rfl
    | succ number => exact head?_toDigits (Nat.succ_pos number) zero
  obtain ⟨none_, all, ends⟩ := follows.ends_number
  have taken : (Nat.toDigits 10 number ++ rest).takeWhile Char.isDigit = Nat.toDigits 10 number := by
    rw [List.takeWhile_append_of_pos digits, none_, List.append_nil]
  have left : (Nat.toDigits 10 number ++ rest).dropWhile Char.isDigit = rest := by
    rw [List.dropWhile_append_of_pos digits, all]
  rw [readNatural, run_bind (run_skipSpaces ((isVisible_toDigits number).append Nat.toDigits_ne_nil rest)),
    run_bind (run_get _)]
  simp only [taken, left, digitsValue_toDigits]
  rw [if_neg]
  · rfl
  · simp only [List.isEmpty_iff, Nat.toDigits_ne_nil, unpadded, ends, Bool.false_eq_true, false_or,
      Nat.not_le, below]

/-! Lists. The first item stands behind the opening bracket and every other one behind a comma. -/

structure BeginsItem (text : List Char) : Prop where
  visible : IsVisible text
  ne_nil : text ≠ []
  head?_ne : text.head? ≠ some ']'

theorem beginsItem_toDigits (number : Nat) : BeginsItem (Nat.toDigits 10 number) where
  visible := isVisible_toDigits number
  ne_nil := Nat.toDigits_ne_nil
  head?_ne closing := by
    have digit := Nat.isDigit_of_mem_toDigits (by decide) (by decide) (List.mem_of_head? closing)
    cases digit

section

variable {item : Reading α} {limit : Nat} {text more rest : List Char} {value : α} {values : List α}

private theorem readItems_end (item : Reading α) (limit : Nat) (isFirst : Bool) (rest : List Char) :
    (readItems item (limit + 1) isFirst).run (']' :: rest) = .ok ([], rest) := by
  rw [readItems, run_bind (run_peek (isVisible_cons (by decide) rest)), List.head?_cons, if_pos rfl,
    run_bind (run_takeMark (by decide) rest)]
  rfl

private theorem readItems_next (reads : Reads item text value) (follows : Follows more)
    (others : (readItems item limit false).run more = .ok (values, rest)) :
    (readItems item (limit + 1) false).run (',' :: (text ++ more)) =
      .ok (value :: values, rest) := by
  rw [readItems, run_bind (run_peek (isVisible_cons (by decide) _)), List.head?_cons,
    if_neg (by decide), Bool.not_false, if_pos rfl, run_bind (run_takeMark (by decide) _),
    run_bind (reads more follows), run_bind others]
  rfl

private theorem readItems_first (reads : Reads item text value) (begins : BeginsItem text)
    (follows : Follows more)
    (others : (readItems item limit false).run more = .ok (values, rest)) :
    (readItems item (limit + 1) true).run (text ++ more) = .ok (value :: values, rest) := by
  rw [readItems, run_bind (run_peek (begins.visible.append begins.ne_nil more)),
    List.head?_append_of_ne_nil text begins.ne_nil, if_neg begins.head?_ne, Bool.not_true,
    if_neg Bool.false_ne_true, run_bind (reads more follows), run_bind others]
  rfl

end

theorem intercalate_cons (first : List Char) (others : List (List Char)) :
    [','].intercalate (first :: others) = first ++ others.flatMap (',' :: ·) := by
  induction others generalizing first with
  | nil => rw [List.intercalate_singleton, List.flatMap_nil, List.append_nil]
  | cons second others ih =>
    rw [List.intercalate_cons_cons, ih, List.flatMap_cons, List.append_assoc]
    rfl

private theorem follows_others (others : List (List Char)) {closing : Char}
    (closes : closing ∈ [',', ':', ']', '\x7d']) (rest : List Char) :
    Follows (others.flatMap (',' :: ·) ++ closing :: rest) := by
  cases others with
  | nil => exact fun _ found => Option.some.inj found ▸ closes
  | cons second others => exact fun _ found => Option.some.inj found ▸ by decide

private theorem length_others (others : List (List Char)) :
    others.length ≤ (others.flatMap (',' :: ·)).length := by
  induction others with
  | nil => exact Nat.le_refl 0
  | cons second others ih =>
    rw [List.flatMap_cons, List.length_append, List.length_cons, List.length_cons]
    omega

section

variable {item : Reading α} {write : α → List Char}

private theorem readItems_others (reads : ∀ value, Reads item (write value) value) (values : List α)
    {limit : Nat} (many : values.length < limit) (rest : List Char) :
    (readItems item limit false).run ((values.map write).flatMap (',' :: ·) ++ ']' :: rest) =
      .ok (values, rest) := by
  induction values generalizing limit with
  | nil =>
    obtain ⟨limit, rfl⟩ := Nat.exists_eq_succ_of_ne_zero (Nat.ne_zero_of_lt many)
    exact readItems_end item limit false rest
  | cons value values ih =>
    obtain ⟨limit, rfl⟩ := Nat.exists_eq_succ_of_ne_zero (Nat.ne_zero_of_lt many)
    rw [List.map_cons, List.flatMap_cons, List.append_assoc]
    exact readItems_next (reads value) (follows_others _ (by decide) rest) (ih (Nat.lt_of_succ_lt_succ many))

theorem reads_list (reads : ∀ value, Reads item (write value) value)
    (begins : ∀ value, BeginsItem (write value)) (values : List α) :
    Reads (readList item) ('[' :: ([','].intercalate (values.map write) ++ [']'])) values := by
  intro rest _
  rw [List.cons_append, List.append_assoc, List.singleton_append, readList,
    run_bind (run_takeMark (by decide) _), run_bind (run_get _)]
  cases values with
  | nil => exact readItems_end item _ true rest
  | cons value values =>
    rw [List.map_cons, intercalate_cons, List.append_assoc]
    refine readItems_first (reads value) (begins value) (follows_others _ (by decide) rest)
      (readItems_others reads values ?_ rest)
    have long := length_others (values.map write)
    simp only [List.length_append, List.length_cons, List.length_map] at long ⊢
    omega

end

/-! Records. Every field is written with its name, so the fields are told apart by their names and not
by their places. -/

structure WrittenField (σ : Type) where
  name : String
  number : Nat
  text : List Char
  add : σ → σ

def WrittenField.whole (field : WrittenField σ) : List Char :=
  (writeText field.name).toList ++ ':' :: field.text

def writtenRecord (fields : List (WrittenField σ)) : List Char :=
  '\x7b' :: ([','].intercalate (fields.map WrittenField.whole) ++ ['\x7d'])

theorem run_peek_writtenRecord (fields : List (WrittenField σ)) (rest : List Char) :
    peek.run (writtenRecord fields ++ rest) = .ok (some '\x7b', writtenRecord fields ++ rest) :=
  run_peek (isVisible_cons (by decide) _)

structure WrittenField.IsOf (names : List String) (readField : Nat → σ → Reading σ)
    (field : WrittenField σ) : Prop where
  named : names.idxOf? field.name = some field.number
  reads : ∀ state, Reads (readField field.number state) field.text (field.add state)

section

variable {names : List String} {readField : Nat → σ → Reading σ} {field : WrittenField σ}
  {limit : Nat} {seen : List Nat} {more rest : List Char} {state : σ}

private theorem readNamed_end (isFirst : Bool) (seen : List Nat) (state : σ) (rest : List Char) :
    (readNamed names readField (limit + 1) seen isFirst state).run ('\x7d' :: rest) =
      .ok (state, rest) := by
  rw [readNamed, run_bind (run_peek (isVisible_cons (by decide) rest)), List.head?_cons, if_pos rfl,
    run_bind (run_takeMark (by decide) rest)]
  rfl

private theorem readNamed_next (isOf : field.IsOf names readField) (new : field.number ∉ seen)
    (follows : Follows more) :
    (readNamed names readField (limit + 1) seen false state).run (',' :: (field.whole ++ more)) =
      (readNamed names readField limit (field.number :: seen) false (field.add state)).run more := by
  rw [readNamed, run_bind (run_peek (isVisible_cons (by decide) _)), List.head?_cons,
    if_neg (by decide), Bool.not_false, if_pos rfl, run_bind (run_takeMark (by decide) _),
    WrittenField.whole, List.append_assoc, run_bind (run_readText _ _)]
  simp only [isOf.named, if_neg new, List.cons_append]
  rw [run_bind (run_takeMark (by decide) _), run_bind (isOf.reads state more follows)]

private theorem readNamed_first (isOf : field.IsOf names readField) (new : field.number ∉ seen)
    (follows : Follows more) :
    (readNamed names readField (limit + 1) seen true state).run (field.whole ++ more) =
      (readNamed names readField limit (field.number :: seen) false (field.add state)).run more := by
  rw [readNamed, WrittenField.whole, List.append_assoc, run_bind (run_peek_writeText _ _),
    if_neg (by decide), Bool.not_true, if_neg Bool.false_ne_true, run_bind (run_readText _ _)]
  simp only [isOf.named, if_neg new, List.cons_append]
  rw [run_bind (run_takeMark (by decide) _), run_bind (isOf.reads state more follows)]

end

section

variable {names : List String} {readField : Nat → σ → Reading σ}

private theorem readNamed_others {fields : List (WrittenField σ)}
    (each : ∀ field ∈ fields, field.IsOf names readField) {seen : List Nat}
    (new : (fields.map WrittenField.number ++ seen).Nodup) {limit : Nat}
    (many : fields.length < limit) (state : σ) (rest : List Char) :
    (readNamed names readField limit seen false state).run
        ((fields.map WrittenField.whole).flatMap (',' :: ·) ++ '\x7d' :: rest) =
      .ok (fields.foldl (fun state field => field.add state) state, rest) := by
  induction fields generalizing limit seen state with
  | nil =>
    obtain ⟨limit, rfl⟩ := Nat.exists_eq_succ_of_ne_zero (Nat.ne_zero_of_lt many)
    exact readNamed_end false seen state rest
  | cons field fields ih =>
    obtain ⟨limit, rfl⟩ := Nat.exists_eq_succ_of_ne_zero (Nat.ne_zero_of_lt many)
    obtain ⟨own, others⟩ := List.forall_mem_cons.mp each
    obtain ⟨absent, distinct⟩ := List.nodup_cons.mp new
    rw [List.map_cons, List.flatMap_cons, List.append_assoc, List.foldl_cons]
    refine (readNamed_next own (fun found => absent (List.mem_append_right _ found))
      (follows_others _ (by decide) rest)).trans ?_
    refine ih others ?_ (Nat.lt_of_succ_lt_succ many) (field.add state)
    exact (List.nodup_middle).mpr new

theorem reads_record {fields : List (WrittenField σ)}
    (each : ∀ field ∈ fields, field.IsOf names readField)
    (distinct : (fields.map WrittenField.number).Nodup) (start : σ) :
    Reads (readRecord names readField start) (writtenRecord fields)
      (fields.foldl (fun state field => field.add state) start) := by
  intro rest _
  rw [readRecord, run_bind (run_peek_writtenRecord fields rest), writtenRecord, List.cons_append,
    List.append_assoc, List.singleton_append]
  refine (run_bind (run_takeMark (by decide) _)).trans ?_
  rw [run_bind (run_get _)]
  cases fields with
  | nil => exact readNamed_end true [] start rest
  | cons field fields =>
    obtain ⟨own, others⟩ := List.forall_mem_cons.mp each
    rw [List.map_cons, intercalate_cons, List.append_assoc, List.foldl_cons]
    refine (readNamed_first own List.not_mem_nil (follows_others _ (by decide) rest)).trans ?_
    refine readNamed_others others ?_ ?_ (field.add start) rest
    · exact List.nodup_middle.mpr (by rwa [List.append_nil])
    · have long := length_others (fields.map WrittenField.whole)
      simp only [List.length_append, List.length_cons, List.length_map] at long ⊢
      omega

end

/-! Cases, which are names that stand for themselves or have a value. -/

def writtenCase (name : String) (text : List Char) : List Char :=
  '\x7b' :: ((writeText name).toList ++ ':' :: (text ++ ['\x7d']))

variable {plain withValue : String → Reading α} {name : String} {value : α}

theorem reads_plainCase (reads : Reads (plain name) [] value) :
    Reads (readCase plain withValue) (writeText name).toList value := by
  intro rest follows
  rw [readCase, run_bind (run_peek_writeText name rest)]
  exact (run_bind (run_readText name rest)).trans (reads rest follows)

theorem reads_namedCase {text : List Char} (reads : Reads (withValue name) text value) :
    Reads (readCase plain withValue) (writtenCase name text) value := by
  intro rest _
  have closed : Follows ('\x7d' :: rest) := fun _ found => Option.some.inj found ▸ by decide
  rw [writtenCase, List.cons_append, List.append_assoc, List.cons_append, List.append_assoc,
    List.singleton_append, readCase, run_bind (run_peek (isVisible_cons (by decide) _))]
  refine (run_bind (run_takeMark (by decide) _)).trans ?_
  rw [run_bind (run_readText name _), run_bind (run_takeMark (by decide) _),
    run_bind (reads _ closed), run_bind (run_takeMark (by decide) rest)]
  rfl

theorem readAll_eq {reading : Reading α} {text : String} (reads : Reads reading text.toList value) :
    readAll reading text = .ok value := by
  have follows : Follows [] := fun _ found => nomatch found
  have whole := reads [] follows
  rw [List.append_nil] at whole
  rw [readAll, run_bind whole]
  rfl

end Wristband.Json
