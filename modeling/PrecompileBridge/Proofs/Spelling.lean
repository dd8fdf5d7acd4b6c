import Mathlib.Data.List.Forall2
import Mathlib.Data.Nat.Digits.Defs
import PrecompileBridge.Address.Text
import PrecompileBridge.Text.Blank

/-!
What counts as a written address. Forty hexadecimal digits spell one, each in either case, with or
without a marker in front, and no other text does. The reader works on the bytes of a text; since
digits and markers take one byte each, and every other character brings in a byte that is neither,
nothing is lost by that.
-/
namespace PrecompileBridge

namespace Bytes

theorem utf8EncodeChar_of_ascii {c : Char} (ascii : c.toNat < 128) :
    String.utf8EncodeChar c = [UInt8.ofNat c.toNat] := by
  have small : c.val.toNat ≤ 127 := Nat.le_of_lt_succ ascii
  simp only [String.utf8EncodeChar, if_pos small]
  rfl

theorem exists_high_byte {c : Char} (foreign : 128 ≤ c.toNat) :
    ∃ byte ∈ String.utf8EncodeChar c, 128 ≤ byte.toNat := by
  have large : ¬ c.val.toNat ≤ 127 := Nat.not_le.mpr foreign
  -- Whatever the length of the code, its last byte carries the six lowest bits above a set bit.
  refine ⟨UInt8.ofNat (c.val.toNat % 64 + 128), ?_, ?_⟩
  · simp only [String.utf8EncodeChar, if_neg large]
    split
    · simp
    · split <;> simp
  · rw [UInt8.toNat_ofNat']
    omega

theorem toList_eq_map_ofText {text : String} (ascii : ∀ byte ∈ ofText text, byte.toNat < 128) :
    text.toList = (ofText text).map fun byte => Char.ofNat byte.toNat := by
  unfold ofText at ascii ⊢
  generalize text.toList = chars at ascii ⊢
  induction chars with
  | nil => rfl
  | cons c rest ih =>
    rw [List.flatMap_cons] at ascii ⊢
    have first : c.toNat < 128 := by
      by_contra foreign
      obtain ⟨byte, member, high⟩ := exists_high_byte (Nat.not_lt.mp foreign)
      exact absurd (ascii byte (List.mem_append_left _ member)) (Nat.not_lt.mpr high)
    have others := ih fun byte member => ascii byte (List.mem_append_right _ member)
    have back : (UInt8.ofNat c.toNat).toNat = c.toNat := by
      rw [UInt8.toNat_ofNat']
      omega
    rw [utf8EncodeChar_of_ascii first, List.map_append, List.map_singleton, back,
      Char.ofNat_toNat, ← others]
    rfl

theorem ofText_eq_map {text : String} (ascii : ∀ c ∈ text.toList, c.toNat < 128) :
    ofText text = text.toList.map fun c => UInt8.ofNat c.toNat := by
  unfold ofText
  generalize text.toList = chars at ascii ⊢
  induction chars with
  | nil => rfl
  | cons c rest ih =>
    obtain ⟨first, others⟩ := List.forall_mem_cons.mp ascii
    rw [List.flatMap_cons, utf8EncodeChar_of_ascii first, ih others, List.map_cons]
    rfl

end Bytes

namespace Address

/-- The hexadecimal digits, each at the place of its value. -/
def digitsOf (upper : Bool) : List Char :=
  ['0', '1', '2', '3', '4', '5', '6', '7', '8', '9'] ++
    if upper then ['A', 'B', 'C', 'D', 'E', 'F'] else ['a', 'b', 'c', 'd', 'e', 'f']

def Digit (c : Char) (value : Nat) : Prop := ∃ upper, (digitsOf upper)[value]? = some c

def markers : List (List Char) := [[], ['0', 'x'], ['0', 'X']]

/-- Forty digits, the most significant first, that spell the number of an address. -/
def Spells (text : List Char) (address : Address) : Prop :=
  ∃ marker ∈ markers, ∃ digits values, text = marker ++ digits ∧ digits.length = 40 ∧
    List.Forall₂ Digit digits values ∧ address.toNat = Nat.ofDigits 16 values.reverse

theorem Digit.value_lt {c : Char} {value : Nat} (digit : Digit c value) : value < 16 := by
  obtain ⟨upper, found⟩ := digit
  have bound := (List.getElem?_eq_some_iff.mp found).1
  cases upper <;> exact bound

def alphabet : List Char := digitsOf false ++ digitsOf true ++ ['x', 'X']

theorem Digit.mem_alphabet {c : Char} {value : Nat} (digit : Digit c value) : c ∈ alphabet := by
  obtain ⟨upper, found⟩ := digit
  have member := List.mem_of_getElem? found
  cases upper <;> simp [alphabet, member]

theorem digits_known {digits : List Char} {values : List Nat}
    (spelled : List.Forall₂ Digit digits values) :
    (∀ c ∈ digits, c ∈ alphabet) ∧ ∀ value ∈ values, value < 16 := by
  induction spelled with
  | nil => exact ⟨List.forall_mem_nil _, List.forall_mem_nil _⟩
  | cons digit _ ih =>
    exact ⟨List.forall_mem_cons.mpr ⟨digit.mem_alphabet, ih.1⟩,
      List.forall_mem_cons.mpr ⟨digit.value_lt, ih.2⟩⟩

theorem digit_of_hexValue? {byte : UInt8} {value : Nat} (valued : Bytes.hexValue? byte = some value) :
    Digit (Char.ofNat byte.toNat) value ∧ byte.toNat < 128 := by
  have all : ∀ code < 256, ∀ value ∈ Bytes.hexValue? (UInt8.ofNat code),
      Digit (Char.ofNat code) value ∧ code < 128 := by
    unfold Digit
    decide +kernel
  have this := all byte.toNat byte.toNat_lt
  rw [UInt8.ofNat_toNat] at this
  exact this value valued

theorem hexValue?_of_digit {c : Char} {value : Nat} (digit : Digit c value) :
    Bytes.hexValue? (UInt8.ofNat c.toNat) = some value := by
  have all : ∀ value < 16, ∀ upper, (digitsOf upper)[value]?.bind
      (fun c => Bytes.hexValue? (UInt8.ofNat c.toNat)) = some value := by
    decide +kernel
  obtain ⟨upper, found⟩ := id digit
  have known := all value digit.value_lt upper
  rwa [found, Option.bind_some] at known

theorem digits_of_read {bytes : Bytes} {values : List Nat}
    (read : bytes.map Bytes.hexValue? = values.map some) :
    List.Forall₂ Digit (bytes.map fun byte => Char.ofNat byte.toNat) values ∧
      ∀ byte ∈ bytes, byte.toNat < 128 := by
  induction bytes generalizing values with
  | nil =>
    cases values with
    | nil => exact ⟨.nil, List.forall_mem_nil _⟩
    | cons value more => simp at read
  | cons byte rest ih =>
    cases values with
    | nil => simp at read
    | cons value more =>
      obtain ⟨valued, others⟩ := List.cons.inj read
      obtain ⟨digit, ascii⟩ := digit_of_hexValue? valued
      obtain ⟨digits, small⟩ := ih others
      exact ⟨.cons digit digits, List.forall_mem_cons.mpr ⟨ascii, small⟩⟩

theorem read_of_digits {digits : List Char} {values : List Nat}
    (spelled : List.Forall₂ Digit digits values) :
    (digits.map fun c => UInt8.ofNat c.toNat).map Bytes.hexValue? = values.map some := by
  induction spelled with
  | nil => rfl
  | cons digit _ ih => simp only [List.map_cons, hexValue?_of_digit digit, ih]

theorem foldl_values {bytes : Bytes} {values : List Nat}
    (read : bytes.map Bytes.hexValue? = values.map some) :
    bytes.foldl (fun value byte => 16 * value + (Bytes.hexValue? byte).getD 0) 0 =
      Nat.ofDigits 16 values.reverse := by
  have numbers : bytes.map (fun byte => (Bytes.hexValue? byte).getD 0) = values := by
    have plain := congrArg (List.map fun value? => Option.getD value? 0) read
    simpa [List.map_map, Function.comp_def] using plain
  rw [Nat.ofDigits_eq_foldr, List.foldr_reverse, ← numbers, List.foldl_map]
  congr 1
  funext value byte
  exact Nat.add_comm _ _

theorem invalidDigit?_eq_none_iff {position : Nat} {bytes : Bytes} :
    invalidDigit? position bytes = none ↔
      ∃ values : List Nat, bytes.map Bytes.hexValue? = values.map some := by
  induction bytes generalizing position with
  | nil => exact iff_of_true rfl ⟨[], rfl⟩
  | cons byte rest ih =>
    cases valued : Bytes.hexValue? byte with
    | none =>
      simp only [invalidDigit?, valued, reduceCtorEq, false_iff]
      intro ⟨values, same⟩
      cases values <;> simp [valued] at same
    | some value =>
      simp only [invalidDigit?, valued, ih]
      constructor
      · intro ⟨values, same⟩
        exact ⟨value :: values, by simp [valued, same]⟩
      · intro ⟨values, same⟩
        cases values with
        | nil => simp at same
        | cons first more => exact ⟨more, (List.cons.inj same).2⟩

def markerBytes : List Bytes := [[], [48, 120], [48, 88]]

theorem afterMarker_cases (bytes : Bytes) :
    ∃ marker ∈ markerBytes, bytes = marker ++ Bytes.afterMarker bytes := by
  unfold Bytes.afterMarker
  split
  · exact ⟨[48, 120], by simp [markerBytes], rfl⟩
  · exact ⟨[48, 88], by simp [markerBytes], rfl⟩
  · exact ⟨[], by simp [markerBytes], rfl⟩

/-- No digit is the letter of a marker, so digits are never taken for one. -/
theorem afterMarker_append {marker bytes : Bytes} {values : List Nat} (known : marker ∈ markerBytes)
    (read : bytes.map Bytes.hexValue? = values.map some) :
    Bytes.afterMarker (marker ++ bytes) = bytes := by
  have valued : ∀ byte ∈ bytes, Bytes.hexValue? byte ≠ none := by
    intro byte member missing
    have among : none ∈ values.map some := read ▸ List.mem_map.mpr ⟨byte, member, missing⟩
    simp at among
  simp only [markerBytes, List.mem_cons, List.not_mem_nil, or_false] at known
  rcases known with rfl | rfl | rfl
  · rw [List.nil_append]
    unfold Bytes.afterMarker
    split
    · exact absurd rfl (valued 120 (by simp))
    · exact absurd rfl (valued 88 (by simp))
    · rfl
  · rfl
  · rfl

theorem markerBytes_spell : ∀ marker ∈ markerBytes, (∀ byte ∈ marker, byte.toNat < 128) ∧
    (marker.map fun byte => Char.ofNat byte.toNat) ∈ markers := by
  simp [markerBytes, markers]

theorem markers_spelled : ∀ marker ∈ markers,
    (marker.map fun c => UInt8.ofNat c.toNat) ∈ markerBytes ∧ marker.length % 2 = 0 := by decide

theorem ofText_eq_ok_iff_read {text : String} {address : Address} :
    ofText text = .ok address ↔
      (Bytes.ofText text).length % 2 ≠ 1 ∧ (Bytes.afterMarker (Bytes.ofText text)).length = 40 ∧
        ∃ values : List Nat,
          (Bytes.afterMarker (Bytes.ofText text)).map Bytes.hexValue? = values.map some ∧
            address = ofNat (Nat.ofDigits 16 values.reverse) := by
  unfold ofText
  by_cases odd : (Bytes.ofText text).length % 2 = 1
  · simp [odd]
  by_cases forty : (Bytes.afterMarker (Bytes.ofText text)).length = 40
  · simp only [odd, forty, if_false, ne_eq, not_true_eq_false, not_false_eq_true, true_and]
    cases spoilt : invalidDigit? 0 (Bytes.afterMarker (Bytes.ofText text)) with
    | some place =>
      simp only [reduceCtorEq, false_iff]
      intro ⟨values, read, _⟩
      have clean := (@invalidDigit?_eq_none_iff 0 _).mpr ⟨values, read⟩
      exact absurd (clean.symm.trans spoilt) (by simp)
    | none =>
      obtain ⟨values, read⟩ := invalidDigit?_eq_none_iff.mp spoilt
      simp only [Except.ok.injEq, foldl_values read]
      constructor
      · intro number
        exact ⟨values, read, number.symm⟩
      · intro ⟨others, again, number⟩
        have same : values = others :=
          List.map_injective_iff.mpr (Option.some_injective Nat) (read.symm.trans again)
        rw [number, same]
  · simp [odd, forty]

theorem ofDigits_lt {digits : List Char} {values : List Nat} (forty : digits.length = 40)
    (spelled : List.Forall₂ Digit digits values) : Nat.ofDigits 16 values.reverse < 2 ^ 160 := by
  have small : ∀ value ∈ values.reverse, value < 16 := fun value member =>
    (digits_known spelled).2 value (List.mem_reverse.mp member)
  have bound := Nat.ofDigits_lt_base_pow_length (by decide) small
  rw [List.length_reverse, ← spelled.length_eq, forty] at bound
  exact bound

theorem Spells.mem_alphabet {text : List Char} {address : Address} (spells : Spells text address) :
    ∀ c ∈ text, c ∈ alphabet := by
  obtain ⟨marker, known, digits, values, rfl, _, spelled, _⟩ := spells
  have marked : ∀ marker ∈ markers, ∀ c ∈ marker, c ∈ alphabet := by
    simp [markers, alphabet, digitsOf]
  intro c member
  rcases List.mem_append.mp member with among | among
  · exact marked marker known c among
  · exact (digits_known spelled).1 c among

theorem Spells.ne_nil {text : List Char} {address : Address} (spells : Spells text address) :
    text ≠ [] := by
  obtain ⟨marker, _, digits, _, rfl, forty, _⟩ := spells
  intro empty
  rw [(List.append_eq_nil_iff.mp empty).2] at forty
  contradiction

theorem alphabet_plain : ∀ c ∈ alphabet, c.toNat < 128 ∧ c ≠ ',' ∧ Text.isBlank c = false := by
  have plain : (alphabet.all fun c => c.toNat < 128 ∧ c ≠ ',' ∧ Text.isBlank c = false) = true := by
    decide
  intro c member
  exact of_decide_eq_true (List.all_eq_true.mp plain c member)

/-- The reader accepts exactly the spellings, and reads each as the address that it spells. -/
theorem ofText_eq_ok_iff {text : String} {address : Address} :
    ofText text = .ok address ↔ Spells text.toList address := by
  rw [ofText_eq_ok_iff_read]
  constructor
  · intro ⟨_, forty, values, read, number⟩
    subst number
    obtain ⟨marker, known, whole⟩ := afterMarker_cases (Bytes.ofText text)
    obtain ⟨plain, spelledMarker⟩ := markerBytes_spell marker known
    obtain ⟨digits, small⟩ := digits_of_read read
    have ascii : ∀ byte ∈ Bytes.ofText text, byte.toNat < 128 := by
      rw [whole]
      exact List.forall_mem_append.mpr ⟨plain, small⟩
    refine ⟨_, spelledMarker, _, values, ?_, ?_, digits, ?_⟩
    · rw [Bytes.toList_eq_map_ofText ascii, ← List.map_append, ← whole]
    · rw [List.length_map, forty]
    · exact Nat.mod_eq_of_lt (ofDigits_lt (by rw [List.length_map, forty]) digits)
  · intro spells
    obtain ⟨marker, known, digits, values, whole, forty, spelled, number⟩ := id spells
    obtain ⟨knownBytes, even⟩ := markers_spelled marker known
    have read := read_of_digits spelled
    have ascii : ∀ c ∈ text.toList, c.toNat < 128 := fun c member =>
      alphabet_plain c (spells.mem_alphabet c member) |>.1
    rw [Bytes.ofText_eq_map ascii, whole, List.map_append, afterMarker_append knownBytes read]
    refine ⟨?_, ?_, values, read, ?_⟩
    · rw [List.length_append, List.length_map, List.length_map, forty]
      omega
    · rw [List.length_map, forty]
    · apply toNat_injective
      rw [number]
      exact (Nat.mod_eq_of_lt (ofDigits_lt forty spelled)).symm

theorem Spells.unique {text : List Char} {first second : Address} (spells : Spells text first)
    (again : Spells text second) : first = second := by
  rw [← String.toList_ofList (l := text), ← ofText_eq_ok_iff] at spells again
  exact Except.ok.inj (spells.symm.trans again)

/-- A reader that accepts exactly the spellings, and reads each as the address that it spells. -/
def Reader.Faithful (read : Reader) : Prop :=
  ∀ text address, read text = .ok address ↔ Spells text.toList address

theorem read_faithful : read.Faithful := by
  intro text address
  rw [← ofText_eq_ok_iff, read]
  cases ofText text with
  | error reason => simp [Except.mapError]
  | ok found => simp [Except.mapError]

def letter (upper : Bool) (value : Nat) : Char := (digitsOf upper).getD value '0'

/-- An address as it may be written: behind a marker, with the case of every digit chosen apart, the
last digit being digit zero. -/
def written (address : Address) (marker : List Char) (upper : Nat → Bool) : List Char :=
  marker ++ ((List.range 40).map fun place =>
    letter (upper place) (address.toNat / 16 ^ place % 16)).reverse

theorem digit_letter (upper : Bool) {value : Nat} (small : value < 16) :
    Digit (letter upper value) value := by
  have inside : value < (digitsOf upper).length := by cases upper <;> exact small
  refine ⟨upper, ?_⟩
  rw [letter, List.getD_eq_getElem?_getD, List.getElem?_eq_getElem inside, Option.getD_some]

theorem ofDigits_places (number size : Nat) :
    Nat.ofDigits 16 ((List.range size).map fun place => number / 16 ^ place % 16) =
      number % 16 ^ size := by
  induction size with
  | zero => simp [Nat.mod_one]
  | succ size ih =>
    rw [List.range_succ, List.map_append, Nat.ofDigits_append, ih, List.length_map, List.length_range,
      List.map_singleton, Nat.ofDigits_singleton, Nat.mod_pow_succ]

theorem spells_written (address : Address) {marker : List Char} (known : marker ∈ markers)
    (upper : Nat → Bool) : Spells (address.written marker upper) address := by
  refine ⟨marker, known, _, ((List.range 40).map fun place => address.toNat / 16 ^ place % 16).reverse,
    rfl, by simp, ?_, ?_⟩
  · rw [List.forall₂_reverse_iff, List.forall₂_map_left_iff, List.forall₂_map_right_iff]
    exact List.forall₂_same.mpr fun place _ => digit_letter _ (Nat.mod_lt _ (by decide))
  · rw [List.reverse_reverse, ofDigits_places]
    exact (Nat.mod_eq_of_lt address.word.isLt).symm

end Address

end PrecompileBridge
