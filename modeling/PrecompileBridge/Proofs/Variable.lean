import PrecompileBridge.Proofs.Pieces

/-!
Denylists from the environment. The value of a variable is trimmed as a whole before it is read as a
list; since the pieces are trimmed as well, that makes no difference to what is read. The default
variable may be unset or blank, and then nothing is disabled. A value that encodes no text is taken for
no value at all, so it disables nothing either. None of this depends on how addresses are read.
-/
namespace PrecompileBridge.Denylist

open Text (Blank Trimmed)

theorem textOf?_eq_some_iff {value : Option ByteArray} {text : String} :
    textOf? value = some text ↔ value = some text.toUTF8 := by
  have decoded (bytes : ByteArray) : String.fromUTF8? bytes = some text ↔ bytes = text.toUTF8 := by
    unfold String.fromUTF8?
    split
    · rename_i valid
      rw [Option.some_inj, ← String.toByteArray_inj, String.toUTF8_eq_toByteArray]
      rfl
    · rename_i invalid
      refine iff_of_false (by simp) ?_
      intro same
      rw [same] at invalid
      exact invalid text.isValidUTF8
  cases value with
  | none => simp [textOf?]
  | some bytes => rw [textOf?, Option.bind_some, decoded, Option.some_inj]

variable {read : Address.Reader}

theorem entries_trim (text : String) :
    entries (String.ofList (Text.trim text.toList)) = entries text := by
  rw [entries, entries, String.toList_ofList, Text.trimmed_pieces_trim]

theorem parse_trim (text : String) :
    parse (String.ofList (Text.trim text.toList)) read = parse text read := by
  rw [parse, parse, entries_trim]

theorem ofVariable_of_text (key text : String) :
    ofVariable key (some text.toUTF8) read =
      if (Text.trim text.toList).isEmpty then .error (.blankVariable key) else parse text read := by
  rw [ofVariable, textOf?_eq_some_iff.mpr rfl, ← parse_trim text]

theorem ofVariable_of_blank {key text : String} (blank : Blank text.toList) :
    ofVariable key (some text.toUTF8) read = .error (.blankVariable key) := by
  rw [ofVariable_of_text, Text.trim_eq_nil_iff.mpr blank]
  rfl

theorem ofVariable_of_solid {key text : String} (solid : ¬ Blank text.toList) :
    ofVariable key (some text.toUTF8) read = parse text read := by
  rw [← Text.trim_eq_nil_iff, ← List.isEmpty_iff] at solid
  rw [ofVariable_of_text, if_neg solid]

theorem parse_of_blank {text : String} (blank : Blank text.toList) : parse text read = .ok empty := by
  rw [← parse_trim, Text.trim_eq_nil_iff.mpr blank]
  rfl

theorem readAll_cases (read : Address.Reader) (entries : List String) :
    (∃ addresses, readAll read entries = .ok addresses ∧ addresses.length = entries.length) ∨
      ∃ entry reason, readAll read entries = .error (.invalidAddress entry reason) := by
  induction entries with
  | nil => exact .inl ⟨[], rfl, rfl⟩
  | cons entry rest ih =>
    cases found : read entry with
    | error reason => exact .inr ⟨entry, reason, by rw [readAll, found]⟩
    | ok address =>
      rcases ih with ⟨addresses, result, long⟩ | ⟨first, reason, result⟩
      · refine .inl ⟨address :: addresses, by rw [readAll, found, result], ?_⟩
        rw [List.length_cons, List.length_cons, long]
      · exact .inr ⟨first, reason, by rw [readAll, found, result]⟩

theorem parse_cases (read : Address.Reader) (text : String) :
    (∃ addresses, parse text read = .ok (ofList addresses) ∧
        addresses.length = (entries text).length) ∨
      ∃ entry reason, parse text read = .error (.invalidAddress entry reason) := by
  rcases readAll_cases read (entries text) with ⟨addresses, result, long⟩ | ⟨entry, reason, result⟩
  · exact .inl ⟨addresses, by rw [parse, result], long⟩
  · exact .inr ⟨entry, reason, by rw [parse, result]⟩

theorem ofDefaultVariable_of_text (text : String) :
    ofDefaultVariable (some text.toUTF8) read = parse text read := by
  by_cases blank : Blank text.toList
  · rw [ofDefaultVariable, ofVariable_of_blank blank, parse_of_blank blank]
  · rw [ofDefaultVariable, ofVariable_of_solid blank]
    rcases parse_cases read text with ⟨addresses, result, _⟩ | ⟨entry, reason, result⟩
    · rw [result]
    · rw [result]

/-- A variable that holds a text is read as that text is, but that a blank one is reported; the default
variable is read as its text is, or as the empty text where it is unset. -/
theorem ofVariable_agrees (key text : String) :
    (∀ other, ofVariable key (some text.toUTF8) read = .error (.blankVariable other) ↔
      other = key ∧ ∀ c ∈ text.toList, Text.isBlank c = true) ∧
    ((¬ ∀ c ∈ text.toList, Text.isBlank c = true) →
      ofVariable key (some text.toUTF8) read = parse text read) ∧
    ofDefaultVariable (some text.toUTF8) read = parse text read ∧
    ofDefaultVariable none read = parse "" read := by
  refine ⟨?_, ofVariable_of_solid, ofDefaultVariable_of_text text, ?_⟩
  · intro other
    by_cases blank : Blank text.toList
    · rw [ofVariable_of_blank blank]
      refine ⟨?_, ?_⟩
      · intro same
        cases same
        exact ⟨rfl, blank⟩
      · intro ⟨same, _⟩
        rw [same]
    · rw [ofVariable_of_solid blank]
      refine iff_of_false ?_ fun both => blank both.2
      rcases parse_cases read text with ⟨addresses, result, _⟩ | ⟨entry, reason, result⟩
      · simp [result]
      · simp [result]
  · have nothing : Blank "".toList := List.forall_mem_nil _
    rw [parse_of_blank nothing]
    rfl

theorem ofVariable_agrees_comma :
    ofVariable "DENIED" (some "\tnope ,\n".toUTF8) = parse "\tnope ,\n" ∧
      parse "\tnope ,\n" = .error (.invalidAddress "nope" "invalid string length") := by
  have solid : ¬ Blank "\tnope ,\n".toList := by decide
  exact ⟨(ofVariable_agrees "DENIED" "\tnope ,\n").2.1 solid, rfl⟩

theorem lists_empty (address : Address) : empty.lists address = false := rfl

theorem entries_eq_nil_iff {text : String} :
    entries text = [] ↔ ∀ piece ∈ text.toList.splitOn ',', Blank piece := by
  rw [entries, Text.split_eq_splitOn, List.map_eq_nil_iff, List.filter_eq_nil_iff,
    List.forall_mem_map]
  simp [Text.trim_eq_nil_iff]

theorem parse_nothing_iff {text : String} :
    (∃ denylist, parse text read = .ok denylist ∧ ∀ address, denylist.lists address = false) ↔
      ∀ piece ∈ text.toList.splitOn ',', Blank piece := by
  rw [← entries_eq_nil_iff]
  refine ⟨?_, ?_⟩
  · intro ⟨denylist, parsed, nothing⟩
    rcases parse_cases read text with ⟨addresses, result, long⟩ | ⟨entry, reason, result⟩
    · have same := Except.ok.inj (result.symm.trans parsed)
      subst same
      have none : addresses = [] := List.eq_nil_iff_forall_not_mem.mpr fun address member =>
        absurd (lists_ofList.mpr member) (by simp [nothing address])
      rw [← List.length_eq_zero_iff, ← long, none, List.length_nil]
    · cases result.symm.trans parsed
  · intro none
    exact ⟨empty, by rw [parse, none, readAll]; rfl, lists_empty⟩

/-- The default variable disables nothing where it is unset, where its value encodes no text, and where
that text has blank pieces only. In every other case there is an error, or an address that is listed. -/
theorem default_disables_nothing_iff (value : Option ByteArray) :
    (∃ denylist, ofDefaultVariable value read = .ok denylist ∧
        ∀ address, denylist.lists address = false) ↔
      value = none ∨ (∃ bytes, value = some bytes ∧ ∀ text : String, text.toUTF8 ≠ bytes) ∨
        ∃ text : String, value = some text.toUTF8 ∧
          ∀ piece ∈ text.toList.splitOn ',', ∀ c ∈ piece, Text.isBlank c = true := by
  cases value with
  | none =>
    refine iff_of_true ⟨empty, rfl, lists_empty⟩ (.inl rfl)
  | some bytes =>
    cases decoded : textOf? (some bytes) with
    | none =>
      have result : ofDefaultVariable (some bytes) read = .ok empty := by
        rw [ofDefaultVariable, ofVariable, decoded]
      refine iff_of_true ⟨empty, result, lists_empty⟩ (.inr (.inl ⟨bytes, rfl, ?_⟩))
      intro text same
      rw [textOf?_eq_some_iff.mpr (congrArg some same.symm)] at decoded
      contradiction
    | some text =>
      have encoded := textOf?_eq_some_iff.mp decoded
      rw [encoded, ofDefaultVariable_of_text, parse_nothing_iff]
      refine ⟨?_, ?_⟩
      · intro blank
        exact .inr (.inr ⟨text, rfl, blank⟩)
      · intro either
        rcases either with unset | ⟨other, same, spoilt⟩ | ⟨other, same, blank⟩
        · contradiction
        · exact absurd (Option.some.inj same) (spoilt text)
        · rw [String.toUTF8_eq_toByteArray, String.toUTF8_eq_toByteArray, Option.some_inj,
            String.toByteArray_inj] at same
          exact same ▸ blank

def cutOff : ByteArray := "0xaa00000000000000000000000000000000000001".toUTF8.push 0xff

/-- Such a list disables nothing, although it is set and is no text of blank pieces. -/
theorem cut_off_list_disables_nothing :
    ofDefaultVariable (some cutOff) = .ok empty ∧
      ¬ (some cutOff = none ∨ ∃ text : String, some cutOff = some text.toUTF8 ∧
        ∀ piece ∈ text.toList.splitOn ',', ∀ c ∈ piece, Text.isBlank c = true) := by
  refine ⟨rfl, ?_⟩
  intro either
  rcases either with unset | ⟨text, same, _⟩
  · contradiction
  · have decoded := textOf?_eq_some_iff.mpr same
    contradiction

end PrecompileBridge.Denylist
