import PrecompileBridge.Proofs.Pieces
import PrecompileBridge.Proofs.Spelling

/-!
The grammar of denylists, for every reader that accepts the spellings of addresses and nothing else. A
list is read exactly if each of its pieces is blank or holds an address, and it disables the addresses
that are held, however they are spelled and padded, in whatever order and however often. Otherwise the
first piece that is neither is reported.
-/
namespace PrecompileBridge.Denylist

open Text (Blank Trimmed)

/-- What a piece of a list holds: nothing where it is blank, an address where it is a spelling between
blanks. -/
inductive Holds (piece : List Char) : Option Address → Prop
  | nothing (blank : Blank piece) : Holds piece none
  | address {core : List Char} {address : Address} (trimmed : Trimmed piece core)
    (spells : address.Spells core) : Holds piece (some address)

def Accepted (piece : List Char) : Prop := ∃ entry, Holds piece entry

theorem holds_none_iff {piece : List Char} : Holds piece none ↔ Text.trim piece = [] := by
  rw [Text.trim_eq_nil_iff]
  refine ⟨?_, .nothing⟩
  intro holds
  cases holds with
  | nothing blank => exact blank

theorem holds_some_iff {piece : List Char} {address : Address} :
    Holds piece (some address) ↔ address.Spells (Text.trim piece) := by
  refine ⟨?_, .address (Text.trimmed_trim piece)⟩
  intro holds
  cases holds with
  | address trimmed spells => rwa [Text.trim_eq_iff.mpr trimmed]

theorem Holds.trim_ne_nil {piece : List Char} {address : Address}
    (holds : Holds piece (some address)) : Text.trim piece ≠ [] :=
  (holds_some_iff.mp holds).ne_nil

theorem Holds.unique {piece : List Char} {entry other : Option Address} (holds : Holds piece entry)
    (again : Holds piece other) : entry = other := by
  cases entry with
  | none =>
    cases other with
    | none => rfl
    | some address => exact absurd (holds_none_iff.mp holds) again.trim_ne_nil
  | some address =>
    cases other with
    | none => exact absurd (holds_none_iff.mp again) holds.trim_ne_nil
    | some address' =>
      exact congrArg some ((holds_some_iff.mp holds).unique (holds_some_iff.mp again))

theorem Holds.comma_notMem {piece : List Char} {entry : Option Address} (holds : Holds piece entry) :
    ',' ∉ piece := by
  have blanks {text : List Char} (blank : Blank text) : ',' ∉ text := fun member =>
    Text.ne_comma_of_blank (blank ',' member) rfl
  cases holds with
  | nothing blank => exact blanks blank
  | address trimmed spells =>
    obtain ⟨lead, trail, before, after, whole⟩ := trimmed.between
    rw [whole]
    intro member
    rcases List.mem_append.mp member with member | member
    · rcases List.mem_append.mp member with member | member
      · exact blanks before member
      · exact (Address.alphabet_plain ',' (spells.mem_alphabet ',' member)).2.1 rfl
    · exact blanks after member

theorem holds_written (address : Address) {marker : List Char} (known : marker ∈ Address.markers)
    (upper : Nat → Bool) {lead trail : List Char} (before : Blank lead) (after : Blank trail) :
    Holds (lead ++ address.written marker upper ++ trail) (some address) := by
  have spells := address.spells_written known upper
  have solid : ∀ c ∈ address.written marker upper, Text.isBlank c = false := fun c member =>
    (Address.alphabet_plain c (spells.mem_alphabet c member)).2.2
  refine .address ⟨⟨lead, trail, before, after, rfl⟩, ?_, ?_⟩ spells
  · intro c first
    exact solid c (List.mem_of_head? first)
  · intro c last
    exact solid c (List.mem_of_getLast? last)

theorem held_iff {pieces : List (List Char)} {entries : List (Option Address)}
    (written : List.Forall₂ Holds pieces entries) (address : Address) :
    (∃ piece ∈ pieces, Holds piece (some address)) ↔ some address ∈ entries := by
  induction written with
  | nil => simp
  | @cons piece entry _ _ holds _ ih =>
    have same : Holds piece (some address) ↔ some address = entry :=
      ⟨fun held => held.unique holds, fun equal => equal ▸ holds⟩
    simp [← ih, same]

theorem splitOn_written {pieces : List (List Char)} {entries : List (Option Address)}
    (written : List.Forall₂ Holds pieces entries) (nonempty : pieces ≠ []) :
    ([','].intercalate pieces).splitOn ',' = pieces ∧ ∀ piece ∈ pieces, Accepted piece := by
  have accepted : ∀ piece ∈ pieces, Accepted piece := by
    clear nonempty
    induction written with
    | nil => exact List.forall_mem_nil _
    | cons holds _ ih => exact List.forall_mem_cons.mpr ⟨⟨_, holds⟩, ih⟩
  refine ⟨List.splitOn_intercalate ',' ?_ nonempty, accepted⟩
  intro piece member
  obtain ⟨entry, holds⟩ := accepted piece member
  exact holds.comma_notMem

/-- The entries that pieces leave to be read. -/
def entriesOf (pieces : List (List Char)) : List String :=
  ((pieces.map Text.trim).filter fun piece => !piece.isEmpty).map String.ofList

theorem entries_eq (text : String) : entries text = entriesOf (text.toList.splitOn ',') := by
  rw [entries, Text.split_eq_splitOn, entriesOf]

theorem entriesOf_blank {piece : List Char} (blank : Text.trim piece = [])
    (rest : List (List Char)) : entriesOf (piece :: rest) = entriesOf rest := by
  simp [entriesOf, blank]

theorem entriesOf_solid {piece : List Char} (solid : Text.trim piece ≠ [])
    (rest : List (List Char)) :
    entriesOf (piece :: rest) = String.ofList (Text.trim piece) :: entriesOf rest := by
  simp [entriesOf, solid]

theorem accepted_or_first (pieces : List (List Char)) :
    (∀ piece ∈ pieces, Accepted piece) ∨ ∃ before piece after, pieces = before ++ piece :: after ∧
      (∀ earlier ∈ before, Accepted earlier) ∧ ¬ Accepted piece := by
  induction pieces with
  | nil => exact .inl (List.forall_mem_nil _)
  | cons piece rest ih =>
    by_cases accepted : Accepted piece
    · rcases ih with all | ⟨before, first, after, same, earlier, rejected⟩
      · exact .inl (List.forall_mem_cons.mpr ⟨accepted, all⟩)
      · exact .inr ⟨piece :: before, first, after, by rw [same, List.cons_append],
          List.forall_mem_cons.mpr ⟨accepted, earlier⟩, rejected⟩
    · exact .inr ⟨[], piece, rest, rfl, List.forall_mem_nil _, accepted⟩

section Reader

variable {read : Address.Reader} (faithful : read.Faithful)

include faithful

theorem holds_some_iff_read {piece : List Char} {address : Address} :
    Holds piece (some address) ↔ read (String.ofList (Text.trim piece)) = .ok address := by
  rw [holds_some_iff, faithful, String.toList_ofList]

theorem not_accepted_iff {piece : List Char} :
    ¬ Accepted piece ↔ Text.trim piece ≠ [] ∧
      ∃ reason, read (String.ofList (Text.trim piece)) = .error reason := by
  refine ⟨?_, ?_⟩
  · intro rejected
    refine ⟨fun blank => rejected ⟨none, holds_none_iff.mpr blank⟩, ?_⟩
    cases result : read (String.ofList (Text.trim piece)) with
    | error reason => exact ⟨reason, rfl⟩
    | ok address =>
      exact absurd ⟨some address, (holds_some_iff_read faithful).mpr result⟩ rejected
  · intro ⟨solid, reason, refused⟩ ⟨entry, holds⟩
    cases entry with
    | none => exact solid (holds_none_iff.mp holds)
    | some address => cases ((holds_some_iff_read faithful).mp holds).symm.trans refused

theorem reason_of_rejected {piece : List Char} (rejected : ¬ Accepted piece) :
    ∃ entry reason, Trimmed piece entry.toList ∧ read entry = .error reason := by
  obtain ⟨_, reason, refused⟩ := (not_accepted_iff faithful).mp rejected
  refine ⟨String.ofList (Text.trim piece), reason, ?_, refused⟩
  rw [String.toList_ofList]
  exact Text.trimmed_trim piece

theorem readAll_of_accepted {pieces : List (List Char)} (accepted : ∀ piece ∈ pieces, Accepted piece) :
    ∃ addresses, readAll read (entriesOf pieces) = .ok addresses ∧
      ∀ address, address ∈ addresses ↔ ∃ piece ∈ pieces, Holds piece (some address) := by
  induction pieces with
  | nil => exact ⟨[], rfl, by simp⟩
  | cons piece rest ih =>
    obtain ⟨⟨entry, holds⟩, others⟩ := List.forall_mem_cons.mp accepted
    obtain ⟨addresses, result, members⟩ := ih others
    cases entry with
    | none =>
      have blank := holds_none_iff.mp holds
      refine ⟨addresses, by rw [entriesOf_blank blank, result], ?_⟩
      intro address
      have nothing : ¬ Holds piece (some address) := fun held => held.trim_ne_nil blank
      simp [members, nothing]
    | some first =>
      have found := (holds_some_iff_read faithful).mp holds
      refine ⟨first :: addresses, ?_, ?_⟩
      · rw [entriesOf_solid holds.trim_ne_nil, readAll, found, result]
      · intro address
        have same : Holds piece (some address) ↔ address = first := by
          rw [holds_some_iff_read faithful, found, Except.ok.injEq, eq_comm]
        simp [members, same]

/-- The first piece that is not accepted ends the reading, whatever follows it. -/
theorem readAll_of_rejected {before : List (List Char)} (accepted : ∀ piece ∈ before, Accepted piece)
    {piece : List Char} {reason : String} (solid : Text.trim piece ≠ [])
    (refused : read (String.ofList (Text.trim piece)) = .error reason)
    (after : List (List Char)) :
    readAll read (entriesOf (before ++ piece :: after)) =
      .error (.invalidAddress (String.ofList (Text.trim piece)) reason) := by
  induction before with
  | nil => rw [List.nil_append, entriesOf_solid solid, readAll, refused]
  | cons first rest ih =>
    obtain ⟨⟨entry, holds⟩, others⟩ := List.forall_mem_cons.mp accepted
    rw [List.cons_append]
    cases entry with
    | none => rw [entriesOf_blank (holds_none_iff.mp holds), ih others]
    | some address =>
      have found := (holds_some_iff_read faithful).mp holds
      rw [entriesOf_solid holds.trim_ne_nil, readAll, found, ih others]

section Parse

variable {text : String}

theorem parse_of_accepted (accepted : ∀ piece ∈ text.toList.splitOn ',', Accepted piece) :
    ∃ addresses, parse text read = .ok (ofList addresses) ∧ ∀ address, address ∈ addresses ↔
      ∃ piece ∈ text.toList.splitOn ',', Holds piece (some address) := by
  obtain ⟨addresses, result, members⟩ := readAll_of_accepted faithful accepted
  exact ⟨addresses, by rw [parse, entries_eq, result], members⟩

theorem parse_of_rejected {before after : List (List Char)} {piece : List Char}
    (pieces : text.toList.splitOn ',' = before ++ piece :: after)
    (accepted : ∀ earlier ∈ before, Accepted earlier) (rejected : ¬ Accepted piece)
    {entry : String} (trimmed : Trimmed piece entry.toList) {reason : String}
    (refused : read entry = .error reason) :
    parse text read = .error (.invalidAddress entry reason) := by
  have core : String.ofList (Text.trim piece) = entry := by
    rw [Text.trim_eq_iff.mpr trimmed, String.ofList_toList]
  have solid := ((not_accepted_iff faithful).mp rejected).1
  have result := readAll_of_rejected faithful accepted solid (core ▸ refused) after
  rw [parse, entries_eq, pieces, result, core]

theorem parse_eq_ok_iff {denylist : Denylist} :
    parse text read = .ok denylist ↔
      (∀ piece ∈ text.toList.splitOn ',', Accepted piece) ∧ ∀ address,
        denylist.lists address = true ↔
          ∃ piece ∈ text.toList.splitOn ',', Holds piece (some address) := by
  rcases accepted_or_first (text.toList.splitOn ',') with
    accepted | ⟨before, piece, after, pieces, earlier, rejected⟩
  · obtain ⟨addresses, result, members⟩ := parse_of_accepted faithful accepted
    rw [result, Except.ok.injEq]
    refine ⟨?_, ?_⟩
    · intro same
      subst same
      exact ⟨accepted, fun address => lists_ofList.trans (members address)⟩
    · intro ⟨_, listed⟩
      apply ext_lists
      intro address
      rw [lists_ofList, members, listed]
  · obtain ⟨entry, reason, trimmed, refused⟩ := reason_of_rejected faithful rejected
    rw [parse_of_rejected faithful pieces earlier rejected trimmed refused]
    refine iff_of_false (by simp) ?_
    intro ⟨accepted, _⟩
    exact rejected (accepted piece (by simp [pieces]))

theorem parse_eq_error_iff {error : DenylistError} :
    parse text read = .error error ↔
      ∃ before piece after entry reason, text.toList.splitOn ',' = before ++ piece :: after ∧
        (∀ earlier ∈ before, Accepted earlier) ∧ ¬ Accepted piece ∧ Trimmed piece entry.toList ∧
          read entry = .error reason ∧ error = .invalidAddress entry reason := by
  refine ⟨?_, ?_⟩
  · intro failed
    rcases accepted_or_first (text.toList.splitOn ',') with
      accepted | ⟨before, piece, after, pieces, earlier, rejected⟩
    · obtain ⟨addresses, result, _⟩ := parse_of_accepted faithful accepted
      rw [result] at failed
      contradiction
    · obtain ⟨entry, reason, trimmed, refused⟩ := reason_of_rejected faithful rejected
      rw [parse_of_rejected faithful pieces earlier rejected trimmed refused] at failed
      exact ⟨before, piece, after, entry, reason, pieces, earlier, rejected, trimmed, refused,
        (Except.error.inj failed).symm⟩
  · intro ⟨before, piece, after, entry, reason, pieces, earlier, rejected, trimmed, refused, same⟩
    rw [same]
    exact parse_of_rejected faithful pieces earlier rejected trimmed refused

end Parse

theorem parse_written {pieces : List (List Char)} {entries : List (Option Address)}
    (written : List.Forall₂ Holds pieces entries) {addresses : List Address}
    (listed : ∀ address, address ∈ addresses ↔ some address ∈ entries) :
    parse (String.ofList ([','].intercalate pieces)) read = .ok (ofList addresses) := by
  by_cases nonempty : pieces = []
  · -- The empty text is one blank piece.
    subst nonempty
    cases written
    have none : addresses = [] := List.eq_nil_iff_forall_not_mem.mpr fun address member =>
      absurd ((listed address).mp member) List.not_mem_nil
    rw [none]
    rfl
  · obtain ⟨pieces_found, accepted⟩ := splitOn_written written nonempty
    rw [parse_eq_ok_iff faithful, String.toList_ofList, pieces_found]
    refine ⟨accepted, ?_⟩
    intro address
    rw [lists_ofList, listed, held_iff written]

end Reader

/-- The grammar of denylists. Pieces stand between commas. If each is blank or holds an address, what
is read is the set of the addresses held; otherwise the first other piece is reported, trimmed, with the
reason of the reader. So whatever is written for addresses is read as their set, and they may be
written in any way. -/
theorem parse_iff_grammar {read : Address.Reader} (faithful : read.Faithful) (text : String) :
    (∀ denylist, parse text read = .ok denylist ↔
      (∀ piece ∈ text.toList.splitOn ',', Accepted piece) ∧ ∀ address,
        denylist.lists address = true ↔
          ∃ piece ∈ text.toList.splitOn ',', Holds piece (some address)) ∧
    (∀ error, parse text read = .error error ↔
      ∃ before piece after entry reason, text.toList.splitOn ',' = before ++ piece :: after ∧
        (∀ earlier ∈ before, Accepted earlier) ∧ ¬ Accepted piece ∧ Trimmed piece entry.toList ∧
        read entry = .error reason ∧ error = .invalidAddress entry reason ∧
        error.message = "invalid precompile address: " ++ (entry ++ ": " ++ reason)) ∧
    (∀ pieces entries addresses, List.Forall₂ Holds pieces entries →
      text.toList = [','].intercalate pieces →
      (∀ address, address ∈ addresses ↔ some address ∈ entries) →
      parse text read = .ok (ofList addresses)) ∧
    ∀ (address : Address) (marker lead trail : List Char) (upper : Nat → Bool),
      marker ∈ Address.markers → Blank lead → Blank trail →
      Holds (lead ++ address.written marker upper ++ trail) (some address) := by
  refine ⟨fun denylist => parse_eq_ok_iff faithful, ?_, ?_, ?_⟩
  · intro error
    rw [parse_eq_error_iff faithful]
    refine ⟨?_, ?_⟩
    · intro ⟨before, piece, after, entry, reason, pieces, earlier, rejected, trimmed, refused, same⟩
      exact ⟨before, piece, after, entry, reason, pieces, earlier, rejected, trimmed, refused, same,
        by rw [same]; rfl⟩
    · intro ⟨before, piece, after, entry, reason, pieces, earlier, rejected, trimmed, refused, same, _⟩
      exact ⟨before, piece, after, entry, reason, pieces, earlier, rejected, trimmed, refused, same⟩
  · intro pieces entries addresses written joined listed
    rw [← String.ofList_toList (s := text), joined]
    exact parse_written faithful written listed
  · intro address marker lead trail upper known before after
    exact holds_written address known upper before after

theorem parse_iff_grammar_styles :
    parse ("\t0XAA00000000000000000000000000000000000001,, aa00000000000000000000000000000000000001 ," ++
        "0000000000000000000000000000000000000004") =
      .ok (ofList [.ofNat 0xaa00000000000000000000000000000000000001, .ofNat 4]) := by
  obtain ⟨_, _, rendered, styles⟩ := parse_iff_grammar Address.read_faithful
    ("\t0XAA00000000000000000000000000000000000001,, aa00000000000000000000000000000000000001 ," ++
      "0000000000000000000000000000000000000004")
  have first := styles (.ofNat 0xaa00000000000000000000000000000000000001) ['0', 'X'] ['\t'] []
    (fun _ => true) (by decide) (by decide) (by decide)
  have again := styles (.ofNat 0xaa00000000000000000000000000000000000001) [] [' '] [' ']
    (fun _ => false) (by decide) (by decide) (by decide)
  have other := styles (.ofNat 4) [] [] [] (fun _ => false) (by decide) (by decide) (by decide)
  have blank : Holds [] none := .nothing (List.forall_mem_nil _)
  exact rendered _ _ _ (.cons first (.cons blank (.cons again (.cons other .nil))))
    (by decide +kernel) (by simp)

end PrecompileBridge.Denylist
