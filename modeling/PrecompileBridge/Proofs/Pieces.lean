import PrecompileBridge.Denylist

/-!
How a comma-separated text falls into pieces. Splitting and trimming are told by what they leave: the
pieces joined by commas are the text, and around what trimming leaves stand only blanks. A comma is no
blank, so blanks at the ends of a text are blanks at the ends of its first and last piece.
-/
namespace PrecompileBridge

namespace Text

theorem split_eq_splitOn (separator : Char) (text : List Char) :
    split separator text = text.splitOn separator := by
  induction text with
  | nil => rfl
  | cons c rest ih =>
    simp only [List.splitOn, List.splitOnP_cons_eq_if_modifyHead, beq_iff_eq, split] at ih ⊢
    by_cases here : c = separator
    · rw [if_pos here, if_pos here, ih]
    · rw [if_neg here, if_neg here, ih]
      split <;> simp_all [List.splitOnP_ne_nil]

def Blank (text : List Char) : Prop := ∀ c ∈ text, isBlank c = true

instance (text : List Char) : Decidable (Blank text) :=
  decidable_of_iff (text.all isBlank = true) List.all_eq_true

theorem Blank.append {first second : List Char} (early : Blank first) (late : Blank second) :
    Blank (first ++ second) := by
  intro c member
  rcases List.mem_append.mp member with among | among
  · exact early c among
  · exact late c among

/-- What lies between the blanks at the ends of a text. -/
structure Trimmed (text core : List Char) : Prop where
  between : ∃ lead trail, Blank lead ∧ Blank trail ∧ text = lead ++ core ++ trail
  starts : ∀ c, core.head? = some c → isBlank c = false
  ends : ∀ c, core.getLast? = some c → isBlank c = false

theorem blank_takeWhile (text : List Char) : Blank (text.takeWhile isBlank) :=
  List.all_eq_true.mp List.all_takeWhile

theorem dropWhile_starts (text : List Char) (c : Char)
    (first : (text.dropWhile isBlank).head? = some c) : isBlank c = false := by
  have stopped := List.head?_dropWhile_not isBlank text
  rwa [first] at stopped

theorem dropWhile_blank_append {blanks rest : List Char} (blank : Blank blanks)
    (starts : ∀ c, rest.head? = some c → isBlank c = false) :
    (blanks ++ rest).dropWhile isBlank = rest := by
  rw [List.dropWhile_append_of_pos blank]
  cases rest with
  | nil => rfl
  | cons c more => rw [List.dropWhile_cons_of_neg (by simp [starts c rfl])]

theorem trimmed_trim (text : List Char) : Trimmed text (trim text) := by
  have front : text.takeWhile isBlank ++ text.dropWhile isBlank = text :=
    List.takeWhile_append_dropWhile
  have back := congrArg List.reverse
    (List.takeWhile_append_dropWhile (p := isBlank) (l := (text.dropWhile isBlank).reverse))
  rw [List.reverse_append, List.reverse_reverse] at back
  refine ⟨⟨text.takeWhile isBlank, ((text.dropWhile isBlank).reverse.takeWhile isBlank).reverse,
    blank_takeWhile text, ?_, ?_⟩, ?_, ?_⟩
  · intro c member
    exact blank_takeWhile _ c (List.mem_reverse.mp member)
  · rw [List.append_assoc, trim, back, front]
  · intro c first
    apply dropWhile_starts text c
    rw [trim] at first
    rw [← back, List.head?_append, first, Option.some_or]
  · intro c last
    rw [trim, List.getLast?_reverse] at last
    exact dropWhile_starts _ c last

theorem trim_eq_iff {text core : List Char} : trim text = core ↔ Trimmed text core := by
  constructor
  · intro same
    exact same ▸ trimmed_trim text
  · intro ⟨⟨lead, trail, before, after, whole⟩, starts, ends⟩
    subst whole
    have reversed : Blank trail.reverse := fun c member => after c (List.mem_reverse.mp member)
    by_cases empty : core = []
    · subst empty
      have blanks : Blank (lead ++ [] ++ trail) := (before.append (List.forall_mem_nil _)).append after
      rw [trim, ← List.append_nil (lead ++ [] ++ trail),
        dropWhile_blank_append blanks (fun c first => absurd first (by simp))]
      rfl
    · have front : (lead ++ core ++ trail).dropWhile isBlank = core ++ trail := by
        rw [List.append_assoc]
        apply dropWhile_blank_append before
        intro c first
        apply starts c
        obtain ⟨d, more, parts⟩ := List.exists_cons_of_ne_nil empty
        rw [parts] at first ⊢
        exact first
      have back : (core ++ trail).reverse.dropWhile isBlank = core.reverse := by
        rw [List.reverse_append]
        apply dropWhile_blank_append reversed
        intro c first
        apply ends c
        rwa [List.head?_reverse] at first
      rw [trim, front, back, List.reverse_reverse]

theorem trim_eq_nil_iff {text : List Char} : trim text = [] ↔ Blank text := by
  rw [trim_eq_iff]
  constructor
  · intro ⟨⟨lead, trail, before, after, whole⟩, _, _⟩
    rw [whole]
    exact (before.append (List.forall_mem_nil _)).append after
  · intro blank
    exact ⟨⟨text, [], blank, List.forall_mem_nil _, by simp⟩, by simp, by simp⟩

/-- Blanks at the ends make no difference to what trimming leaves. -/
theorem trim_padded {lead trail : List Char} (before : Blank lead) (after : Blank trail)
    (text : List Char) : trim (lead ++ text ++ trail) = trim text := by
  obtain ⟨⟨front, back, early, late, same⟩, starts, ends⟩ := trimmed_trim text
  refine trim_eq_iff.mpr ⟨⟨lead ++ front, back ++ trail, before.append early, late.append after, ?_⟩,
    starts, ends⟩
  calc
    lead ++ text ++ trail = lead ++ (front ++ trim text ++ back) ++ trail := by rw [← same]
    _ = lead ++ front ++ trim text ++ (back ++ trail) := by simp only [List.append_assoc]

theorem ne_comma_of_blank {c : Char} (blank : isBlank c = true) : c ≠ ',' := by
  intro comma
  subst comma
  contradiction

theorem split_cons_of_ne {separator c : Char} (apart : c ≠ separator) (rest : List Char) :
    ∃ piece pieces, split separator rest = piece :: pieces ∧
      split separator (c :: rest) = (c :: piece) :: pieces := by
  obtain ⟨piece, pieces, parts⟩ : ∃ piece pieces, split separator rest = piece :: pieces := by
    apply List.exists_cons_of_ne_nil
    rw [split_eq_splitOn]
    exact List.splitOn_ne_nil separator rest
  refine ⟨piece, pieces, parts, ?_⟩
  simp only [split, if_neg apart, parts]

theorem split_concat_of_ne {separator c : Char} (apart : c ≠ separator) (text : List Char) :
    ∃ pieces piece, split separator text = pieces ++ [piece] ∧
      split separator (text ++ [c]) = pieces ++ [piece ++ [c]] := by
  induction text with
  | nil => exact ⟨[], [], rfl, by simp [split, apart]⟩
  | cons d rest ih =>
    obtain ⟨pieces, piece, parts, longer⟩ := ih
    by_cases here : d = separator
    · refine ⟨[] :: pieces, piece, ?_, ?_⟩
      · rw [split, if_pos here, parts, List.cons_append]
      · rw [List.cons_append, split, if_pos here, longer, List.cons_append]
    · cases pieces with
      | nil => exact ⟨[], d :: piece, by simp [split, here, parts], by simp [split, here, longer]⟩
      | cons first more =>
        exact ⟨(d :: first) :: more, piece, by simp [split, here, parts],
          by simp [split, here, longer]⟩

theorem trimmed_pieces_cons {c : Char} (blank : isBlank c = true) (text : List Char) :
    (split ',' (c :: text)).map trim = (split ',' text).map trim := by
  obtain ⟨piece, pieces, parts, longer⟩ := split_cons_of_ne (ne_comma_of_blank blank) text
  have same : trim (c :: piece) = trim piece := by
    simp only [trim, List.dropWhile_cons_of_pos blank]
  rw [parts, longer, List.map_cons, List.map_cons, same]

theorem trimmed_pieces_concat {c : Char} (blank : isBlank c = true) (text : List Char) :
    (split ',' (text ++ [c])).map trim = (split ',' text).map trim := by
  obtain ⟨pieces, piece, parts, longer⟩ := split_concat_of_ne (ne_comma_of_blank blank) text
  have same : trim (piece ++ [c]) = trim piece :=
    trim_padded (List.forall_mem_nil _) (List.forall_mem_singleton.mpr blank) piece
  rw [parts, longer, List.map_append, List.map_append, List.map_singleton, List.map_singleton, same]

theorem trimmed_pieces_blank_append {lead : List Char} (blank : Blank lead) (text : List Char) :
    (split ',' (lead ++ text)).map trim = (split ',' text).map trim := by
  induction lead with
  | nil => rfl
  | cons c rest ih =>
    obtain ⟨first, others⟩ := List.forall_mem_cons.mp blank
    rw [List.cons_append, trimmed_pieces_cons first, ih others]

theorem trimmed_pieces_append_blank {trail : List Char} (blank : Blank trail) (text : List Char) :
    (split ',' (text ++ trail)).map trim = (split ',' text).map trim := by
  induction trail generalizing text with
  | nil => rw [List.append_nil]
  | cons c rest ih =>
    obtain ⟨first, others⟩ := List.forall_mem_cons.mp blank
    rw [List.append_cons, ih others, trimmed_pieces_concat first]

/-- Trimming the pieces of a text does all that trimming the text does before. -/
theorem trimmed_pieces_trim (text : List Char) :
    (split ',' (trim text)).map trim = (split ',' text).map trim := by
  obtain ⟨⟨lead, trail, before, after, same⟩, _, _⟩ := trimmed_trim text
  calc
    (split ',' (trim text)).map trim
      = (split ',' (trim text ++ trail)).map trim := (trimmed_pieces_append_blank after _).symm
    _ = (split ',' (lead ++ (trim text ++ trail))).map trim :=
      (trimmed_pieces_blank_append before _).symm
    _ = (split ',' text).map trim := by rw [← List.append_assoc, ← same]

end Text

end PrecompileBridge
