import PrecompileBridge.Address

/-!
Finite maps keyed by addresses. Entries are kept in ascending order of their keys, so a listing has
one order whatever the order of the insertions, and equal maps are equal lists.
-/
namespace PrecompileBridge

abbrev Entries (α : Type) := List (Address × α)

namespace Entries

variable {α : Type}

/-- Entries ascend strictly by key, hence no key occurs twice. -/
def Ascending (entries : Entries α) : Prop :=
  entries.Pairwise (fun lower upper => lower.1 < upper.1)

/-- Puts an entry at its place, over an entry of the same key. -/
def place (key : Address) (value : α) : Entries α → Entries α
  | [] => [(key, value)]
  | entry :: rest =>
    if key < entry.1 then (key, value) :: entry :: rest
    else if key = entry.1 then (key, value) :: rest
    else entry :: place key value rest

def find (key : Address) : Entries α → Option α
  | [] => none
  | entry :: rest => if entry.1 = key then some entry.2 else find key rest

theorem mem_place {key : Address} {value : α} {entry : Address × α} {entries : Entries α}
    (member : entry ∈ place key value entries) : entry = (key, value) ∨ entry ∈ entries := by
  induction entries with
  | nil => simpa [place] using member
  | cons head rest ih =>
    simp only [place] at member
    split at member
    · simpa using member
    · split at member
      · rcases List.mem_cons.mp member with same | later
        · exact Or.inl same
        · exact Or.inr (List.mem_cons_of_mem head later)
      · rcases List.mem_cons.mp member with same | later
        · exact Or.inr (same ▸ List.mem_cons_self ..)
        · rcases ih later with same | older
          · exact Or.inl same
          · exact Or.inr (List.mem_cons_of_mem head older)

theorem place_ascending (key : Address) (value : α) {entries : Entries α}
    (sorted : Ascending entries) : Ascending (place key value entries) := by
  induction entries with
  | nil => simp [place, Ascending]
  | cons head rest ih =>
    have smallest : ∀ entry ∈ rest, head.1 < entry.1 := (List.pairwise_cons.mp sorted).1
    simp only [place]
    split
    · rename_i below
      refine List.Pairwise.cons (fun entry member => ?_) sorted
      rcases List.mem_cons.mp member with same | later
      · exact same ▸ below
      · have above := smallest entry later
        simp only [Address.lt_def] at below above ⊢
        omega
    · split
      · rename_i same
        refine List.Pairwise.cons (fun entry member => ?_) sorted.of_cons
        have above := smallest entry member
        simpa only [Address.lt_def, same] using above
      · rename_i notBelow distinct
        refine List.Pairwise.cons (fun entry member => ?_) (ih sorted.of_cons)
        rcases mem_place member with same | older
        · subst same
          exact Address.lt_of_not_lt_of_ne notBelow distinct
        · exact smallest entry older

theorem find_place (key other : Address) (value : α) (entries : Entries α) :
    find other (place key value entries) = if key = other then some value else find other entries := by
  induction entries with
  | nil => simp [place, find]
  | cons head rest ih =>
    simp only [place]
    split
    · simp [find]
    · split
      · rename_i same
        by_cases hit : key = other
        · simp [find, hit]
        · simp [find, hit, same ▸ hit]
      · rename_i distinct
        by_cases hit : key = other
        · have miss : ¬ head.1 = other := fun same => distinct (hit.trans same.symm)
          rw [find, if_neg miss, ih, if_pos hit, if_pos hit]
        · simp [find, ih, hit]

/-- Where keys ascend, a search finds exactly the entries. -/
theorem find_eq_some_iff {key : Address} {value : α} {entries : Entries α}
    (sorted : Ascending entries) : find key entries = some value ↔ (key, value) ∈ entries := by
  induction entries with
  | nil => simp [find]
  | cons head rest ih =>
    have smallest : ∀ entry ∈ rest, head.1 < entry.1 := (List.pairwise_cons.mp sorted).1
    obtain ⟨first, content⟩ := head
    simp only [find, List.mem_cons, Prod.mk.injEq]
    by_cases hit : first = key
    · subst hit
      have absent : (first, value) ∉ rest := fun later =>
        Address.ne_of_lt (smallest (first, value) later) rfl
      simp [absent, eq_comm]
    · simp [hit, Ne.symm hit, ih sorted.of_cons]

theorem place_perm (key : Address) (value : α) {entries : Entries α} (sorted : Ascending entries) :
    (((find key entries).map (key, ·)).toList ++ place key value entries).Perm
      ((key, value) :: entries) := by
  induction entries with
  | nil => exact .refl _
  | cons head rest ih =>
    have smallest : ∀ entry ∈ rest, head.1 < entry.1 := (List.pairwise_cons.mp sorted).1
    simp only [place]
    split
    · rename_i below
      -- Keys ascend, so one below the first is nowhere.
      have absent : find key (head :: rest) = none := by
        refine Option.eq_none_iff_forall_ne_some.mpr fun old found => ?_
        rcases List.mem_cons.mp ((find_eq_some_iff sorted).mp found) with rfl | later
        · exact Address.ne_of_lt below rfl
        · have above := smallest _ later
          simp only [Address.lt_def] at below above
          omega
      rw [absent]
      exact .refl _
    · split
      · rename_i same
        subst same
        simp only [find, if_pos, Option.map_some, Option.toList_some]
        exact .swap _ _ _
      · rename_i distinct
        simp only [find, if_neg (Ne.symm distinct)]
        calc
          List.Perm (_ ++ head :: place key value rest) (head :: (_ ++ place key value rest)) :=
            List.perm_middle
          List.Perm _ (head :: (key, value) :: rest) := (ih sorted.of_cons).cons head
          List.Perm _ ((key, value) :: head :: rest) := .swap _ _ _

end Entries

/-- A finite map from addresses. -/
structure AddressMap (α : Type) where
  entries : Entries α
  ascending : entries.Ascending

namespace AddressMap

variable {α : Type}

def empty : AddressMap α := ⟨[], List.Pairwise.nil⟩

instance : Inhabited (AddressMap α) := ⟨empty⟩

def insert (map : AddressMap α) (key : Address) (value : α) : AddressMap α :=
  ⟨map.entries.place key value, Entries.place_ascending key value map.ascending⟩

def get? (map : AddressMap α) (key : Address) : Option α := map.entries.find key

def contains (map : AddressMap α) (key : Address) : Bool := (map.get? key).isSome

def keys (map : AddressMap α) : List Address := map.entries.map Prod.fst

def values (map : AddressMap α) : List α := map.entries.map Prod.snd

def size (map : AddressMap α) : Nat := map.entries.length

@[simp] theorem get?_empty (key : Address) : (empty : AddressMap α).get? key = none := rfl

@[simp] theorem get?_insert (map : AddressMap α) (key other : Address) (value : α) :
    (map.insert key value).get? other = if key = other then some value else map.get? other :=
  Entries.find_place key other value map.entries

theorem get?_eq_some_iff {map : AddressMap α} {key : Address} {value : α} :
    map.get? key = some value ↔ (key, value) ∈ map.entries :=
  Entries.find_eq_some_iff map.ascending

theorem insert_perm (map : AddressMap α) (key : Address) (value : α) :
    (((map.get? key).map (key, ·)).toList ++ (map.insert key value).entries).Perm
      ((key, value) :: map.entries) :=
  Entries.place_perm key value map.ascending

theorem mem_keys_iff {map : AddressMap α} {key : Address} :
    key ∈ map.keys ↔ (map.get? key).isSome := by
  simp only [keys, List.mem_map, Option.isSome_iff_exists, get?_eq_some_iff]
  constructor
  · rintro ⟨⟨_, value⟩, member, rfl⟩
    exact ⟨value, member⟩
  · rintro ⟨value, member⟩
    exact ⟨(key, value), member, rfl⟩

theorem keys_nodup (map : AddressMap α) : map.keys.Nodup :=
  List.pairwise_map.mpr (map.ascending.imp Address.ne_of_lt)

theorem values_map_some (map : AddressMap α) : map.values.map some = map.keys.map map.get? := by
  simp only [values, keys, List.map_map]
  refine List.map_congr_left fun entry member => ?_
  exact (get?_eq_some_iff.mpr member).symm

/-- A map is known by its look-ups. -/
theorem ext_get? {first second : AddressMap α} (same : ∀ key, first.get? key = second.get? key) :
    first = second := by
  have distinct (map : AddressMap α) : map.entries.Nodup := by
    refine map.ascending.imp ?_
    rintro entry _ below rfl
    exact Address.ne_of_lt below rfl
  have members : ∀ entry, entry ∈ first.entries ↔ entry ∈ second.entries := by
    intro entry
    rw [← get?_eq_some_iff, ← get?_eq_some_iff, same]
  have perm := (List.perm_ext_iff_of_nodup (distinct first) (distinct second)).mpr members
  have equal : first.entries = second.entries := by
    refine perm.eq_of_pairwise ?_ first.ascending second.ascending
    intro lower upper _ _ below above
    simp only [Address.lt_def] at below above
    omega
  cases first
  cases second
  simp only [mk.injEq]
  exact equal

end AddressMap

abbrev AddressSet := AddressMap Unit

namespace AddressSet

def ofList (addresses : List Address) : AddressSet :=
  addresses.foldl (fun set address => set.insert address ()) AddressMap.empty

theorem contains_ofList {addresses : List Address} {address : Address} :
    (ofList addresses).contains address = true ↔ address ∈ addresses := by
  have general : ∀ set : AddressSet,
      (addresses.foldl (fun set address => set.insert address ()) set).contains address = true ↔
        address ∈ addresses ∨ set.contains address = true := by
    induction addresses with
    | nil => simp
    | cons first rest ih =>
      intro set
      rw [List.foldl_cons, ih]
      by_cases here : first = address
      · simp [AddressMap.contains, here]
      · simp [AddressMap.contains, here, Ne.symm here]
  rw [ofList, general]
  simp [AddressMap.contains]

theorem ext_contains {first second : AddressSet}
    (same : ∀ address, first.contains address = true ↔ second.contains address = true) :
    first = second := by
  apply AddressMap.ext_get?
  intro address
  have alike := same address
  unfold AddressMap.contains at alike
  cases found : first.get? address <;> cases other : second.get? address <;>
    simp_all

instance : BEq AddressSet := ⟨fun first second => first.keys == second.keys⟩

end AddressSet

end PrecompileBridge
