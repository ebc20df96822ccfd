/-!
# Maps in the order of their names

A map from names to values, listed in the order of the names. That each name occurs once and
that the list is ordered are one fact, and it is part of the type. The map that a list of
entries builds does not depend on the order of entries with different names; of two entries with
one name the later one counts.
-/

namespace NestedSearch

/-- Values by name, each name at most once. -/
structure NameMap (α : Type) where
  entries : List (String × α)
  sorted : entries.Pairwise fun a b => a.1 < b.1

namespace NameMap

variable {α : Type}

/-- Nothing under any name. -/
def empty : NameMap α := ⟨[], .nil⟩

/-- Puts an entry where its name belongs; an entry of that name gives way. -/
def place (name : String) (value : α) : List (String × α) → List (String × α)
  | [] => [(name, value)]
  | e :: es =>
    if name < e.1 then (name, value) :: e :: es
    else if name = e.1 then (name, value) :: es
    else e :: place name value es

theorem mem_place {name : String} {value : α} {es : List (String × α)} {e : String × α}
    (h : e ∈ place name value es) : e = (name, value) ∨ e ∈ es := by
  induction es with
  | nil => simpa [place] using h
  | cons d ds ih =>
    rw [place] at h
    split at h
    · simpa using h
    · split at h
      · simp only [List.mem_cons] at h ⊢
        rcases h with h | h
        · exact .inl h
        · exact .inr (.inr h)
      · simp only [List.mem_cons] at h ⊢
        rcases h with h | h
        · exact .inr (.inl h)
        · rcases ih h with h | h
          · exact .inl h
          · exact .inr (.inr h)

theorem sorted_place (name : String) (value : α) {es : List (String × α)}
    (h : es.Pairwise fun a b => a.1 < b.1) :
    (place name value es).Pairwise fun a b => a.1 < b.1 := by
  induction es with
  | nil => simp [place]
  | cons e es ih =>
    have ⟨he, hes⟩ := List.pairwise_cons.1 h
    rw [place]
    split
    · next hlt =>
      refine List.pairwise_cons.2 ⟨?_, h⟩
      intro d hd
      rcases List.mem_cons.1 hd with rfl | hd
      · exact hlt
      · exact String.lt_trans hlt (he d hd)
    · split
      · next heq =>
        exact List.pairwise_cons.2 ⟨fun d hd => heq ▸ he d hd, hes⟩
      · next hlt hne =>
        refine List.pairwise_cons.2 ⟨?_, ih hes⟩
        intro d hd
        rcases mem_place hd with rfl | hd
        · exact Std.lt_of_le_of_ne (String.not_lt.1 hlt) (Ne.symm hne)
        · exact he d hd

/-- Binds a name to a value, whatever it was bound to before. -/
def insert (m : NameMap α) (name : String) (value : α) : NameMap α :=
  ⟨place name value m.entries, sorted_place name value m.sorted⟩

/-- The value under a name. -/
def get? (m : NameMap α) (name : String) : Option α := m.entries.lookup name

/-- Whether the name is bound. -/
def contains (m : NameMap α) (name : String) : Bool := (m.get? name).isSome

/-- How many names are bound. -/
def size (m : NameMap α) : Nat := m.entries.length

/-- The map of these entries; of two with one name the later one counts. -/
def ofList (entries : List (String × α)) : NameMap α :=
  entries.foldl (fun m e => m.insert e.1 e.2) empty

end NameMap

end NestedSearch
