import NestedSearch.Proofs.Resolution

/-!
# Chains as they are shown

A message shows a chain as the list of its paths, and neither the comma between two paths nor the
brackets around them are kept out of the names of fields. So a chain cannot be read back from its
text. Still, two chains of one path never look alike (`Definition.describe_chainTo_inj`): both list
ancestors of that path, each of which goes on from those before it with a dot. Where one list has an
ancestor that the other one leaves out, the one text has a comma or ends, and the other one has a
dot.
-/

namespace NestedSearch

namespace FieldPath

theorem toString_join (p q : FieldPath) : (p.join q).toString = p.toString ++ "." ++ q.toString := by
  unfold toString
  rw [names_join, String.intercalate_append_of_ne_nil (by simp [names, segments])
    (by simp [names, segments])]

/-- A descendant is written like its ancestor, a dot and more. -/
theorem toList_toString_of_isAncestorOf {a b : FieldPath} (h : a.isAncestorOf b = true) :
    ∃ more, b.toString.toList = a.toString.toList ++ separator :: more := by
  obtain ⟨q, rfl⟩ := isAncestorOf_iff.mp h
  refine ⟨q.toString.toList, ?_⟩
  rw [toString_join]
  simp [separator]

/-- Paths as a chain lists them. -/
def listed (paths : List FieldPath) : String := ", ".intercalate (paths.map toString)

/-- What comes after a path in a list that these paths end. -/
def following (paths : List FieldPath) : List Char :=
  if paths = [] then [] else ',' :: ' ' :: (listed paths).toList

theorem toList_listed_cons (a : FieldPath) (rest : List FieldPath) :
    (listed (a :: rest)).toList = a.toString.toList ++ following rest := by
  cases rest with
  | nil => simp [listed, following]
  | cons b rest => simp [listed, following]

/-- A comma is no dot. -/
theorem following_ne (paths : List FieldPath) (more : List Char) :
    following paths ≠ separator :: more := by
  unfold following separator
  split <;> simp

/-- A list that has the first path looks different from one that has none but later ones. -/
theorem listed_cons_ne {a : FieldPath} {later as bs : List FieldPath}
    (hlater : ∀ b ∈ later, a.isAncestorOf b = true) (hbs : bs.Sublist later) :
    listed (a :: as) ≠ listed bs := by
  intro h
  have htext := congrArg String.toList h
  rw [toList_listed_cons] at htext
  cases bs with
  | nil =>
    have hempty := (List.append_eq_nil_iff.mp htext).1
    exact a.toString_ne_empty (String.toList_eq_nil_iff.mp hempty)
  | cons b bs =>
    obtain ⟨more, hmore⟩ := toList_toString_of_isAncestorOf (hlater b (hbs.subset List.mem_cons_self))
    rw [toList_listed_cons, hmore, List.append_assoc] at htext
    exact following_ne as _ (List.append_cancel_left htext)

/-- **Of paths that lie inside one another, no two selections look alike.** -/
theorem eq_of_listed_eq {all as bs : List FieldPath}
    (hall : all.Pairwise fun a b => a.isAncestorOf b = true) (has : as.Sublist all)
    (hbs : bs.Sublist all) (h : listed as = listed bs) : as = bs := by
  induction all generalizing as bs with
  | nil => rw [List.sublist_nil.mp has, List.sublist_nil.mp hbs]
  | cons a all ih =>
    obtain ⟨hbelow, hall⟩ := List.pairwise_cons.mp hall
    rcases List.sublist_cons_iff.mp has with has' | ⟨as, rfl, has'⟩
    · rcases List.sublist_cons_iff.mp hbs with hbs' | ⟨bs, rfl, -⟩
      · exact ih hall has' hbs' h
      · exact absurd h.symm (listed_cons_ne hbelow has')
    · rcases List.sublist_cons_iff.mp hbs with hbs' | ⟨bs, rfl, hbs'⟩
      · exact absurd h (listed_cons_ne hbelow hbs')
      · have htext := congrArg String.toList h
        rw [toList_listed_cons, toList_listed_cons] at htext
        have hrest : following as = following bs := List.append_cancel_left htext
        unfold following at hrest
        -- Both lists end here, or go on behind the same comma.
        cases as with
        | nil => cases bs <;> first | rfl | simp at hrest
        | cons b as =>
          cases bs with
          | nil => simp at hrest
          | cons c bs =>
            simp only [reduceCtorEq, if_false, List.cons.injEq, true_and] at hrest
            rw [ih hall has' hbs' (String.toList_inj.mp hrest)]

end FieldPath

namespace NestingChain

theorem describe_eq (c : NestingChain) : c.describe = "[" ++ FieldPath.listed c.paths ++ "]" := rfl

end NestingChain

namespace Definition

theorem paths_chainTo_sublist (d : Definition) (p : FieldPath) :
    (d.chainTo p).paths.Sublist p.ancestors := by
  rw [paths_chainTo]
  exact List.filter_sublist

theorem chainTo_eq_of_paths_eq {d d' : Definition} {p : FieldPath}
    (h : (d.chainTo p).paths = (d'.chainTo p).paths) : d.chainTo p = d'.chainTo p := by
  have hscopes := d.scopes_chainTo p
  rw [h, ← scopes_chainTo] at hscopes
  exact congrArg NestingChain.mk hscopes

/-- **Chains of one path in two schemas look alike only if they are the same.** -/
theorem describe_chainTo_inj {d d' : Definition} {p : FieldPath} :
    (d.chainTo p).describe = (d'.chainTo p).describe ↔ d.chainTo p = d'.chainTo p := by
  refine ⟨fun h => ?_, congrArg NestingChain.describe⟩
  have hlisted := congrArg String.toList h
  simp only [NestingChain.describe_eq, String.toList_append] at hlisted
  refine chainTo_eq_of_paths_eq (FieldPath.eq_of_listed_eq (FieldPath.ancestors_pairwise p)
    (paths_chainTo_sublist d p) (paths_chainTo_sublist d' p) ?_)
  exact String.toList_inj.mp (List.append_cancel_left (List.append_cancel_right hlisted))

end Definition

end NestedSearch
