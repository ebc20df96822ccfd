import NestedSearch.Proofs.Corpus.Algebra
import NestedSearch.Proofs.Corpus.Evaluation
import NestedSearch.Proofs.Placement.Containment
import NestedSearch.Proofs.Placement.Limits

/-!
# Scopes around several clauses

A scope asks for one instance of its object. Whether there is one that meets some of the clauses
can be asked for each clause on its own; whether there is one that meets all of them cannot, for
then each clause may have an instance of its own. So scopes distribute over disjunctions, and only
narrow conjunctions (`search_nested_clauses`).

The two forms are placed alike: what the scope needs is written out once around the clauses, or
around each of them (`Derivation.nested_clauses`). They are not tried in the same order, though, and
what is tried first may decide or fail. Where both come to an answer, it does not matter what they
have left out (`eq_of_anyInstance`, `of_anyInstance`).
-/

namespace NestedSearch

/-! ## Clauses one by one -/

/-- The clauses, each with the number of leaves that precede it. -/
def Predicate.numbered (ordinal : Nat) : List Predicate → List (Nat × Predicate)
  | [] => []
  | p :: ps => (ordinal, p) :: numbered (ordinal + p.leafCount) ps

theorem Predicate.numbered_map {wrap : Predicate → Predicate}
    (hwrap : ∀ p, (wrap p).leafCount = p.leafCount) (ordinal : Nat) (ps : List Predicate) :
    numbered ordinal (ps.map wrap) = (numbered ordinal ps).map fun x => (x.1, wrap x.2) := by
  induction ps generalizing ordinal with
  | nil => rfl
  | cons p ps ih =>
    rw [List.map_cons, numbered, numbered, hwrap, ih, List.map_cons]

namespace Evaluation

variable {e : Evaluation} {d : DocumentPart} {operator : BoolOperator} {ordinal : Nat}
  {ps : List Predicate}

/-- Either the first clause decides, or the others are left to. -/
theorem acceptsClauses_cons_ok {p : Predicate} {accepted : Bool}
    (h : e.acceptsClauses d operator ordinal (p :: ps) = .ok accepted) :
    (e.accepts d ordinal p = .ok (operator = .or) ∧ accepted = decide (operator = .or)) ∨
      (e.accepts d ordinal p = .ok (operator = .and) ∧
        e.acceptsClauses d operator (ordinal + p.leafCount) ps = .ok accepted) := by
  obtain ⟨first, hfirst, h⟩ := bind_eq_ok_iff.mp h
  rw [hfirst]
  cases operator <;> cases first
  · exact .inl ⟨rfl, by cases h; rfl⟩
  · exact .inr ⟨rfl, h⟩
  · exact .inr ⟨rfl, h⟩
  · exact .inl ⟨rfl, by cases h; rfl⟩

/-- If a combination has the value that one clause decides, it has it from one of them. -/
theorem exists_of_acceptsClauses
    (h : e.acceptsClauses d operator ordinal ps = .ok (operator = .or)) :
    ∃ x ∈ Predicate.numbered ordinal ps, e.accepts d x.1 x.2 = .ok (operator = .or) := by
  induction ps generalizing ordinal with
  | nil => cases operator <;> cases h
  | cons p ps ih =>
    rcases acceptsClauses_cons_ok h with ⟨hfirst, -⟩ | ⟨-, hrest⟩
    · exact ⟨(ordinal, p), List.mem_cons_self, hfirst⟩
    · obtain ⟨x, hx, haccepts⟩ := ih hrest
      exact ⟨x, List.mem_cons_of_mem _ hx, haccepts⟩

/-- If it has the other value, all of them have been tried and have it. -/
theorem forall_of_acceptsClauses
    (h : e.acceptsClauses d operator ordinal ps = .ok (operator = .and)) :
    ∀ x ∈ Predicate.numbered ordinal ps, e.accepts d x.1 x.2 = .ok (operator = .and) := by
  induction ps generalizing ordinal with
  | nil =>
    intro x hx
    cases hx
  | cons p ps ih =>
    rcases acceptsClauses_cons_ok h with ⟨-, hdecides⟩ | ⟨hfirst, hrest⟩
    · cases operator <;> cases hdecides
    · exact List.forall_mem_cons.mpr ⟨hfirst, ih hrest⟩

/-! ## One instance for all clauses, or one for each -/

section Instances

variable {base : Option FieldPath} {instances : List Document} {wrap : Predicate → Predicate}
  {inside outside : Bool} (hcount : ∀ p, (wrap p).leafCount = p.leafCount)
  (hwrap : ∀ ordinal p, e.accepts d ordinal (wrap p) =
    anyAccepted (fun v => e.accepts ⟨v, base⟩ ordinal p) instances)

include hcount hwrap

/-- A clause in a scope of its own that decides. -/
theorem exists_of_wrappedClauses
    (h : e.acceptsClauses d operator ordinal (ps.map wrap) = .ok (operator = .or)) :
    ∃ x ∈ Predicate.numbered ordinal ps,
      anyAccepted (fun v => e.accepts ⟨v, base⟩ x.1 x.2) instances = .ok (operator = .or) := by
  obtain ⟨y, hy, haccepts⟩ := exists_of_acceptsClauses h
  rw [Predicate.numbered_map hcount] at hy
  obtain ⟨x, hx, rfl⟩ := List.mem_map.mp hy
  exact ⟨x, hx, (hwrap _ _).symm.trans haccepts⟩

theorem forall_of_wrappedClauses
    (h : e.acceptsClauses d operator ordinal (ps.map wrap) = .ok (operator = .and)) :
    ∀ x ∈ Predicate.numbered ordinal ps,
      anyAccepted (fun v => e.accepts ⟨v, base⟩ x.1 x.2) instances = .ok (operator = .and) := by
  intro x hx
  rw [← hwrap]
  apply forall_of_acceptsClauses h (x.1, wrap x.2)
  rw [Predicate.numbered_map hcount]
  exact List.mem_map_of_mem (f := fun x => (x.1, wrap x.2)) hx

/-- **Some instance meets some clause, in whichever order they are tried.** -/
theorem eq_of_anyInstance
    (hinside : anyAccepted (fun v => e.acceptsClauses ⟨v, base⟩ .or ordinal ps) instances =
      .ok inside)
    (houtside : e.acceptsClauses d .or ordinal (ps.map wrap) = .ok outside) :
    inside = outside := by
  cases inside with
  | true =>
    obtain ⟨v, hv, hclauses⟩ := (eq_true_iff_of_anyAccepted hinside).mp rfl
    obtain ⟨x, hx, haccepts⟩ := exists_of_acceptsClauses hclauses
    cases outside with
    | true => rfl
    | false =>
      have hnone := forall_of_wrappedClauses hcount hwrap houtside x hx
      cases haccepts.symm.trans (anyAccepted_eq_false_iff.mp hnone v hv)
  | false =>
    have hnone := anyAccepted_eq_false_iff.mp hinside
    cases outside with
    | false => rfl
    | true =>
      obtain ⟨x, hx, hsome⟩ := exists_of_wrappedClauses hcount hwrap houtside
      obtain ⟨v, hv, haccepts⟩ := (eq_true_iff_of_anyAccepted hsome).mp rfl
      cases haccepts.symm.trans (forall_of_acceptsClauses (hnone v hv) x hx)

/-- **An instance that meets all clauses is one for each of them.** -/
theorem of_anyInstance
    (hinside : anyAccepted (fun v => e.acceptsClauses ⟨v, base⟩ .and ordinal ps) instances =
      .ok true)
    (houtside : e.acceptsClauses d .and ordinal (ps.map wrap) = .ok outside) :
    outside = true := by
  obtain ⟨v, hv, hclauses⟩ := (eq_true_iff_of_anyAccepted hinside).mp rfl
  cases outside with
  | true => rfl
  | false =>
    obtain ⟨x, hx, hnone⟩ := exists_of_wrappedClauses hcount hwrap houtside
    have hrefused := anyAccepted_eq_false_iff.mp hnone v hv
    cases hrefused.symm.trans (forall_of_acceptsClauses hclauses x hx)

end Instances

/-- The scopes that lead to a nested object are entered as one. -/
theorem accepts_within_target {scope : SearchScope} {path : FieldPath} {outer : ScopedResolution}
    (houter : scope.resolve none path .nested = .ok outer)
    (hrequire : outer.require .nested = .ok ()) (document : Document) (p : Predicate) :
    e.accepts ⟨document, none⟩ ordinal (p.within (outer.chain.after none)) =
      anyAccepted (fun v => e.accepts ⟨v, some outer.path⟩ ordinal p)
        (DocumentPart.objectsAt ⟨document, none⟩ outer.path) := by
  have hagree : scope.Agreement (.joinUnder Frame.top.root path) outer :=
    SearchScope.agreement houter
  have hchain := (Frame.isAnchored_top.residual hagree).chain
  have hlast := ((Frame.StandsIn.top scope).nested hagree hrequire).opened_eq
  rw [List.nil_append, Enclosure.scopes_ofScopes, List.getLast?_map] at hlast
  obtain ⟨innermost, hinner, hpath⟩ := Option.map_eq_some_iff.mp hlast.symm
  obtain ⟨above, habove⟩ := List.getLast?_eq_some_iff.mp hinner
  have habove : outer.chain.after none = above ++ [innermost] := habove
  rw [show Frame.top.opened = none from rfl, habove] at hchain
  rw [habove, accepts_within hchain (by intro s _ base hbase; cases hbase), hpath]

end Evaluation

/-! ## The two forms of a query -/

section Compile

variable {scope : SearchScope} {config : CompilerConfig} {operator : BoolOperator}
  {path : FieldPath} {ps : List Predicate}

/-- **In a scope clauses are placed as they are in scopes of their own**, but for where the scopes
    are written. -/
theorem Placement.Derivation.nested_clauses {frame : Frame} {outer : ScopedResolution}
    {r r' : Placed} (houter : scope.resolve frame.root path .nested = .ok outer)
    (h : Derivation scope config { frame with root := some outer.path, opened := some outer.path }
      (.bool operator ps) r)
    (h' : Derivation scope config frame (.bool operator (ps.map (.nested path))) r') :
    ∃ qs, r.predicate = .bool operator qs ∧
      r'.predicate = .bool operator (qs.map (.within (outer.chain.after frame.opened))) := by
  induction ps generalizing r r' with
  | nil =>
    cases h
    cases h'
    exact ⟨[], rfl, rfl⟩
  | cons p ps ih =>
    cases h with
    | clause hfirst hrest =>
      cases h' with
      | clause hfirst' hrest' =>
        obtain ⟨qs, hqs, hqs'⟩ := ih hrest hrest'
        cases hqs
        cases hqs'
        cases hfirst' with
        | nested houter' hrequire' hinner' =>
          cases houter.symm.trans houter'
          rw [hinner'.predicate_eq hfirst rfl rfl]
          exact ⟨_, rfl, rfl⟩

theorem compile_nested_clauses {q q' : CompiledQuery}
    (h : compile scope config (.nested path (.bool operator ps)) = .ok q)
    (h' : compile scope config (.bool operator (ps.map (.nested path))) = .ok q') :
    ∃ outer qs, scope.resolve none path .nested = .ok outer ∧ outer.require .nested = .ok () ∧
      q.predicate = (Predicate.bool operator qs).within (outer.chain.after none) ∧
      q'.predicate = .bool operator (qs.map (.within (outer.chain.after none))) := by
  obtain ⟨r, hr, hpredicate⟩ := derivation_of_compile h
  obtain ⟨r', hr', hpredicate'⟩ := derivation_of_compile h'
  cases hr with
  | @nested _ _ _ outer inner houter hrequire hinner =>
    obtain ⟨qs, hqs, hqs'⟩ := hinner.nested_clauses houter hr'
    exact ⟨outer, qs, houter, hrequire, hpredicate.trans (by rw [hqs]; rfl),
      hpredicate'.trans hqs'⟩

/-- Where the scopes are written does not matter to which leaves there are. -/
theorem leaves_map_within (scopes : List NestingScope) (qs : List Predicate) :
    (Predicate.bool operator (qs.map (.within scopes))).leaves =
      ((Predicate.bool operator qs).within scopes).leaves := by
  rw [Placement.leaves_within, Predicate.leaves, Predicate.leaves, Predicate.leavesOf_eq_flatMap,
    Predicate.leavesOf_eq_flatMap, List.flatMap_map]
  simp only [Placement.leaves_within]

end Compile

/-! ## Searches -/

section Search

variable {scope : SearchScope} {config : CompilerConfig} {c : Corpus} {path : FieldPath}
  {ps : List Predicate} {hits hits' : List Hit}

section Verdicts

variable {outer : ScopedResolution} {qs : List Predicate} {i : TargetIndex}
  {entry : String × Document} {inside outside : Bool}

theorem verdict_or_within (houter : scope.resolve none path .nested = .ok outer)
    (hrequire : outer.require .nested = .ok ())
    (h : c.verdict scope ((Predicate.bool .or qs).within (outer.chain.after none)) i entry =
      .ok inside)
    (h' : c.verdict scope (.bool .or (qs.map (.within (outer.chain.after none)))) i entry =
      .ok outside) : inside = outside := by
  rw [Corpus.verdict, Evaluation.accepts_within_target houter hrequire] at h
  rw [Corpus.verdict, leaves_map_within] at h'
  exact Evaluation.eq_of_anyInstance (Placement.leafCount_within _)
    (fun _ p => Evaluation.accepts_within_target houter hrequire entry.2 p) h h'

theorem verdict_and_within (houter : scope.resolve none path .nested = .ok outer)
    (hrequire : outer.require .nested = .ok ())
    (h : c.verdict scope ((Predicate.bool .and qs).within (outer.chain.after none)) i entry =
      .ok true)
    (h' : c.verdict scope (.bool .and (qs.map (.within (outer.chain.after none)))) i entry =
      .ok outside) : outside = true := by
  rw [Corpus.verdict, Evaluation.accepts_within_target houter hrequire] at h
  rw [Corpus.verdict, leaves_map_within] at h'
  exact Evaluation.of_anyInstance (Placement.leafCount_within _)
    (fun _ p => Evaluation.accepts_within_target houter hrequire entry.2 p) h h'

end Verdicts

/-- **Scopes distribute over disjunctions and narrow conjunctions.** A disjunction in a scope has
    the hits of the disjunction of its clauses, each in a scope of its own. Of a conjunction, the
    hits in one scope are among those of the clauses in scopes of their own. The clauses may be
    any predicates. -/
theorem search_nested_clauses :
    (Finds scope config c (.nested path (.bool .or ps)) hits →
        Finds scope config c (.bool .or (ps.map (.nested path))) hits' → hits = hits') ∧
      (Finds scope config c (.nested path (.bool .and ps)) hits →
        Finds scope config c (.bool .and (ps.map (.nested path))) hits' → hits ⊆ hits') := by
  constructor
  · rintro ⟨q, hq, hsearch⟩ ⟨q', hq', hsearch'⟩
    obtain ⟨outer, qs, houter, hrequire, hqs, hqs'⟩ := compile_nested_clauses hq hq'
    refine Corpus.hits_eq_of_search hsearch hsearch' rfl fun hit hhit => ?_
    obtain ⟨i, hi, entry, hentry, rfl⟩ := Corpus.mem_hitsIn_iff.mp hhit
    have hinside := Corpus.verdict_of_search hsearch hi hentry
    have houtside := Corpus.verdict_of_search hsearch' hi hentry
    rw [hqs] at hinside
    rw [hqs'] at houtside
    exact decide_eq_decide.mp (verdict_or_within houter hrequire hinside houtside)
  · rintro ⟨q, hq, hsearch⟩ ⟨q', hq', hsearch'⟩ hit hhit
    obtain ⟨outer, qs, houter, hrequire, hqs, hqs'⟩ := compile_nested_clauses hq hq'
    obtain ⟨i, hi, entry, hentry, rfl⟩ :=
      Corpus.mem_hitsIn_iff.mp (Corpus.mem_hitsIn_of_search hsearch hhit)
    have hinside := Corpus.verdict_of_search hsearch hi hentry
    have houtside := Corpus.verdict_of_search hsearch' hi hentry
    rw [hqs, decide_eq_true hhit] at hinside
    rw [hqs'] at houtside
    exact of_decide_eq_true (verdict_and_within houter hrequire hinside houtside)

end Search

namespace Sample

/-- Two orders with a number and a label each: one has them in two lines, the other in one. -/
def splitOrders : Corpus :=
  (Corpus.empty.insert ⟨"shop", "s1"⟩
    (.object [("orders", .object [("lines", .list [.object [("sku", .text "a")],
      .object [("note", .object [("tag", .object [("label", .text "b")])])]])])])).insert
    ⟨"shop", "s2"⟩ (.object [("orders", .object [("lines",
      .object [("sku", .text "c"), ("note", .object [("tag", .object [("label", .text "d")])])])])])

/-- A number and, by its name, a label. -/
def lineClauses : List Predicate := [.leaf ⟨[⟨sku, []⟩], .exists⟩, .named "note.labelled" .empty]

end Sample

/-- What `search_nested_clauses` says of two clauses, one of them named, that an order meets in two
    different lines. Their conjunction in one scope has fewer hits. -/
theorem search_nested_clauses_sample :
    let path : FieldPath := ⟨Sample.orders, [Sample.lines]⟩
    let found := Finds Sample.scope .default Sample.splitOrders
    found (.nested path (.bool .or Sample.lineClauses)) [⟨"shop", "s1"⟩, ⟨"shop", "s2"⟩] ∧
      found (.bool .or (Sample.lineClauses.map (.nested path)))
        [⟨"shop", "s1"⟩, ⟨"shop", "s2"⟩] ∧
      found (.nested path (.bool .and Sample.lineClauses)) [⟨"shop", "s2"⟩] ∧
      ∃ hits, found (.bool .and (Sample.lineClauses.map (.nested path))) hits ∧
        [⟨"shop", "s2"⟩] ⊆ hits ∧ hits = [⟨"shop", "s1"⟩, ⟨"shop", "s2"⟩] := by
  intro path found
  have hboth : found (.bool .and (Sample.lineClauses.map (.nested path)))
      [⟨"shop", "s1"⟩, ⟨"shop", "s2"⟩] := finds_of_toOption (by decide +kernel)
  have hone : found (.nested path (.bool .and Sample.lineClauses)) [⟨"shop", "s2"⟩] :=
    finds_of_toOption (by decide +kernel)
  have hany : found (.nested path (.bool .or Sample.lineClauses))
      [⟨"shop", "s1"⟩, ⟨"shop", "s2"⟩] := finds_of_toOption (by decide +kernel)
  obtain ⟨hits, hhits⟩ := Option.isSome_iff_exists.mp (by decide +kernel :
    ((compile Sample.scope .default
      (.bool .or (Sample.lineClauses.map (.nested path)))).toOption.bind fun q =>
        (Sample.splitOrders.hitsOf Sample.scope q.predicate).toOption).isSome = true)
  have heach : found (.bool .or (Sample.lineClauses.map (.nested path))) hits :=
    finds_of_toOption hhits
  have hsame := search_nested_clauses.1 hany heach
  exact ⟨hany, hsame ▸ heach, hone, _, hboth, search_nested_clauses.2 hone hboth, rfl⟩

end NestedSearch
