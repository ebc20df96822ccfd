import Mathlib.Algebra.GroupWithZero.Nat
import NestedSearch.Proofs.Placement.Limits
import NestedSearch.Proofs.Placement.Scoping

/-!
# What clauses do to one another

The leaves of a query are counted as they are placed, so what comes of a clause depends on the
clauses before it. It depends on nothing but the room that they leave (`place_bool_local`).

A `Course` tells how far a placement gets if there is room for any number of leaves: how many of
them it visits, and whether it reaches the end. With it a placement is known wherever it starts to
count (`expanding_yields`): it comes to one outcome if there is room for the leaves of its course,
and to the limit otherwise.
-/

namespace NestedSearch

namespace Placement

/-! ## Courses -/

/-- How far a placement gets if there is room for any number of leaves. -/
structure Course where
  /-- The leaves that are visited, one that cannot be placed included. -/
  leaves : Nat
  /-- Whether the end is reached. -/
  completes : Bool

namespace Course

/-- A placement that stops before any leaf. -/
def stopped : Course := ⟨0, false⟩

/-- A placement after another one, of which it is part only if the other one reaches its end. -/
def andThen (first rest : Course) : Course :=
  if first.completes then ⟨first.leaves + rest.leaves, rest.completes⟩ else first

end Course

mutual

/-- The course of a tree, with that of what names stand for. -/
def treeCourse (scope : SearchScope) (config : CompilerConfig)
    (expand : Option (Frame → Predicate → Course)) (frame : Frame) : Predicate → Course
  | .leaf l => ⟨1, (settle scope config frame l).toOption.isSome⟩
  | .bool operator clauses =>
    treesCourse scope config expand (frame.clause operator) clauses
  | .not inner => treeCourse scope config expand frame inner
  | .nested path inner =>
    match enter scope frame path with
    | .error _ => .stopped
    | .ok outer =>
      treeCourse scope config expand
        { frame with root := some outer.path, opened := some outer.path } inner
  | .named name params =>
    match expand with
    | none => .stopped
    | some expand =>
      match invoke scope frame name params with
      | .error _ => .stopped
      | .ok x => expand (frame.expansion x.node x.residual) x.predicate
  | .boosted inner boost =>
    match checkBoost boost with
    | .error _ => .stopped
    | .ok () => treeCourse scope config expand frame inner
  | .constantScore inner => treeCourse scope config expand frame inner

/-- The course of clauses. -/
def treesCourse (scope : SearchScope) (config : CompilerConfig)
    (expand : Option (Frame → Predicate → Course)) (frame : Frame) : List Predicate → Course
  | [] => ⟨0, true⟩
  | p :: ps =>
    (treeCourse scope config expand frame p).andThen (treesCourse scope config expand frame ps)

end

/-- The course of a tree in which named predicates stand at most this deeply inside one another. -/
def course (scope : SearchScope) (config : CompilerConfig) :
    (depth : Nat) → Frame → Predicate → Course
  | 0 => treeCourse scope config none
  | depth + 1 => treeCourse scope config (some (course scope config depth))

end Placement

/-- How many leaves the placement of a query visits, up to the one at which it fails, if it does. -/
def leavesVisited (scope : SearchScope) (config : CompilerConfig) (p : Predicate) : Nat :=
  (Placement.course scope config config.maxExpansionDepth .top p).leaves

namespace Placement

section Nodes

variable (scope : SearchScope) (config : CompilerConfig) (depth : Nat) (frame : Frame)

theorem exists_course_eq :
    ∃ expand, course scope config depth = treeCourse scope config expand := by
  cases depth <;> exact ⟨_, rfl⟩

theorem course_leaf (l : Leaf) : course scope config depth frame (.leaf l) =
    ⟨1, (settle scope config frame l).toOption.isSome⟩ := by
  obtain ⟨expand, hexpand⟩ := exists_course_eq scope config depth
  rw [hexpand, treeCourse]

theorem course_noClause (operator : BoolOperator) :
    course scope config depth frame (.bool operator []) = ⟨0, true⟩ := by
  obtain ⟨expand, hexpand⟩ := exists_course_eq scope config depth
  rw [hexpand, treeCourse, treesCourse]

theorem course_clause (operator : BoolOperator) (p : Predicate) (ps : List Predicate) :
    course scope config depth frame (.bool operator (p :: ps)) =
      (course scope config depth (frame.clause operator) p).andThen
        (course scope config depth frame (.bool operator ps)) := by
  obtain ⟨expand, hexpand⟩ := exists_course_eq scope config depth
  rw [hexpand, treeCourse, treesCourse, treeCourse]

theorem course_not (inner : Predicate) :
    course scope config depth frame (.not inner) = course scope config depth frame inner := by
  obtain ⟨expand, hexpand⟩ := exists_course_eq scope config depth
  rw [hexpand, treeCourse]

theorem course_enter (path : FieldPath) (inner : Predicate) :
    course scope config depth frame (.nested path inner) =
      match enter scope frame path with
      | .error _ => .stopped
      | .ok outer => course scope config depth
          { frame with root := some outer.path, opened := some outer.path } inner := by
  obtain ⟨expand, hexpand⟩ := exists_course_eq scope config depth
  rw [hexpand, treeCourse]

theorem course_boost (inner : Predicate) (boost : Float32) :
    course scope config depth frame (.boosted inner boost) =
      match checkBoost boost with
      | .error _ => .stopped
      | .ok () => course scope config depth frame inner := by
  obtain ⟨expand, hexpand⟩ := exists_course_eq scope config depth
  rw [hexpand, treeCourse]

theorem course_constantScore (inner : Predicate) :
    course scope config depth frame (.constantScore inner) =
      course scope config depth frame inner := by
  obtain ⟨expand, hexpand⟩ := exists_course_eq scope config depth
  rw [hexpand, treeCourse]

theorem course_invoke (name : String) (params : ParamBag) :
    course scope config (depth + 1) frame (.named name params) =
      match invoke scope frame name params with
      | .error _ => .stopped
      | .ok x => course scope config depth (frame.expansion x.node x.residual) x.predicate := by
  rw [course, treeCourse]

end Nodes

/-! ## What a course says -/

/-- A placement that takes this course comes to one outcome if there is room for its leaves, and to
    the limit otherwise. -/
structure Course.Yields (limit : Nat) (c : Course) (run : Nat → Except QueryError Placed)
    (outcome : Except QueryError Placed) : Prop where
  run_eq : ∀ used ≤ limit, run used =
    if used + c.leaves ≤ limit then outcome else .error (.tooManyClauses limit)
  completes_eq : c.completes = outcome.toOption.isSome
  leafCount_eq : ∀ used ≤ limit, ∀ r, run used = .ok r → r.predicate.leafCount = c.leaves

namespace Course.Yields

variable {limit : Nat} {c first rest : Course} {outcome x y : Except QueryError Placed}
  {run runFirst runRest : Nat → Except QueryError Placed}

theorem stopped (e : QueryError) :
    Course.stopped.Yields limit (fun _ => .error e) (.error e) where
  run_eq used hused := (if_pos hused).symm
  completes_eq := rfl
  leafCount_eq used _ r h := by cases h

theorem nothing {r : Placed} (hr : r.predicate.leafCount = 0) :
    Course.Yields limit ⟨0, true⟩ (fun _ => .ok r) (.ok r) where
  run_eq used hused := (if_pos hused).symm
  completes_eq := rfl
  leafCount_eq used _ s hs := by
    cases hs
    exact hr

theorem leaf (hx : ∀ r, x = .ok r → r.predicate.leafCount = 1) :
    Course.Yields limit ⟨1, x.toOption.isSome⟩
      (fun used => if limit < used + 1 then .error (.tooManyClauses limit) else x) x where
  run_eq used _ := by
    rcases Nat.lt_or_ge limit (used + 1) with hfull | hroom
    · rw [if_pos hfull, if_neg (Nat.not_le.mpr hfull)]
    · rw [if_neg (Nat.not_lt.mpr hroom), if_pos hroom]
  completes_eq := rfl
  leafCount_eq used _ r hr := by
    split at hr
    · cases hr
    · exact hx r hr

/-- A node around a tree changes what is placed, and no count. -/
theorem map (h : c.Yields limit run outcome) {f : Placed → Placed}
    (hf : ∀ r, (f r).predicate.leafCount = r.predicate.leafCount) :
    c.Yields limit (fun used => (run used).map f) (outcome.map f) where
  run_eq used hused := by
    rw [h.run_eq used hused]
    split <;> rfl
  completes_eq := by
    rw [h.completes_eq]
    cases outcome <;> rfl
  leafCount_eq used hused r hr := by
    obtain ⟨r', hr', rfl⟩ := map_eq_ok_iff.mp hr
    rw [hf, h.leafCount_eq used hused r' hr']

/-- What is placed has found room. -/
theorem fits (h : c.Yields limit run outcome) {used : Nat} (hused : used ≤ limit) {r : Placed}
    (hr : run used = .ok r) : used + c.leaves ≤ limit := by
  by_contra hfull
  rw [h.run_eq used hused, if_neg hfull] at hr
  cases hr

/-- Where the first part fails, it does so after its own leaves; where it ends, the second part
    counts on from there. -/
theorem andThen (hfirst : first.Yields limit runFirst x) (hrest : rest.Yields limit runRest y)
    {f : Placed → Placed → Placed} (hf : ∀ r s used, runRest used = .ok s →
      (f r s).predicate.leafCount = r.predicate.leafCount + s.predicate.leafCount) :
    (first.andThen rest).Yields limit
      (fun used => do
        let r ← runFirst used
        (runRest (used + r.predicate.leafCount)).map (f r))
      (do
        let r ← x
        y.map (f r)) := by
  cases x with
  | error e =>
    -- The second part is never reached, whatever it would have counted.
    have hstops : first.andThen rest = first := by
      rw [Course.andThen, hfirst.completes_eq]
      rfl
    have hrun : ∀ used ≤ limit, (do
        let r ← runFirst used
        (runRest (used + r.predicate.leafCount)).map (f r)) =
          if used + first.leaves ≤ limit then .error e else .error (.tooManyClauses limit) := by
      intro used hused
      rw [hfirst.run_eq used hused]
      split <;> rfl
    rw [hstops]
    refine ⟨hrun, hfirst.completes_eq, ?_⟩
    intro used hused r hr
    rw [hrun used hused] at hr
    split at hr <;> cases hr
  | ok r =>
    have hgoes : first.andThen rest = ⟨first.leaves + rest.leaves, rest.completes⟩ := by
      rw [Course.andThen, hfirst.completes_eq]
      rfl
    have hmap : (do let r ← Except.ok r; y.map (f r)) = y.map (f r) := rfl
    rw [hgoes, hmap]
    -- With room for its leaves the first part comes to `r`, and `r` has as many leaves as it visits,
    -- which is where the second part goes on counting.
    have hroom : ∀ used, used + first.leaves ≤ limit →
        runFirst used = .ok r ∧ r.predicate.leafCount = first.leaves := by
      intro used hfits
      have hrun : runFirst used = .ok r := by rw [hfirst.run_eq used (by omega), if_pos hfits]
      exact ⟨hrun, hfirst.leafCount_eq used (by omega) r hrun⟩
    refine ⟨?_, ?_, ?_⟩
    · intro used hused
      dsimp only
      by_cases hfits : used + first.leaves ≤ limit
      · obtain ⟨hrun, hcount⟩ := hroom used hfits
        rw [hrun]
        show (runRest (used + r.predicate.leafCount)).map (f r) = _
        rw [hcount, hrest.run_eq _ hfits, ← Nat.add_assoc]
        split <;> rfl
      · rw [hfirst.run_eq used hused, if_neg hfits, if_neg (by omega)]
        rfl
    · dsimp only
      rw [hrest.completes_eq]
      cases y <;> rfl
    · intro used hused t ht
      obtain ⟨r', hr', ht⟩ := bind_eq_ok_iff.mp ht
      obtain ⟨s, hs, rfl⟩ := map_eq_ok_iff.mp ht
      have hcount := hfirst.leafCount_eq used hused r' hr'
      rw [hf r' s _ hs, hcount]
      rw [hcount] at hs
      rw [hrest.leafCount_eq _ (hfirst.fits hused hr') s hs]

end Course.Yields

variable {scope : SearchScope} {config : CompilerConfig} {depth : Nat} {frame : Frame}

theorem settle_leafCount {l : Leaf} {r : Placed} (h : settle scope config frame l = .ok r) :
    r.predicate.leafCount = 1 := by
  unfold settle at h
  split at h
  · cases h
  · split at h
    · cases h
      rfl
    · obtain ⟨⟨fields, chain⟩, -, h⟩ := bind_eq_ok_iff.mp h
      cases h
      rw [leafCount_within]
      rfl

theorem leafCount_addClause {r s : Placed} {operator : BoolOperator} {ps : List Predicate}
    (hs : s.predicate = .bool operator ps) :
    (r.addClause s).predicate.leafCount = r.predicate.leafCount + s.predicate.leafCount := by
  rw [Placed.addClause, hs]
  exact leafCount_cons operator r.predicate ps

/-- **Every placement is as its course says.** -/
theorem expanding_yields (scope : SearchScope) (config : CompilerConfig) (depth : Nat)
    (frame : Frame) (p : Predicate) :
    ∃ outcome, (course scope config depth frame p).Yields config.maxClauseCount
      (fun used => expanding scope config depth frame used p) outcome := by
  induction depth, frame, p using expanding_induction with
  | leaf depth frame l =>
    simp only [course_leaf, expanding_settle]
    exact ⟨_, .leaf fun r => settle_leafCount⟩
  | noClause depth frame operator =>
    simp only [course_noClause, expanding_noClause]
    exact ⟨_, .nothing rfl⟩
  | clause depth frame operator p ps ihp ihps =>
    obtain ⟨x, hp⟩ := ihp
    obtain ⟨y, hps⟩ := ihps
    simp only [course_clause, expanding_clause]
    refine ⟨_, hp.andThen hps ?_⟩
    intro r s used hs
    obtain ⟨qs, hqs⟩ := exists_bool_of_expanding _ _ _ _ _ hs
    exact leafCount_addClause hqs
  | not depth frame inner ih =>
    obtain ⟨x, hx⟩ := ih
    simp only [course_not, expanding_not]
    exact ⟨_, hx.map fun r => rfl⟩
  | nested depth frame path inner ih =>
    simp only [course_enter, expanding_enter]
    cases enter scope frame path with
    | error e => exact ⟨_, .stopped e⟩
    | ok outer =>
      obtain ⟨x, hx⟩ := ih _
      exact ⟨_, hx.map fun r => leafCount_within _ _⟩
  | boosted depth frame inner boost ih =>
    simp only [course_boost, expanding_boost]
    cases checkBoost boost with
    | error fault => exact ⟨_, .stopped _⟩
    | ok _ =>
      obtain ⟨x, hx⟩ := ih
      exact ⟨_, hx.map fun r => rfl⟩
  | constantScore depth frame inner ih =>
    obtain ⟨x, hx⟩ := ih
    simp only [course_constantScore, expanding_constantScore]
    exact ⟨_, hx.map fun r => rfl⟩
  | unexpanded frame name params =>
    simp only [expanding_none]
    exact ⟨_, .stopped _⟩
  | named depth frame name params ih =>
    simp only [course_invoke, expanding_invoke]
    cases invoke scope frame name params with
    | error e => exact ⟨_, .stopped e⟩
    | ok x =>
      obtain ⟨y, hy⟩ := ih (frame.expansion x.node x.residual) x.predicate
      exact ⟨_, hy.map fun r => leafCount_within _ _⟩

/-! ## Optional clauses -/

end Placement

/-- The same place inside an `or`. -/
def Frame.asOption (f : Frame) : Frame :=
  { f with optional := true }

/-- The same leaf inside an `or`. -/
def ResolvedLeaf.asOption (l : ResolvedLeaf) : ResolvedLeaf :=
  { l with optional := true }

/-- The same predicate inside an `or`. -/
def Placed.asOption (r : Placed) : Placed :=
  { r with leaves := r.leaves.map (·.asOption), scopes := r.scopes.map fun s => (s.1, true) }

/-- The same predicate as a clause: optional in an `or`. -/
def Placed.asClause (operator : BoolOperator) (r : Placed) : Placed :=
  if operator = .or then r.asOption else r

@[simp] theorem Placed.predicate_asClause (operator : BoolOperator) (r : Placed) :
    (r.asClause operator).predicate = r.predicate := by
  cases operator <;> rfl

theorem Placed.leaves_asClause (operator : BoolOperator) (r : Placed) :
    (r.asClause operator).leaves =
      if operator = .or then r.leaves.map (·.asOption) else r.leaves := by
  cases operator <;> rfl

theorem Placed.addClause_asOption (r s : Placed) :
    r.asOption.addClause s.asOption = (r.addClause s).asOption := by
  simp only [asOption, addClause, List.map_append]

theorem Frame.clause_asOption (f : Frame) (operator : BoolOperator) :
    f.asOption.clause operator = (f.clause operator).asOption := by
  simp only [clause, asOption, Bool.true_or]

theorem Frame.clause_or (f : Frame) : f.clause .or = f.asOption := by
  simp [clause, asOption]

theorem Frame.clause_and (f : Frame) : f.clause .and = f := by
  simp [clause]

namespace Placement

variable (scope config depth frame)

theorem settle_asOption (l : Leaf) :
    settle scope config frame.asOption l = (settle scope config frame l).map (·.asOption) := by
  unfold settle
  cases l.check with
  | error fault => rfl
  | ok _ =>
    cases l.kind.usage? with
    | none => rfl
    | some usage =>
      show (resolveFields scope config frame.root usage none l.fields >>= _) =
        Except.map _ (resolveFields scope config frame.root usage none l.fields >>= _)
      cases resolveFields scope config frame.root usage none l.fields <;> rfl

/-- **Inside an `or`**, what is placed is the same, with all of it optional. -/
theorem expanding_asOption (p : Predicate) (used : Nat) :
    expanding scope config depth frame.asOption used p =
      (expanding scope config depth frame used p).map (·.asOption) := by
  induction depth, frame, p using expanding_induction generalizing used with
  | leaf depth frame l =>
    rw [expanding_settle, expanding_settle, settle_asOption]
    split <;> rfl
  | noClause depth frame operator =>
    rw [expanding_noClause, expanding_noClause]
    rfl
  | clause depth frame operator p ps ihp ihps =>
    rw [expanding_clause, expanding_clause, Frame.clause_asOption, ihp]
    cases expanding scope config depth (frame.clause operator) used p with
    | error e => rfl
    | ok r =>
      show Except.map r.asOption.addClause (expanding scope config depth frame.asOption
        (used + r.predicate.leafCount) _) = Except.map _ (Except.map _ _)
      rw [ihps]
      exact map_comm r.addClause_asOption
  | not depth frame inner ih =>
    rw [expanding_not, expanding_not, ih]
    exact map_comm fun r => rfl
  | nested depth frame path inner ih =>
    rw [expanding_enter, expanding_enter]
    show (enter scope frame path >>= _) = Except.map _ (enter scope frame path >>= _)
    cases enter scope frame path with
    | error e => rfl
    | ok outer =>
      show Except.map _ (expanding scope config depth
        (Frame.asOption { frame with root := some outer.path, opened := some outer.path }) used
          inner) = Except.map _ (Except.map _ _)
      rw [ih]
      exact map_comm fun r => rfl
  | boosted depth frame inner boost ih =>
    rw [expanding_boost, expanding_boost]
    cases checkBoost boost with
    | error fault => rfl
    | ok _ =>
      dsimp only
      rw [ih]
      exact map_comm fun r => rfl
  | constantScore depth frame inner ih =>
    rw [expanding_constantScore, expanding_constantScore, ih]
    exact map_comm fun r => rfl
  | unexpanded frame name params => rfl
  | named depth frame name params ih =>
    rw [expanding_invoke, expanding_invoke]
    show (invoke scope frame name params >>= _) =
      Except.map _ (invoke scope frame name params >>= _)
    cases invoke scope frame name params with
    | error e => rfl
    | ok x =>
      show Except.map _ (expanding scope config depth
        (Frame.asOption (frame.expansion x.node x.residual)) used x.predicate) =
          Except.map _ (Except.map _ _)
      rw [ih]
      exact map_comm fun r => rfl

/-- The course is the same inside an `or`. -/
theorem course_asOption (p : Predicate) :
    course scope config depth frame.asOption p = course scope config depth frame p := by
  induction depth, frame, p using expanding_induction with
  | leaf depth frame l =>
    rw [course_leaf, course_leaf, settle_asOption]
    cases settle scope config frame l <;> rfl
  | noClause depth frame operator => rw [course_noClause, course_noClause]
  | clause depth frame operator p ps ihp ihps =>
    rw [course_clause, course_clause, Frame.clause_asOption, ihp, ihps]
  | not depth frame inner ih => rw [course_not, course_not, ih]
  | nested depth frame path inner ih =>
    rw [course_enter, course_enter]
    show (match enter scope frame path with | .error _ => _ | .ok outer => _) = _
    cases enter scope frame path with
    | error e => rfl
    | ok outer => exact ih { frame with root := some outer.path, opened := some outer.path }
  | boosted depth frame inner boost ih => rw [course_boost, course_boost, ih]
  | constantScore depth frame inner ih => rw [course_constantScore, course_constantScore, ih]
  | unexpanded frame name params => rfl
  | named depth frame name params ih =>
    rw [course_invoke, course_invoke]
    show (match invoke scope frame name params with | .error _ => _ | .ok x => _) = _
    cases invoke scope frame name params with
    | error e => rfl
    | ok x => exact ih (frame.expansion x.node x.residual) x.predicate

/-- The place of a clause, and the same place outside of the combination. -/
theorem expanding_clause_frame (operator : BoolOperator) (p : Predicate) (used : Nat) :
    expanding scope config depth (frame.clause operator) used p =
      (expanding scope config depth frame used p).map (·.asClause operator) := by
  cases operator with
  | and =>
    rw [Frame.clause_and]
    cases expanding scope config depth frame used p <;> rfl
  | or =>
    rw [Frame.clause_or, expanding_asOption]
    cases expanding scope config depth frame used p <;> rfl

theorem course_clause_frame (operator : BoolOperator) (p : Predicate) :
    course scope config depth (frame.clause operator) p = course scope config depth frame p := by
  cases operator with
  | and => rw [Frame.clause_and]
  | or => rw [Frame.clause_or, course_asOption]

/-! ## Clauses one after the other -/

variable {scope config depth frame} {used : Nat} {p : Predicate}

/-- A predicate that can be placed alone, after other leaves. -/
theorem expanding_after_ok {r : Placed} (h : expanding scope config depth frame 0 p = .ok r)
    (hused : used ≤ config.maxClauseCount) :
    expanding scope config depth frame used p =
      if used + r.predicate.leafCount ≤ config.maxClauseCount then .ok r
      else .error (.tooManyClauses config.maxClauseCount) := by
  obtain ⟨x, hyields⟩ := expanding_yields scope config depth frame p
  have hfits := hyields.fits (Nat.zero_le _) h
  have hx : x = .ok r := by
    rw [← h, hyields.run_eq 0 (Nat.zero_le _), if_pos hfits]
  rw [hyields.leafCount_eq 0 (Nat.zero_le _) r h, hyields.run_eq used hused, hx]

/-- A predicate that cannot be placed, after other leaves. -/
theorem expanding_after_error {e : QueryError}
    (h : expanding scope config depth frame 0 p = .error e)
    (he : ∀ limit, e ≠ .tooManyClauses limit) (hused : used ≤ config.maxClauseCount) :
    expanding scope config depth frame used p =
      .error (if used + (course scope config depth frame p).leaves ≤ config.maxClauseCount then e
        else .tooManyClauses config.maxClauseCount) := by
  obtain ⟨x, hyields⟩ := expanding_yields scope config depth frame p
  have hx : x = .error e := by
    have hrun := hyields.run_eq 0 (Nat.zero_le _)
    rw [h] at hrun
    split at hrun
    · exact hrun.symm
    · exact absurd (Except.error.inj hrun) (he _)
  rw [hyields.run_eq used hused, hx]
  split <;> rfl

variable {operator : BoolOperator}

/-- Clauses that can be placed alone and find room together. -/
theorem expanding_clauses {ps : List Predicate} {rs : List Placed} (h : List.Forall₂ (fun p r =>
      expanding scope config depth (frame.clause operator) 0 p = .ok r) ps rs)
    (hroom : used + (rs.map (·.predicate.leafCount)).sum ≤ config.maxClauseCount) :
    expanding scope config depth frame used (.bool operator ps) =
      .ok ⟨.bool operator (rs.map (·.predicate)), rs.flatMap (·.leaves),
        rs.flatMap (·.scopes)⟩ := by
  induction h generalizing used with
  | nil => exact expanding_noClause scope config depth frame used operator
  | @cons p r ps rs hp hps ih =>
    rw [List.map_cons, List.sum_cons, ← Nat.add_assoc] at hroom
    have hfits : used + r.predicate.leafCount ≤ config.maxClauseCount := by omega
    rw [expanding_clause, expanding_after_ok hp (by omega), if_pos hfits]
    show Except.map r.addClause (expanding scope config depth frame (used + r.predicate.leafCount)
      (.bool operator ps)) = _
    rw [ih hroom]
    rfl

/-- A clause that cannot be placed, after clauses that can. -/
theorem expanding_clauses_error {before : List Predicate} (after : List Predicate)
    {rs : List Placed} {e : QueryError} (hbefore : List.Forall₂ (fun p r =>
      expanding scope config depth (frame.clause operator) 0 p = .ok r) before rs)
    (h : expanding scope config depth (frame.clause operator) 0 p = .error e)
    (he : ∀ limit, e ≠ .tooManyClauses limit) (hused : used ≤ config.maxClauseCount) :
    expanding scope config depth frame used (.bool operator (before ++ p :: after)) =
      .error (if used + (rs.map (·.predicate.leafCount)).sum +
            (course scope config depth (frame.clause operator) p).leaves ≤ config.maxClauseCount
          then e
        else .tooManyClauses config.maxClauseCount) := by
  induction hbefore generalizing used with
  | nil =>
    rw [List.nil_append, expanding_clause, expanding_after_error h he hused]
    rfl
  | @cons q r before rs hq hbefore ih =>
    rw [List.cons_append, expanding_clause, expanding_after_ok hq hused, List.map_cons,
      List.sum_cons, ← Nat.add_assoc]
    by_cases hfits : used + r.predicate.leafCount ≤ config.maxClauseCount
    · rw [if_pos hfits]
      show Except.map r.addClause (expanding scope config depth frame
        (used + r.predicate.leafCount) (.bool operator (before ++ p :: after))) = _
      rw [ih hfits]
      rfl
    · rw [if_neg hfits, if_neg (by omega)]
      rfl

end Placement

open Placement

section Local

variable {scope : SearchScope} {config : CompilerConfig} {operator : BoolOperator}

theorem expanding_clause_of_place {p : Predicate} {r : Placed} (h : place scope config p = .ok r) :
    expanding scope config config.maxExpansionDepth (Frame.top.clause operator) 0 p =
      .ok (r.asClause operator) := by
  rw [expanding_clause_frame]
  exact map_eq_ok_iff.mpr ⟨r, h, rfl⟩

theorem expanding_clauses_of_place {ps : List Predicate} {rs : List Placed}
    (h : List.Forall₂ (fun p r => place scope config p = .ok r) ps rs) :
    List.Forall₂ (fun p r => expanding scope config config.maxExpansionDepth
      (Frame.top.clause operator) 0 p = .ok r) ps (rs.map (·.asClause operator)) :=
  List.forall₂_map_right_iff.mpr (h.imp fun _ _ => expanding_clause_of_place)

theorem sum_leafCount_asClause (operator : BoolOperator) (rs : List Placed) :
    ((rs.map (·.asClause operator)).map (·.predicate.leafCount)).sum =
      (rs.map (·.predicate.leafCount)).sum := by
  simp [Function.comp_def]

theorem flatMap_leaves_asClause (operator : BoolOperator) (rs : List Placed) :
    (rs.map (·.asClause operator)).flatMap (·.leaves) =
      if operator = .or then (rs.flatMap (·.leaves)).map (·.asOption)
      else rs.flatMap (·.leaves) := by
  simp only [List.flatMap_map, Placed.leaves_asClause]
  split
  · rw [List.map_flatMap]
  · rfl

end Local

/-- **Placing is local.** Clauses that can each be placed alone, with no more leaves together than
    are allowed, can be placed as a combination, and it consists of what they are alone, with leaves
    that are optional in an `or`. The first clause that cannot be placed alone, other than for the
    number of leaves, fails the combination with its own error, unless the leaves before it and
    those that it visits itself are more than are allowed: then that is the error. -/
theorem place_bool_local (scope : SearchScope) (config : CompilerConfig)
    (operator : BoolOperator) :
    (∀ clauses rs, List.Forall₂ (fun p r => place scope config p = .ok r) clauses rs →
      (rs.map (·.predicate.leafCount)).sum ≤ config.maxClauseCount →
      ∃ r, place scope config (.bool operator clauses) = .ok r ∧
        r.predicate = .bool operator (rs.map (·.predicate)) ∧
        r.leaves = if operator = .or then (rs.flatMap (·.leaves)).map (·.asOption)
          else rs.flatMap (·.leaves)) ∧
    ∀ before rs p after e, List.Forall₂ (fun p r => place scope config p = .ok r) before rs →
      place scope config p = .error e → (∀ limit, e ≠ .tooManyClauses limit) →
      place scope config (.bool operator (before ++ p :: after)) =
        .error (if (rs.map (·.predicate.leafCount)).sum + leavesVisited scope config p ≤
            config.maxClauseCount then e
          else .tooManyClauses config.maxClauseCount) := by
  constructor
  · intro clauses rs h hroom
    rw [← sum_leafCount_asClause operator, ← Nat.zero_add (List.sum _)] at hroom
    refine ⟨_, expanding_clauses (expanding_clauses_of_place h) hroom, ?_, ?_⟩
    · simp [Function.comp_def]
    · exact flatMap_leaves_asClause operator rs
  · intro before rs p after e hbefore h he
    have herror : expanding scope config config.maxExpansionDepth (Frame.top.clause operator) 0 p =
        .error e := by
      rw [expanding_clause_frame]
      exact map_eq_error_iff.mpr h
    have hrun := expanding_clauses_error after (expanding_clauses_of_place hbefore) herror
      he (Nat.zero_le _)
    rw [sum_leafCount_asClause, course_clause_frame, Nat.zero_add] at hrun
    exact hrun

namespace Sample

/-- A leaf, and after it a name that no index registers. -/
def unheard : Predicate :=
  .bool .and [.leaf ⟨[⟨orders, [lines, sku]⟩], .exists⟩, .named "unheard" .empty]

def atMost (limit : Nat) : CompilerConfig :=
  { CompilerConfig.default with maxClauseCount := limit }

theorem place_query_atMost {limit : Nat} (hlimit : limit ∈ [5, 6, 10]) :
    ∃ r, place scope (atMost limit) query = .ok r ∧ r.leaves.length = 4 ∧
      r.predicate.leafCount = 5 := by
  have hcounts : ∀ limit ∈ [5, 6, 10], (place scope (atMost limit) query).toOption.map
      (fun r => (r.leaves.length, r.predicate.leafCount)) = some (4, 5) := by decide +kernel
  have hcount := hcounts limit hlimit
  cases hplace : place scope (atMost limit) query with
  | error e =>
    rw [hplace] at hcount
    cases hcount
  | ok r =>
    rw [hplace] at hcount
    exact ⟨r, rfl, congrArg Prod.fst (Option.some.inj hcount),
      congrArg Prod.snd (Option.some.inj hcount)⟩

end Sample

/-- Both parts of `place_bool_local`: a query twice in an `or`, and before a clause that fails after
    a leaf of its own, with and without room for that leaf. -/
theorem place_bool_local_sample :
    (∃ r, place Sample.scope (Sample.atMost 10) (.bool .or [Sample.query, Sample.query]) = .ok r ∧
      r.leaves.length = 8) ∧
    place Sample.scope (Sample.atMost 6) (.bool .or [Sample.query, Sample.unheard]) =
      .error (.unknownNamedPredicate "unheard" none "shop") ∧
    place Sample.scope (Sample.atMost 5) (.bool .or [Sample.query, Sample.unheard]) =
      .error (.tooManyClauses 5) := by
  have hfails : ∀ limit ∈ [5, 6, 10],
      place Sample.scope (Sample.atMost limit) Sample.unheard =
        .error (.unknownNamedPredicate "unheard" none "shop") →
      leavesVisited Sample.scope (Sample.atMost limit) Sample.unheard = 1 →
      place Sample.scope (Sample.atMost limit) (.bool .or [Sample.query, Sample.unheard]) =
        .error (if 5 + 0 + 1 ≤ limit then .unknownNamedPredicate "unheard" none "shop"
          else .tooManyClauses limit) := by
    intro limit hlimit hplace hvisited
    obtain ⟨r, hr, -, hcount⟩ := Sample.place_query_atMost hlimit
    have hlocal := (place_bool_local Sample.scope (Sample.atMost limit) .or).2 [Sample.query] [r]
      Sample.unheard [] _ (.cons hr .nil) hplace (fun _ h => by cases h)
    rw [List.map_cons, List.sum_cons, hcount, hvisited] at hlocal
    exact hlocal
  refine ⟨?_, hfails 6 (by decide) rfl rfl, hfails 5 (by decide) rfl rfl⟩
  obtain ⟨r, hr, hleaves, hcount⟩ := Sample.place_query_atMost (by decide : 10 ∈ _)
  obtain ⟨s, hs, -, hall⟩ := (place_bool_local Sample.scope (Sample.atMost 10) .or).1
    [Sample.query, Sample.query] [r, r] (.cons hr (.cons hr .nil)) (by simp [hcount, Sample.atMost])
  refine ⟨s, hs, ?_⟩
  rw [hall]
  simp [hleaves]

end NestedSearch
