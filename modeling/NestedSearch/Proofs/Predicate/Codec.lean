import NestedSearch.Predicate.Codec
import NestedSearch.Proofs.Json.Decode
import NestedSearch.Proofs.Json.Text

/-!
# Predicates are read back

A predicate that is written as a text is the predicate that the text writes
(`Predicate.parse_toJson`). Integers and counts must have the width that is read. Which number a
numeral with a point is read as is a matter of rounding and is taken as given here:
`ParamValue.ReadsBack` says that the numeral written for a number stands for it again, which is
never so for what has no numeral.
-/

namespace NestedSearch

open Json (Origin Record bind_eq_some)

/-! ## Maps in the order of their names -/

namespace NameMap

variable {α : Type}

theorem place_eq_append {name : String} {value : α} {es : List (String × α)}
    (h : ∀ e ∈ es, e.1 < name) : place name value es = es ++ [(name, value)] := by
  induction es with
  | nil => rfl
  | cons e es ih =>
    obtain ⟨he, hes⟩ := List.forall_mem_cons.mp h
    have hne : name ≠ e.1 := fun heq => String.lt_irrefl _ (heq ▸ he)
    rw [place, if_neg (String.lt_asymm he), if_neg hne, ih hes, List.cons_append]

/-- Entries that are in order are put one behind the other. -/
theorem entries_foldl_insert {es : List (String × α)} {m : NameMap α}
    (h : (m.entries ++ es).Pairwise fun a b => a.1 < b.1) :
    (es.foldl (fun m e => m.insert e.1 e.2) m).entries = m.entries ++ es := by
  induction es generalizing m with
  | nil => simp
  | cons e es ih =>
    have hinsert : (m.insert e.1 e.2).entries = m.entries ++ [e] :=
      place_eq_append fun d hd => (List.pairwise_append.mp h).2.2 d hd e List.mem_cons_self
    have hrest : (m.insert e.1 e.2).entries ++ es = m.entries ++ e :: es := by
      rw [hinsert, List.append_assoc, List.singleton_append]
    rw [List.foldl_cons, ih (hrest ▸ h), hrest]

theorem eq_of_entries {m m' : NameMap α} (h : m.entries = m'.entries) : m = m' := by
  cases m
  cases h
  rfl

theorem ofList_entries (m : NameMap α) : ofList m.entries = m :=
  eq_of_entries (entries_foldl_insert m.sorted)

end NameMap

/-! ## Values -/

namespace ParamValue

/-- The numeral that is written for the double stands for it. -/
def ReadsBack (x : Float) : Prop := (floatToJson x).float? = some x

/-- The numeral that is written for the single-precision number stands for it. -/
def ReadsBack32 (x : Float32) : Prop := (float32ToJson x).float32? = some x

instance (x : Float) : Decidable (ReadsBack x) :=
  inferInstanceAs (Decidable ((floatToJson x).float? = some x))

instance (x : Float32) : Decidable (ReadsBack32 x) :=
  inferInstanceAs (Decidable ((float32ToJson x).float32? = some x))

/-- Integers have 64 bits, and numbers with a point are read back. -/
def IsEncodable : ParamValue → Prop
  | .int i => -(2 ^ 63) ≤ i ∧ i < 2 ^ 63
  | .float x => ReadsBack x
  | .vector v => ∀ x ∈ v, ReadsBack32 x
  | _ => True

theorem carries {v : ParamValue} (origin : Origin) (h : v.IsEncodable) :
    v.toJson.Carries (ofJson? origin) v := by
  cases v with
  | int i =>
    have hint := Json.carries_int64 h.1 h.2
    exact ⟨Json.isSound_ofMembers_cons hint.sound rfl,
      bind_eq_some rfl (bind_eq_some rfl (bind_eq_some hint.decoded rfl))⟩
  | float x =>
    have hfloat := Json.carries_float h
    exact ⟨Json.isSound_ofMembers_cons hfloat.sound rfl,
      bind_eq_some rfl (bind_eq_some rfl (bind_eq_some hfloat.decoded rfl))⟩
  | vector v =>
    have hlist := Json.carries_list fun x hx => Json.carries_float32 (h x hx)
    exact ⟨Json.isSound_ofMembers_cons hlist.sound rfl,
      bind_eq_some rfl (bind_eq_some rfl (bind_eq_some hlist.decoded rfl))⟩
  | _ => exact ⟨rfl, rfl⟩

end ParamValue

theorem ParamBag.carries {bag : ParamBag} (h : ∀ e ∈ bag.entries, e.2.IsEncodable) :
    (toJson bag).Carries ofJson? bag := by
  have hvalue : ∀ e ∈ bag.entries, e.2.toJson.Carries (ParamValue.ofJson? .text) e.2 :=
    fun e he => ParamValue.carries .text (h e he)
  refine ⟨Json.isSound_ofMembers.mpr (List.forall_mem_map.mpr fun e he => (hvalue e he).sound), ?_⟩
  refine bind_eq_some (Json.members?_ofMembers _) ?_
  refine bind_eq_some (Json.mapM_map_eq_some fun e he => ?_) (congrArg some bag.ofList_entries)
  exact bind_eq_some (hvalue e he).decoded rfl

/-! ## Kinds -/

theorem BoolOperator.carries (origin : Origin) (operator : BoolOperator) :
    operator.toJson.Carries (ofJson? origin) operator := by
  cases operator <;> exact ⟨rfl, rfl⟩

theorem AnalysisOverride.carries (origin : Origin) (analysis : AnalysisOverride) :
    analysis.toJson.Carries (ofJson? origin) analysis := by
  cases analysis <;> exact ⟨rfl, rfl⟩

namespace GeoPoint

def IsEncodable (p : GeoPoint) : Prop := ParamValue.ReadsBack p.lat ∧ ParamValue.ReadsBack p.lon

theorem carries {p : GeoPoint} (h : p.IsEncodable) : p.toJson.Carries ofJson? p :=
  Json.carries_pair (by simp) GeoPoint.mk (Json.carries_float h.1) (Json.carries_float h.2)

end GeoPoint

theorem RangeBound.carries {b : RangeBound} (origin : Origin) (h : b.value.IsEncodable) :
    b.toJson.Carries (ofJson? origin) b :=
  Json.carries_pair (by simp) RangeBound.mk (ParamValue.carries origin h)
    (Json.carries_bool b.inclusive)

namespace PredicateKind

/-- What the kind holds has the width that is read, and its numbers with a point are read back. -/
def IsEncodable : PredicateKind → Prop
  | .matching value _ fuzziness => value.IsEncodable ∧ fuzziness < 2 ^ 32
  | .phrase _ slop _ => slop < 2 ^ 32
  | .range lower upper =>
    (∀ b, lower = some b → b.value.IsEncodable) ∧ ∀ b, upper = some b → b.value.IsEncodable
  | .withinCircle center radiusMeters => center.IsEncodable ∧ ParamValue.ReadsBack radiusMeters
  | .withinPolygon points => ∀ p ∈ points, p.IsEncodable
  | .withinBoundingBox topLeft bottomRight => topLeft.IsEncodable ∧ bottomRight.IsEncodable
  | .knn vector k => (∀ x ∈ vector, ParamValue.ReadsBack32 x) ∧ k < 2 ^ 64
  | _ => True

/-- A kind is its name and what belongs to it. -/
theorem carries_of_content {name : String} {members : List (String × Json)} {kind : PredicateKind}
    (hname : name ∈ cases) (htag : ∀ m ∈ members, m.1 ≠ "kind")
    (h : (Json.ofMembers members).Carries (ofContent? name) kind) :
    (Json.ofMembers (("kind", .ofString name) :: members)).Carries (ofJson? .copy) kind :=
  ⟨Json.isSound_ofMembers_cons rfl h.sound,
    bind_eq_some (Json.tagged?_ofMembers htag hname h.sound) h.decoded⟩

theorem content_matching {value : ParamValue} (analysis : AnalysisOverride) {fuzziness : Nat}
    (hvalue : value.IsEncodable) (h : fuzziness < 2 ^ 32) :
    (Json.ofMembers [("value", value.toJson), ("analysis", analysis.toJson),
      ("fuzziness", .ofInt fuzziness)]).Carries (ofContent? "match")
        (.matching value analysis fuzziness) := by
  have hvalue := ParamValue.carries .copy hvalue
  have hanalysis := AnalysisOverride.carries .copy analysis
  have hfuzziness := Json.carries_nat32 h
  refine ⟨Json.isSound_ofMembers.mpr
      (by simp [hvalue.sound, hanalysis.sound, hfuzziness.sound]), ?_⟩
  refine bind_eq_some (Record.ofJson?_ofMembers (by simp) (by simp)) ?_
  refine bind_eq_some (Record.required?_eq rfl hvalue) ?_
  refine bind_eq_some (Record.defaulted?_eq rfl hanalysis) ?_
  exact bind_eq_some (Record.defaulted?_eq rfl hfuzziness) rfl

theorem content_phrase (text : String) {slop : Nat} (analysis : AnalysisOverride)
    (h : slop < 2 ^ 32) :
    (Json.ofMembers [("phrase", .ofString text), ("slop", .ofInt slop),
      ("analysis", analysis.toJson)]).Carries (ofContent? "phrase")
        (.phrase text slop analysis) := by
  have hslop := Json.carries_nat32 h
  have hanalysis := AnalysisOverride.carries .copy analysis
  refine ⟨Json.isSound_ofMembers_cons rfl (Json.isSound_ofMembers.mpr
      (by simp [hslop.sound, hanalysis.sound])), ?_⟩
  refine bind_eq_some (Record.ofJson?_ofMembers (by simp) (by simp)) ?_
  refine bind_eq_some (Record.required?_eq rfl (Json.carries_ofString text)) ?_
  refine bind_eq_some (Record.defaulted?_eq rfl hslop) ?_
  exact bind_eq_some (Record.defaulted?_eq rfl hanalysis) rfl

theorem content_simpleQueryString (query : String) (operator : BoolOperator)
    (analysis : AnalysisOverride) :
    (Json.ofMembers [("query", .ofString query), ("default_operator", operator.toJson),
      ("analysis", analysis.toJson)]).Carries (ofContent? "simple_query_string")
        (.simpleQueryString query operator analysis) := by
  have hoperator := BoolOperator.carries .copy operator
  have hanalysis := AnalysisOverride.carries .copy analysis
  refine ⟨Json.isSound_ofMembers_cons rfl (Json.isSound_ofMembers.mpr
      (by simp [hoperator.sound, hanalysis.sound])), ?_⟩
  refine bind_eq_some (Record.ofJson?_ofMembers (by simp) (by simp)) ?_
  refine bind_eq_some (Record.required?_eq rfl (Json.carries_ofString query)) ?_
  refine bind_eq_some (Record.required?_eq rfl hoperator) ?_
  exact bind_eq_some (Record.defaulted?_eq rfl hanalysis) rfl

/-- A bound that is absent is written as `null`. -/
theorem content_range {lower upper : Option RangeBound}
    (hlower : ∀ b, lower = some b → b.value.IsEncodable)
    (hupper : ∀ b, upper = some b → b.value.IsEncodable) :
    (Json.ofMembers [("lower", .ofOption RangeBound.toJson lower),
      ("upper", .ofOption RangeBound.toJson upper)]).Carries (ofContent? "range")
        (.range lower upper) := by
  have hbound : ∀ bound : Option RangeBound, (∀ b, bound = some b → b.value.IsEncodable) →
      (Json.ofOption RangeBound.toJson bound).Carries
        (Record.orNull? (RangeBound.ofJson? .copy)) bound := fun bound h =>
    Json.carries_option (by simp [RangeBound.toJson, Json.ofMembers])
      fun b hb => RangeBound.carries .copy (h b hb)
  have hlower := hbound lower hlower
  have hupper := hbound upper hupper
  refine ⟨Json.isSound_ofMembers_cons hlower.sound (Json.isSound_ofMembers_cons hupper.sound rfl),
    bind_eq_some (Record.ofJson?_ofMembers (by simp) (by simp)) ?_⟩
  refine bind_eq_some (Record.optional?_eq rfl hlower) ?_
  exact bind_eq_some (Record.optional?_eq rfl hupper) rfl

/-- Each kind is decoded from what is written for it. -/
theorem carries {kind : PredicateKind} (h : kind.IsEncodable) :
    kind.toJson.Carries (ofJson? .copy) kind := by
  cases kind with
  | matching value analysis fuzziness =>
    exact carries_of_content (by simp [cases]) (by simp) (content_matching analysis h.1 h.2)
  | phrase text slop analysis =>
    exact carries_of_content (by simp [cases]) (by simp) (content_phrase text analysis h)
  | wildcard pattern =>
    exact carries_of_content (by simp [cases]) (by simp)
      (Json.carries_single wildcard (Json.carries_ofString pattern))
  | regexp pattern =>
    exact carries_of_content (by simp [cases]) (by simp)
      (Json.carries_single regexp (Json.carries_ofString pattern))
  | simpleQueryString query operator analysis =>
    exact carries_of_content (by simp [cases]) (by simp)
      (content_simpleQueryString query operator analysis)
  | range lower upper =>
    exact carries_of_content (by simp [cases]) (by simp) (content_range h.1 h.2)
  | withinCircle center radiusMeters =>
    exact carries_of_content (by simp [cases]) (by simp)
      (Json.carries_pair (by simp) withinCircle (GeoPoint.carries h.1) (Json.carries_float h.2))
  | withinPolygon points =>
    exact carries_of_content (by simp [cases]) (by simp)
      (Json.carries_single withinPolygon (Json.carries_list fun p hp => GeoPoint.carries (h p hp)))
  | withinBoundingBox topLeft bottomRight =>
    exact carries_of_content (by simp [cases]) (by simp)
      (Json.carries_pair (by simp) withinBoundingBox (GeoPoint.carries h.1) (GeoPoint.carries h.2))
  | knn vector k =>
    exact carries_of_content (by simp [cases]) (by simp)
      (Json.carries_pair (by simp) knn
        (Json.carries_list fun x hx => Json.carries_float32 (h.1 x hx)) (Json.carries_nat64 h.2))
  | ids documents =>
    exact carries_of_content (by simp [cases]) (by simp)
      (Json.carries_single ids (Json.carries_list fun id _ => Json.carries_ofString id))
  | «exists» | matchAll | matchNone =>
    exact carries_of_content (by simp [cases]) (by simp) ⟨rfl, rfl⟩

theorem notMem_fields (kind : PredicateKind) : ∀ m ∈ kind.members, m.1 ∉ ["fields"] := by
  cases kind <;> simp [members]

end PredicateKind

/-! ## Leaves -/

/-- Without fields there is no member for them. -/
theorem Leaf.carries {l : Leaf} (h : l.kind.IsEncodable) : l.toJson.Carries ofJson? l := by
  have hkind := PredicateKind.carries h
  obtain ⟨fields, kind⟩ := l
  cases fields with
  | nil =>
    have hflat : Json.flattened? ["fields"] kind.toJson = some (⟨[], false⟩, kind.toJson) :=
      Json.flattened?_ofMembers (by simp) kind.notMem_fields (.inl rfl) (by simp) hkind.sound
    exact ⟨hkind.sound, bind_eq_some hflat (bind_eq_some rfl (bind_eq_some hkind.decoded rfl))⟩
  | cons field fields =>
    have hfields := Json.carries_list fun p (_ : p ∈ field :: fields) => Json.carries_ofPath p
    refine ⟨Json.isSound_ofMembers_cons hfields.sound hkind.sound, bind_eq_some
      (Json.flattened?_ofMembers (by simp) kind.notMem_fields (.inl rfl) (by simp) hkind.sound) ?_⟩
    exact bind_eq_some (Record.defaulted?_eq rfl hfields) (bind_eq_some hkind.decoded rfl)

/-! ## Trees -/

namespace Predicate

mutual

/-- What the tree holds has the width that is read, and its numbers with a point are read back. -/
def IsEncodable : Predicate → Prop
  | .leaf l => l.kind.IsEncodable
  | .bool _ clauses => AreEncodable clauses
  | .not inner => inner.IsEncodable
  | .nested _ inner => inner.IsEncodable
  | .named _ params => ∀ e ∈ params.entries, e.2.IsEncodable
  | .boosted inner boost => inner.IsEncodable ∧ ParamValue.ReadsBack32 boost
  | .constantScore inner => inner.IsEncodable

def AreEncodable : List Predicate → Prop
  | [] => True
  | p :: ps => p.IsEncodable ∧ AreEncodable ps

end

theorem toJsonList_eq (ps : List Predicate) : toJsonList ps = ps.map toJson := by
  induction ps with
  | nil => rfl
  | cons p ps ih => rw [toJsonList, ih, List.map_cons]

mutual

/-- **A predicate is decoded from what is written for it**, if its nesting stays within the
    depth. -/
theorem carries : ∀ (p : Predicate) {depth : Nat}, p.IsEncodable → p.toJson.nesting ≤ depth →
    p.toJson.Carries (decode depth) p
  | .leaf l, depth, h, hdepth => by
    rw [toJson] at hdepth ⊢
    obtain ⟨depth, rfl⟩ := Json.exists_succ_of_nesting_le hdepth
    have hleaf : l.toJson.Carries Leaf.ofJson? l := Leaf.carries h
    exact ⟨Json.isSound_ofMembers_cons hleaf.sound rfl,
      congrArg (Option.map Predicate.leaf) hleaf.decoded⟩
  | .bool operator clauses, depth, h, hdepth => by
    rw [toJson, toJsonList_eq] at hdepth ⊢
    obtain ⟨depth, rfl⟩ := Json.exists_succ_of_nesting_le hdepth
    have hclauses : ∀ p ∈ clauses, p.toJson.nesting ≤ depth := by
      -- Each level takes off one step; only the outermost one is needed.
      have hcontent := Json.nesting_member_le hdepth List.mem_cons_self
      have harray : (Json.arr (clauses.map toJson)).nesting ≤ depth :=
        Json.nesting_member_le (Nat.le_succ_of_le hcontent)
          (List.mem_cons_of_mem _ List.mem_cons_self)
      exact fun p hp => Json.nesting_item_le (Nat.le_succ_of_le harray) (List.mem_map_of_mem hp)
    have hlist := Json.carries_list (carries_clauses clauses h hclauses)
    have hcarries := Json.carries_pair (by simp : "operator" ≠ "clauses") Predicate.bool
      (BoolOperator.carries .text operator) hlist
    exact ⟨Json.isSound_ofMembers_cons hcarries.sound rfl, hcarries.decoded⟩
  | .not inner, depth, h, hdepth => by
    rw [toJson] at hdepth ⊢
    obtain ⟨depth, rfl⟩ := Json.exists_succ_of_nesting_le hdepth
    have hinner := carries inner h (Json.nesting_member_le hdepth List.mem_cons_self)
    exact ⟨Json.isSound_ofMembers_cons hinner.sound rfl,
      congrArg (Option.map Predicate.not) hinner.decoded⟩
  | .nested path inner, depth, h, hdepth => by
    rw [toJson] at hdepth ⊢
    obtain ⟨depth, rfl⟩ := Json.exists_succ_of_nesting_le hdepth
    have hcontent := Json.nesting_member_le hdepth List.mem_cons_self
    have hinner := carries inner h (Json.nesting_member_le (Nat.le_succ_of_le hcontent)
      (List.mem_cons_of_mem _ List.mem_cons_self))
    have hcarries := Json.carries_pair (by simp : "path" ≠ "inner") Predicate.nested
      (Json.carries_ofPath path) hinner
    exact ⟨Json.isSound_ofMembers_cons hcarries.sound rfl, hcarries.decoded⟩
  | .named name params, depth, h, hdepth => by
    rw [toJson] at hdepth ⊢
    obtain ⟨depth, rfl⟩ := Json.exists_succ_of_nesting_le hdepth
    have hname := Json.carries_ofString name
    have hparams := ParamBag.carries h
    refine ⟨Json.isSound_ofMembers_cons (Json.isSound_ofMembers_cons hname.sound
      (Json.isSound_ofMembers_cons hparams.sound rfl)) rfl, bind_eq_some rfl (bind_eq_some rfl ?_)⟩
    refine bind_eq_some (Record.ofJson?_ofMembers (by simp) (by simp)) ?_
    refine bind_eq_some (Record.required?_eq rfl hname) ?_
    exact bind_eq_some (Record.defaulted?_eq rfl hparams) rfl
  | .boosted inner boost, depth, h, hdepth => by
    rw [toJson] at hdepth ⊢
    obtain ⟨depth, rfl⟩ := Json.exists_succ_of_nesting_le hdepth
    have hcontent := Json.nesting_member_le hdepth List.mem_cons_self
    have hinner := carries inner h.1 (Json.nesting_member_le (Nat.le_succ_of_le hcontent)
      List.mem_cons_self)
    have hcarries := Json.carries_pair (by simp : "inner" ≠ "boost") Predicate.boosted hinner
      (Json.carries_float32 h.2)
    exact ⟨Json.isSound_ofMembers_cons hcarries.sound rfl, hcarries.decoded⟩
  | .constantScore inner, depth, h, hdepth => by
    rw [toJson] at hdepth ⊢
    obtain ⟨depth, rfl⟩ := Json.exists_succ_of_nesting_le hdepth
    have hinner := carries inner h (Json.nesting_member_le hdepth List.mem_cons_self)
    exact ⟨Json.isSound_ofMembers_cons hinner.sound rfl,
      congrArg (Option.map Predicate.constantScore) hinner.decoded⟩

theorem carries_clauses : ∀ (ps : List Predicate) {depth : Nat}, AreEncodable ps →
    (∀ p ∈ ps, p.toJson.nesting ≤ depth) → ∀ p ∈ ps, p.toJson.Carries (decode depth) p
  | [], _, _, _ => by simp
  | p :: ps, depth, h, hdepth => by
    obtain ⟨hp, hps⟩ := List.forall_mem_cons.mp hdepth
    exact List.forall_mem_cons.mpr ⟨carries p h.1 hp, carries_clauses ps h.2 hps⟩

end

/-- **A predicate is read back**, from a text with blanks and from one without. The text must not
    nest more deeply than what is read. -/
theorem parse_toJson {p : Predicate} (h : p.IsEncodable)
    (hnesting : p.toJson.nesting ≤ Json.nestingLimit) :
    parse p.toJson.compact = .ok p ∧ parse p.toJson.pretty = .ok p := by
  have hcarries := p.carries h (Nat.le_refl _)
  have hdecoded : ofJson? p.toJson = some p := hcarries.decoded
  constructor
  · rw [parse, Json.parse?_compact hcarries.sound hnesting, Option.bind_some, hdecoded]
  · rw [parse, Json.parse?_pretty hcarries.sound hnesting, Option.bind_some, hdecoded]

end Predicate

namespace Sample

def offers : FieldPath := ⟨Segment.literal "offers", []⟩

def offerPrice : FieldPath := ⟨Segment.literal "offers", [Segment.literal "price"]⟩

/-- Every kind of node, with a leaf without fields, a range that is open below, and numbers whose
    numerals are long. -/
def bargains : Predicate :=
  .boosted
    (.bool .or
      [.nested offers (.not (.leaf ⟨[offerPrice], .range none (some ⟨.float 0.1, false⟩)⟩)),
        .constantScore (.leaf ⟨[], .ids ["\"quoted\"", "größe", ""]⟩),
        .leaf ⟨[offerPrice, offers], .matching (.int (-(2 ^ 63))) .none 0⟩,
        .leaf ⟨[offers], .knn [0.1, -2.5e-7] 3⟩,
        .named "offers.cheap"
          ⟨[("\n", .vector [1e-45]), ("by", .string "\x01"), ("limit", .null)], by decide +kernel⟩])
    1.25

end Sample

/-- The hypotheses of `parse_toJson` can be met. -/
theorem Predicate.parse_toJson_sample : Sample.bargains.IsEncodable ∧
    Sample.bargains.toJson.nesting ≤ Json.nestingLimit ∧
    Predicate.parse Sample.bargains.toJson.compact = .ok Sample.bargains ∧
    Predicate.parse Sample.bargains.toJson.pretty = .ok Sample.bargains := by
  have hfloat : ParamValue.ReadsBack 0.1 := by decide +kernel
  have hfloats : ∀ x ∈ [0.1, -2.5e-7], ParamValue.ReadsBack32 x := by decide +kernel
  have hsmall : ∀ x ∈ [1e-45], ParamValue.ReadsBack32 x := by decide +kernel
  have hboost : ParamValue.ReadsBack32 1.25 := by decide +kernel
  have hrange : ∀ b, some (RangeBound.mk (.float 0.1) false) = some b → b.value.IsEncodable :=
    fun b hb => Option.some.inj hb ▸ hfloat
  have hparams : ∀ e ∈ [("\n", ParamValue.vector [1e-45]), ("by", .string "\x01"),
      ("limit", .null)], e.2.IsEncodable :=
    List.forall_mem_cons.mpr ⟨hsmall, by simp [ParamValue.IsEncodable]⟩
  have hencodable : Sample.bargains.IsEncodable :=
    ⟨⟨⟨nofun, hrange⟩, trivial, ⟨⟨by decide, by decide⟩, by decide⟩, ⟨hfloats, by decide⟩, hparams,
      trivial⟩, hboost⟩
  have hnesting : Sample.bargains.toJson.nesting ≤ Json.nestingLimit := by decide +kernel
  exact ⟨hencodable, hnesting, Predicate.parse_toJson hencodable hnesting⟩

end NestedSearch
