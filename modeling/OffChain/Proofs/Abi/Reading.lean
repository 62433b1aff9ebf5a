import OffChain.Proofs.Abi.Description
import OffChain.Proofs.Abi.Table
import OffChain.Proofs.Json.RoundTrip
import OffChain.Proofs.Traversal

/-!
# Reading descriptions of interfaces

A document of a description is read as what it declares: parameter by parameter
(`TypeTree.Writes.ofJsonWithin?`), by induction on how deep a document goes, then item by item
(`Declaration.Writes.ofJson?`).  The types that are read have the canonical texts of the trees
(`TypeTree.canonical_toParam`), so that the signatures are the same.

* `Description.parse_of_writes`: a text that lays out such a document parses as the table of the
  selectors of the functions.
* `Description.parse_rejects_notes`: what may stand in members that no one asks for has its limits.
-/

namespace OffChain.Abi

open Json

/-! ### Types -/

namespace TypeTree

mutual

/-- The parameter of a type. -/
def toParam : TypeTree → Param
  | plain name arrays => .mk (name.text ++ ArraySuffix.textOf arrays) []
  | tuple first rest arrays =>
    .mk ("tuple" ++ ArraySuffix.textOf arrays) (toParam first :: toParams rest)

/-- The parameters of some types. -/
def toParams : List TypeTree → List Param
  | [] => []
  | t :: ts => toParam t :: toParams ts

end

mutual

/-- **Canonical types**: a parameter has the canonical text of its type. -/
theorem canonical_toParam : ∀ t : TypeTree, t.toParam.canonical = t.canonical
  | plain name arrays => rfl
  | tuple first rest arrays => by
    have hsuffix : String.ofList (("tuple" ++ ArraySuffix.textOf arrays).toList.drop 5)
        = ArraySuffix.textOf arrays := by
      rw [String.toList_append]
      exact String.ofList_toList
    rw [toParam, Param.canonical, canonical, canonical_toParam first, hsuffix,
      ← canonicalRest_toParams rest]
    simp only [String.append_assoc]

/-- Further types are separated by commas. -/
theorem canonicalRest_toParams : ∀ (ts : List TypeTree) (s : String),
    s ++ Param.canonicalRest (toParams ts) = ",".intercalate (s :: canonicals ts)
  | [], s => by rw [toParams, Param.canonicalRest, String.append_empty, canonicals,
      String.intercalate_singleton]
  | t :: ts, s => by
    rw [toParams, Param.canonicalRest, canonicals, String.intercalate_cons_cons,
      canonical_toParam t, ← canonicalRest_toParams ts, String.append_assoc, String.append_assoc]

end

theorem canonicalList_toParams (ts : List TypeTree) :
    Param.canonicalList (toParams ts) = ",".intercalate (canonicals ts) := by
  cases ts with
  | nil => rw [toParams, Param.canonicalList, canonicals, String.intercalate_nil]
  | cons t ts =>
    rw [toParams, Param.canonicalList, canonical_toParam, canonicalRest_toParams, canonicals]

end TypeTree

/-! ### Parameters -/

namespace Notes

variable {inEvent : Bool} {notes : Notes inEvent} {type : String} {components : Option Json}

/-- The fields of a parameter do no harm, if its components do none. -/
theorem areHarmless_fields (hcomponents : ∀ v, components = some v → v.isHarmless = true) :
    AreHarmless (notes.fields type components) := by
  refine AreHarmless.cons_map ?_ (fun _ => rfl) notes.name
  refine AreHarmless.cons_some ?_ rfl
  refine AreHarmless.cons_map ?_ (isHarmless_orNull fun _ => rfl) notes.indexed
  refine AreHarmless.cons_map ?_ (isHarmless_orNull fun _ => rfl) notes.internalType
  exact areHarmless_nil.cons hcomponents

/-- The fields fit together, if the type and the components do. -/
theorem ofFields?_eq {params : List Param}
    (htype : (if params.isEmpty then isTypeText type
      else type.toList.take 5 == "tuple".toList) = true) :
    Param.ofFields? inEvent (notes.name.map fun name => .ofString name.text)
        (some (.ofString type)) (notes.indexed.map (orNull .bool))
        (notes.internalType.map (orNull .ofString)) params
      = some (.mk type params) := by
  have hname : ((notes.name.map fun name : Name => ofString name.text).map
      toString?).getD (some "") = some ((notes.name.map Name.text).getD "") := by
    cases notes.name <;> rfl
  have hisName : isName ((notes.name.map Name.text).getD "") = true := by
    cases notes.name with
    | none => rfl
    | some name => exact name.isName
  have hvalid : Param.isIndexedValid inEvent (some notes.indexed.join) = true := by
    cases hjoin : notes.indexed.join with
    | none => rfl
    | some b => exact notes.inEvent_of_indexed b (Option.join_eq_some_iff.mp hjoin)
  have hrequired : required toString? (some (ofString type)) = some type := rfl
  unfold Param.ofFields?
  rw [hname, hrequired, optional_map_ofString, optional_map_bool]
  simp only [Option.bind_eq_bind, Option.bind_some]
  rw [hvalid, hisName, htype]
  rfl

/-- The document gives its fields. -/
theorem fields?_eq {j : Json} (h : IsRecordOf isHarmless (notes.fields type components) j) :
    Param.fields? j = some ((notes.fields type components).map Prod.snd) := by
  have hnames : Param.fieldNames.Nodup := by decide
  have hfields := h.fields?_eq hnames
  obtain ⟨ms, others, rfl, -, -⟩ := h
  exact hfields

end Notes

namespace TypeTree

theorem Writes.depth_pos {isExtra : Json → Bool} {inEvent : Bool} {t : TypeTree} {j : Json}
    (h : Writes isExtra inEvent t j) : 0 < j.depth := by
  have htype : ∀ {notes : Notes inEvent} {type : String} {components : Option Json},
      IsRecordOf isExtra (notes.fields type components) j → 0 < j.depth := fun h =>
    h.depth_lt (List.mem_cons_of_mem _ List.mem_cons_self)
  cases h with
  | plain notes h => exact htype h
  | tuple notes hitems h => exact htype h

/-- What is read item by item. -/
theorem WritesAll.mapM_eq {isExtra : Json → Bool} {inEvent : Bool} {ts : List TypeTree}
    {items : List Json} (h : WritesAll isExtra inEvent ts items) {read : Json → Option Param}
    (hread : ∀ t, ∀ j ∈ items, Writes isExtra inEvent t j → read j = some t.toParam) :
    items.mapM read = some (toParams ts) := by
  induction items generalizing ts with
  | nil =>
    cases h
    rfl
  | cons j items ih =>
    cases h with
    | cons hfirst hitems =>
      rw [List.mapM_cons, hread _ j List.mem_cons_self hfirst,
        ih hitems fun t j' hj' => hread t j' (List.mem_cons_of_mem j hj')]
      rfl

/-- **Reading**: a document of a parameter is read, if there is fuel for its depth. -/
theorem Writes.ofJsonWithin? {inEvent : Bool} {t : TypeTree} {j : Json}
    (h : Writes isHarmless inEvent t j) {fuel : Nat} (hfuel : j.depth ≤ fuel) :
    Param.ofJsonWithin? fuel inEvent j = some t.toParam := by
  induction fuel generalizing inEvent t j with
  | zero => exact absurd h.depth_pos (Nat.not_lt.mpr hfuel)
  | succ fuel ih =>
    unfold Param.ofJsonWithin?
    cases h with
    | @plain _ name arrays _ notes h =>
      rw [Notes.fields?_eq h]
      exact Notes.ofFields?_eq (isTypeText_append name.isTypeText arrays)
    | @tuple _ first rest arrays items _ notes hitems h =>
      have hcomponents : items.mapM (Param.ofJsonWithin? fuel false)
          = some (toParam first :: toParams rest) := by
        refine hitems.mapM_eq fun t v hv hwrites => ih hwrites ?_
        -- a component lies in the list and the list in the object, so it is less deep by two
        have hlist : (array items).depth < j.depth :=
          @IsRecordOf.depth_lt _ _ _ h "components" _ (by simp [Notes.fields])
        have hitem := depth_lt_depth_array hv
        omega
      rw [Notes.fields?_eq h]
      simp only [Notes.fields, List.map_cons, List.map_nil, Option.bind_eq_bind, Option.bind_some,
        hcomponents]
      refine Notes.ofFields?_eq ?_
      rw [String.toList_append]
      rfl

mutual

/-- The document of a parameter does no harm. -/
theorem Writes.isHarmless {inEvent : Bool} {t : TypeTree} {j : Json} :
    Writes isHarmless inEvent t j → j.isHarmless = true
  | .plain _ h =>
    h.isHarmless (Notes.areHarmless_fields fun v hv => absurd hv.symm (Option.some_ne_none v))
  | .tuple _ hitems h =>
    h.isHarmless (Notes.areHarmless_fields fun _ hv =>
      Option.some.inj hv ▸ isHarmless_array_iff.mpr hitems.isHarmless)

theorem WritesAll.isHarmless {inEvent : Bool} {ts : List TypeTree} {items : List Json} :
    WritesAll isHarmless inEvent ts items → ∀ j ∈ items, j.isHarmless = true
  | .nil => fun _ hj => absurd hj List.not_mem_nil
  | .cons h hitems => List.forall_mem_cons.mpr ⟨h.isHarmless, hitems.isHarmless⟩

end

/-- A list of parameters is read. -/
theorem WritesAll.listOfJson? {inEvent : Bool} {ts : List TypeTree} {items : List Json}
    (h : WritesAll Json.isHarmless inEvent ts items) :
    Param.listOfJson? inEvent (.array items) = some (toParams ts) :=
  h.mapM_eq fun _ _ _ hwrites => hwrites.ofJsonWithin? (Nat.le_refl _)

end TypeTree

/-! ### Items -/

namespace StateClause

variable {state : StateClause}

theorem areHarmless_fields (state : StateClause) : AreHarmless state.fields := by
  refine AreHarmless.cons_map ?_ (isHarmless_orNull fun _ => rfl) state.mutability
  refine AreHarmless.cons_map ?_ (isHarmless_orNull fun _ => rfl) state.payable
  exact areHarmless_nil.cons_map (isHarmless_orNull fun _ => rfl) state.constant

/-- Members that give the clause say in a valid way how an item deals with the state. -/
theorem isStateValid {ms : Members} {fields : List (String × Option Json)} (h : ms.Give fields)
    (hfields : ∀ field ∈ state.fields, field ∈ fields) : Item.isStateValid ms = true := by
  have hnames : ms.noneTwice Item.stateNames = true := by
    refine h.noneTwice fun name hname => ?_
    have hstate : name ∈ state.fields.map Prod.fst := hname
    obtain ⟨field, hfield, rfl⟩ := List.mem_map.mp hstate
    exact List.mem_map_of_mem (hfields field hfield)
  have hmutability : ms.get? "stateMutability" = state.mutability.map (orNull .ofString) :=
    h.get?_eq (hfields _ (by simp [StateClause.fields]))
  have hpayable : optional toBool? (ms.get? "payable") = some state.payable.join := by
    rw [h.get?_eq (hfields ("payable", _) (by simp [StateClause.fields]; rfl))]
    exact optional_map_bool _
  have hconstant : optional toBool? (ms.get? "constant") = some state.constant.join := by
    rw [h.get?_eq (hfields ("constant", _) (by simp [StateClause.fields]; rfl))]
    exact optional_map_bool _
  -- without a word the older members decide
  have hboth : state.mutability.join = .none →
      (!(state.payable.join == some true && state.constant.join == some true)) = true := by
    intro hword
    rw [Bool.not_eq_true', Bool.eq_false_iff, ne_eq, Bool.and_eq_true, beq_iff_eq, beq_iff_eq,
      Option.join_eq_some_iff, Option.join_eq_some_iff]
    exact state.not_both hword
  unfold Item.isStateValid
  rw [hnames, hpayable, hconstant, hmutability, Bool.true_and]
  match hword : state.mutability with
  | .none => exact hboth (by rw [hword]; rfl)
  | some .none => exact hboth (by rw [hword]; rfl)
  | some (some s) =>
    show Item.mutabilities.contains s = true
    exact List.contains_iff_mem.mpr (state.mem_mutabilities s hword)

end StateClause

namespace Item

variable {ms : Members} {fields : List (String × Option Json)}

theorem params?_eq (h : ms.Give fields) {name : String} {ts : List TypeTree} {items : List Json}
    (hfield : (name, some (.array items)) ∈ fields)
    (hitems : TypeTree.WritesAll isHarmless false ts items) :
    params? ms name = some (TypeTree.toParams ts) := by
  rw [params?, h.get?_eq hfield, Option.bind_some, hitems.listOfJson?]

theorem filter_isName (name : Name) :
    (required toString? (some (ofString name.text))).filter isName = some name.text := by
  show (some name.text).filter isName = some name.text
  rw [Option.filter_some, name.isName]
  rfl

theorem name?_eq (h : ms.Give fields) (name : Name)
    (hfield : ("name", some (.ofString name.text)) ∈ fields) : name? ms = some name.text := by
  rw [name?, h.get?_eq hfield]
  exact filter_isName name

theorem eventOf?_eq (h : ms.Give fields) (name : Name) {ts : List TypeTree} {items : List Json}
    {isAnonymous : Bool} (hname : ("name", some (.ofString name.text)) ∈ fields)
    (hinputs : ("inputs", some (.array items)) ∈ fields)
    (hitems : TypeTree.WritesAll isHarmless true ts items)
    (hanonymous : ("anonymous", some (.bool isAnonymous)) ∈ fields) :
    eventOf? (ms.get? "name") (ms.get? "inputs") (ms.get? "anonymous")
      = some (.event name.text (TypeTree.toParams ts) isAnonymous) := by
  rw [eventOf?, h.get?_eq hname, h.get?_eq hinputs, h.get?_eq hanonymous, filter_isName,
    required_some, hitems.listOfJson?]
  rfl

theorem errorOf?_eq (h : ms.Give fields) (name : Name) {ts : List TypeTree} {items : List Json}
    (hname : ("name", some (.ofString name.text)) ∈ fields)
    (hinputs : ("inputs", some (.array items)) ∈ fields)
    (hitems : TypeTree.WritesAll isHarmless false ts items) :
    errorOf? (ms.get? "name") (ms.get? "inputs")
      = some (.error name.text (TypeTree.toParams ts)) := by
  rw [errorOf?, h.get?_eq hname, h.get?_eq hinputs, filter_isName, required_some,
    hitems.listOfJson?]
  rfl

/-- An object is read as an item of the kind that it says. -/
theorem ofJson?_record (h : ms.Give fields) (hharmless : (record ms).isHarmless = true)
    (kind : String) (hkind : ("type", some (.ofString kind)) ∈ fields) :
    ofJson? (record ms) = ofMembers? ms kind := by
  have hmembers : members? ["type"] (record ms) = some ms := by
    refine members?_record (h.noneTwice fun name hname => ?_) fun m hm => Or.inr ?_
    · rw [List.mem_singleton.mp hname]
      exact List.mem_map_of_mem hkind
    · exact isWhole_of_isHeld m.2 (isHarmless_iff.mp (isHarmless_record_iff.mp hharmless m hm)).2
  show (members? ["type"] (record ms)).bind
      (fun ms => ((ms.get? "type").bind toString?).bind (ofMembers? ms)) = _
  rw [hmembers, Option.bind_some, h.get?_eq hkind]
  rfl

end Item

namespace Declaration

/-- The item that is declared. -/
def toItem : Declaration → Item
  | function name inputs outputs =>
    .function ⟨name.text, TypeTree.toParams inputs, TypeTree.toParams outputs⟩
  | constructor inputs => .constructor (TypeTree.toParams inputs)
  | fallback => .fallback
  | receive => .receive
  | event name inputs isAnonymous => .event name.text (TypeTree.toParams inputs) isAnonymous
  | error name inputs => .error name.text (TypeTree.toParams inputs)

/-- The fields of an item do no harm, if its parameters do none. -/
theorem areHarmless_fields (d : Declaration) (state : StateClause) {ins outs : List Json}
    (hins : (array ins).isHarmless = true) (houts : (array outs).isHarmless = true) :
    AreHarmless (d.fields state ins outs) := by
  have hstate := state.areHarmless_fields
  cases d with
  | function name inputs outputs =>
    refine AreHarmless.cons_some ?_ rfl
    refine AreHarmless.cons_some ?_ rfl
    exact (hstate.cons_some houts).cons_some hins
  | constructor inputs => exact (hstate.cons_some hins).cons_some rfl
  | fallback => exact hstate.cons_some rfl
  | receive => exact hstate.cons_some rfl
  | event name inputs isAnonymous =>
    refine AreHarmless.cons_some ?_ rfl
    refine AreHarmless.cons_some ?_ rfl
    refine AreHarmless.cons_some ?_ hins
    exact areHarmless_nil.cons_some rfl
  | error name inputs =>
    refine AreHarmless.cons_some ?_ rfl
    refine AreHarmless.cons_some ?_ rfl
    exact areHarmless_nil.cons_some hins

/-- The document of an item does no harm. -/
theorem Writes.isHarmless {d : Declaration} {j : Json} (h : Writes Json.isHarmless d j) :
    j.isHarmless = true := by
  obtain ⟨state, ins, outs, hins, houts, h⟩ := h
  exact h.isHarmless (d.areHarmless_fields state (isHarmless_array_iff.mpr hins.isHarmless)
    (isHarmless_array_iff.mpr houts.isHarmless))

theorem nodup_fields (d : Declaration) (state : StateClause) (ins outs : List Json) :
    ((d.fields state ins outs).map Prod.fst).Nodup := by
  cases d <;> simp [fields, StateClause.fields]

/-- **Items**: the document of an item is read as the item. -/
theorem Writes.ofJson? {d : Declaration} {j : Json} (h : Writes Json.isHarmless d j) :
    Item.ofJson? j = some d.toItem := by
  have hharmless := h.isHarmless
  obtain ⟨state, ins, outs, hins, houts, ms, others, rfl, hcarry, -⟩ := h
  have hms := hcarry.give (d.nodup_fields state ins outs)
  have hstate := @StateClause.isStateValid state ms _ hms
  cases d with
  | function name inputs outputs =>
    have hnames : ms.noneTwice ["name", "inputs", "outputs"] = true :=
      hms.noneTwice (by simp [fields])
    have hvalid : Item.isStateValid ms = true :=
      hstate fun field hfield => by simp [fields, hfield]
    have hname : Item.name? ms = some name.text := Item.name?_eq hms name (by simp [fields])
    have hinputs : Item.params? ms "inputs" = some (TypeTree.toParams inputs) :=
      Item.params?_eq hms (by simp [fields]) hins
    have houtputs : Item.params? ms "outputs" = some (TypeTree.toParams outputs) :=
      Item.params?_eq hms (by simp [fields]) houts
    rw [Item.ofJson?_record hms hharmless "function" List.mem_cons_self, Item.ofMembers?,
      if_pos rfl, hnames, hvalid, hname, hinputs, houtputs]
    rfl
  | constructor inputs =>
    have hnames : ms.noneTwice ["inputs"] = true := hms.noneTwice (by simp [fields])
    have hvalid : Item.isStateValid ms = true :=
      hstate fun field hfield => by simp [fields, hfield]
    have hinputs : Item.params? ms "inputs" = some (TypeTree.toParams inputs) :=
      Item.params?_eq hms (by simp [fields]) hins
    rw [Item.ofJson?_record hms hharmless "constructor" List.mem_cons_self, Item.ofMembers?,
      if_neg (by decide), if_pos rfl, hnames, hvalid, hinputs]
    rfl
  | fallback =>
    have hvalid : Item.isStateValid ms = true :=
      hstate fun field hfield => List.mem_cons_of_mem _ hfield
    rw [Item.ofJson?_record hms hharmless "fallback" List.mem_cons_self, Item.ofMembers?,
      if_neg (by decide), if_neg (by decide), if_pos rfl, if_pos hvalid]
    rfl
  | receive =>
    have hvalid : Item.isStateValid ms = true :=
      hstate fun field hfield => List.mem_cons_of_mem _ hfield
    rw [Item.ofJson?_record hms hharmless "receive" List.mem_cons_self, Item.ofMembers?,
      if_neg (by decide), if_neg (by decide), if_neg (by decide), if_pos rfl, if_pos hvalid]
    rfl
  | event name inputs isAnonymous =>
    have hnames : ms.noneTwice ["name", "inputs", "anonymous"] = true :=
      hms.noneTwice (by simp [fields])
    rw [Item.ofJson?_record hms hharmless "event" List.mem_cons_self, Item.ofMembers?,
      if_neg (by decide), if_neg (by decide), if_neg (by decide), if_neg (by decide), if_pos rfl,
      if_pos hnames]
    exact Item.eventOf?_eq hms name (by simp [fields]) (by simp [fields]) hins (by simp [fields])
  | error name inputs =>
    have hnames : ms.noneTwice ["name", "inputs"] = true := hms.noneTwice (by simp [fields])
    rw [Item.ofJson?_record hms hharmless "error" List.mem_cons_self, Item.ofMembers?,
      if_neg (by decide), if_neg (by decide), if_neg (by decide), if_neg (by decide),
      if_neg (by decide), if_pos rfl, if_pos hnames]
    exact Item.errorOf?_eq hms name (by simp [fields]) (by simp [fields]) hins

end Declaration

/-! ### Descriptions -/

namespace Declaration

theorem isConstructor_toItem (d : Declaration) : d.toItem.isConstructor = d.isConstructor := by
  cases d <;> rfl

theorem isFallback_toItem (d : Declaration) : d.toItem.isFallback = d.isFallback := by
  cases d <;> rfl

theorem isReceive_toItem (d : Declaration) : d.toItem.isReceive = d.isReceive := by
  cases d <;> rfl

/-- **Signatures**: the function that is read has the signature that is declared. -/
theorem callable?_eq (d : Declaration) :
    d.callable? = d.toItem.function?.map Function.descriptor := by
  cases d with
  | function name inputs outputs =>
    show _ = some (Function.descriptor _)
    rw [Function.descriptor, Function.signature, TypeTree.canonicalList_toParams]
    rfl
  | constructor | fallback | receive | event | error => rfl

end Declaration

namespace Description

variable {d : Description} {j : Json}

/-- The functions that are read. -/
def functions (d : Description) : List Function :=
  (d.declarations.map Declaration.toItem).filterMap Item.function?

theorem callables_eq (d : Description) : d.callables = d.functions.map Function.descriptor := by
  rw [callables, functions, List.filterMap_map, List.map_filterMap]
  exact List.filterMap_congr fun declaration _ => declaration.callable?_eq

theorem isUnambiguous (d : Description) :
    Interface.isUnambiguous (d.declarations.map Declaration.toItem) = true := by
  have hconstructor : Item.isConstructor ∘ Declaration.toItem = Declaration.isConstructor :=
    funext Declaration.isConstructor_toItem
  have hfallback : Item.isFallback ∘ Declaration.toItem = Declaration.isFallback :=
    funext Declaration.isFallback_toItem
  have hreceive : Item.isReceive ∘ Declaration.toItem = Declaration.isReceive :=
    funext Declaration.isReceive_toItem
  simp only [Interface.isUnambiguous, List.countP_map, hconstructor, hfallback, hreceive,
    decide_eq_true d.constructors, decide_eq_true d.fallbacks, decide_eq_true d.receives,
    Bool.and_self]

theorem mapM_ofJson? {declarations : List Declaration} {items : List Json}
    (h : List.Forall₂ (Declaration.Writes Json.isHarmless) declarations items) :
    items.mapM Item.ofJson? = some (declarations.map Declaration.toItem) := by
  rw [mapM_eq_some_iff, List.forall₂_map_right_iff]
  exact h.flip.imp fun _ _ hwrites => Declaration.Writes.ofJson? hwrites

theorem isHarmless_of_forall₂ {declarations : List Declaration} {items : List Json}
    (h : List.Forall₂ (Declaration.Writes Json.isHarmless) declarations items) :
    ∀ item ∈ items, item.isHarmless = true := by
  induction h with
  | nil => exact fun _ hitem => absurd hitem List.not_mem_nil
  | cons hfirst _ ih => exact List.forall_mem_cons.mpr ⟨hfirst.isHarmless, ih⟩

theorem Writes.isHarmless (h : d.Writes Json.isHarmless j) : j.isHarmless = true := by
  obtain ⟨items, rfl, hitems⟩ := h
  exact isHarmless_array_iff.mpr (isHarmless_of_forall₂ hitems)

/-- **Descriptions**: the document of a description is read as the table of its functions. -/
theorem Writes.ofJson? (h : d.Writes Json.isHarmless j) (hdepth : j.depth ≤ maxDepth) :
    Interface.ofJson? j = some (.ofFunctions d.functions) := by
  have hholdable : j.isHoldable = true := by
    rw [isHoldable, decide_eq_true hdepth, (isHarmless_iff.mp h.isHarmless).2]
    rfl
  obtain ⟨items, rfl, hitems⟩ := h
  rw [Interface.ofJson?, if_pos hholdable]
  show (items.mapM Item.ofJson?).bind Interface.ofItems? = _
  rw [mapM_ofJson? hitems, Option.bind_some, Interface.ofItems?, if_pos d.isUnambiguous]
  rfl

/-- A text with a document of a description is not blank. -/
theorem Writes.isAllBlank_eq_false {isExtra : Json → Bool} (h : d.Writes isExtra j) {text : String}
    (htext : Token.Layout (tokens j) text.toList) : Text.isAllBlank text = false := by
  obtain ⟨items, rfl, -⟩ := h
  have hopen : Token.openBracket ∈ tokens (array items) := by
    cases items <;> exact List.mem_cons_self
  have hbracket : '[' ∈ text.toList := htext.chars_subset hopen List.mem_cons_self
  rw [Text.isAllBlank, Bool.eq_false_iff]
  intro hall
  exact absurd (List.all_eq_true.mp hall '[' hbracket) (by decide)

/-- **Parsing**: a text that lays out a document of a description, with harmless values in members
that no one asks for, parses as a table that has under the selectors of the functions, and under no
other ones, a function of that selector. -/
theorem parse_of_writes (d : Description) {j : Json} (hj : d.Writes Json.isHarmless j)
    (hdepth : j.depth ≤ maxDepth) {text : String}
    (htext : Token.Layout (tokens j) text.toList) :
    ∃ t, Interface.parse text = .ok t ∧ t.selectors.Nodup ∧
      (∀ s, s ∈ t.selectors ↔
        ∃ c ∈ d.callables, s.bytes = (Keccak.hashText c.signature).take 4) ∧
      ∀ s c, t.get? s = some c →
        c ∈ d.callables ∧ s.bytes = (Keccak.hashText c.signature).take 4 := by
  have hparse : Interface.parse text = .ok (.ofFunctions d.functions) := by
    have hproper := (isHarmless_iff.mp hj.isHarmless).1
    rw [Interface.parse, hj.isAllBlank_eq_false htext, parse?_of_layout hproper htext,
      Option.bind_some, hj.ofJson? hdepth]
    rfl
  have hselector : ∀ {f : Function} {s : Selector}, f.selector = s →
      s.bytes = (Keccak.hashText f.descriptor.signature).take 4 := by
    rintro f s rfl
    rfl
  -- of functions with one selector the table has one only
  refine ⟨_, hparse, Interface.nodup_ofFunctions _, fun s => ?_, fun s c hc => ?_⟩
  · rw [Interface.mem_selectors_ofFunctions, d.callables_eq]
    constructor
    · rintro ⟨f, hf, hs⟩
      exact ⟨_, List.mem_map_of_mem hf, hselector hs⟩
    · rintro ⟨_, hc, hs⟩
      obtain ⟨f, hf, rfl⟩ := List.mem_map.mp hc
      exact ⟨f, hf, FixedBytes.ext hs.symm⟩
  · obtain ⟨f, hf, hs, rfl⟩ := Interface.mem_of_get?_ofFunctions hc
    rw [d.callables_eq]
    exact ⟨List.mem_map_of_mem hf, hselector hs⟩

/-- Arrays of two. -/
def pair : ArraySuffix :=
  ⟨['2'], List.forall_mem_singleton.mpr rfl, by decide⟩

/-- An interface with a function that takes any number of tuples, and an event. -/
def payments : Description where
  declarations :=
    [.function ⟨"pay", by decide⟩
      [.tuple (.plain ⟨"uint256", by decide +kernel⟩ [])
          [.plain ⟨"address", by decide +kernel⟩ [pair]] [.dynamic],
        .plain ⟨"bool", by decide +kernel⟩ []] [],
      .event ⟨"Paid", by decide⟩ [.plain ⟨"address", by decide +kernel⟩ []] false]
  constructors := by decide
  fallbacks := by decide
  receives := by decide

/-- The document of this interface parses, also in its indented form. -/
theorem parse_of_payments :
    payments.Writes Json.isHarmless payments.document ∧ payments.document.depth ≤ maxDepth ∧
      Token.Layout (tokens payments.document) payments.document.pretty.toList ∧
      payments.callables = [⟨"pay", "pay((uint256,address[2])[],bool)"⟩] ∧
      ∃ t, Interface.parse payments.document.pretty = .ok t ∧ t.selectors.Nodup ∧
        (∀ s, s ∈ t.selectors ↔
          ∃ c ∈ payments.callables, s.bytes = (Keccak.hashText c.signature).take 4) ∧
        ∀ s c, t.get? s = some c →
          c ∈ payments.callables ∧ s.bytes = (Keccak.hashText c.signature).take 4 := by
  have hwrites := payments.writes_document Json.isHarmless
  have hdepth : payments.document.depth ≤ maxDepth := by decide +kernel
  have hlayout := Token.layout_pretty payments.document
  refine ⟨hwrites, hdepth, hlayout, by decide +kernel, ?_⟩
  exact payments.parse_of_writes hwrites hdepth hlayout

/-! ### Values that cannot be held -/

/-- A text that lays out a document that cannot be held is not a description. -/
theorem parse_of_not_isHeld (hproper : j.isProper = true) (hheld : j.isHeld = false)
    {text : String} (htext : Token.Layout (tokens j) text.toList) :
    ∃ e, Interface.parse text = .error e := by
  have hnot : Interface.ofJson? j = none := by
    rw [Interface.ofJson?, isHoldable, hheld, Bool.and_false, if_neg Bool.false_ne_true]
  rw [Interface.parse]
  split
  · exact ⟨_, rfl⟩
  · rw [parse?_of_layout hproper htext, Option.bind_some, hnot]
    exact ⟨_, rfl⟩

/-- An interface with a function that takes nothing. -/
def ping : Description where
  declarations := [.function ⟨"ping", by decide⟩ [] []]
  constructors := by decide
  fallbacks := by decide
  receives := by decide

/-- A document of this interface with a value in a member that no one asks for. -/
def pingNoting (note : Json) : Json :=
  .array [.record ([("note", note)]
    ++ Members.ofFields ((Declaration.function ⟨"ping", by decide⟩ [] []).fields .none [] []))]

theorem writes_pingNoting {isExtra : Json → Bool} {note : Json} (h : isExtra note = true) :
    ping.Writes isExtra (pingNoting note) := by
  refine ⟨_, rfl, .cons ⟨.none, [], [], .nil, .nil, IsRecordOf.of_others _ ?_ ?_⟩ .nil⟩
  · rintro m hm
    rw [List.mem_singleton.mp hm]
    show "note" ∉ ["type", "name", "inputs", "outputs", "stateMutability", "payable", "constant"]
    decide
  · rintro m hm
    rw [List.mem_singleton.mp hm]
    exact h

/-- Ten to the power of 400. -/
def huge : Json :=
  .number ⟨false, ['1'], none, some (false, ['4', '0', '0'])⟩

/-- **Refusal**: a number beyond the range of a double and a text that stands for no string are not
passed over in a member that no one asks for, proper and flat as they are. -/
theorem parse_rejects_notes :
    (ping.Writes isProper (pingNoting huge) ∧ (pingNoting huge).depth ≤ maxDepth ∧
      Token.Layout (tokens (pingNoting huge)) (pingNoting huge).render.toList ∧
      ∃ e, Interface.parse (pingNoting huge).render = .error e) ∧
    ping.Writes isProper (pingNoting (.text none)) ∧ (pingNoting (.text none)).depth ≤ maxDepth ∧
      Token.Layout (tokens (pingNoting (.text none))) (pingNoting (.text none)).render.toList ∧
      ∃ e, Interface.parse (pingNoting (.text none)).render = .error e := by
  refine ⟨⟨writes_pingNoting rfl, by decide, Token.layout_render _, ?_⟩,
    writes_pingNoting rfl, by decide, Token.layout_render _, ?_⟩
  · exact parse_of_not_isHeld (by decide) (by decide +kernel) (Token.layout_render _)
  · exact parse_of_not_isHeld (by decide) (by decide) (Token.layout_render _)

end Description

end OffChain.Abi
