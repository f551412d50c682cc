/-
# Two ways to one companion

A companion is made from a description, and there are two ways to come by one.

| | from an item | from a list of described types |
| --- | --- | --- |
| the description | lifted from the attributes of the item | a node of a tree |
| package, enclosing types | none; what the theme attributes say | those of the tree |
| nested types | none | those of the node |

None of what differs is looked at: the code of a companion depends on the visibility, the name of the
type, and on names, shapes and resources of its bound fields (`synthesize_eq`). So both ways lead to
the same code, or to none (`Derive.expandBinding_agrees`).
-/

import Theming.Derive.Expansion
import Theming.Proofs.Checks
import Theming.Proofs.Faults
import Theming.Proofs.Products

namespace Theming

/-! ## What a companion is made from -/

/-- What the code of a companion takes from a field. -/
structure Essence where
  name : String
  /-- None, if the type of the field cannot be read. -/
  shape : Option Shape
  resources : List (ResourceKind × ResourceId)
deriving DecidableEq

def FieldDescription.essence (field : FieldDescription) : Essence where
  name := field.name
  shape := (Syntax.TypeExpr.parse? field.type).map Shape.ofType
  resources := field.resources

/-- What the code of a companion takes from the fields of a type, in order. -/
def TypeDescription.essences (type : TypeDescription) : List Essence :=
  (type.fields.filter FieldDescription.isAnnotated).map FieldDescription.essence

namespace FieldBinding

/-- Two lists of bindings of fields with the same essence are the same, but for the types. -/
theorem toBinding_of_essence {bindings bindings' : List FieldBinding}
    {fields fields' : List FieldDescription} (h : List.Forall₂ FieldBinding.Of bindings fields)
    (h' : List.Forall₂ FieldBinding.Of bindings' fields')
    (hessence : fields.map FieldDescription.essence = fields'.map FieldDescription.essence) :
    bindings.map toBinding = bindings'.map toBinding := by
  induction h generalizing bindings' fields' with
  | nil =>
    cases h' with
    | nil => rfl
    | cons => cases hessence
  | @cons b field bindings fields hb _ ih =>
    cases h' with
    | nil => cases hessence
    | @cons b' field' bindings' fields' hb' hrest' =>
      obtain ⟨hfirst, hrest⟩ := List.cons.inj hessence
      obtain ⟨hname, hshape, hresources⟩ := Essence.mk.inj hfirst
      rw [hb.type, hb'.type, Option.map_some, Option.map_some, ← hb.shape, ← hb'.shape,
        Option.some.injEq] at hshape
      rw [FieldDescription.resources, FieldDescription.resources, hb.resource, hb'.resource,
        List.singleton_inj, Prod.mk.injEq] at hresources
      rw [← hb.name, ← hb'.name] at hname
      rw [List.map_cons, List.map_cons, ih hrest' hrest]
      congr 1
      rw [Binding.mk.injEq]
      exact ⟨hname, hshape, hresources⟩

end FieldBinding

namespace Companion

open Syntax (Code)

theorem membersOf_eq {fields fields' : List FieldBinding}
    (h : fields.map FieldBinding.toBinding = fields'.map FieldBinding.toBinding) :
    membersOf fields = membersOf fields' := by
  induction fields generalizing fields' with
  | nil =>
    obtain rfl := List.map_eq_nil_iff.mp h.symm
    rfl
  | cons field rest ih =>
    cases fields' with
    | nil => cases h
    | cons field' rest' =>
      obtain ⟨hfirst, hrest⟩ := List.cons.inj h
      rw [membersOf, membersOf, ih hrest, hfirst]

/-- **The code of a companion depends on the name of the type and on its bindings alone.** -/
theorem synthesize_eq {ty ty' : DeclaringType} (hname : ty.name = ty'.name)
    (hfields : ty.fields.map FieldBinding.toBinding = ty'.fields.map FieldBinding.toBinding)
    (visibility : List Code) : synthesize visibility ty = synthesize visibility ty' := by
  have hqualifies : ty.qualifies = ty'.qualifies := by
    have hempty := congrArg List.isEmpty hfields
    rw [List.isEmpty_map, List.isEmpty_map] at hempty
    rw [DeclaringType.qualifies, DeclaringType.qualifies, hempty]
  rw [synthesize, synthesize, Source.ofType, Source.ofType, hqualifies,
    DeclaringType.companionName, DeclaringType.companionName, hname, membersOf_eq hfields]

end Companion

namespace DeclaringType

theorem mem_qualifying (ty : DeclaringType) (h : ty.qualifies = true) : ty ∈ ty.qualifying := by
  obtain ⟨package, enclosing, name, fields, nested⟩ := ty
  rw [qualifying, if_neg (by simpa [qualifies] using h)]
  exact List.mem_append_left _ List.mem_cons_self

mutual

/-- **Every node of a tree has a model, wherever it is nested**, and that of a node with an annotated
field is listed for the tree. -/
theorem buildIn_node {package : String} {enclosing around : List String} {desc node : TypeDescription}
    {ty : DeclaringType} (h : buildIn package enclosing desc = .ok ty)
    (hnode : (around, node) ∈ desc.census enclosing) :
    ∃ q, buildIn package around node = .ok q ∧ (q.qualifies = true → q ∈ ty.qualifying) := by
  obtain ⟨outer, name, fields, nested⟩ := desc
  rw [TypeDescription.census] at hnode
  rcases List.mem_cons.mp hnode with heq | hnode
  · cases heq
    exact ⟨ty, h, ty.mem_qualifying⟩
  · rw [buildIn] at h
    obtain ⟨-, -, h⟩ := Except.bind_eq_ok h
    obtain ⟨bindings, -, h⟩ := Except.bind_eq_ok h
    obtain ⟨tys, htys, h⟩ := Except.bind_eq_ok h
    cases h
    obtain ⟨q, hq, hlisted⟩ := buildAllIn_node htys hnode
    refine ⟨q, hq, fun hqualifies => ?_⟩
    rw [qualifying]
    exact List.mem_append_right _ (hlisted hqualifies)

theorem buildAllIn_node {package : String} {enclosing around : List String}
    {descs : List TypeDescription} {node : TypeDescription} {tys : List DeclaringType}
    (h : buildAllIn package enclosing descs = .ok tys)
    (hnode : (around, node) ∈ TypeDescription.censusAll enclosing descs) :
    ∃ q, buildIn package around node = .ok q ∧ (q.qualifies = true → q ∈ allQualifying tys) := by
  cases descs with
  | nil => cases hnode
  | cons desc rest =>
    rw [buildAllIn] at h
    obtain ⟨ty, hty, h⟩ := Except.bind_eq_ok h
    obtain ⟨others, hothers, h⟩ := Except.bind_eq_ok h
    cases h
    rw [TypeDescription.censusAll] at hnode
    rcases List.mem_append.mp hnode with hnode | hnode
    · obtain ⟨q, hq, hlisted⟩ := buildIn_node hty hnode
      refine ⟨q, hq, fun hqualifies => ?_⟩
      have hmem := hlisted hqualifies
      -- a type that lists something is not pruned
      cases hbindings : ty.hasBindings with
      | true =>
        rw [if_pos rfl, allQualifying]
        exact List.mem_append_left _ hmem
      | false =>
        rw [qualifying_of_not_hasBindings ty hbindings] at hmem
        cases hmem
    · obtain ⟨q, hq, hlisted⟩ := buildAllIn_node hothers hnode
      refine ⟨q, hq, fun hqualifies => ?_⟩
      split_ifs
      · rw [allQualifying]
        exact List.mem_append_right _ (hlisted hqualifies)
      · exact hlisted hqualifies

end

/-- The bindings of a node are those of its annotated fields. -/
theorem buildIn_bindings {package : String} {enclosing : List String} {desc : TypeDescription}
    {ty : DeclaringType} (h : buildIn package enclosing desc = .ok ty) :
    ty.name = desc.name ∧ List.Forall₂ FieldBinding.Of ty.fields
      (desc.fields.filter FieldDescription.isAnnotated) := by
  obtain ⟨outer, name, fields, nested⟩ := desc
  rw [buildIn] at h
  obtain ⟨-, -, h⟩ := Except.bind_eq_ok h
  obtain ⟨bindings, hbindings, h⟩ := Except.bind_eq_ok h
  obtain ⟨tys, -, h⟩ := Except.bind_eq_ok h
  cases h
  exact ⟨rfl, FieldBinding.allOfDescription_covers hbindings⟩

/-- A node gets a companion iff it has an annotated field. -/
theorem qualifies_eq_isAnnotated {package : String} {enclosing : List String}
    {desc : TypeDescription} {ty : DeclaringType} (h : buildIn package enclosing desc = .ok ty) :
    ty.qualifies = desc.isAnnotated := by
  have hlength := (buildIn_bindings h).2.length_eq
  rw [qualifies, Bool.eq_iff_iff, Bool.not_eq_true', ← Bool.not_eq_true, List.isEmpty_iff,
    ← List.length_eq_zero_iff, hlength, List.length_eq_zero_iff, List.filter_eq_nil_iff,
    TypeDescription.isAnnotated, List.any_eq_true]
  push Not
  rfl

end DeclaringType

namespace Companion

open Syntax (Code)

/-- A companion is made of a type iff the type has a bound field. -/
theorem isSome_of_synthesize {ty : DeclaringType} {visibility : List Code}
    {companion : Option (List Code)} (h : synthesize visibility ty = .ok companion) :
    companion.isSome = ty.qualifies := by
  rw [synthesize] at h
  cases hsource : Source.ofType visibility ty with
  | error e =>
    rw [hsource] at h
    cases h
  | ok source =>
    rw [hsource] at h
    cases h
    rw [Source.ofType] at hsource
    split_ifs at hsource with hqualifies
    · obtain ⟨_, -, hsource⟩ := Except.bind_eq_ok hsource
      obtain ⟨_, -, hsource⟩ := Except.bind_eq_ok hsource
      obtain ⟨_, -, hsource⟩ := Except.bind_eq_ok hsource
      cases hsource
      exact hqualifies.symm
    · cases hsource
      exact (Bool.eq_false_iff.mpr hqualifies).symm

end Companion

namespace Derive

open Syntax (Item Code)

/-- What an accepted item is made into, step by step. -/
theorem expandBinding_eq_ok {item : Item} {code : List Code} (h : expandBinding item = .ok code) :
    ∃ attrs desc ty companion, themeAttributes item.attributes = .ok attrs ∧
      describe item = .ok desc ∧ DeclaringType.build desc = .ok ty ∧
      Companion.synthesize item.visibility { ty with enclosing := attrs.enclosing } =
        .ok companion ∧
      code = themedCode item.name attrs ++ companion.getD [] := by
  rw [expandBinding] at h
  obtain ⟨-, -, h⟩ := Except.bind_eq_ok h
  obtain ⟨attrs, hattrs, h⟩ := Except.bind_eq_ok h
  obtain ⟨declaring, hmodel, h⟩ := Except.bind_eq_ok h
  obtain ⟨companion, hcompanion, h⟩ := Except.bind_eq_ok h
  cases h
  rw [model] at hmodel
  obtain ⟨desc, hdesc, hmodel⟩ := Except.bind_eq_ok hmodel
  obtain ⟨ty, hty, hmodel⟩ := Except.bind_eq_ok hmodel
  cases hmodel
  exact ⟨attrs, desc, ty, companion, hattrs, hdesc, Except.mapError_eq_ok.mp hty,
    Except.mapError_eq_ok.mp hcompanion, rfl⟩

theorem describe_name {item : Item} {desc : TypeDescription} (h : describe item = .ok desc) :
    desc.name = item.name := by
  rw [describe.eq_def] at h
  split at h
  · obtain ⟨fields, -, h⟩ := Except.bind_eq_ok h
    cases h
    rfl
  · cases h
    rfl
  all_goals cases h

/-- **An item and a node of a tree have the same companion.** The code of an accepted item is that of
its theme attributes and behind it the code of a companion, if the item has an annotated field.
Wherever a node of this name with the same bound fields stands in a tree, its model has this very
companion under the visibility of the item, or none if the item has none, and is among the types that
get one accordingly. Nor does the companion change with the attributes of the item. -/
theorem expandBinding_agrees {item : Item} {code : List Code} (h : expandBinding item = .ok code) :
    ∃ attrs desc companion, themeAttributes item.attributes = .ok attrs ∧
      describe item = .ok desc ∧ code = themedCode item.name attrs ++ companion.getD [] ∧
      (companion.isSome ↔ desc.isAnnotated = true) ∧
      (∀ tree enclosing node, (enclosing, node) ∈ tree.census [] → node.name = item.name →
        node.essences = desc.essences →
          (∀ q, DeclaringType.buildIn tree.package enclosing node = .ok q →
            Companion.synthesize item.visibility q = .ok companion) ∧
          ∀ ty, DeclaringType.build tree = .ok ty →
            ∃ q, DeclaringType.buildIn tree.package enclosing node = .ok q ∧
              (q ∈ ty.qualifying ↔ companion.isSome)) ∧
      ∀ attributes code', expandBinding { item with attributes } = .ok code' →
        ∃ attrs', themeAttributes attributes = .ok attrs' ∧
          code' = themedCode item.name attrs' ++ companion.getD [] := by
  obtain ⟨attrs, desc, ty, companion, hattrs, hdesc, hty, hcompanion, hcode⟩ :=
    expandBinding_eq_ok h
  obtain ⟨hname, hbindings⟩ := DeclaringType.buildIn_bindings hty
  have hsome : companion.isSome = ty.qualifies := Companion.isSome_of_synthesize hcompanion
  refine ⟨attrs, desc, companion, hattrs, hdesc, hcode, ?_, ?_, ?_⟩
  · rw [hsome, DeclaringType.qualifies_eq_isAnnotated hty]
  · intro tree enclosing node hnode hnodeName hessences
    have hsame : ∀ q, DeclaringType.buildIn tree.package enclosing node = .ok q →
        Companion.synthesize item.visibility q = .ok companion := by
      intro q hq
      obtain ⟨hqName, hqBindings⟩ := DeclaringType.buildIn_bindings hq
      rw [← hcompanion]
      refine Companion.synthesize_eq ?_ ?_ item.visibility
      · rw [hqName, hnodeName, hname, describe_name hdesc]
      · exact FieldBinding.toBinding_of_essence hqBindings hbindings hessences
    refine ⟨hsame, fun model hmodel => ?_⟩
    obtain ⟨q, hq, hlisted⟩ := DeclaringType.buildIn_node hmodel hnode
    refine ⟨q, hq, ?_⟩
    rw [Companion.isSome_of_synthesize (hsame q hq)]
    exact ⟨model.qualifies_of_mem_qualifying q, hlisted⟩
  · intro attributes code' h'
    obtain ⟨attrs', desc', ty', companion', hattrs', hdesc', hty', hcompanion', hcode'⟩ :=
      expandBinding_eq_ok h'
    obtain rfl : desc = desc' := Except.ok.inj (hdesc.symm.trans hdesc')
    obtain rfl : ty = ty' := Except.ok.inj (hty.symm.trans hty')
    obtain rfl : companion = companion' := by
      refine Except.ok.inj (hcompanion.symm.trans (Eq.trans ?_ hcompanion'))
      exact Companion.synthesize_eq rfl rfl item.visibility
    exact ⟨attrs', hattrs', hcode'⟩

/-- A card as it is declared. -/
def cardText : String :=
  "#[theme(name = \"kit::Card\", enclosing = \"Deck\")] pub(crate) struct Card \x7b" ++
    "#[bind_color(1)] tint: Option<Color>, stock: u32, #[bind_drawable(2)] art: Reactive<Drawable> \x7d"

/-- The card as it is described, with a mark of its own and without the field that is not bound. -/
def cardNode : TypeDescription where
  package := "elsewhere"
  name := "Card"
  fields := [
    { name := "tint", type := "Option < Color >", annotations := [.other "serde", .bindColor 1] },
    { name := "art", type := "Reactive<Drawable>", annotations := [.bindDrawable 2] }]

/-- A shop with a shelf of cards. -/
def shop : TypeDescription where
  package := "shop"
  name := "Shop"
  nested := [{ name := "Shelf", nested := [cardNode] }]

/-- The card of the shelf has the companion that is derived for the card. -/
theorem card_agrees : ∃ item code companion ty q, Item.parse? cardText = some item ∧
    expandBinding item = .ok code ∧ companion <:+ code ∧ DeclaringType.build shop = .ok ty ∧
    DeclaringType.buildIn "shop" ["Shop", "Shelf"] cardNode = .ok q ∧ q ∈ ty.qualifying ∧
    Companion.synthesize item.visibility q = .ok (some companion) := by
  have hread : ((Item.parse? cardText).bind fun item =>
      (describe item).toOption.bind fun desc => (expandBinding item).toOption.map fun _ =>
        (item.name, desc.essences, desc.isAnnotated)) =
          some ("Card", cardNode.essences, true) := by decide +kernel
  obtain ⟨item, hitem, hread⟩ := Option.bind_eq_some_iff.mp hread
  obtain ⟨desc, hdesc, hread⟩ := Option.bind_eq_some_iff.mp hread
  obtain ⟨code, hcode, hread⟩ := Option.map_eq_some_iff.mp hread
  rw [Except.toOption_eq_some] at hdesc hcode
  obtain ⟨hname, hread⟩ := Prod.mk.inj hread
  obtain ⟨hessences, hannotated⟩ := Prod.mk.inj hread
  obtain ⟨ty, hty⟩ := Option.isSome_iff_exists.mp
    (show (DeclaringType.build shop).toOption.isSome = true by decide +kernel)
  rw [Except.toOption_eq_some] at hty
  obtain ⟨attrs, desc', companion, -, hdesc', rfl, hsome, hnodes, -⟩ := expandBinding_agrees hcode
  obtain rfl : desc = desc' := Except.ok.inj (hdesc.symm.trans hdesc')
  obtain ⟨hsame, hlisted⟩ := hnodes shop ["Shop", "Shelf"] cardNode
    (List.mem_cons_of_mem _ (List.mem_cons_of_mem _ List.mem_cons_self)) hname.symm hessences.symm
  obtain ⟨q, hq, hmem⟩ := hlisted ty hty
  obtain ⟨companion, rfl⟩ := Option.isSome_iff_exists.mp (hsome.mpr hannotated)
  exact ⟨item, _, companion, ty, q, hitem, hcode, List.suffix_append _ _, hty, hq, hmem.mpr rfl,
    hsame q hq⟩

end Derive
end Theming
