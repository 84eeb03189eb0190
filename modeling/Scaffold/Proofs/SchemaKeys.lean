import Scaffold.Proofs.ContextShape
import Scaffold.Proofs.EntityModels
import Scaffold.Proofs.Inverses

namespace Scaffold

/-!
# Keys of a schema

The fields and the relationships of a model are written as the keys of one
object. Keys and inverses are added only where they are not there, but what
an entity lists is taken as it is listed, and the name of a relationship is
not compared with the names of fields. So the keys of a linked model differ
just if those differ that the entities list for it.
-/

/-- The name that a relationship has by its ends. -/
def Relationship.nameOf : RelationshipKind × String → String
  | (.belongsTo, target) => Words.camel target
  | (.hasMany, target) => Words.camel (Words.plural target)

namespace Model

variable {m : Model} {key : String}

def fieldNames (m : Model) : List String :=
  m.fields.map (·.name)

def relationshipNames (m : Model) : List String :=
  m.relationships.map (·.name)

def ends (m : Model) : List (RelationshipKind × String) :=
  m.relationships.map Relationship.ends

theorem hasField_iff : m.hasField key = true ↔ key ∈ m.fieldNames := by
  simp [hasField, fieldNames]

theorem nodup_withKey (hkey : Words.camel key = key) (h : m.fieldNames.Nodup) :
    (m.withKey key).fieldNames.Nodup := by
  unfold withKey
  split
  · exact h
  · next hnew =>
      rw [hasField_iff] at hnew
      have hnames : (Field.must key .id).name = key := hkey
      simp only [fieldNames, List.map_append, List.map_singleton, hnames]
      rw [← List.concat_eq_append]
      exact h.concat hnew

/-! ## Models as they are made -/

/-- A model whose relationships are named after their ends, with the key of the side that has
many. -/
structure Regular (m : Model) : Prop where
  named : ∀ r ∈ m.relationships, r.name = Relationship.nameOf r.ends
  many : ∀ r ∈ m.relationships, r.kind = .hasMany → r.field = keyOf m.name
  owner : ∀ r ∈ m.relationships, r.kind = .belongsTo →
    r.field = keyOf r.target ∧ (KeyInCamel r.target → m.hasField r.field = true)

theorem Regular.addOwner (h : m.Regular) (target : String) : (m.addOwner target).Regular := by
  have hextends := m.extends_withKey (keyOf (Words.pascal target))
  refine ⟨?_, ?_, ?_⟩
  all_goals
    rw [Model.addOwner, withRelationship_relationships, withKey_relationships]
    refine List.forall_mem_append.mpr ⟨fun r hr => ?_, List.forall_mem_singleton.mpr ?_⟩
  · exact h.named r hr
  · rfl
  · intro hkind
    exact (h.many r hr hkind).trans (congrArg keyOf hextends.name.symm)
  · rintro ⟨⟩
  · intro hkind
    obtain ⟨hfield, hthere⟩ := h.owner r hr hkind
    exact ⟨hfield, fun hcamel => hextends.hasField (hthere hcamel)⟩
  · exact fun _ => ⟨rfl, fun hcamel => hasField_withKey hcamel⟩

theorem Regular.addMany (h : m.Regular) (target : String) : (m.addMany target).Regular := by
  refine ⟨?_, ?_, ?_⟩
  all_goals
    rw [Model.addMany, withRelationship_relationships]
    refine List.forall_mem_append.mpr ⟨fun r hr => ?_, List.forall_mem_singleton.mpr ?_⟩
  · exact h.named r hr
  · rfl
  · exact h.many r hr
  · exact fun _ => rfl
  · exact h.owner r hr
  · rintro ⟨⟩

theorem regular_make (name : String) (fields : List Field)
    (belongsTo hasMany authorization : List String) :
    (make name fields belongsTo hasMany authorization).Regular := by
  have hfold (add : Model → String → Model)
      (hadd : ∀ m : Model, m.Regular → ∀ target, (add m target).Regular)
      (targets : List String) (m : Model) (hm : m.Regular) : (targets.foldl add m).Regular := by
    induction targets generalizing m with
    | nil => exact hm
    | cons target targets ih => exact ih _ (hadd m hm target)
  refine hfold _ (fun m hm => hm.addMany) _ _ (hfold _ (fun m hm => hm.addOwner) _ _ ?_)
  exact ⟨nofun, nofun, nofun⟩

end Model

namespace Schema

open Model

variable {models : List Model} {m n owner : Model} {r : Relationship} {name : String}
  {p : RelationshipKind × String}

/-! ## Related models -/

/-- A model of this name lists a relationship with these ends, to a model of the list. -/
def Declares (models : List Model) (name : String) (p : RelationshipKind × String) : Prop :=
  ∃ m ∈ models, m.name = name ∧ p ∈ m.ends ∧ knows models p.2 = true

/-- One of the two sides lists the relationship. -/
def Related (models : List Model) (name : String) (p : RelationshipKind × String) : Prop :=
  Declares models name p ∨ Declares models p.2 (p.1.inverse, name)

theorem Related.symm (h : Related models name p) : Related models p.2 (p.1.inverse, name) := by
  rcases h with h | h
  · refine .inr ?_
    rwa [RelationshipKind.inverse_inverse]
  · exact .inl h

theorem ends_inverse (owner : Model) (r : Relationship) :
    (inverse owner r).ends = (r.kind.inverse, owner.name) := rfl

theorem name_inverse (owner : Model) (r : Relationship) :
    (inverse owner r).name = Relationship.nameOf (inverse owner r).ends := by
  rw [ends_inverse, inverse]
  cases r.kind <;> rfl

theorem relationships_dropUnknown {P : String → Relationship → Prop}
    (h : ∀ m ∈ models, ∀ r ∈ m.relationships, knows models r.target = true → P m.name r) :
    ∀ n ∈ dropUnknown (distinct models), ∀ r ∈ n.relationships, P n.name r := by
  intro n hn r hr
  obtain ⟨m, hm, hname, -, hrelationships⟩ := mem_dropUnknown hn
  obtain ⟨hr, hknown⟩ := hrelationships r hr
  rw [hname]
  refine h m ((distinct_spec models).2.1 m hm) r hr ?_
  rw [← knows_distinct]
  exact knows_iff.mpr hknown

theorem relationships_linkOne {P : String → Relationship → Prop}
    (hinverse : ∀ owner r, P owner.name r → P r.target (inverse owner r))
    (h : ∀ m ∈ models, ∀ r ∈ m.relationships, P m.name r) (howner : P owner.name r) :
    ∀ n ∈ linkOne owner models r, ∀ s ∈ n.relationships, P n.name s := by
  intro n hn s hs
  obtain ⟨m, hm, hextends, ⟨rfl, -⟩ | ⟨rfl, htarget⟩⟩ := mem_linkOne hn
  · exact h n hm s hs
  · rw [hextends.name]
    rcases mem_relationships_pointBack hs with hs | rfl
    · exact h m hm s hs
    · rw [htarget]
      exact hinverse owner r howner

theorem holds_of_extends {P : String → Relationship → Prop}
    (h : ∀ m ∈ models, ∀ r ∈ m.relationships, P m.name r)
    (hthere : ∃ m ∈ models, owner.Extends m) (hr : r ∈ owner.relationships) : P owner.name r := by
  obtain ⟨m, hm, hextends⟩ := hthere
  exact hextends.name ▸ h m hm r (hextends.relationships.subset hr)

/-- What holds of the relationships with known targets and is passed on to inverses holds of all
relationships of linked models. -/
theorem relationships_link {P : String → Relationship → Prop}
    (hdeclared : ∀ m ∈ models, ∀ r ∈ m.relationships, knows models r.target = true → P m.name r)
    (hinverse : ∀ owner r, P owner.name r → P r.target (inverse owner r)) :
    ∀ n ∈ link models, ∀ r ∈ n.relationships, P n.name r :=
  link_induction (P := fun linked => ∀ n ∈ linked, ∀ r ∈ n.relationships, P n.name r)
    (fun _ _ _ hall hthere hr => relationships_linkOne hinverse hall (holds_of_extends hall hthere hr)) _
    (relationships_dropUnknown hdeclared)

/-! ## Ends of linked models -/

theorem mem_ends_of_declares (hnodup : (models.map (·.name)).Nodup) (h : Declares models name p) :
    ∃ n ∈ link models, n.name = name ∧ p ∈ n.ends := by
  obtain ⟨m, hm, rfl, hp, hknown⟩ := h
  obtain ⟨r, hr, rfl⟩ := List.mem_map.mp hp
  have hdropped : { m with relationships := m.relationships.filter (knows models ·.target) }
      ∈ dropUnknown (distinct models) := by
    rw [distinct_of_nodup hnodup]
    exact List.mem_map_of_mem hm
  obtain ⟨n, hn, hextends⟩ := exists_extends_link models _ hdropped
  refine ⟨n, hn, hextends.name, List.mem_map_of_mem (hextends.relationships.subset ?_)⟩
  exact List.mem_filter.mpr ⟨hr, hknown⟩

theorem mem_ends_link_iff (hnodup : (models.map (·.name)).Nodup) (hn : n ∈ link models) :
    p ∈ n.ends ↔ Related models n.name p := by
  have hunique (k : Model) (hk : k ∈ link models) (hname : k.name = n.name) : k = n :=
    List.inj_on_of_nodup_map (nodup_link models) hk hn hname
  constructor
  · intro hp
    obtain ⟨r, hr, rfl⟩ := List.mem_map.mp hp
    refine relationships_link (P := fun name r => Related models name r.ends)
      (fun m hm r hr hknown => .inl ?_) (fun owner r h => h.symm) n hn r hr
    exact ⟨m, hm, rfl, List.mem_map_of_mem hr, hknown⟩
  · rintro (h | h)
    · obtain ⟨k, hk, hname, hp⟩ := mem_ends_of_declares hnodup h
      exact hunique k hk hname ▸ hp
    · -- the other side lists it, and linking answers it on this one
      obtain ⟨k, hk, hname, hp⟩ := mem_ends_of_declares hnodup h
      obtain ⟨r, hr, hends⟩ := List.mem_map.mp hp
      obtain ⟨hkind, htarget⟩ := Prod.mk.inj hends
      have hpoints := answered_link models k hk r hr n hn htarget.symm
      obtain ⟨s, hs, hskind, hstarget⟩ := pointsTo_iff.mp hpoints
      refine List.mem_map.mpr ⟨s, hs, Prod.ext ?_ (hstarget.trans hname)⟩
      rw [Relationship.ends, hskind, hkind, RelationshipKind.inverse_inverse]

/-- The one model that a linked model comes from, if there is one model to a name. -/
theorem exists_gains_of_nodup (hnodup : (models.map (·.name)).Nodup) (hn : n ∈ link models)
    (hm : m ∈ models) (hname : m.name = n.name) :
    ∃ keys added, Gains (link models)
      { m with relationships := m.relationships.filter (knows models ·.target) } n keys added := by
  obtain ⟨k, keys, added, hfind, hgains⟩ := exists_gains_link hn
  obtain ⟨hk, hkname⟩ := mem_of_find? hfind
  obtain rfl : k = m :=
    List.inj_on_of_nodup_map hnodup (List.mem_reverse.mp hk) hm (hkname.trans hname.symm)
  exact ⟨keys, added, hgains⟩

theorem nodup_ends_iff (hnodup : (models.map (·.name)).Nodup) (hn : n ∈ link models)
    (hm : m ∈ models) (hname : m.name = n.name) :
    n.ends.Nodup ↔
      ((m.relationships.filter (knows models ·.target)).map Relationship.ends).Nodup := by
  obtain ⟨keys, added, hgains⟩ := exists_gains_of_nodup hnodup hn hm hname
  have hends : n.ends = (m.relationships.filter (knows models ·.target)).map Relationship.ends
      ++ added.map Relationship.ends := by
    rw [hgains.eq, ends, List.map_append]
  rw [hends, List.nodup_append]
  refine ⟨fun h => h.1, fun h => ⟨h, hgains.once, fun p hp q hq heq => ?_⟩⟩
  obtain ⟨s, hs, rfl⟩ := List.mem_map.mp hq
  exact hgains.fresh s hs (heq ▸ hp)

/-! ## Names of relationships -/

theorem named_link (h : ∀ m ∈ models, m.Regular) (hn : n ∈ link models) :
    n.relationshipNames = n.ends.map Relationship.nameOf := by
  have hnamed := relationships_link (P := fun _ r => r.name = Relationship.nameOf r.ends)
    (fun m hm r hr _ => (h m hm).named r hr) (fun owner r _ => name_inverse owner r) n hn
  rw [ends, List.map_map]
  exact List.map_congr_left hnamed

/-! ## Names of fields -/

/-- A relationship of the model of this name has the key of the side that has many, in camel
case. -/
structure Keyed (name : String) (r : Relationship) : Prop where
  many : r.kind = .hasMany → r.field = keyOf name
  owner : r.kind = .belongsTo → r.field = keyOf r.target
  camel : Words.camel r.field = r.field

theorem Keyed.inverse (h : Keyed owner.name r) : Keyed r.target (inverse owner r) where
  many hkind := by
    have hside : r.kind = .belongsTo := by
      rw [← r.kind.inverse_inverse]
      exact congrArg RelationshipKind.inverse hkind
    exact h.owner hside
  owner hkind := by
    have hside : r.kind = .hasMany := by
      rw [← r.kind.inverse_inverse]
      exact congrArg RelationshipKind.inverse hkind
    exact h.many hside
  camel := h.camel

theorem nodup_pointBack (hcamel : Words.camel r.field = r.field) (h : m.fieldNames.Nodup) :
    (pointBack owner r m).fieldNames.Nodup := by
  rcases pointBack_cases owner r m with ⟨-, heq⟩ | ⟨keyed, ⟨rfl, -⟩ | ⟨rfl, -⟩, heq⟩
  all_goals rw [heq]
  · exact h
  · exact h
  · exact nodup_withKey hcamel h

variable (hnodup : (models.map (·.name)).Nodup)
  (h : ∀ m ∈ models, m.Regular ∧ KeyInCamel m.name)

include h in
theorem keyInCamel_of_knows (hknown : knows models name = true) : KeyInCamel name := by
  obtain ⟨m, hm, rfl⟩ := List.mem_map.mp (knows_iff.mp hknown)
  exact (h m hm).2

include h in
theorem keyed_of_knows (hm : m ∈ models) (hr : r ∈ m.relationships)
    (hknown : knows models r.target = true) : Keyed m.name r := by
  obtain ⟨hregular, hcamel⟩ := h m hm
  refine ⟨hregular.many r hr, fun hkind => (hregular.owner r hr hkind).1, ?_⟩
  cases hkind : r.kind with
  | hasMany =>
      rw [hregular.many r hr hkind]
      exact hcamel
  | belongsTo =>
      rw [(hregular.owner r hr hkind).1]
      exact keyInCamel_of_knows h hknown

include h in
theorem keyed_link : ∀ n ∈ link models, ∀ r ∈ n.relationships, Keyed n.name r :=
  relationships_link (fun _ hm _ => keyed_of_knows h hm) fun _ _ => Keyed.inverse

include hnodup h in
theorem nodup_fieldNames_iff (hn : n ∈ link models) (hm : m ∈ models) (hname : m.name = n.name) :
    n.fieldNames.Nodup ↔ m.fieldNames.Nodup := by
  constructor
  · intro hfields
    obtain ⟨keys, added, hgains⟩ := exists_gains_of_nodup hnodup hn hm hname
    rw [hgains.eq, fieldNames, List.map_append] at hfields
    exact (List.nodup_append.mp hfields).1
  · -- a key goes behind the fields only if it is not among them
    intro hfields
    let P (linked : List Model) : Prop :=
      (∀ n ∈ linked, ∀ r ∈ n.relationships, Keyed n.name r) ∧
        ∀ n ∈ linked, n.name = m.name → n.fieldNames.Nodup
    have hstart : P (dropUnknown (distinct models)) := by
      refine ⟨relationships_dropUnknown fun _ hm _ => keyed_of_knows h hm, fun k hk hkname => ?_⟩
      rw [distinct_of_nodup hnodup] at hk
      obtain ⟨k', hk', hsame, hkfields, -⟩ := mem_dropUnknown hk
      obtain rfl : k' = m := List.inj_on_of_nodup_map hnodup hk' hm (hsame.symm.trans hkname)
      rw [fieldNames, hkfields]
      exact hfields
    have hlinked : P (link models) := by
      refine link_induction (fun linked owner r hall hthere hr => ?_) _ hstart
      have howner : Keyed owner.name r := holds_of_extends hall.1 hthere hr
      refine ⟨relationships_linkOne (fun _ _ => Keyed.inverse) hall.1 howner, fun k hk hkname => ?_⟩
      obtain ⟨k', hk', hextends, ⟨rfl, -⟩ | ⟨rfl, -⟩⟩ := mem_linkOne hk
      · exact hall.2 k hk' hkname
      · exact nodup_pointBack howner.camel (hall.2 k' hk' (hextends.name.symm.trans hkname))
    exact hlinked.2 n hn hname.symm

/-- Of relationships to unknown targets linking sees nothing. -/
theorem link_dropUnknown (hnodup : (models.map (·.name)).Nodup) :
    link (dropUnknown models) = link models := by
  have hnames := names_dropUnknown models
  have hknown : dropUnknown (dropUnknown models) = dropUnknown models := by
    refine dropUnknown_of_known fun m hm r hr => ?_
    obtain ⟨_, _, _, _, hrelationships⟩ := mem_dropUnknown hm
    exact hnames ▸ (hrelationships r hr).2
  rw [link, link, distinct_of_nodup hnodup, distinct_of_nodup (hnames ▸ hnodup), hknown]

include hnodup h in
theorem hasField_link (hn : n ∈ link models) (hr : r ∈ n.relationships)
    (hkind : r.kind = .belongsTo) : n.hasField (keyOf r.target) = true := by
  have hsound : ∀ m ∈ dropUnknown models, m.Sound ∧ KeyInCamel m.name := by
    intro k hk
    obtain ⟨m, hm, rfl⟩ := List.mem_map.mp hk
    obtain ⟨hregular, hcamel⟩ := h m hm
    refine ⟨⟨fun r hr => ?_, fun r hr hkind => ?_⟩, hcamel⟩
    all_goals obtain ⟨hr, hknown⟩ := List.mem_filter.mp hr
    · exact hregular.many r hr
    · obtain ⟨hfield, hthere⟩ := hregular.owner r hr hkind
      exact ⟨hfield, hthere (keyInCamel_of_knows h hknown)⟩
  rw [← link_dropUnknown hnodup] at hn
  obtain ⟨hfield, hthere⟩ := (sound_link hsound n hn).owner r hr hkind
  exact hfield ▸ hthere

include hnodup h in
/-- Behind the fields of a model stand the keys for the models that it belongs to. -/
theorem mem_fieldNames_link_iff (hn : n ∈ link models) (hm : m ∈ models)
    (hname : m.name = n.name) (field : String) :
    field ∈ n.fieldNames ↔ field ∈ m.fieldNames ∨
      ∃ target, Related models n.name (.belongsTo, target) ∧ field = keyOf target := by
  obtain ⟨keys, added, hgains⟩ := exists_gains_of_nodup hnodup hn hm hname
  have hfields : n.fieldNames = m.fieldNames ++ keys.map (·.name) := by
    rw [hgains.eq, fieldNames, List.map_append]
    rfl
  constructor
  · intro hfield
    rw [hfields, List.mem_append] at hfield
    refine hfield.imp_right fun hkey => ?_
    obtain ⟨f, hf, rfl⟩ := List.mem_map.mp hkey
    obtain ⟨s, hs, hkind, rfl⟩ := hgains.keys f hf
    have hsn : s ∈ n.relationships := by
      rw [hgains.eq]
      exact List.mem_append_right _ hs
    have hkeyed := keyed_link h n hn s hsn
    refine ⟨s.target, (mem_ends_link_iff hnodup hn).mp ?_, hkeyed.camel.trans (hkeyed.owner hkind)⟩
    exact List.mem_map.mpr ⟨s, hsn, Prod.ext hkind rfl⟩
  · rintro (hfield | ⟨target, hrelated, rfl⟩)
    · rw [hfields]
      exact List.mem_append_left _ hfield
    · obtain ⟨r, hr, hends⟩ := List.mem_map.mp ((mem_ends_link_iff hnodup hn).mpr hrelated)
      obtain ⟨hkind, rfl⟩ := Prod.mk.inj hends
      exact hasField_iff.mp (hasField_link hnodup h hn hr hkind)

/-! ## Keys of linked models -/

/-- What is listed for a model gives different keys: its fields differ, no known target comes twice
on one side, related models do not share the name of a relationship, and that is neither a field
nor the key of a model that it belongs to. -/
structure Unambiguous (models : List Model) (m : Model) : Prop where
  fields : m.fieldNames.Nodup
  ends : ((m.relationships.filter (knows models ·.target)).map Relationship.ends).Nodup
  names : ∀ p q, Related models m.name p → Related models m.name q →
    Relationship.nameOf p = Relationship.nameOf q → p = q
  apart : ∀ p, Related models m.name p → Relationship.nameOf p ∉ m.fieldNames
  keys : ∀ p target, Related models m.name p → Related models m.name (.belongsTo, target) →
    Relationship.nameOf p ≠ keyOf target

include hnodup h in
theorem nodup_keys_link_iff (hn : n ∈ link models) (hm : m ∈ models) (hname : m.name = n.name) :
    (n.fieldNames ++ n.relationshipNames).Nodup ↔ Unambiguous models m := by
  -- all that the condition speaks of can be read off the linked model
  have hfields := nodup_fieldNames_iff hnodup h hn hm hname
  have hends := nodup_ends_iff hnodup hn hm hname
  have hrelated (p : RelationshipKind × String) : p ∈ n.ends ↔ Related models m.name p :=
    hname ▸ mem_ends_link_iff hnodup hn
  have hkeys (field : String) := mem_fieldNames_link_iff hnodup h hn hm hname field
  rw [named_link (fun m hm => (h m hm).1) hn, List.nodup_append, hfields]
  constructor
  · rintro ⟨hnodupFields, hnames, hapart⟩
    have hnodupEnds := hnames.of_map
    have hapart' (p : RelationshipKind × String) (hp : Related models m.name p) :
        Relationship.nameOf p ∉ n.fieldNames := fun hfield =>
      hapart _ hfield _ (List.mem_map_of_mem ((hrelated p).mpr hp)) rfl
    refine ⟨hnodupFields, hends.mp hnodupEnds, fun p q hp hq heq => ?_, fun p hp hfield => ?_,
      fun p target hp htarget heq => ?_⟩
    · exact List.inj_on_of_nodup_map hnames ((hrelated p).mpr hp) ((hrelated q).mpr hq) heq
    · exact hapart' p hp ((hkeys _).mpr (.inl hfield))
    · exact hapart' p hp ((hkeys _).mpr (.inr ⟨target, hname ▸ htarget, heq⟩))
  · intro hm
    refine ⟨hm.fields, (List.nodup_map_iff_inj_on (hends.mpr hm.ends)).mpr ?_, ?_⟩
    · intro p hp q hq heq
      exact hm.names p q ((hrelated p).mp hp) ((hrelated q).mp hq) heq
    · rintro field hfield _ hthere rfl
      obtain ⟨p, hp, rfl⟩ := List.mem_map.mp hthere
      have hp' := (hrelated p).mp hp
      rcases (hkeys _).mp hfield with hfield | ⟨target, htarget, heq⟩
      · exact hm.apart p hp' hfield
      · exact hm.keys p target hp' (hname.symm ▸ htarget) heq

end Schema

/-! ## Keys of the models of a context -/

open Model

namespace Decisions

theorem regular_entityModels (d : Decisions) : ∀ m ∈ d.entityModels, m.Regular := by
  intro m hm
  obtain ⟨items, spec, name, -, -, -, rfl⟩ := exists_entity_of_mem hm
  exact regular_make _ _ _ _ _

end Decisions

namespace Blueprint

/-- The own models of a pattern have different keys. -/
theorem nodup_keys_ownModels {b : Blueprint} (hb : b ∈ builtIn) (d : Decisions) :
    ∀ m ∈ b.ownModels d, (m.fieldNames ++ m.relationshipNames).Nodup := by
  simp only [builtIn, List.mem_cons, List.not_mem_nil, or_false] at hb
  rcases hb with rfl | rfl | rfl | rfl | rfl
  · dsimp only [socialPlatform]
    decide +kernel
  · dsimp only [eCommerce]
    decide +kernel
  · dsimp only [contentManagement]
    decide +kernel
  · dsimp only [dashboardAnalytics]
    decide +kernel
  · refine List.forall_mem_singleton.mpr ?_
    change (["title", "description", "completed"].map Words.camel).Nodup
    decide +kernel

end Blueprint

/-- The keys of a model of a context differ just if what the entities list for it is
unambiguous. So those of the own models of a pattern always do. -/
theorem schema_keys_distinct_iff (config : PatternConfig)
    (h : ∀ m ∈ config.decisions.entityModels, KeyInCamel m.name) :
    ∃ models, (Builder.standard.build config).get? "models" = some (.list models) ∧
      ∀ v ∈ models, (v.namesIn "fields" ++ v.namesIn "relationships").Nodup ↔
        ∀ m ∈ config.decisions.entityModels, v.textAt? "name" = some m.name →
          Schema.Unambiguous config.decisions.entityModels m := by
  obtain ⟨b, hb, warnings, hproject⟩ := Builder.exists_blueprint config.patternName
  refine ⟨(Builder.standard.project config).models.map Model.toValue, rfl, fun v hv => ?_⟩
  obtain ⟨n, hn, rfl⟩ := List.mem_map.mp hv
  have hnamed : n.toValue.textAt? "name" = some n.name := rfl
  have hmodels : (Builder.standard.project config).models
      = config.decisions.entities?.getD (b.ownModels config.decisions) :=
    congrArg Project.models (hproject config.decisions)
  rw [hnamed, namesIn_fields, namesIn_relationships]
  rw [hmodels, Decisions.entities?_eq] at hn
  split at hn
  · next hnone =>
      rw [hnone]
      exact iff_of_true (Blueprint.nodup_keys_ownModels hb _ n hn) nofun
  · have hregular (m : Model) (hm : m ∈ config.decisions.entityModels) :
        m.Regular ∧ KeyInCamel m.name := ⟨Decisions.regular_entityModels _ m hm, h m hm⟩
    have hnodup := Decisions.nodup_entityModels config.decisions
    obtain ⟨m, -, -, hfind, -⟩ := Schema.exists_gains_link hn
    obtain ⟨hm, hname⟩ := Schema.mem_of_find? hfind
    rw [List.mem_reverse] at hm
    refine (Schema.nodup_keys_link_iff hnodup hregular hn hm hname).trans
      ⟨fun hclear k hk hsame => ?_, fun hall => hall m hm (congrArg some hname.symm)⟩
    have hsame : n.name = k.name := Option.some.inj hsame
    obtain rfl : k = m := List.inj_on_of_nodup_map hnodup hk hm (hsame.symm.trans hname.symm)
    exact hclear

/-- A post that has many comments, and comments that belong to a post. -/
def blogEntities : List Datum :=
  [.map [(.str "name", .str "Post"), (.str "fields", .list [.str "title"]),
      (.str "hasMany", .list [.str "Comment", .str "Ghost"])],
    .map [(.str "name", .str "Comment"), (.str "fields", .list [.str "body", .str "post id"]),
      (.str "belongsTo", .list [.str "post"])]]

def blogConfig : PatternConfig :=
  ⟨"e_commerce", ⟨[("entities", .list blogEntities)]⟩⟩

theorem schema_keys_distinct_example :
    (∀ m ∈ blogConfig.decisions.entityModels, KeyInCamel m.name) ∧
    (∃ models, (Builder.standard.build blogConfig).get? "models" = some (.list models) ∧
      models.map (fun v => v.namesIn "fields" ++ v.namesIn "relationships") =
        [["title", "comments"], ["body", "postId", "post"]]) ∧
    ∀ m ∈ blogConfig.decisions.entityModels,
      Schema.Unambiguous blogConfig.decisions.entityModels m := by
  have hplain : blogConfig.decisions.PlainNames := by
    have hentities : blogConfig.decisions.get? "entities" = some (.list blogEntities) := rfl
    refine ⟨fun items hitems spec hspec name hname => ?_, by rintro name ⟨⟩⟩
    rw [hentities] at hitems
    cases hitems
    simp only [blogEntities, List.mem_cons, List.not_mem_nil, or_false] at hspec
    rcases hspec with rfl | rfl
    all_goals
      cases hname
      decide
  have hcamel : ∀ m ∈ blogConfig.decisions.entityModels, KeyInCamel m.name :=
    fun _ => hplain.keyInCamel
  obtain ⟨models, hmodels, hiff⟩ := schema_keys_distinct_iff blogConfig hcamel
  have hthere : (Builder.standard.build blogConfig).get? "models"
      = some (.list ((Builder.standard.project blogConfig).models.map Model.toValue)) := rfl
  obtain rfl := Value.list.inj (Option.some.inj (hthere.symm.trans hmodels))
  have hnodup : ∀ v ∈ (Builder.standard.project blogConfig).models.map Model.toValue,
      (v.namesIn "fields" ++ v.namesIn "relationships").Nodup := by
    decide +kernel
  have hnamed : ∀ m ∈ blogConfig.decisions.entityModels,
      ∃ v ∈ (Builder.standard.project blogConfig).models.map Model.toValue,
        v.textAt? "name" = some m.name := by
    decide +kernel
  refine ⟨hcamel, ⟨_, hthere, by decide +kernel⟩, fun m hm => ?_⟩
  obtain ⟨v, hv, hname⟩ := hnamed m hm
  exact (hiff v hv).mp (hnodup v hv) m hm hname

/-- A target that is listed twice is written twice. -/
theorem repeated_target_repeats_key :
    ∃ models, (Builder.standard.build ⟨"simple_crud", ⟨[("entities", .list
        [.map [(.str "name", .str "Post")],
          .map [(.str "name", .str "Comment"),
            (.str "belongsTo", .list [.str "Post", .str "Post"])]])]⟩⟩).get? "models"
        = some (.list models) ∧
      ∃ v ∈ models, v.namesIn "fields" ++ v.namesIn "relationships" = ["postId", "post", "post"] ∧
        ¬(v.namesIn "fields" ++ v.namesIn "relationships").Nodup :=
  ⟨_, rfl, by decide +kernel⟩

end Scaffold
