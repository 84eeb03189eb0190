import Mathlib.Data.List.Nodup
import Scaffold.Decisions
import Scaffold.Proofs.Humps

namespace Scaffold

/-!
# Linked models

Linking goes from model to model and points back along each relationship
that a model has when its turn comes. A model is only ever extended, so a
relationship that is answered stays answered, and the inverse that is added
is answered by the relationship that it is the inverse of. Both sides name
the same key because each model keeps the rule that its relationships name
the key for the model on their side of one.
-/

namespace Model

variable {m n : Model} {key target : String}

/-! ## Keys of one model -/

/-- What a relationship says of the key: it is that of the model that has many, and a field of the
model that belongs to it. -/
structure Sound (m : Model) : Prop where
  many : ∀ r ∈ m.relationships, r.kind = .hasMany → r.field = keyOf m.name
  owner : ∀ r ∈ m.relationships, r.kind = .belongsTo →
    r.field = keyOf r.target ∧ m.hasField r.field = true

/-- The second model is the first one with more fields and relationships behind its own. -/
structure Extends (m n : Model) : Prop where
  name : n.name = m.name
  fields : m.fields <+: n.fields
  relationships : m.relationships <+: n.relationships

theorem Extends.refl (m : Model) : m.Extends m :=
  ⟨rfl, List.prefix_refl _, List.prefix_refl _⟩

theorem Extends.trans {k : Model} (h : m.Extends n) (h' : n.Extends k) : m.Extends k :=
  ⟨h'.name.trans h.name, h.fields.trans h'.fields, h.relationships.trans h'.relationships⟩

theorem Extends.hasField (h : m.Extends n) (hkey : m.hasField key = true) :
    n.hasField key = true := by
  rw [Model.hasField, List.any_eq_true] at hkey ⊢
  obtain ⟨f, hf, hname⟩ := hkey
  exact ⟨f, h.fields.subset hf, hname⟩

theorem extends_withKey (m : Model) (key : String) : m.Extends (m.withKey key) := by
  unfold withKey
  split
  · exact .refl m
  · exact ⟨rfl, List.prefix_append _ _, List.prefix_refl _⟩

@[simp] theorem withKey_relationships (m : Model) (key : String) :
    (m.withKey key).relationships = m.relationships := by
  unfold withKey
  split <;> rfl

/-- The field for a key has the name of the key if this is in camel case. -/
theorem hasField_withKey (hkey : Words.camel key = key) : (m.withKey key).hasField key = true := by
  unfold withKey
  split
  · next hthere => exact hthere
  · simp [hasField, Field.must, Field.make, hkey]

theorem extends_withRelationship (m : Model) (r : Relationship) :
    m.Extends (m.withRelationship r) :=
  ⟨rfl, List.prefix_refl _, List.prefix_append _ _⟩

@[simp] theorem withRelationship_relationships (m : Model) (r : Relationship) :
    (m.withRelationship r).relationships = m.relationships ++ [r] := rfl

theorem Sound.withKey (h : m.Sound) (key : String) : (m.withKey key).Sound := by
  have hextends := m.extends_withKey key
  refine ⟨fun r hr hkind => ?_, fun r hr hkind => ?_⟩
  · rw [withKey_relationships] at hr
    rw [hextends.name]
    exact h.many r hr hkind
  · rw [withKey_relationships] at hr
    obtain ⟨hfield, hthere⟩ := h.owner r hr hkind
    exact ⟨hfield, hextends.hasField hthere⟩

theorem Sound.withRelationship (h : m.Sound) {r : Relationship}
    (hmany : r.kind = .hasMany → r.field = keyOf m.name)
    (howner : r.kind = .belongsTo → r.field = keyOf r.target ∧ m.hasField r.field = true) :
    (m.withRelationship r).Sound := by
  refine ⟨fun s hs hkind => ?_, fun s hs hkind => ?_⟩
  all_goals
    rw [withRelationship_relationships, List.mem_append, List.mem_singleton] at hs
    rcases hs with hs | rfl
  · exact h.many s hs hkind
  · exact hmany hkind
  · exact h.owner s hs hkind
  · exact howner hkind

/-! ## Models as they are made -/

/-- An ASCII name with a word in it. -/
def PlainName (name : String) : Prop :=
  Text.Ascii name.toList ∧ Words.hasWord name = true

instance (name : String) : Decidable (PlainName name) :=
  inferInstanceAs (Decidable (Text.Ascii name.toList ∧ Words.hasWord name = true))

/-- The key for the model is a name in camel case. -/
def KeyInCamel (name : String) : Prop :=
  Words.camel (keyOf name) = keyOf name

theorem PlainName.keyInCamel {name : String} (h : PlainName name) :
    KeyInCamel (Words.pascal name) :=
  Words.camel_keyOf_pascal h.1 h.2

theorem Sound.addOwner (h : m.Sound) (htarget : PlainName target) : (m.addOwner target).Sound := by
  refine (h.withKey _).withRelationship (fun hkind => nomatch hkind) fun _ => ⟨rfl, ?_⟩
  exact hasField_withKey htarget.keyInCamel

theorem Sound.addMany (h : m.Sound) (target : String) : (m.addMany target).Sound :=
  h.withRelationship (fun _ => rfl) fun hkind => nomatch hkind

theorem foldl_addOwner {targets : List String} (htargets : ∀ target ∈ targets, PlainName target)
    (h : m.Sound) :
    (targets.foldl addOwner m).Sound ∧ (targets.foldl addOwner m).name = m.name := by
  induction targets generalizing m with
  | nil => exact ⟨h, rfl⟩
  | cons target targets ih =>
      obtain ⟨htarget, htargets⟩ := List.forall_mem_cons.mp htargets
      obtain ⟨hsound, hname⟩ := ih htargets (h.addOwner htarget)
      exact ⟨hsound, hname.trans (m.extends_withKey _).name⟩

theorem foldl_addMany (targets : List String) (h : m.Sound) :
    (targets.foldl addMany m).Sound ∧ (targets.foldl addMany m).name = m.name := by
  induction targets generalizing m with
  | nil => exact ⟨h, rfl⟩
  | cons target targets ih => exact ih (h.addMany target)

/-- The model is made from an ASCII name and ASCII targets with a word in each. -/
def PlainlyMade (m : Model) : Prop :=
  ∃ name fields belongsTo hasMany authorization,
    m = make name fields belongsTo hasMany authorization ∧ PlainName name ∧
      (∀ target ∈ belongsTo, PlainName target) ∧ ∀ target ∈ hasMany, PlainName target

theorem plainlyMade_make {name : String} {belongsTo hasMany : List String} (fields : List Field)
    (authorization : List String)
    (h : ∀ n ∈ name :: (belongsTo ++ hasMany), PlainName n) :
    (make name fields belongsTo hasMany authorization).PlainlyMade := by
  obtain ⟨hname, htargets⟩ := List.forall_mem_cons.mp h
  obtain ⟨howners, hmany⟩ := List.forall_mem_append.mp htargets
  exact ⟨name, fields, belongsTo, hasMany, authorization, rfl, hname, howners, hmany⟩

theorem PlainlyMade.sound (h : m.PlainlyMade) : m.Sound ∧ KeyInCamel m.name := by
  obtain ⟨name, fields, belongsTo, hasMany, authorization, rfl, hname, howners, -⟩ := h
  have hbare : (Model.mk (Words.pascal name) fields [] authorization).Sound :=
    ⟨nofun, nofun⟩
  obtain ⟨hsound, hnamed⟩ := foldl_addOwner howners hbare
  obtain ⟨hsound', hnamed'⟩ := foldl_addMany hasMany hsound
  refine ⟨hsound', ?_⟩
  rw [make, hnamed', hnamed]
  exact hname.keyInCamel

end Model

namespace Schema

open Model

variable {models : List Model} {m n owner : Model} {r : Relationship} {name : String}

/-! ## One model to a name -/

theorem names_put (m : Model) (models : List Model) :
    (put m models).map (·.name) =
      if m.name ∈ models.map (·.name) then models.map (·.name)
      else models.map (·.name) ++ [m.name] := by
  induction models with
  | nil => rfl
  | cons n models ih =>
      rw [put]
      by_cases hname : n.name = m.name
      · rw [if_pos (beq_iff_eq.mpr hname)]
        simp [hname]
      · rw [if_neg (fun h => hname (beq_iff_eq.mp h)), List.map_cons, ih, List.map_cons]
        have hne : m.name ≠ n.name := fun h => hname h.symm
        simp only [List.mem_cons, hne, false_or]
        split <;> rfl

theorem mem_of_mem_put (h : n ∈ put m models) : n = m ∨ n ∈ models := by
  induction models with
  | nil => exact .inl (List.mem_singleton.mp h)
  | cons k models ih =>
      rw [put] at h
      split at h
      · exact (List.mem_cons.mp h).imp_right (List.mem_cons_of_mem _)
      · rcases List.mem_cons.mp h with rfl | h
        · exact .inr List.mem_cons_self
        · exact (ih h).imp_right (List.mem_cons_of_mem _)

theorem nodup_put (h : (models.map (·.name)).Nodup) (m : Model) :
    ((put m models).map (·.name)).Nodup := by
  rw [names_put]
  split
  · exact h
  · next hnew =>
      rw [← List.concat_eq_append]
      exact h.concat hnew

theorem mem_names_put (m : Model) (models : List Model) (name : String) :
    name ∈ (put m models).map (·.name) ↔ name = m.name ∨ name ∈ models.map (·.name) := by
  rw [names_put]
  split
  · next hthere =>
      constructor
      · exact .inr
      · rintro (rfl | h)
        · exact hthere
        · exact h
  · rw [List.mem_append, List.mem_singleton, or_comm]

theorem foldl_put (models done : List Model) (hdone : (done.map (·.name)).Nodup) :
    ((models.foldl (fun done m => put m done) done).map (·.name)).Nodup ∧
      (∀ m ∈ models.foldl (fun done m => put m done) done, m ∈ models ∨ m ∈ done) ∧
      ∀ name, name ∈ (models.foldl (fun done m => put m done) done).map (·.name) ↔
        name ∈ models.map (·.name) ∨ name ∈ done.map (·.name) := by
  induction models generalizing done with
  | nil => exact ⟨hdone, fun m hm => .inr hm, fun name => by simp⟩
  | cons m models ih =>
      obtain ⟨hnodup, hmem, hnames⟩ := ih _ (nodup_put hdone m)
      refine ⟨hnodup, fun n hn => ?_, fun name => ?_⟩
      · rcases hmem n hn with hn | hn
        · exact .inl (List.mem_cons_of_mem _ hn)
        · rcases mem_of_mem_put hn with rfl | hn
          · exact .inl List.mem_cons_self
          · exact .inr hn
      · refine (hnames name).trans ?_
        rw [mem_names_put, List.map_cons, List.mem_cons]
        tauto

theorem distinct_spec (models : List Model) :
    ((distinct models).map (·.name)).Nodup ∧ (∀ m ∈ distinct models, m ∈ models) ∧
      ∀ name, name ∈ (distinct models).map (·.name) ↔ name ∈ models.map (·.name) := by
  obtain ⟨hnodup, hmem, hnames⟩ := foldl_put models [] .nil
  refine ⟨hnodup, fun m hm => (hmem m hm).resolve_right (by simp), fun name => ?_⟩
  exact (hnames name).trans (or_iff_left (by simp))

/-! ## Known targets -/

theorem names_dropUnknown (models : List Model) :
    (dropUnknown models).map (·.name) = models.map (·.name) := by
  rw [dropUnknown, List.map_map]
  rfl

theorem mem_dropUnknown (h : n ∈ dropUnknown models) :
    ∃ m ∈ models, n.name = m.name ∧ n.fields = m.fields ∧
      (∀ r ∈ n.relationships, r ∈ m.relationships ∧ r.target ∈ models.map (·.name)) := by
  obtain ⟨m, hm, rfl⟩ := List.mem_map.mp h
  refine ⟨m, hm, rfl, rfl, fun r hr => ?_⟩
  obtain ⟨hr, hknown⟩ := List.mem_filter.mp hr
  obtain ⟨k, hk, hname⟩ := List.any_eq_true.mp hknown
  exact ⟨hr, List.mem_map.mpr ⟨k, hk, beq_iff_eq.mp hname⟩⟩

theorem sound_dropUnknown (h : ∀ m ∈ models, m.Sound) : ∀ m ∈ dropUnknown models, m.Sound := by
  intro n hn
  obtain ⟨m, hm, hname, hfields, hrelationships⟩ := mem_dropUnknown hn
  refine ⟨fun r hr hkind => ?_, fun r hr hkind => ?_⟩
  · rw [hname]
    exact (h m hm).many r (hrelationships r hr).1 hkind
  · rw [hasField, hfields]
    exact (h m hm).owner r (hrelationships r hr).1 hkind

/-! ## Pointing back -/

theorem pointsTo_iff {kind : RelationshipKind} {target : String} :
    pointsTo m kind target = true ↔ ∃ r ∈ m.relationships, r.kind = kind ∧ r.target = target := by
  simp [pointsTo]

theorem pointsTo_of_extends (h : m.Extends n) {kind : RelationshipKind} {target : String}
    (hpoints : pointsTo m kind target = true) : pointsTo n kind target = true := by
  obtain ⟨r, hr, hkind⟩ := pointsTo_iff.mp hpoints
  exact pointsTo_iff.mpr ⟨r, h.relationships.subset hr, hkind⟩

/-- The target of a relationship either points back already, or it gets the inverse. -/
theorem pointBack_cases (owner : Model) (r : Relationship) (m : Model) :
    pointsTo m r.kind.inverse owner.name = true ∧ pointBack owner r m = m ∨
      ∃ keyed, (keyed = m ∧ r.kind = .belongsTo ∨ keyed = m.withKey r.field ∧ r.kind = .hasMany) ∧
        pointBack owner r m = keyed.withRelationship (inverse owner r) := by
  unfold pointBack
  split
  · next hpoints => exact .inl ⟨hpoints, rfl⟩
  · refine .inr ⟨_, ?_, rfl⟩
    cases r.kind with
    | belongsTo => exact .inl ⟨rfl, rfl⟩
    | hasMany => exact .inr ⟨rfl, rfl⟩

theorem extends_pointBack (owner : Model) (r : Relationship) (m : Model) :
    m.Extends (pointBack owner r m) := by
  rcases pointBack_cases owner r m with ⟨-, heq⟩ | ⟨keyed, hkeyed, heq⟩
  · rw [heq]
    exact .refl m
  · rw [heq]
    have hextends : m.Extends keyed := by
      rcases hkeyed with ⟨rfl, -⟩ | ⟨rfl, -⟩
      · exact .refl _
      · exact m.extends_withKey _
    exact hextends.trans (extends_withRelationship _ _)

theorem mem_relationships_pointBack {s : Relationship}
    (h : s ∈ (pointBack owner r m).relationships) : s ∈ m.relationships ∨ s = inverse owner r := by
  rcases pointBack_cases owner r m with ⟨-, heq⟩ | ⟨keyed, hkeyed, heq⟩
  · exact .inl (heq ▸ h)
  · have hsame : keyed.relationships = m.relationships := by
      rcases hkeyed with ⟨rfl, -⟩ | ⟨rfl, -⟩
      · rfl
      · exact withKey_relationships m _
    rw [heq, withRelationship_relationships, hsame, List.mem_append, List.mem_singleton] at h
    exact h

theorem pointsTo_pointBack (owner : Model) (r : Relationship) (m : Model) :
    pointsTo (pointBack owner r m) r.kind.inverse owner.name = true := by
  rcases pointBack_cases owner r m with ⟨hpoints, heq⟩ | ⟨keyed, -, heq⟩
  · rw [heq]
    exact hpoints
  · rw [heq]
    refine pointsTo_iff.mpr ⟨inverse owner r, ?_, rfl, rfl⟩
    exact List.mem_append_right _ (List.mem_singleton_self _)

/-- The inverse names the key of the relationship, which is a field where it has to be one. -/
theorem sound_pointBack (hm : m.Sound) (hcamel : KeyInCamel owner.name)
    (hmany : r.kind = .hasMany → r.field = keyOf owner.name)
    (howner : r.kind = .belongsTo → r.field = keyOf r.target) (htarget : m.name = r.target) :
    (pointBack owner r m).Sound := by
  rcases pointBack_cases owner r m with ⟨-, heq⟩ | ⟨keyed, ⟨rfl, hkind⟩ | ⟨rfl, hkind⟩, heq⟩
  · rw [heq]
    exact hm
  · have hback : (inverse owner r).kind = .hasMany := by rw [inverse, hkind]; rfl
    rw [heq]
    refine hm.withRelationship (fun _ => ?_) fun howns => ?_
    · rw [htarget]
      exact howner hkind
    · rw [hback] at howns
      cases howns
  · have hback : (inverse owner r).kind = .belongsTo := by rw [inverse, hkind]; rfl
    have hfield : r.field = keyOf owner.name := hmany hkind
    have hkey : Words.camel r.field = r.field := by rw [hfield]; exact hcamel
    rw [heq]
    refine (hm.withKey _).withRelationship (fun hhas => ?_) fun _ => ⟨hfield, ?_⟩
    · rw [hback] at hhas
      cases hhas
    · exact hasField_withKey hkey

/-! ## Linking one relationship -/

theorem names_linkOne (owner : Model) (models : List Model) (r : Relationship) :
    (linkOne owner models r).map (·.name) = models.map (·.name) := by
  rw [linkOne, List.map_map]
  refine List.map_congr_left fun m _ => ?_
  rw [Function.comp]
  split
  · exact (extends_pointBack owner r m).name
  · rfl

theorem mem_linkOne (h : n ∈ linkOne owner models r) :
    ∃ m ∈ models, m.Extends n ∧
      (n = m ∧ m.name ≠ r.target ∨ n = pointBack owner r m ∧ m.name = r.target) := by
  obtain ⟨m, hm, rfl⟩ := List.mem_map.mp h
  refine ⟨m, hm, ?_⟩
  by_cases htarget : m.name = r.target
  · rw [if_pos (beq_iff_eq.mpr htarget)]
    exact ⟨extends_pointBack owner r m, .inr ⟨rfl, htarget⟩⟩
  · rw [if_neg (fun h => htarget (beq_iff_eq.mp h))]
    exact ⟨.refl m, .inl ⟨rfl, htarget⟩⟩

theorem exists_extends_linkOne (owner : Model) (r : Relationship) (h : m ∈ models) :
    ∃ n ∈ linkOne owner models r, m.Extends n := by
  refine ⟨_, List.mem_map_of_mem h, ?_⟩
  split
  · exact extends_pointBack owner r m
  · exact .refl m

/-! ## What linking keeps -/

theorem mem_of_find? (h : find? models name = some owner) :
    owner ∈ models ∧ owner.name = name :=
  ⟨List.mem_of_find?_eq_some h, by simpa using List.find?_some h⟩

/-- What one step of linking keeps is kept by linking. In a step a model is linked as it was when
its turn came; by then it may have been extended. -/
theorem link_induction {P : List Model → Prop}
    (hstep : ∀ models owner r, P models → (∃ m ∈ models, owner.Extends m) →
      r ∈ owner.relationships → P (linkOne owner models r))
    (names : List String) (h : P models) : P (names.foldl linkFrom models) := by
  have hmodel (owner : Model) (rs : List Relationship) (hrs : rs ⊆ owner.relationships)
      (models : List Model) (hthere : ∃ m ∈ models, owner.Extends m) (h : P models) :
      P (rs.foldl (linkOne owner) models) := by
    induction rs generalizing models with
    | nil => exact h
    | cons r rs ih =>
        obtain ⟨hr, hrs⟩ := List.cons_subset.mp hrs
        refine ih hrs _ ?_ (hstep models owner r h hthere hr)
        obtain ⟨m, hm, howner⟩ := hthere
        obtain ⟨n, hn, hmn⟩ := exists_extends_linkOne owner r hm
        exact ⟨n, hn, howner.trans hmn⟩
  induction names generalizing models with
  | nil => exact h
  | cons name names ih =>
      refine ih ?_
      unfold linkFrom
      split
      · next owner hfind =>
          exact hmodel owner _ (List.Subset.refl _) models
            ⟨owner, (mem_of_find? hfind).1, .refl owner⟩ h
      · exact h

theorem names_foldl_linkFrom (names : List String) (models : List Model) :
    (names.foldl linkFrom models).map (·.name) = models.map (·.name) :=
  link_induction (P := fun linked => linked.map (·.name) = models.map (·.name))
    (fun _ owner r h _ _ => (names_linkOne owner _ r).trans h) names rfl

theorem names_link (models : List Model) :
    (link models).map (·.name) = (distinct models).map (·.name) :=
  (names_foldl_linkFrom _ _).trans (names_dropUnknown _)

/-- Linking only adds to the models: what they have with known targets stays. -/
theorem exists_extends_link (models : List Model) :
    ∀ m ∈ dropUnknown (distinct models), ∃ n ∈ link models, m.Extends n := by
  refine link_induction
    (P := fun linked => ∀ m ∈ dropUnknown (distinct models), ∃ n ∈ linked, m.Extends n)
    (fun linked owner r hall _ _ m hm => ?_) _ fun m hm => ⟨m, hm, .refl m⟩
  obtain ⟨n, hn, hextends⟩ := hall m hm
  obtain ⟨k, hk, hextends'⟩ := exists_extends_linkOne owner r hn
  exact ⟨k, hk, hextends.trans hextends'⟩

/-- Every model keeps the rule of the keys. -/
theorem sound_link (h : ∀ m ∈ models, m.Sound ∧ KeyInCamel m.name) :
    ∀ m ∈ link models, m.Sound := by
  obtain ⟨-, hmem, -⟩ := distinct_spec models
  have hstart : ∀ m ∈ dropUnknown (distinct models), m.Sound ∧ KeyInCamel m.name := by
    intro n hn
    have hsound := sound_dropUnknown (fun m hm => (h m (hmem m hm)).1) n hn
    obtain ⟨m, hm, hname, -⟩ := mem_dropUnknown hn
    exact ⟨hsound, hname ▸ (h m (hmem m hm)).2⟩
  have hlinked := link_induction (P := fun linked => ∀ m ∈ linked, m.Sound ∧ KeyInCamel m.name)
    (fun linked owner r hall hthere hr n hn => ?_)
    ((dropUnknown (distinct models)).map (·.name)) hstart
  · exact fun m hm => (hlinked m hm).1
  · obtain ⟨current, hcurrent, howner⟩ := hthere
    obtain ⟨hsound, hcamel⟩ := hall current hcurrent
    have hrcurrent : r ∈ current.relationships := howner.relationships.subset hr
    rw [howner.name] at hcamel
    obtain ⟨m, hm, hextends, ⟨rfl, -⟩ | ⟨rfl, htarget⟩⟩ := mem_linkOne hn
    · exact hall n hm
    · refine ⟨?_, hextends.name ▸ (hall m hm).2⟩
      refine sound_pointBack (hall m hm).1 hcamel (fun hkind => ?_) (fun hkind => ?_) htarget
      · rw [← howner.name]
        exact hsound.many r hrcurrent hkind
      · exact (hsound.owner r hrcurrent hkind).1

/-- Every relationship has the name of a linked model for its target. -/
theorem known_link (models : List Model) :
    ∀ m ∈ link models, ∀ r ∈ m.relationships, r.target ∈ (link models).map (·.name) := by
  let names := (dropUnknown (distinct models)).map (·.name)
  have hstart : ∀ m ∈ dropUnknown (distinct models), ∀ r ∈ m.relationships, r.target ∈ names := by
    intro n hn r hr
    obtain ⟨m, -, -, -, hrelationships⟩ := mem_dropUnknown hn
    rw [show names = (distinct models).map (·.name) from names_dropUnknown _]
    exact (hrelationships r hr).2
  have hlinked := link_induction
    (P := fun linked => linked.map (·.name) = names ∧
      ∀ m ∈ linked, ∀ r ∈ m.relationships, r.target ∈ names)
    (fun linked owner r hall hthere _ => ?_) names ⟨rfl, hstart⟩
  · intro m hm r hr
    exact (names_foldl_linkFrom names _).symm ▸ hlinked.2 m hm r hr
  · obtain ⟨hnames, hknown⟩ := hall
    refine ⟨(names_linkOne owner linked r).trans hnames, fun n hn s hs => ?_⟩
    obtain ⟨current, hcurrent, howner⟩ := hthere
    obtain ⟨m, hm, -, ⟨rfl, -⟩ | ⟨rfl, -⟩⟩ := mem_linkOne hn
    · exact hknown n hm s hs
    · rcases mem_relationships_pointBack hs with hs | rfl
      · exact hknown m hm s hs
      · rw [← hnames]
        exact List.mem_map.mpr ⟨current, hcurrent, howner.name⟩

/-! ## Answered relationships -/

/-- The target of a relationship of the model of this name points back. -/
def Answered (models : List Model) (name : String) (r : Relationship) : Prop :=
  ∀ n ∈ models, n.name = r.target → pointsTo n r.kind.inverse name = true

/-- Each relationship is answered or is one of those that are left. -/
def AnsweredBut (left : String → Relationship → Prop) (models : List Model) : Prop :=
  ∀ m ∈ models, ∀ r ∈ m.relationships, Answered models m.name r ∨ left m.name r

theorem Answered.linkOne (h : Answered models name r) (owner : Model) (s : Relationship) :
    Answered (linkOne owner models s) name r := by
  intro n hn htarget
  obtain ⟨m, hm, hextends, -⟩ := mem_linkOne hn
  exact pointsTo_of_extends hextends (h m hm (hextends.name.symm.trans htarget))

/-- Linking one relationship answers it, and its inverse is answered by it. -/
theorem answeredBut_linkOne {left : String → Relationship → Prop}
    (howner : ∀ n ∈ models, n.name = owner.name → owner.Extends n) (hr : r ∈ owner.relationships)
    (h : AnsweredBut left models) :
    AnsweredBut (fun name s => left name s ∧ ¬(name = owner.name ∧ s = r))
      (linkOne owner models r) := by
  have hanswered : Answered (linkOne owner models r) owner.name r := by
    intro n hn htarget
    obtain ⟨m, -, hextends, ⟨rfl, hother⟩ | ⟨rfl, -⟩⟩ := mem_linkOne hn
    · exact absurd htarget hother
    · exact pointsTo_pointBack owner r m
  -- the owner may have been extended in the meantime, by its own inverses if it leads to itself
  have hback : Answered (linkOne owner models r) r.target (inverse owner r) := by
    intro n hn htarget
    obtain ⟨m, hm, hextends, -⟩ := mem_linkOne hn
    have hm' : owner.Extends m := howner m hm (hextends.name.symm.trans htarget)
    rw [inverse, RelationshipKind.inverse_inverse]
    exact pointsTo_iff.mpr ⟨r, (hm'.trans hextends).relationships.subset hr, rfl, rfl⟩
  have hkept (m n : Model) (hm : m ∈ models) (hextends : m.Extends n) (s : Relationship)
      (hs : s ∈ m.relationships) : Answered (linkOne owner models r) n.name s ∨
        left n.name s ∧ ¬(n.name = owner.name ∧ s = r) := by
    rw [hextends.name]
    rcases h m hm s hs with hs | hs
    · exact .inl (hs.linkOne owner r)
    · by_cases hsame : m.name = owner.name ∧ s = r
      · obtain ⟨hname, rfl⟩ := hsame
        exact .inl (hname ▸ hanswered)
      · exact .inr ⟨hs, hsame⟩
  intro n hn s hs
  obtain ⟨m, hm, hextends, ⟨rfl, -⟩ | ⟨rfl, htarget⟩⟩ := mem_linkOne hn
  · exact hkept n n hm hextends s hs
  · rcases mem_relationships_pointBack hs with hs | rfl
    · exact hkept m _ hm hextends s hs
    · rw [hextends.name, htarget]
      exact .inl hback

/-- Linking relationships of one model answers them, one after the other. -/
theorem answeredBut_foldl_linkOne {later : String → Prop} (rs : List Relationship)
    (hrs : rs ⊆ owner.relationships)
    (howner : ∀ n ∈ models, n.name = owner.name → owner.Extends n)
    (h : AnsweredBut (fun name s => later name ∨ name = owner.name ∧ s ∈ rs) models) :
    AnsweredBut (fun name _ => later name) (rs.foldl (linkOne owner) models) := by
  induction rs generalizing models with
  | nil => exact fun m hm s hs => (h m hm s hs).imp_right fun h => h.resolve_right (by simp)
  | cons r rs ih =>
      obtain ⟨hr, hrs⟩ := List.cons_subset.mp hrs
      refine ih hrs (fun n hn hname => ?_) fun m hm s hs => ?_
      · obtain ⟨m, hm, hextends, -⟩ := mem_linkOne hn
        exact (howner m hm (hextends.name.symm.trans hname)).trans hextends
      · refine (answeredBut_linkOne howner hr h m hm s hs).imp_right ?_
        rintro ⟨hlater | ⟨hname, hs⟩, hother⟩
        · exact .inl hlater
        · exact .inr ⟨hname, (List.mem_cons.mp hs).resolve_left fun heq => hother ⟨hname, heq⟩⟩

/-- When a model has had its turn, its relationships are answered. -/
theorem answeredBut_linkFrom {later : String → Prop} (hnodup : (models.map (·.name)).Nodup)
    (h : AnsweredBut (fun n _ => later n ∨ n = name) models) :
    AnsweredBut (fun n _ => later n) (linkFrom models name) := by
  unfold linkFrom
  split
  · next owner hfind =>
      obtain ⟨howner, rfl⟩ := mem_of_find? hfind
      have honly (n : Model) (hn : n ∈ models) (hname : n.name = owner.name) : n = owner :=
        List.inj_on_of_nodup_map hnodup hn howner hname
      refine answeredBut_foldl_linkOne _ (List.Subset.refl _) (fun n hn hname => ?_) ?_
      · rw [honly n hn hname]
        exact .refl owner
      · intro m hm s hs
        refine (h m hm s hs).imp_right (.imp_right fun hname => ⟨hname, ?_⟩)
        exact honly m hm hname ▸ hs
  · next hfind =>
      intro m hm s hs
      refine (h m hm s hs).imp_right fun hleft => hleft.resolve_right fun hname => ?_
      exact List.find?_eq_none.mp hfind m hm (beq_iff_eq.mpr hname)

theorem answeredBut_foldl_linkFrom (names : List String) (hnodup : (models.map (·.name)).Nodup)
    (h : AnsweredBut (fun name _ => name ∈ names) models) :
    AnsweredBut (fun _ _ => False) (names.foldl linkFrom models) := by
  induction names generalizing models with
  | nil => exact fun m hm r hr => (h m hm r hr).imp_right (by simp)
  | cons name names ih =>
      have hnames : (linkFrom models name).map (·.name) = models.map (·.name) :=
        names_foldl_linkFrom [name] models
      refine ih (hnames ▸ hnodup) (answeredBut_linkFrom hnodup fun m hm r hr => ?_)
      exact (h m hm r hr).imp_right fun hmem => (List.mem_cons.mp hmem).symm

theorem answered_link (models : List Model) :
    ∀ m ∈ link models, ∀ r ∈ m.relationships, Answered (link models) m.name r := by
  have hnodup : ((dropUnknown (distinct models)).map (·.name)).Nodup := by
    rw [names_dropUnknown]
    exact (distinct_spec models).1
  intro m hm r hr
  have hstart : AnsweredBut (fun name _ => name ∈ (dropUnknown (distinct models)).map (·.name))
      (dropUnknown (distinct models)) := fun n hn _ _ => .inr (List.mem_map_of_mem hn)
  exact (answeredBut_foldl_linkFrom _ hnodup hstart m hm r hr).resolve_right id

/-! ## Two-sided schemas -/

/-- A schema in which every relationship has a counterpart in the model that it leads to, with the
same key: the key is that of the model that has many and a field of the model that belongs to it. -/
structure TwoSided (models : List Model) : Prop where
  distinct : (models.map (·.name)).Nodup
  known : ∀ m ∈ models, ∀ r ∈ m.relationships, ∃ n ∈ models, n.name = r.target
  many : ∀ a ∈ models, ∀ b ∈ models, ∀ r ∈ a.relationships, r.kind = .hasMany → r.target = b.name →
    (∃ s ∈ b.relationships, s.kind = .belongsTo ∧ s.target = a.name ∧ s.field = r.field) ∧
      r.field = Words.camel a.name ++ "Id" ∧ b.hasField r.field = true
  owner : ∀ a ∈ models, ∀ b ∈ models, ∀ r ∈ b.relationships, r.kind = .belongsTo →
    r.target = a.name →
    (∃ s ∈ a.relationships, s.kind = .hasMany ∧ s.target = b.name ∧ s.field = r.field) ∧
      r.field = Words.camel a.name ++ "Id" ∧ b.hasField r.field = true

theorem twoSided_link (h : ∀ m ∈ models, m.PlainlyMade) : TwoSided (link models) := by
  have hsound := sound_link fun m hm => (h m hm).sound
  refine ⟨?_, fun m hm r hr => ?_, fun a ha b hb r hr hkind htarget => ?_,
    fun a ha b hb r hr hkind htarget => ?_⟩
  · rw [names_link]
    exact (distinct_spec models).1
  · exact List.mem_map.mp (known_link models m hm r hr)
  · have hpoints := answered_link models a ha r hr b hb htarget.symm
    rw [hkind] at hpoints
    obtain ⟨s, hs, hskind, hstarget⟩ := pointsTo_iff.mp hpoints
    obtain ⟨hsfield, hthere⟩ := (hsound b hb).owner s hs hskind
    have hfield : r.field = keyOf a.name := (hsound a ha).many r hr hkind
    have hsame : s.field = r.field := by rw [hsfield, hstarget, hfield]
    exact ⟨⟨s, hs, hskind, hstarget, hsame⟩, hfield, hsame ▸ hthere⟩
  · have hpoints := answered_link models b hb r hr a ha htarget.symm
    rw [hkind] at hpoints
    obtain ⟨s, hs, hskind, hstarget⟩ := pointsTo_iff.mp hpoints
    obtain ⟨hfield, hthere⟩ := (hsound b hb).owner r hr hkind
    rw [htarget] at hfield
    have hsame : s.field = r.field := by rw [(hsound a ha).many s hs hskind, hfield]
    exact ⟨⟨s, hs, hskind, hstarget, hsame⟩, hfield, hthere⟩

end Schema

/-! ## Entities of the decisions -/

namespace Decisions

/-- The names of an entity and of its targets are in ASCII. -/
def PlainEntity (spec : Datum) : Prop :=
  ∀ name ∈ (name? (spec.item? "name")).toList ++
    (names (spec.item? "belongsTo") ++ names (spec.item? "hasMany")), Text.Ascii name.toList

instance (spec : Datum) : Decidable (PlainEntity spec) :=
  inferInstanceAs (Decidable (∀ name ∈ (name? (spec.item? "name")).toList ++
    (names (spec.item? "belongsTo") ++ names (spec.item? "hasMany")), Text.Ascii name.toList))

def PlainEntities (d : Decisions) : Prop :=
  ∀ items, d.get? "entities" = some (.list items) → ∀ spec ∈ items, PlainEntity spec

theorem hasWord_of_name? {d : Option Datum} {name : String} (h : name? d = some name) :
    Words.hasWord name = true := by
  unfold name? at h
  split at h
  · split at h
    · next hword =>
        cases h
        exact hword
    · cases h
  · cases h

theorem hasWord_of_mem_names {d : Option Datum} {name : String} (h : name ∈ names d) :
    Words.hasWord name = true := by
  unfold names at h
  split at h
  · exact hasWord_of_name? (Option.mem_toList.mp h)
  · obtain ⟨item, -, hitem⟩ := List.mem_filterMap.mp h
    exact hasWord_of_name? hitem
  · cases h

theorem plainlyMade_of_entity? {spec : Datum} {m : Model} (hplain : PlainEntity spec)
    (h : entity? spec = some m) : m.PlainlyMade := by
  obtain ⟨hnamed, htargets⟩ := List.forall_mem_append.mp hplain
  unfold entity? at h
  split at h
  · cases h
  · obtain ⟨name, hname, rfl⟩ := Option.map_eq_some_iff.mp h
    refine Model.plainlyMade_make _ _ (List.forall_mem_cons.mpr ⟨?_, fun target ht => ?_⟩)
    · exact ⟨hnamed name (Option.mem_toList.mpr hname), hasWord_of_name? hname⟩
    · refine ⟨htargets target ht, ?_⟩
      rcases List.mem_append.mp ht with ht | ht
      · exact hasWord_of_mem_names ht
      · exact hasWord_of_mem_names ht

theorem mem_of_mem_firstOfName {models : List Model} {m : Model} (h : m ∈ firstOfName models) :
    m ∈ models := by
  have hfold (rest done : List Model)
      (h : m ∈ rest.foldl (fun done m => if Schema.knows done m.name then done else done ++ [m])
        done) : m ∈ rest ∨ m ∈ done := by
    induction rest generalizing done with
    | nil => exact .inr h
    | cons n rest ih =>
        rcases ih _ h with hm | hm
        · exact .inl (List.mem_cons_of_mem _ hm)
        · dsimp only at hm
          split at hm
          · exact .inr hm
          · rcases List.mem_append.mp hm with hm | hm
            · exact .inr hm
            · exact .inl (List.mem_singleton.mp hm ▸ List.mem_cons_self)
  exact (hfold models [] h).resolve_right (by simp)

theorem twoSided_of_entities? {d : Decisions} (hplain : d.PlainEntities) {models : List Model}
    (h : d.entities? = some models) : Schema.TwoSided models := by
  unfold entities? at h
  split at h
  · next items hitems =>
      split at h
      · cases h
      · cases h
        refine Schema.twoSided_link fun m hm => ?_
        obtain ⟨spec, hspec, hentity⟩ := List.mem_filterMap.mp (mem_of_mem_firstOfName hm)
        exact plainlyMade_of_entity? (hplain items hitems spec hspec) hentity
  · cases h

end Decisions

namespace Schema

/-- Linking models that are made from ASCII names and targets gives a two-sided schema of the same
names, which has all that the models have with known targets; reading the entities of the decisions
gives a two-sided schema, too. -/
theorem linked_models_two_sided :
    (∀ models : List Model, (∀ m ∈ models, m.PlainlyMade) →
      TwoSided (link models) ∧
        (∀ m ∈ dropUnknown (distinct models), ∃ n ∈ link models, m.Extends n) ∧
        ∀ name, (∃ m ∈ link models, m.name = name) ↔ ∃ m ∈ models, m.name = name) ∧
    ∀ d : Decisions, d.PlainEntities → ∀ models, d.entities? = some models → TwoSided models := by
  refine ⟨fun models h => ⟨twoSided_link h, exists_extends_link models, fun name => ?_⟩,
    fun d hplain models h => Decisions.twoSided_of_entities? hplain h⟩
  have hnames := (distinct_spec models).2.2 name
  rw [← names_link, List.mem_map, List.mem_map] at hnames
  exact hnames

/-- Models with a relationship to themselves, a name that comes twice and a target that no model
has. -/
def shopModels : List Model :=
  [.make "user" [] [] ["Order", "user"] [],
    .make "order" [] ["user", "Ghost"] [] [],
    .make "Order" [Field.must "user id"] [] ["line item"] [],
    .make "LineItem" [] [] [] []]

def shopEntities : List Datum :=
  [.map [(.str "name", .str "user"), (.str "hasMany", .list [.str "Order", .str "user"])],
    .map [(.str "name", .str "Order"), (.str "belongsTo", .str "user"),
      (.str "hasMany", .list [.str "line item", .str "..."])],
    .map [(.str "name", .str "LineItem")]]

def shopDecisions : Decisions :=
  ⟨[("entities", .list shopEntities)]⟩

theorem linked_models_two_sided_example :
    (link shopModels).map (fun m => (m.name, m.relationships.map fun r => (r.target, r.field))) =
      [("User", [("Order", "userId"), ("User", "userId"), ("User", "userId")]),
        ("Order", [("LineItem", "orderId"), ("User", "userId")]),
        ("LineItem", [("Order", "orderId")])] ∧
    TwoSided (link shopModels) ∧
    (∃ models, shopDecisions.entities? = some models) ∧
    ∀ models, shopDecisions.entities? = some models → TwoSided models := by
  have hmade : ∀ m ∈ shopModels, m.PlainlyMade := by
    refine List.forall_mem_cons.mpr ⟨Model.plainlyMade_make _ _ (by decide +kernel), ?_⟩
    refine List.forall_mem_cons.mpr ⟨Model.plainlyMade_make _ _ (by decide +kernel), ?_⟩
    refine List.forall_mem_cons.mpr ⟨Model.plainlyMade_make _ _ (by decide +kernel), ?_⟩
    exact List.forall_mem_singleton.mpr (Model.plainlyMade_make _ _ (by decide +kernel))
  have hplain : shopDecisions.PlainEntities := by
    intro items hitems
    have hthere : shopDecisions.get? "entities" = some (.list shopEntities) := rfl
    rw [hthere] at hitems
    cases hitems
    decide +kernel
  exact ⟨by decide +kernel, (linked_models_two_sided.1 shopModels hmade).1,
    Option.isSome_iff_exists.mp (by decide +kernel),
    linked_models_two_sided.2 shopDecisions hplain⟩

end Schema

end Scaffold
