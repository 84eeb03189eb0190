import Scaffold.Proofs.Linking

namespace Scaffold

/-!
# What linking adds

A linked model is the model it was made from with keys behind its fields and
inverses behind its relationships. An inverse is only added where the model
does not point back yet, so no two relationships that were added are of one
kind to one target. Once every relationship is answered there is nothing left
to add, and linking again changes nothing.
-/

/-- Which side of a relationship a model is on and what it leads to. -/
def Relationship.ends (r : Relationship) : RelationshipKind × String :=
  (r.kind, r.target)

namespace Schema

open Model

variable {models linked : List Model} {m n owner : Model} {r s : Relationship} {name : String}
  {keys : List Field} {added : List Relationship}

/-! ## The last model of a name -/

theorem eraseDups_concat (names : List String) (name : String) :
    (names ++ [name]).eraseDups =
      if name ∈ names then names.eraseDups else names.eraseDups ++ [name] := by
  rw [List.eraseDups_append]
  split <;> next h => simp [List.removeAll, List.eraseDups_cons, h]

theorem distinct_concat (models : List Model) (m : Model) :
    distinct (models ++ [m]) = put m (distinct models) := by
  simp [distinct]

/-- The names stay in the order in which they first come. -/
theorem names_distinct (models : List Model) :
    (distinct models).map (·.name) = (models.map (·.name)).eraseDups := by
  induction models using List.reverseRecOn with
  | nil => rfl
  | append_singleton models m ih =>
      rw [distinct_concat, names_put, ih, List.map_append, List.map_singleton, eraseDups_concat]
      simp only [List.mem_eraseDups]

theorem name_ne_of_mem_put (hnodup : (models.map (·.name)).Nodup) (h : n ∈ put m models) :
    n = m ∨ n ∈ models ∧ m.name ≠ n.name := by
  induction models with
  | nil => exact .inl (List.mem_singleton.mp h)
  | cons k models ih =>
      obtain ⟨hk, hnodup⟩ := List.nodup_cons.mp hnodup
      rw [put] at h
      by_cases hname : k.name = m.name
      · rw [if_pos (beq_iff_eq.mpr hname), List.mem_cons] at h
        refine h.imp_right fun hn => ⟨List.mem_cons_of_mem _ hn, fun hsame => hk ?_⟩
        exact List.mem_map.mpr ⟨n, hn, (hname.trans hsame).symm⟩
      · rw [if_neg (fun heq => hname (beq_iff_eq.mp heq)), List.mem_cons] at h
        rcases h with rfl | h
        · exact .inr ⟨List.mem_cons_self, fun hsame => hname hsame.symm⟩
        · exact (ih hnodup h).imp_right (.imp_left (List.mem_cons_of_mem _))

/-- Of the models of one name the last one stays. -/
theorem find?_reverse_of_mem_distinct (h : n ∈ distinct models) :
    find? models.reverse n.name = some n := by
  induction models using List.reverseRecOn with
  | nil => cases h
  | append_singleton models m ih =>
      rw [distinct_concat] at h
      rw [List.reverse_append, find?, List.reverse_singleton, List.singleton_append,
        List.find?_cons]
      rcases name_ne_of_mem_put (distinct_spec models).1 h with rfl | ⟨hn, hne⟩
      · simp
      · rw [beq_false_of_ne hne]
        exact ih hn

theorem knows_iff : knows models name = true ↔ name ∈ models.map (·.name) := by
  simp [knows]

theorem knows_distinct (models : List Model) (name : String) :
    knows (distinct models) name = knows models name := by
  rw [Bool.eq_iff_iff, knows_iff, knows_iff]
  exact (distinct_spec models).2.2 name

/-! ## What a model gains -/

/-- The relationship is the inverse of one that leads from a model of the list to this name. -/
def InverseIn (models : List Model) (name : String) (s : Relationship) : Prop :=
  ∃ owner ∈ models, ∃ r ∈ owner.relationships, r.target = name ∧ s = inverse owner r

/-- The second model is the first one with keys and inverses behind what it has: each key is that
of an inverse, and no inverse doubles a relationship that is there. -/
structure Gains (linked : List Model) (m n : Model) (keys : List Field)
    (added : List Relationship) : Prop where
  eq : n = { m with fields := m.fields ++ keys, relationships := m.relationships ++ added }
  keys : ∀ f ∈ keys, ∃ s ∈ added, s.kind = .belongsTo ∧ f = Field.must s.field .id
  inverses : ∀ s ∈ added, InverseIn linked m.name s
  once : (added.map Relationship.ends).Nodup
  fresh : ∀ s ∈ added, s.ends ∉ m.relationships.map Relationship.ends

theorem Gains.refl (linked : List Model) (m : Model) : Gains linked m m [] [] where
  eq := by simp
  keys := nofun
  inverses := nofun
  once := .nil
  fresh := nofun

theorem inverse_congr (h : m.name = n.name) (r : Relationship) : inverse m r = inverse n r := by
  simp only [inverse, Model.camel, Model.plural, h]

theorem InverseIn.linkOne (h : InverseIn models name s) (owner : Model) (r : Relationship) :
    InverseIn (linkOne owner models r) name s := by
  obtain ⟨k, hk, t, ht, htarget, rfl⟩ := h
  obtain ⟨k', hk', hextends⟩ := exists_extends_linkOne owner r hk
  exact ⟨k', hk', t, hextends.relationships.subset ht, htarget, inverse_congr hextends.name.symm t⟩

theorem Gains.linkOne (h : Gains models m n keys added) (owner : Model) (r : Relationship) :
    Gains (linkOne owner models r) m n keys added :=
  { h with inverses := fun s hs => (h.inverses s hs).linkOne owner r }

/-- A model that does not point back yet gets the inverse, and with one by which it belongs to the
owner the key unless it has that. -/
theorem pointBack_of_not (hnot : pointsTo m r.kind.inverse owner.name = false) :
    ∃ keys : List Field,
      (∀ f ∈ keys, (inverse owner r).kind = .belongsTo ∧ f = Field.must r.field .id) ∧
      pointBack owner r m =
        { m with
          fields := m.fields ++ keys
          relationships := m.relationships ++ [inverse owner r] } := by
  rw [pointBack, hnot]
  cases hkind : r.kind with
  | belongsTo => exact ⟨[], nofun, by simp [withRelationship]⟩
  | hasMany =>
      by_cases hthere : m.hasField r.field
      · exact ⟨[], nofun, by simp [withRelationship, withKey, hthere]⟩
      · refine ⟨[Field.must r.field .id], fun f hf => ⟨?_, List.mem_singleton.mp hf⟩, ?_⟩
        · rw [inverse, hkind]
          rfl
        · simp [withRelationship, withKey, hthere]

/-- A model gains at most the inverse when a relationship to it is linked. -/
theorem Gains.pointBack (h : Gains linked m n keys added)
    (hinverse : InverseIn linked m.name (inverse owner r)) :
    ∃ keys added, Gains linked m (pointBack owner r n) keys added := by
  by_cases hpoints : pointsTo n r.kind.inverse owner.name = true
  · refine ⟨keys, added, ?_⟩
    rw [Schema.pointBack, if_pos hpoints]
    exact h
  · obtain ⟨more, hmore, hback⟩ := pointBack_of_not (Bool.eq_false_iff.mpr hpoints)
    -- what the inverse would double is what would have kept it from being added
    have hfresh : (inverse owner r).ends ∉
        (m.relationships ++ added).map Relationship.ends := by
      intro hthere
      obtain ⟨t, ht, hends⟩ := List.mem_map.mp hthere
      obtain ⟨hkind, htarget⟩ := Prod.mk.inj hends
      refine hpoints (pointsTo_iff.mpr ⟨t, ?_, hkind, htarget⟩)
      rw [h.eq]
      exact ht
    rw [List.map_append, List.mem_append, not_or] at hfresh
    refine ⟨keys ++ more, added ++ [inverse owner r], ?_, ?_, ?_, ?_, ?_⟩
    · rw [hback, h.eq]
      simp
    · refine List.forall_mem_append.mpr ⟨fun f hf => ?_, fun f hf => ?_⟩
      · obtain ⟨s, hs, hkey⟩ := h.keys f hf
        exact ⟨s, List.mem_append_left _ hs, hkey⟩
      · exact ⟨inverse owner r, List.mem_append_right _ (List.mem_singleton_self _), hmore f hf⟩
    · exact List.forall_mem_append.mpr ⟨h.inverses, List.forall_mem_singleton.mpr hinverse⟩
    · rw [List.map_append, List.map_singleton, ← List.concat_eq_append]
      exact h.once.concat hfresh.2
    · exact List.forall_mem_append.mpr ⟨h.fresh, List.forall_mem_singleton.mpr hfresh.1⟩

/-- Each linked model is one with known targets that has gained something. -/
theorem gains_link (models : List Model) :
    ∀ n ∈ link models, ∃ m ∈ dropUnknown (distinct models),
      ∃ keys added, Gains (link models) m n keys added := by
  refine link_induction
    (P := fun linked => ∀ n ∈ linked, ∃ m ∈ dropUnknown (distinct models),
      ∃ keys added, Gains linked m n keys added)
    (fun linked owner r hall hthere hr n' hn' => ?_) _
    fun m hm => ⟨m, hm, [], [], .refl _ m⟩
  obtain ⟨n, hn, -, hcases⟩ := mem_linkOne hn'
  obtain ⟨m, hm, keys, added, hgains⟩ := hall n hn
  refine ⟨m, hm, ?_⟩
  rcases hcases with ⟨rfl, -⟩ | ⟨rfl, htarget⟩
  · exact ⟨keys, added, hgains.linkOne owner r⟩
  · have hname : r.target = m.name := by rw [← htarget, hgains.eq]
    obtain ⟨k, hk, howner⟩ := hthere
    have hinverse : InverseIn linked m.name (inverse owner r) :=
      ⟨k, hk, r, howner.relationships.subset hr, hname, inverse_congr howner.name.symm r⟩
    exact (hgains.linkOne owner r).pointBack (hinverse.linkOne owner r)

/-- Each linked model is the last one of its name with known targets and what it has gained. -/
theorem exists_gains_link (h : n ∈ link models) :
    ∃ m keys added, find? models.reverse n.name = some m ∧
      Gains (link models)
        { m with relationships := m.relationships.filter (knows models ·.target) }
        n keys added := by
  obtain ⟨k, hk, keys, added, hgains⟩ := gains_link models n h
  obtain ⟨m, hm, rfl⟩ := List.mem_map.mp hk
  have hname : n.name = m.name := by rw [hgains.eq]
  refine ⟨m, keys, added, hname ▸ find?_reverse_of_mem_distinct hm, ?_⟩
  simpa only [knows_distinct] using hgains

/-! ## Linking again -/

theorem nodup_link (models : List Model) : ((link models).map (·.name)).Nodup := by
  rw [names_link]
  exact (distinct_spec models).1

theorem put_of_new (h : m.name ∉ models.map (·.name)) : put m models = models ++ [m] := by
  induction models with
  | nil => rfl
  | cons k models ih =>
      obtain ⟨hname, hrest⟩ := List.ne_and_not_mem_of_not_mem_cons h
      rw [put, if_neg fun heq => hname (beq_iff_eq.mp heq).symm, ih hrest, List.cons_append]

theorem distinct_of_nodup (h : (models.map (·.name)).Nodup) : distinct models = models := by
  induction models using List.reverseRecOn with
  | nil => rfl
  | append_singleton models m ih =>
      rw [List.map_append, List.map_singleton, ← List.concat_eq_append, List.nodup_concat] at h
      rw [distinct_concat, ih h.2, put_of_new h.1]

theorem dropUnknown_of_known
    (h : ∀ m ∈ models, ∀ r ∈ m.relationships, r.target ∈ models.map (·.name)) :
    dropUnknown models = models := by
  refine (List.map_congr_left fun m hm => ?_).trans (List.map_id models)
  have hall : m.relationships.filter (knows models ·.target) = m.relationships :=
    List.filter_eq_self.mpr fun r hr => knows_iff.mpr (h m hm r hr)
  rw [hall, id]

theorem linkOne_of_answered (h : ∀ m ∈ models, ∀ r ∈ m.relationships, Answered models m.name r)
    (howner : ∃ m ∈ models, owner.Extends m) (hr : r ∈ owner.relationships) :
    linkOne owner models r = models := by
  obtain ⟨k, hk, hextends⟩ := howner
  have hanswered : Answered models owner.name r :=
    hextends.name ▸ h k hk r (hextends.relationships.subset hr)
  refine (List.map_congr_left fun m hm => ?_).trans (List.map_id models)
  split
  · next htarget => exact if_pos (hanswered m hm (beq_iff_eq.mp htarget))
  · rfl

theorem link_of_answered (hnodup : (models.map (·.name)).Nodup)
    (hknown : ∀ m ∈ models, ∀ r ∈ m.relationships, r.target ∈ models.map (·.name))
    (h : ∀ m ∈ models, ∀ r ∈ m.relationships, Answered models m.name r) :
    link models = models := by
  rw [link, distinct_of_nodup hnodup, dropUnknown_of_known hknown]
  refine link_induction (P := fun linked => linked = models) ?_ _ rfl
  rintro _ owner r rfl howner hr
  exact linkOne_of_answered h howner hr

/-- Linking keeps the names in the order in which they first come, makes each model from the last
one of its name by adding keys and inverses only, gives every relationship its counterpart, and is
done after one pass. -/
theorem link_conservative_idempotent (models : List Model) :
    (link models).map (·.name) = (models.map (·.name)).eraseDups ∧
    (∀ n ∈ link models, ∃ m keys added, find? models.reverse n.name = some m ∧
      Gains (link models)
        { m with relationships := m.relationships.filter (knows models ·.target) } n keys added) ∧
    (∀ m ∈ link models, ∀ r ∈ m.relationships, ∃ n ∈ link models, n.name = r.target ∧
      ∃ s ∈ n.relationships, s.kind = r.kind.inverse ∧ s.target = m.name) ∧
    link (link models) = link models := by
  refine ⟨(names_link models).trans (names_distinct models), fun n => exists_gains_link,
    fun m hm r hr => ?_,
    link_of_answered (nodup_link models) (known_link models) (answered_link models)⟩
  obtain ⟨n, hn, htarget⟩ := List.mem_map.mp (known_link models m hm r hr)
  exact ⟨n, hn, htarget, pointsTo_iff.mp (answered_link models m hm r hr n hn htarget)⟩

-- a model that belongs to its own kind, under a name that comes twice
example :
    link [.make "node" [] [] [] [], .make "leaf" [] [] [] [], .make "node" [] ["node"] [] []] =
      [ ⟨"Node", [⟨"nodeId", .id, true⟩],
          [⟨.belongsTo, "node", "Node", "nodeId"⟩, ⟨.hasMany, "nodes", "Node", "nodeId"⟩], []⟩
      , ⟨"Leaf", [], [], []⟩ ] := by
  decide +kernel

end Schema

end Scaffold
