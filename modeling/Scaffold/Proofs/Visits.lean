import Scaffold.Template.Render

namespace Scaffold

/-!
# The order of evaluation

A render visits nodes in an order that depends neither on the mode nor on
the helpers, since branches and turns are chosen by what paths lead to
alone. `Node.visitsAll` lists the visits, `Renderer.perform` does what is
to be done at one of them, and rendering performs them one after the
other up to the first that fails.
-/

/-! ## The nodes of a template -/

namespace Node

/-- The path that a node other than text is about. -/
def path? : Node → Option Path
  | .text .. => none
  | .interpolation path .. | .conditional _ path .. | .loop path .. => some path

/-- The helpers that a node calls. -/
def helpers : Node → List String
  | .interpolation _ helpers _ => helpers
  | _ => []

mutual

/-- A node and the nodes in its branches, at every depth. -/
def subnodes : Node → List Node
  | .text s pos => [.text s pos]
  | .interpolation path helpers pos => [.interpolation path helpers pos]
  | .conditional negated path body otherwise pos =>
    .conditional negated path body otherwise pos
      :: (subnodesAll body ++ subnodesBranch otherwise)
  | .loop path body pos => .loop path body pos :: subnodesAll body

def subnodesAll : List Node → List Node
  | [] => []
  | node :: rest => subnodes node ++ subnodesAll rest

def subnodesBranch : Option (List Node) → List Node
  | none => []
  | some nodes => subnodesAll nodes

end

theorem mem_subnodes_self (node : Node) : node ∈ node.subnodes := by
  cases node <;> simp [subnodes]

end Node

/-! ## Visits -/

/-- A node in the scope in which it is evaluated. -/
structure Visit where
  node : Node
  scope : Scope

/-- What a path leads to; nothing where it cannot be followed. -/
def Scope.at? (s : Scope) (path : Path) : Option Value :=
  match s.resolve path with
  | .ok found => found
  | .error _ => none

/-- The turns of a loop over what a path leads to; none where that is no collection. -/
def Scope.turnsAt (s : Scope) (path : Path) : List Scope :=
  ((s.at? path).bind s.turns?).getD []

theorem Scope.at?_eq {s : Scope} {path : Path} {found : Option Value}
    (h : s.resolve path = .ok found) : s.at? path = found := by
  rw [Scope.at?, h]

namespace Node

mutual

/-- The visits to a node and to the nodes in its branches, in the order of evaluation. -/
def visits : Node → Scope → List Visit
  | .text t pos, s => [⟨.text t pos, s⟩]
  | .interpolation path helpers pos, s => [⟨.interpolation path helpers pos, s⟩]
  | .conditional negated path body otherwise pos, s =>
    ⟨.conditional negated path body otherwise pos, s⟩
      :: if isTruthyAt (s.at? path) != negated then visitsAll body s
        else visitsBranch otherwise s
  | .loop path body pos, s =>
    ⟨.loop path body pos, s⟩ :: (s.turnsAt path).flatMap fun t => visitsAll body t

def visitsAll : List Node → Scope → List Visit
  | [], _ => []
  | node :: rest, s => visits node s ++ visitsAll rest s

def visitsBranch : Option (List Node) → Scope → List Visit
  | none, _ => []
  | some nodes, s => visitsAll nodes s

end

mutual

theorem node_mem_subnodes {node : Node} {s : Scope} {v : Visit} (h : v ∈ node.visits s) :
    v.node ∈ node.subnodes := by
  cases node with
  | text | interpolation =>
      rw [visits, List.mem_singleton] at h
      subst h
      exact mem_subnodes_self _
  | conditional negated path body otherwise pos =>
      rw [visits, List.mem_cons] at h
      rw [subnodes, List.mem_cons, List.mem_append]
      rcases h with rfl | h
      · exact Or.inl rfl
      · right
        split at h
        · exact Or.inl (node_mem_subnodesAll h)
        · exact Or.inr (node_mem_subnodesBranch h)
  | loop path body pos =>
      rw [visits, List.mem_cons, List.mem_flatMap] at h
      rw [subnodes, List.mem_cons]
      rcases h with rfl | ⟨t, -, h⟩
      · exact Or.inl rfl
      · exact Or.inr (node_mem_subnodesAll h)

theorem node_mem_subnodesAll {nodes : List Node} {s : Scope} {v : Visit}
    (h : v ∈ visitsAll nodes s) : v.node ∈ subnodesAll nodes := by
  cases nodes with
  | nil => cases h
  | cons node rest =>
      rw [visitsAll, List.mem_append] at h
      rw [subnodesAll, List.mem_append]
      exact h.imp node_mem_subnodes node_mem_subnodesAll

theorem node_mem_subnodesBranch {otherwise : Option (List Node)} {s : Scope} {v : Visit}
    (h : v ∈ visitsBranch otherwise s) : v.node ∈ subnodesBranch otherwise := by
  cases otherwise with
  | none => cases h
  | some nodes => exact node_mem_subnodesAll h

end

end Node

namespace Scope

variable {s t : Scope} {scopes : List Scope}

theorem eq_turn_of_mem_turns? {v : Value} (h : s.turns? v = some scopes) (ht : t ∈ scopes) :
    ∃ size i key? item, t = s.turn size i key? item := by
  cases v with
  | list items =>
      cases h
      obtain ⟨i, hi, rfl⟩ := List.mem_mapIdx.mp ht
      exact ⟨_, i, none, _, rfl⟩
  | map entries =>
      cases h
      obtain ⟨i, hi, rfl⟩ := List.mem_mapIdx.mp ht
      exact ⟨_, i, some _, _, rfl⟩
  | bool | int | float | str => cases h

theorem eq_turn_of_mem_turnsAt {path : Path} (ht : t ∈ s.turnsAt path) :
    ∃ size i key? item, t = s.turn size i key? item := by
  rw [turnsAt] at ht
  cases hturns : (s.at? path).bind s.turns? with
  | none =>
      rw [hturns] at ht
      cases ht
  | some scopes =>
      rw [hturns] at ht
      obtain ⟨v, -, hv⟩ := Option.bind_eq_some_iff.mp hturns
      exact eq_turn_of_mem_turns? hv ht

end Scope

namespace Node

mutual

theorem visits_invariant {P : Scope → Prop}
    (hturn : ∀ s size i key? item, P s → P (s.turn size i key? item)) (node : Node) {s : Scope}
    (hs : P s) : ∀ v ∈ node.visits s, P v.scope := by
  cases node with
  | text | interpolation =>
      rw [visits, List.forall_mem_singleton]
      exact hs
  | conditional negated path body otherwise pos =>
      rw [visits, List.forall_mem_cons]
      refine ⟨hs, ?_⟩
      split
      · exact visitsAll_invariant hturn body hs
      · exact visitsBranch_invariant hturn otherwise hs
  | loop path body pos =>
      rw [visits, List.forall_mem_cons]
      refine ⟨hs, fun v hv => ?_⟩
      obtain ⟨t, ht, hv⟩ := List.mem_flatMap.mp hv
      obtain ⟨size, i, key?, item, rfl⟩ := Scope.eq_turn_of_mem_turnsAt ht
      exact visitsAll_invariant hturn body (hturn s size i key? item hs) v hv

/-- What holds of a scope and passes to the turns of loops holds at all visits. -/
theorem visitsAll_invariant {P : Scope → Prop}
    (hturn : ∀ s size i key? item, P s → P (s.turn size i key? item)) (nodes : List Node)
    {s : Scope} (hs : P s) : ∀ v ∈ visitsAll nodes s, P v.scope := by
  cases nodes with
  | nil => nofun
  | cons node rest =>
      rw [visitsAll, List.forall_mem_append]
      exact ⟨visits_invariant hturn node hs, visitsAll_invariant hturn rest hs⟩

theorem visitsBranch_invariant {P : Scope → Prop}
    (hturn : ∀ s size i key? item, P s → P (s.turn size i key? item))
    (otherwise : Option (List Node)) {s : Scope} (hs : P s) :
    ∀ v ∈ visitsBranch otherwise s, P v.scope := by
  cases otherwise with
  | none => nofun
  | some nodes => exact visitsAll_invariant hturn nodes hs

end

end Node

/-! ## Performing visits -/

namespace Renderer

variable {r : Renderer}

/-- What is done at one visit: text and interpolations are written; of a block only the path is
looked at, since its branches have visits of their own. -/
def perform (r : Renderer) : Visit → Rendered String
  | ⟨.text t _, _⟩ => .ok t
  | ⟨.interpolation path helpers pos, s⟩ => r.interpolate s path helpers pos
  | ⟨.conditional _ path _ _ _, s⟩ => (fun _ => "") <$> resolve s path
  | ⟨.loop path _ pos, s⟩ => (fun _ => "") <$> r.loopScopes s path pos

def run (r : Renderer) : List Visit → Rendered String
  | [] => .ok ""
  | v :: rest => do
    let t ← r.perform v
    let u ← r.run rest
    pure (t ++ u)

theorem run_singleton (v : Visit) : r.run [v] = r.perform v := by
  rw [run, run]
  cases r.perform v with
  | error f => rfl
  | ok t => simp [bind, Except.bind, pure, Except.pure]

theorem run_cons_of_silent {v : Visit} (h : r.perform v = .ok "") (rest : List Visit) :
    r.run (v :: rest) = r.run rest := by
  rw [run, h]
  cases r.run rest with
  | error f => rfl
  | ok t => simp [bind, Except.bind, pure, Except.pure]

theorem run_cons_of_error {v : Visit} {f : RenderFailure} (h : r.perform v = .error f)
    (rest : List Visit) : r.run (v :: rest) = .error f := by
  rw [run, h]
  rfl

theorem run_congr {other : Renderer} {visits : List Visit}
    (h : ∀ v ∈ visits, r.perform v = other.perform v) : r.run visits = other.run visits := by
  induction visits with
  | nil => rfl
  | cons v rest ih =>
      obtain ⟨hv, hrest⟩ := List.forall_mem_cons.mp h
      rw [run, run, hv, ih hrest]

theorem run_append (before after : List Visit) :
    r.run (before ++ after) = (do
      let t ← r.run before
      let u ← r.run after
      pure (t ++ u)) := by
  induction before with
  | nil =>
      cases h : r.run after <;> simp [run, h, bind, Except.bind, pure, Except.pure]
  | cons v before ih =>
      rw [List.cons_append, run, run, ih]
      simp only [bind_assoc, pure_bind, String.append_assoc]

theorem run_flatMap {α : Type} (f : α → List Visit) (xs : List α) :
    r.run (xs.flatMap f) = String.join <$> xs.mapM fun x => r.run (f x) := by
  induction xs with
  | nil => rfl
  | cons x xs ih =>
      rw [List.flatMap_cons, run_append, ih, List.mapM_cons]
      simp only [map_eq_pure_bind, bind_assoc, pure_bind, String.join_cons]

/-! ## Rendering performs the visits -/

variable {s : Scope} {path : Path}

theorem resolve_of_ok {found : Option Value} (h : s.resolve path = .ok found) :
    resolve s path = .ok found := by
  rw [resolve, h]

theorem resolve_of_error {f : Fault} (h : s.resolve path = .error f) :
    resolve s path = .error (.fault f) := by
  rw [resolve, h]

theorem interpolate_of_error {f : Fault} (h : s.resolve path = .error f) (helpers : List String)
    (pos : Position) : r.interpolate s path helpers pos = .error (.fault f) := by
  rw [interpolate, resolve_of_error h]
  rfl

theorem interpolate_of_none (h : s.resolve path = .ok none) (helpers : List String)
    (pos : Position) :
    r.interpolate s path helpers pos =
      match r.mode with
      | .strict => .error (.error ⟨.missingVariable, path, pos⟩)
      | .lenient => .ok "" := by
  rw [interpolate, resolve_of_ok h]
  rfl

theorem interpolate_of_some {v : Value} (h : s.resolve path = .ok (some v))
    (helpers : List String) (pos : Position) :
    r.interpolate s path helpers pos = (do
      let w ← helpers.reverse.foldlM (fun v name => r.applyHelper path pos name v) v
      match w.text? with
      | some text => pure text
      | none => .error (.error ⟨.notInterpolable w.typeName, path, pos⟩)) := by
  rw [interpolate, resolve_of_ok h]
  rfl

theorem loopScopes_of_ok {found : Option Value} (h : s.resolve path = .ok found)
    (pos : Position) :
    r.loopScopes s path pos =
      match found.bind s.turns? with
      | some scopes => .ok scopes
      | none =>
        if found.isNone && r.mode = .lenient then .ok []
        else .error (.error ⟨.collectionExpected (typeNameOf found), path, pos⟩) := by
  rw [loopScopes, resolve_of_ok h]
  rfl

theorem loopScopes_of_error {f : Fault} (h : s.resolve path = .error f) (pos : Position) :
    r.loopScopes s path pos = .error (.fault f) := by
  rw [loopScopes, resolve_of_error h]
  rfl

theorem renderNode_conditional {found : Option Value} (h : s.resolve path = .ok found)
    (negated : Bool) (body : List Node) (otherwise : Option (List Node)) (pos : Position) :
    r.renderNode (.conditional negated path body otherwise pos) s
      = if isTruthyAt found != negated then r.renderNodes body s
        else r.renderBranch otherwise s := by
  rw [renderNode, resolve_of_ok h]
  rfl

/-- A loop over a collection has a turn for each part. -/
theorem renderNode_loop {v : Value} {scopes : List Scope} (h : s.resolve path = .ok (some v))
    (hturns : s.turns? v = some scopes) (body : List Node) (pos : Position) :
    r.renderNode (.loop path body pos) s
      = String.join <$> scopes.mapM fun t => r.renderNodes body t := by
  rw [renderNode, loopScopes_of_ok h, Option.bind_some, hturns, map_eq_pure_bind]
  rfl

theorem loopScopes_eq_turnsAt {pos : Position} {scopes : List Scope}
    (h : r.loopScopes s path pos = .ok scopes) : scopes = s.turnsAt path := by
  cases hpath : s.resolve path with
  | error f =>
      rw [loopScopes_of_error hpath] at h
      cases h
  | ok found =>
      rw [loopScopes_of_ok hpath] at h
      rw [Scope.turnsAt, Scope.at?_eq hpath]
      cases hturns : found.bind s.turns? with
      | some turns =>
          rw [hturns] at h
          cases h
          rfl
      | none =>
          simp only [hturns] at h
          split at h
          · cases h
            rfl
          · cases h

mutual

theorem renderNode_eq_run (node : Node) (s : Scope) :
    r.renderNode node s = r.run (node.visits s) := by
  cases node with
  | text t pos =>
      rw [renderNode, Node.visits, run_singleton, perform]
  | interpolation path helpers pos =>
      rw [renderNode, Node.visits, run_singleton, perform]
  | conditional negated path body otherwise pos =>
      rw [Node.visits]
      cases hpath : s.resolve path with
      | error f =>
          rw [renderNode, resolve_of_error hpath, run_cons_of_error (f := .fault f)]
          · rfl
          · rw [perform, resolve_of_error hpath]
            rfl
      | ok found =>
          rw [renderNode_conditional hpath, Scope.at?_eq hpath, run_cons_of_silent]
          · split
            · exact renderNodes_eq_run body s
            · exact renderBranch_eq_run otherwise s
          · rw [perform, resolve_of_ok hpath]
            rfl
  | loop path body pos =>
      rw [renderNode, Node.visits]
      cases hscopes : r.loopScopes s path pos with
      | error f =>
          rw [run_cons_of_error (f := f)]
          · rfl
          · rw [perform, hscopes]
            rfl
      | ok scopes =>
          have hturns : scopes = s.turnsAt path := loopScopes_eq_turnsAt hscopes
          subst hturns
          rw [run_cons_of_silent, run_flatMap, map_eq_pure_bind]
          · simp only [← renderNodes_eq_run body]
            rfl
          · rw [perform, hscopes]
            rfl

theorem renderNodes_eq_run (nodes : List Node) (s : Scope) :
    r.renderNodes nodes s = r.run (Node.visitsAll nodes s) := by
  cases nodes with
  | nil => rfl
  | cons node rest =>
      rw [renderNodes, Node.visitsAll, run_append, renderNode_eq_run node s,
        renderNodes_eq_run rest s]

theorem renderBranch_eq_run (otherwise : Option (List Node)) (s : Scope) :
    r.renderBranch otherwise s = r.run (Node.visitsBranch otherwise s) := by
  cases otherwise with
  | none => rfl
  | some nodes => exact renderNodes_eq_run nodes s

end

theorem renderNodes_append (before after : List Node) (s : Scope) :
    r.renderNodes (before ++ after) s = (do
      let t ← r.renderNodes before s
      let u ← r.renderNodes after s
      pure (t ++ u)) := by
  have hvisits : Node.visitsAll (before ++ after) s
      = Node.visitsAll before s ++ Node.visitsAll after s := by
    induction before with
    | nil => rfl
    | cons node before ih =>
        rw [List.cons_append, Node.visitsAll, Node.visitsAll, ih, List.append_assoc]
  simp only [renderNodes_eq_run, hvisits, run_append]

/-! ## Where a run stops -/

/-- A run stops at a visit: those before it go well, and it fails. -/
structure StopsAt (r : Renderer) (visits before : List Visit) (v : Visit) (f : RenderFailure) :
    Prop where
  order : before ++ [v] <+: visits
  goes : ∀ u ∈ before, ∃ t, r.perform u = .ok t
  fails : r.perform v = .error f

theorem StopsAt.mem {visits before : List Visit} {v : Visit} {f : RenderFailure}
    (h : r.StopsAt visits before v f) : v ∈ visits :=
  h.order.subset (List.mem_append_right before (List.mem_singleton_self v))

theorem StopsAt.cons {visits before : List Visit} {u v : Visit} {f : RenderFailure} {t : String}
    (hu : r.perform u = .ok t) (h : r.StopsAt visits before v f) :
    r.StopsAt (u :: visits) (u :: before) v f where
  order := List.cons_prefix_cons.mpr ⟨rfl, h.order⟩
  goes := List.forall_mem_cons.mpr ⟨⟨t, hu⟩, h.goes⟩
  fails := h.fails

theorem run_of_stopsAt {visits before : List Visit} {v : Visit} {f : RenderFailure}
    (h : r.StopsAt visits before v f) : r.run visits = .error f := by
  obtain ⟨⟨after, rfl⟩, hgoes, hfails⟩ := h
  induction before with
  | nil => exact run_cons_of_error hfails after
  | cons u before ih =>
      obtain ⟨⟨t, ht⟩, hgoes⟩ := List.forall_mem_cons.mp hgoes
      rw [List.cons_append, List.cons_append, run, ht, ih hgoes]
      rfl

/-- A run either goes well at every visit or stops at one. -/
theorem goes_or_stops (r : Renderer) (visits : List Visit) :
    ((∃ text, r.run visits = .ok text) ∧ ∀ v ∈ visits, ∃ t, r.perform v = .ok t) ∨
      ∃ before v f, r.StopsAt visits before v f := by
  induction visits with
  | nil => exact Or.inl ⟨⟨"", rfl⟩, by simp⟩
  | cons v rest ih =>
      cases hv : r.perform v with
      | error f => exact Or.inr ⟨[], v, f, ⟨⟨rest, rfl⟩, by simp, hv⟩⟩
      | ok t =>
          rcases ih with ⟨⟨text, htext⟩, hgoes⟩ | ⟨before, u, f, hstops⟩
          · refine Or.inl ⟨⟨t ++ text, ?_⟩, List.forall_mem_cons.mpr ⟨⟨t, hv⟩, hgoes⟩⟩
            rw [run, hv, htext]
            rfl
          · exact Or.inr ⟨v :: before, u, f, hstops.cons hv⟩

theorem run_eq_error_iff {visits : List Visit} {f : RenderFailure} :
    r.run visits = .error f ↔ ∃ before v, r.StopsAt visits before v f := by
  constructor
  · intro h
    rcases r.goes_or_stops visits with ⟨⟨text, htext⟩, -⟩ | ⟨before, v, g, hstops⟩
    · rw [htext] at h
      cases h
    · rw [run_of_stopsAt hstops] at h
      cases h
      exact ⟨before, v, hstops⟩
  · rintro ⟨before, v, hstops⟩
    exact run_of_stopsAt hstops

theorem perform_of_run_eq_ok {visits : List Visit} {text : String}
    (h : r.run visits = .ok text) : ∀ v ∈ visits, ∃ t, r.perform v = .ok t := by
  rcases r.goes_or_stops visits with ⟨-, hgoes⟩ | ⟨before, v, f, hstops⟩
  · exact hgoes
  · rw [run_of_stopsAt hstops] at h
    cases h

end Renderer

end Scaffold
