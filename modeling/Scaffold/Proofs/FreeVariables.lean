import Scaffold.Proofs.Visits

namespace Scaffold

/-!
# The variables of a template

A path starts from `this`, from a loop variable or from a name. The free
variables of a template are those that its paths start from, except that
a loop binds `this` and the loop variables of its body. Rendering looks
at nothing else: two scopes that agree on the free variables give the same
text or the same failure.
-/

/-! ## Where paths start -/

/-- What a path starts from. -/
inductive Origin
  | this
  | loopVariable (v : LoopVariable)
  | name (n : String)
  deriving DecidableEq, Repr

namespace Origin

def isName : Origin → Bool
  | .name _ => true
  | _ => false

end Origin

def Path.origin (p : Path) : Origin :=
  if p.head = "this" then .this
  else
    match LoopVariable.ofName? p.head with
    | some v => .loopVariable v
    | none => .name p.head

namespace Scope

/-- What the segments of a path are followed from, and the segments that are followed. -/
theorem resolve_eq (s : Scope) (p : Path) :
    s.resolve p =
      match p.origin with
      | .this => s.this.walk p.rest
      | .loopVariable v => .ok (s.bound v)
      | .name n => s.context.value.walk (n :: p.rest) := by
  rw [resolve, find, Path.origin]
  by_cases hthis : p.head = "this"
  · rw [if_pos hthis, if_pos hthis]
  · rw [if_neg hthis, if_neg hthis]
    cases LoopVariable.ofName? p.head <;> rfl

/-- Paths that start there lead to the same in both scopes. -/
def AgreeOn (s t : Scope) : Origin → Prop
  | .this => s.this = t.this
  | .loopVariable v => s.bound v = t.bound v
  | .name n => s.context.get? n = t.context.get? n

theorem resolve_congr {s t : Scope} {p : Path} (h : s.AgreeOn t p.origin) :
    s.resolve p = t.resolve p := by
  rw [resolve_eq, resolve_eq]
  cases horigin : p.origin with
  | this =>
      rw [horigin] at h
      have hthis : s.this = t.this := h
      simp only [hthis]
  | loopVariable v =>
      rw [horigin] at h
      have hbound : s.bound v = t.bound v := h
      simp only [hbound]
  | name n =>
      rw [horigin] at h
      have hchild : s.context.value.child? n = t.context.value.child? n :=
        congrArg Except.ok h
      simp only [Value.walk, hchild]

def inContext (s : Scope) (c : Context) : Scope :=
  { s with context := c }

/-- The turns of a loop are the same in every scope, up to the context. -/
theorem turns?_inContext (s t : Scope) (v : Value) :
    t.turns? v = (s.turns? v).map (List.map (·.inContext t.context)) := by
  cases v with
  | list items => simp [turns?, List.mapIdx_eq_zipIdx_map, turn, child, inContext]
  | map entries => simp [turns?, List.mapIdx_eq_zipIdx_map, turn, child, inContext]
  | bool | int | float | str => rfl

theorem turns?_congr {s t : Scope} (h : t.context = s.context) (v : Value) :
    t.turns? v = s.turns? v := by
  rw [turns?_inContext s t v, h, ← turns?_inContext s s v]

end Scope

/-! ## Free variables -/

namespace Node

mutual

/-- What rendering the node looks at. -/
def free : Node → List Origin
  | .text .. => []
  | .interpolation path _ _ => [path.origin]
  | .conditional _ path body otherwise _ => path.origin :: (freeAll body ++ freeBranch otherwise)
  | .loop path body _ => path.origin :: (freeAll body).filter Origin.isName

def freeAll : List Node → List Origin
  | [] => []
  | node :: rest => free node ++ freeAll rest

def freeBranch : Option (List Node) → List Origin
  | none => []
  | some nodes => freeAll nodes

end

end Node

namespace Renderer

variable {r : Renderer} {s t : Scope}

theorem interpolate_congr {path : Path} (h : s.resolve path = t.resolve path)
    (helpers : List String) (pos : Position) :
    r.interpolate s path helpers pos = r.interpolate t path helpers pos := by
  rw [interpolate, interpolate, resolve, resolve, h]

theorem loopScopes_inContext {path : Path} (h : s.resolve path = t.resolve path)
    (pos : Position) :
    r.loopScopes t path pos
      = List.map (·.inContext t.context) <$> r.loopScopes s path pos := by
  cases hpath : s.resolve path with
  | error f =>
      rw [loopScopes_of_error hpath, loopScopes_of_error (h.symm.trans hpath)]
      rfl
  | ok found =>
      rw [loopScopes_of_ok hpath, loopScopes_of_ok (h.symm.trans hpath)]
      have hturns : found.bind t.turns?
          = (found.bind s.turns?).map (List.map (·.inContext t.context)) := by
        cases found with
        | none => rfl
        | some v => exact Scope.turns?_inContext s t v
      rw [hturns]
      cases found.bind s.turns? with
      | some scopes => rfl
      | none =>
          simp only [Option.map_none]
          split
          · rfl
          · rfl

mutual

theorem renderNode_congr (node : Node) {s t : Scope} (h : ∀ o ∈ node.free, s.AgreeOn t o) :
    r.renderNode node s = r.renderNode node t := by
  cases node with
  | text => rfl
  | interpolation path helpers pos =>
      have hpath : s.resolve path = t.resolve path :=
        Scope.resolve_congr (h path.origin (List.mem_singleton_self _))
      rw [renderNode, renderNode, interpolate_congr hpath]
  | conditional negated path body otherwise pos =>
      rw [Node.free, List.forall_mem_cons, List.forall_mem_append] at h
      obtain ⟨hpath, hbody, hotherwise⟩ := h
      rw [renderNode, renderNode, resolve, resolve, Scope.resolve_congr hpath,
        renderNodes_congr body hbody, renderBranch_congr otherwise hotherwise]
  | loop path body pos =>
      rw [Node.free, List.forall_mem_cons] at h
      obtain ⟨hpath, hbody⟩ := h
      -- a turn binds all that the body looks at but the names
      have hturn : ∀ u : Scope, r.renderNodes body (u.inContext s.context)
          = r.renderNodes body (u.inContext t.context) := by
        intro u
        apply renderNodes_congr body
        intro o ho
        cases o with
        | this => rfl
        | loopVariable v => rfl
        | name n => exact hbody (.name n) (List.mem_filter.mpr ⟨ho, rfl⟩)
      rw [renderNode, renderNode, loopScopes_inContext (s := s) rfl,
        loopScopes_inContext (Scope.resolve_congr hpath)]
      simp only [bind_map_left, List.mapM_map, Function.comp_def, hturn]

theorem renderNodes_congr (nodes : List Node) {s t : Scope}
    (h : ∀ o ∈ Node.freeAll nodes, s.AgreeOn t o) :
    r.renderNodes nodes s = r.renderNodes nodes t := by
  cases nodes with
  | nil => rfl
  | cons node rest =>
      rw [Node.freeAll, List.forall_mem_append] at h
      rw [renderNodes, renderNodes, renderNode_congr node h.1, renderNodes_congr rest h.2]

theorem renderBranch_congr (otherwise : Option (List Node)) {s t : Scope}
    (h : ∀ o ∈ Node.freeBranch otherwise, s.AgreeOn t o) :
    r.renderBranch otherwise s = r.renderBranch otherwise t := by
  cases otherwise with
  | none => rfl
  | some nodes => exact renderNodes_congr nodes h

end

end Renderer

/-! ## Bodies without variables of their loop -/

/-- How many turns a loop over the value has. -/
def Value.size? : Value → Option Nat
  | .list items => some items.length
  | .map entries => some entries.length
  | _ => none

theorem Scope.turns?_of_size (s : Scope) {v : Value} {n : Nat} (h : v.size? = some n) :
    ∃ scopes, s.turns? v = some scopes ∧ scopes.length = n := by
  cases v with
  | list items =>
      cases h
      exact ⟨_, rfl, List.length_mapIdx⟩
  | map entries =>
      cases h
      exact ⟨_, rfl, List.length_mapIdx⟩
  | bool | int | float | str => cases h

/-- As many copies of a text as asked for; without any, it does not matter whether there is one. -/
def Rendered.copies (n : Nat) (x : Rendered String) : Rendered String :=
  if n = 0 then .ok "" else (fun text => String.join (List.replicate n text)) <$> x

theorem Rendered.mapM_of_eq_ok {α β : Type} {g : α → Rendered β} {w : β} {xs : List α}
    (h : ∀ a ∈ xs, g a = .ok w) : xs.mapM g = .ok (List.replicate xs.length w) := by
  induction xs with
  | nil => rfl
  | cons a xs ih =>
      obtain ⟨ha, hxs⟩ := List.forall_mem_cons.mp h
      rw [List.mapM_cons, ha, ih hxs]
      rfl

theorem Rendered.join_mapM_of_eq {α : Type} {g : α → Rendered String} {x : Rendered String}
    {xs : List α} (h : ∀ a ∈ xs, g a = x) :
    String.join <$> xs.mapM g = Rendered.copies xs.length x := by
  cases xs with
  | nil => rfl
  | cons a xs =>
      cases x with
      | ok text =>
          rw [mapM_of_eq_ok h]
          rfl
      | error f =>
          rw [List.mapM_cons, h a List.mem_cons_self]
          rfl

namespace Renderer

variable {r : Renderer}

theorem renderNode_loop_copies {body : List Node}
    (hbody : ∀ o ∈ Node.freeAll body, o.isName = true) {s : Scope} {path : Path} {v : Value}
    {n : Nat} (hpath : s.resolve path = .ok (some v)) (hsize : v.size? = some n)
    (pos : Position) :
    r.renderNode (.loop path body pos) s = Rendered.copies n (r.renderNodes body s) := by
  obtain ⟨scopes, hturns, hlength⟩ := s.turns?_of_size hsize
  have hsame : ∀ u ∈ scopes, r.renderNodes body u = r.renderNodes body s := by
    intro u hu
    obtain ⟨size, i, key?, item, rfl⟩ := Scope.eq_turn_of_mem_turns? hturns hu
    apply renderNodes_congr body
    intro o ho
    cases o with
    | name n => rfl
    | this | loopVariable => cases hbody _ ho
  rw [renderNode_loop hpath hturns, ← hlength]
  exact Rendered.join_mapM_of_eq hsame

end Renderer

/-- Rendering depends on the free variables of a template only. So in a turn of a loop it does not
depend on what `this` and the loop variables are outside, and a body without variables of its loop
is rendered there as it is outside, once for each part of the collection. -/
theorem render_by_free_variables (r : Renderer) (nodes : List Node) :
    (∀ s t : Scope, (∀ o ∈ Node.freeAll nodes, s.AgreeOn t o) →
      r.renderNodes nodes s = r.renderNodes nodes t) ∧
    (∀ (s t : Scope) (size i : Nat) (key? : Option String) (item : Value),
      (∀ n, .name n ∈ Node.freeAll nodes → s.context.get? n = t.context.get? n) →
        r.renderNodes nodes (s.turn size i key? item)
          = r.renderNodes nodes (t.turn size i key? item)) ∧
    ∀ (s : Scope) (path : Path) (pos : Position) (v : Value) (n : Nat),
      s.resolve path = .ok (some v) → v.size? = some n →
        (∀ o ∈ Node.freeAll nodes, o.isName = true) →
          r.renderNode (.loop path nodes pos) s = Rendered.copies n (r.renderNodes nodes s) := by
  refine ⟨fun s t h => Renderer.renderNodes_congr nodes h, ?_, ?_⟩
  · intro s t size i key? item hnames
    apply Renderer.renderNodes_congr nodes
    intro o ho
    cases o with
    | this => rfl
    | loopVariable v => rfl
    | name n => exact hnames n ho
  · intro s path pos v n hpath hsize hbody
    exact Renderer.renderNode_loop_copies hbody hpath hsize pos

/-- A title, then each item with its number. -/
def titledItems : List Node :=
  [ .interpolation ⟨"title", []⟩ [] .start,
    .loop ⟨"xs", []⟩
      [.interpolation ⟨"@index", []⟩ [] .start, .interpolation ⟨"this", []⟩ [] .start] .start ]

def titledScope : Scope :=
  .root ⟨[("title", .str "T"), ("xs", .list [.str "a", .str "b"])]⟩

/-- A turn of a loop, where the same is named and something else as well. -/
def titledTurn : Scope :=
  (Scope.root ⟨[("n", .int 5), ("xs", .list [.str "a", .str "b"]), ("title", .str "T")]⟩).turn
    3 1 (some "k") (.int 5)

theorem render_by_free_variables_example :
    Renderer.renderNodes ⟨.standard, .strict⟩ titledItems titledTurn = .ok "T0a1b" ∧
    Renderer.renderNodes ⟨.standard, .strict⟩ titledItems (titledTurn.turn 1 0 none (.int 7))
      = Renderer.renderNodes ⟨.standard, .strict⟩ titledItems
        (titledScope.turn 1 0 none (.int 7)) ∧
    Renderer.renderNode ⟨.standard, .strict⟩ (.loop ⟨"xs", []⟩ titledItems .start) titledTurn
      = .ok "T0a1bT0a1b" := by
  obtain ⟨hsame, hturn, hcopies⟩ := render_by_free_variables ⟨.standard, .strict⟩ titledItems
  have hfree : Node.freeAll titledItems = [.name "title", .name "xs"] := by decide
  have hagree : ∀ o ∈ Node.freeAll titledItems, titledTurn.AgreeOn titledScope o := by
    rw [hfree, List.forall_mem_cons, List.forall_mem_singleton]
    exact ⟨rfl, rfl⟩
  have hnames : ∀ o ∈ Node.freeAll titledItems, o.isName = true := by decide
  have htext : Renderer.renderNodes ⟨.standard, .strict⟩ titledItems titledTurn
      = .ok "T0a1b" := by
    rw [hsame titledTurn titledScope hagree]
    rfl
  refine ⟨htext, ?_, ?_⟩
  · exact hturn titledTurn titledScope 1 0 none (.int 7) fun n hn => hagree (.name n) hn
  · rw [hcopies titledTurn ⟨"xs", []⟩ .start _ 2 rfl rfl hnames, htext]
    rfl

end Scaffold
