import Scaffold.Proofs.FreeVariables
import Scaffold.Proofs.Selection
import Scaffold.Proofs.StandardHelpers

namespace Scaffold

/-!
# Loops and their unrolling

A loop over a collection renders like a copy of its body for each part, in
which the path of the part stands in the place of `this`. Loops inside the
body bind `this` again, so there it stays; what is named is not touched.
The two renders may differ in the path that an error names, and in that
only.
-/

/-! ## A path in the place of `this` -/

namespace Path

def append (p : Path) (segments : List String) : Path :=
  ⟨p.head, p.rest ++ segments⟩

/-- The path seen from outside of a loop whose item is at `place`. -/
def replaceThis (place p : Path) : Path :=
  if p.origin = .this then place.append p.rest else p

theorem origin_append (p : Path) (segments : List String) :
    (p.append segments).origin = p.origin := rfl

end Path

namespace Node

mutual

/-- The node with a path in the place of `this`, except where a loop binds it again. -/
def replaceThis (place : Path) : Node → Node
  | .text s pos => .text s pos
  | .interpolation path helpers pos => .interpolation (place.replaceThis path) helpers pos
  | .conditional negated path body otherwise pos =>
    .conditional negated (place.replaceThis path) (replaceThisAll place body)
      (replaceThisBranch place otherwise) pos
  | .loop path body pos => .loop (place.replaceThis path) body pos

def replaceThisAll (place : Path) : List Node → List Node
  | [] => []
  | node :: rest => replaceThis place node :: replaceThisAll place rest

def replaceThisBranch (place : Path) : Option (List Node) → Option (List Node)
  | none => none
  | some nodes => some (replaceThisAll place nodes)

end

/-- A copy of the body for each segment, in which the part that the segment selects stands in the
place of `this`. -/
def unrolled (path : Path) (segments : List String) (body : List Node) : List Node :=
  segments.flatMap fun segment => replaceThisAll (path.append [segment]) body

theorem unrolled_cons (path : Path) (segment : String) (segments : List String)
    (body : List Node) :
    unrolled path (segment :: segments) body
      = replaceThisAll (path.append [segment]) body ++ unrolled path segments body := rfl

end Node

/-! ## Results that agree in all but paths -/

namespace Rendered

variable {α β : Type}

/-- Both give the same, or fail in the same way at the same position. -/
inductive Alike : Rendered α → Rendered α → Prop
  | ok (v : α) : Alike (.ok v) (.ok v)
  | error {e e' : RenderError} (htrouble : e'.trouble = e.trouble)
      (hposition : e'.position = e.position) : Alike (.error (.error e)) (.error (.error e'))
  | fault (f : Fault) : Alike (.error (.fault f)) (.error (.fault f))

theorem Alike.refl (x : Rendered α) : Alike x x := by
  rcases x with (e | f) | v
  · exact .error rfl rfl
  · exact .fault f
  · exact .ok v

theorem alike_error (trouble : RenderTrouble) (path path' : Path) (pos : Position) :
    Alike (α := α) (.error (.error ⟨trouble, path, pos⟩)) (.error (.error ⟨trouble, path', pos⟩)) :=
  .error rfl rfl

theorem Alike.bind {x y : Rendered α} {g h : α → Rendered β} (hxy : Alike x y)
    (hgh : ∀ v, Alike (g v) (h v)) : Alike (x >>= g) (y >>= h) := by
  cases hxy with
  | ok v => exact hgh v
  | error htrouble hposition => exact .error htrouble hposition
  | fault f => exact .fault f

theorem Alike.foldlM {g h : β → α → Rendered β} (hgh : ∀ w v, Alike (g w v) (h w v))
    (list : List α) (w : β) : Alike (list.foldlM g w) (list.foldlM h w) := by
  induction list generalizing w with
  | nil => exact .ok w
  | cons v list ih =>
      rw [List.foldlM_cons, List.foldlM_cons]
      exact (hgh w v).bind ih

theorem Alike.of_faultless {x y : Rendered α} (h : Alike x y) (hx : Faultless x) :
    (∃ v, x = .ok v ∧ y = .ok v) ∨
      ∃ e e', x = .error (.error e) ∧ y = .error (.error e') ∧
        e'.kind = e.kind ∧ e'.position = e.position := by
  cases h with
  | ok v => exact Or.inl ⟨v, rfl, rfl⟩
  | error htrouble hposition =>
      exact Or.inr ⟨_, _, rfl, rfl, congrArg RenderTrouble.kind htrouble, hposition⟩
  | fault f => exact absurd rfl (hx f)

end Rendered

/-! ## Scopes of which one is seen from the other -/

namespace Scope

/-- Followed by segments, the path leads in the one scope to what the segments lead to from `this`
in the other. -/
structure SeenAt (t s : Scope) (place : Path) : Prop where
  context : t.context = s.context
  this : ∀ rest, s.resolve (place.append rest) = t.this.walk rest

theorem SeenAt.resolve {t s : Scope} {place : Path} (h : t.SeenAt s place) {p : Path}
    (hp : ∀ v, p.origin ≠ .loopVariable v) :
    s.resolve (place.replaceThis p) = t.resolve p := by
  rw [Path.replaceThis, t.resolve_eq p]
  cases horigin : p.origin with
  | this => rw [if_pos rfl, h.this]
  | loopVariable v => exact absurd horigin (hp v)
  | name n => rw [if_neg nofun, s.resolve_eq p, horigin, h.context]

end Scope

namespace Renderer

open Rendered

variable {r : Renderer} {s t : Scope} {path path' : Path}

theorem applyHelper_alike (path path' : Path) (pos : Position) (name : String) (v : Value) :
    Alike (r.applyHelper path pos name v) (r.applyHelper path' pos name v) := by
  unfold applyHelper
  cases r.helpers.find? name with
  | none => exact alike_error ..
  | some h =>
      dsimp only
      split
      · exact alike_error ..
      · split
        · exact alike_error ..
        · split
          · exact .refl _
          · split
            · exact .refl _
            · exact alike_error ..

theorem interpolate_alike (h : s.resolve path' = t.resolve path) (helpers : List String)
    (pos : Position) :
    Alike (r.interpolate t path helpers pos) (r.interpolate s path' helpers pos) := by
  rw [interpolate, interpolate, Renderer.resolve, Renderer.resolve, h]
  refine Alike.bind (.refl _) fun found => ?_
  cases found with
  | none =>
      dsimp only
      split
      · exact alike_error ..
      · exact .refl _
  | some v =>
      refine Alike.bind ?_ fun w => ?_
      · exact .foldlM (fun w name => applyHelper_alike path path' pos name w) _ v
      · cases w.text? with
        | some text => exact .refl _
        | none => exact alike_error ..

theorem loopScopes_alike (hcontext : t.context = s.context)
    (h : s.resolve path' = t.resolve path) (pos : Position) :
    Alike (r.loopScopes t path pos) (r.loopScopes s path' pos) := by
  cases hpath : t.resolve path with
  | error f =>
      rw [loopScopes_of_error hpath, loopScopes_of_error (h.trans hpath)]
      exact .fault f
  | ok found =>
      have hturns : found.bind t.turns? = found.bind s.turns? := by
        cases found with
        | none => rfl
        | some v => exact Scope.turns?_congr hcontext v
      rw [loopScopes_of_ok hpath, loopScopes_of_ok (h.trans hpath), hturns]
      cases found.bind s.turns? with
      | some scopes => exact .ok scopes
      | none =>
          dsimp only
          split
          · exact .ok []
          · exact alike_error ..

mutual

theorem renderNode_alike {place : Path} (h : t.SeenAt s place) (node : Node)
    (hfree : ∀ v, .loopVariable v ∉ node.free) :
    Alike (r.renderNode node t) (r.renderNode (node.replaceThis place) s) := by
  cases node with
  | text => exact .refl _
  | interpolation path helpers pos =>
      have hpath := h.resolve (p := path) fun v hv => hfree v (by simp [Node.free, hv])
      exact interpolate_alike hpath helpers pos
  | conditional negated path body otherwise pos =>
      simp only [Node.free, List.mem_cons, List.mem_append, not_or] at hfree
      have hpath := h.resolve (p := path) fun v hv => (hfree v).1 hv.symm
      rw [Node.replaceThis, renderNode, renderNode, Renderer.resolve, Renderer.resolve, hpath]
      refine Alike.bind (.refl _) fun found => ?_
      split
      · exact renderNodes_alike h body fun v => (hfree v).2.1
      · exact renderBranch_alike h otherwise fun v => (hfree v).2.2
  | loop path body pos =>
      simp only [Node.free, List.mem_cons, not_or] at hfree
      have hpath := h.resolve (p := path) fun v hv => (hfree v).1 hv.symm
      rw [Node.replaceThis, renderNode, renderNode]
      -- the turns of both loops are the same scopes, so their bodies render the same
      exact (loopScopes_alike h.context hpath pos).bind fun scopes => .refl _

theorem renderNodes_alike {place : Path} (h : t.SeenAt s place) (nodes : List Node)
    (hfree : ∀ v, .loopVariable v ∉ Node.freeAll nodes) :
    Alike (r.renderNodes nodes t) (r.renderNodes (Node.replaceThisAll place nodes) s) := by
  cases nodes with
  | nil => exact .refl _
  | cons node rest =>
      simp only [Node.freeAll, List.mem_append, not_or] at hfree
      rw [Node.replaceThisAll, renderNodes, renderNodes]
      refine (renderNode_alike h node fun v => (hfree v).1).bind fun t => ?_
      exact (renderNodes_alike h rest fun v => (hfree v).2).bind fun u => .refl _

theorem renderBranch_alike {place : Path} (h : t.SeenAt s place)
    (otherwise : Option (List Node)) (hfree : ∀ v, .loopVariable v ∉ Node.freeBranch otherwise) :
    Alike (r.renderBranch otherwise t)
      (r.renderBranch (Node.replaceThisBranch place otherwise) s) := by
  cases otherwise with
  | none => exact .refl _
  | some nodes => exact renderNodes_alike h nodes hfree

end

end Renderer

/-! ## Turns and segments -/

namespace Scope

/-- No loop variable is bound to a collection. -/
def BindsNoCollection (s : Scope) : Prop :=
  ∀ x v, s.bound x = some v → v.segments? = none

theorem bindsNoCollection_root (c : Context) : (root c).BindsNoCollection := by
  intro x v h
  cases h

theorem bindsNoCollection_turn (s : Scope) (size i : Nat) (key? : Option String) (item : Value) :
    (s.turn size i key? item).BindsNoCollection := by
  intro x v h
  cases x with
  | index | first | last =>
      cases h
      rfl
  | key =>
      obtain ⟨key, -, rfl⟩ := Option.map_eq_some_iff.mp h
      rfl

/-- A render binds no loop variable to a collection. -/
theorem bindsNoCollection_of_mem_visits {nodes : List Node} {c : Context} :
    ∀ v ∈ Node.visitsAll nodes (root c), v.scope.BindsNoCollection := by
  apply Node.visitsAll_invariant
  · intro s size i key? item _
    exact bindsNoCollection_turn s size i key? item
  · exact bindsNoCollection_root c

/-- Each turn of a loop is for the part that its segment selects. -/
theorem turns?_of_segments (s : Scope) {v : Value} {segments : List String}
    (h : v.segments? = some segments) (hkeys : v.KeysDistinct) :
    ∃ scopes, s.turns? v = some scopes ∧
      List.Forall₂ (fun segment t => t.context = s.context ∧
        v.child? segment = .ok (some t.this)) segments scopes := by
  cases v with
  | list items =>
      cases h
      refine ⟨_, rfl, List.forall₂_iff_get.mpr ⟨by simp, fun i hi hi' => ?_⟩⟩
      have hlt : i < items.length := by simpa using hi
      simp only [List.get_eq_getElem, List.getElem_map, List.getElem_range, List.getElem_mapIdx]
      refine ⟨rfl, ?_⟩
      rw [Value.child?_toString, List.getElem?_eq_getElem hlt]
      rfl
  | map entries =>
      cases h
      refine ⟨_, rfl, List.forall₂_iff_get.mpr ⟨by simp, fun i hi hi' => ?_⟩⟩
      have hlt : i < entries.length := by simpa using hi
      simp only [List.get_eq_getElem, List.getElem_map, List.getElem_mapIdx]
      exact ⟨rfl, Value.child?_entry hkeys (List.getElem_mem hlt)⟩
  | bool | int | float | str => cases h

theorem seenAt_of_child {s t : Scope} {path : Path} {v : Value} {segment : String}
    (hpath : s.resolve path = .ok (some v)) (horigin : ∀ x, path.origin ≠ .loopVariable x)
    (hcontext : t.context = s.context) (hchild : v.child? segment = .ok (some t.this)) :
    t.SeenAt s (path.append [segment]) where
  context := hcontext
  this rest := by
    have hrest : (path.rest ++ [segment]) ++ rest = path.rest ++ segment :: rest := by simp
    rw [resolve_eq] at hpath
    rw [resolve_eq, Path.origin_append, Path.origin_append]
    simp only [Path.append, hrest]
    cases hstart : path.origin with
    | this =>
        rw [hstart] at hpath
        exact Value.walk_append_cons hpath hchild rest
    | loopVariable x => exact absurd hstart (horigin x)
    | name n =>
        rw [hstart] at hpath
        have hwalk : s.context.value.walk (n :: path.rest) = .ok (some v) := hpath
        exact Value.walk_append_cons hwalk hchild rest

end Scope

namespace Renderer

open Rendered

variable {r : Renderer} {s : Scope} {path : Path}

theorem unrolled_alike {segments : List String} {scopes : List Scope} {body : List Node}
    (h : List.Forall₂ (fun segment t => t.SeenAt s (path.append [segment])) segments scopes)
    (hfree : ∀ x, .loopVariable x ∉ Node.freeAll body) :
    Alike (String.join <$> scopes.mapM fun t => r.renderNodes body t)
      (r.renderNodes (Node.unrolled path segments body) s) := by
  induction h with
  | nil => exact .refl _
  | cons hseen _ ih =>
      -- the first turn against the first copy, the other turns against the other copies
      rw [Node.unrolled_cons, renderNodes_append, List.mapM_cons]
      simp only [map_eq_pure_bind, bind_assoc, pure_bind, String.join_cons] at ih ⊢
      refine (renderNodes_alike hseen body hfree).bind fun text => ?_
      have hrest := ih.bind fun more => Alike.refl (pure (text ++ more))
      simpa only [bind_assoc, pure_bind] using hrest

end Renderer

/-- A loop over a collection renders as its unrolling does: both give the same text, or both fail in
the same way at the same position, and where no helper faults and all paths can be read they fail
with an error. The body uses no variable of its loop but `this`; the keys of a map are distinct, and
a path that starts from a loop variable is asked for in a scope of a render only. -/
theorem loop_renders_as_unrolled (r : Renderer) (s : Scope) (path : Path) (pos : Position)
    (v : Value) (segments : List String) (body : List Node)
    (hpath : s.resolve path = .ok (some v)) (hsegments : v.segments? = some segments)
    (hkeys : v.KeysDistinct)
    (hscope : ∀ x, path.origin = .loopVariable x → s.BindsNoCollection)
    (hfree : ∀ x, .loopVariable x ∉ Node.freeAll body) :
    Rendered.Alike (r.renderNode (.loop path body pos) s)
      (r.renderNodes (Node.unrolled path segments body) s) ∧
    (r.helpers.Total → (∀ node ∈ Node.subnodesAll body, ∀ p ∈ node.path?, p.Valid) →
      (∃ text, r.renderNode (.loop path body pos) s = .ok text ∧
        r.renderNodes (Node.unrolled path segments body) s = .ok text) ∨
      ∃ e e', r.renderNode (.loop path body pos) s = .error (.error e) ∧
        r.renderNodes (Node.unrolled path segments body) s = .error (.error e') ∧
        e'.kind = e.kind ∧ e'.position = e.position) := by
  have horigin : ∀ x, path.origin ≠ .loopVariable x := by
    intro x hx
    rw [Scope.resolve_eq, hx] at hpath
    have hbound : s.bound x = some v := Except.ok.inj hpath
    rw [hscope x hx x v hbound] at hsegments
    cases hsegments
  obtain ⟨scopes, hturns, hselect⟩ := s.turns?_of_segments hsegments hkeys
  have hseen : List.Forall₂ (fun segment t => t.SeenAt s (path.append [segment]))
      segments scopes :=
    hselect.imp fun _ _ h => Scope.seenAt_of_child hpath horigin h.1 h.2
  rw [Renderer.renderNode_loop hpath hturns]
  have halike := Renderer.unrolled_alike (r := r) hseen hfree
  refine ⟨halike, fun htotal hvalid => halike.of_faultless ?_⟩
  exact (Rendered.faultless_mapM (Renderer.faultless_of_valid htotal hvalid) scopes).map _

/-- The items of a part that is on, then each item with its number. -/
def partBody : List Node :=
  [ .conditional false ⟨"this", ["on"]⟩
      [.interpolation ⟨"this", ["xs"]⟩ ["json"] .start] (some [.text "off" .start]) .start,
    .loop ⟨"this", ["xs"]⟩
      [.interpolation ⟨"@index", []⟩ [] .start, .interpolation ⟨"this", []⟩ [] .start] .start ]

def partsContext : Context :=
  ⟨[("parts", .map
    [ ("a b", .map [("on", .bool true), ("xs", .list [.int 1, .int 2])]),
      ("c", .map [("xs", .list [])]) ])]⟩

theorem loop_renders_as_unrolled_example :
    Renderer.renderNodes ⟨.standard, .strict⟩
      (Node.unrolled ⟨"this", ["parts"]⟩ ["a b", "c"] partBody) (.root partsContext)
        = .ok "[1, 2]0112off" := by
  have hkeys : (["a b", "c"] : List String).Nodup := by decide
  have hfree : ∀ x, .loopVariable x ∉ Node.freeAll partBody := by
    intro x
    cases x <;> decide
  have hvalid : ∀ node ∈ Node.subnodesAll partBody, ∀ p ∈ node.path?, p.Valid := by decide
  obtain ⟨-, hsame⟩ := loop_renders_as_unrolled ⟨.standard, .strict⟩ (.root partsContext)
    ⟨"this", ["parts"]⟩ .start _ ["a b", "c"] partBody rfl rfl hkeys nofun hfree
  have hloop : Renderer.renderNode ⟨.standard, .strict⟩
      (.loop ⟨"this", ["parts"]⟩ partBody .start) (.root partsContext) = .ok "[1, 2]0112off" := by
    rfl
  rcases hsame Helpers.standard_total hvalid with ⟨text, htext, hunrolled⟩ | ⟨e, e', hfails, -⟩
  · rw [hloop] at htext
    cases htext
    exact hunrolled
  · rw [hloop] at hfails
    cases hfails

end Scaffold
