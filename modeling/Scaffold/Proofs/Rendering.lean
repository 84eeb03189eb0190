import Scaffold.Proofs.HelperSets
import Scaffold.Proofs.Visits
import Scaffold.Proofs.WellFormed

namespace Scaffold

/-!
# Rendering without faults

A template that was parsed has paths that resolve to something or to
nothing, but never fail to resolve. So when no helper faults on a value
that it accepts, rendering gives a text or one of its own errors.
-/

/-! ## Results without a fault -/

/-- The result is something or an error of the template or its data. -/
def Rendered.Faultless {α : Type} (x : Rendered α) : Prop :=
  ∀ f, x ≠ .error (.fault f)

namespace Rendered

variable {α β : Type}

theorem faultless_ok (v : α) : Faultless (.ok v) := by
  intro f h
  cases h

theorem faultless_error (e : RenderError) : Faultless (α := α) (.error (.error e)) := by
  intro f h
  cases h

theorem Faultless.bind {x : Rendered α} {g : α → Rendered β} (hx : Faultless x)
    (hg : ∀ v, Faultless (g v)) : Faultless (x >>= g) := by
  cases x with
  | ok v => exact hg v
  | error e =>
      intro f h
      cases h
      exact hx f rfl

theorem Faultless.map {x : Rendered α} (hx : Faultless x) (g : α → β) : Faultless (g <$> x) := by
  rw [map_eq_pure_bind]
  exact hx.bind fun v => faultless_ok (g v)

theorem faultless_mapM {g : α → Rendered β} (hg : ∀ v, Faultless (g v)) (list : List α) :
    Faultless (list.mapM g) := by
  induction list with
  | nil => exact faultless_ok []
  | cons v list ih =>
      rw [List.mapM_cons]
      refine (hg v).bind fun w => ih.bind fun ws => ?_
      exact faultless_ok (w :: ws)

theorem faultless_foldlM {g : β → α → Rendered β} (hg : ∀ w v, Faultless (g w v)) (list : List α)
    (w : β) : Faultless (list.foldlM g w) := by
  induction list generalizing w with
  | nil => exact faultless_ok w
  | cons v list ih =>
      rw [List.foldlM_cons]
      exact (hg w v).bind ih

end Rendered

/-! ## Helpers that do not fault -/

/-- On every value that it accepts the helper gives something. -/
def Helper.Total (h : Helper) : Prop :=
  h.arity = 1 → ∀ v, h.acceptsValue v = true → ∃ d, h.apply v.toDatum = .ok d

def Helpers.Total (hs : Helpers) : Prop :=
  ∀ h ∈ hs.list, h.Total

namespace Renderer

open Rendered

variable {r : Renderer}

theorem faultless_applyHelper (htotal : r.helpers.Total) (path : Path) (pos : Position)
    (name : String) (v : Value) : Faultless (r.applyHelper path pos name v) := by
  unfold applyHelper
  cases hfind : r.helpers.find? name with
  | none => exact faultless_error _
  | some h =>
      have hmem : h ∈ r.helpers.list := List.mem_of_find?_eq_some hfind
      by_cases harity : h.arity = 1
      · by_cases haccepts : h.acceptsValue v = true
        · obtain ⟨d, hd⟩ := htotal h hmem harity v haccepts
          simp only [harity, bne_self_eq_false, haccepts, hd, Bool.not_true, Bool.false_eq_true,
            ↓reduceIte]
          cases d.freeze with
          | ok w => exact faultless_ok w
          | error e => exact faultless_error _
        · simp only [harity, bne_self_eq_false, haccepts, Bool.not_false, Bool.false_eq_true,
            ↓reduceIte]
          exact faultless_error _
      · have hne : (h.arity != 1) = true := by simpa using harity
        simp only [hne, ↓reduceIte]
        exact faultless_error _

theorem faultless_resolve (s : Scope) {path : Path} (h : path.Valid) :
    Faultless (resolve s path) := by
  obtain ⟨found, hfound⟩ := s.resolve_total h
  rw [resolve, hfound]
  exact faultless_ok found

theorem faultless_interpolate (htotal : r.helpers.Total) (s : Scope) {path : Path}
    (h : path.Valid) (helpers : List String) (pos : Position) :
    Faultless (r.interpolate s path helpers pos) := by
  refine (faultless_resolve s h).bind fun found => ?_
  cases found with
  | none =>
      cases r.mode with
      | strict => exact faultless_error _
      | lenient => exact faultless_ok ""
  | some v =>
      refine (faultless_foldlM (fun w name => faultless_applyHelper htotal path pos name w) _
        v).bind fun w => ?_
      cases w.text? with
      | none => exact faultless_error _
      | some text => exact faultless_ok text

theorem faultless_loopScopes (s : Scope) {path : Path} (h : path.Valid) (pos : Position) :
    Faultless (r.loopScopes s path pos) := by
  refine (faultless_resolve s h).bind fun found => ?_
  cases found.bind s.turns? with
  | some scopes => exact faultless_ok scopes
  | none =>
      dsimp only
      split
      · exact faultless_ok []
      · exact faultless_error _

theorem faultless_perform (htotal : r.helpers.Total) {v : Visit}
    (hvalid : ∀ path ∈ v.node.path?, path.Valid) : Faultless (r.perform v) := by
  obtain ⟨node, s⟩ := v
  cases node with
  | text t _ => exact faultless_ok t
  | interpolation path helpers pos =>
      exact faultless_interpolate htotal s (hvalid path rfl) helpers pos
  | conditional negated path body otherwise pos =>
      exact (faultless_resolve s (hvalid path rfl)).map fun _ => ""
  | loop path body pos =>
      exact (faultless_loopScopes s (hvalid path rfl) pos).map fun _ => ""

theorem faultless_run {visits : List Visit} (h : ∀ v ∈ visits, Faultless (r.perform v)) :
    Faultless (r.run visits) := by
  induction visits with
  | nil => exact faultless_ok ""
  | cons v rest ih =>
      obtain ⟨hv, hrest⟩ := List.forall_mem_cons.mp h
      rw [run]
      exact hv.bind fun t => (ih hrest).bind fun u => faultless_ok (t ++ u)

/-- A template whose paths are valid renders without a fault. -/
theorem faultless_of_valid (htotal : r.helpers.Total) {nodes : List Node}
    (hvalid : ∀ node ∈ Node.subnodesAll nodes, ∀ path ∈ node.path?, path.Valid) (s : Scope) :
    Faultless (r.renderNodes nodes s) := by
  rw [renderNodes_eq_run]
  apply faultless_run
  intro v hv
  exact faultless_perform htotal (hvalid v.node (Node.node_mem_subnodesAll hv))

end Renderer

/-! ## Well-formed templates -/

/-- The path of the node is valid, and its helpers are known. -/
structure Node.Callable (known : String → Bool) (node : Node) : Prop where
  path : ∀ path ∈ node.path?, path.Valid
  helpers : ∀ name ∈ node.helpers, known name = true

theorem Node.callable_text (known : String → Bool) (s : String) (pos : Position) :
    (Node.text s pos).Callable known where
  path _ h := by cases h
  helpers _ h := by cases h

theorem Node.callable_of_parse {known : String → Bool} {node : Node} {path : Path}
    (hpath : node.path? = some path) (hparse : Path.parse path.dotted.toList = .ok path)
    (hhelpers : ∀ name ∈ node.helpers, known name = true) : node.Callable known where
  path p hp := by
    rw [hpath] at hp
    cases hp
    exact (Path.parse_sound hparse).1
  helpers := hhelpers

theorem Node.WellFormed.callable {known : String → Bool} {followed : Bool} {nodes : List Node}
    (h : WellFormed known followed nodes) : ∀ node ∈ subnodesAll nodes, node.Callable known := by
  have hnone : ∀ name ∈ ([] : List String), known name = true := by simp
  induction h with
  | nil => simp [subnodesAll]
  | text _ _ _ _ _ ih =>
      simp only [subnodesAll, subnodes, List.singleton_append, List.forall_mem_cons]
      exact ⟨callable_text known _ _, ih⟩
  | interpolation hpath hhelpers _ _ ih =>
      simp only [subnodesAll, subnodes, List.singleton_append, List.forall_mem_cons]
      exact ⟨callable_of_parse rfl hpath hhelpers, ih⟩
  | conditional hpath _ _ ihbody ihrest =>
      simp only [subnodesAll, subnodes, subnodesBranch, List.append_nil, List.cons_append,
        List.forall_mem_cons, List.forall_mem_append]
      exact ⟨callable_of_parse rfl hpath hnone, ihbody, ihrest⟩
  | conditionalElse hpath _ _ _ ihbody ihotherwise ihrest =>
      simp only [subnodesAll, subnodes, subnodesBranch, List.cons_append, List.forall_mem_cons,
        List.forall_mem_append]
      exact ⟨callable_of_parse rfl hpath hnone, ⟨ihbody, ihotherwise⟩, ihrest⟩
  | loop hpath _ _ ihbody ihrest =>
      simp only [subnodesAll, subnodes, List.cons_append, List.forall_mem_cons,
        List.forall_mem_append]
      exact ⟨callable_of_parse rfl hpath hnone, ihbody, ihrest⟩

namespace Renderer

variable {r : Renderer}

/-- A well-formed template renders without a fault. -/
theorem faultless_renderNodes {known : String → Bool} (htotal : r.helpers.Total) {followed : Bool}
    {nodes : List Node} (h : Node.WellFormed known followed nodes) (s : Scope) :
    (r.renderNodes nodes s).Faultless :=
  faultless_of_valid htotal (fun node hnode => (h.callable node hnode).path) s

end Renderer

end Scaffold
