import Scaffold.Proofs.Grammar
import Scaffold.Proofs.Visits

namespace Scaffold

/-!
# Templates that are moved

A template that stands behind another text has the nodes that it has on its
own, at other positions. Moving positions commutes with reading tokens,
with deriving nodes and with rendering, where it moves the position of an
error and nothing else.
-/

namespace Position

/-- The position of `p` when its text begins at `origin` and not at the start. -/
def movedTo (p origin : Position) : Position where
  offset := origin.offset + p.offset
  line := origin.line + (p.line - 1)
  column := if p.line = 1 then origin.column + (p.column - 1) else p.column

/-- Lines and columns count from one. -/
def Counted (p : Position) : Prop :=
  1 ≤ p.line ∧ 1 ≤ p.column

theorem counted_start : start.Counted :=
  ⟨Nat.le_refl 1, Nat.le_refl 1⟩

@[simp] theorem start_movedTo (origin : Position) : start.movedTo origin = origin := by
  simp [movedTo, start]

theorem Counted.step {p : Position} (h : p.Counted) (c : Char) : (p.step c).Counted := by
  obtain ⟨hline, hcolumn⟩ := h
  by_cases hc : c = '\n'
  · simp [Counted, Position.step, hc]
  · simp only [Counted, Position.step, hc, ↓reduceIte]
    omega

theorem Counted.step_movedTo {p : Position} (h : p.Counted) (origin : Position) (c : Char) :
    (p.step c).movedTo origin = (p.movedTo origin).step c := by
  obtain ⟨hline, hcolumn⟩ := h
  have hpred : origin.line + p.line = origin.line + (p.line - 1) + 1 := by omega
  by_cases hc : c = '\n'
  · have hnext : p.line ≠ 0 := by omega
    simp [Position.step, movedTo, hc, hpred, hnext, Nat.add_assoc]
  · by_cases hfirst : p.line = 1
    · have hcount : origin.column + p.column = origin.column + (p.column - 1) + 1 := by omega
      simp [Position.step, movedTo, hc, hfirst, hcount, Nat.add_assoc]
    · simp [Position.step, movedTo, hc, hfirst, Nat.add_assoc]

theorem Counted.advance {p : Position} (h : p.Counted) (s : List Char) :
    (p.advance s).Counted := by
  induction s generalizing p with
  | nil => exact h
  | cons c s ih => exact ih (h.step c)

theorem Counted.advance_movedTo {p : Position} (h : p.Counted) (origin : Position)
    (s : List Char) : (p.advance s).movedTo origin = (p.movedTo origin).advance s := by
  induction s generalizing p with
  | nil => rfl
  | cons c s ih =>
      have hstep := h.step_movedTo origin c
      rw [advance_cons, advance_cons, ih (h.step c), hstep]

end Position

namespace Token

theorem place_movedTo {p : Position} (h : p.Counted) (origin : Position) (spans : List Span) :
    place (p.movedTo origin) spans = (place p spans).map (Prod.map id (·.movedTo origin)) := by
  induction spans generalizing p with
  | nil => rfl
  | cons span rest ih =>
      have hrest := ih (h.advance span.source)
      rw [h.advance_movedTo] at hrest
      rw [place, place, hrest]
      cases ofSpan? span <;> rfl

end Token

/-! ## Moving nodes -/

namespace Node

mutual

/-- The node with all its positions changed. -/
def moved (f : Position → Position) : Node → Node
  | .text s pos => .text s (f pos)
  | .interpolation path helpers pos => .interpolation path helpers (f pos)
  | .conditional negated path body otherwise pos =>
    .conditional negated path (movedAll f body) (movedBranch f otherwise) (f pos)
  | .loop path body pos => .loop path (movedAll f body) (f pos)

def movedAll (f : Position → Position) : List Node → List Node
  | [] => []
  | node :: rest => moved f node :: movedAll f rest

def movedBranch (f : Position → Position) : Option (List Node) → Option (List Node)
  | none => none
  | some nodes => some (movedAll f nodes)

end

variable (f : Position → Position)

theorem glue_moved (node : Node) (rest : List Node) :
    glue (node.moved f) (movedAll f rest) = movedAll f (glue node rest) := by
  cases node with
  | text s pos =>
      cases rest with
      | nil => rfl
      | cons next rest => cases next <;> rfl
  | interpolation | conditional | loop => rfl

mutual

theorem joined_moved (node : Node) : joined (node.moved f) = (joined node).moved f := by
  cases node with
  | text | interpolation => rfl
  | conditional negated path body otherwise pos =>
      have hbody := joinedAll_moved body
      have hotherwise := joinedBranch_moved otherwise
      rw [moved, joined, hbody, hotherwise, joined, moved]
  | loop path body pos =>
      have hbody := joinedAll_moved body
      rw [moved, joined, hbody, joined, moved]

theorem joinedAll_moved (nodes : List Node) :
    joinedAll (movedAll f nodes) = movedAll f (joinedAll nodes) := by
  cases nodes with
  | nil => rfl
  | cons node rest =>
      have hnode := joined_moved node
      have hrest := joinedAll_moved rest
      rw [movedAll, joinedAll, hnode, hrest, glue_moved, joinedAll]

theorem joinedBranch_moved (otherwise : Option (List Node)) :
    joinedBranch (movedBranch f otherwise) = movedBranch f (joinedBranch otherwise) := by
  cases otherwise with
  | none => rfl
  | some nodes =>
      have hnodes := joinedAll_moved nodes
      rw [movedBranch, joinedBranch, hnodes, joinedBranch, movedBranch]

end

mutual

theorem same_moved (node : Node) : same (node.moved f) node = true := by
  cases node with
  | text s pos => rw [moved, same, beq_self_eq_true]
  | interpolation path helpers pos => simp [moved, same]
  | conditional negated path body otherwise pos =>
      have hbody := sameAll_moved body
      have hotherwise := sameBranch_moved otherwise
      simp [moved, same, hbody, hotherwise]
  | loop path body pos =>
      have hbody := sameAll_moved body
      simp [moved, same, hbody]

theorem sameAll_moved (nodes : List Node) :
    sameAll (movedAll f nodes) nodes = true := by
  cases nodes with
  | nil => rfl
  | cons node rest =>
      have hnode := same_moved node
      have hrest := sameAll_moved rest
      rw [movedAll, sameAll, hnode, hrest, Bool.and_self]

theorem sameBranch_moved (otherwise : Option (List Node)) :
    sameBranch (movedBranch f otherwise) otherwise = true := by
  cases otherwise with
  | none => rfl
  | some nodes => exact sameAll_moved nodes

end

end Node

/-- Tokens at other positions are derived as the same nodes at those positions. -/
theorem Derives.moved {known : String → Bool} {tokens : List PlacedToken} {nodes : List Node}
    (h : Derives known tokens nodes) (f : Position → Position) :
    Derives known (tokens.map (Prod.map id f)) (Node.movedAll f nodes) := by
  induction h with
  | nil => exact .nil
  | text _ ih => exact .text ih
  | interpolation htag _ ih => exact .interpolation htag ih
  | conditional hopen _ hclose _ ihbody ihrest =>
      rw [List.map_cons, List.map_append, List.map_cons]
      exact .conditional hopen ihbody hclose ihrest
  | conditionalElse hopen _ helse _ hclose _ ihbody ihotherwise ihrest =>
      rw [List.map_cons, List.map_append, List.map_cons, List.map_append, List.map_cons]
      exact .conditionalElse hopen ihbody helse ihotherwise hclose ihrest
  | loop hopen _ hclose _ ihbody ihrest =>
      rw [List.map_cons, List.map_append, List.map_cons]
      exact .loop hopen ihbody hclose ihrest

/-! ## Rendering what was moved -/

/-- The error at another position; trouble and path stay. -/
def RenderError.moved (f : Position → Position) (e : RenderError) : RenderError :=
  { e with position := f e.position }

def RenderFailure.moved (f : Position → Position) : RenderFailure → RenderFailure
  | .error e => .error (e.moved f)
  | .fault cause => .fault cause

def Rendered.moved {α : Type} (f : Position → Position) (x : Rendered α) : Rendered α :=
  x.mapError (RenderFailure.moved f)

def Visit.moved (f : Position → Position) (v : Visit) : Visit :=
  ⟨v.node.moved f, v.scope⟩

namespace Rendered

variable {α β : Type} (f : Position → Position)

theorem moved_bind (x : Rendered α) (g : α → Rendered β) :
    moved f (x >>= g) = moved f x >>= fun v => moved f (g v) := by
  cases x <;> rfl

theorem moved_map (x : Rendered α) (g : α → β) : moved f (g <$> x) = g <$> moved f x := by
  cases x <;> rfl

theorem moved_foldlM (g : β → α → Rendered β) (list : List α) (w : β) :
    moved f (list.foldlM g w) = list.foldlM (fun w v => moved f (g w v)) w := by
  induction list generalizing w with
  | nil => rfl
  | cons v list ih =>
      rw [List.foldlM_cons, List.foldlM_cons, moved_bind]
      simp only [ih]

end Rendered

namespace Node

variable (f : Position → Position)

mutual

theorem visits_moved (node : Node) (s : Scope) :
    (node.moved f).visits s = (node.visits s).map (Visit.moved f) := by
  cases node with
  | text | interpolation => rfl
  | conditional negated path body otherwise pos =>
      have hbody := visitsAll_moved body s
      have hotherwise := visitsBranch_moved otherwise s
      rw [moved, visits, hbody, hotherwise, visits, List.map_cons, ← apply_ite]
      rfl
  | loop path body pos =>
      have hbody : ∀ t, visitsAll (movedAll f body) t = (visitsAll body t).map (Visit.moved f) :=
        fun t => visitsAll_moved body t
      rw [moved, visits, visits, List.map_cons, List.map_flatMap]
      simp only [hbody]
      rfl

theorem visitsAll_moved (nodes : List Node) (s : Scope) :
    visitsAll (movedAll f nodes) s = (visitsAll nodes s).map (Visit.moved f) := by
  cases nodes with
  | nil => rfl
  | cons node rest =>
      have hnode := visits_moved node s
      have hrest := visitsAll_moved rest s
      rw [movedAll, visitsAll, hnode, hrest, visitsAll, List.map_append]

theorem visitsBranch_moved (otherwise : Option (List Node)) (s : Scope) :
    visitsBranch (movedBranch f otherwise) s = (visitsBranch otherwise s).map (Visit.moved f) := by
  cases otherwise with
  | none => rfl
  | some nodes => exact visitsAll_moved nodes s

end

end Node

namespace Renderer

open Rendered

variable {r : Renderer} (f : Position → Position)

theorem resolve_moved (s : Scope) (path : Path) : moved f (resolve s path) = resolve s path := by
  rw [resolve]
  cases s.resolve path <;> rfl

theorem applyHelper_moved (path : Path) (pos : Position) (name : String) (v : Value) :
    r.applyHelper path (f pos) name v = moved f (r.applyHelper path pos name v) := by
  unfold applyHelper
  cases r.helpers.find? name with
  | none => rfl
  | some h =>
      dsimp only
      split
      · rfl
      · split
        · rfl
        · split
          · rfl
          · split <;> rfl

theorem interpolate_moved (s : Scope) (path : Path) (helpers : List String) (pos : Position) :
    r.interpolate s path helpers (f pos) = moved f (r.interpolate s path helpers pos) := by
  rw [interpolate, interpolate, moved_bind, resolve_moved]
  congr 1
  funext found
  cases found with
  | none => cases r.mode <;> rfl
  | some v =>
      have hhelpers : (fun w name => r.applyHelper path (f pos) name w)
          = fun w name => moved f (r.applyHelper path pos name w) := by
        funext w name
        exact applyHelper_moved f path pos name w
      dsimp only
      rw [hhelpers, moved_bind, moved_foldlM]
      congr 1
      funext w
      cases w.text? <;> rfl

theorem loopScopes_moved (s : Scope) (path : Path) (pos : Position) :
    r.loopScopes s path (f pos) = moved f (r.loopScopes s path pos) := by
  rw [loopScopes, loopScopes, moved_bind, resolve_moved]
  congr 1
  funext found
  cases found.bind s.turns? with
  | some scopes => rfl
  | none =>
      dsimp only
      split <;> rfl

theorem perform_moved (v : Visit) : r.perform (v.moved f) = moved f (r.perform v) := by
  obtain ⟨node, s⟩ := v
  cases node with
  | text t pos => rfl
  | interpolation path helpers pos => exact interpolate_moved f s path helpers pos
  | conditional negated path body otherwise pos =>
      have hpath := resolve_moved f s path
      rw [Visit.moved, Node.moved, perform, perform, moved_map, hpath]
  | loop path body pos =>
      have hscopes := loopScopes_moved (r := r) f s path pos
      rw [Visit.moved, Node.moved, perform, perform, moved_map, hscopes]

theorem run_moved (visits : List Visit) :
    r.run (visits.map (Visit.moved f)) = moved f (r.run visits) := by
  induction visits with
  | nil => rfl
  | cons v rest ih =>
      rw [List.map_cons, run, run, perform_moved, ih, moved_bind]
      simp only [moved_bind]
      rfl

/-- A moved template renders to the same text, or fails in the same way at the moved position. -/
theorem renderNodes_moved (nodes : List Node) (s : Scope) :
    r.renderNodes (Node.movedAll f nodes) s = moved f (r.renderNodes nodes s) := by
  rw [renderNodes_eq_run, renderNodes_eq_run, Node.visitsAll_moved, run_moved]

end Renderer

end Scaffold
