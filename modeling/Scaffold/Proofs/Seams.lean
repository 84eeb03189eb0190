import Scaffold.Template.Parse

namespace Scaffold

/-!
# Text that meets text

Where two texts of one list meet they become one, at the position of the
first. `joined` does this at every depth of a template. The parser joins
from the left, one token at a time; `behind` says where it is after many.
-/

namespace Node

/-- A node in front of nodes. -/
def glue : Node → List Node → List Node
  | .text s pos, .text t _ :: rest => .text (s ++ t) pos :: rest
  | node, rest => node :: rest

/-- Nodes in front of nodes. -/
def seam : List Node → List Node → List Node
  | [], after => after
  | [node], after => glue node after
  | node :: next :: rest, after => node :: seam (next :: rest) after

mutual

/-- A node in which no two texts meet. -/
def joined : Node → Node
  | .text s pos => .text s pos
  | .interpolation path helpers pos => .interpolation path helpers pos
  | .conditional negated path body otherwise pos =>
    .conditional negated path (joinedAll body) (joinedBranch otherwise) pos
  | .loop path body pos => .loop path (joinedAll body) pos

/-- Nodes of which no two texts meet, at any depth. -/
def joinedAll : List Node → List Node
  | [] => []
  | node :: rest => glue (joined node) (joinedAll rest)

/-- A second branch in which no two texts meet. -/
def joinedBranch : Option (List Node) → Option (List Node)
  | none => none
  | some nodes => some (joinedAll nodes)

end

/-- Is the node something other than text? -/
def IsTag : Node → Prop
  | .text .. => False
  | _ => True

theorem glue_of_isTag {node : Node} (h : node.IsTag) (rest : List Node) :
    glue node rest = node :: rest := by
  cases node with
  | text => exact h.elim
  | interpolation | conditional | loop => rfl

@[simp] theorem glue_nil (node : Node) : glue node [] = [node] := by
  cases node <;> rfl

@[simp] theorem seam_nil_left (after : List Node) : seam [] after = after := rfl

@[simp] theorem seam_nil_right (before : List Node) : seam before [] = before := by
  induction before with
  | nil => rfl
  | cons node rest ih =>
      cases rest with
      | nil => exact glue_nil node
      | cons next rest => rw [seam, ih]

/-- Text runs into the text behind it, from either side. -/
theorem glue_seam_singleton (first second : Node) (after : List Node) :
    seam (glue first [second]) after = glue first (glue second after) := by
  cases first with
  | text s pos =>
      cases second with
      | text t q =>
          cases after with
          | nil => rfl
          | cons node rest =>
              cases node with
              | text u r => simp [glue, seam, String.append_assoc]
              | interpolation | conditional | loop => rfl
      | interpolation | conditional | loop => rfl
  | interpolation | conditional | loop => rfl

theorem glue_eq_cons (node : Node) (after : List Node) :
    ∃ first rest, glue node after = first :: rest := by
  unfold glue
  split <;> exact ⟨_, _, rfl⟩

theorem seam_append_cons (front : List Node) (node : Node) (rest after : List Node) :
    seam (front ++ node :: rest) after = front ++ seam (node :: rest) after := by
  induction front with
  | nil => rfl
  | cons first front ih =>
      cases front with
      | nil => rfl
      | cons next front => exact congrArg (first :: ·) ih

theorem seam_concat (before : List Node) (node : Node) (after : List Node) :
    seam (seam before [node]) after = seam before (glue node after) := by
  rcases List.eq_nil_or_concat before with rfl | ⟨front, last, rfl⟩
  · rfl
  · obtain ⟨first, rest, hglue⟩ := glue_eq_cons last [node]
    have hlast : seam [last] [node] = first :: rest := hglue
    rw [List.concat_eq_append, seam_append_cons, seam_append_cons, hlast, seam_append_cons,
      ← hglue, glue_seam_singleton]
    rfl

theorem seam_isTag (before : List Node) {node : Node} (h : node.IsTag) :
    seam before [node] = before ++ [node] := by
  rcases List.eq_nil_or_concat before with rfl | ⟨front, last, rfl⟩
  · rfl
  · rw [List.concat_eq_append, seam_append_cons, List.append_assoc]
    cases node with
    | text => exact h.elim
    | interpolation | conditional | loop => cases last <;> rfl

end Node

namespace Place

/-- The place behind nodes. -/
def behind (p : Place) (nodes : List Node) : Place :=
  { p with nodes := (Node.seam p.nodes.reverse nodes).reverse }

@[simp] theorem behind_nil (p : Place) : p.behind [] = p := by
  simp [behind]

@[simp] theorem behind_frames (p : Place) (nodes : List Node) :
    (p.behind nodes).frames = p.frames := rfl

theorem behind_glue (p : Place) (node : Node) (nodes : List Node) :
    (p.behind [node]).behind nodes = p.behind (Node.glue node nodes) := by
  simp [behind, Node.seam_concat]

theorem behind_of_isTag (p : Place) {node : Node} (h : node.IsTag) :
    p.behind [node] = { p with nodes := node :: p.nodes } := by
  simp [behind, Node.seam_isTag _ h]

theorem behind_text (p : Place) (s : String) (pos : Position) :
    p.behind [.text s pos] = p.addText s pos := by
  obtain ⟨frames, nodes⟩ := p
  cases nodes with
  | nil => rfl
  | cons last rest =>
      simp only [behind, List.reverse_cons, Node.seam_append_cons]
      cases last <;> simp [Node.seam, Node.glue, addText]

/-- From the place where a block begins, or a template. -/
theorem behind_fresh (frames : List Frame) (nodes : List Node) :
    Place.behind ⟨frames, []⟩ nodes = ⟨frames, nodes.reverse⟩ := rfl

end Place

end Scaffold
