import Scaffold.Proofs.Selection
import Scaffold.Proofs.StandardHelpers

namespace Scaffold

/-!
# The errors of a render

With the standard helpers a parsed template renders to a text, or there is
an error at one of its tags: a variable that is missing, a collection that
is expected, or a type that does not match. In lenient mode nothing is
missing.
-/

/-- The kinds of error that a render with the standard helpers may end with. -/
def RenderMode.declared : RenderMode → List RenderErrorKind
  | .strict => [.missingVariable, .collectionExpected, .typeMismatch]
  | .lenient => [.collectionExpected, .typeMismatch]

theorem RenderMode.typeMismatch_mem_declared (mode : RenderMode) :
    .typeMismatch ∈ mode.declared := by
  cases mode <;> decide

theorem RenderMode.collectionExpected_mem_declared (mode : RenderMode) :
    .collectionExpected ∈ mode.declared := by
  cases mode <;> decide

theorem Rendered.exists_of_foldlM_eq_error {α β : Type} {g : β → α → Rendered β}
    {f : RenderFailure} {list : List α} {w : β} (h : list.foldlM g w = .error f) :
    ∃ v ∈ list, ∃ u, g u v = .error f := by
  induction list generalizing w with
  | nil => cases h
  | cons v list ih =>
      rw [List.foldlM_cons] at h
      cases hstep : g w v with
      | error e =>
          rw [hstep] at h
          cases h
          exact ⟨v, List.mem_cons_self, w, hstep⟩
      | ok next =>
          rw [hstep] at h
          obtain ⟨u, hu, hfails⟩ := ih h
          exact ⟨u, List.mem_cons_of_mem v hu, hfails⟩

namespace Renderer

variable {r : Renderer}

/-- A helper that is there and takes one argument can only be refused for types. -/
theorem applyHelper_eq_error {h : Helper} {path : Path} {pos : Position} {name : String}
    {v : Value} {e : RenderError} (hfind : r.helpers.find? name = some h) (harity : h.arity = 1)
    (herror : r.applyHelper path pos name v = .error (.error e)) :
    e.kind = .typeMismatch ∧ e.path = path ∧ e.position = pos := by
  simp only [applyHelper, hfind, harity, bne_self_eq_false, Bool.false_eq_true, ↓reduceIte]
    at herror
  split at herror
  · cases herror
    exact ⟨rfl, rfl, rfl⟩
  · split at herror
    · cases herror
    · split at herror
      · cases herror
      · cases herror
        exact ⟨rfl, rfl, rfl⟩

/-- The helpers that are called are there and take one argument. -/
def Supports (r : Renderer) (helpers : List String) : Prop :=
  ∀ name ∈ helpers, ∃ h, r.helpers.find? name = some h ∧ h.arity = 1

theorem interpolate_eq_error {s : Scope} {path : Path} {helpers : List String} {pos : Position}
    {e : RenderError} (hsupports : r.Supports helpers)
    (h : r.interpolate s path helpers pos = .error (.error e)) :
    e.kind ∈ r.mode.declared ∧ e.path = path ∧ e.position = pos := by
  cases hpath : s.resolve path with
  | error f =>
      rw [interpolate_of_error hpath] at h
      cases h
  | ok found =>
      cases found with
      | none =>
          rw [interpolate_of_none hpath] at h
          cases hmode : r.mode with
          | strict =>
              rw [hmode] at h
              cases h
              exact ⟨List.mem_cons_self, rfl, rfl⟩
          | lenient =>
              rw [hmode] at h
              cases h
      | some v =>
          rw [interpolate_of_some hpath] at h
          cases hfold : helpers.reverse.foldlM (fun v name => r.applyHelper path pos name v) v with
          | error f =>
              rw [hfold] at h
              cases h
              obtain ⟨name, hname, u, hfails⟩ := Rendered.exists_of_foldlM_eq_error hfold
              obtain ⟨g, hfind, harity⟩ := hsupports name (List.mem_reverse.mp hname)
              obtain ⟨hkind, hrest⟩ := applyHelper_eq_error hfind harity hfails
              rw [hkind]
              exact ⟨r.mode.typeMismatch_mem_declared, hrest⟩
          | ok w =>
              rw [hfold] at h
              cases htext : w.text? with
              | some text =>
                  simp only [htext, bind, Except.bind] at h
                  cases h
              | none =>
                  simp only [htext, bind, Except.bind] at h
                  cases h
                  exact ⟨r.mode.typeMismatch_mem_declared, rfl, rfl⟩

theorem loopScopes_eq_error {s : Scope} {path : Path} {pos : Position} {e : RenderError}
    (h : r.loopScopes s path pos = .error (.error e)) :
    e.kind ∈ r.mode.declared ∧ e.path = path ∧ e.position = pos := by
  cases hpath : s.resolve path with
  | error f =>
      rw [loopScopes_of_error hpath] at h
      cases h
  | ok found =>
      rw [loopScopes_of_ok hpath] at h
      split at h
      · cases h
      · split at h
        · cases h
        · cases h
          exact ⟨r.mode.collectionExpected_mem_declared, rfl, rfl⟩

/-- An error at a visit is of a declared kind and names the node that is visited. -/
theorem perform_eq_error {v : Visit} {e : RenderError} (hsupports : r.Supports v.node.helpers)
    (h : r.perform v = .error (.error e)) :
    e.kind ∈ r.mode.declared ∧ v.node.path? = some e.path ∧ v.node.position = e.position := by
  obtain ⟨node, s⟩ := v
  cases node with
  | text => cases h
  | interpolation path helpers pos =>
      obtain ⟨hkind, rfl, rfl⟩ := interpolate_eq_error hsupports h
      exact ⟨hkind, rfl, rfl⟩
  | conditional negated path body otherwise pos =>
      rw [perform, Renderer.resolve] at h
      cases hpath : s.resolve path with
      | error f =>
          rw [hpath] at h
          cases h
      | ok found =>
          rw [hpath] at h
          cases h
  | loop path body pos =>
      rw [perform] at h
      cases hscopes : r.loopScopes s path pos with
      | error f =>
          rw [hscopes] at h
          cases h
          obtain ⟨hkind, rfl, rfl⟩ := loopScopes_eq_error hscopes
          exact ⟨hkind, rfl, rfl⟩
      | ok scopes =>
          rw [hscopes] at h
          cases h

end Renderer

theorem Helpers.standard_supports (mode : RenderMode) {helpers : List String}
    (h : ∀ name ∈ helpers, standard.knows name = true) :
    (Renderer.mk .standard mode).Supports helpers := by
  intro name hname
  obtain ⟨g, hg⟩ := Option.isSome_iff_exists.mp (h name hname)
  have harities : ∀ g ∈ standard.list, g.arity = 1 := by decide
  exact ⟨g, hg, harities g (List.mem_of_find?_eq_some hg)⟩

/-- A walk that comes to a list by an index of a path goes on from the item with its number. -/
theorem Value.walk_index {segment : String} (h : Path.isIndex segment.toList = true) :
    ∃ n, index? segment = .ok n ∧
      ∀ items, (Value.list items).walk [segment] = .ok items[n]? := by
  obtain ⟨n, hn⟩ := index?_of_isIndex h
  refine ⟨n, hn, fun items => ?_⟩
  rw [walk_cons _ _ _ (child?_list (isIndex_of_pathIndex h) hn items)]
  cases items[n]? <;> rfl

/-- With the standard helpers a parsed template renders to a text, or there is an error of a
declared kind at one of its tags; and every index in a path that can be read selects the item of a
list by its number. -/
theorem standard_render_declared (source : String) (nodes : List Node) (mode : RenderMode)
    (c : Context) (hparse : Node.parse Helpers.standard.knows source = .ok nodes) :
    ((∃ text, Renderer.render ⟨.standard, mode⟩ nodes c = .ok text) ∨
      ∃ e, Renderer.render ⟨.standard, mode⟩ nodes c = .error (.error e) ∧
        e.kind ∈ mode.declared ∧
        ∃ node ∈ Node.subnodesAll nodes, node.path? = some e.path ∧ node.position = e.position) ∧
    ∀ raw path, Path.parse raw = .ok path →
      ∀ segment ∈ path.rest, Path.isIndex segment.toList = true →
        ∃ n, Value.index? segment = .ok n ∧
          ∀ items, (Value.list items).walk [segment] = .ok items[n]? := by
  refine ⟨?_, fun _ _ _ _ _ hindex => Value.walk_index hindex⟩
  have hwell : Node.WellFormed Helpers.standard.knows false nodes := Node.wellFormed_of_parse hparse
  cases hrender : Renderer.render ⟨.standard, mode⟩ nodes c with
  | ok text => exact Or.inl ⟨text, rfl⟩
  | error failure =>
      cases failure with
      | fault f =>
          have hfaultless : (Renderer.render ⟨.standard, mode⟩ nodes c).Faultless :=
            Renderer.faultless_renderNodes Helpers.standard_total hwell (.root c)
          exact absurd hrender (hfaultless f)
      | error e =>
          -- the run stops at a visit, and what is visited is a node of the template
          rw [Renderer.render, Renderer.renderNodes_eq_run, Renderer.run_eq_error_iff] at hrender
          obtain ⟨before, v, hstops⟩ := hrender
          have hnode : v.node ∈ Node.subnodesAll nodes := Node.node_mem_subnodesAll hstops.mem
          have hsupports := Helpers.standard_supports mode (hwell.callable v.node hnode).helpers
          obtain ⟨hkind, hplace⟩ := Renderer.perform_eq_error hsupports hstops.fails
          exact Or.inr ⟨e, rfl, hkind, v.node, hnode, hplace⟩

/-- The item with number three, which is written in Arabic digits, in upper case. -/
def itemExample : List Node :=
  [.interpolation ⟨"xs", ["\u0663"]⟩ ["upper"] .start]

def itemContext : Context :=
  ⟨[("xs", .list [.str "a", .str "b", .str "c", .int 7])]⟩

theorem standard_render_declared_example :
    (Scope.root itemContext).resolve ⟨"xs", ["\u0663"]⟩ = .ok (some (.int 7)) ∧
    ∃ e, Renderer.render ⟨.standard, .lenient⟩ itemExample itemContext = .error (.error e) ∧
      e.kind ∈ RenderMode.lenient.declared ∧ e.position = .start := by
  have hparse : Node.parse Helpers.standard.knows "\x7b\x7bupper xs.\u0663\x7d\x7d"
      = .ok itemExample := by rfl
  obtain ⟨hdeclared, hindex⟩ :=
    standard_render_declared _ itemExample .lenient itemContext hparse
  have hpath : Path.parse "xs.\u0663".toList = .ok ⟨"xs", ["\u0663"]⟩ := by rfl
  have hdigits : Path.isIndex "\u0663".toList = true := by decide
  obtain ⟨n, hn, hwalk⟩ := hindex _ _ hpath "\u0663" List.mem_cons_self hdigits
  have hthree : n = 3 := (Except.ok.inj hn).symm
  subst hthree
  have hresolve : (Scope.root itemContext).resolve ⟨"xs", ["\u0663"]⟩ = .ok (some (.int 7)) :=
    hwalk [.str "a", .str "b", .str "c", .int 7]
  refine ⟨hresolve, ?_⟩
  rcases hdeclared with ⟨text, htext⟩ | ⟨e, herror, hkind, node, hnode, -, hposition⟩
  · rw [Renderer.render, itemExample, Renderer.renderNodes, Renderer.renderNode,
      Renderer.interpolate_of_some hresolve] at htext
    cases htext
  · obtain rfl := List.mem_singleton.mp hnode
    exact ⟨e, herror, hkind, hposition.symm⟩

end Scaffold
