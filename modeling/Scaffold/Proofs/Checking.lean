import Scaffold.Proofs.Shapes
import Scaffold.Proofs.StandardHelpers

namespace Scaffold

/-!
# Checked templates

A template is checked against the shape of the contexts it is for. A
checked template renders against every context of the shape, to a text
that does not depend on the mode, since nothing that it asks for is
absent.
-/

/-! ## Surroundings -/

/-- What is known of a scope where a node is rendered. -/
structure Surroundings where
  context : Shape
  this : Shape
  inLoop : Bool
  /-- Paths that lead to something here, because a condition around says so. -/
  present : List Path

namespace Surroundings

/-- What is known of the scope outside of all loops. -/
def root (context : Shape) : Surroundings :=
  ⟨context, context, false, []⟩

/-- What is known in a branch that is rendered only if the path leads to something. -/
def knowing (env : Surroundings) (path : Path) : Surroundings :=
  { env with present := path :: env.present }

/-- What is known in a turn of a loop. -/
def turn (env : Surroundings) (item : Shape) : Surroundings :=
  ⟨env.context, item, true, []⟩

/-- What a path leads to, conditions around left out of account. -/
def bare? (env : Surroundings) (path : Path) : Option Part :=
  if path.head = "this" then env.this.walk path.rest
  else
    match LoopVariable.ofName? path.head with
    | some .first | some .last => if env.inLoop then some ⟨true, .bool⟩ else none
    | some _ => none
    | none => env.context.walk (path.head :: path.rest)

def part? (env : Surroundings) (path : Path) : Option Part :=
  (env.bare? path).map fun part => ⟨part.always || env.present.contains path, part.shape⟩

/-- The scope is as it is known to be. -/
structure Fits (env : Surroundings) (s : Scope) : Prop where
  context : env.context.Fits s.context.value
  this : env.this.Fits s.this
  first : env.inLoop = true → ∃ b, s.bound .first = some (.bool b)
  last : env.inLoop = true → ∃ b, s.bound .last = some (.bool b)
  present : ∀ path ∈ env.present, ∃ v, s.resolve path = .ok (some v)

/-- What a path leads to in a scope is what it is said to lead to. -/
structure Leads (s : Scope) (path : Path) (part : Part) (found : Option Value) : Prop where
  resolves : s.resolve path = .ok found
  fits : ∀ v, found = some v → part.shape.Fits v
  isSome : part.always = true → found.isSome = true

theorem leads_of_bound {s : Scope} {path : Path} {v : LoopVariable} {b : Bool}
    (hthis : path.head ≠ "this") (hname : LoopVariable.ofName? path.head = some v)
    (hbound : s.bound v = some (.bool b)) : Leads s path ⟨true, .bool⟩ (some (.bool b)) where
  resolves := by
    rw [Scope.resolve, Scope.find, if_neg hthis]
    simp only [hname, hbound]
  fits w hw := by
    cases hw
    exact ⟨b, rfl⟩
  isSome _ := rfl

theorem Fits.bare? {env : Surroundings} {s : Scope} (h : env.Fits s) {path : Path} {part : Part}
    (hpart : env.bare? path = some part) : ∃ found, Leads s path part found := by
  unfold Surroundings.bare? at hpart
  by_cases hthis : path.head = "this"
  · rw [if_pos hthis] at hpart
    obtain ⟨found, hfound, hfits, hsome⟩ := h.this.walk hpart
    refine ⟨found, ?_, hfits, hsome⟩
    rw [Scope.resolve, hthis, Scope.find_this, hfound]
  · rw [if_neg hthis] at hpart
    split at hpart
    · next hname =>
        cases hloop : env.inLoop with
        | true =>
            obtain ⟨b, hb⟩ := h.first hloop
            simp only [hloop, ↓reduceIte, Option.some.injEq] at hpart
            subst hpart
            exact ⟨_, leads_of_bound hthis hname hb⟩
        | false => simp [hloop] at hpart
    · next hname =>
        cases hloop : env.inLoop with
        | true =>
            obtain ⟨b, hb⟩ := h.last hloop
            simp only [hloop, ↓reduceIte, Option.some.injEq] at hpart
            subst hpart
            exact ⟨_, leads_of_bound hthis hname hb⟩
        | false => simp [hloop] at hpart
    · cases hpart
    · next hname =>
        obtain ⟨found, hfound, hfits, hsome⟩ := h.context.walk hpart
        refine ⟨found, ?_, hfits, hsome⟩
        rw [Scope.resolve, Scope.find, if_neg hthis]
        simp only [hname]
        exact hfound

theorem Fits.part? {env : Surroundings} {s : Scope} (h : env.Fits s) {path : Path} {part : Part}
    (hpart : env.part? path = some part) : ∃ found, Leads s path part found := by
  obtain ⟨bare, hbare, rfl⟩ := Option.map_eq_some_iff.mp hpart
  obtain ⟨found, hresolves, hfits, hsome⟩ := h.bare? hbare
  refine ⟨found, hresolves, hfits, ?_⟩
  intro halways
  rcases Bool.or_eq_true_iff.mp halways with halways | hpresent
  · exact hsome halways
  · obtain ⟨v, hv⟩ := h.present path (List.contains_iff_mem.mp hpresent)
    rw [hresolves] at hv
    cases hv
    rfl

theorem Fits.knowing {env : Surroundings} {s : Scope} (h : env.Fits s) {path : Path} {v : Value}
    (hv : s.resolve path = .ok (some v)) : (env.knowing path).Fits s where
  context := h.context
  this := h.this
  first := h.first
  last := h.last
  present := List.forall_mem_cons.mpr ⟨⟨v, hv⟩, h.present⟩

theorem Fits.turn {env : Surroundings} {s : Scope} (h : env.Fits s) {item : Shape} {v : Value}
    (hv : item.Fits v) (size i : Nat) (key? : Option String) :
    (env.turn item).Fits (s.turn size i key? v) where
  context := h.context
  this := hv
  first _ := ⟨_, rfl⟩
  last _ := ⟨_, rfl⟩
  present := by simp [Surroundings.turn]

theorem fits_root {shape : Shape} {c : Context} (h : shape.Fits c.value) :
    (root shape).Fits (.root c) where
  context := h
  this := h
  first hloop := by cases hloop
  last hloop := by cases hloop
  present := by simp [root]

/-! ## The check -/

mutual

/-- Is the node one that renders in such surroundings? Interpolations may use the respelling
helpers. -/
def check (respelling : List String) (env : Surroundings) : Node → Bool
  | .text .. => true
  | .interpolation path helpers _ =>
    match env.part? path with
    | some ⟨true, .str⟩ => helpers.all respelling.contains
    | _ => false
  | .conditional negated path body otherwise _ =>
    (env.part? path).isSome
      && checkAll respelling (if negated then env else env.knowing path) body
      && checkBranch respelling (if negated then env.knowing path else env) otherwise
  | .loop path body _ =>
    match env.part? path with
    | some ⟨true, .list item⟩ => checkAll respelling (env.turn item) body
    | _ => false

def checkAll (respelling : List String) (env : Surroundings) : List Node → Bool
  | [] => true
  | node :: rest => check respelling env node && checkAll respelling env rest

def checkBranch (respelling : List String) (env : Surroundings) : Option (List Node) → Bool
  | none => true
  | some nodes => checkAll respelling env nodes

end

end Surroundings

/-! ## Results that do not depend on the mode -/

/-- In every mode there is one and the same result. -/
def Rendered.Steady {α : Type} (x : RenderMode → Rendered α) : Prop :=
  ∃ v, ∀ mode, x mode = .ok v

namespace Rendered

variable {α β : Type}

theorem steady_ok (v : α) : Steady fun _ => .ok v :=
  ⟨v, fun _ => rfl⟩

theorem Steady.bind {x : RenderMode → Rendered α} {g : RenderMode → α → Rendered β}
    (hx : Steady x) (hg : ∀ v, Steady (g · v)) : Steady fun mode => x mode >>= g mode := by
  obtain ⟨v, hv⟩ := hx
  obtain ⟨w, hw⟩ := hg v
  refine ⟨w, fun mode => ?_⟩
  change (x mode >>= g mode) = _
  rw [hv mode]
  exact hw mode

theorem Steady.map {x : RenderMode → Rendered α} (hx : Steady x) (f : α → β) :
    Steady fun mode => f <$> x mode := by
  obtain ⟨v, hv⟩ := hx
  refine ⟨f v, fun mode => ?_⟩
  change f <$> x mode = _
  rw [hv mode]
  rfl

theorem steady_mapM {g : RenderMode → α → Rendered β} {list : List α}
    (hg : ∀ v ∈ list, Steady (g · v)) : Steady fun mode => list.mapM (g mode) := by
  induction list with
  | nil => exact steady_ok []
  | cons v list ih =>
      simp only [List.mapM_cons]
      refine (hg v List.mem_cons_self).bind fun w => ?_
      refine (ih fun u hu => hg u (List.mem_cons_of_mem v hu)).bind fun ws => ?_
      exact steady_ok (w :: ws)

end Rendered

/-- The helper turns every text into a text. -/
def Helpers.Respells (hs : Helpers) (name : String) : Prop :=
  ∃ h, hs.find? name = some h ∧ h.arity = 1 ∧ h.accepts.contains .str = true ∧
    ∀ s, ∃ t, h.apply (.str s) = .ok (.str t)

namespace Renderer

open Rendered

variable {hs : Helpers} {respelling : List String}

theorem applyHelper_respells {name : String} (h : hs.Respells name) (path : Path)
    (pos : Position) (s : String) :
    ∃ t, ∀ mode, applyHelper ⟨hs, mode⟩ path pos name (.str s) = .ok (.str t) := by
  obtain ⟨h, hfind, harity, haccepts, happly⟩ := h
  obtain ⟨t, ht⟩ := happly s
  refine ⟨t, fun mode => ?_⟩
  have hvalue : h.acceptsValue (.str s) = true := haccepts
  have hdatum : h.apply (Value.str s).toDatum = .ok (.str t) := ht
  simp only [applyHelper, hfind, harity, bne_self_eq_false, hvalue, hdatum, Bool.not_true,
    Bool.false_eq_true, ↓reduceIte]
  rfl

theorem foldlM_respells {names : List String} (h : ∀ name ∈ names, hs.Respells name) (path : Path)
    (pos : Position) (s : String) :
    ∃ t, ∀ mode, names.foldlM (fun v name => applyHelper ⟨hs, mode⟩ path pos name v)
      (Value.str s) = .ok (.str t) := by
  induction names generalizing s with
  | nil => exact ⟨s, fun _ => rfl⟩
  | cons name names ih =>
      obtain ⟨t, ht⟩ := applyHelper_respells (h name List.mem_cons_self) path pos s
      obtain ⟨u, hu⟩ := ih (fun n hn => h n (List.mem_cons_of_mem name hn)) t
      refine ⟨u, fun mode => ?_⟩
      rw [List.foldlM_cons, ht mode]
      exact hu mode

theorem steady_interpolate {s : Scope} {path : Path} {text : String}
    (hpath : s.resolve path = .ok (some (.str text))) {helpers : List String}
    (h : ∀ name ∈ helpers, hs.Respells name) (pos : Position) :
    Steady fun mode => interpolate ⟨hs, mode⟩ s path helpers pos := by
  have hreverse : ∀ name ∈ helpers.reverse, hs.Respells name :=
    fun name hname => h name (List.mem_reverse.mp hname)
  obtain ⟨t, ht⟩ := foldlM_respells hreverse path pos text
  refine ⟨t, fun mode => ?_⟩
  change interpolate ⟨hs, mode⟩ s path helpers pos = _
  rw [interpolate, resolve, hpath]
  simp only [bind, Except.bind] at ht ⊢
  rw [ht mode]
  rfl

mutual

theorem steady_of_check (hknown : ∀ name ∈ respelling, hs.Respells name)
    {env : Surroundings} {s : Scope} (h : env.Fits s) {node : Node}
    (hcheck : env.check respelling node = true) :
    Steady fun mode => renderNode ⟨hs, mode⟩ node s := by
  cases node with
  | text t _ =>
      simp only [renderNode]
      exact steady_ok t
  | interpolation path helpers pos =>
      rw [Surroundings.check] at hcheck
      split at hcheck
      · next hpart =>
          obtain ⟨found, hfound⟩ := h.part? hpart
          obtain ⟨v, rfl⟩ := Option.isSome_iff_exists.mp (hfound.isSome rfl)
          obtain ⟨text, rfl⟩ := hfound.fits v rfl
          simp only [renderNode]
          refine steady_interpolate hfound.resolves ?_ pos
          intro name hname
          exact hknown name (List.contains_iff_mem.mp (List.all_eq_true.mp hcheck name hname))
      · cases hcheck
  | conditional negated path body otherwise pos =>
      simp only [Surroundings.check, Bool.and_eq_true] at hcheck
      obtain ⟨⟨hpart, hbody⟩, hotherwise⟩ := hcheck
      obtain ⟨part, hpart⟩ := Option.isSome_iff_exists.mp hpart
      obtain ⟨found, hfound⟩ := h.part? hpart
      simp only [renderNode_conditional hfound.resolves]
      -- what a path leads to is known in the branch for a condition that holds
      cases htruthy : isTruthyAt found with
      | true =>
          obtain ⟨v, rfl⟩ : ∃ v, found = some v := by
            cases found with
            | some v => exact ⟨v, rfl⟩
            | none => cases htruthy
          have hknowing := h.knowing hfound.resolves
          cases negated with
          | true => exact steady_of_checkBranch hknown hknowing hotherwise
          | false => exact steady_of_checkAll hknown hknowing hbody
      | false =>
          cases negated with
          | true => exact steady_of_checkAll hknown h hbody
          | false => exact steady_of_checkBranch hknown h hotherwise
  | loop path body pos =>
      rw [Surroundings.check] at hcheck
      split at hcheck
      · next item hpart =>
          obtain ⟨found, hfound⟩ := h.part? hpart
          obtain ⟨v, rfl⟩ := Option.isSome_iff_exists.mp (hfound.isSome rfl)
          obtain ⟨items, rfl, hitems⟩ := hfound.fits v rfl
          simp only [renderNode_loop hfound.resolves rfl]
          refine Steady.map (steady_mapM ?_) String.join
          intro turn hturn
          obtain ⟨i, hi, rfl⟩ := List.mem_mapIdx.mp hturn
          have hitem := h.turn (hitems _ (List.getElem_mem hi)) items.length i none
          exact steady_of_checkAll hknown hitem hcheck
      · cases hcheck

theorem steady_of_checkAll (hknown : ∀ name ∈ respelling, hs.Respells name)
    {env : Surroundings} {s : Scope} (h : env.Fits s) {nodes : List Node}
    (hcheck : env.checkAll respelling nodes = true) :
    Steady fun mode => renderNodes ⟨hs, mode⟩ nodes s := by
  cases nodes with
  | nil =>
      simp only [renderNodes]
      exact steady_ok ""
  | cons node rest =>
      rw [Surroundings.checkAll, Bool.and_eq_true] at hcheck
      simp only [renderNodes]
      refine (steady_of_check hknown h hcheck.1).bind fun t => ?_
      refine (steady_of_checkAll hknown h hcheck.2).bind fun u => ?_
      exact steady_ok (t ++ u)

theorem steady_of_checkBranch (hknown : ∀ name ∈ respelling, hs.Respells name)
    {env : Surroundings} {s : Scope} (h : env.Fits s)
    {otherwise : Option (List Node)} (hcheck : env.checkBranch respelling otherwise = true) :
    Steady fun mode => renderBranch ⟨hs, mode⟩ otherwise s := by
  cases otherwise with
  | none =>
      simp only [renderBranch]
      exact steady_ok ""
  | some nodes =>
      rw [Surroundings.checkBranch] at hcheck
      simp only [renderBranch]
      exact steady_of_checkAll hknown h hcheck

end

/-- A checked template renders against every context of the shape, in both modes alike. -/
theorem steady_render (hknown : ∀ name ∈ respelling, hs.Respells name)
    {shape : Shape} {c : Context} (h : shape.Fits c.value) {nodes : List Node}
    (hcheck : (Surroundings.root shape).checkAll respelling nodes = true) :
    Steady fun mode => render ⟨hs, mode⟩ nodes c :=
  steady_of_checkAll hknown (Surroundings.fits_root h) hcheck

end Renderer

end Scaffold
