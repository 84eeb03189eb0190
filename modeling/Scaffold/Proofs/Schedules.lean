import Mathlib.Algebra.GroupWithZero.Nat
import Mathlib.Logic.Function.Basic
import Scaffold.Proofs.Assembling

namespace Scaffold

/-!
# Concurrent runs under every schedule

In a concurrent run every entry is a job. A free worker takes a job and works
on its task, step by step and in any order with the others. Tasks meet only
in the nodes of templates: a template that entries share is parsed by the
tasks that need it first, and its nodes stay in a cache. A cache never holds
anything but what its template parses to, so every task has the outcome that
its entry has alone. Each job keeps its place in the set, so what is
collected does not depend on which job is done first. A strike ends the run
at any moment before that.
-/

/-! ## Entries that share templates -/

/-- An entry by the cells of its templates. -/
structure SharedEntry (Cell : Type) where
  identifier : String
  path : Cell
  body : Cell

/-- A template set in which entries with one cell share its template. -/
structure SharedSet (Cell : Type) where
  template : Cell → Template
  entries : List (SharedEntry Cell)

/-- The nodes of the templates that are parsed. -/
abbrev NodeCache (Cell : Type) := Cell → Option (List Node)

namespace SharedSet

variable {Cell : Type}

def parse (s : SharedSet Cell) (cell : Cell) : Except ParseError (List Node) :=
  (s.template cell).parse

def entry (s : SharedSet Cell) (e : SharedEntry Cell) : TemplateEntry :=
  ⟨e.identifier, s.template e.path, s.template e.body⟩

def toSet (s : SharedSet Cell) : TemplateSet :=
  ⟨s.entries.map s.entry⟩

/-- Every template set is one in which each template has its own cell. -/
theorem exists_toSet (set : TemplateSet) :
    ∃ s : SharedSet (Fin set.entries.length × TemplatePart), s.toSet = set := by
  let template : Fin set.entries.length × TemplatePart → Template
    | (i, .path) => set.entries[i].path
    | (i, .body) => set.entries[i].body
  refine ⟨⟨template, List.ofFn fun i => ⟨set.entries[i].identifier, (i, .path), (i, .body)⟩⟩, ?_⟩
  have hentries : set.entries = List.ofFn fun i : Fin set.entries.length => set.entries[i] :=
    List.ofFn_getElem.symm
  rw [toSet, List.map_ofFn]
  exact congrArg TemplateSet.mk hentries.symm

/-- The cache holds what the templates parse to. -/
def Holds (s : SharedSet Cell) (cache : NodeCache Cell) : Prop :=
  ∀ cell nodes, cache cell = some nodes → s.parse cell = .ok nodes

end SharedSet

namespace Run

/-! ## Tasks -/

/-- What a worker does for an entry: it reads the nodes of templates until it is done. A task that
has parsed a template stores the nodes before it goes on with them. -/
inductive Task (Cell : Type)
  | done (o : Except Fault Outcome)
  | read (cell : Cell) (next : Except ParseError (List Node) → Task Cell)
  | store (cell : Cell) (nodes : List Node) (next : Task Cell)

namespace Task

variable {Cell : Type}

/-- One step of a task. Nodes that are not in the cache are parsed; what does not parse leaves
nothing in the cache. -/
def step [DecidableEq Cell] (s : SharedSet Cell) (cache : NodeCache Cell) :
    Task Cell → NodeCache Cell × Task Cell
  | .done o => (cache, .done o)
  | .read cell next =>
    match cache cell with
    | some nodes => (cache, next (.ok nodes))
    | none =>
      match s.parse cell with
      | .ok nodes => (cache, .store cell nodes (next (.ok nodes)))
      | .error e => (cache, next (.error e))
  | .store cell nodes next => (Function.update cache cell (some nodes), next)

/-- The outcome of a task that is alone. -/
def outcome (s : SharedSet Cell) : Task Cell → Except Fault Outcome
  | .done o => o
  | .read cell next => (next (s.parse cell)).outcome s
  | .store _ _ next => next.outcome s

/-- The task stores only what templates parse to. -/
def Honest (s : SharedSet Cell) : Task Cell → Prop
  | .done _ => True
  | .read cell next => (next (s.parse cell)).Honest s
  | .store cell nodes next => s.parse cell = .ok nodes ∧ next.Honest s

/-- The number of steps that a task takes if nothing is in the cache. -/
def cost (s : SharedSet Cell) : Task Cell → Nat
  | .done _ => 0
  | .read cell next => (next (s.parse cell)).cost s + 2
  | .store _ _ next => next.cost s + 1

/-- Whatever is in the cache, a step keeps the outcome of the task and what the cache holds. -/
theorem step_spec [DecidableEq Cell] {s : SharedSet Cell} {cache : NodeCache Cell} {t : Task Cell}
    (hcache : s.Holds cache) (ht : t.Honest s) :
    s.Holds (t.step s cache).1 ∧ (t.step s cache).2.Honest s ∧
      (t.step s cache).2.outcome s = t.outcome s := by
  cases t with
  | done o => exact ⟨hcache, trivial, rfl⟩
  | read cell next =>
      rw [Honest] at ht
      rw [step, outcome]
      cases hcell : cache cell with
      | some nodes =>
          have hparse := hcache cell nodes hcell
          rw [hparse] at ht ⊢
          exact ⟨hcache, ht, rfl⟩
      | none =>
          cases hparse : s.parse cell with
          | ok nodes =>
              rw [hparse] at ht
              exact ⟨hcache, ⟨hparse, ht⟩, rfl⟩
          | error e =>
              rw [hparse] at ht
              exact ⟨hcache, ht, rfl⟩
  | store cell nodes next =>
      refine ⟨fun other stored (hother : Function.update cache cell (some nodes) other = _) => ?_,
        ht.2, rfl⟩
      by_cases hsame : other = cell
      · subst hsame
        rw [Function.update_self] at hother
        cases hother
        exact ht.1
      · rw [Function.update_of_ne hsame] at hother
        exact hcache other stored hother

theorem cost_step_lt [DecidableEq Cell] {s : SharedSet Cell} {cache : NodeCache Cell}
    {t : Task Cell} (hcache : s.Holds cache) (hopen : ∀ o, t ≠ .done o) :
    (t.step s cache).2.cost s < t.cost s := by
  cases t with
  | done o => exact absurd rfl (hopen o)
  | read cell next =>
      rw [step, cost]
      cases hcell : cache cell with
      | some nodes =>
          rw [hcache cell nodes hcell]
          exact Nat.lt_add_of_pos_right (by decide)
      | none =>
          cases s.parse cell with
          | ok nodes => exact Nat.lt_succ_self _
          | error e => exact Nat.lt_add_of_pos_right (by decide)
  | store cell nodes next => exact Nat.lt_succ_self _

/-- What a task comes to: it is honest, does not take more than so many steps, and has this
outcome. -/
structure Does (s : SharedSet Cell) (t : Task Cell) (steps : Nat) (o : Except Fault Outcome) :
    Prop where
  honest : t.Honest s
  cost_le : t.cost s ≤ steps
  outcome_eq : t.outcome s = o

theorem Does.done {s : SharedSet Cell} (steps : Nat) (o : Except Fault Outcome) :
    Does s (.done o) steps o :=
  ⟨trivial, Nat.zero_le _, rfl⟩

theorem Does.read {s : SharedSet Cell} {cell : Cell}
    {next : Except ParseError (List Node) → Task Cell} {steps : Nat} {o : Except Fault Outcome}
    (h : Does s (next (s.parse cell)) steps o) : Does s (.read cell next) (steps + 2) o :=
  ⟨h.honest, Nat.add_le_add_right h.cost_le 2, h.outcome_eq⟩

end Task

end Run

namespace Assembler

variable {Cell : Type} (a : Assembler) (c : Context) (s : SharedSet Cell)

/-- Renders the body of an entry for a file. -/
def bodyTask (e : SharedEntry Cell) (path : String) : Run.Task Cell :=
  .read e.body fun
    | .error err => .done (.ok (.failed [.ofParseError e.identifier .body err]))
    | .ok nodes =>
      match (a.renderer (s.template e.body)).render nodes c with
      | .error (.fault f) => .done (.error f)
      | .error (.error err) => .done (.ok (.failed [.ofRenderError e.identifier .body err]))
      | .ok content => .done (.ok (.file ⟨path, content⟩))

/-- Renders the path of an entry and goes on to the body if the path is one for a file. -/
def pathTask (e : SharedEntry Cell) : Run.Task Cell :=
  .read e.path fun
    | .error err => .done (.ok (.failed [.ofParseError e.identifier .path err]))
    | .ok nodes =>
      match (a.renderer (s.template e.path)).render nodes c with
      | .error (.fault f) => .done (.error f)
      | .error (.error err) => .done (.ok (.failed [.ofRenderError e.identifier .path err]))
      | .ok rendered =>
        let path := a.trimPath rendered
        if path.isEmpty then .done (.ok .skipped)
        else
          match OutputPath.validate path with
          | .error err => .done (.ok (.failed [.ofUnsafePath e.identifier err]))
          | .ok () => a.bodyTask c s e path

/-- The task for an entry. Both templates are read to see whether they parse, and each is read
again where it is rendered. -/
def task (e : SharedEntry Cell) : Run.Task Cell :=
  .read e.path fun path => .read e.body fun body =>
    match path, body with
    | .ok _, .ok _ => a.pathTask c s e
    | path, body =>
      .done (.ok (.failed (parseFailures e.identifier .path path
        ++ parseFailures e.identifier .body body)))

variable {a c s}

/-- A task that is alone does for its entry what a sequential run does. -/
theorem task_does (e : SharedEntry Cell) :
    (a.task c s e).Does s 8 (a.process c (s.entry e)) := by
  have hpath : (s.entry e).path.parse = s.parse e.path := rfl
  have hbody : (s.entry e).body.parse = s.parse e.body := rfl
  have hpathRenderer : a.renderer (s.entry e).path = a.renderer (s.template e.path) := rfl
  have hbodyRenderer : a.renderer (s.entry e).body = a.renderer (s.template e.body) := rfl
  -- the two reads of the check; those in front of rendering find the same nodes again
  refine .read (.read ?_)
  rw [process, hpath, hbody]
  cases hparsePath : s.parse e.path with
  | error err => exact .done _ _
  | ok pathNodes =>
      cases hparseBody : s.parse e.body with
      | error err => exact .done _ _
      | ok bodyNodes =>
          dsimp only
          rw [processParsed, hpathRenderer, hbodyRenderer, pathTask]
          refine .read ?_
          rw [hparsePath]
          dsimp only
          cases (a.renderer (s.template e.path)).render pathNodes c with
          | error failure => cases failure <;> exact .done _ _
          | ok rendered =>
              dsimp only
              by_cases hempty : (a.trimPath rendered).isEmpty = true
              · rw [if_pos hempty, if_pos hempty]
                exact .done _ _
              · rw [if_neg hempty, if_neg hempty]
                cases OutputPath.validate (a.trimPath rendered) with
                | error err => exact .done _ _
                | ok _ =>
                    refine .read ?_
                    rw [hparseBody]
                    dsimp only
                    cases (a.renderer (s.template e.body)).render bodyNodes c with
                    | error failure => cases failure <;> exact .done _ _
                    | ok content => exact .done _ _

end Assembler

namespace Run

/-! ## States and steps of a run -/

variable {Cell : Type}

/-- An entry and the task for it, once a worker has taken it. -/
structure Job (Cell : Type) where
  entry : SharedEntry Cell
  task : Option (Task Cell)

namespace Job

def outcome? (j : Job Cell) : Option (Except Fault Outcome) :=
  match j.task with
  | some (.done o) => some o
  | _ => none

/-- Is a worker at the job? -/
def isBusy (j : Job Cell) : Bool :=
  j.task.isSome && j.outcome?.isNone

end Job

structure State (Cell : Type) where
  cache : NodeCache Cell
  jobs : List (Job Cell)
  /-- How the run has ended. -/
  ending : Option (Except RunFailure FileSet)

/-- What happens in a step of a run. -/
inductive Event
  /-- A worker takes a job or goes on with its task. -/
  | work
  /-- The time is up, or the run is cancelled. -/
  | strike (i : Interruption)
  /-- The fault of a job ends the run. -/
  | escape (f : Fault)
  /-- All jobs are done, and their outcomes are collected. -/
  | complete
  deriving DecidableEq

/-- What can strike the run. -/
def CanStrike (r : Run) : Interruption → Prop
  | .timeout limit => r.limit = some limit
  | .cancelled => True
  | .stopped _ => False

/-- A run without any time is over before a job can be done. -/
def HasTime (r : Run) : Prop :=
  ∀ limit ∈ r.limit, limit.isPositive = true

/-- One step of a run. Workers go on with the tasks that they have after a run has ended, but take
no new ones. -/
inductive Step [DecidableEq Cell] (r : Run) (a : Assembler) (c : Context) (s : SharedSet Cell) :
    State Cell → Event → State Cell → Prop
  | take {cache : NodeCache Cell} {before after : List (Job Cell)} {e : SharedEntry Cell}
      (hfree : ∀ workers ∈ r.workers,
        ((before ++ ⟨e, none⟩ :: after).countP Job.isBusy : Int) < workers) :
      Step r a c s ⟨cache, before ++ ⟨e, none⟩ :: after, none⟩ .work
        ⟨cache, before ++ ⟨e, some (a.task c s e)⟩ :: after, none⟩
  | work {cache : NodeCache Cell} {before after : List (Job Cell)} {e : SharedEntry Cell}
      {t : Task Cell} {ending : Option (Except RunFailure FileSet)}
      (hbusy : (Job.mk e (some t)).isBusy = true) :
      Step r a c s ⟨cache, before ++ ⟨e, some t⟩ :: after, ending⟩ .work
        ⟨(t.step s cache).1, before ++ ⟨e, some (t.step s cache).2⟩ :: after, ending⟩
  | strike {cache : NodeCache Cell} {jobs : List (Job Cell)} {i : Interruption} (hjobs : jobs ≠ [])
      (hstrike : r.CanStrike i) :
      Step r a c s ⟨cache, jobs, none⟩ (.strike i) ⟨cache, jobs, some (.error (.interrupted i))⟩
  | escape {cache : NodeCache Cell} {jobs : List (Job Cell)} {j : Job Cell} {f : Fault}
      (htime : r.HasTime) (hj : j ∈ jobs) (hfault : j.outcome? = some (.error f)) :
      Step r a c s ⟨cache, jobs, none⟩ (.escape f)
        ⟨cache, jobs, some (.error (.assembly (.fault f)))⟩
  | complete {cache : NodeCache Cell} {jobs : List (Job Cell)} {outcomes : List Outcome}
      (htime : jobs = [] ∨ r.HasTime)
      (hdone : List.Forall₂ (fun j o => j.outcome? = some (.ok o)) jobs outcomes) :
      Step r a c s ⟨cache, jobs, none⟩ .complete ⟨cache, jobs, some
        ((Assembler.collect (s.toSet.entries.zip outcomes)).mapError (.assembly ∘ .report))⟩

/-- A run begins with a cache from earlier runs, or does not begin without a worker. -/
def begin (r : Run) (s : SharedSet Cell) (cache : NodeCache Cell) : State Cell where
  cache := cache
  jobs := s.entries.map fun e => ⟨e, none⟩
  ending := if r.workers.all (0 < ·) then none else some (.error .noWorkers)

/-- The run can be in this state after these events. -/
inductive Reaches [DecidableEq Cell] (r : Run) (a : Assembler) (c : Context) (s : SharedSet Cell) :
    List Event → State Cell → Prop
  | nil {cache : NodeCache Cell} (hcache : s.Holds cache) :
      Reaches r a c s [] (r.begin s cache)
  | concat {events : List Event} {st st' : State Cell} {event : Event}
      (hbefore : Reaches r a c s events st) (hstep : r.Step a c s st event st') :
      Reaches r a c s (events ++ [event]) st'

variable {r : Run} {a : Assembler} {c : Context} {s : SharedSet Cell}
variable {events : List Event} {event : Event} {st st' : State Cell}

/-! ## What a run comes to -/

/-- How an event ends a run, if it does. -/
def endingOf (a : Assembler) (c : Context) (s : SharedSet Cell) :
    Event → Option (Except RunFailure FileSet)
  | .work => none
  | .strike i => some (.error (.interrupted i))
  | .escape f => some (.error (.assembly (.fault f)))
  | .complete => some ((a.assemble s.toSet c).mapError .assembly)

theorem assemble_of_mapM {set : TemplateSet} {outcomes : List Outcome}
    (h : set.entries.mapM (a.process c) = .ok outcomes) :
    a.assemble set c = (Assembler.collect (set.entries.zip outcomes)).mapError .report := by
  rw [Assembler.assemble, h]
  dsimp only
  cases Assembler.collect (set.entries.zip outcomes) with
  | ok files => rfl
  | error report => rfl

theorem mapError_mapError {ε ε' ε'' α : Type} (x : Except ε α) (g : ε → ε') (k : ε' → ε'') :
    (x.mapError g).mapError k = x.mapError (k ∘ g) := by
  cases x with
  | ok v => rfl
  | error e => rfl

theorem assemble_of_error {set : TemplateSet} {f : Fault}
    (h : set.entries.mapM (a.process c) = .error f) : a.assemble set c = .error (.fault f) := by
  rw [Assembler.assemble, h]

theorem assemble_faults {set : TemplateSet} {e : TemplateEntry} (he : e ∈ set.entries) {f : Fault}
    (hfault : a.process c e = .error f) : ∃ g, a.assemble set c = .error (.fault g) := by
  cases hall : set.entries.mapM (a.process c) with
  | ok outcomes =>
      obtain ⟨o, ho⟩ := exists_of_mapM_eq_ok hall he
      rw [hfault] at ho
      cases ho
  | error g => exact ⟨g, assemble_of_error hall⟩

/-- The steps that are left of a job: one to take it, and those of its task. -/
def Job.cost (s : SharedSet Cell) (j : Job Cell) : Nat :=
  match j.task with
  | none => 9
  | some t => t.cost s

/-- The steps that are left of a run: those of its jobs, and one to end it. -/
def State.cost (s : SharedSet Cell) (st : State Cell) : Nat :=
  (st.jobs.map (Job.cost s)).sum + st.ending.isNone.toNat

theorem State.cost_replace_lt {cache cache' : NodeCache Cell} {before after : List (Job Cell)}
    {j j' : Job Cell} {ending : Option (Except RunFailure FileSet)} (h : j'.cost s < j.cost s) :
    State.cost s ⟨cache', before ++ j' :: after, ending⟩ <
      State.cost s ⟨cache, before ++ j :: after, ending⟩ := by
  simp only [State.cost, List.map_append, List.map_cons, List.sum_append, List.sum_cons]
  omega

/-! ## What every step keeps -/

/-- The task of a job comes to what its entry comes to alone. -/
def Job.Keeps (a : Assembler) (c : Context) (s : SharedSet Cell) (j : Job Cell) : Prop :=
  ∀ t ∈ j.task, t.Honest s ∧ t.outcome s = a.process c (s.entry j.entry)

theorem Job.Keeps.process_eq {j : Job Cell} (h : j.Keeps a c s) {o : Except Fault Outcome}
    (ho : j.outcome? = some o) : a.process c (s.entry j.entry) = o := by
  unfold Job.outcome? at ho
  split at ho
  · next o' htask =>
      cases ho
      exact (h _ htask).2.symm
  · cases ho

structure State.Keeps (a : Assembler) (c : Context) (s : SharedSet Cell) (st : State Cell) :
    Prop where
  cache : s.Holds st.cache
  entries : st.jobs.map (·.entry) = s.entries
  jobs : ∀ j ∈ st.jobs, j.Keeps a c s

theorem keeps_begin {cache : NodeCache Cell} (hcache : s.Holds cache) :
    (r.begin s cache).Keeps a c s where
  cache := hcache
  entries := by
    rw [begin, List.map_map]
    exact List.map_id _
  jobs := List.forall_mem_map.mpr fun e _ t ht => nomatch ht

/-- What holds after a job has got another task. -/
theorem State.Keeps.replace {cache cache' : NodeCache Cell} {before after : List (Job Cell)}
    {e : SharedEntry Cell} {task task' : Option (Task Cell)}
    {ending ending' : Option (Except RunFailure FileSet)}
    (h : State.Keeps a c s ⟨cache, before ++ ⟨e, task⟩ :: after, ending⟩) (hcache : s.Holds cache')
    (hjob : Job.Keeps a c s ⟨e, task'⟩) :
    State.Keeps a c s ⟨cache', before ++ ⟨e, task'⟩ :: after, ending'⟩ := by
  obtain ⟨hbefore, hrest⟩ := List.forall_mem_append.mp h.jobs
  refine ⟨hcache, ?_, List.forall_mem_append.mpr ⟨hbefore, ?_⟩⟩
  · have hentries := h.entries
    rw [List.map_append, List.map_cons] at hentries ⊢
    exact hentries
  · exact List.forall_mem_cons.mpr ⟨hjob, (List.forall_mem_cons.mp hrest).2⟩

theorem jobs_eq_nil_iff (h : st.Keeps a c s) : st.jobs = [] ↔ s.entries = [] := by
  rw [← h.entries, List.map_eq_nil_iff]

/-- Outcomes of all jobs are those of a sequential run, in the order of the set. -/
theorem State.Keeps.mapM_eq (h : st.Keeps a c s) {outcomes : List Outcome}
    (hdone : List.Forall₂ (fun j o => j.outcome? = some (.ok o)) st.jobs outcomes) :
    s.toSet.entries.mapM (a.process c) = .ok outcomes := by
  have hboth := (List.forall₂_and_left (p := fun j => j.Keeps a c s) _ _).mpr ⟨h.jobs, hdone⟩
  rw [mapM_eq_ok_iff, SharedSet.toSet, ← h.entries, List.map_map, List.forall₂_map_left_iff]
  exact hboth.imp fun j o hj => hj.1.process_eq hj.2

variable [DecidableEq Cell]

theorem State.Keeps.step (h : st.Keeps a c s) (hstep : r.Step a c s st event st') :
    st'.Keeps a c s := by
  cases hstep with
  | take hfree =>
      refine h.replace h.cache fun t ht => ?_
      cases ht
      exact ⟨(a.task_does _).honest, (a.task_does _).outcome_eq⟩
  | @work cache before after e t ending hbusy =>
      have hjob : Job.Keeps a c s ⟨e, some t⟩ :=
        h.jobs _ (List.mem_append_right _ List.mem_cons_self)
      obtain ⟨hhonest, houtcome⟩ := hjob t rfl
      obtain ⟨hcache, hhonest', houtcome'⟩ := Task.step_spec h.cache hhonest
      refine h.replace hcache fun t' ht' => ?_
      cases ht'
      exact ⟨hhonest', houtcome'.trans houtcome⟩
  | strike hjobs hstrike => exact ⟨h.cache, h.entries, h.jobs⟩
  | escape htime hj hfault => exact ⟨h.cache, h.entries, h.jobs⟩
  | complete htime hdone => exact ⟨h.cache, h.entries, h.jobs⟩

theorem Reaches.keeps (h : r.Reaches a c s events st) : st.Keeps a c s := by
  induction h with
  | nil hcache => exact keeps_begin hcache
  | concat hbefore hstep ih => exact ih.step hstep

/-! ## No schedule goes on forever -/

theorem Step.cost_lt (h : st.Keeps a c s) (hstep : r.Step a c s st event st') :
    st'.cost s < st.cost s := by
  cases hstep with
  | take hfree => exact State.cost_replace_lt (Nat.lt_succ_of_le (a.task_does _).cost_le)
  | @work cache before after e t ending hbusy =>
      refine State.cost_replace_lt (Task.cost_step_lt h.cache fun o ho => ?_)
      subst ho
      cases hbusy
  | strike | escape | complete => exact Nat.lt_succ_self _

theorem Reaches.length_add_cost_le (h : r.Reaches a c s events st) :
    events.length + st.cost s ≤ 9 * s.entries.length + 1 := by
  induction h with
  | nil hcache =>
      have hjobs : ((s.entries.map fun e => Job.mk e none).map (Job.cost s)).sum
          = 9 * s.entries.length := by
        have hcost : Job.cost s ∘ (fun e => Job.mk e none) = fun _ => 9 := rfl
        rw [List.map_map, hcost, List.map_const', List.sum_replicate_nat, Nat.mul_comm]
      rw [List.length_nil, Nat.zero_add, State.cost, begin, hjobs]
      exact Nat.add_le_add_left (Bool.toNat_le _) _
  | concat hbefore hstep ih =>
      have hlt := hstep.cost_lt hbefore.keeps
      rw [List.length_append, List.length_singleton]
      omega

/-! ## How a run ends -/

theorem Step.ending_cases (h : st.Keeps a c s) (hstep : r.Step a c s st event st') :
    event = .work ∧ st'.ending = st.ending ∨
      event ≠ .work ∧ st.ending = none ∧ st'.ending = endingOf a c s event := by
  cases hstep with
  | take | work => exact .inl ⟨rfl, rfl⟩
  | strike | escape => exact .inr ⟨nofun, rfl, rfl⟩
  | complete htime hdone =>
      refine .inr ⟨nofun, rfl, ?_⟩
      rw [endingOf, assemble_of_mapM (h.mapM_eq hdone), mapError_mapError]

/-- An event that ends the run says how it has ended from then on. -/
theorem Reaches.ending_eq (h : r.Reaches a c s events st) (hevent : event ∈ events)
    {result : Except RunFailure FileSet} (hends : endingOf a c s event = some result) :
    st.ending = some result := by
  induction h with
  | nil => cases hevent
  | concat hbefore hstep ih =>
      rcases hstep.ending_cases hbefore.keeps with ⟨rfl, hsame⟩ | ⟨-, hnone, hnow⟩
      · rcases List.mem_append.mp hevent with hevent | hevent
        · exact hsame.trans (ih hevent)
        · cases List.mem_singleton.mp hevent
          cases hends
      · rcases List.mem_append.mp hevent with hevent | hevent
        · rw [ih hevent] at hnone
          cases hnone
        · cases List.mem_singleton.mp hevent
          exact hnow.trans hends

/-- A run that is complete has the files or the report of a sequential run. -/
theorem Reaches.exists_result (h : r.Reaches a c s events st) (hcomplete : .complete ∈ events) :
    ∃ result : Except Report FileSet, a.assemble s.toSet c = result.mapError .report ∧
      st.ending = some (result.mapError (.assembly ∘ .report)) := by
  have hending := h.ending_eq hcomplete rfl
  obtain ⟨result, hresult⟩ : ∃ result : Except Report FileSet,
      a.assemble s.toSet c = result.mapError .report := by
    clear hending
    induction h with
    | nil => cases hcomplete
    | concat hbefore hstep ih =>
        rcases List.mem_append.mp hcomplete with hcomplete | hcomplete
        · exact ih hcomplete
        · cases List.mem_singleton.mp hcomplete
          cases hstep with
          | complete htime hdone => exact ⟨_, assemble_of_mapM (hbefore.keeps.mapM_eq hdone)⟩
  refine ⟨result, hresult, ?_⟩
  rw [hending, hresult, mapError_mapError]

/-- A fault that ends a run comes from an entry with which a sequential run faults, too. -/
theorem Reaches.assemble_faults (h : r.Reaches a c s events st) {f : Fault}
    (hescape : .escape f ∈ events) : ∃ g, a.assemble s.toSet c = .error (.fault g) := by
  induction h with
  | nil => cases hescape
  | concat hbefore hstep ih =>
      rcases List.mem_append.mp hescape with hescape | hescape
      · exact ih hescape
      · cases List.mem_singleton.mp hescape
        cases hstep with
        | @escape cache jobs j f htime hj hfault =>
            have hkeeps := hbefore.keeps
            have hentry : s.entry j.entry ∈ s.toSet.entries := by
              rw [SharedSet.toSet, ← hkeeps.entries, List.map_map]
              exact List.mem_map_of_mem hj
            exact Run.assemble_faults hentry ((hkeeps.jobs j hj).process_eq hfault)

/-- With an empty set nothing strikes, and a run gives no files. -/
theorem Reaches.ending_of_nil (h : r.Reaches a c s events st) (hnil : s.entries = [])
    (hworkers : r.workers.all (0 < ·) = true) {result : Except RunFailure FileSet}
    (hresult : st.ending = some result) : result = .ok ⟨[]⟩ := by
  induction h with
  | nil hcache =>
      rw [begin, if_pos hworkers] at hresult
      cases hresult
  | concat hbefore hstep ih =>
      have hjobs := (jobs_eq_nil_iff hbefore.keeps).mpr hnil
      rcases hstep.ending_cases hbefore.keeps with ⟨-, hsame⟩ | ⟨-, -, hnow⟩
      · exact ih (hsame.symm.trans hresult)
      · rw [hnow] at hresult
        cases hstep with
        | take | work => cases hresult
        | strike hne _ => exact absurd hjobs hne
        | escape _ hj _ =>
            cases hjobs
            cases hj
        | complete =>
            have hset : s.toSet = ⟨[]⟩ := by rw [SharedSet.toSet, hnil, List.map_nil]
            rw [endingOf, hset] at hresult
            exact (Option.some.inj hresult).symm

/-! ## Every run can end -/

theorem Reaches.hasWorkers (h : r.Reaches a c s events st) (hopen : st.ending = none) :
    r.workers.all (0 < ·) = true := by
  induction h with
  | nil hcache =>
      by_contra hnone
      rw [begin, if_neg hnone] at hopen
      cases hopen
  | concat hbefore hstep ih =>
      rcases hstep.ending_cases hbefore.keeps with ⟨-, hsame⟩ | ⟨-, hnone, -⟩
      · exact ih (hsame.symm.trans hopen)
      · exact ih hnone

/-- As long as a run has not ended, a worker has something to do or all jobs are done. -/
theorem exists_work_or_done (hworkers : r.workers.all (0 < ·) = true) (hopen : st.ending = none) :
    (∃ st', r.Step a c s st .work st') ∨ ∀ j ∈ st.jobs, ∃ o, j.outcome? = some o := by
  obtain ⟨cache, jobs, ending⟩ := st
  cases hopen
  by_cases hbusy : ∃ j ∈ jobs, j.isBusy = true
  · obtain ⟨⟨e, task⟩, hj, hbusy⟩ := hbusy
    obtain ⟨before, after, rfl⟩ := List.append_of_mem hj
    cases task with
    | none => cases hbusy
    | some t => exact .inl ⟨_, .work hbusy⟩
  · have hidle : ∀ j ∈ jobs, j.isBusy = false := fun j hj =>
      Bool.eq_false_iff.mpr fun h => hbusy ⟨j, hj, h⟩
    by_cases hwaiting : ∃ j ∈ jobs, j.task = none
    · obtain ⟨⟨e, task⟩, hj, rfl⟩ := hwaiting
      have hcount : jobs.countP Job.isBusy = 0 :=
        List.countP_eq_zero.mpr fun j hj => Bool.eq_false_iff.mp (hidle j hj)
      obtain ⟨before, after, rfl⟩ := List.append_of_mem hj
      refine .inl ⟨_, .take fun workers hw => ?_⟩
      rw [Option.mem_def.mp hw] at hworkers
      rw [hcount]
      exact of_decide_eq_true hworkers
    · refine .inr fun j hj => ?_
      have htaken : j.task.isSome = true :=
        Option.isSome_iff_ne_none.mpr fun h => hwaiting ⟨j, hj, h⟩
      have hdone := hidle j hj
      rw [Job.isBusy, htaken, Bool.true_and] at hdone
      exact Option.isSome_iff_exists.mp (by simpa using hdone)

/-- Without a strike, workers get all jobs done. -/
theorem Reaches.exists_done (h : r.Reaches a c s events st) (hopen : st.ending = none) :
    ∃ more st', (∀ event ∈ more, event = .work) ∧ r.Reaches a c s (events ++ more) st' ∧
      st'.ending = none ∧ ∀ j ∈ st'.jobs, ∃ o, j.outcome? = some o := by
  -- on the steps that are left, since the schedule is longer after each of them
  induction hcost : st.cost s using Nat.strongRecOn generalizing events st with
  | _ cost ih =>
      subst hcost
      rcases exists_work_or_done (a := a) (c := c) (s := s) (h.hasWorkers hopen) hopen with
        ⟨next, hstep⟩ | hdone
      · have hopen' : next.ending = none := by
          rcases hstep.ending_cases h.keeps with ⟨-, hsame⟩ | ⟨hne, -⟩
          · exact hsame.trans hopen
          · exact absurd rfl hne
        obtain ⟨more, st', hmore, hreaches, hend⟩ :=
          ih _ (hstep.cost_lt h.keeps) (h.concat hstep) hopen' rfl
        refine ⟨.work :: more, st', List.forall_mem_cons.mpr ⟨rfl, hmore⟩, ?_, hend⟩
        rwa [List.append_assoc] at hreaches
      · exact ⟨[], st, by simp, by rwa [List.append_nil], hopen, hdone⟩

/-- When all jobs are done, the run can end as a sequential run does. -/
theorem Reaches.exists_end_of_done (h : r.Reaches a c s events st) (hopen : st.ending = none)
    (hdone : ∀ j ∈ st.jobs, ∃ o, j.outcome? = some o) (htime : s.entries = [] ∨ r.HasTime) :
    ∃ event st', (event = .complete ∨ ∃ f, event = .escape f) ∧ r.Step a c s st event st' ∧
      st'.ending = some ((a.assemble s.toSet c).mapError .assembly) := by
  have hkeeps := h.keeps
  have hall : ∀ j ∈ st.jobs, j.outcome? = some (a.process c (s.entry j.entry)) := by
    intro j hj
    obtain ⟨o, ho⟩ := hdone j hj
    rw [ho, (hkeeps.jobs j hj).process_eq ho]
  have hentries : s.toSet.entries = st.jobs.map fun j => s.entry j.entry := by
    rw [SharedSet.toSet, ← hkeeps.entries, List.map_map]
    rfl
  cases hrun : s.toSet.entries.mapM (a.process c) with
  | ok outcomes =>
      have hoks := mapM_eq_ok_iff.mp hrun
      rw [hentries, List.forall₂_map_left_iff] at hoks
      have hboth := (List.forall₂_and_left
        (p := fun j : Job Cell => j.outcome? = some (a.process c (s.entry j.entry))) _ _).mpr
        ⟨hall, hoks⟩
      have hoks' : List.Forall₂ (fun j o => j.outcome? = some (.ok o)) st.jobs outcomes :=
        hboth.imp fun j o hj => hj.1.trans (congrArg some hj.2)
      have htime' : st.jobs = [] ∨ r.HasTime := htime.imp_left (jobs_eq_nil_iff hkeeps).mpr
      obtain ⟨cache, jobs, ending⟩ := st
      cases hopen
      refine ⟨.complete, _, .inl rfl, .complete htime' hoks', ?_⟩
      rw [assemble_of_mapM hrun, mapError_mapError]
  | error f =>
      obtain ⟨e, he, hfault⟩ := exists_of_mapM_eq_error hrun
      rw [hentries] at he
      obtain ⟨j, hj, rfl⟩ := List.mem_map.mp he
      have hfault' : j.outcome? = some (.error f) := (hall j hj).trans (congrArg some hfault)
      have htime' : r.HasTime := htime.resolve_left fun hnil => by
        rw [(jobs_eq_nil_iff hkeeps).mpr hnil] at hj
        cases hj
      obtain ⟨cache, jobs, ending⟩ := st
      cases hopen
      refine ⟨.escape f, _, .inr ⟨f, rfl⟩, .escape htime' hj hfault', ?_⟩
      rw [assemble_of_error hrun]
      rfl

/-- As long as there is time, a run can end as a sequential run does. -/
theorem Reaches.exists_end (h : r.Reaches a c s events st) (hopen : st.ending = none)
    (htime : s.entries = [] ∨ r.HasTime) :
    ∃ more st', (.complete ∈ more ∨ ∃ f, .escape f ∈ more) ∧
      r.Reaches a c s (events ++ more) st' ∧
      st'.ending = some ((a.assemble s.toSet c).mapError .assembly) := by
  obtain ⟨more, done, -, hreaches, hopen', hdone⟩ := h.exists_done hopen
  obtain ⟨event, st', hevent, hstep, hending⟩ := hreaches.exists_end_of_done hopen' hdone htime
  refine ⟨more ++ [event], st', ?_, ?_, hending⟩
  · rcases hevent with rfl | ⟨f, rfl⟩
    · exact .inl (List.mem_append_right _ (List.mem_singleton_self _))
    · exact .inr ⟨f, List.mem_append_right _ (List.mem_singleton_self _)⟩
  · rw [← List.append_assoc]
    exact hreaches.concat hstep

/-- A run that has not ended has a next step. -/
theorem Reaches.exists_step (h : r.Reaches a c s events st) (hopen : st.ending = none) :
    ∃ event st', r.Step a c s st event st' := by
  rcases exists_work_or_done (h.hasWorkers hopen) hopen with ⟨st', hstep⟩ | hdone
  · exact ⟨.work, st', hstep⟩
  · by_cases htime : s.entries = [] ∨ r.HasTime
    · obtain ⟨event, st', -, hstep, -⟩ := h.exists_end_of_done hopen hdone htime
      exact ⟨event, st', hstep⟩
    · obtain ⟨hentries, hlate⟩ := not_or.mp htime
      obtain ⟨limit, hlimit, -⟩ : ∃ limit, r.limit = some limit ∧ ¬limit.isPositive = true := by
        simpa [HasTime] using hlate
      obtain ⟨cache, jobs, ending⟩ := st
      cases hopen
      have hjobs : jobs ≠ [] := fun hnil => hentries ((jobs_eq_nil_iff h.keeps).mp hnil)
      exact ⟨_, _, .strike (i := .timeout limit) hjobs hlimit⟩

/-! ## The run as a function -/

theorem canStrike_of_interruption? {i : Interruption} (h : r.interruption? = some i) :
    r.CanStrike i := by
  unfold interruption? at h
  split at h
  · next limit hlimit =>
      split at h
      · cases h
        exact hlimit
      · split at h
        · cases h
          trivial
        · cases h
  · split at h
    · cases h
      trivial
    · cases h

theorem hasTime_of_interruption? (h : r.interruption? = none) : r.HasTime := by
  intro limit hlimit
  by_contra hlate
  rw [interruption?, Option.mem_def.mp hlimit] at h
  simp [hlate] at h

/-- The result of a run is one that the steps of a run can lead to. -/
theorem exists_reaches_assemble (r : Run) (a : Assembler) (c : Context) (s : SharedSet Cell) :
    ∃ events st, r.Reaches a c s events st ∧ st.ending = some (r.assemble a s.toSet c) := by
  have hbegin : r.Reaches a c s [] (r.begin s fun _ => none) := .nil (by simp [SharedSet.Holds])
  by_cases hworkers : r.workers.all (0 < ·) = true
  · have hopen : (r.begin s fun _ => none).ending = none := by rw [begin, if_pos hworkers]
    rw [assemble, if_pos hworkers]
    cases hstruck : r.interruption? with
    | none =>
        obtain ⟨more, st, -, hreaches, hending⟩ :=
          hbegin.exists_end hopen (.inr (hasTime_of_interruption? hstruck))
        exact ⟨_, st, hreaches, hending⟩
    | some i =>
        dsimp only
        by_cases hnil : s.entries = []
        · obtain ⟨more, st, -, hreaches, hending⟩ := hbegin.exists_end hopen (.inl hnil)
          have hset : s.toSet = ⟨[]⟩ := by rw [SharedSet.toSet, hnil, List.map_nil]
          rw [hset] at hending ⊢
          exact ⟨_, st, hreaches, hending⟩
        · have hfull : ¬s.toSet.entries.isEmpty = true := by
            rw [SharedSet.toSet, List.isEmpty_iff, List.map_eq_nil_iff]
            exact hnil
          have hjobs : (s.entries.map fun e => Job.mk e none) ≠ [] := fun h =>
            hnil (List.map_eq_nil_iff.mp h)
          rw [if_neg hfull]
          rw [begin, if_pos hworkers] at hbegin
          exact ⟨_, _, hbegin.concat (.strike hjobs (canStrike_of_interruption? hstruck)), rfl⟩
  · refine ⟨_, _, hbegin, ?_⟩
    rw [begin, assemble, if_neg hworkers, if_neg hworkers]

end Run

/-! ## Agreement -/

/-- Under every schedule, and whatever templates its entries share: a run that is complete has the
files or the report of sequential assembly; one that was struck has no files, and one that a fault
ends is of a set with which sequential assembly faults, too. An empty set has its empty file set
even without any time. No schedule goes on forever or gets stuck, and as long as there is time a run
can be complete; the result of a run is one of these endings. -/
theorem concurrent_assembly_agrees {Cell : Type} [DecidableEq Cell] (r : Run) (a : Assembler)
    (c : Context) (s : SharedSet Cell) :
    (∀ events st, r.Reaches a c s events st →
      (.complete ∈ events → ∃ result : Except Report FileSet,
        a.assemble s.toSet c = result.mapError .report ∧
          st.ending = some (result.mapError (.assembly ∘ .report))) ∧
      (∀ i, .strike i ∈ events → st.ending = some (.error (.interrupted i))) ∧
      (∀ f, .escape f ∈ events → st.ending = some (.error (.assembly (.fault f))) ∧
        ∃ g, a.assemble s.toSet c = .error (.fault g)) ∧
      (s.entries = [] → r.workers.all (0 < ·) = true →
        ∀ result, st.ending = some result → result = .ok ⟨[]⟩) ∧
      events.length ≤ 9 * s.entries.length + 1 ∧
      (st.ending = none → (∃ event st', r.Step a c s st event st') ∧
        (s.entries = [] ∨ r.HasTime → ∃ more st', r.Reaches a c s (events ++ more) st' ∧
          (.complete ∈ more ∨ ∃ f, .escape f ∈ more)))) ∧
    ∃ events st, r.Reaches a c s events st ∧ st.ending = some (r.assemble a s.toSet c) := by
  refine ⟨fun events st h => ⟨h.exists_result, fun i hi => h.ending_eq hi rfl, fun f hf => ?_,
    fun hnil hworkers result hresult => h.ending_of_nil hnil hworkers hresult, ?_, fun hopen => ?_⟩,
    r.exists_reaches_assemble a c s⟩
  · exact ⟨h.ending_eq hf rfl, h.assemble_faults hf⟩
  · exact Nat.le_trans (Nat.le_add_right _ _) h.length_add_cost_le
  · refine ⟨h.exists_step hopen, fun htime => ?_⟩
    obtain ⟨more, st', hevent, hreaches, -⟩ := h.exists_end hopen htime
    exact ⟨more, st', hreaches, hevent⟩

/-- Two files that share the template of their body. -/
def sharedBody : SharedSet (Fin 3) where
  template := fun
    | 0 => .named "a" none .standard
    | 1 => .named "b" none .standard
    | 2 => .named "\x7b\x7b! shared \x7d\x7dx" none .standard
  entries := [⟨"first", 0, 2⟩, ⟨"second", 1, 2⟩]

theorem concurrent_assembly_agrees_example :
    (∃ events st, (Run.mk (some 2) none false).Reaches ⟨.strict, true⟩ ⟨[]⟩ sharedBody events st ∧
      .complete ∈ events ∧ st.ending = some (.ok ⟨[⟨"a", "x"⟩, ⟨"b", "x"⟩]⟩)) ∧
    ∃ st, (Run.mk none (some (.whole 0)) false).Reaches ⟨.strict, true⟩ ⟨[]⟩ sharedBody
      [.strike (.timeout (.whole 0))] st ∧
      st.ending = some (.error (.interrupted (.timeout (.whole 0)))) := by
  have hassemble : (Assembler.mk .strict true).assemble sharedBody.toSet ⟨[]⟩
      = .ok ⟨[⟨"a", "x"⟩, ⟨"b", "x"⟩]⟩ := by decide +kernel
  have hempty : sharedBody.Holds fun _ => none := by simp [SharedSet.Holds]
  constructor
  · have hspec :=
      (concurrent_assembly_agrees (Run.mk (some 2) none false) ⟨.strict, true⟩ ⟨[]⟩ sharedBody).1
    obtain ⟨-, -, -, -, -, hopen⟩ := hspec [] _ (.nil hempty)
    obtain ⟨more, st, hreaches, hevent⟩ := (hopen rfl).2 (.inr nofun)
    obtain ⟨hcomplete, -, hescape, -⟩ := hspec _ st hreaches
    rcases hevent with hevent | ⟨f, hf⟩
    · obtain ⟨result, hresult, hending⟩ := hcomplete hevent
      rw [hassemble] at hresult
      cases result with
      | ok files =>
          cases hresult
          exact ⟨_, st, hreaches, hevent, hending⟩
      | error report => cases hresult
    · obtain ⟨g, hg⟩ := (hescape f hf).2
      rw [hassemble] at hg
      cases hg
  · have hjobs : (sharedBody.entries.map fun e => Run.Job.mk e none) ≠ [] := by simp [sharedBody]
    have hstep := Run.Reaches.concat (r := Run.mk none (some (.whole 0)) false)
      (a := ⟨.strict, true⟩) (c := ⟨[]⟩) (.nil hempty)
      (.strike (i := .timeout (.whole 0)) hjobs rfl)
    obtain ⟨-, hstruck, -⟩ := (concurrent_assembly_agrees (Run.mk none (some (.whole 0)) false)
      ⟨.strict, true⟩ ⟨[]⟩ sharedBody).1 _ _ hstep
    exact ⟨_, hstep, hstruck _ (List.mem_singleton_self _)⟩

end Scaffold
