import Scaffold.Assembly
import Scaffold.Proofs.Rendering

namespace Scaffold

/-!
# What becomes of an entry

An entry gives a file, is skipped or fails, and these are told apart by
what its two templates parse as and render to. When helpers do not fault,
one of the three is the case for every entry.
-/

namespace Assembler

/-! ## The parts of an entry -/

/-- Both templates of the entry parse. -/
def Parses (e : TemplateEntry) : Prop :=
  (∃ nodes, e.path.parse = .ok nodes) ∧ ∃ nodes, e.body.parse = .ok nodes

variable (a : Assembler) (c : Context)

/-- The path template of the entry renders to a path, blanks around it left out if they are to
be. -/
def PathOf (e : TemplateEntry) (path : String) : Prop :=
  ∃ nodes rendered, e.path.parse = .ok nodes ∧
    (a.renderer e.path).render nodes c = .ok rendered ∧ path = a.trimPath rendered

def BodyOf (e : TemplateEntry) (content : String) : Prop :=
  ∃ nodes, e.body.parse = .ok nodes ∧ (a.renderer e.body).render nodes c = .ok content

variable {a c}

theorem PathOf.unique {e : TemplateEntry} {path other : String} (h : PathOf a c e path)
    (hother : PathOf a c e other) : path = other := by
  obtain ⟨nodes, rendered, hparse, hrender, rfl⟩ := h
  obtain ⟨nodes', rendered', hparse', hrender', rfl⟩ := hother
  rw [hparse] at hparse'
  cases hparse'
  rw [hrender] at hrender'
  cases hrender'
  rfl

theorem BodyOf.unique {e : TemplateEntry} {content other : String} (h : BodyOf a c e content)
    (hother : BodyOf a c e other) : content = other := by
  obtain ⟨nodes, hparse, hrender⟩ := h
  obtain ⟨nodes', hparse', hrender'⟩ := hother
  rw [hparse] at hparse'
  cases hparse'
  rw [hrender] at hrender'
  cases hrender'
  rfl

/-! ## The three outcomes -/

variable (a c)

/-- What an entry fails with on its own: the parse errors of both templates, or else the first
stage that fails. -/
inductive Fails (e : TemplateEntry) : List ReportEntry → Prop
  | parse (h : ¬Parses e) : Fails e
      (parseFailures e.identifier .path e.path.parse ++
        parseFailures e.identifier .body e.body.parse)
  | path {nodes : List Node} {err : RenderError} (hparses : Parses e)
      (hparse : e.path.parse = .ok nodes)
      (hrender : (a.renderer e.path).render nodes c = .error (.error err)) :
      Fails e [.ofRenderError e.identifier .path err]
  | danger {path : String} {err : UnsafePath} (hparses : Parses e) (hpath : PathOf a c e path)
      (hne : path ≠ "") (hdanger : OutputPath.validate path = .error err) :
      Fails e [.ofUnsafePath e.identifier err]
  | body {path : String} {nodes : List Node} {err : RenderError} (hpath : PathOf a c e path)
      (hne : path ≠ "") (hsafe : OutputPath.validate path = .ok ())
      (hparse : e.body.parse = .ok nodes)
      (hrender : (a.renderer e.body).render nodes c = .error (.error err)) :
      Fails e [.ofRenderError e.identifier .body err]

/-- The entry has no file: its templates parse and its path is empty. -/
def Skips (e : TemplateEntry) : Prop :=
  Parses e ∧ PathOf a c e ""

/-- The entry has a file, whatever the other entries do. -/
structure Produces (e : TemplateEntry) (f : GeneratedFile) : Prop where
  path : PathOf a c e f.path
  ne_empty : f.path ≠ ""
  safe : OutputPath.validate f.path = .ok ()
  body : BodyOf a c e f.content

/-- What an outcome says about its entry. -/
def Becomes (e : TemplateEntry) : Outcome → Prop
  | .failed entries => Fails a c e entries
  | .skipped => Skips a c e
  | .file f => Produces a c e f

variable {a c}

theorem parses_of_ok {e : TemplateEntry} {pathNodes bodyNodes : List Node}
    (hpath : e.path.parse = .ok pathNodes) (hbody : e.body.parse = .ok bodyNodes) : Parses e :=
  ⟨⟨pathNodes, hpath⟩, ⟨bodyNodes, hbody⟩⟩

theorem process_of_parses {e : TemplateEntry} {pathNodes bodyNodes : List Node}
    (hpath : e.path.parse = .ok pathNodes) (hbody : e.body.parse = .ok bodyNodes) :
    a.process c e = a.processParsed e pathNodes bodyNodes c := by
  rw [process, hpath, hbody]

theorem process_of_not_parses {e : TemplateEntry} (h : ¬Parses e) :
    a.process c e = .ok (.failed (parseFailures e.identifier .path e.path.parse ++
      parseFailures e.identifier .body e.body.parse)) := by
  unfold process
  split
  · next pathNodes bodyNodes hpath hbody => exact absurd (parses_of_ok hpath hbody) h
  · rfl

theorem becomes_of_processParsed {e : TemplateEntry} {pathNodes bodyNodes : List Node}
    (hpath : e.path.parse = .ok pathNodes) (hbody : e.body.parse = .ok bodyNodes) {o : Outcome}
    (h : a.processParsed e pathNodes bodyNodes c = .ok o) : Becomes a c e o := by
  have hparses : Parses e := parses_of_ok hpath hbody
  unfold processParsed at h
  split at h
  · cases h
  · next err hrender =>
      cases h
      exact .path hparses hpath hrender
  · next rendered hrender =>
      have hpathOf : PathOf a c e (a.trimPath rendered) :=
        ⟨pathNodes, rendered, hpath, hrender, rfl⟩
      dsimp only at h
      split at h
      · next hempty =>
          cases h
          rw [String.isEmpty_iff.mp hempty] at hpathOf
          exact ⟨hparses, hpathOf⟩
      · next hempty =>
          have hne : a.trimPath rendered ≠ "" := fun heq => hempty (String.isEmpty_iff.mpr heq)
          split at h
          · next err hdanger =>
              cases h
              exact .danger hparses hpathOf hne hdanger
          · next hsafe =>
              split at h
              · cases h
              · next err hrenderBody =>
                  cases h
                  exact .body hpathOf hne hsafe hbody hrenderBody
              · next content hrenderBody =>
                  cases h
                  exact ⟨hpathOf, hne, hsafe, bodyNodes, hbody, hrenderBody⟩

theorem becomes_of_process {e : TemplateEntry} {o : Outcome} (h : a.process c e = .ok o) :
    Becomes a c e o := by
  by_cases hparses : Parses e
  · obtain ⟨⟨pathNodes, hpath⟩, bodyNodes, hbody⟩ := hparses
    rw [process_of_parses hpath hbody] at h
    exact becomes_of_processParsed hpath hbody h
  · rw [process_of_not_parses hparses] at h
    cases h
    exact .parse hparses

theorem isEmpty_eq_false {path : String} (h : path ≠ "") : path.isEmpty = false := by
  rw [← Bool.not_eq_true, String.isEmpty_iff]
  exact h

theorem process_of_fails {e : TemplateEntry} {entries : List ReportEntry}
    (h : Fails a c e entries) : a.process c e = .ok (.failed entries) := by
  cases h with
  | parse h => exact process_of_not_parses h
  | path hparses hparse hrender =>
      obtain ⟨bodyNodes, hbody⟩ := hparses.2
      rw [process_of_parses hparse hbody, processParsed, hrender]
  | danger hparses hpath hne hdanger =>
      obtain ⟨bodyNodes, hbody⟩ := hparses.2
      obtain ⟨pathNodes, rendered, hparse, hrender, rfl⟩ := hpath
      rw [process_of_parses hparse hbody, processParsed, hrender]
      simp only [isEmpty_eq_false hne, Bool.false_eq_true, ↓reduceIte, hdanger]
  | body hpath hne hsafe hparse hrender =>
      obtain ⟨pathNodes, rendered, hparsePath, hrenderPath, rfl⟩ := hpath
      rw [process_of_parses hparsePath hparse, processParsed, hrenderPath]
      simp only [isEmpty_eq_false hne, Bool.false_eq_true, ↓reduceIte, hsafe, hrender]

theorem process_of_skips {e : TemplateEntry} (h : Skips a c e) :
    a.process c e = .ok .skipped := by
  obtain ⟨hparses, pathNodes, rendered, hparse, hrender, hempty⟩ := h
  obtain ⟨bodyNodes, hbody⟩ := hparses.2
  have hnone : "".isEmpty = true := rfl
  rw [process_of_parses hparse hbody, processParsed, hrender]
  simp only [← hempty, hnone, ↓reduceIte]

theorem Produces.parses {e : TemplateEntry} {f : GeneratedFile} (h : Produces a c e f) :
    Parses e := by
  obtain ⟨pathNodes, rendered, hpath, -⟩ := h.path
  obtain ⟨bodyNodes, hbody, -⟩ := h.body
  exact parses_of_ok hpath hbody

theorem process_of_produces {e : TemplateEntry} {f : GeneratedFile} (h : Produces a c e f) :
    a.process c e = .ok (.file f) := by
  obtain ⟨⟨pathNodes, rendered, hparse, hrender, hpath⟩, hne, hsafe, bodyNodes, hbody,
    hrenderBody⟩ := h
  rw [process_of_parses hparse hbody, processParsed, hrender]
  simp only [← hpath, isEmpty_eq_false hne, Bool.false_eq_true, ↓reduceIte, hsafe, hrenderBody]

theorem process_eq_ok_iff {e : TemplateEntry} {o : Outcome} :
    a.process c e = .ok o ↔ Becomes a c e o := by
  refine ⟨becomes_of_process, fun h => ?_⟩
  cases o with
  | file f => exact process_of_produces h
  | skipped => exact process_of_skips h
  | failed entries => exact process_of_fails h

theorem Becomes.unique {e : TemplateEntry} {o other : Outcome} (h : Becomes a c e o)
    (hother : Becomes a c e other) : o = other := by
  have hprocess := process_eq_ok_iff.mpr h
  rw [process_eq_ok_iff.mpr hother] at hprocess
  cases hprocess
  rfl

/-! ## Every entry has an outcome -/

theorem faultless_render {t : Template} {nodes : List Node} (htotal : t.helpers.Total)
    (hparse : t.parse = .ok nodes) : ((a.renderer t).render nodes c).Faultless :=
  Renderer.faultless_renderNodes htotal (Node.wellFormed_of_parse hparse) _

theorem process_total {e : TemplateEntry} (hpath : e.path.helpers.Total)
    (hbody : e.body.helpers.Total) : ∃ o, a.process c e = .ok o := by
  by_cases hparses : Parses e
  · obtain ⟨⟨pathNodes, hpathNodes⟩, bodyNodes, hbodyNodes⟩ := hparses
    rw [process_of_parses hpathNodes hbodyNodes]
    unfold processParsed
    split
    · next f hrender => exact absurd hrender (faultless_render hpath hpathNodes f)
    · exact ⟨_, rfl⟩
    · dsimp only
      split
      · exact ⟨_, rfl⟩
      · split
        · exact ⟨_, rfl⟩
        · split
          · next f hrender => exact absurd hrender (faultless_render hbody hbodyNodes f)
          · exact ⟨_, rfl⟩
          · exact ⟨_, rfl⟩
  · exact ⟨_, process_of_not_parses hparses⟩

end Assembler

end Scaffold
