import Scaffold.Proofs.Assembling

namespace Scaffold

/-!
# Lenient and strict

Lenient mode writes nothing where something is absent, and is strict mode
otherwise. So it changes no render that goes well, and the two modes stop
at different visits only where strict mode has stopped before at an absent
path.
-/

/-! ## Absent paths -/

/-- The path can be followed, and leads to nothing. -/
def Scope.lacks (s : Scope) (path : Path) : Bool :=
  match s.resolve path with
  | .ok none => true
  | _ => false

theorem Scope.lacks_iff {s : Scope} {path : Path} :
    s.lacks path = true ↔ s.resolve path = .ok none := by
  rw [lacks]
  cases s.resolve path with
  | error f => simp
  | ok found => cases found <;> simp

/-- An interpolation or a loop whose path leads to nothing; conditions may ask for what is absent. -/
def Visit.isAbsent : Visit → Bool
  | ⟨.interpolation path _ _, s⟩ | ⟨.loop path _ _, s⟩ => s.lacks path
  | _ => false

namespace Renderer

variable {hs : Helpers} {v : Visit}

theorem perform_lenient_of_absent (h : v.isAbsent = true) :
    perform ⟨hs, .lenient⟩ v = .ok "" := by
  obtain ⟨node, s⟩ := v
  cases node with
  | text | conditional => cases h
  | interpolation path helpers pos =>
      rw [perform, interpolate_of_none (Scope.lacks_iff.mp h)]
  | loop path body pos =>
      rw [perform, loopScopes_of_ok (Scope.lacks_iff.mp h)]
      rfl

theorem perform_strict_of_absent (hs : Helpers) (h : v.isAbsent = true) :
    ∃ e, perform ⟨hs, .strict⟩ v = .error (.error e) := by
  obtain ⟨node, s⟩ := v
  cases node with
  | text | conditional => cases h
  | interpolation path helpers pos =>
      rw [perform, interpolate_of_none (Scope.lacks_iff.mp h)]
      exact ⟨_, rfl⟩
  | loop path body pos =>
      rw [perform, loopScopes_of_ok (Scope.lacks_iff.mp h)]
      exact ⟨_, rfl⟩

theorem perform_of_present (h : v.isAbsent = false) :
    perform ⟨hs, .strict⟩ v = perform ⟨hs, .lenient⟩ v := by
  obtain ⟨node, s⟩ := v
  have hlacks {path : Path} (hnot : s.lacks path = false) : s.resolve path ≠ .ok none := by
    intro hnone
    rw [Scope.lacks_iff.mpr hnone] at hnot
    cases hnot
  cases node with
  | text | conditional => rfl
  | interpolation path helpers pos =>
      rw [perform, perform]
      cases hpath : s.resolve path with
      | error f => rw [interpolate_of_error hpath, interpolate_of_error hpath]
      | ok found =>
          cases found with
          | none => exact absurd hpath (hlacks h)
          | some w =>
              rw [interpolate_of_some hpath, interpolate_of_some hpath]
              rfl
  | loop path body pos =>
      rw [perform, perform]
      cases hpath : s.resolve path with
      | error f => rw [loopScopes_of_error hpath, loopScopes_of_error hpath]
      | ok found =>
          cases found with
          | none => exact absurd hpath (hlacks h)
          | some w =>
              rw [loopScopes_of_ok hpath, loopScopes_of_ok hpath]
              rfl

/-! ## Runs in both modes -/

variable {visits before : List Visit} {f : RenderFailure}

theorem perform_of_strict_ok {t : String} (h : perform ⟨hs, .strict⟩ v = .ok t) :
    perform ⟨hs, .lenient⟩ v = .ok t := by
  cases habsent : v.isAbsent with
  | false => rw [← perform_of_present habsent, h]
  | true =>
      obtain ⟨e, he⟩ := perform_strict_of_absent hs habsent
      rw [he] at h
      cases h

theorem run_lenient_of_strict {text : String} (h : run ⟨hs, .strict⟩ visits = .ok text) :
    run ⟨hs, .lenient⟩ visits = .ok text := by
  have hsame : ∀ v ∈ visits, perform ⟨hs, .lenient⟩ v = perform ⟨hs, .strict⟩ v := by
    intro v hv
    obtain ⟨t, ht⟩ := perform_of_run_eq_ok h v hv
    rw [ht, perform_of_strict_ok ht]
  rw [run_congr hsame, h]

theorem stopsAt_lenient (h : StopsAt ⟨hs, .strict⟩ visits before v f)
    (hpresent : v.isAbsent = false) : StopsAt ⟨hs, .lenient⟩ visits before v f where
  order := h.order
  goes u hu := (h.goes u hu).imp fun _ ht => perform_of_strict_ok ht
  fails := (perform_of_present hpresent).symm.trans h.fails

/-- Where lenient mode stops, strict mode stops too, unless it has stopped before. -/
theorem stopsAt_strict (h : StopsAt ⟨hs, .lenient⟩ visits before v f) :
    StopsAt ⟨hs, .strict⟩ visits before v f ∨
      ∃ earlier u e, StopsAt ⟨hs, .strict⟩ visits earlier u (.error e) ∧ u.isAbsent = true ∧
        earlier ++ [u] <+: before := by
  have hstrict {u : Visit} (hu : u.isAbsent = false)
      (hgoes : ∃ t, perform ⟨hs, .lenient⟩ u = .ok t) : ∃ t, perform ⟨hs, .strict⟩ u = .ok t := by
    rwa [perform_of_present hu]
  -- strict mode has stopped at the first absent path, if there is one before
  cases hfind : before.find? Visit.isAbsent with
  | none =>
      left
      have hpresent : ∀ u ∈ before, u.isAbsent = false := by
        simpa using List.find?_eq_none.mp hfind
      refine ⟨h.order, fun u hu => hstrict (hpresent u hu) (h.goes u hu), ?_⟩
      cases hv : v.isAbsent with
      | false => exact (perform_of_present hv).trans h.fails
      | true =>
          have hfails := h.fails
          rw [perform_lenient_of_absent hv] at hfails
          cases hfails
  | some u =>
      right
      obtain ⟨hu, earlier, between, rfl, hpresent⟩ := List.find?_eq_some_iff_append.mp hfind
      obtain ⟨e, he⟩ := perform_strict_of_absent hs hu
      have hprefix : earlier ++ [u] <+: earlier ++ u :: between := ⟨between, by simp⟩
      refine ⟨earlier, u, e, ⟨?_, ?_, he⟩, hu, hprefix⟩
      · exact hprefix.trans ((List.prefix_append _ [v]).trans h.order)
      · intro w hw
        exact hstrict (by simpa using hpresent w hw) (h.goes w (List.mem_append_left _ hw))

end Renderer

/-! ## Assembly in both modes -/

namespace Assembler

variable {strip : Bool} {c : Context}

theorem render_lenient_of_strict {t : Template} {nodes : List Node} {text : String}
    (h : (renderer ⟨.strict, strip⟩ t).render nodes c = .ok text) :
    (renderer ⟨.lenient, strip⟩ t).render nodes c = .ok text := by
  rw [Renderer.render, Renderer.renderNodes_eq_run] at h ⊢
  exact Renderer.run_lenient_of_strict h

theorem PathOf.lenient {e : TemplateEntry} {path : String}
    (h : PathOf ⟨.strict, strip⟩ c e path) : PathOf ⟨.lenient, strip⟩ c e path := by
  obtain ⟨nodes, rendered, hparse, hrender, rfl⟩ := h
  exact ⟨nodes, rendered, hparse, render_lenient_of_strict hrender, rfl⟩

theorem BodyOf.lenient {e : TemplateEntry} {content : String}
    (h : BodyOf ⟨.strict, strip⟩ c e content) : BodyOf ⟨.lenient, strip⟩ c e content := by
  obtain ⟨nodes, hparse, hrender⟩ := h
  exact ⟨nodes, hparse, render_lenient_of_strict hrender⟩

theorem succeeds_of_assemble {a : Assembler} {set : TemplateSet} {files : FileSet}
    (h : a.assemble set c = .ok files) : Succeeds a c set.entries := by
  obtain ⟨done, hcollects, hnone, -⟩ := collects_of_assemble h
  exact hcollects.report.eq_nil_iff.mp hnone

/-- An entry that succeeds in strict mode has the same outcome in lenient mode. -/
theorem process_lenient_of_succeeds {entries : List TemplateEntry}
    (h : Succeeds ⟨.strict, strip⟩ c entries) {e : TemplateEntry} (he : e ∈ entries) :
    process ⟨.lenient, strip⟩ c e = process ⟨.strict, strip⟩ c e := by
  obtain ⟨path, hpath⟩ := h.renders e he
  by_cases hempty : path = ""
  · subst hempty
    have hstrict : Skips ⟨.strict, strip⟩ c e := ⟨h.parses e he, hpath⟩
    have hlenient : Skips ⟨.lenient, strip⟩ c e := ⟨h.parses e he, hpath.lenient⟩
    rw [process_of_skips hstrict, process_of_skips hlenient]
  · obtain ⟨content, hstrict⟩ := h.produces he hpath hempty
    have hlenient : Produces ⟨.lenient, strip⟩ c e ⟨path, content⟩ :=
      ⟨hstrict.path.lenient, hstrict.ne_empty, hstrict.safe, hstrict.body.lenient⟩
    rw [process_of_produces hstrict, process_of_produces hlenient]

theorem mapM_congr_mem {α β ε : Type} {g k : α → Except ε β} {xs : List α}
    (h : ∀ x ∈ xs, g x = k x) : xs.mapM g = xs.mapM k := by
  induction xs with
  | nil => rfl
  | cons x xs ih =>
      obtain ⟨hx, hxs⟩ := List.forall_mem_cons.mp h
      rw [List.mapM_cons, List.mapM_cons, hx, ih hxs]

theorem assemble_lenient_of_strict {set : TemplateSet} {files : FileSet}
    (h : assemble ⟨.strict, strip⟩ set c = .ok files) :
    assemble ⟨.lenient, strip⟩ set c = .ok files := by
  have hsucceeds := succeeds_of_assemble h
  have hsame : set.entries.mapM (process ⟨.lenient, strip⟩ c)
      = set.entries.mapM (process ⟨.strict, strip⟩ c) :=
    mapM_congr_mem fun e he => process_lenient_of_succeeds hsucceeds he
  rw [assemble] at h ⊢
  rw [hsame]
  exact h

end Assembler

/-- Lenient mode extends strict mode. A text that strict mode gives lenient mode gives too; a failure
of strict mode is one of lenient mode, unless strict mode stops at an absent path; and a failure of
lenient mode is one of strict mode, unless strict mode stops at an absent path that is visited
before. So a file set that strict assembly gives, lenient assembly gives. -/
theorem lenient_extends_strict (hs : Helpers) (nodes : List Node) (c : Context) :
    (∀ text, Renderer.render ⟨hs, .strict⟩ nodes c = .ok text →
      Renderer.render ⟨hs, .lenient⟩ nodes c = .ok text) ∧
    (∀ f, Renderer.render ⟨hs, .strict⟩ nodes c = .error f →
      Renderer.render ⟨hs, .lenient⟩ nodes c = .error f ∨
        ∃ before v, Renderer.StopsAt ⟨hs, .strict⟩ (Node.visitsAll nodes (.root c)) before v f ∧
          v.isAbsent = true) ∧
    (∀ f, Renderer.render ⟨hs, .lenient⟩ nodes c = .error f →
      Renderer.render ⟨hs, .strict⟩ nodes c = .error f ∨
        ∃ before v earlier u e,
          Renderer.StopsAt ⟨hs, .lenient⟩ (Node.visitsAll nodes (.root c)) before v f ∧
          Renderer.render ⟨hs, .strict⟩ nodes c = .error (.error e) ∧
          Renderer.StopsAt ⟨hs, .strict⟩ (Node.visitsAll nodes (.root c)) earlier u (.error e) ∧
          u.isAbsent = true ∧ earlier ++ [u] <+: before) ∧
    ∀ (strip : Bool) (set : TemplateSet) (files : FileSet),
      Assembler.assemble ⟨.strict, strip⟩ set c = .ok files →
        Assembler.assemble ⟨.lenient, strip⟩ set c = .ok files := by
  simp only [Renderer.render, Renderer.renderNodes_eq_run]
  refine ⟨fun text => Renderer.run_lenient_of_strict, fun f hf => ?_, fun f hf => ?_,
    fun strip set files => Assembler.assemble_lenient_of_strict⟩
  · obtain ⟨before, v, hstops⟩ := Renderer.run_eq_error_iff.mp hf
    cases habsent : v.isAbsent with
    | true => exact Or.inr ⟨before, v, hstops, habsent⟩
    | false => exact Or.inl (Renderer.run_of_stopsAt (Renderer.stopsAt_lenient hstops habsent))
  · obtain ⟨before, v, hstops⟩ := Renderer.run_eq_error_iff.mp hf
    rcases Renderer.stopsAt_strict hstops with hsame | ⟨earlier, u, e, hearlier, habsent, horder⟩
    · exact Or.inl (Renderer.run_of_stopsAt hsame)
    · exact Or.inr ⟨before, v, earlier, u, e, hstops, Renderer.run_of_stopsAt hearlier, hearlier,
        habsent, horder⟩

/-- Something absent, and behind it a number where a text is expected. -/
def absentExample : List Node :=
  [ .loop ⟨"xs", []⟩
      [.interpolation ⟨"this", ["name"]⟩ [] .start, .interpolation ⟨"this", []⟩ ["upper"] .start]
      .start ]

theorem lenient_extends_strict_example :
    ∃ mismatch missing : RenderError,
      Renderer.render ⟨.standard, .lenient⟩ absentExample ⟨[("xs", .list [.int 7])]⟩
        = .error (.error mismatch) ∧ mismatch.kind = .typeMismatch ∧
      Renderer.render ⟨.standard, .strict⟩ absentExample ⟨[("xs", .list [.int 7])]⟩
        = .error (.error missing) ∧ missing.kind = .missingVariable ∧
      ∃ earlier u, u.isAbsent = true ∧
        Renderer.StopsAt ⟨.standard, .strict⟩
          (Node.visitsAll absentExample (.root ⟨[("xs", .list [.int 7])]⟩)) earlier u
          (.error missing) := by
  obtain ⟨-, -, hlenient, -⟩ :=
    lenient_extends_strict .standard absentExample ⟨[("xs", .list [.int 7])]⟩
  have hmismatch : Renderer.render ⟨.standard, .lenient⟩ absentExample ⟨[("xs", .list [.int 7])]⟩
      = .error (.error ⟨.helperRejects "upper" "Scalar", ⟨"this", []⟩, .start⟩) := by rfl
  have hmissing : Renderer.render ⟨.standard, .strict⟩ absentExample ⟨[("xs", .list [.int 7])]⟩
      = .error (.error ⟨.missingVariable, ⟨"this", ["name"]⟩, .start⟩) := by rfl
  rcases hlenient _ hmismatch with hsame | ⟨_, _, earlier, u, e, _, he, hstops, habsent, _⟩
  · rw [hmissing] at hsame
    cases hsame
  · rw [hmissing] at he
    cases he
    exact ⟨_, _, hmismatch, rfl, hmissing, rfl, earlier, u, habsent, hstops⟩

end Scaffold
