import Scaffold.Proofs.PathSyntax

namespace Scaffold

/-!
# Shapes of values

A shape says what a value is made of: which entries a map has and which
it may have. Where a shape has a part at the end of some segments, so has
every value of the shape, unless an entry on the way may be missing.
-/

/-- What a value is made of. A record is written entry by entry in front of a record without
any. -/
inductive Shape
  | bool
  | str
  | list (item : Shape)
  | record
  /-- With `always` the entry is there, else it may be. -/
  | entry (name : String) (always : Bool) (item rest : Shape)
  deriving DecidableEq, Repr

/-- The shape of something that is there, or may be. -/
structure Part where
  always : Bool
  shape : Shape
  deriving DecidableEq, Repr

namespace Shape

/-- A record with an entry that is there. -/
def always (name : String) (item rest : Shape) : Shape :=
  .entry name true item rest

/-- A record with an entry that may be there. -/
def perhaps (name : String) (item rest : Shape) : Shape :=
  .entry name false item rest

/-- The value is of the shape. Entries that the shape does not have do not matter. -/
def Fits : Shape → Value → Prop
  | .bool, v => ∃ b, v = .bool b
  | .str, v => ∃ s, v = .str s
  | .list item, v => ∃ items, v = .list items ∧ ∀ w ∈ items, item.Fits w
  | .record, v => ∃ entries, v = .map entries
  | .entry name always item rest, v => rest.Fits v ∧ ∃ entries, v = .map entries ∧
      (∀ w, entries.lookup name = some w → item.Fits w) ∧
      (always = true → ∃ w, entries.lookup name = some w)

def entry? : Shape → String → Option Part
  | .entry name always item rest, segment =>
    if name = segment then some ⟨always, item⟩ else rest.entry? segment
  | _, _ => none

/-- The part at the end of some segments. -/
def walk : Shape → List String → Option Part
  | shape, [] => some ⟨true, shape⟩
  | shape, segment :: rest =>
    match shape.entry? segment with
    | some part => (part.shape.walk rest).map fun last => ⟨part.always && last.always, last.shape⟩
    | none => none

theorem Fits.entry? {shape : Shape} {v : Value} (h : shape.Fits v) {segment : String} {part : Part}
    (hpart : shape.entry? segment = some part) :
    ∃ entries, v = .map entries ∧
      (∀ w, entries.lookup segment = some w → part.shape.Fits w) ∧
      (part.always = true → ∃ w, entries.lookup segment = some w) := by
  induction shape with
  | entry name always item rest _ ih =>
      obtain ⟨hrest, entries, rfl, hitem, halways⟩ := h
      rw [Shape.entry?] at hpart
      split at hpart
      · next hname =>
          subst hname
          cases hpart
          exact ⟨entries, rfl, hitem, halways⟩
      · exact ih hrest hpart
  | bool | str | list | record => cases hpart

/-- What a value of the shape has at the end of the segments. -/
theorem Fits.walk {shape : Shape} {v : Value} (h : shape.Fits v) {segments : List String}
    {part : Part} (hpart : shape.walk segments = some part) :
    ∃ found, v.walk segments = .ok found ∧ (∀ w, found = some w → part.shape.Fits w) ∧
      (part.always = true → found.isSome = true) := by
  induction segments generalizing shape v part with
  | nil =>
      rw [Shape.walk] at hpart
      cases hpart
      refine ⟨some v, rfl, ?_, fun _ => rfl⟩
      intro w hw
      cases hw
      exact h
  | cons segment rest ih =>
      rw [Shape.walk] at hpart
      cases hentry : shape.entry? segment with
      | none => simp [hentry] at hpart
      | some first =>
          simp only [hentry, Option.map_eq_some_iff] at hpart
          obtain ⟨last, hlast, rfl⟩ := hpart
          obtain ⟨entries, rfl, hitem, halways⟩ := h.entry? hentry
          have hchild : (Value.map entries).child? segment = .ok (entries.lookup segment) := rfl
          rw [Value.walk_cons _ _ _ hchild]
          cases hlookup : entries.lookup segment with
          | none =>
              refine ⟨none, rfl, by simp, ?_⟩
              intro hboth
              obtain ⟨w, hw⟩ := halways (Bool.and_eq_true_iff.mp hboth).1
              rw [hlookup] at hw
              cases hw
          | some w =>
              obtain ⟨found, hfound, hfits, hsome⟩ := ih (hitem w hlookup) hlast
              refine ⟨found, hfound, hfits, ?_⟩
              intro hboth
              exact hsome (Bool.and_eq_true_iff.mp hboth).2

/-! ## Values of a shape -/

theorem fits_str (s : String) : str.Fits (.str s) :=
  ⟨s, rfl⟩

theorem fits_bool (b : Bool) : bool.Fits (.bool b) :=
  ⟨b, rfl⟩

theorem fits_list {α : Type} {item : Shape} {f : α → Value} (h : ∀ x, item.Fits (f x))
    (xs : List α) : (list item).Fits (.list (xs.map f)) := by
  refine ⟨_, rfl, fun w hw => ?_⟩
  obtain ⟨x, -, rfl⟩ := List.mem_map.mp hw
  exact h x

theorem fits_record (entries : List (String × Value)) : record.Fits (.map entries) :=
  ⟨entries, rfl⟩

variable {entries : List (String × Value)} {name : String} {item rest : Shape} {v : Value}

theorem fits_always (hlookup : entries.lookup name = some v) (hitem : item.Fits v)
    (hrest : rest.Fits (.map entries)) : (always name item rest).Fits (.map entries) := by
  refine ⟨hrest, entries, rfl, fun w hw => ?_, fun _ => ⟨v, hlookup⟩⟩
  rw [hlookup] at hw
  cases hw
  exact hitem

theorem fits_perhaps (hitem : ∀ w, entries.lookup name = some w → item.Fits w)
    (hrest : rest.Fits (.map entries)) : (perhaps name item rest).Fits (.map entries) :=
  ⟨hrest, entries, rfl, hitem, fun halways => by cases halways⟩

end Shape

end Scaffold
