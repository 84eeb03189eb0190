import Scaffold.Datum

namespace Scaffold

/-!
# Freezing and thawing

A datum that is not null freezes exactly when none of its parts is unfit.
What freezing gives is frozen already. Thawing it gives the datum back, but
for the nulls inside it, the kinds of its lists and its enumeration
members, and freezing that again gives the same value.
-/

namespace Datum

/-- The parts of a datum: the datum itself, and the parts of what stands in its lists, under the
keys of its maps and for its enumeration members. -/
inductive Contains : Datum → Datum → Prop
  | self (d : Datum) : Contains d d
  | listItem {items : List Datum} {item part : Datum} (hitem : item ∈ items)
      (h : Contains item part) : Contains (.list items) part
  | tupleItem {items : List Datum} {item part : Datum} (hitem : item ∈ items)
      (h : Contains item part) : Contains (.tuple items) part
  | mapItem {entries : List (Datum × Datum)} {key item part : Datum}
      (hitem : (key, item) ∈ entries) (h : Contains item part) : Contains (.map entries) part
  | contextItem {entries : List (String × Value)} {name : String} {v : Value} {part : Datum}
      (hitem : (name, v) ∈ entries) (h : Contains v.toDatum part) : Contains (.context entries) part
  | enumValue {value part : Datum} (h : Contains value part) : Contains (.enum value) part

/-- Data that have no value form wherever they stand. A key has to be a string even where its item
is null, and enumeration members give way only once. -/
inductive Unfit : Datum → Prop
  | unsupported (type : String) : Unfit (.unsupported type)
  | enumOfNull : Unfit (.enum .null)
  | enumOfUnsupported (type : String) : Unfit (.enum (.unsupported type))
  | enumOfEnum (value : Datum) : Unfit (.enum (.enum value))
  | nonStringKey {entries : List (Datum × Datum)} {key item : Datum}
      (hentry : (key, item) ∈ entries) (hkey : ∀ name, key ≠ .str name) : Unfit (.map entries)

mutual

/-- The datum with plain lists, without the nulls inside it, and with their values in the place of
enumeration members. -/
def pruned : Datum → Datum
  | .list items => .list (prunedItems items)
  | .tuple items => .list (prunedItems items)
  | .map entries => .map (prunedEntries entries)
  | .context entries => (Value.map entries).thaw
  | .enum value => value.pruned
  | d => d

def prunedItems : List Datum → List Datum
  | [] => []
  | .null :: rest => prunedItems rest
  | item :: rest => item.pruned :: prunedItems rest

def prunedEntries : List (Datum × Datum) → List (Datum × Datum)
  | [] => []
  | (_, .null) :: rest => prunedEntries rest
  | (key, item) :: rest => (key, item.pruned) :: prunedEntries rest

end

/-! ## One item at a time -/

theorem freezeItems_cons {item : Datum} (h : item ≠ .null) (rest : List Datum) :
    freezeItems (item :: rest) = (do
      let v ← item.freeze
      let vs ← freezeItems rest
      pure (v :: vs)) := by
  cases item with
  | null => exact absurd rfl h
  | _ => rfl

theorem freezeEntries_cons (name : String) {item : Datum} (h : item ≠ .null)
    (rest : List (Datum × Datum)) :
    freezeEntries ((.str name, item) :: rest) = (do
      let v ← item.freeze
      let vs ← freezeEntries rest
      pure ((name, v) :: vs)) := by
  cases item with
  | null => exact absurd rfl h
  | _ => rfl

theorem freeze_enum {value : Datum} (h : ∀ inner, value ≠ .enum inner) :
    (Datum.enum value).freeze = value.freeze := by
  cases value with
  | enum inner => exact absurd rfl (h inner)
  | _ => rfl

theorem prunedItems_cons {item : Datum} (h : item ≠ .null) (rest : List Datum) :
    prunedItems (item :: rest) = item.pruned :: prunedItems rest := by
  cases item with
  | null => exact absurd rfl h
  | _ => rfl

theorem prunedEntries_cons (key : Datum) {item : Datum} (h : item ≠ .null)
    (rest : List (Datum × Datum)) :
    prunedEntries ((key, item) :: rest) = (key, item.pruned) :: prunedEntries rest := by
  cases item with
  | null => exact absurd rfl h
  | _ => rfl

theorem exists_of_bind_eq_ok {ε α β : Type} {x : Except ε α} {g : α → Except ε β} {b : β}
    (h : x >>= g = .ok b) : ∃ a, x = .ok a ∧ g a = .ok b := by
  cases x with
  | error e => cases h
  | ok a => exact ⟨a, rfl, h⟩

theorem exists_of_map_eq_ok {ε α β : Type} {x : Except ε α} {g : α → β} {b : β}
    (h : x.map g = .ok b) : ∃ a, x = .ok a ∧ g a = b := by
  cases x with
  | error e => cases h
  | ok a => exact ⟨a, rfl, Except.ok.inj h⟩

theorem freezeItems_cons_eq_ok {item : Datum} {rest : List Datum} {vs : List Value}
    (hnull : item ≠ .null) (h : freezeItems (item :: rest) = .ok vs) :
    ∃ v more, item.freeze = .ok v ∧ freezeItems rest = .ok more ∧ vs = v :: more := by
  rw [freezeItems_cons hnull] at h
  obtain ⟨v, hv, h⟩ := exists_of_bind_eq_ok h
  obtain ⟨more, hmore, h⟩ := exists_of_bind_eq_ok h
  cases h
  exact ⟨v, more, hv, hmore, rfl⟩

/-- The key of every entry is a string, that of a null too. -/
theorem freezeEntries_cons_eq_ok {key item : Datum} {rest : List (Datum × Datum)}
    {vs : List (String × Value)} (h : freezeEntries ((key, item) :: rest) = .ok vs) :
    ∃ name, key = .str name ∧
      (item = .null ∧ freezeEntries rest = .ok vs ∨
        ∃ v more, item ≠ .null ∧ item.freeze = .ok v ∧ freezeEntries rest = .ok more ∧
          vs = (name, v) :: more) := by
  cases key with
  | str name =>
      refine ⟨name, rfl, ?_⟩
      by_cases hnull : item = .null
      · subst hnull
        exact Or.inl ⟨rfl, h⟩
      · rw [freezeEntries_cons name hnull] at h
        obtain ⟨v, hv, h⟩ := exists_of_bind_eq_ok h
        obtain ⟨more, hmore, h⟩ := exists_of_bind_eq_ok h
        cases h
        exact Or.inr ⟨v, more, hnull, hv, hmore, rfl⟩
  | _ => cases h

/-! ## Data that freeze -/

theorem freeze_of_mem_items {items : List Datum} {vs : List Value} (h : freezeItems items = .ok vs)
    {item : Datum} (hitem : item ∈ items) (hnull : item ≠ .null) : ∃ v, item.freeze = .ok v := by
  induction items generalizing vs with
  | nil => cases hitem
  | cons first rest ih =>
      by_cases hfirst : first = .null
      · subst hfirst
        exact ih h ((List.mem_cons.mp hitem).resolve_left hnull)
      · obtain ⟨v, more, hv, hmore, -⟩ := freezeItems_cons_eq_ok hfirst h
        rcases List.mem_cons.mp hitem with rfl | hitem
        · exact ⟨v, hv⟩
        · exact ih hmore hitem

theorem freeze_of_mem_entries {entries : List (Datum × Datum)} {vs : List (String × Value)}
    (h : freezeEntries entries = .ok vs) {key item : Datum} (hentry : (key, item) ∈ entries) :
    (∃ name, key = .str name) ∧ (item ≠ .null → ∃ v, item.freeze = .ok v) := by
  induction entries generalizing vs with
  | nil => cases hentry
  | cons first rest ih =>
      obtain ⟨firstKey, firstItem⟩ := first
      obtain ⟨name, hname, hrest⟩ := freezeEntries_cons_eq_ok h
      rcases List.mem_cons.mp hentry with heq | hentry
      · cases heq
        refine ⟨⟨name, hname⟩, fun hnull => ?_⟩
        rcases hrest with ⟨hitem, -⟩ | ⟨v, more, -, hv, -⟩
        · exact absurd hitem hnull
        · exact ⟨v, hv⟩
      · rcases hrest with ⟨-, hmore⟩ | ⟨v, more, -, -, hmore, -⟩
        · exact ih hmore hentry
        · exact ih hmore hentry

theorem Contains.eq_null {part : Datum} (h : Contains .null part) : part = .null := by
  cases h
  rfl

theorem not_unfit_null : ¬Unfit .null := nofun

end Datum

namespace Value

mutual

/-- Both plain forms of a value freeze to it. -/
theorem freeze_plain (v : Value) : v.toDatum.freeze = .ok v ∧ v.thaw.freeze = .ok v := by
  cases v with
  | bool | int | float | str => exact ⟨rfl, rfl⟩
  | list items =>
      obtain ⟨hfrozen, hthawed⟩ := freezeItems_plain items
      exact ⟨by rw [toDatum, Datum.freeze, hfrozen]; rfl, by rw [thaw, Datum.freeze, hthawed]; rfl⟩
  | map entries =>
      obtain ⟨hfrozen, hthawed⟩ := freezeEntries_plain entries
      exact ⟨by rw [toDatum, Datum.freeze, hfrozen]; rfl, by rw [thaw, Datum.freeze, hthawed]; rfl⟩

theorem freezeItems_plain (items : List Value) :
    Datum.freezeItems (toDatumItems items) = .ok items ∧
      Datum.freezeItems (thawItems items) = .ok items := by
  cases items with
  | nil => exact ⟨rfl, rfl⟩
  | cons item rest =>
      obtain ⟨hfrozen, hthawed⟩ := freeze_plain item
      obtain ⟨hrest, hrest'⟩ := freezeItems_plain rest
      have hnull : item.toDatum ≠ .null := by cases item <;> nofun
      have hnull' : item.thaw ≠ .null := by cases item <;> nofun
      constructor
      · rw [toDatumItems, Datum.freezeItems_cons hnull, hfrozen, hrest]
        rfl
      · rw [thawItems, Datum.freezeItems_cons hnull', hthawed, hrest']
        rfl

theorem freezeEntries_plain (entries : List (String × Value)) :
    Datum.freezeEntries (toDatumEntries entries) = .ok entries ∧
      Datum.freezeEntries (thawEntries entries) = .ok entries := by
  cases entries with
  | nil => exact ⟨rfl, rfl⟩
  | cons entry rest =>
      obtain ⟨name, item⟩ := entry
      obtain ⟨hfrozen, hthawed⟩ := freeze_plain item
      obtain ⟨hrest, hrest'⟩ := freezeEntries_plain rest
      have hnull : item.toDatum ≠ .null := by cases item <;> nofun
      have hnull' : item.thaw ≠ .null := by cases item <;> nofun
      constructor
      · rw [toDatumEntries, Datum.freezeEntries_cons name hnull, hfrozen, hrest]
        rfl
      · rw [thawEntries, Datum.freezeEntries_cons name hnull', hthawed, hrest']
        rfl

end

end Value

namespace Datum

/-- What freezes has no unfit part: a part is null or freezes too. -/
theorem Contains.not_unfit {d part : Datum} (h : Contains d part) :
    ∀ v, d.freeze = .ok v → ¬part.Unfit := by
  induction h with
  | self d =>
      intro v hv hunfit
      cases hunfit with
      | unsupported | enumOfNull | enumOfUnsupported | enumOfEnum => cases hv
      | nonStringKey hentry hkey =>
          obtain ⟨vs, hvs, -⟩ := exists_of_map_eq_ok hv
          obtain ⟨⟨name, hname⟩, -⟩ := freeze_of_mem_entries hvs hentry
          exact hkey name hname
  | @listItem items item part hitem hpart ih | @tupleItem items item part hitem hpart ih =>
      intro v hv
      obtain ⟨vs, hvs, -⟩ := exists_of_map_eq_ok hv
      by_cases hnull : item = .null
      · subst hnull
        exact hpart.eq_null ▸ not_unfit_null
      · obtain ⟨w, hw⟩ := freeze_of_mem_items hvs hitem hnull
        exact ih w hw
  | @mapItem entries key item part hentry hpart ih =>
      intro v hv
      obtain ⟨vs, hvs, -⟩ := exists_of_map_eq_ok hv
      by_cases hnull : item = .null
      · subst hnull
        exact hpart.eq_null ▸ not_unfit_null
      · obtain ⟨w, hw⟩ := (freeze_of_mem_entries hvs hentry).2 hnull
        exact ih w hw
  | @contextItem entries name v part hentry hpart ih => exact fun _ _ => ih v v.freeze_plain.1
  | @enumValue value part hpart ih =>
      intro v hv
      cases value with
      | enum => cases hv
      | _ => exact ih v hv

/-- No part of the datum is unfit. -/
def Fit (d : Datum) : Prop :=
  ∀ part, d.Contains part → ¬part.Unfit

mutual

theorem exists_freeze {d : Datum} (hnull : d ≠ .null) (hfit : d.Fit) : ∃ v, d.freeze = .ok v := by
  cases d with
  | null => exact absurd rfl hnull
  | bool | int | float | str | context => exact ⟨_, rfl⟩
  | list items =>
      have hitems : ∀ item ∈ items, item.Fit := fun item hitem part hpart =>
        hfit part (.listItem hitem hpart)
      obtain ⟨vs, hvs⟩ := exists_freezeItems hitems
      exact ⟨.list vs, by rw [freeze, hvs]; rfl⟩
  | tuple items =>
      have hitems : ∀ item ∈ items, item.Fit := fun item hitem part hpart =>
        hfit part (.tupleItem hitem hpart)
      obtain ⟨vs, hvs⟩ := exists_freezeItems hitems
      exact ⟨.list vs, by rw [freeze, hvs]; rfl⟩
  | map entries =>
      have hkeys : ∀ key item, (key, item) ∈ entries → ∃ name, key = .str name := by
        intro key item hentry
        cases key with
        | str name => exact ⟨name, rfl⟩
        | _ => exact absurd (.nonStringKey hentry nofun) (hfit _ (.self _))
      obtain ⟨vs, hvs⟩ := exists_freezeEntries hkeys fun key item hentry part hpart =>
        hfit part (.mapItem hentry hpart)
      exact ⟨.map vs, by rw [freeze, hvs]; rfl⟩
  | enum value =>
      have hvalue : value ≠ .null := by
        rintro rfl
        exact hfit _ (.self _) .enumOfNull
      have hplain : ∀ inner, value ≠ .enum inner := by
        rintro inner rfl
        exact hfit _ (.self _) (.enumOfEnum inner)
      rw [freeze_enum hplain]
      exact exists_freeze hvalue fun part hpart => hfit part (.enumValue hpart)
  | unsupported type => exact absurd (.unsupported type) (hfit _ (.self _))

theorem exists_freezeItems {items : List Datum} (hfit : ∀ item ∈ items, item.Fit) :
    ∃ vs, freezeItems items = .ok vs := by
  cases items with
  | nil => exact ⟨[], rfl⟩
  | cons item rest =>
      obtain ⟨hitem, hrest⟩ := List.forall_mem_cons.mp hfit
      obtain ⟨vs, hvs⟩ := exists_freezeItems hrest
      by_cases hnull : item = .null
      · subst hnull
        exact ⟨vs, hvs⟩
      · obtain ⟨v, hv⟩ := exists_freeze hnull hitem
        exact ⟨v :: vs, by rw [freezeItems_cons hnull, hv, hvs]; rfl⟩

theorem exists_freezeEntries {entries : List (Datum × Datum)}
    (hkeys : ∀ key item, (key, item) ∈ entries → ∃ name, key = .str name)
    (hfit : ∀ key item, (key, item) ∈ entries → item.Fit) :
    ∃ vs, freezeEntries entries = .ok vs := by
  cases entries with
  | nil => exact ⟨[], rfl⟩
  | cons entry rest =>
      obtain ⟨key, item⟩ := entry
      obtain ⟨name, rfl⟩ := hkeys key item List.mem_cons_self
      obtain ⟨vs, hvs⟩ := exists_freezeEntries
        (fun key item hentry => hkeys key item (List.mem_cons_of_mem _ hentry))
        fun key item hentry => hfit key item (List.mem_cons_of_mem _ hentry)
      by_cases hnull : item = .null
      · subst hnull
        exact ⟨vs, hvs⟩
      · obtain ⟨v, hv⟩ := exists_freeze hnull (hfit _ item List.mem_cons_self)
        exact ⟨(name, v) :: vs, by rw [freezeEntries_cons name hnull, hv, hvs]; rfl⟩

end

theorem exists_freeze_iff (d : Datum) : (∃ v, d.freeze = .ok v) ↔ d ≠ .null ∧ d.Fit := by
  constructor
  · rintro ⟨v, hv⟩
    refine ⟨?_, fun part hpart => hpart.not_unfit v hv⟩
    rintro rfl
    cases hv
  · rintro ⟨hnull, hfit⟩
    exact exists_freeze hnull hfit

/-! ## Thawing what was frozen -/

mutual

theorem thaw_of_freeze {d : Datum} {v : Value} (h : d.freeze = .ok v) : v.thaw = d.pruned := by
  cases d with
  | bool | int | float | str | context =>
      cases h
      rfl
  | list items | tuple items =>
      obtain ⟨vs, hvs, rfl⟩ := exists_of_map_eq_ok h
      rw [Value.thaw, pruned, thawItems_of_freeze hvs]
  | map entries =>
      obtain ⟨vs, hvs, rfl⟩ := exists_of_map_eq_ok h
      rw [Value.thaw, pruned, thawEntries_of_freeze hvs]
  | enum value =>
      have hplain : ∀ inner, value ≠ .enum inner := by
        rintro inner rfl
        cases h
      rw [freeze_enum hplain] at h
      rw [pruned, thaw_of_freeze h]
  | null | unsupported => cases h

theorem thawItems_of_freeze {items : List Datum} {vs : List Value}
    (h : freezeItems items = .ok vs) : Value.thawItems vs = prunedItems items := by
  cases items with
  | nil =>
      cases h
      rfl
  | cons item rest =>
      by_cases hnull : item = .null
      · subst hnull
        have hrest : freezeItems rest = .ok vs := h
        rw [prunedItems, thawItems_of_freeze hrest]
      · obtain ⟨v, more, hv, hmore, rfl⟩ := freezeItems_cons_eq_ok hnull h
        rw [Value.thawItems, prunedItems_cons hnull, thaw_of_freeze hv, thawItems_of_freeze hmore]

theorem thawEntries_of_freeze {entries : List (Datum × Datum)} {vs : List (String × Value)}
    (h : freezeEntries entries = .ok vs) : Value.thawEntries vs = prunedEntries entries := by
  cases entries with
  | nil =>
      cases h
      rfl
  | cons entry rest =>
      obtain ⟨key, item⟩ := entry
      obtain ⟨name, rfl, ⟨rfl, hmore⟩ | ⟨v, more, hnull, hv, hmore, rfl⟩⟩ :=
        freezeEntries_cons_eq_ok h
      · rw [prunedEntries, thawEntries_of_freeze hmore]
      · rw [Value.thawEntries, prunedEntries_cons _ hnull, thaw_of_freeze hv,
          thawEntries_of_freeze hmore]

end

end Datum

/-! ## Parts of what was frozen -/

namespace Value

theorem exists_of_mem_toDatumItems {items : List Value} {d : Datum}
    (h : d ∈ toDatumItems items) : ∃ v, d = toDatum v := by
  induction items with
  | nil => cases h
  | cons item rest ih =>
      rcases List.mem_cons.mp h with rfl | h
      · exact ⟨item, rfl⟩
      · exact ih h

theorem exists_of_mem_toDatumEntries {entries : List (String × Value)} {key d : Datum}
    (h : (key, d) ∈ toDatumEntries entries) : ∃ v, d = toDatum v := by
  induction entries with
  | nil => cases h
  | cons entry rest ih =>
      rcases List.mem_cons.mp h with heq | h
      · exact ⟨entry.2, congrArg Prod.snd heq⟩
      · exact ih h

theorem exists_of_contains {v : Value} {part : Datum} (h : v.toDatum.Contains part) :
    ∃ w, part = toDatum w := by
  generalize hd : v.toDatum = d at h
  induction h generalizing v with
  | self => exact ⟨v, hd.symm⟩
  | tupleItem hitem _ ih =>
      cases v with
      | list items =>
          cases hd
          obtain ⟨w, rfl⟩ := exists_of_mem_toDatumItems hitem
          exact ih rfl
      | _ => cases hd
  | mapItem hentry _ ih =>
      cases v with
      | map entries =>
          cases hd
          obtain ⟨w, rfl⟩ := exists_of_mem_toDatumEntries hentry
          exact ih rfl
      | _ => cases hd
  | listItem | contextItem | enumValue => cases v <;> cases hd

end Value

/-- Freezing is refused exactly for null and for data with an unfit part. A value that a datum
freezes to is made of values, freezes to itself and thaws to the pruned datum; and every value is
found again when what it thaws to is frozen. -/
theorem freeze_thaw_inverse :
    (∀ d : Datum, (∃ e, d.freeze = .error e) ↔
      d = .null ∨ ∃ part, d.Contains part ∧ part.Unfit) ∧
    (∀ (d : Datum) (v : Value), d.freeze = .ok v →
      (∀ part, v.toDatum.Contains part → part ≠ .null ∧ (∀ items, part ≠ .list items) ∧
        (∀ value, part ≠ .enum value) ∧ ¬part.Unfit) ∧
      v.toDatum.freeze = .ok v ∧ v.thaw = d.pruned) ∧
    ∀ v : Value, v.thaw.freeze = .ok v := by
  refine ⟨fun d => ?_, fun d v hv => ?_, fun v => v.freeze_plain.2⟩
  · have hok := d.exists_freeze_iff
    constructor
    · rintro ⟨e, he⟩
      by_cases hnull : d = .null
      · exact Or.inl hnull
      · right
        apply Classical.byContradiction
        intro hnone
        obtain ⟨v, hv⟩ := hok.mpr ⟨hnull, fun part hpart hunfit => hnone ⟨part, hpart, hunfit⟩⟩
        cases he.symm.trans hv
    · intro hbad
      cases hfreeze : d.freeze with
      | error e => exact ⟨e, rfl⟩
      | ok v =>
          obtain ⟨hnull, hfit⟩ := hok.mp ⟨v, hfreeze⟩
          rcases hbad with rfl | ⟨part, hpart, hunfit⟩
          · exact absurd rfl hnull
          · exact absurd hunfit (hfit part hpart)
  · refine ⟨fun part hpart => ?_, v.freeze_plain.1, Datum.thaw_of_freeze hv⟩
    have hfit : ¬part.Unfit := hpart.not_unfit v v.freeze_plain.1
    obtain ⟨w, rfl⟩ := Value.exists_of_contains hpart
    refine ⟨?_, ?_, ?_, hfit⟩ <;> cases w <;> nofun

/-- Nulls in a map and in a list, an enumeration member and a list inside a tuple. -/
theorem freeze_thaw_inverse_example :
    ∃ (d : Datum) (v : Value), d.freeze = .ok v ∧
      d = .map [(.str "a", .null), (.str "b", .tuple [.null, .enum (.str "red"), .list [.null]])] ∧
      v = .map [("b", .list [.str "red", .list []])] ∧ v.toDatum.freeze = .ok v ∧
      v.thaw = .map [(.str "b", .list [.str "red", .list []])] := by
  have hfreeze : Datum.freeze (.map [(.str "a", .null),
      (.str "b", .tuple [.null, .enum (.str "red"), .list [.null]])])
        = .ok (.map [("b", .list [.str "red", .list []])]) := rfl
  obtain ⟨-, hfrozen, -⟩ := freeze_thaw_inverse
  obtain ⟨-, hself, hthaw⟩ := hfrozen _ _ hfreeze
  exact ⟨_, _, hfreeze, rfl, rfl, hself, hthaw⟩

end Scaffold
