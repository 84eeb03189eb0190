import Scaffold.Pattern
import Scaffold.Proofs.Humps

namespace Scaffold

/-!
# Malformed decisions

Decisions come from outside and may hold anything. A project that is made
of them is the one of the decisions that are left when all pieces without
the form they should have are taken out.
-/

/-! ## Words and blanks -/

namespace Text

theorem not_isBlank_of_isAlphanumeric {c : Char} (h : isAlphanumeric c = true) :
    isBlank c = false :=
  not_isBlank_of (by decide) (by decide +kernel) h

theorem mem_dropWhile_of_not {s : List Char} {p : Char → Bool} {c : Char} (hc : c ∈ s)
    (h : p c = false) : c ∈ s.dropWhile p := by
  induction s with
  | nil => cases hc
  | cons d s ih =>
      rw [List.dropWhile_cons]
      split
      · next hd =>
          rcases List.mem_cons.mp hc with rfl | hc
          · rw [h] at hd
            cases hd
          · exact ih hc
      · exact hc

theorem mem_trim_of_not_blank {s : List Char} {c : Char} (hc : c ∈ s) (h : isBlank c = false) :
    c ∈ trim s := by
  rw [trim, trimEnd, List.mem_reverse]
  apply mem_dropWhile_of_not _ h
  rw [List.mem_reverse]
  exact mem_dropWhile_of_not hc h

theorem mem_of_mem_trim {s : List Char} {c : Char} (hc : c ∈ trim s) : c ∈ s := by
  rw [trim, trimEnd, List.mem_reverse] at hc
  have hstart := (List.dropWhile_sublist _).subset hc
  exact (List.dropWhile_sublist _).subset (List.mem_reverse.mp hstart)

end Text

namespace Words

open Text

theorem hasWord_iff (s : String) : hasWord s = true ↔ ∃ c ∈ s.toList, isAlphanumeric c = true := by
  have hne : hasWord s = true ↔ splitChars s.toList ≠ [] := by simp [hasWord, split]
  rw [hne]
  constructor
  · intro h
    obtain ⟨word, hword⟩ := List.exists_mem_of_ne_nil _ h
    have hparts := isWord_of_mem_splitChars hword
    obtain ⟨c, hc⟩ := List.exists_mem_of_ne_nil _ hparts.ne_nil
    exact ⟨c, hparts.subset c hc, hparts.alphanumeric c hc⟩
  · rintro ⟨c, hc, halnum⟩ hempty
    have htokens : tokens s.toList ≠ [] := by
      intro hnone
      have hseparates := runsFrom_eq_nil hnone c hc
      simp [halnum] at hseparates
    obtain ⟨token, htoken⟩ := List.exists_mem_of_ne_nil _ htokens
    obtain ⟨hne, -, -⟩ := mem_runsFrom (by simp) htoken
    rw [splitChars, List.flatMap_eq_nil_iff] at hempty
    apply hne
    rw [← List.flatten_splitBy (joined _) token, show token.splitBy _ = [] from hempty token htoken]
    rfl

theorem hasWord_trim (s : String) : hasWord (String.ofList (trim s.toList)) = hasWord s := by
  rw [Bool.eq_iff_iff, hasWord_iff, hasWord_iff, String.toList_ofList]
  constructor
  · rintro ⟨c, hc, halnum⟩
    exact ⟨c, mem_of_mem_trim hc, halnum⟩
  · rintro ⟨c, hc, halnum⟩
    exact ⟨c, mem_trim_of_not_blank hc (not_isBlank_of_isAlphanumeric halnum), halnum⟩

end Words

/-! ## Maps with revised items -/

namespace Datum

theorem sameKey_str_iff {k : Datum} {key : String} :
    sameKey k (.str key) = true ↔ k = .str key := by
  cases k <;> simp [sameKey, number?]

/-- The entries with the items of text keys revised; one that nothing comes back for is left out
with its key, and so are entries behind another with their key, which no one can read. -/
def reviseEntries (revise : String → Datum → Option Datum) :
    List (Datum × Datum) → List (Datum × Datum)
  | [] => []
  | (.str key, item) :: rest =>
    let others := (reviseEntries revise rest).filter fun e => !sameKey e.1 (.str key)
    match revise key item with
    | some item => (.str key, item) :: others
    | none => others
  | e :: rest => e :: reviseEntries revise rest

theorem get?_map_cons (k item : Datum) (rest : List (Datum × Datum)) (key : String) :
    (Datum.map ((k, item) :: rest)).get? key =
      if sameKey k (.str key) then some item else (Datum.map rest).get? key := by
  rw [get?, List.find?_cons]
  split <;> simp_all [get?]

theorem get?_filter_self (entries : List (Datum × Datum)) (key : String) :
    (Datum.map (entries.filter fun e => !sameKey e.1 (.str key))).get? key = none := by
  simp [get?, List.find?_filter]

theorem get?_filter_ne (entries : List (Datum × Datum)) {key other : String} (h : other ≠ key) :
    (Datum.map (entries.filter fun e => !sameKey e.1 (.str other))).get? key
      = (Datum.map entries).get? key := by
  induction entries with
  | nil => rfl
  | cons e rest ih =>
      obtain ⟨k, item⟩ := e
      rw [get?_map_cons, List.filter_cons]
      split
      · rw [get?_map_cons, ih]
      · next hdropped =>
          -- an entry that is dropped is one of the other key
          have hk : k = .str other := sameKey_str_iff.mp (by simpa using hdropped)
          have hne : sameKey k (.str key) = false := by simpa [hk, sameKey] using h
          rw [ih, hne]
          rfl

theorem get?_reviseEntries (revise : String → Datum → Option Datum)
    (entries : List (Datum × Datum)) (key : String) :
    (Datum.map (reviseEntries revise entries)).get? key
      = ((Datum.map entries).get? key).bind (revise key) := by
  fun_induction reviseEntries revise entries with
  | case1 => rfl
  | case2 other item rest others revised hrevise ih =>
      rw [get?_map_cons, get?_map_cons]
      by_cases h : other = key
      · subst h
        simp [sameKey, hrevise]
      · have hne : sameKey (.str other) (.str key) = false := by simpa [sameKey] using h
        rw [hne, if_neg Bool.false_ne_true, if_neg Bool.false_ne_true, ← ih]
        exact get?_filter_ne _ h
  | case3 other item rest others hrevise ih =>
      rw [get?_map_cons]
      by_cases h : other = key
      · subst h
        simpa [sameKey, hrevise] using get?_filter_self _ other
      · have hne : sameKey (.str other) (.str key) = false := by simpa [sameKey] using h
        rw [hne, if_neg Bool.false_ne_true, ← ih]
        exact get?_filter_ne _ h
  | case4 e rest hother ih =>
      obtain ⟨k, item⟩ := e
      have hne : sameKey k (.str key) = false := by
        rw [Bool.eq_false_iff, Ne, sameKey_str_iff]
        rintro rfl
        exact hother key item rfl
      rw [get?_map_cons, get?_map_cons, hne]
      exact ih

/-- A map with its items revised, whatever sort of map it is. -/
def revised (revise : String → Datum → Option Datum) : Datum → Datum
  | .map entries => .map (reviseEntries revise entries)
  | .context entries => .map (reviseEntries revise (Value.toDatumEntries entries))
  | d => d

theorem get?_toDatumEntries (entries : List (String × Value)) (key : String) :
    (Datum.map (Value.toDatumEntries entries)).get? key
      = (entries.lookup key).map Value.toDatum := by
  induction entries with
  | nil => rfl
  | cons e rest ih =>
      obtain ⟨k, v⟩ := e
      rw [Value.toDatumEntries, get?_map_cons, ih, List.lookup_cons, BEq.comm]
      cases h : k == key <;> simp [sameKey, h]

theorem item?_revised (revise : String → Datum → Option Datum) (d : Datum) (key : String) :
    (d.revised revise).item? key = (d.item? key).bind (revise key) := by
  cases d with
  | map entries => exact get?_reviseEntries revise entries key
  | context entries =>
      rw [item?, ← get?_toDatumEntries]
      exact get?_reviseEntries revise _ key
  | _ => rfl

theorem isMapping_revised (revise : String → Datum → Option Datum) (d : Datum) :
    (d.revised revise).isMapping = d.isMapping := by
  cases d <;> rfl

end Datum

namespace Decisions

open Datum

/-! ## What a piece has to be -/

def isFlag : Datum → Bool
  | .bool _ => true
  | _ => false

def isString : Datum → Bool
  | .str _ => true
  | _ => false

/-- A text that is not blank. -/
def isText : Datum → Bool
  | .str s => !(Text.trim s.toList).isEmpty
  | _ => false

/-- A text with a word in it. -/
def isName : Datum → Bool
  | .str s => Words.hasWord s
  | _ => false

/-- A list with only its items that are texts. -/
def textItems? : Datum → Option Datum
  | .list items => some (.list (items.filter isText))
  | _ => none

/-- A string, or a list with only its items that are strings. -/
def stringItems? : Datum → Option Datum
  | .str s => some (.str s)
  | .list items => some (.list (items.filter isString))
  | _ => none

/-! ## Fields and entities -/

def reviseField : String → Datum → Option Datum
  | "type" => Option.guard isString
  | "required" => Option.guard isFlag
  | _ => some

/-- A field that has a name, with its other parts revised. -/
def fieldSpec? : Datum → Option Datum
  | .str s => Option.guard isName (.str s)
  | spec =>
    if spec.isMapping && (name? (spec.item? "name")).isSome then some (spec.revised reviseField)
    else none

def fieldItems? : Datum → Option Datum
  | .list items => some (.list (items.filterMap fieldSpec?))
  | _ => none

def reviseEntity : String → Datum → Option Datum
  | "fields" => fieldItems?
  | "belongsTo" | "hasMany" => stringItems?
  | _ => some

/-- The name of an entity that is written as a map. -/
def entityName? (spec : Datum) : Option String :=
  if spec.isMapping then name? (spec.item? "name") else none

/-- The entities that have a name, each with its parts revised; one whose name in Pascal case has
been seen is left out. -/
def entityItems (seen : List String) : List Datum → List Datum
  | [] => []
  | spec :: rest =>
    match entityName? spec with
    | none => entityItems seen rest
    | some name =>
      if Words.pascal name ∈ seen then entityItems seen rest
      else spec.revised reviseEntity :: entityItems (Words.pascal name :: seen) rest

/-- A decision with all its pieces revised. -/
def revise : String → Datum → Option Datum
  | "projectName" | "entityName" => Option.guard isName
  | "description" | "paymentProvider" => Option.guard isText
  | "realTime" | "mediaUploads" | "mfa" | "search" | "exports" => Option.guard isFlag
  | "socialProviders" | "userGroups" => textItems?
  | "entities" => fun
    | .list items => some (.list (entityItems [] items))
    | _ => none
  | _ => some

/-- Decisions as the entries of a map. -/
def toEntries (d : Decisions) : List (Datum × Datum) :=
  d.entries.map fun (key, item) => (.str key, item)

/-- The decisions without their malformed pieces. -/
def sanitised (d : Decisions) : Decisions :=
  ofDatum (.map (reviseEntries revise d.toEntries))

example : sanitised ⟨[("mfa", .str "yes"), ("userGroups", .list [.int 1]), ("colour", .int 2)]⟩
    = ⟨[("userGroups", .list []), ("colour", .int 2)]⟩ := rfl

/-! ## Reading revised pieces -/

theorem get?_ofDatum (entries : List (Datum × Datum)) (key : String) :
    (ofDatum (.map entries)).get? key = (Datum.map entries).get? key := by
  induction entries with
  | nil => rfl
  | cons e rest ih =>
      obtain ⟨k, item⟩ := e
      rw [get?_map_cons, ← ih]
      cases k with
      | str other =>
          simp only [ofDatum, Decisions.get?, List.filterMap_cons, List.lookup_cons]
          cases h : other == key <;> simp [sameKey, BEq.comm (a := key), h]
      | _ => simp [ofDatum, Decisions.get?, sameKey, number?]

theorem ofDatum_toEntries (d : Decisions) : ofDatum (.map d.toEntries) = d := by
  simp [ofDatum, toEntries, List.filterMap_map]

theorem get?_sanitised (d : Decisions) (key : String) :
    d.sanitised.get? key = (d.get? key).bind (revise key) := by
  rw [sanitised, get?_ofDatum, get?_reviseEntries, ← get?_ofDatum, ofDatum_toEntries]

variable {key : String}

theorem flag_sanitised (h : revise key = Option.guard isFlag) (d : Decisions) (otherwise : Bool) :
    d.sanitised.flag key otherwise = d.flag key otherwise := by
  rw [flag, flag, get?_sanitised, h]
  cases d.get? key with
  | none => rfl
  | some item => cases item <;> rfl

theorem text?_sanitised (h : revise key = Option.guard isText) (d : Decisions) :
    d.sanitised.text? key = d.text? key := by
  rw [text?, text?, get?_sanitised, h]
  cases d.get? key with
  | none => rfl
  | some item =>
      cases item with
      | str s =>
          cases hempty : (Text.trim s.toList).isEmpty with
          | false => simp [Option.guard, isText, hempty]
          | true => simp [Option.guard, isText, hempty]
      | _ => rfl

/-- A text if it has a word in it. -/
def namedOr (otherwise : String) : Option String → String
  | some name => if Words.hasWord name then name else otherwise
  | none => otherwise

theorem namedOr_sanitised (h : revise key = Option.guard isName) (d : Decisions)
    (otherwise : String) :
    namedOr otherwise (d.sanitised.text? key) = namedOr otherwise (d.text? key) := by
  rw [text?, text?, get?_sanitised, h]
  cases d.get? key with
  | none => rfl
  | some item =>
      cases item with
      | str s =>
          cases hword : Words.hasWord s with
          | true => simp [Option.guard, isName, hword]
          | false =>
              -- without its blanks the text has no word either
              have htrimmed : Words.hasWord (String.ofList (Text.trim s.toList)) = false :=
                (Words.hasWord_trim s).trans hword
              cases hempty : (Text.trim s.toList).isEmpty <;>
                simp [Option.guard, isName, hword, hempty, namedOr, htrimmed]
      | _ => rfl

theorem texts_filter (items : List Datum) : texts (items.filter isText) = texts items := by
  rw [texts, texts, List.filterMap_filter]
  congr 1
  funext item
  cases item with
  | str s => cases hempty : (Text.trim s.toList).isEmpty <;> simp [isText, hempty]
  | _ => rfl

theorem textList_sanitised (h : revise key = textItems?) (d : Decisions)
    (otherwise : List String) :
    d.sanitised.textList key otherwise = d.textList key otherwise := by
  rw [textList, textList, get?_sanitised, h]
  cases d.get? key with
  | none => rfl
  | some item =>
      cases item with
      | list items => exact texts_filter items
      | _ => rfl

/-! ## Reading revised entities -/

theorem names_stringItems (item? : Option Datum) :
    names (item?.bind stringItems?) = names item? := by
  cases item? with
  | none => rfl
  | some item =>
      cases item with
      | list items =>
          simp only [Option.bind_some, stringItems?, names, List.filterMap_filter]
          congr 1
          funext item
          cases item <;> rfl
      | _ => rfl

/-- A field that is written as a map. -/
theorem field?_of_mapping {spec : Datum} (h : spec.isMapping = true) :
    field? spec = (name? (spec.item? "name")).map fun name =>
      Field.make name
        (match spec.item? "type" with
          | some (.str word) => FieldType.ofWord word
          | _ => .string)
        (match spec.item? "required" with
          | some (.bool b) => b
          | _ => true) := by
  cases spec with
  | map | context => rfl
  | _ => cases h

theorem field?_revised {spec : Datum} (h : spec.isMapping = true) :
    field? (spec.revised reviseField) = field? spec := by
  have hname : reviseField "name" = some := rfl
  have htype : reviseField "type" = Option.guard isString := rfl
  have hrequired : reviseField "required" = Option.guard isFlag := rfl
  rw [field?_of_mapping h, field?_of_mapping (by rwa [isMapping_revised]), item?_revised,
    item?_revised, item?_revised, hname, htype, hrequired, Option.bind_fun_some]
  congr 1
  funext name
  congr 1
  · cases spec.item? "type" with
    | none => rfl
    | some item => cases item <;> rfl
  · cases spec.item? "required" with
    | none => rfl
    | some item => cases item <;> rfl

theorem field?_fieldSpec (spec : Datum) : (fieldSpec? spec).bind field? = field? spec := by
  unfold fieldSpec?
  split
  · next s => cases hword : Words.hasWord s <;> simp [Option.guard, isName, field?, name?, hword]
  · next hnotText =>
      cases hmapping : spec.isMapping with
      | true =>
          cases hname : name? (spec.item? "name") with
          | some name => exact field?_revised hmapping
          | none =>
              rw [field?_of_mapping hmapping, hname]
              rfl
      | false =>
          cases spec with
          | str s => exact absurd rfl (hnotText s)
          | map | context => cases hmapping
          | _ => rfl

theorem fields_fieldItems (item? : Option Datum) :
    fields (item?.bind fieldItems?) = fields item? := by
  cases item? with
  | none => rfl
  | some item =>
      cases item with
      | list items =>
          simp only [Option.bind_some, fieldItems?, fields, List.filterMap_filterMap,
            field?_fieldSpec]
      | _ => rfl

theorem entity?_revised (spec : Datum) : entity? (spec.revised reviseEntity) = entity? spec := by
  have hname : reviseEntity "name" = some := rfl
  have hfields : reviseEntity "fields" = fieldItems? := rfl
  have hbelongsTo : reviseEntity "belongsTo" = stringItems? := rfl
  have hhasMany : reviseEntity "hasMany" = stringItems? := rfl
  simp only [entity?, isMapping_revised, item?_revised, hname, hfields, hbelongsTo, hhasMany,
    Option.bind_fun_some, fields_fieldItems, names_stringItems]

theorem entity?_eq (spec : Datum) :
    entity? spec = (entityName? spec).map fun name =>
      Model.make name (fields (spec.item? "fields")) (names (spec.item? "belongsTo"))
        (names (spec.item? "hasMany")) [AccessRule.owner.text] := by
  unfold entity? entityName?
  cases spec.isMapping <;> rfl

theorem name_foldl {f : Model → String → Model} (h : ∀ m target, (f m target).name = m.name)
    (targets : List String) (m : Model) : (targets.foldl f m).name = m.name := by
  induction targets generalizing m with
  | nil => rfl
  | cons target targets ih => rw [List.foldl_cons, ih, h]

theorem name_make (name : String) (fields : List Field)
    (belongsTo hasMany authorization : List String) :
    (Model.make name fields belongsTo hasMany authorization).name = Words.pascal name := by
  have howner : ∀ m target, (Model.addOwner m target).name = m.name := by
    intro m target
    rw [Model.addOwner, Model.withKey]
    split <;> rfl
  have hmany : ∀ m target, (Model.addMany m target).name = m.name := fun _ _ => rfl
  rw [Model.make, name_foldl hmany, name_foldl howner]

/-- The models with one more, unless its name is there. -/
def addNew (done : List Model) (m : Model) : List Model :=
  if Schema.knows done m.name then done else done ++ [m]

theorem foldl_addNew_entityItems (items : List Datum) {seen : List String} {done : List Model}
    (hseen : ∀ name, Schema.knows done name = true ↔ name ∈ seen) :
    ((entityItems seen items).filterMap entity?).foldl addNew done
      = (items.filterMap entity?).foldl addNew done := by
  induction items generalizing seen done with
  | nil => rfl
  | cons spec rest ih =>
      rw [entityItems, List.filterMap_cons, entity?_eq spec]
      cases hname : entityName? spec with
      | none => exact ih hseen
      | some name =>
          simp only [Option.map_some, List.foldl_cons]
          split
          · next hmem =>
              rw [addNew, name_make, if_pos ((hseen _).mpr hmem)]
              exact ih hseen
          · next hmem =>
              have hnew : ¬ Schema.knows done (Words.pascal name) = true :=
                fun hknows => hmem ((hseen _).mp hknows)
              rw [List.filterMap_cons, entity?_revised, entity?_eq spec, hname]
              simp only [Option.map_some, List.foldl_cons]
              rw [addNew, name_make, if_neg hnew]
              apply ih
              intro other
              rw [List.mem_cons, ← hseen, Schema.knows, List.any_append, Bool.or_eq_true, or_comm]
              simp only [List.any_cons, List.any_nil, Bool.or_false, name_make, beq_iff_eq,
                eq_comm (a := other), Schema.knows]

theorem firstOfName_entityItems (items : List Datum) :
    firstOfName ((entityItems [] items).filterMap entity?)
      = firstOfName (items.filterMap entity?) :=
  foldl_addNew_entityItems items (by simp [Schema.knows])

theorem entities?_sanitised (d : Decisions) : d.sanitised.entities? = d.entities? := by
  rw [entities?, entities?, get?_sanitised]
  cases d.get? "entities" with
  | none => rfl
  | some item =>
      cases item with
      | list items =>
          have hrevise : revise "entities" (.list items)
              = some (.list (entityItems [] items)) := rfl
          rw [Option.bind_some, hrevise]
          dsimp only
          rw [firstOfName_entityItems]
      | _ => rfl

end Decisions

/-! ## Projects -/

open Decisions

namespace Blueprint

theorem revise_storage {b : Blueprint} (h : b ∈ builtIn) :
    revise b.storage.decision = Option.guard isFlag := by
  simp only [builtIn, List.mem_cons, List.not_mem_nil, or_false] at h
  rcases h with rfl | rfl | rfl | rfl | rfl <;> rfl

theorem ownModels_sanitised {b : Blueprint} (h : b ∈ builtIn) (d : Decisions) :
    b.ownModels d.sanitised = b.ownModels d := by
  have hname : d.sanitised.entityName = d.entityName := namedOr_sanitised rfl d "Item"
  simp only [builtIn, List.mem_cons, List.not_mem_nil, or_false] at h
  rcases h with rfl | rfl | rfl | rfl | rfl
  · rfl
  · rfl
  · rfl
  · rfl
  · simp only [simpleCrud, hname]

theorem project_sanitised {b : Blueprint} (h : b ∈ builtIn) (d : Decisions) :
    b.project d.sanitised = b.project d := by
  have hname : d.sanitised.projectName = d.projectName := namedOr_sanitised rfl d "untitled-project"
  have hauth : Auth.ofDecisions d.sanitised b.socialProviders b.groups
      = Auth.ofDecisions d b.socialProviders b.groups := by
    rw [Auth.ofDecisions, Auth.ofDecisions, textList_sanitised rfl, flag_sanitised rfl,
      textList_sanitised rfl]
  have hstores := flag_sanitised (revise_storage h) d b.storage.byDefault
  have hrealTime : d.sanitised.flag "realTime" b.realTime = d.flag "realTime" b.realTime :=
    flag_sanitised rfl d b.realTime
  have hsearch : d.sanitised.flag "search" b.search = d.flag "search" b.search :=
    flag_sanitised rfl d b.search
  have hprovider : d.sanitised.text? "paymentProvider" = d.text? "paymentProvider" :=
    text?_sanitised rfl d
  have hdescription : d.sanitised.text? "description" = d.text? "description" :=
    text?_sanitised rfl d
  simp only [project, hname, entities?_sanitised, ownModels_sanitised h, hauth, hstores, hrealTime,
    hsearch, hprovider, hdescription]

end Blueprint

/-- Whatever the decisions are, the project of a name is made by one blueprint, with the same
warnings added. -/
theorem Builder.exists_blueprint (name : String) :
    ∃ b ∈ Blueprint.builtIn, ∃ warnings, ∀ d,
      Builder.standard.project ⟨name, d⟩
        = { b.project d with warnings := (b.project d).warnings ++ warnings } := by
  cases hfind : Patterns.builtIn.find? name with
  | some g =>
      rw [Patterns.find?, List.lookup_eq_some_iff] at hfind
      obtain ⟨before, after, hentries, hbefore⟩ := hfind
      have hmem : (name, g) ∈ Patterns.builtIn.entries := by simp [hentries]
      obtain ⟨b, hb, heq⟩ := List.mem_map.mp hmem
      cases heq
      refine ⟨b, hb, [], fun d => ?_⟩
      have hfound : Patterns.builtIn.find? b.name = some (.ofBlueprint b) := by
        rw [Patterns.find?, List.lookup_eq_some_iff]
        exact ⟨before, after, hentries, by assumption⟩
      simp only [Builder.project, Builder.standard, hfound, List.append_nil]
      rfl
  | none =>
      refine ⟨.simpleCrud, by simp [Blueprint.builtIn], [s!"unknown_pattern:{name}"], fun d => ?_⟩
      simp only [Builder.project, Builder.standard, hfind]
      rfl

namespace PatternConfig

open Datum

/-- A request as data. -/
def toDatum (config : PatternConfig) : Datum :=
  .map [(.str "patternName", .str config.patternName),
    (.str "decisions", .map config.decisions.toEntries)]

theorem readEntries_toEntries (d : Decisions) : readEntries d.toEntries = (d.entries, []) := by
  have hfold : ∀ entries done : List (String × Datum),
      entries.foldl
        (fun (read : List (String × Datum) × List Complaint) e => (read.1 ++ [e], read.2))
        (done, []) = (done ++ entries, []) := by
    intro entries
    induction entries with
    | nil => simp
    | cons e rest ih =>
        intro done
        rw [List.foldl_cons, ih]
        simp
  rw [readEntries, Decisions.toEntries, List.foldl_map]
  exact hfold d.entries []

theorem ofDatum_toDatum (config : PatternConfig) : ofDatum config.toDatum = .ok config := by
  have hname : config.toDatum.item? "patternName" = some (.str config.patternName) := by
    simp [toDatum, item?, get?_map_cons, sameKey]
  have hdecisions : config.toDatum.item? "decisions" = some (.map config.decisions.toEntries) := by
    simp [toDatum, item?, get?_map_cons, sameKey]
  have hreadName : readName config.toDatum = .ok config.patternName := by
    simp [readName, hname, textOf?]
  have hread : readDecisions (.map config.decisions.toEntries) = .ok config.decisions := by
    rw [readDecisions, readEntries_toEntries]
  have hmapping : config.toDatum.isMapping = true := rfl
  simp only [ofDatum, hmapping, hdecisions, hreadName, hread, Bool.not_true, Bool.false_eq_true,
    ↓reduceIte]

end PatternConfig

/-- Any decisions make a project, and it is the one of the decisions without their malformed
pieces. -/
theorem Builder.build_sanitised (name : String) (d : Decisions) :
    ∃ c, (PatternConfig.ofDatum (PatternConfig.toDatum ⟨name, d⟩)).map Builder.standard.build
        = .ok c ∧
      (PatternConfig.ofDatum (PatternConfig.toDatum ⟨name, d.sanitised⟩)).map
        Builder.standard.build = .ok c := by
  obtain ⟨b, hb, warnings, hproject⟩ := Builder.exists_blueprint name
  refine ⟨Builder.standard.build ⟨name, d⟩, ?_, ?_⟩
  · rw [PatternConfig.ofDatum_toDatum]
    rfl
  · rw [PatternConfig.ofDatum_toDatum]
    apply congrArg Except.ok
    rw [Builder.build, Builder.build, hproject, hproject, b.project_sanitised hb]

end Scaffold
