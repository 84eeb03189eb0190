import Scaffold.Files.Edit

namespace Scaffold

/-!
# Locations without links

Names that meet no link and no double dot lead to the location that they
spell, as far as there are directories. Locations that resolving gives are
of this kind, unless it meets a link that leads back to itself. Along them directories are made, and a file is put at their
end, exactly when nothing else stands in the way, and everything apart
from them stays as it is.
-/

namespace FileTree

variable {t t' u : FileTree} {l m : Location} {name : String}

/-! ## Nodes -/

@[simp] theorem node?_nil (t : FileTree) : t.node? [] = some .directory := rfl

theorem lookup_cons_ite (l m : Location) (node : TreeNode) (entries : List (Location × TreeNode)) :
    ((l, node) :: entries).lookup m = if m = l then some node else entries.lookup m := by
  rw [List.lookup_cons]
  by_cases hm : m = l
  · rw [if_pos hm, beq_iff_eq.mpr hm]
  · rw [if_neg hm, beq_eq_false_iff_ne.mpr hm]

theorem lookup_putEntry (l m : Location) (node : TreeNode) (entries : List (Location × TreeNode)) :
    (putEntry l node entries).lookup m = if m = l then some node else entries.lookup m := by
  induction entries with
  | nil => rw [putEntry, lookup_cons_ite]
  | cons entry entries ih =>
      obtain ⟨k, n⟩ := entry
      rw [putEntry, lookup_cons_ite]
      by_cases hk : k = l
      · rw [if_pos hk, lookup_cons_ite, hk]
        by_cases hm : m = l
        · rw [if_pos hm, if_pos hm]
        · rw [if_neg hm, if_neg hm, if_neg hm]
      · rw [if_neg hk, lookup_cons_ite, ih]
        by_cases hm : m = k
        · have hml : m ≠ l := fun heq => hk (hm.symm.trans heq)
          rw [if_pos hm, if_neg hml, if_pos hm]
        · rw [if_neg hm, if_neg hm]

theorem node?_put (hl : l ≠ []) (node : TreeNode) (m : Location) :
    (t.put l node).node? m = if m = l then some node else t.node? m := by
  by_cases hm : m = []
  · have hne : m ≠ l := fun heq => hl (heq ▸ hm)
    rw [if_neg hne, hm, node?_nil, node?_nil]
  · rw [node?, node?, if_neg hm, if_neg hm, put, lookup_putEntry]

/-- The last name is not too long. -/
def Short (l : Location) : Prop :=
  ∀ name, l.getLast? = some name → name.utf8ByteSize ≤ longestName

theorem short_concat_iff : Short (l ++ [name]) ↔ name.utf8ByteSize ≤ longestName := by
  simp [Short]

/-- There is a directory at the location and at every one above it. -/
def Folder (t : FileTree) (l : Location) : Prop :=
  ∀ m, m <+: l → t.node? m = some .directory

theorem folder_nil (t : FileTree) : t.Folder [] := by
  intro m hm
  rw [List.prefix_nil.mp hm, node?_nil]

theorem Folder.of_prefix (h : t.Folder l) (hm : m <+: l) : t.Folder m :=
  fun _ hk => h _ (hk.trans hm)

theorem folder_concat_iff :
    t.Folder (l ++ [name]) ↔ t.Folder l ∧ t.node? (l ++ [name]) = some .directory := by
  constructor
  · intro h
    exact ⟨h.of_prefix (List.prefix_append _ _), h _ (List.prefix_refl _)⟩
  · rintro ⟨hl, hname⟩ m hm
    rcases List.prefix_concat_iff.mp hm with rfl | hm
    · exact hname
    · exact hl m hm

/-- The first name along a location that is not that of a directory. -/
theorem folder_or_stop (t : FileTree) (l : Location) :
    t.Folder l ∨ ∃ front name rest, l = front ++ name :: rest ∧ t.Folder front ∧
      t.node? (front ++ [name]) ≠ some .directory := by
  suffices hgo : ∀ rest front, t.Folder front → t.Folder (front ++ rest) ∨
      ∃ front' name rest', front ++ rest = front' ++ name :: rest' ∧ t.Folder front' ∧
        t.node? (front' ++ [name]) ≠ some .directory from hgo l [] (folder_nil t)
  intro rest
  induction rest with
  | nil =>
      intro front hfront
      exact .inl ((List.append_nil front).symm ▸ hfront)
  | cons name rest ih =>
      intro front hfront
      by_cases hname : t.node? (front ++ [name]) = some .directory
      · have hnext : t.Folder (front ++ [name]) := folder_concat_iff.mpr ⟨hfront, hname⟩
        have hassoc : front ++ name :: rest = front ++ [name] ++ rest := by simp
        rw [hassoc]
        exact ih _ hnext
      · exact .inr ⟨front, name, rest, rfl, hfront, hname⟩

/-- Neither a link nor a way back up is met along the location. -/
structure Direct (t : FileTree) (l : Location) : Prop where
  noParent : ".." ∉ l
  noLink : ∀ m, m <+: l → ∀ target, t.node? m ≠ some (.link target)

theorem direct_nil (t : FileTree) : t.Direct [] := by
  refine ⟨List.not_mem_nil, ?_⟩
  intro m hm target
  rw [List.prefix_nil.mp hm, node?_nil]
  exact fun h => nomatch h

theorem Direct.of_prefix (h : t.Direct l) (hm : m <+: l) : t.Direct m :=
  ⟨fun hmem => h.noParent (hm.subset hmem), fun _ hk => h.noLink _ (hk.trans hm)⟩

theorem Direct.concat (h : t.Direct l) (hname : name ≠ "..")
    (hlink : ∀ target, t.node? (l ++ [name]) ≠ some (.link target)) : t.Direct (l ++ [name]) := by
  constructor
  · simpa using ⟨h.noParent, hname.symm⟩
  · intro m hm
    rcases List.prefix_concat_iff.mp hm with rfl | hm
    · exact hlink
    · exact h.noLink m hm

theorem noParent_of_append_cons {rest : List String} (h : ".." ∉ l ++ name :: rest) :
    ".." ∉ l ∧ name ≠ ".." := by
  constructor
  · exact fun hmem => h (List.mem_append_left _ hmem)
  · rintro rfl
    exact h (List.mem_append_right _ List.mem_cons_self)

/-! ## Walking -/

theorem walkIn_append_of_folders (enter : Location → List String → Arrival) {front : List String}
    (hparent : ".." ∉ front) (here : Location)
    (hdirs : ∀ m, m <+: front → m ≠ [] → t.node? (here ++ m) = some .directory)
    (rest : List String) :
    t.walkIn enter here (front ++ rest) = t.walkIn enter (here ++ front) rest := by
  induction front generalizing here with
  | nil => rw [List.nil_append, List.append_nil]
  | cons name front ih =>
      obtain ⟨hname, hfront⟩ := not_or.mp fun hmem => hparent (List.mem_cons.mpr hmem)
      have hnext : t.node? (here ++ [name]) = some .directory :=
        hdirs [name] (List.prefix_append _ _) (List.cons_ne_nil _ _)
      have hrest : ∀ m, m <+: front → m ≠ [] → t.node? (here ++ [name] ++ m) = some .directory := by
        intro m hm _
        have hlong := hdirs (name :: m) (List.cons_prefix_cons.mpr ⟨rfl, hm⟩) (List.cons_ne_nil _ _)
        rwa [List.append_assoc]
      rw [List.cons_append, walkIn, if_neg (Ne.symm hname)]
      simp only [hnext]
      rw [ih hfront _ hrest, List.append_assoc, List.singleton_append]

theorem Folder.walk_append (h : t.Folder l) (hparent : ".." ∉ l) (rest : List String) :
    t.walk (l ++ rest) = t.walkThrough 41 l rest :=
  walkIn_append_of_folders _ hparent [] (fun m hm _ => h m hm) rest

theorem Folder.walk (h : t.Folder l) (hparent : ".." ∉ l) : t.walk l = .there l .directory := by
  have hwalk := h.walk_append hparent []
  rw [List.append_nil] at hwalk
  rw [hwalk, walkThrough, walkIn]

theorem Folder.walk_missing (h : t.Folder l) {rest : List String}
    (hparent : ".." ∉ l ++ name :: rest) (hnone : t.node? (l ++ [name]) = none) :
    t.walk (l ++ name :: rest) =
      if longestName < name.utf8ByteSize then .stuck .nameTooLong
      else if rest.isEmpty then .gap (l ++ [name]) else .stuck .notFound := by
  obtain ⟨hl, hname⟩ := noParent_of_append_cons hparent
  rw [h.walk_append hl, walkThrough, walkIn, if_neg hname]
  simp only [hnone]

theorem Folder.walk_file (h : t.Folder l) {rest : List String} {content : ByteArray}
    (hparent : ".." ∉ l ++ name :: rest) (hfile : t.node? (l ++ [name]) = some (.file content)) :
    t.walk (l ++ name :: rest) =
      if rest.isEmpty then .there (l ++ [name]) (.file content) else .stuck .notDirectory := by
  obtain ⟨hl, hname⟩ := noParent_of_append_cons hparent
  rw [h.walk_append hl, walkThrough, walkIn, if_neg hname]
  simp only [hfile]

theorem Direct.folder_of_walk (h : t.Direct l) {place : Location}
    (hwalk : t.walk l = .there place .directory) : t.Folder l := by
  rcases t.folder_or_stop l with hfolder | ⟨front, name, rest, rfl, hfront, hstop⟩
  · exact hfolder
  · have hstart : front ++ [name] <+: front ++ name :: rest := ⟨rest, by simp⟩
    cases hnode : t.node? (front ++ [name]) with
    | none =>
        rw [hfront.walk_missing h.noParent hnode] at hwalk
        split at hwalk
        · cases hwalk
        · split at hwalk <;> cases hwalk
    | some node =>
        cases node with
        | directory => exact absurd hnode hstop
        | file content =>
            rw [hfront.walk_file h.noParent hnode] at hwalk
            split at hwalk <;> cases hwalk
        | link target => exact absurd hnode (h.noLink _ hstart target)

theorem Direct.isDirectory_iff (h : t.Direct l) : t.isDirectory l = true ↔ t.Folder l := by
  constructor
  · intro hdir
    unfold isDirectory at hdir
    split at hdir
    · next hwalk => exact h.folder_of_walk hwalk
    · cases hdir
  · intro hfolder
    rw [isDirectory, hfolder.walk h.noParent]

/-! ## Resolving -/

/-- Resolving leads to locations without links, whatever the tree. -/
theorem resolveIn_direct {enter : List Location → Location → List String → Resolution}
    (henter : ∀ {seen here names l}, t.Direct here → enter seen here names = .place l → t.Direct l)
    {seen : List Location} {here : Location} {names : List String} (hhere : t.Direct here)
    (h : t.resolveIn enter seen here names = .place l) : t.Direct l := by
  induction names generalizing here with
  | nil =>
      cases h
      exact hhere
  | cons name rest ih =>
      rw [resolveIn] at h
      by_cases hname : name = ".."
      · rw [if_pos hname] at h
        exact ih (hhere.of_prefix (List.dropLast_prefix here)) h
      · rw [if_neg hname] at h
        dsimp only at h
        split at h
        · next target _ =>
            split at h
            · cases h
            · split at h
              · next hplace =>
                  -- the link is followed from a location that is direct itself
                  have hstart : t.Direct (if target.isAbsolute then [] else here) := by
                    split
                    · exact direct_nil t
                    · exact hhere
                  exact ih (henter hstart hplace) h
              · cases h
        · next hstay => exact ih (hhere.concat hname hstay) h

theorem resolveThrough_direct {depth : Nat} {seen : List Location} {here : Location}
    {names : List String} (hhere : t.Direct here)
    (h : t.resolveThrough depth seen here names = .place l) : t.Direct l := by
  induction depth generalizing seen here names l with
  | zero => cases h
  | succ depth ih => exact resolveIn_direct ih hhere h

theorem resolveLinks_direct {names : List String} (h : t.resolveLinks names = .place l) :
    t.Direct l :=
  resolveThrough_direct (direct_nil t) h

/-- Resolving the names meets no link that leads back to itself. -/
def Settled (t : FileTree) (names : List String) : Prop :=
  ∃ l, t.resolveLinks names = .place l

theorem Settled.direct {names : List String} (h : t.Settled names)
    (hplace : t.resolve names = .place l) : t.Direct l := by
  obtain ⟨place, hlinks⟩ := h
  rw [resolve, hlinks] at hplace
  cases hplace
  exact resolveLinks_direct hlinks

theorem noParent_follow (names : List String) (hl : ".." ∉ l) : ".." ∉ Location.follow l names := by
  induction names generalizing l with
  | nil => exact hl
  | cons name names ih =>
      refine ih ?_
      rw [Location.enter]
      split
      · exact hl
      · split
        · exact fun hmem => hl ((List.dropLast_prefix l).subset hmem)
        · next hname => simpa using ⟨hl, Ne.symm hname⟩

/-- No double dot is left where resolving leads, whatever the links. -/
theorem resolve_noParent {names : List String} (h : t.resolve names = .place l) : ".." ∉ l := by
  unfold resolve at h
  split at h
  · next hlinks =>
      cases h
      exact (resolveLinks_direct hlinks).noParent
  · dsimp only at h
    split at h
    · cases h
    · cases h
      exact noParent_follow _ List.not_mem_nil

/-- Names that meet no link are resolved to themselves. -/
theorem resolveIn_of_direct (enter : List Location → Location → List String → Resolution)
    (seen : List Location) {here : Location} {names : List String}
    (h : t.Direct (here ++ names)) : t.resolveIn enter seen here names = .place (here ++ names) := by
  induction names generalizing here with
  | nil => rw [resolveIn, List.append_nil]
  | cons name rest ih =>
      have hassoc : here ++ name :: rest = here ++ [name] ++ rest := by simp
      have hstart : here ++ [name] <+: here ++ name :: rest := ⟨rest, by simp⟩
      have hname : name ≠ ".." := (noParent_of_append_cons h.noParent).2
      have hnext : t.resolveIn enter seen (here ++ [name]) rest = .place (here ++ name :: rest) := by
        rw [hassoc] at h ⊢
        exact ih h
      rw [resolveIn, if_neg hname]
      dsimp only
      split
      · next target hlink => exact absurd hlink (h.noLink _ hstart target)
      · exact hnext

theorem Direct.resolveLinks (h : t.Direct l) : t.resolveLinks l = .place l :=
  resolveIn_of_direct _ [] ((List.nil_append l).symm ▸ h)

theorem Direct.resolve (h : t.Direct l) : t.resolve l = .place l := by
  rw [FileTree.resolve, h.resolveLinks]

/-! ## Making directories -/

/-- Nothing but directories along the location, and what is missing can be made. -/
def Free (t : FileTree) (l : Location) : Prop :=
  ∀ m, m <+: l → t.node? m = some .directory ∨ t.node? m = none ∧ Short m

theorem Free.of_prefix (h : t.Free l) (hm : m <+: l) : t.Free m :=
  fun _ hk => h _ (hk.trans hm)

theorem Free.contains_eq_false (h : t.Free l) (hparent : ".." ∉ l) (hnone : t.node? l = none) :
    t.contains l = .ok false := by
  rcases t.folder_or_stop l with hfolder | ⟨front, name, rest, rfl, hfront, hstop⟩
  · rw [hfolder l (List.prefix_refl l)] at hnone
    cases hnone
  · obtain ⟨hmissing, hshort⟩ := (h (front ++ [name]) ⟨rest, by simp⟩).resolve_left hstop
    have hwalk := hfront.walk_missing hparent hmissing
    rw [if_neg (Nat.not_lt.mpr (short_concat_iff.mp hshort))] at hwalk
    rw [contains, hwalk]
    cases rest.isEmpty <;> rfl

/-- The trees differ at most in directories along the location that are new. -/
def Grows (t u : FileTree) (l : Location) : Prop :=
  ∀ m, u.node? m = t.node? m ∨
    m <+: l ∧ t.node? m = none ∧ Short m ∧ u.node? m = some .directory

theorem Grows.refl (t : FileTree) (l : Location) : t.Grows t l :=
  fun _ => .inl rfl

theorem Grows.of_prefix (h : t.Grows u m) (hm : m <+: l) : t.Grows u l := by
  intro k
  rcases h k with hsame | ⟨hk, hrest⟩
  · exact .inl hsame
  · exact .inr ⟨hk.trans hm, hrest⟩

theorem Grows.trans (h : t.Grows t' l) (h' : t'.Grows u l) : t.Grows u l := by
  intro m
  rcases h' m with hsame | ⟨hm, hnone, hshort, hnew⟩
  · rw [hsame]
    exact h m
  · rcases h m with hsame | ⟨_, _, _, hdirectory⟩
    · exact .inr ⟨hm, hsame ▸ hnone, hshort, hnew⟩
    · rw [hdirectory] at hnone
      cases hnone

theorem Grows.direct (h : t.Grows u m) (hl : t.Direct l) : u.Direct l := by
  refine ⟨hl.noParent, ?_⟩
  intro k hk target hlink
  rcases h k with hsame | ⟨_, _, _, hdirectory⟩
  · exact hl.noLink k hk target (hsame ▸ hlink)
  · rw [hdirectory] at hlink
    cases hlink

theorem grows_put (hnone : t.node? l = none) (hshort : Short l) :
    t.Grows (t.put l .directory) l := by
  have hne : l ≠ [] := by
    rintro rfl
    cases hnone
  intro m
  rw [node?_put hne]
  by_cases hm : m = l
  · subst hm
    exact .inr ⟨List.prefix_refl _, hnone, hshort, if_pos rfl⟩
  · exact .inl (if_neg hm)

theorem makeDirectory_of_folder (h : t.Folder l) (hparent : ".." ∉ l ++ [name]) :
    t.makeDirectory (l ++ [name]) =
      if (t.node? (l ++ [name])).isSome then .error .alreadyThere
      else if longestName < name.utf8ByteSize then .error .nameTooLong
      else .ok (t.put (l ++ [name]) .directory) := by
  obtain ⟨hl, hname⟩ := noParent_of_append_cons hparent
  unfold makeDirectory
  rw [List.getLast?_concat, List.dropLast_concat]
  simp only [h.walk hl, hname, decide_false, Bool.or_false]

theorem Direct.makeDirectory_of_not_folder (h : t.Direct l) (hfolder : ¬t.Folder l)
    (name : String) :
    ∃ trouble, t.makeDirectory (l ++ [name]) = .error trouble := by
  unfold makeDirectory
  rw [List.getLast?_concat, List.dropLast_concat]
  cases hwalk : t.walk l with
  | there place node =>
      cases node with
      | directory => exact absurd (h.folder_of_walk hwalk) hfolder
      | file content => exact ⟨_, rfl⟩
      | link target => exact ⟨_, rfl⟩
  | gap place => exact ⟨_, rfl⟩
  | stuck trouble => exact ⟨_, rfl⟩

theorem Direct.makeDirectory_of_free (h : t.Direct l) (hfree : t.Free l) (hfolder : ¬t.Folder l)
    (name : String) :
    t.makeDirectory (l ++ [name]) = .error .notFound := by
  rcases t.folder_or_stop l with hall | ⟨front, stop, rest, rfl, hfront, hstop⟩
  · exact absurd hall hfolder
  · obtain ⟨hnone, hshort⟩ := (hfree (front ++ [stop]) ⟨rest, by simp⟩).resolve_left hstop
    have hwalk := hfront.walk_missing h.noParent hnone
    rw [if_neg (Nat.not_lt.mpr (short_concat_iff.mp hshort))] at hwalk
    unfold makeDirectory
    rw [List.getLast?_concat, List.dropLast_concat]
    cases hempty : rest.isEmpty with
    | true =>
        rw [hempty, if_pos rfl] at hwalk
        simp only [hwalk]
    | false =>
        rw [hempty, if_neg (by simp)] at hwalk
        simp only [hwalk]

/-- What making a directory with all that is missing above it leads to. -/
structure Made (t : FileTree) (l : Location) (result : FileTree × Option Mishap) : Prop where
  grows : t.Grows result.1 l
  folder : result.2 = none → result.1.Folder l
  ok : t.Free l → result.2 = none

/-- Makes one directory, or finds it there. -/
def makeOrFind (t : FileTree) (l : Location) : FileTree × Option Mishap :=
  match t.makeDirectory l with
  | .ok t => (t, none)
  | .error trouble => if t.isDirectory l then (t, none) else (t, some (trouble, l))

/-- Makes one directory, or finds it there, when there was no mishap above it. -/
def makeBelow (l : Location) : FileTree × Option Mishap → FileTree × Option Mishap
  | (t, some mishap) => (t, some mishap)
  | (t, none) => t.makeOrFind l

theorem Direct.made_of_error (h : t.Direct l) {trouble : FileTrouble}
    (herror : t.makeDirectory l = .error trouble) (hfree : t.Free l → t.Folder l) :
    Made t l (t.makeOrFind l) := by
  rw [makeOrFind, herror]
  by_cases hfolder : t.Folder l
  · simp only [h.isDirectory_iff.mpr hfolder, if_true]
    exact ⟨.refl t l, fun _ => hfolder, fun _ => rfl⟩
  · have hnot : ¬t.isDirectory l = true := fun hdir => hfolder (h.isDirectory_iff.mp hdir)
    simp only [if_neg hnot]
    exact ⟨.refl t l, fun hok => (nomatch hok), fun hall => absurd (hfree hall) hfolder⟩

theorem Folder.made (h : t.Folder l) (hdirect : t.Direct (l ++ [name])) :
    Made t (l ++ [name]) (t.makeOrFind (l ++ [name])) := by
  have hmake := makeDirectory_of_folder h hdirect.noParent
  cases hnode : t.node? (l ++ [name]) with
  | none =>
      rw [hnode, if_neg (by simp)] at hmake
      by_cases hlong : longestName < name.utf8ByteSize
      · rw [if_pos hlong] at hmake
        refine hdirect.made_of_error hmake fun hfree => ?_
        rcases hfree _ (List.prefix_refl _) with hdirectory | ⟨_, hshort⟩
        · rw [hnode] at hdirectory
          cases hdirectory
        · exact absurd (short_concat_iff.mp hshort) (Nat.not_le.mpr hlong)
      · rw [if_neg hlong] at hmake
        have hgrows := grows_put hnode (short_concat_iff.mpr (Nat.not_lt.mp hlong))
        have hfolder : (t.put (l ++ [name]) .directory).Folder (l ++ [name]) := by
          intro m hm
          rw [node?_put (by simp)]
          rcases List.prefix_concat_iff.mp hm with rfl | hm
          · exact if_pos rfl
          · split
            · rfl
            · exact h m hm
        rw [makeOrFind, hmake]
        exact ⟨hgrows, fun _ => hfolder, fun _ => rfl⟩
  | some node =>
      rw [hnode, Option.isSome_some, if_pos rfl] at hmake
      refine hdirect.made_of_error hmake fun hfree => ?_
      rcases hfree _ (List.prefix_refl _) with hdirectory | ⟨hnone, _⟩
      · exact folder_concat_iff.mpr ⟨h, hdirectory⟩
      · rw [hnode] at hnone
        cases hnone

theorem makeDirectoriesFrom_cons_of_ne {above : List String}
    (h : t.makeDirectory (above.reverse ++ [name]) ≠ .error .notFound) :
    t.makeDirectoriesFrom (name :: above) = t.makeOrFind (above.reverse ++ [name]) := by
  rw [makeDirectoriesFrom, makeOrFind, List.reverse_cons]
  split
  · next hok => simp only [hok]
  · next herror => exact absurd herror h
  · next herror => simp only [herror]

theorem makeDirectoriesFrom_cons_of_missing {above : List String}
    (h : t.makeDirectory (above.reverse ++ [name]) = .error .notFound) :
    t.makeDirectoriesFrom (name :: above) =
      makeBelow (above.reverse ++ [name]) (t.makeDirectoriesFrom above) := by
  rw [makeDirectoriesFrom, List.reverse_cons]
  simp only [h]
  rfl

theorem Grows.free (h : t.Grows u m) (hl : t.Free l) : u.Free l := by
  intro k hk
  rcases h k with hsame | ⟨_, _, _, hdirectory⟩
  · rw [hsame]
    exact hl k hk
  · exact .inl hdirectory

/-- Once what is above is made, one more directory is. -/
theorem Made.below {result : FileTree × Option Mishap} (h : Made t l result)
    (hdirect : t.Direct (l ++ [name])) :
    Made t (l ++ [name]) (makeBelow (l ++ [name]) result) := by
  obtain ⟨hgrows, hfolder, hok⟩ := h
  obtain ⟨u, mishap?⟩ := result
  have hlong : t.Grows u (l ++ [name]) := hgrows.of_prefix (List.prefix_append _ _)
  cases mishap? with
  | some mishap =>
      -- what is above could not be made, so the names are not free
      refine ⟨hlong, fun hnone => (nomatch hnone), fun hfree => ?_⟩
      exact hok (hfree.of_prefix (List.prefix_append _ _))
  | none =>
      obtain ⟨hgrows', hfolder', hok'⟩ := (hfolder rfl).made (hgrows.direct hdirect)
      exact ⟨hlong.trans hgrows', hfolder', fun hfree => hok' (hgrows.free hfree)⟩

/-- Directories are made from the first one that is missing on. -/
theorem made_from {above : List String} (h : t.Direct above.reverse) :
    Made t above.reverse (t.makeDirectoriesFrom above) := by
  induction above with
  | nil => exact ⟨.refl t _, fun _ => t.folder_nil, fun _ => rfl⟩
  | cons name above ih =>
      rw [List.reverse_cons] at h ⊢
      have habove : t.Direct above.reverse := h.of_prefix (List.prefix_append _ _)
      by_cases hfolder : t.Folder above.reverse
      · rw [makeDirectoriesFrom_cons_of_ne]
        · exact hfolder.made h
        · rw [makeDirectory_of_folder hfolder h.noParent]
          split
          · simp
          · split <;> simp
      · obtain ⟨trouble, herror⟩ := habove.makeDirectory_of_not_folder hfolder name
        -- only a directory that is not found sends the recursion upwards
        by_cases hmissing : trouble = .notFound
        · rw [hmissing] at herror
          rw [makeDirectoriesFrom_cons_of_missing herror]
          exact (ih habove).below h
        · rw [makeDirectoriesFrom_cons_of_ne]
          · refine h.made_of_error herror fun hfree => ?_
            have hfound := habove.makeDirectory_of_free
              (hfree.of_prefix (List.prefix_append _ _)) hfolder name
            rw [herror] at hfound
            exact absurd (Except.error.inj hfound) hmissing
          · rw [herror]
            exact fun h => hmissing (Except.error.inj h)

theorem Direct.made (h : t.Direct l) : Made t l (t.makeDirectories l) := by
  rw [← List.reverse_reverse l] at h
  have hmade := made_from h
  rwa [List.reverse_reverse] at hmade

/-! ## Writing one file -/

theorem prefix_dropLast_of_ne {l m : Location} (h : l <+: m) (hne : l ≠ m) : l <+: m.dropLast := by
  rcases List.eq_nil_or_concat m with rfl | ⟨above, name, rfl⟩
  · exact absurd (List.prefix_nil.mp h) hne
  · rw [List.concat_eq_append] at h hne ⊢
    rw [List.dropLast_concat]
    exact (List.prefix_concat_iff.mp h).resolve_left hne

/-- Nothing stands in the way of a file at the location. -/
structure Writable (t : FileTree) (l : Location) : Prop where
  above : t.Free l.dropLast
  noDirectory : t.node? l ≠ some .directory
  noLink : ∀ target, t.node? l ≠ some (.link target)
  short : t.node? l = none → Short l

theorem Writable.free (h : t.Writable l) (hm : m <+: l) (hne : m ≠ l) :
    t.node? m = some .directory ∨ t.node? m = none ∧ Short m :=
  h.above m (prefix_dropLast_of_ne hm hne)

theorem Writable.ne_nil (h : t.Writable l) : l ≠ [] := by
  rintro rfl
  exact h.noDirectory rfl

theorem Writable.direct (h : t.Writable l) (hparent : ".." ∉ l) : t.Direct l := by
  refine ⟨hparent, fun m hm target hlink => ?_⟩
  by_cases heq : m = l
  · exact h.noLink target (heq ▸ hlink)
  · have hfree := h.free hm heq
    simp [hlink] at hfree

/-- The tree `u` is `t` with a file at the location and directories above it. -/
structure Stored (t : FileTree) (l : Location) (content : ByteArray) (u : FileTree) : Prop where
  file : u.node? l = some (.file content)
  above : ∀ m, m <+: l → m ≠ l → u.node? m = some .directory
  beside : ∀ m, ¬m <+: l → u.node? m = t.node? m

/-- The three places that a location can have as seen from another one. -/
theorem place_cases (m l : Location) : m = l ∨ m <+: l ∧ m ≠ l ∨ ¬m <+: l := by
  by_cases hm : m <+: l
  · by_cases heq : m = l
    · exact .inl heq
    · exact .inr (.inl ⟨hm, heq⟩)
  · exact .inr (.inr hm)

theorem Grows.free_of_folder (h : t.Grows u l) (hfolder : u.Folder l) : t.Free l := by
  intro m hm
  rcases h m with hsame | ⟨_, hnone, hshort, _⟩
  · exact .inl (hsame ▸ hfolder m hm)
  · exact .inr ⟨hnone, hshort⟩

theorem Grows.node?_concat (h : t.Grows u l) : u.node? (l ++ [name]) = t.node? (l ++ [name]) := by
  rcases h (l ++ [name]) with hsame | ⟨hlong, _⟩
  · exact hsame
  · have hlength := hlong.length_le
    rw [List.length_append, List.length_singleton] at hlength
    omega

theorem write_of_folder (h : t.Folder l) (hdirect : t.Direct (l ++ [name]))
    (hno : t.node? (l ++ [name]) ≠ some .directory)
    (hshort : t.node? (l ++ [name]) = none → Short (l ++ [name])) (content : ByteArray) :
    t.write (l ++ [name]) content = .ok (t.put (l ++ [name]) (.file content)) := by
  cases hnode : t.node? (l ++ [name]) with
  | none =>
      have hwalk := h.walk_missing hdirect.noParent hnode
      have hfits := short_concat_iff.mp (hshort hnode)
      rw [List.isEmpty_nil, if_pos rfl, if_neg (Nat.not_lt.mpr hfits)] at hwalk
      rw [write, hwalk]
  | some node =>
      cases node with
      | directory => exact absurd hnode hno
      | file old =>
          have hwalk := h.walk_file hdirect.noParent hnode
          rw [List.isEmpty_nil, if_pos rfl] at hwalk
          rw [write, hwalk]
      | link target => exact absurd hnode (hdirect.noLink _ (List.prefix_refl _) target)

theorem write_error_of_folder (h : t.Folder l) (hparent : ".." ∉ l ++ [name])
    (hobstructed : t.node? (l ++ [name]) = some .directory ∨
      t.node? (l ++ [name]) = none ∧ ¬Short (l ++ [name])) (content : ByteArray) :
    ∃ trouble, t.write (l ++ [name]) content = .error trouble := by
  rcases hobstructed with hdirectory | ⟨hnone, hlong⟩
  · have hfolder : t.Folder (l ++ [name]) := folder_concat_iff.mpr ⟨h, hdirectory⟩
    refine ⟨.isDirectory, ?_⟩
    rw [write, hfolder.walk hparent]
  · have hwalk := h.walk_missing hparent hnone
    rw [short_concat_iff, Nat.not_le] at hlong
    rw [if_pos hlong] at hwalk
    refine ⟨.nameTooLong, ?_⟩
    rw [write, hwalk]

theorem Grows.stored (h : t.Grows u l) (hfolder : u.Folder l) (content : ByteArray) :
    t.Stored (l ++ [name]) content (u.put (l ++ [name]) (.file content)) := by
  have hnode (m : Location) := node?_put (t := u) (l := l ++ [name]) (by simp) (.file content) m
  refine ⟨?_, fun m hm hne => ?_, fun m hm => ?_⟩
  · rw [hnode, if_pos rfl]
  · rw [hnode, if_neg hne]
    exact hfolder m ((List.prefix_concat_iff.mp hm).resolve_left hne)
  · have hne : m ≠ l ++ [name] := fun heq => hm (heq ▸ List.prefix_refl _)
    rw [hnode, if_neg hne]
    rcases h m with hsame | ⟨hl, _⟩
    · exact hsame
    · exact absurd (hl.trans (List.prefix_append _ _)) hm

/-- A file is put at a location without links, or else at most directories are new. -/
theorem Direct.writeWithin_cases (h : t.Direct l) (content : ByteArray) :
    t.Writable l ∧ (t.writeWithin l content).2 = none ∧
        t.Stored l content (t.writeWithin l content).1 ∨
      ¬t.Writable l ∧ (t.writeWithin l content).2 ≠ none ∧
        t.Grows (t.writeWithin l content).1 l.dropLast := by
  rcases List.eq_nil_or_concat l with rfl | ⟨above, name, rfl⟩
  · have hwrite : t.writeWithin [] content = (t, some (.isDirectory, [])) := rfl
    rw [hwrite]
    exact .inr ⟨fun hwritable => hwritable.noDirectory rfl, by simp, .refl t _⟩
  · rw [List.concat_eq_append] at h ⊢
    obtain ⟨hgrows, hmade, hok⟩ := (h.of_prefix (List.prefix_append above [name])).made
    rw [writeWithin, List.dropLast_concat]
    generalize t.makeDirectories above = result at hgrows hmade hok
    obtain ⟨u, mishap?⟩ := result
    cases mishap? with
    | some mishap =>
        refine .inr ⟨fun hwritable => ?_, by simp, hgrows⟩
        have habove := hwritable.above
        rw [List.dropLast_concat] at habove
        exact nomatch hok habove
    | none =>
        have hfolder : u.Folder above := hmade rfl
        have hfree : t.Free above := hgrows.free_of_folder hfolder
        have hdirect : u.Direct (above ++ [name]) := hgrows.direct h
        have hsame : u.node? (above ++ [name]) = t.node? (above ++ [name]) := hgrows.node?_concat
        by_cases hwritable : t.Writable (above ++ [name])
        · have hwrite := write_of_folder hfolder hdirect (hsame ▸ hwritable.noDirectory)
            (hsame ▸ hwritable.short) content
          simp only [hwrite]
          exact .inl ⟨hwritable, trivial, hgrows.stored hfolder content⟩
        · have hobstructed : t.node? (above ++ [name]) = some .directory ∨
              t.node? (above ++ [name]) = none ∧ ¬Short (above ++ [name]) := by
            refine Classical.byContradiction fun hnone => hwritable ?_
            rw [not_or, not_and, Classical.not_not] at hnone
            exact ⟨(List.dropLast_concat ..).symm ▸ hfree, hnone.1,
              h.noLink _ (List.prefix_refl _), hnone.2⟩
          rw [← hsame] at hobstructed
          obtain ⟨trouble, hwrite⟩ :=
            write_error_of_folder hfolder h.noParent hobstructed content
          simp only [hwrite]
          exact .inr ⟨hwritable, by simp, hgrows⟩

end FileTree

end Scaffold
