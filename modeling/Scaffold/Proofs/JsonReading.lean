import Scaffold.Json.Print
import Scaffold.Json.Read
import Scaffold.Proofs.SafePaths
import Scaffold.Proofs.WrittenNumbers

namespace Scaffold.Json

/-!
# Reading printed JSON

Whatever the layout, printed data are read as the data they were. Each
kind of value is read off the front of a text that goes on with what may
follow a value; only numbers look at what follows them.
-/

variable {lone? : Option Char}

/-! ## Strings -/

theorem hexNumber?_hexDigits : ∀ n < 32, hexNumber? (Text.hexDigits 4 n) = some n := by
  decide

theorem unitsFrom_hex (read : List Nat) {n : Nat} (h : n < 32) (rest : List Char) :
    unitsFrom read ('\\' :: 'u' :: Text.hexDigits 4 n ++ rest) = unitsFrom (n :: read) rest := by
  have hnumber := hexNumber?_hexDigits n h
  simp only [Text.hexDigits, List.nil_append, List.cons_append] at hnumber ⊢
  rw [unitsFrom, hnumber]

theorem unitsFrom_plain (read : List Nat) {c : Char} (hquote : c ≠ '"') (hslash : c ≠ '\\')
    (h : ¬ c.toNat < 32) (rest : List Char) :
    unitsFrom read (c :: rest) = unitsFrom (c.toNat :: read) rest := by
  rw [unitsFrom]
  · exact if_neg h
  all_goals simp_all

/-- The characters that are written as a backslash and a letter. -/
def lettered : List Char := ['"', '\\', '\n', '\r', '\t', '\x08', '\x0c']

theorem escapeChar_of_not_lettered {c : Char} (h : c ∉ lettered) :
    escapeChar c = if c.toNat < 32 then '\\' :: 'u' :: Text.hexDigits 4 c.toNat else [c] := by
  simp only [lettered, List.mem_cons, List.not_mem_nil, or_false, not_or] at h
  simp [escapeChar, h]

theorem unitsFrom_escapeChar (read : List Nat) (c : Char) (rest : List Char) :
    unitsFrom read (escapeChar c ++ rest) = unitsFrom (c.toNat :: read) rest := by
  by_cases hletter : c ∈ lettered
  · simp only [lettered, List.mem_cons, List.not_mem_nil, or_false] at hletter
    rcases hletter with rfl | rfl | rfl | rfl | rfl | rfl | rfl <;> rfl
  · rw [escapeChar_of_not_lettered hletter]
    split
    · next h => exact unitsFrom_hex read h rest
    · next h =>
        apply unitsFrom_plain read _ _ h
        · rintro rfl
          exact hletter (by decide)
        · rintro rfl
          exact hletter (by decide)

theorem unitsFrom_escaped (read : List Nat) (s rest : List Char) :
    unitsFrom read (s.flatMap escapeChar ++ '"' :: rest)
      = some (read.reverse ++ s.map Char.toNat, rest) := by
  induction s generalizing read with
  | nil => simp [unitsFrom]
  | cons c cs ih =>
      rw [List.flatMap_cons, List.append_assoc, unitsFrom_escapeChar, ih]
      simp

theorem isHalf_toNat (c : Char) : isHighHalf c.toNat = false ∧ isLowHalf c.toNat = false := by
  have hvalid : c.toNat < 0xd800 ∨ 0xdfff < c.toNat ∧ c.toNat < 0x110000 := c.valid
  constructor
  · simp [isHighHalf]
    omega
  · simp [isLowHalf]
    omega

theorem joinHalves_toNat (c : Char) (units : List Nat) :
    joinHalves lone? (c.toNat :: units) = (joinHalves lone? units).map (c :: ·) := by
  obtain ⟨hhigh, hlow⟩ := isHalf_toNat c
  cases units <;> simp [joinHalves, hhigh, hlow]

theorem joinHalves_map_toNat (s : List Char) : joinHalves lone? (s.map Char.toNat) = some s := by
  induction s with
  | nil => rfl
  | cons c cs ih => rw [List.map_cons, joinHalves_toNat, ih, Option.map_some]

theorem readString_quoted (s : String) (rest : List Char) :
    readString lone? (s.toList.flatMap escapeChar ++ '"' :: rest) = some (s, rest) := by
  rw [readString, unitsFrom_escaped, List.reverse_nil, List.nil_append, Option.bind_some]
  dsimp only
  rw [joinHalves_map_toNat, Option.map_some, String.ofList_toList]

/-! ## Values -/

/-- The characters of the text are all blanks. -/
def Blanks (s : List Char) : Prop :=
  ∀ c ∈ s, isBlank c = true

/-- What may follow a value: nothing, a blank, or a mark that ends the value. -/
def Closes (rest : List Char) : Prop :=
  ∀ c ∈ rest.head?, isBlank c = true ∨ c ∈ [',', ']', '\x7d']

/-- The text is one value, and readers take it for this datum wherever it is followed by what may
follow a value. -/
structure ReadsAs (text : List Char) (d : Datum) : Prop where
  opens : ∃ c cs, text = c :: cs ∧ isBlank c = false ∧ c ≠ ']'
  reads {rest : List Char} (hrest : Closes rest) {fuel : Nat} (hfuel : text.length ≤ fuel)
    (lone? : Option Char) : readValue lone? fuel (text ++ rest) = some (d, rest)

theorem skipBlanks_cons {c : Char} (h : isBlank c = false) (s : List Char) :
    skipBlanks (c :: s) = c :: s := by
  rw [skipBlanks, List.dropWhile_cons, h]
  rfl

theorem skipBlanks_append {blanks : List Char} (h : Blanks blanks)
    (s : List Char) : skipBlanks (blanks ++ s) = skipBlanks s :=
  List.dropWhile_append_of_pos h

theorem readValue_blanks {blanks : List Char} (h : Blanks blanks) (fuel : Nat)
    (s : List Char) : readValue lone? fuel (blanks ++ s) = readValue lone? fuel s := by
  cases fuel with
  | zero => rfl
  | succ fuel => rw [readValue, readValue, skipBlanks_append h]

theorem readValue_scalar (fuel : Nat) {c : Char} (hblank : isBlank c = false)
    (hopen : c ∉ ['"', '[', '\x7b']) (s : List Char) :
    readValue lone? (fuel + 1) (c :: s) = readScalar (c :: s) := by
  simp only [List.mem_cons, List.not_mem_nil, or_false, not_or] at hopen
  rw [readValue, skipBlanks_cons hblank]
  split <;> simp_all

theorem ReadsAs.of_scalar {text : List Char} {d : Datum} {c : Char} {cs : List Char}
    (htext : text = c :: cs) (hblank : isBlank c = false)
    (hopen : c ∉ ['"', '[', '\x7b', ']'])
    (h : ∀ rest, Closes rest → readScalar (text ++ rest) = some (d, rest)) : ReadsAs text d where
  opens := by
    refine ⟨c, cs, htext, hblank, ?_⟩
    rintro rfl
    exact hopen (by decide)
  reads := by
    intro rest hrest fuel hfuel lone?
    cases fuel with
    | zero => simp [htext] at hfuel
    | succ fuel =>
        rw [← h rest hrest, htext]
        apply readValue_scalar fuel hblank
        intro hmem
        apply hopen
        simp only [List.mem_cons, List.not_mem_nil, or_false] at hmem ⊢
        tauto

theorem readsAs_null : ReadsAs "null".toList .null :=
  .of_scalar rfl (by decide) (by decide) fun _ _ => rfl

theorem readsAs_bool (b : Bool) : ReadsAs (if b then "true" else "false").toList (.bool b) := by
  cases b
  · exact .of_scalar rfl (by decide) (by decide) fun _ _ => rfl
  · exact .of_scalar rfl (by decide) (by decide) fun _ _ => rfl

theorem readValue_quote (fuel : Nat) (cs : List Char) :
    readValue lone? (fuel + 1) ('"' :: cs) =
      (readString lone? cs).map fun (t, rest) => (.str t, rest) := rfl

theorem readsAs_str (s : String) : ReadsAs (quote s).toList (.str s) where
  opens := by
    refine ⟨'"', s.toList.flatMap escapeChar ++ ['"'], ?_, by decide, by decide⟩
    rw [quote, String.toList_ofList]
    rfl
  reads := by
    intro rest _ fuel hfuel lone?
    have hquote : (quote s).toList ++ rest =
        '"' :: (s.toList.flatMap escapeChar ++ '"' :: rest) := by
      simp [quote]
    cases fuel with
    | zero => simp [quote] at hfuel
    | succ fuel =>
        rw [hquote, readValue_quote, readString_quoted]
        rfl

/-! ## Items and entries -/

theorem Closes.append_cons {blanks : List Char} (h : Blanks blanks) (mark : Char)
    (hmark : mark ∈ [',', ']', '\x7d']) (rest : List Char) : Closes (blanks ++ mark :: rest) := by
  intro c hc
  cases blanks with
  | nil =>
      obtain rfl : mark = c := by simpa using hc
      exact Or.inr hmark
  | cons b bs =>
      obtain rfl : b = c := by simpa using hc
      exact Or.inl (h b (List.mem_cons_self ..))

theorem Closes.comma (rest : List Char) : Closes (',' :: rest) :=
  Closes.append_cons (List.forall_mem_nil _) ',' (by decide) rest

theorem readItems_blanks {blanks : List Char} (h : Blanks blanks) (fuel : Nat)
    (done : List Datum) (s : List Char) :
    readItems lone? fuel done (blanks ++ s) = readItems lone? fuel done s := by
  cases fuel with
  | zero => rfl
  | succ fuel => rw [readItems, readItems, readValue_blanks h]

theorem readItems_comma {fuel : Nat} {s rest : List Char} {item : Datum}
    (h : readValue lone? fuel s = some (item, ',' :: rest)) (done : List Datum) :
    readItems lone? (fuel + 1) done s = readItems lone? fuel (item :: done) rest := by
  rw [readItems, h]
  rfl

variable (lone?) in
theorem readItems_intercalate {blanks closing : List Char} (hblanks : Blanks blanks)
    (hclosing : Blanks closing) {parts : List (List Char)} {items : List Datum}
    (h : List.Forall₂ ReadsAs parts items) (hne : parts ≠ []) (done : List Datum)
    (rest : List Char) {fuel : Nat}
    (hfuel : (List.intercalate (',' :: blanks) parts).length < fuel) :
    readItems lone? fuel done (List.intercalate (',' :: blanks) parts ++ (closing ++ ']' :: rest))
      = some (done.reverse ++ items, rest) := by
  induction h generalizing done fuel with
  | nil => exact absurd rfl hne
  | @cons part item parts items hpart hparts ih =>
      obtain _ | fuel := fuel
      · omega
      cases hparts with
      | nil =>
          rw [List.intercalate_singleton] at hfuel ⊢
          have hcloses := Closes.append_cons hclosing ']' (by decide) rest
          rw [readItems, hpart.reads hcloses (by omega)]
          dsimp only
          rw [skipBlanks_append hclosing, skipBlanks_cons (by decide)]
          simp
      | @cons second next parts items hsecond hparts =>
          rw [List.intercalate_cons_cons] at hfuel ⊢
          simp only [List.length_append, List.length_cons] at hfuel
          have hcloses := Closes.comma (blanks ++ (List.intercalate (',' :: blanks)
            (second :: parts) ++ (closing ++ ']' :: rest)))
          have hread := hpart.reads hcloses (show part.length ≤ fuel by omega) lone?
          have hlater := ih (List.cons_ne_nil _ _) (item :: done) (show _ < fuel by omega)
          simp only [List.append_assoc, List.cons_append]
          rw [readItems_comma hread, readItems_blanks hblanks, hlater]
          simp

theorem readEntries_blanks {blanks : List Char} (h : Blanks blanks) (fuel : Nat)
    (done : List (Datum × Datum)) (s : List Char) :
    readEntries lone? fuel done (blanks ++ s) = readEntries lone? fuel done s := by
  cases fuel with
  | zero => rfl
  | succ fuel => rw [readEntries, readEntries, skipBlanks_append h]

/-- The text is a key, a colon and a value. -/
def IsEntry (blanks : List Char) (part : List Char) (e : Datum × Datum) : Prop :=
  ∃ key text, e.1 = .str key ∧ ReadsAs text e.2 ∧ part = (quote key).toList ++ ':' :: blanks ++ text

variable (lone?) in
theorem IsEntry.reads {blanks : List Char} (hblanks : Blanks blanks) {part : List Char}
    {e : Datum × Datum} (h : IsEntry blanks part e) {rest : List Char} (hrest : Closes rest)
    {fuel : Nat} (hfuel : part.length ≤ fuel) :
    ∃ key cs after, e.1 = .str key ∧ part ++ rest = '"' :: cs ∧
      readString lone? cs = some (key, ':' :: after) ∧
        readValue lone? fuel after = some (e.2, rest) := by
  obtain ⟨key, text, hkey, hvalue, rfl⟩ := h
  have hpart : (quote key).toList ++ ':' :: blanks ++ text ++ rest =
      '"' :: (key.toList.flatMap escapeChar ++ '"' :: (':' :: (blanks ++ (text ++ rest)))) := by
    simp [quote]
  have htext : text.length ≤ fuel := by
    simp only [List.length_append] at hfuel
    omega
  have hread := hvalue.reads hrest htext lone?
  rw [← readValue_blanks hblanks] at hread
  exact ⟨key, _, _, hkey, hpart, readString_quoted key _, hread⟩

theorem readEntries_comma {cs after rest : List Char} {key : String} {item : Datum} {fuel : Nat}
    (hkey : readString lone? cs = some (key, ':' :: after))
    (hitem : readValue lone? fuel after = some (item, ',' :: rest)) (done : List (Datum × Datum)) :
    readEntries lone? (fuel + 1) done ('"' :: cs)
      = readEntries lone? fuel ((.str key, item) :: done) rest := by
  rw [readEntries, skipBlanks_cons (by decide)]
  simp only [hkey, skipBlanks_cons (show isBlank ':' = false by decide), hitem,
    skipBlanks_cons (show isBlank ',' = false by decide)]

theorem readEntries_close {cs after rest rest' : List Char} {key : String} {item : Datum}
    {fuel : Nat} (hkey : readString lone? cs = some (key, ':' :: after))
    (hitem : readValue lone? fuel after = some (item, rest'))
    (hclose : skipBlanks rest' = '\x7d' :: rest) (done : List (Datum × Datum)) :
    readEntries lone? (fuel + 1) done ('"' :: cs)
      = some (((.str key, item) :: done).reverse, rest) := by
  rw [readEntries, skipBlanks_cons (by decide)]
  simp only [hkey, skipBlanks_cons (show isBlank ':' = false by decide), hitem, hclose]

variable (lone?) in
theorem readEntries_intercalate {within blanks closing : List Char} (hwithin : Blanks within)
    (hblanks : Blanks blanks) (hclosing : Blanks closing) {parts : List (List Char)}
    {entries : List (Datum × Datum)} (h : List.Forall₂ (IsEntry within) parts entries)
    (hne : parts ≠ []) (done : List (Datum × Datum)) (rest : List Char) {fuel : Nat}
    (hfuel : (List.intercalate (',' :: blanks) parts).length < fuel) :
    readEntries lone? fuel done
        (List.intercalate (',' :: blanks) parts ++ (closing ++ '\x7d' :: rest))
      = some (done.reverse ++ entries, rest) := by
  induction h generalizing done fuel with
  | nil => exact absurd rfl hne
  | @cons part e parts entries hpart hparts ih =>
      obtain _ | fuel := fuel
      · omega
      cases hparts with
      | nil =>
          rw [List.intercalate_singleton] at hfuel ⊢
          have hcloses := Closes.append_cons hclosing '\x7d' (by decide) rest
          have hclose : skipBlanks (closing ++ '\x7d' :: rest) = '\x7d' :: rest := by
            rw [skipBlanks_append hclosing, skipBlanks_cons (by decide)]
          obtain ⟨key, cs, after, he, hstart, hkey, hitem⟩ :=
            hpart.reads lone? hwithin hcloses (show part.length ≤ fuel by omega)
          rw [hstart, readEntries_close hkey hitem hclose, ← he]
          simp
      | @cons second next parts items hsecond hparts =>
          rw [List.intercalate_cons_cons] at hfuel ⊢
          simp only [List.length_append, List.length_cons] at hfuel
          have hcloses := Closes.comma (blanks ++ (List.intercalate (',' :: blanks)
            (second :: parts) ++ (closing ++ '\x7d' :: rest)))
          have hlater := ih (List.cons_ne_nil _ _) (e :: done) (show _ < fuel by omega)
          obtain ⟨key, cs, after, he, hstart, hkey, hitem⟩ :=
            hpart.reads lone? hwithin hcloses (show part.length ≤ fuel by omega)
          simp only [List.append_assoc, List.cons_append]
          rw [hstart, readEntries_comma hkey hitem, readEntries_blanks hblanks, ← he, hlater]
          simp

/-! ## Brackets and braces -/

theorem readValue_list {cs : List Char} {c : Char} {rest : List Char}
    (h : skipBlanks cs = c :: rest) (hc : c ≠ ']') (fuel : Nat) :
    readValue lone? (fuel + 1) ('[' :: cs) =
      (readItems lone? fuel [] (c :: rest)).map fun (items, rest) => (.list items, rest) := by
  rw [readValue, skipBlanks_cons (by decide)]
  simp only [h]
  split
  · next heq => exact absurd (List.cons.inj heq).1 hc
  · rfl

theorem readValue_map {cs : List Char} {c : Char} {rest : List Char}
    (h : skipBlanks cs = c :: rest) (hc : c ≠ '\x7d') (fuel : Nat) :
    readValue lone? (fuel + 1) ('\x7b' :: cs) =
      (readEntries lone? fuel [] (c :: rest)).map fun (entries, rest) =>
        (Datum.ofEntries entries, rest) := by
  rw [readValue, skipBlanks_cons (by decide)]
  simp only [h]
  split
  · next heq => exact absurd (List.cons.inj heq).1 hc
  · rfl

theorem readsAs_emptyList : ReadsAs "[]".toList (.list []) where
  opens := ⟨'[', [']'], rfl, by decide, by decide⟩
  reads := by
    intro rest _ fuel hfuel lone?
    obtain _ | fuel := fuel
    · cases hfuel
    · rfl

theorem readsAs_emptyMap : ReadsAs "\x7b\x7d".toList (.map []) where
  opens := ⟨'\x7b', ['\x7d'], rfl, by decide, by decide⟩
  reads := by
    intro rest _ fuel hfuel lone?
    obtain _ | fuel := fuel
    · cases hfuel
    · rfl

theorem exists_intercalate_cons (separator : List Char) (c : Char) (cs : List Char)
    (parts : List (List Char)) :
    ∃ rest, List.intercalate separator ((c :: cs) :: parts) = c :: rest := by
  cases parts with
  | nil => exact ⟨cs, List.intercalate_singleton⟩
  | cons part parts =>
      rw [List.intercalate_cons_cons]
      exact ⟨_, rfl⟩

theorem readsAs_list {opening blanks closing : List Char} (hopening : Blanks opening)
    (hblanks : Blanks blanks) (hclosing : Blanks closing) {parts : List (List Char)}
    {items : List Datum} (h : List.Forall₂ ReadsAs parts items) (hne : parts ≠ []) :
    ReadsAs ('[' :: (opening ++ List.intercalate (',' :: blanks) parts ++ (closing ++ [']'])))
      (.list items) where
  opens := ⟨'[', _, rfl, by decide, by decide⟩
  reads := by
    intro rest _ fuel hfuel lone?
    obtain _ | fuel := fuel
    · simp at hfuel
    have hlength : (List.intercalate (',' :: blanks) parts).length < fuel := by
      simp only [List.length_cons, List.length_append, List.length_nil] at hfuel
      omega
    have hitems := readItems_intercalate lone? hblanks hclosing h hne [] rest hlength
    obtain ⟨c, cs, hc, hnotBlank, hnotClose⟩ : ∃ c cs,
        List.intercalate (',' :: blanks) parts = c :: cs ∧ isBlank c = false ∧ c ≠ ']' := by
      cases h with
      | nil => exact absurd rfl hne
      | cons hpart _ =>
          obtain ⟨c, cs, rfl, hnotBlank, hnotClose⟩ := hpart.opens
          obtain ⟨cs', hcs'⟩ := exists_intercalate_cons (',' :: blanks) c cs _
          exact ⟨c, cs', hcs', hnotBlank, hnotClose⟩
    rw [hc] at hitems ⊢
    simp only [List.cons_append, List.append_assoc, List.nil_append] at hitems ⊢
    rw [readValue_list (by rw [skipBlanks_append hopening, skipBlanks_cons hnotBlank]) hnotClose,
      hitems]
    rfl

theorem readsAs_map {opening within blanks closing : List Char}
    (hopening : Blanks opening) (hwithin : Blanks within)
    (hblanks : Blanks blanks) (hclosing : Blanks closing)
    {parts : List (List Char)} {entries : List (Datum × Datum)}
    (h : List.Forall₂ (IsEntry within) parts entries) (hne : parts ≠ [])
    (hkeys : entries.Pairwise fun e e' => Datum.sameKey e.1 e'.1 = false) :
    ReadsAs ('\x7b' :: (opening ++ List.intercalate (',' :: blanks) parts ++ (closing ++ ['\x7d'])))
      (.map entries) where
  opens := ⟨'\x7b', _, rfl, by decide, by decide⟩
  reads := by
    intro rest _ fuel hfuel lone?
    obtain _ | fuel := fuel
    · simp at hfuel
    have hlength : (List.intercalate (',' :: blanks) parts).length < fuel := by
      simp only [List.length_cons, List.length_append, List.length_nil] at hfuel
      omega
    have hentries := readEntries_intercalate lone? hwithin hblanks hclosing h hne [] rest hlength
    obtain ⟨cs, hcs⟩ : ∃ cs, List.intercalate (',' :: blanks) parts = '"' :: cs := by
      cases h with
      | nil => exact absurd rfl hne
      | cons hpart _ =>
          obtain ⟨key, text, _, _, rfl⟩ := hpart
          rw [quote, String.toList_ofList]
          exact exists_intercalate_cons (',' :: blanks) '"' _ _
    rw [hcs] at hentries ⊢
    simp only [List.cons_append, List.append_assoc, List.nil_append] at hentries ⊢
    rw [readValue_map (by rw [skipBlanks_append hopening, skipBlanks_cons (by decide)]) (by decide),
      hentries]
    simp [Datum.ofEntries_of_distinct hkeys]

/-! ## Numbers -/

theorem Closes.endsNumber {rest : List Char} (h : Closes rest) : EndsNumber rest := by
  intro c hc
  rcases h c hc with hblank | hmark
  · simp only [isBlank, Bool.or_eq_true, beq_iff_eq] at hblank
    rcases hblank with ((rfl | rfl) | rfl) | rfl <;> decide
  · simp only [List.mem_cons, List.not_mem_nil, or_false] at hmark
    rcases hmark with rfl | rfl | rfl <;> decide

theorem ne_of_isDigit {c d : Char} (hc : c.isDigit = true) (hd : d.isDigit = false) : d ≠ c := by
  rintro rfl
  rw [hd] at hc
  cases hc

theorem readScalar_digit {c : Char} (h : c.isDigit = true) (cs : List Char) :
    readScalar (c :: cs) = readNumber false (c :: cs) := by
  have hminus : '-' ≠ c := ne_of_isDigit h (by decide)
  have hn : 'n' ≠ c := ne_of_isDigit h (by decide)
  have ht : 't' ≠ c := ne_of_isDigit h (by decide)
  have hf : 'f' ≠ c := ne_of_isDigit h (by decide)
  have hN : 'N' ≠ c := ne_of_isDigit h (by decide)
  have hI : 'I' ≠ c := ne_of_isDigit h (by decide)
  rw [readScalar, List.find?_eq_none.mpr]
  · simp [words, hn, ht, hf, hN, hI, hminus]
  · intro cs' heq
    exact hminus (List.cons.inj heq).1.symm

theorem readScalar_minus {c : Char} (h : c.isDigit = true) (cs : List Char) :
    readScalar ('-' :: c :: cs) = readNumber true (c :: cs) := by
  have hI : 'I' ≠ c := ne_of_isDigit h (by decide)
  rw [readScalar, List.find?_eq_none.mpr]
  simp [words, hI]

/-- A number is one value: digits, and what else belongs to it, behind its sign. -/
theorem ReadsAs.of_number {negative : Bool} {body text : List Char} {d : Datum}
    (htext : text = if negative then '-' :: body else body)
    (hstarts : ∃ c cs, body = c :: cs ∧ c.isDigit = true)
    (hreads : ∀ rest, EndsNumber rest → readNumber negative (body ++ rest) = some (d, rest)) :
    ReadsAs text d := by
  obtain ⟨c, cs, rfl, hdigit⟩ := hstarts
  cases negative with
  | false =>
      refine .of_scalar htext ?_ ?_ ?_
      · rw [Bool.eq_false_iff]
        intro hblank
        simp only [isBlank, Bool.or_eq_true, beq_iff_eq] at hblank
        rcases hblank with ((rfl | rfl) | rfl) | rfl <;> cases hdigit
      · intro hmem
        simp only [List.mem_cons, List.not_mem_nil, or_false] at hmem
        rcases hmem with rfl | rfl | rfl | rfl <;> cases hdigit
      · intro rest hrest
        rw [htext, if_neg Bool.false_ne_true, List.cons_append, readScalar_digit hdigit,
          ← List.cons_append, hreads rest hrest.endsNumber]
  | true =>
      refine .of_scalar htext (by decide) (by decide) fun rest hrest => ?_
      rw [htext, if_pos rfl, List.cons_append, List.cons_append, readScalar_minus hdigit,
        ← List.cons_append, hreads rest hrest.endsNumber]

theorem isWhole_toDigits (n : Nat) : IsWhole (Nat.toDigits 10 n) := by
  rcases Nat.eq_zero_or_pos n with rfl | hpos
  · exact .inl rfl
  · exact .inr (Decimal.significant_toDigits hpos)

theorem exists_toDigits_cons (n : Nat) :
    ∃ c cs, Nat.toDigits 10 n = c :: cs ∧ c.isDigit = true := by
  obtain ⟨c, cs, hcs⟩ := List.exists_cons_of_ne_nil (@Nat.toDigits_ne_nil n 10)
  have hmem : c ∈ Nat.toDigits 10 n := hcs ▸ List.mem_cons_self ..
  exact ⟨c, cs, hcs, Decimal.isDigit_of_mem_toDigits hmem⟩

theorem readsAs_int (n : Int) : ReadsAs (toString n).toList (.int n) := by
  cases n with
  | ofNat m =>
      have htext : (toString (Int.ofNat m)).toList = Nat.toDigits 10 m := String.toList_ofList
      refine @ReadsAs.of_number false (Nat.toDigits 10 m) _ _ htext (exists_toDigits_cons m) ?_
      intro rest hrest
      rw [readNumber_whole false (isWhole_toDigits m) hrest, Decimal.value_toDigits]
      rfl
  | negSucc m =>
      have htext : (toString (Int.negSucc m)).toList = '-' :: Nat.toDigits 10 (m + 1) := by
        change ("-" ++ String.ofList (Nat.toDigits 10 (m + 1))).toList = _
        simp
      refine @ReadsAs.of_number true (Nat.toDigits 10 (m + 1)) _ _ htext
        (exists_toDigits_cons (m + 1)) ?_
      intro rest hrest
      rw [readNumber_whole true (isWhole_toDigits (m + 1)) hrest, Decimal.value_toDigits]
      rfl

theorem readsAs_float {negative : Bool} {m : Nat} {e : Int}
    (h : Double.IsBinary64 (.finite negative m e)) (layout : FloatLayout) :
    ReadsAs (layout.write (.finite negative m e)).toList (.float (.finite negative m e)) := by
  obtain ⟨body, htext, hbody⟩ := layout.reads_body h
  exact .of_number htext hbody.starts fun _ => hbody.reads

/-! ## Printed data -/

/-- The data whose JSON text gives them back. -/
inductive Legible : Datum → Prop
  | null : Legible .null
  | bool (b : Bool) : Legible (.bool b)
  | int (n : Int) : Legible (.int n)
  | float {negative : Bool} {m : Nat} {e : Int}
      (h : Double.IsBinary64 (.finite negative m e)) : Legible (.float (.finite negative m e))
  | str (s : String) : Legible (.str s)
  | list {items : List Datum} (hitems : ∀ item ∈ items, Legible item) : Legible (.list items)
  | map {entries : List (Datum × Datum)} (hitems : ∀ e ∈ entries, Legible e.2)
      (htexts : ∀ e ∈ entries, ∃ key, e.1 = .str key)
      (hkeys : entries.Pairwise fun e e' => Datum.sameKey e.1 e'.1 = false) :
      Legible (.map entries)

/-- A record whose fields have different names. -/
theorem Legible.record (fields : List (String × Datum)) (hitems : ∀ f ∈ fields, Legible f.2)
    (hnames : (fields.map (·.1)).Nodup) :
    Legible (.map (fields.map fun f => (.str f.1, f.2))) := by
  refine .map (List.forall_mem_map.mpr hitems) (List.forall_mem_map.mpr fun f _ => ⟨f.1, rfl⟩) ?_
  rw [List.pairwise_map]
  refine (List.pairwise_map.mp hnames).imp fun hne => ?_
  simpa [Datum.sameKey] using hne

/-- A field that may be left open. -/
theorem Legible.optional {α : Type} {x? : Option α} {write : α → Datum}
    (h : ∀ x, x? = some x → Legible (write x)) : Legible ((x?.map write).getD .null) := by
  cases x? with
  | none => exact .null
  | some x => exact h x rfl

/-- A comma between items and a colon behind a key, with nothing but blanks beside them. -/
structure Layout.Standard (layout : Layout) : Prop where
  comma : ∃ blanks, layout.itemSeparator.toList = ',' :: blanks ∧ Blanks blanks
  colon : ∃ blanks, layout.keySeparator.toList = ':' :: blanks ∧ Blanks blanks

theorem Layout.blanks_lineBreak (layout : Layout) (level : Nat) :
    Blanks (layout.lineBreak level).toList := by
  intro c hc
  rw [Layout.lineBreak] at hc
  split at hc
  · rw [String.toList_ofList, List.mem_cons] at hc
    rcases hc with rfl | hc
    · rfl
    · rw [List.eq_of_mem_replicate hc]
      rfl
  · simp at hc

theorem Layout.toList_enclose (layout : Layout) (level : Nat) (opening closing : String)
    {parts : List String} (hne : parts ≠ []) :
    (layout.enclose level opening closing parts).toList =
      opening.toList ++ ((layout.lineBreak (level + 1)).toList
        ++ List.intercalate (layout.itemSeparator.toList ++ (layout.lineBreak (level + 1)).toList)
            (parts.map String.toList)
        ++ ((layout.lineBreak level).toList ++ closing.toList)) := by
  have hempty : parts.isEmpty = false := by simpa using hne
  simp [Layout.enclose, hempty, String.toList_append, String.toList_intercalate]

theorem exists_items {layout : Layout} {level : Nat} {items : List Datum}
    (h : ∀ item ∈ items, ∃ text, write layout level item = .ok text ∧ ReadsAs text.toList item) :
    ∃ texts, writeItems layout level items = .ok texts ∧
      List.Forall₂ ReadsAs (texts.map String.toList) items := by
  induction items with
  | nil => exact ⟨[], rfl, .nil⟩
  | cons item items ih =>
      obtain ⟨hitem, hrest⟩ := List.forall_mem_cons.mp h
      obtain ⟨text, htext, hreads⟩ := hitem
      obtain ⟨texts, htexts, hall⟩ := ih hrest
      refine ⟨text :: texts, ?_, .cons hreads hall⟩
      rw [writeItems, htext, htexts]
      rfl

theorem exists_entries {layout : Layout} {level : Nat} {blanks : List Char}
    (hcolon : layout.keySeparator.toList = ':' :: blanks) {entries : List (Datum × Datum)}
    (htexts : ∀ e ∈ entries, ∃ key, e.1 = .str key)
    (h : ∀ e ∈ entries, ∃ text, write layout level e.2 = .ok text ∧ ReadsAs text.toList e.2) :
    ∃ texts, writeEntries layout level entries = .ok texts ∧
      List.Forall₂ (IsEntry blanks) (texts.map String.toList) entries := by
  induction entries with
  | nil => exact ⟨[], rfl, .nil⟩
  | cons e entries ih =>
      obtain ⟨k, item⟩ := e
      obtain ⟨hkey, hkeys⟩ := List.forall_mem_cons.mp htexts
      obtain ⟨hitem, hrest⟩ := List.forall_mem_cons.mp h
      obtain ⟨key, rfl : k = .str key⟩ := hkey
      obtain ⟨text, htext, hreads⟩ := hitem
      obtain ⟨texts, hwrite, hall⟩ := ih hkeys hrest
      refine ⟨(quote key ++ layout.keySeparator ++ text) :: texts, ?_, .cons ?_ hall⟩
      · dsimp only at htext
        rw [writeEntries, htext, hwrite]
        rfl
      · refine ⟨key, text.toList, rfl, hreads, ?_⟩
        simp [String.toList_append, hcolon]

theorem readsAs_write {layout : Layout} (hlayout : layout.Standard) {d : Datum} (h : Legible d)
    (level : Nat) : ∃ text, write layout level d = .ok text ∧ ReadsAs text.toList d := by
  obtain ⟨blanks, hcomma, hblanks⟩ := hlayout.comma
  obtain ⟨within, hcolon, hwithin⟩ := hlayout.colon
  have hbreak := layout.blanks_lineBreak
  have hbetween : ∀ level, Blanks (blanks ++ (layout.lineBreak level).toList) :=
    fun level c hc => (List.mem_append.mp hc).elim (hblanks c) (hbreak level c)
  induction h generalizing level with
  | null => exact ⟨"null", rfl, readsAs_null⟩
  | bool b =>
      refine ⟨if b then "true" else "false", ?_, readsAs_bool b⟩
      cases b <;> rfl
  | int n => exact ⟨toString n, rfl, readsAs_int n⟩
  | float h => exact ⟨layout.floats.write _, rfl, readsAs_float h layout.floats⟩
  | str s => exact ⟨quote s, rfl, readsAs_str s⟩
  | @list items _ ih =>
      obtain ⟨texts, hwrite, hall⟩ := exists_items fun item hitem => ih item hitem (level + 1)
      refine ⟨layout.enclose level "[" "]" texts, by rw [write, hwrite]; rfl, ?_⟩
      cases texts with
      | nil =>
          cases hall
          exact readsAs_emptyList
      | cons text texts =>
          rw [Layout.toList_enclose layout level "[" "]" (List.cons_ne_nil _ _), hcomma]
          exact readsAs_list (hbreak _) (hbetween _) (hbreak _) hall (List.cons_ne_nil _ _)
  | @map entries _ htexts hkeys ih =>
      obtain ⟨texts, hwrite, hall⟩ :=
        exists_entries hcolon htexts fun e he => ih e he (level + 1)
      refine ⟨layout.enclose level "\x7b" "\x7d" texts, by rw [write, hwrite]; rfl, ?_⟩
      cases texts with
      | nil =>
          cases hall
          exact readsAs_emptyMap
      | cons text texts =>
          rw [Layout.toList_enclose layout level "\x7b" "\x7d" (List.cons_ne_nil _ _), hcomma]
          exact readsAs_map (hbreak _) hwithin (hbetween _) (hbreak _) hall (List.cons_ne_nil _ _)
            hkeys

theorem ReadsAs.parse? {text : String} {d : Datum} (h : ReadsAs text.toList d) {blanks : List Char}
    (hblanks : Blanks blanks) :
    parse? (text ++ String.ofList blanks) = some d := by
  have hcloses : Closes blanks := by
    intro c hc
    exact Or.inl (hblanks c (List.mem_of_mem_head? hc))
  have hskip : skipBlanks blanks = [] := by
    rw [← List.append_nil blanks, skipBlanks_append hblanks]
    rfl
  have hfuel : text.toList.length ≤ 2 * (text.toList ++ blanks).length + 2 := by
    rw [List.length_append]
    omega
  rw [Json.parse?, readText, String.toList_append, String.toList_ofList, h.reads hcloses hfuel]
  simp [hskip]

/-- Printed data are read again as they were, also with blanks behind them. -/
theorem parse?_print {layout : Layout} (hlayout : layout.Standard) {d : Datum} (h : Legible d) :
    ∃ text, print layout d = .ok text ∧ ∀ blanks, Blanks blanks →
      parse? (text ++ String.ofList blanks) = some d := by
  obtain ⟨text, hwrite, hreads⟩ := readsAs_write hlayout h 0
  exact ⟨text, hwrite, fun _ hblanks => hreads.parse? hblanks⟩

theorem Layout.standard_pretty : Layout.pretty.Standard where
  comma := ⟨[], rfl, List.forall_mem_nil _⟩
  colon := ⟨[' '], rfl, by simp [Blanks, isBlank]⟩

theorem Layout.standard_record : Layout.record.Standard where
  comma := ⟨[], rfl, List.forall_mem_nil _⟩
  colon := ⟨[' '], rfl, by simp [Blanks, isBlank]⟩

end Scaffold.Json
