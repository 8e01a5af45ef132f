import ContractSchema.Proofs.Yaml.Atoms

/-!
# Layouts are read by their columns

In a document of words, numbers, lists and tables (`ContractSchema.Document.Plain`) it is told by
the columns what belongs together. A list or a table whose first line begins at a column ends
where a line begins further to the left (`ContractSchema.Yaml.Outside`). A list below the key of a
row begins at the column of the key, so that the next row begins there as well; but it does not
begin with a dash (`ContractSchema.Yaml.Beyond`).

Two documents which begin with the same text, at any column, are therefore the same
(`ContractSchema.Yaml.clear_document`).
-/

namespace ContractSchema

open Yaml (Atom)

/-- The document of a word or a number. -/
def Yaml.Atom.document : Atom → Document
  | .word text => .text text
  | .number n => .ofNat n

/-- A key as a word or a number. -/
def Document.Key.atom : Document.Key → Atom
  | .name text => .word text
  | .tag n => .number n.toNat

/-- **A document of words and natural numbers**, in lists and tables. -/
inductive Document.Plain : Document → Prop
  /-- A word or a number. -/
  | atom {a : Atom} (h : a.Valid) : Plain a.document
  /-- A list. -/
  | list {items : List Document} (h : ∀ item ∈ items, Plain item) : Plain (.list items)
  /-- A table. -/
  | table {rows : List (Document.Key × Document)} (hkeys : ∀ row ∈ rows, row.1.atom.Valid)
      (hvalues : ∀ row ∈ rows, Plain row.2) : Plain (.table rows)

namespace Yaml

/-! ### Columns -/

/-- The end of a line, and the blanks at the beginning of the next one. -/
def newline (column : Nat) : List Char :=
  '\n' :: indentation column

/-- A line begins at a column with a character. -/
def LineAt (column : Nat) (c : Char) (rest : List Char) : Prop :=
  c ≠ ' ' ∧ ∃ tail, rest = newline column ++ c :: tail

/-- What is outside of a column: the end, or a line which begins further to the left. -/
def Outside (column : Nat) (rest : List Char) : Prop :=
  rest = ['\n'] ∨ ∃ k c, k < column ∧ LineAt k c rest

/-- What is beyond a list at a column: what is outside, or a line with something else than a
dash. -/
def Beyond (column : Nat) (rest : List Char) : Prop :=
  Outside column rest ∨ ∃ c, c ≠ '-' ∧ LineAt column c rest

/-- Blanks are counted up to the first character which is none. -/
theorem newline_inj {column column' : Nat} {c c' : Char} {tail tail' : List Char} (hc : c ≠ ' ')
    (hc' : c' ≠ ' ') (h : newline column ++ c :: tail = newline column' ++ c' :: tail') :
    column = column' ∧ c = c' ∧ tail = tail' := by
  have hblank : ∀ n, ∀ d ∈ indentation n, (d == ' ') = true := fun n d hd =>
    beq_iff_eq.mpr (List.eq_of_mem_replicate hd)
  have hend : ∀ (d : Char) (chars : List Char), d ≠ ' ' →
      ∀ e ∈ (d :: chars).head?, (e == ' ') = false := fun d chars hd e he => by
    cases he
    exact beq_eq_false_iff_ne.mpr hd
  obtain ⟨hblanks, htail⟩ := append_inj_of_forall (hblank column) (hblank column')
    (hend c tail hc) (hend c' tail' hc') (List.cons.inj h).2
  have hlength := congrArg List.length hblanks
  rw [indentation, indentation, List.length_replicate, List.length_replicate] at hlength
  exact ⟨hlength, List.cons.inj htail⟩

/-- A line begins at one column, with one character. -/
theorem LineAt.unique {column column' : Nat} {c c' : Char} {rest : List Char}
    (h : LineAt column c rest) (h' : LineAt column' c' rest) : column = column' ∧ c = c' := by
  obtain ⟨hc, tail, rfl⟩ := h
  obtain ⟨hc', tail', heq⟩ := h'
  obtain ⟨hcolumn, hchar, -⟩ := newline_inj hc hc' heq
  exact ⟨hcolumn, hchar⟩

theorem lineAt_newline {column : Nat} {c : Char} (hc : c ≠ ' ') (tail : List Char) :
    LineAt column c (newline column ++ c :: tail) :=
  ⟨hc, tail, rfl⟩

theorem LineAt.ne_end {column : Nat} {c : Char} {rest : List Char} (h : LineAt column c rest) :
    rest ≠ ['\n'] := by
  obtain ⟨-, tail, rfl⟩ := h
  simp [newline]

section Columns

variable {column column' : Nat} {c : Char} {rest : List Char}

theorem LineAt.outside_iff (h : LineAt column c rest) :
    Outside column' rest ↔ column < column' := by
  constructor
  · rintro (hend | ⟨k, d, hlt, hline⟩)
    · exact absurd hend h.ne_end
    · rwa [(h.unique hline).1]
  · exact fun hlt => .inr ⟨column, c, hlt, h⟩

theorem LineAt.beyond_iff (h : LineAt column c rest) :
    Beyond column' rest ↔ column < column' ∨ column = column' ∧ c ≠ '-' := by
  rw [Beyond, h.outside_iff]
  refine or_congr_right ⟨?_, ?_⟩
  · rintro ⟨d, hd, hline⟩
    obtain ⟨rfl, rfl⟩ := h.unique hline
    exact ⟨rfl, hd⟩
  · rintro ⟨rfl, hc⟩
    exact ⟨c, hc, h⟩

theorem Outside.mono (h : Outside column rest) (hle : column ≤ column') : Outside column' rest := by
  rcases h with hend | ⟨k, d, hlt, hline⟩
  · exact .inl hend
  · exact .inr ⟨k, d, Nat.lt_of_lt_of_le hlt hle, hline⟩

theorem Beyond.outside (h : Beyond column rest) (hlt : column < column') :
    Outside column' rest := by
  rcases h with hout | ⟨d, -, hline⟩
  · exact hout.mono (Nat.le_of_lt hlt)
  · exact .inr ⟨column, d, hlt, hline⟩

/-- What is beyond a column begins with the end of a line. -/
theorem Beyond.exists_eq (h : Beyond column rest) : ∃ tail, rest = '\n' :: tail := by
  rcases h with (rfl | ⟨k, d, -, -, tail, rfl⟩) | ⟨d, -, -, tail, rfl⟩
  · exact ⟨[], rfl⟩
  · exact ⟨_, rfl⟩
  · exact ⟨_, rfl⟩

theorem Beyond.noWordChar (h : Beyond column rest) : NoWordChar rest := by
  obtain ⟨tail, rfl⟩ := h.exists_eq
  exact noWordChar_cons (by decide) tail

end Columns

/-! ### Lines of a document -/

theorem stack_cons (column : Nat) (first : List Char) (others : List (List Char)) :
    stack column (first :: others) =
      first ++ others.flatMap fun block => newline column ++ block := by
  induction others generalizing first with
  | nil => simp [stack]
  | cons next others ih => simp [stack, ih, newline]

theorem items_eq_map (column : Nat) (docs : List Document) :
    items column docs = docs.map fun item => '-' :: ' ' :: block (column + 2) item := by
  induction docs with
  | nil => rw [items, List.map_nil]
  | cons item docs ih => rw [items, ih, List.map_cons]

theorem rows_eq_map (column : Nat) (docs : List (Document.Key × Document)) :
    rows column docs = docs.map fun row => key row.1 ++ ':' :: rowValue column row.2 := by
  induction docs with
  | nil => rw [rows, List.map_nil]
  | cons row docs ih => rw [rows, ih, List.map_cons]

/-- The script of documents which begin at a column. -/
def blocks (column : Nat) : Script Document where
  write := block column
  valid := Document.Plain
  follow := Outside column
  same := Eq

/-- The script of the values of rows which begin at a column. -/
def values (column : Nat) : Script Document where
  write := rowValue column
  valid := Document.Plain
  follow := Beyond column
  same := Eq

/-- The script of items whose dashes stand at a column. -/
def dashes (column : Nat) : Script Document where
  write item := '-' :: ' ' :: block (column + 2) item
  valid := Document.Plain
  follow := Outside (column + 2)
  same := Eq

/-- The script of rows which begin at a column. -/
def lines (column : Nat) : Script (Document.Key × Document) where
  write row := row.1.atom.write ++ ':' :: rowValue column row.2
  valid row := row.1.atom.Valid ∧ row.2.Plain
  follow := Beyond column
  same := Eq

/-- The script of lists whose dashes stand at a column. -/
def lists (column : Nat) : Script (List Document) :=
  (dashes column).separated (newline column) (Beyond column)

/-- The script of tables whose keys stand at a column. -/
def tables (column : Nat) : Script (List (Document.Key × Document)) :=
  (lines column).separated (newline column) (Outside column)

theorem block_list (column : Nat) {docs : List Document} (h : docs ≠ []) :
    block column (.list docs) = (lists column).write docs := by
  obtain ⟨item, others, rfl⟩ := List.exists_cons_of_ne_nil h
  rw [block, items_eq_map, List.map_cons, stack_cons, List.flatMap_map]
  rfl

theorem write_atom_key {k : Document.Key} (h : k.atom.Valid) : key k = k.atom.write := by
  cases k with
  | name text => exact keyScalar_of_isWord h
  | tag n => rfl

theorem block_table (column : Nat) {docs : List (Document.Key × Document)} (h : docs ≠ [])
    (hkeys : ∀ row ∈ docs, row.1.atom.Valid) :
    block column (.table docs) = (tables column).write docs := by
  have hrows : rows column docs = docs.map (lines column).write := by
    rw [rows_eq_map]
    exact List.map_congr_left fun row hrow => by rw [write_atom_key (hkeys row hrow)]; rfl
  obtain ⟨row, others, rfl⟩ := List.exists_cons_of_ne_nil h
  rw [block, hrows, List.map_cons, stack_cons, List.flatMap_map]
  rfl

theorem block_atom (column : Nat) {a : Atom} (h : a.Valid) :
    block column a.document = a.write := by
  cases a with
  | word text => exact scalar_of_isWord h column
  | number n =>
    change (toString (UInt64.ofNat n).toNat).toList = (toString n).toList
    rw [UInt64.toNat_ofNat_of_lt' h]

/-! ### How documents begin -/

theorem ne_of_isAtomStart {c d : Char} (h : isAtomStart c = true) (hd : isAtomStart d = false) :
    c ≠ d := by
  rintro rfl
  rw [h] at hd
  cases hd

/-- A row begins with its key. -/
theorem exists_line_eq {row : Document.Key × Document} (h : row.1.atom.Valid) (column : Nat) :
    ∃ c tail, isAtomStart c = true ∧ (lines column).write row = c :: tail := by
  obtain ⟨c, tail, hc, -, hwrite⟩ := Atom.exists_write h
  refine ⟨c, tail ++ ':' :: rowValue column row.2, hc, ?_⟩
  rw [← List.cons_append, ← hwrite]
  rfl

/-- The mark with which a document begins, if it is not the first character of a word, a number
or a key. -/
def mark? : Document → Option Char
  | .list [] => some '['
  | .list (_ :: _) => some '-'
  | .table [] => some '{'
  | _ => none

/-- **How a document begins.** -/
theorem exists_block_eq {d : Document} (h : d.Plain) (column : Nat) :
    ∃ c tail, block column d = c :: tail ∧ c ≠ ' ' ∧
      mark? d = if isAtomStart c then none else some c := by
  cases h with
  | @atom a ha =>
    obtain ⟨c, tail, hc, -, hwrite⟩ := Atom.exists_write ha
    refine ⟨c, tail, by rw [block_atom column ha, hwrite], ne_of_isAtomStart hc rfl, ?_⟩
    rw [if_pos hc]
    cases a <;> rfl
  | @list docs h =>
    rcases docs with _ | ⟨item, docs⟩
    · exact ⟨'[', _, rfl, by decide, rfl⟩
    · exact ⟨'-', _, block_list column (List.cons_ne_nil _ _), by decide, rfl⟩
  | @table docs hkeys hvalues =>
    rcases docs with _ | ⟨row, docs⟩
    · exact ⟨'{', _, rfl, by decide, rfl⟩
    · obtain ⟨c, tail, hc, hwrite⟩ := exists_line_eq (hkeys row (List.mem_cons_self ..)) column
      refine ⟨c, tail ++ docs.flatMap fun next => newline column ++ (lines column).write next, ?_,
        ne_of_isAtomStart hc rfl, (if_pos hc).symm⟩
      rw [block_table column (List.cons_ne_nil _ _) hkeys, ← List.cons_append, ← hwrite]
      rfl

/-- Documents which begin alike begin with the same mark. -/
theorem mark?_eq {d d' : Document} (h : d.Plain) (h' : d'.Plain) {column column' : Nat}
    {rest rest' : List Char} (heq : block column d ++ rest = block column' d' ++ rest') :
    mark? d = mark? d' := by
  obtain ⟨c, tail, hc, -, hmark⟩ := exists_block_eq h column
  obtain ⟨c', tail', hc', -, hmark'⟩ := exists_block_eq h' column'
  rw [hc, hc', List.cons_append, List.cons_append] at heq
  rw [hmark, hmark', (List.cons.inj heq).1]

/-- A word or a number is no key: a colon would follow. -/
theorem atom_ne_row {a : Atom} (ha : a.Valid) {column : Nat}
    {docs : List (Document.Key × Document)} (hne : docs ≠ [])
    (hkeys : ∀ row ∈ docs, row.1.atom.Valid) {rest rest' : List Char}
    (hrest : Beyond column rest) : a.write ++ rest ≠ block column (.table docs) ++ rest' := by
  intro heq
  obtain ⟨row, others, rfl⟩ := List.exists_cons_of_ne_nil hne
  rw [block_table column hne hkeys, tables, Script.separated_write_cons] at heq
  change a.write ++ rest = row.1.atom.write ++ ':' :: _ ++ _ at heq
  rw [List.append_assoc, List.cons_append] at heq
  obtain ⟨-, hcolon⟩ := clear_atom ha _ (hkeys row (List.mem_cons_self ..)) _ _ hrest.noWordChar
    (noWordChar_cons (by decide) _) heq
  obtain ⟨tail, hline⟩ := hrest.exists_eq
  rw [hline] at hcolon
  exact absurd (List.cons.inj hcolon).1 (by decide)

/-! ### Lists and tables -/

/-- A list goes on with a dash. -/
theorem goesOn_dashes (column : Nat) :
    (dashes column).GoesOn (newline column) (Beyond column) := by
  have hline : ∀ item rest,
      LineAt column '-' (newline column ++ (dashes column).write item ++ rest) := by
    intro item rest
    rw [List.append_assoc]
    exact lineAt_newline (by decide) _
  constructor
  · exact fun item _ rest => (hline item rest).outside_iff.mpr (Nat.lt_add_of_pos_right (by decide))
  · intro item _ rest
    rw [(hline item rest).beyond_iff]
    simp
  · exact fun rest h => h.outside (Nat.lt_add_of_pos_right (by decide))

/-- A table goes on with a key. -/
theorem goesOn_lines (column : Nat) :
    (lines column).GoesOn (newline column) (Outside column) := by
  have hline : ∀ row, (lines column).valid row → ∀ rest, ∃ c, isAtomStart c = true ∧
      LineAt column c (newline column ++ (lines column).write row ++ rest) := by
    rintro row ⟨hkey, -⟩ rest
    obtain ⟨c, tail, hc, hwrite⟩ := exists_line_eq hkey column
    rw [hwrite, List.append_assoc, List.cons_append]
    exact ⟨c, hc, lineAt_newline (ne_of_isAtomStart hc rfl) _⟩
  constructor
  · intro row hrow rest
    obtain ⟨c, hc, hline⟩ := hline row hrow rest
    exact hline.beyond_iff.mpr (.inr ⟨rfl, ne_of_isAtomStart hc rfl⟩)
  · intro row hrow rest
    obtain ⟨c, hc, hline⟩ := hline row hrow rest
    rw [hline.outside_iff]
    exact Nat.lt_irrefl column
  · exact fun rest h => .inl h

/-- **Lists of clear items are clear.** -/
theorem clear_list {docs : List Document} (hplain : ∀ item ∈ docs, item.Plain)
    (h : ∀ item ∈ docs, ∀ column, (blocks column).Clear item) (column : Nat) :
    (lists column).Clear docs := by
  refine Script.clear_separated (goesOn_dashes column) ?_ hplain fun item hitem => ?_
  · intro item _ rest hbeyond
    obtain ⟨tail, htail⟩ := hbeyond.exists_eq
    exact absurd (List.cons.inj htail).1 (by decide)
  · intro other hother rest rest' hrest hrest' heq
    have hblock := (List.cons.inj (List.cons.inj heq).2).2
    exact h item hitem (column + 2) other hother rest rest' hrest hrest' hblock

theorem eq_of_atom_eq {k k' : Document.Key} (h : k.atom = k'.atom) : k = k' := by
  cases k with
  | name text =>
    cases k' with
    | name text' => exact congrArg Document.Key.name (Atom.word.inj h)
    | tag n => cases h
  | tag n =>
    cases k' with
    | name text => cases h
    | tag n' => exact congrArg Document.Key.tag (UInt8.toNat_inj.mp (Atom.number.inj h))

/-- **Tables of clear values are clear.** -/
theorem clear_table {docs : List (Document.Key × Document)}
    (hkeys : ∀ row ∈ docs, row.1.atom.Valid) (hplain : ∀ row ∈ docs, row.2.Plain)
    (h : ∀ row ∈ docs, ∀ column, (values column).Clear row.2) (column : Nat) :
    (tables column).Clear docs := by
  refine Script.clear_separated (goesOn_lines column) ?_
    (fun row hrow => ⟨hkeys row hrow, hplain row hrow⟩) fun row hrow => ?_
  · rintro row ⟨hkey, -⟩ rest hout
    obtain ⟨c, chars, hc, hwrite⟩ := exists_line_eq hkey column
    obtain ⟨tail, htail⟩ := Beyond.exists_eq (.inl hout)
    rw [hwrite, List.cons_append] at htail
    exact ne_of_isAtomStart hc rfl (List.cons.inj htail).1
  · rintro other ⟨hkey, hvalue⟩ rest rest' hrest hrest' heq
    change row.1.atom.write ++ ':' :: rowValue column row.2 ++ rest =
      other.1.atom.write ++ ':' :: rowValue column other.2 ++ rest' at heq
    rw [List.append_assoc, List.append_assoc, List.cons_append, List.cons_append] at heq
    obtain ⟨hatom, hbehind⟩ := clear_atom (hkeys row hrow) _ hkey _ _ (noWordChar_cons (by decide) _)
      (noWordChar_cons (by decide) _) heq
    obtain ⟨hdoc, hends⟩ := h row hrow column other.2 hvalue rest rest' hrest hrest'
      (List.cons.inj hbehind).2
    exact ⟨Prod.ext (eq_of_atom_eq hatom) hdoc, hends⟩

/-! ### Values of rows -/

/-- Whether the value of a row stands on the line of its key. -/
def isInline : Document → Bool
  | .list (_ :: _) => false
  | .table (_ :: _) => false
  | _ => true

/-- The column at which the value of a row begins. -/
def valueColumn (column : Nat) : Document → Nat
  | .list (_ :: _) => column
  | _ => column + 2

theorem rowValue_eq (column : Nat) (d : Document) :
    rowValue column d = (if isInline d then [' '] else newline (valueColumn column d)) ++
      block (valueColumn column d) d := by
  cases d with
  | list docs => cases docs <;> simp [rowValue, block, isInline, valueColumn, newline]
  | table docs => cases docs <;> simp [rowValue, block, isInline, valueColumn, newline]
  | _ => rfl

theorem valueColumn_of_isInline {d : Document} (h : isInline d = true) (column : Nat) :
    valueColumn column d = column + 2 := by
  cases d with
  | list docs =>
    cases docs with
    | nil => rfl
    | cons item docs => cases h
  | _ => rfl

/-- **The value of a row tells where it begins.** -/
theorem valueColumn_eq {column : Nat} {d d' : Document} (h : d.Plain) (h' : d'.Plain)
    {rest rest' : List Char} (heq : rowValue column d ++ rest = rowValue column d' ++ rest') :
    valueColumn column d = valueColumn column d' ∧
      block (valueColumn column d) d ++ rest = block (valueColumn column d) d' ++ rest' := by
  rw [rowValue_eq, rowValue_eq, List.append_assoc, List.append_assoc] at heq
  rcases hd : isInline d with _ | _ <;> rcases hd' : isInline d' with _ | _
  · -- both begin on a line of their own, at the first character which is no blank
    obtain ⟨c, tail, hc, hblank, -⟩ := exists_block_eq h (valueColumn column d)
    obtain ⟨c', tail', hc', hblank', -⟩ := exists_block_eq h' (valueColumn column d')
    rw [hd, hd', if_neg Bool.false_ne_true, if_neg Bool.false_ne_true, hc, hc', List.cons_append,
      List.cons_append] at heq
    obtain ⟨hcolumn, rfl, htail⟩ := newline_inj hblank hblank' heq
    refine ⟨hcolumn, ?_⟩
    rw [hc, hcolumn, hc', List.cons_append, List.cons_append, htail]
  · rw [hd, hd', if_neg Bool.false_ne_true, if_pos rfl] at heq
    exact absurd (List.cons.inj heq).1 (by decide)
  · rw [hd, hd', if_pos rfl, if_neg Bool.false_ne_true] at heq
    exact absurd (List.cons.inj heq).1 (by decide)
  · rw [hd, hd', if_pos rfl] at heq
    rw [valueColumn_of_isInline hd] at heq ⊢
    rw [valueColumn_of_isInline hd'] at heq ⊢
    exact ⟨rfl, List.append_cancel_left heq⟩

/-! ### Documents of each kind -/

theorem forall₂_eq {α : Type} {xs ys : List α} (h : List.Forall₂ Eq xs ys) : xs = ys := by
  rwa [List.forall₂_eq_eq_eq] at h

/-- A list that is not empty is clear where what follows is outside of it. -/
theorem clear_list_block {docs : List Document} (hplain : ∀ item ∈ docs, item.Plain)
    (hne : docs ≠ []) {column : Nat} (h : (lists column).Clear docs) {d' : Document}
    (hplain' : d'.Plain) {rest rest' : List Char} (hrest : Beyond column rest)
    (hrest' : Beyond column rest')
    (heq : block column (.list docs) ++ rest = block column d' ++ rest') :
    Document.list docs = d' ∧ rest = rest' := by
  have hmark := mark?_eq (.list hplain) hplain' heq
  obtain ⟨item, others, rfl⟩ := List.exists_cons_of_ne_nil hne
  cases hplain' with
  | @atom a ha => cases a <;> cases hmark
  | @list docs' hplain' =>
    have hne' : docs' ≠ [] := by
      rintro rfl
      exact absurd hmark (by simp [mark?])
    rw [block_list column hne, block_list column hne'] at heq
    obtain ⟨hsame, hends⟩ := h docs' hplain' rest rest' hrest hrest' heq
    exact ⟨congrArg Document.list (forall₂_eq hsame), hends⟩
  | @table docs' hkeys hvalues => cases docs' <;> cases hmark

/-- What begins with a mark of its own is clear. -/
theorem clear_marked {d : Document} (hplain : d.Plain) (hmark : ∀ d', mark? d = mark? d' → d = d')
    (column : Nat) : (blocks column).Clear d := by
  intro d' hplain' rest rest' _ _ heq
  obtain rfl := hmark d' (mark?_eq hplain hplain' heq)
  exact ⟨rfl, List.append_cancel_left heq⟩

/-- A word or a number is clear. -/
theorem clear_atom_block {a : Atom} (ha : a.Valid) (column : Nat) :
    (blocks column).Clear a.document := by
  intro d' hplain' rest rest' hrest hrest' heq
  have hmark := mark?_eq (.atom ha) hplain' heq
  have hnone : mark? a.document = none := by cases a <;> rfl
  change block column a.document ++ rest = block column d' ++ rest' at heq
  rw [hnone] at hmark
  rw [block_atom column ha] at heq
  cases hplain' with
  | @atom b hb =>
    rw [block_atom column hb] at heq
    obtain ⟨rfl, hends⟩ := clear_atom ha b hb rest rest' (Beyond.noWordChar (.inl hrest))
      (Beyond.noWordChar (.inl hrest')) heq
    exact ⟨rfl, hends⟩
  | @list docs' hplain' => cases docs' <;> cases hmark
  | @table docs' hkeys hvalues =>
    have hne : docs' ≠ [] := by
      rintro rfl
      cases hmark
    exact absurd heq (atom_ne_row ha hne hkeys (.inl hrest))

/-- A table that is not empty is clear. -/
theorem clear_table_block {docs : List (Document.Key × Document)}
    (hkeys : ∀ row ∈ docs, row.1.atom.Valid) (hvalues : ∀ row ∈ docs, row.2.Plain) (hne : docs ≠ [])
    {column : Nat} (h : (tables column).Clear docs) : (blocks column).Clear (.table docs) := by
  intro d' hplain' rest rest' hrest hrest' heq
  have hmark := mark?_eq (.table hkeys hvalues) hplain' heq
  have hnone : mark? (.table docs) = none := by
    obtain ⟨row, others, rfl⟩ := List.exists_cons_of_ne_nil hne
    rfl
  rw [hnone] at hmark
  change block column (.table docs) ++ rest = block column d' ++ rest' at heq
  cases hplain' with
  | @atom b hb =>
    rw [block_atom column hb] at heq
    exact absurd heq.symm (atom_ne_row hb hne hkeys (.inl hrest'))
  | @list docs' hplain' => cases docs' <;> cases hmark
  | @table docs' hkeys' hvalues' =>
    have hne' : docs' ≠ [] := by
      rintro rfl
      cases hmark
    rw [block_table column hne hkeys, block_table column hne' hkeys'] at heq
    obtain ⟨hsame, hends⟩ := h docs' (fun row hrow => ⟨hkeys' row hrow, hvalues' row hrow⟩) rest
      rest' hrest hrest' heq
    exact ⟨congrArg Document.table (forall₂_eq hsame), hends⟩

/-- What is clear wherever a block begins is clear as the value of a row, if it is put there. -/
theorem clear_value {column : Nat} {d : Document} (hplain : d.Plain)
    (hcolumn : valueColumn column d = column + 2) (h : (blocks (column + 2)).Clear d) :
    (values column).Clear d := by
  intro d' hplain' rest rest' hrest hrest' heq
  have hlt : column < column + 2 := Nat.lt_add_of_pos_right (by decide)
  have hblock := (valueColumn_eq hplain hplain' heq).2
  rw [hcolumn] at hblock
  exact h d' hplain' rest rest' (hrest.outside hlt) (hrest'.outside hlt) hblock

theorem eq_list_nil_of_mark? {d : Document} (h : mark? (.list []) = mark? d) : .list [] = d := by
  cases d with
  | list docs => cases docs with
    | nil => rfl
    | cons item docs => exact absurd h (by simp [mark?])
  | table docs => cases docs <;> exact absurd h (by simp [mark?])
  | _ => exact absurd h (by simp [mark?])

theorem eq_table_nil_of_mark? {d : Document} (h : mark? (.table []) = mark? d) : .table [] = d := by
  cases d with
  | table docs => cases docs with
    | nil => rfl
    | cons row docs => exact absurd h (by simp [mark?])
  | list docs => cases docs <;> exact absurd h (by simp [mark?])
  | _ => exact absurd h (by simp [mark?])

/-- **Documents are clear**, at the beginning of a text, behind a dash and behind a key. -/
theorem clear_document {d : Document} (h : d.Plain) (column : Nat) :
    (blocks column).Clear d ∧ (values column).Clear d := by
  -- what is clear as a block is clear as a value, but for lists, which are not indented there
  induction h generalizing column with
  | @atom a ha =>
    have hblock := clear_atom_block ha
    exact ⟨hblock column, clear_value (.atom ha) (by cases a <;> rfl) (hblock (column + 2))⟩
  | @list docs hplain ih =>
    have hclear := clear_list hplain (fun item hitem column => (ih item hitem column).1) column
    by_cases hne : docs = []
    · subst hne
      have hblock := clear_marked (.list hplain) fun _ => eq_list_nil_of_mark?
      exact ⟨hblock column, clear_value (.list hplain) rfl (hblock (column + 2))⟩
    · constructor
      · intro d' hplain' rest rest' hrest hrest' heq
        exact clear_list_block hplain hne hclear hplain' (.inl hrest) (.inl hrest') heq
      · intro d' hplain' rest rest' hrest hrest' heq
        have hblock := (valueColumn_eq (.list hplain) hplain' heq).2
        have hcolumn : valueColumn column (.list docs) = column := by
          obtain ⟨item, others, rfl⟩ := List.exists_cons_of_ne_nil hne
          rfl
        rw [hcolumn] at hblock
        exact clear_list_block hplain hne hclear hplain' hrest hrest' hblock
  | @table docs hkeys hvalues ih =>
    have hclear := clear_table hkeys hvalues fun row hrow column => (ih row hrow column).2
    have hplain : (Document.table docs).Plain := .table hkeys hvalues
    have hblock : ∀ column, (blocks column).Clear (.table docs) := fun column => by
      by_cases hne : docs = []
      · subst hne
        exact clear_marked hplain (fun _ => eq_table_nil_of_mark?) column
      · exact clear_table_block hkeys hvalues hne (hclear column)
    exact ⟨hblock column, clear_value hplain rfl (hblock (column + 2))⟩

/-- **The YAML text of a document tells the document.** -/
theorem eq_of_yaml_eq {d d' : Document} (h : d.Plain) (h' : d'.Plain) (heq : d.yaml = d'.yaml) :
    d = d' := by
  have hblock := String.ofList_injective heq
  exact ((clear_document h 0).1 d' h' _ _ (.inl rfl) (.inl rfl) hblock).1

end Yaml

end ContractSchema
