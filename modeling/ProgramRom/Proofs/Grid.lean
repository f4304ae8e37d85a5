import Mathlib.Algebra.GroupWithZero.Nat
import Mathlib.Data.List.DropRight
import ProgramRom.Text.Grid

/-! # Reading grids

The lines of a grid are all equally long, whatever texts are in it: a column is as wide as its widest text, and rules
have a junction where lines have a bar. A line is read back by splitting it at the bars and trimming the spaces, if no
text of it holds a bar. -/

namespace ProgramRom.Text

/-! ### Spaces at the ends of a text -/

/-- A text without the spaces at both its ends. -/
def trimSpaces (text : String) : String :=
  String.ofList ((text.toList.dropWhile (· = ' ')).rdropWhile (· = ' '))

theorem trimSpaces_spaces_append (n : Nat) (text : String) : trimSpaces (spaces n ++ text) = trimSpaces text := by
  rw [trimSpaces, String.toList_append, toList_spaces, List.dropWhile_append_of_pos (by simp), trimSpaces]

theorem trimSpaces_append_spaces (text : String) (n : Nat) : trimSpaces (text ++ spaces n) = trimSpaces text := by
  have hspaces : (List.replicate n ' ').dropWhile (· = ' ') = [] := List.dropWhile_eq_nil_iff.mpr (by simp)
  rw [trimSpaces, String.toList_append, toList_spaces, List.dropWhile_append, hspaces, trimSpaces]
  split
  · rename_i hempty
    rw [List.isEmpty_iff.mp hempty]
  · rw [List.rdropWhile, List.reverse_append, List.reverse_replicate, List.dropWhile_append_of_pos (by simp),
      List.rdropWhile]

/-- A text that neither begins nor ends with a space. -/
structure Trimmed (text : String) : Prop where
  head : text.toList.head? ≠ some ' '
  last : text.toList.getLast? ≠ some ' '

instance (text : String) : Decidable (Trimmed text) :=
  decidable_of_iff (text.toList.head? ≠ some ' ' ∧ text.toList.getLast? ≠ some ' ')
    ⟨fun h => ⟨h.1, h.2⟩, fun h => ⟨h.head, h.last⟩⟩

theorem trimmed_of_not_mem {text : String} (h : ' ' ∉ text.toList) : Trimmed text :=
  ⟨fun hhead => h (List.mem_of_head? hhead), fun hlast => h (List.mem_of_getLast? hlast)⟩

theorem Trimmed.trimSpaces_eq {text : String} (h : Trimmed text) : trimSpaces text = text := by
  have hfront : text.toList.dropWhile (· = ' ') = text.toList := by
    rw [List.dropWhile_eq_self_iff]
    intro hl hspace
    exact h.head (by rw [List.head?_eq_getElem?, List.getElem?_eq_getElem hl, of_decide_eq_true hspace])
  have hback : text.toList.rdropWhile (· = ' ') = text.toList := by
    rw [List.rdropWhile_eq_self_iff]
    intro hl hspace
    exact h.last (by rw [List.getLast?_eq_some_getLast hl, of_decide_eq_true hspace])
  rw [trimSpaces, hfront, hback, String.ofList_toList]

/-! ### Texts with a separator between them -/

/-- The texts between the bars of a line, without the spaces around them. -/
def cells (line : String) : List String := (parts '│' line).map trimSpaces

theorem not_mem_intercalate {c : Char} {separator : String} {texts : List String} (hsep : c ∉ separator.toList)
    (h : ∀ t ∈ texts, c ∉ t.toList) : c ∉ (String.intercalate separator texts).toList := by
  induction texts with
  | nil => simp
  | cons t ts ih =>
    obtain ⟨ht, hts⟩ := List.forall_mem_cons.mp h
    cases ts with
    | nil => simpa using ht
    | cons u us =>
      rw [String.intercalate_cons_cons, String.toList_append, String.toList_append]
      simp only [List.mem_append, ht, hsep, ih hts, or_self, not_false_eq_true]

/-- The length of a text with separators depends on the lengths of its parts alone. -/
theorem length_intercalate (separator : String) (texts : List String) :
    (String.intercalate separator texts).length =
      (texts.map String.length).sum + (texts.length - 1) * separator.length := by
  induction texts with
  | nil => simp
  | cons t ts ih =>
    cases ts with
    | nil => simp
    | cons u us =>
      rw [String.intercalate_cons_cons, String.length_append, String.length_append, ih]
      simp only [List.map_cons, List.sum_cons, List.length_cons, Nat.add_sub_cancel, Nat.add_mul, Nat.one_mul]
      omega

theorem cells_intercalate_append_spaces {texts : List String} (hne : texts ≠ []) (h : ∀ t ∈ texts, '│' ∉ t.toList)
    (n : Nat) : cells (String.intercalate "│" texts ++ spaces n) = texts.map trimSpaces := by
  induction texts with
  | nil => exact absurd rfl hne
  | cons t ts ih =>
    obtain ⟨ht, hts⟩ := List.forall_mem_cons.mp h
    cases ts with
    | nil =>
      have hbar : '│' ∉ (t ++ spaces n).toList := by simpa using ht
      rw [String.intercalate_singleton, cells, parts_of_not_mem hbar, List.map_singleton, trimSpaces_append_spaces,
        List.map_singleton]
    | cons u us =>
      have hbar : (String.intercalate "│" (t :: u :: us) ++ spaces n) =
          t ++ String.singleton '│' ++ (String.intercalate "│" (u :: us) ++ spaces n) := by
        rw [String.intercalate_cons_cons, String.append_assoc, String.append_assoc, String.append_assoc]
        rfl
      rw [hbar, cells, parts_append ht, List.map_cons, ← cells, ih (List.cons_ne_nil u us) hts]
      rfl

/-- Spaces at the ends of a line belong to its first and last cells and are trimmed with them. -/
theorem cells_intercalate {texts : List String} (hne : texts ≠ []) (h : ∀ t ∈ texts, '│' ∉ t.toList) (m n : Nat) :
    cells (spaces m ++ String.intercalate "│" texts ++ spaces n) = texts.map trimSpaces := by
  cases texts with
  | nil => exact absurd rfl hne
  | cons t ts =>
    obtain ⟨ht, hts⟩ := List.forall_mem_cons.mp h
    have hfront : '│' ∉ (spaces m ++ t).toList := by simpa using ht
    rw [← String.intercalate_cons_append, cells_intercalate_append_spaces (List.cons_ne_nil _ _)
      (List.forall_mem_cons.mpr ⟨hfront, hts⟩), List.map_cons, trimSpaces_spaces_append, List.map_cons]

/-! ### Lines of a grid -/

namespace Grid
variable {g : Grid} {row : List String}

/-- A cell is its text between spaces. -/
theorem exists_cell_eq (g : Grid) (row : List String) (alignment : Alignment) (column : Nat) :
    ∃ m n, g.cell row alignment column = spaces m ++ row.getD column "" ++ spaces n := by
  unfold cell
  generalize row.getD column "" = text
  generalize hfree : g.width column - text.length = free
  have hmargin : ∀ m n, " " ++ (spaces m ++ text ++ spaces n) ++ " " = spaces (1 + m) ++ text ++ spaces (n + 1) := by
    intro m n
    simp only [← String.toList_inj, String.toList_append, toList_spaces, List.replicate_add, List.append_assoc]
    rfl
  cases alignment with
  | left => exact ⟨1 + 0, free + 1, by rw [← hmargin, Alignment.pad, hfree]; simp [spaces]⟩
  | center => exact ⟨1 + free / 2, free - free / 2 + 1, by rw [← hmargin, Alignment.pad, hfree]⟩
  | right => exact ⟨1 + free, 0 + 1, by rw [← hmargin, Alignment.pad, hfree]; simp [spaces]⟩

theorem trimSpaces_cell (g : Grid) (row : List String) (alignment : Alignment) (column : Nat) :
    trimSpaces (g.cell row alignment column) = trimSpaces (row.getD column "") := by
  obtain ⟨m, n, hcell⟩ := g.exists_cell_eq row alignment column
  rw [hcell, trimSpaces_append_spaces, trimSpaces_spaces_append]

theorem not_mem_getD {c : Char} (h : ∀ t ∈ row, c ∉ t.toList) (column : Nat) : c ∉ (row.getD column "").toList := by
  rw [List.getD_eq_getElem?_getD]
  cases hcolumn : row[column]? with
  | none => simp
  | some t => exact h t (List.mem_of_getElem? hcolumn)

theorem not_mem_cell {c : Char} (hspace : c ≠ ' ') (h : ∀ t ∈ row, c ∉ t.toList) (alignment : Alignment)
    (column : Nat) : c ∉ (g.cell row alignment column).toList := by
  obtain ⟨m, n, hcell⟩ := g.exists_cell_eq row alignment column
  rw [hcell]
  simp only [String.toList_append, toList_spaces, List.mem_append, List.mem_replicate, hspace, and_false,
    not_mem_getD h column, or_self, not_false_eq_true]

theorem length_cell (h : row ∈ g.titles :: g.rows) (alignment : Alignment) (column : Nat) :
    (g.cell row alignment column).length = g.width column + 2 := by
  rw [cell, String.length_append, String.length_append, alignment.length_pad (g.length_le_width h column)]
  have hspace : (" " : String).length = 1 := rfl
  omega

/-- The cells of a row, from the first column to the last. -/
def cellsOf (g : Grid) (row : List String) : List String := g.alignments.zipIdx.map fun (a, j) => g.cell row a j

theorem line_eq (g : Grid) (row : List String) :
    g.line row = spaces 1 ++ String.intercalate "│" (g.cellsOf row) ++ spaces 1 := rfl

theorem map_trimSpaces_cellsOf (g : Grid) (hlength : row.length = g.alignments.length)
    (htrimmed : ∀ t ∈ row, Trimmed t) : (g.cellsOf row).map trimSpaces = row := by
  refine List.ext_getElem (by simp [cellsOf, hlength]) fun j hj hrow => ?_
  simp only [cellsOf, List.map_map, List.getElem_map, Function.comp_apply, List.getElem_zipIdx, Nat.zero_add,
    trimSpaces_cell, List.getD_eq_getElem?_getD, List.getElem?_eq_getElem hrow, Option.getD_some]
  exact (htrimmed _ (List.getElem_mem hrow)).trimSpaces_eq

/-- A line is read back as the texts of its row, if there is one for each column and none of them holds a bar. -/
theorem cells_line (g : Grid) (hne : g.alignments ≠ []) (hlength : row.length = g.alignments.length)
    (htrimmed : ∀ t ∈ row, Trimmed t) (hbar : ∀ t ∈ row, '│' ∉ t.toList) : cells (g.line row) = row := by
  have hcells : g.cellsOf row ≠ [] := by simp [cellsOf, hne]
  have hbars : ∀ t ∈ g.cellsOf row, '│' ∉ t.toList := by
    intro t ht
    obtain ⟨⟨a, j⟩, -, rfl⟩ := List.mem_map.mp ht
    exact not_mem_cell (by decide) hbar a j
  rw [line_eq, cells_intercalate hcells hbars, g.map_trimSpaces_cellsOf hlength htrimmed]

/-! ### The width of a grid -/

theorem map_length_cellsOf (h : row ∈ g.titles :: g.rows) :
    (g.cellsOf row).map String.length = (List.range g.alignments.length).map (g.width · + 2) := by
  rw [List.range_eq_range', ← List.zipIdx_map_snd, cellsOf, List.map_map, List.map_map]
  exact List.map_congr_left fun ⟨a, j⟩ _ => length_cell h a j

/-- A line is as long as a rule: it has a bar for every junction. -/
theorem length_line (h : row ∈ g.titles :: g.rows) (junction : String) (hjunction : junction.length = 1) :
    (g.line row).length = (g.rule junction).length := by
  have hbar : ("│" : String).length = 1 := rfl
  have hmargin : (" " : String).length = 1 := rfl
  have hcells := congrArg List.length (map_length_cellsOf h)
  simp only [List.length_map, List.length_range] at hcells
  simp only [line_eq, rule, String.length_append, length_spaces, length_intercalate, map_length_cellsOf h, hcells, hbar,
    hmargin, hjunction, List.map_map, List.length_map, List.length_range, Function.comp_def, String.length_ofList,
    List.length_replicate]

theorem length_of_mem_lines : ∀ l ∈ g.lines, l.length = (g.rule "┼").length := by
  have hrule : (g.rule "┴").length = (g.rule "┼").length := by
    rw [← length_line List.mem_cons_self "┴" rfl, length_line List.mem_cons_self "┼" rfl]
  intro l hl
  simp only [lines, List.mem_append, List.mem_cons, List.mem_map, List.not_mem_nil, or_false] at hl
  rcases hl with ((rfl | rfl) | ⟨row, hrow, rfl⟩) | rfl
  · exact length_line List.mem_cons_self "┼" rfl
  · rfl
  · exact length_line (List.mem_cons_of_mem _ hrow) "┼" rfl
  · exact hrule

/-! ### The characters of a grid -/

theorem not_mem_line {c : Char} (hspace : c ≠ ' ') (hbar : c ≠ '│') (h : ∀ t ∈ row, c ∉ t.toList) :
    c ∉ (g.line row).toList := by
  have hcells : c ∉ (String.intercalate "│" (g.cellsOf row)).toList := by
    refine not_mem_intercalate (by simpa using hbar) fun t ht => ?_
    obtain ⟨⟨a, j⟩, -, rfl⟩ := List.mem_map.mp ht
    exact not_mem_cell hspace h a j
  rw [line_eq]
  simp only [String.toList_append, toList_spaces, List.mem_append, List.mem_replicate, hspace, and_false, hcells,
    or_self, not_false_eq_true]

/-- A rule is made of nothing but dashes, junctions and the spaces at its ends. -/
theorem mem_rule {junction : String} {c : Char} (h : c ∈ (g.rule junction).toList) :
    c = ' ' ∨ c = '─' ∨ c ∈ junction.toList := by
  by_contra hc
  simp only [not_or] at hc
  obtain ⟨hspace, hdash, hjunction⟩ := hc
  refine absurd h ?_
  have hdashes : c ∉ (String.intercalate junction ((List.range g.alignments.length).map fun column =>
      String.ofList (List.replicate (g.width column + 2) '─'))).toList := by
    refine not_mem_intercalate hjunction fun t ht => ?_
    obtain ⟨j, -, rfl⟩ := List.mem_map.mp ht
    simp [hdash]
  rw [rule]
  simp only [String.toList_append, List.mem_append, hdashes, or_false]
  simpa using hspace

theorem not_mem_lines {c : Char} (hc : c ∉ " │─┼┴".toList) (h : ∀ row ∈ g.titles :: g.rows, ∀ t ∈ row, c ∉ t.toList) :
    ∀ l ∈ g.lines, c ∉ l.toList := by
  have hdrawn : ∀ drawn ∈ " │─┼┴".toList, c ≠ drawn := fun drawn hmem => (ne_of_mem_of_not_mem hmem hc).symm
  have hrule : ∀ junction : String, c ∉ junction.toList → c ∉ (g.rule junction).toList := by
    intro junction hjunction hmem
    rcases mem_rule hmem with hspace | hdash | hmem
    · exact hdrawn ' ' (by decide) hspace
    · exact hdrawn '─' (by decide) hdash
    · exact hjunction hmem
  have hline : ∀ row ∈ g.titles :: g.rows, c ∉ (g.line row).toList := fun row hrow =>
    not_mem_line (hdrawn ' ' (by decide)) (hdrawn '│' (by decide)) (h row hrow)
  intro l hl
  simp only [lines, List.mem_append, List.mem_cons, List.mem_map, List.not_mem_nil, or_false] at hl
  rcases hl with ((rfl | rfl) | ⟨row, hrow, rfl⟩) | rfl
  · exact hline _ List.mem_cons_self
  · exact hrule "┼" (by simpa using hdrawn '┼' (by decide))
  · exact hline row (List.mem_cons_of_mem _ hrow)
  · exact hrule "┴" (by simpa using hdrawn '┴' (by decide))

end Grid

/-! ### Tables -/

/-- A line of nothing but dashes, junctions and spaces. -/
def IsRule (line : String) : Prop := ∀ c ∈ line.toList, c = ' ' ∨ c = '─' ∨ c = '┼' ∨ c = '┴'

/-- Lines of one length that read as a table: a line of titles, a rule, a line for each row, and a rule below them. -/
structure IsTable (titles : List String) (rows : List (List String)) (lines : List String) : Prop where
  length : ∃ width, ∀ l ∈ lines, l.length = width
  parts : ∃ title upper body lower, lines = [title, upper] ++ body ++ [lower] ∧ cells title = titles ∧ IsRule upper ∧
    body.map cells = rows ∧ IsRule lower

/-- The rows of a table, by its lines. -/
def tableRows (lines : List String) : List (List String) := ((lines.drop 2).dropLast).map cells

theorem IsTable.tableRows_eq {titles : List String} {rows : List (List String)} {lines : List String}
    (h : IsTable titles rows lines) : tableRows lines = rows := by
  obtain ⟨title, upper, body, lower, rfl, -, -, hbody, -⟩ := h.parts
  show ((body ++ [lower]).dropLast).map cells = rows
  rw [List.dropLast_concat, hbody]

/-- A grid whose texts can be told apart on its lines: each row has a text for every column, and no text holds a bar or
has spaces at its ends. -/
structure Grid.Readable (g : Grid) : Prop where
  columns : g.alignments ≠ []
  length : ∀ row ∈ g.titles :: g.rows, row.length = g.alignments.length
  trimmed : ∀ row ∈ g.titles :: g.rows, ∀ t ∈ row, Trimmed t
  bar : ∀ row ∈ g.titles :: g.rows, ∀ t ∈ row, '│' ∉ t.toList

theorem Grid.Readable.isTable {g : Grid} (h : g.Readable) : IsTable g.titles g.rows g.lines where
  length := ⟨_, length_of_mem_lines⟩
  parts := by
    have hcells : ∀ row ∈ g.titles :: g.rows, cells (g.line row) = row := fun row hrow =>
      g.cells_line h.columns (h.length row hrow) (h.trimmed row hrow) (h.bar row hrow)
    have hrule : ∀ junction, junction = '┼' ∨ junction = '┴' → IsRule (g.rule (String.singleton junction)) := by
      intro junction hjunction c hc
      rcases mem_rule hc with hspace | hdash | hmem
      · exact Or.inl hspace
      · exact Or.inr (Or.inl hdash)
      · rw [String.toList_singleton, List.mem_singleton] at hmem
        exact Or.inr (Or.inr (hmem ▸ hjunction))
    refine ⟨g.line g.titles, g.rule "┼", g.rows.map g.line, g.rule "┴", rfl, hcells _ List.mem_cons_self,
      hrule '┼' (Or.inl rfl), ?_, hrule '┴' (Or.inr rfl)⟩
    rw [List.map_map]
    exact (List.map_congr_left fun row hrow => hcells row (List.mem_cons_of_mem _ hrow)).trans (List.map_id g.rows)

end ProgramRom.Text
