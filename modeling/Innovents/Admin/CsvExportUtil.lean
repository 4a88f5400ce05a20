import Innovents.Lib.Csv
import Innovents.Lib.Utf16

namespace Innovents.Admin

open Innovents.Lib

/-- The values a cell is made of; the moments `δ` are those with a valid date. -/
inductive CellValue (δ ν : Type)
  | null
  | undefined
  | boolean (b : Bool)
  | number (n : ν)
  | string (s : Utf16)
  | date (d : δ)

/-- The key of a column names a property, or is a function of the row. -/
inductive ColumnKey (ρ δ ν : Type)
  | property (name : String)
  | function (f : ρ → CellValue δ ν)

structure Column (ρ δ ν : Type) where
  header : Utf16
  key : ColumnKey ρ δ ν

/-- How dates and numbers are spelled, and how the properties of a row are read. -/
structure Spelling (ρ δ ν : Type) where
  toISOString : δ → Utf16
  numberToString : ν → Utf16
  property : ρ → String → CellValue δ ν

/-- The quote, the comma and the line break of a file of comma-separated values. -/
def csvAlphabet : Csv.Alphabet UInt16 where
  quote := 0x22
  comma := 0x2C
  cr := 0x0D
  lf := 0x0A
  nodup := by decide

namespace CsvExportUtil

variable {ρ δ ν : Type}

/-- `['=', '+', '-', '@', '\t', '\r']` -/
def formulaUnits : Utf16 := [0x3D, 0x2B, 0x2D, 0x40, 0x09, 0x0D]

/-- The text of a value before anything is made safe in it. -/
def stringified (sp : Spelling ρ δ ν) : CellValue δ ν → Utf16
  | .null | .undefined => []
  | .boolean true => Utf16.ofChars "true".toList
  | .boolean false => Utf16.ofChars "false".toList
  | .number n => sp.numberToString n
  | .string s => s
  | .date d => sp.toISOString d

def neutralized (str : Utf16) : Utf16 :=
  match str with
  | u :: _ => if u ∈ formulaUnits then 0x27 :: str else str
  | [] => str

def sanitizeCell (sp : Spelling ρ δ ν) (val : CellValue δ ν) : Utf16 :=
  match val with
  | .null | .undefined => []
  | val =>
    let str := neutralized (stringified sp val)
    if 0x22 ∈ str ∨ 0x2C ∈ str ∨ 0x0A ∈ str ∨ 0x0D ∈ str then
      0x22 :: (str.flatMap fun u ↦ if u = 0x22 then [0x22, 0x22] else [u]) ++ [0x22]
    else str

def rawVal (sp : Spelling ρ δ ν) (row : ρ) (col : Column ρ δ ν) : CellValue δ ν :=
  match col.key with
  | .function f => f row
  | .property name => sp.property row name

def formatCsv (sp : Spelling ρ δ ν) (columns : List (Column ρ δ ν)) (rows : List ρ) : Utf16 :=
  let headerLine := [0x2C].intercalate (columns.map fun c ↦ sanitizeCell sp (.string c.header))
  let dataLines := rows.map fun row ↦
    [0x2C].intercalate (columns.map fun col ↦ sanitizeCell sp (rawVal sp row col))
  [0x0D, 0x0A].intercalate (headerLine :: dataLines)

/-- The records that a reader of the file should find. -/
def records (sp : Spelling ρ δ ν) (columns : List (Column ρ δ ν)) (rows : List ρ) :
    List (List Utf16) :=
  (columns.map fun c ↦ neutralized c.header) ::
    rows.map fun row ↦ columns.map fun col ↦ neutralized (stringified sp (rawVal sp row col))

variable {sp : Spelling ρ δ ν} {columns : List (Column ρ δ ν)} {rows : List ρ} {s : Utf16}

theorem any_isSpecial : s.any (Csv.isSpecial csvAlphabet) = true ↔
    0x22 ∈ s ∨ 0x2C ∈ s ∨ 0x0A ∈ s ∨ 0x0D ∈ s := by
  rw [List.any_eq_true]
  constructor
  · rintro ⟨u, hu, hspecial⟩
    simp only [Csv.isSpecial, Bool.or_eq_true, decide_eq_true_eq] at hspecial
    obtain ((rfl | rfl) | rfl) | rfl := hspecial
    · exact .inl hu
    · exact .inr (.inl hu)
    · exact .inr (.inr (.inr hu))
    · exact .inr (.inr (.inl hu))
  · rintro (h | h | h | h)
    · exact ⟨_, h, rfl⟩
    · exact ⟨_, h, rfl⟩
    · exact ⟨_, h, rfl⟩
    · exact ⟨_, h, rfl⟩

/-- The quotes are those of a file of comma-separated values. -/
theorem quoted_eq : (if 0x22 ∈ s ∨ 0x2C ∈ s ∨ 0x0A ∈ s ∨ 0x0D ∈ s then
    0x22 :: (s.flatMap fun u ↦ if u = 0x22 then [0x22, 0x22] else [u]) ++ [0x22] else s) =
    Csv.cell csvAlphabet s := by
  have hdoubled : (s.flatMap fun u ↦ if u = 0x22 then [0x22, 0x22] else [u]) =
      Csv.doubled csvAlphabet s := by
    unfold Csv.doubled
    congr 1
    funext u
    by_cases hu : u = csvAlphabet.quote
    · subst hu
      rfl
    · rw [if_neg hu]
      exact if_neg hu
  rw [Csv.cell, hdoubled]
  simp only [any_isSpecial]
  rfl

theorem sanitizeCell_eq (val : CellValue δ ν) :
    sanitizeCell sp val = Csv.cell csvAlphabet (neutralized (stringified sp val)) := by
  cases val with
  | null | undefined => rfl
  | boolean | number | string | date => exact quoted_eq

theorem formatCsv_eq : formatCsv sp columns rows = Csv.text csvAlphabet (records sp columns rows) := by
  have hheader : (columns.map fun c ↦ sanitizeCell sp (.string c.header)) =
      (columns.map fun c ↦ neutralized c.header).map (Csv.cell csvAlphabet) := by
    rw [List.map_map]
    exact List.map_congr_left fun c _ ↦ sanitizeCell_eq _
  have hrow : ∀ row, (columns.map fun col ↦ sanitizeCell sp (rawVal sp row col)) =
      (columns.map fun col ↦ neutralized (stringified sp (rawVal sp row col))).map
        (Csv.cell csvAlphabet) := by
    intro row
    rw [List.map_map]
    exact List.map_congr_left fun col _ ↦ sanitizeCell_eq _
  rw [formatCsv, Csv.text, records, List.map_cons, List.map_map]
  simp only [hheader, hrow]
  rfl

theorem records_width : ∀ r ∈ records sp columns rows, r.length = columns.length := by
  intro r hr
  obtain rfl | hr := List.mem_cons.mp hr
  · exact List.length_map _
  · obtain ⟨row, -, rfl⟩ := List.mem_map.mp hr
    exact List.length_map _

theorem neutralized_harmless (s : Utf16) : ∀ u ∈ (neutralized s).head?, u ∉ formulaUnits := by
  intro u hu
  cases s with
  | nil => cases hu
  | cons v s =>
    rw [neutralized] at hu
    split_ifs at hu with hv
    · cases hu
      decide
    · cases hu
      exact hv

theorem records_harmless : ∀ r ∈ records sp columns rows, ∀ cell ∈ r, ∀ u ∈ cell.head?,
    u ∉ formulaUnits := by
  intro r hr cell hcell
  obtain rfl | hr := List.mem_cons.mp hr
  · obtain ⟨c, -, rfl⟩ := List.mem_map.mp hcell
    exact neutralized_harmless _
  · obtain ⟨row, -, rfl⟩ := List.mem_map.mp hr
    obtain ⟨col, -, rfl⟩ := List.mem_map.mp hcell
    exact neutralized_harmless _

/-- The file is read back as the header and a record for each row, and no cell of it begins a
formula. -/
theorem csv_export (sp : Spelling ρ δ ν) (columns : List (Column ρ δ ν)) (rows : List ρ)
    (hcolumns : 2 ≤ columns.length) :
    Csv.parse csvAlphabet (formatCsv sp columns rows) = some (records sp columns rows) ∧
      ∀ r ∈ records sp columns rows, ∀ cell ∈ r, ∀ u ∈ cell.head?, u ∉ formulaUnits := by
  refine ⟨?_, records_harmless⟩
  rw [formatCsv_eq]
  refine Csv.parse_text (List.cons_ne_nil _ _) fun r hr ↦ ?_
  rw [records_width r hr]
  exact hcolumns

/-- The first seconds of the clock and whole numbers, in rows of a name, a balance and a moment. -/
def ledgerSpelling : Spelling (String × ℤ × Fin 10) (Fin 10) ℤ where
  toISOString d := Utf16.ofChars ("1970-01-01T00:00:0" ++ toString d ++ ".000Z").toList
  numberToString n := Utf16.ofChars (toString n).toList
  property row name := match name with
    | "name" => .string (Utf16.ofChars row.1.toList)
    | "balance" => .number row.2.1
    | "since" => .date row.2.2
    | _ => .undefined

def ledgerColumns : List (Column (String × ℤ × Fin 10) (Fin 10) ℤ) :=
  [⟨Utf16.ofChars "Name".toList, .property "name"⟩,
    ⟨Utf16.ofChars "Balance".toList, .function fun row ↦ .number row.2.1⟩,
    ⟨Utf16.ofChars "Since".toList, .property "since"⟩]

/-- The quotes of a name stay, and a debt does not begin with its sign. -/
theorem ledger_read_back : Csv.parse csvAlphabet
      (formatCsv ledgerSpelling ledgerColumns [("A \"B\", C", -5, 3), ("", 7, 0)]) =
    some [["Name", "Balance", "Since"].map fun s ↦ Utf16.ofChars s.toList,
      ["A \"B\", C", "'-5", "1970-01-01T00:00:03.000Z"].map fun s ↦ Utf16.ofChars s.toList,
      ["", "7", "1970-01-01T00:00:00.000Z"].map fun s ↦ Utf16.ofChars s.toList] :=
  (csv_export ledgerSpelling ledgerColumns [("A \"B\", C", -5, 3), ("", 7, 0)] (by decide)).1.trans
    (by decide)

end CsvExportUtil

end Innovents.Admin
