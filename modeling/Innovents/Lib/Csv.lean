import Mathlib.Data.List.Basic

namespace Innovents.Lib.Csv

/-- The characters with a meaning of their own. -/
structure Alphabet (α : Type) where
  quote : α
  comma : α
  cr : α
  lf : α
  nodup : [quote, comma, cr, lf].Nodup

variable {α : Type}

/-- What has been read: the records so far, the cells of the record that is being read, and its
last cell. -/
inductive State (α : Type)
  | field (records : List (List (List α))) (record : List (List α))
  | plain (records : List (List (List α))) (record : List (List α)) (cell : List α)
  | quoted (records : List (List (List α))) (record : List (List α)) (cell : List α)
  | closed (records : List (List (List α))) (record : List (List α)) (cell : List α)
  | afterCr (records : List (List (List α))) (record : List (List α))
  | invalid

/-- The last record may end with a line break. -/
def finish : State α → Option (List (List (List α)))
  | .field rs [] => some rs
  | .field rs r => some (rs ++ [r ++ [[]]])
  | .plain rs r s | .closed rs r s => some (rs ++ [r ++ [s]])
  | .quoted .. | .afterCr .. | .invalid => none

/-- The state after a cell. -/
inductive Reads (rs : List (List (List α))) (r : List (List α)) : List α → State α → Prop
  | empty : Reads rs r [] (.field rs r)
  | plain (s : List α) : Reads rs r s (.plain rs r s)
  | closed (s : List α) : Reads rs r s (.closed rs r s)

section States

variable {rs : List (List (List α))} {r : List (List α)} {s : List α} {st : State α}

theorem Alphabet.comma_ne_quote (a : Alphabet α) : a.comma ≠ a.quote := by
  have h := a.nodup
  simp only [List.nodup_cons, List.mem_cons, not_or] at h
  exact fun he ↦ h.1.1 he.symm

theorem Alphabet.cr_ne (a : Alphabet α) : a.cr ≠ a.quote ∧ a.cr ≠ a.comma := by
  have h := a.nodup
  simp only [List.nodup_cons, List.mem_cons, not_or] at h
  exact ⟨fun he ↦ h.1.2.1 he.symm, fun he ↦ h.2.1.1 he.symm⟩

theorem Reads.finish (h : Reads rs r s st) (hr : r ≠ []) : finish st = some (rs ++ [r ++ [s]]) := by
  cases h with
  | empty =>
    cases r with
    | nil => exact absurd rfl hr
    | cons => rfl
  | plain | closed => rfl

theorem exists_last (h : 2 ≤ r.length) : ∃ cells s, r = cells ++ [s] ∧ cells ≠ [] := by
  have hne : r ≠ [] := by
    rintro rfl
    cases h
  refine ⟨r.dropLast, r.getLast hne, (List.dropLast_append_getLast hne).symm, fun hnil ↦ ?_⟩
  have hlength : r.dropLast.length = r.length - 1 := List.length_dropLast
  rw [hnil, List.length_nil] at hlength
  omega

end States

variable [DecidableEq α]

section Parser

variable (a : Alphabet α)

def step : State α → α → State α
  | .field rs r, c =>
    if c = a.quote then .quoted rs r []
    else if c = a.comma then .field rs (r ++ [[]])
    else if c = a.cr then .afterCr rs (r ++ [[]])
    else if c = a.lf then .invalid
    else .plain rs r [c]
  | .plain rs r s, c =>
    if c = a.quote then .invalid
    else if c = a.comma then .field rs (r ++ [s])
    else if c = a.cr then .afterCr rs (r ++ [s])
    else if c = a.lf then .invalid
    else .plain rs r (s ++ [c])
  | .quoted rs r s, c => if c = a.quote then .closed rs r s else .quoted rs r (s ++ [c])
  | .closed rs r s, c =>
    if c = a.quote then .quoted rs r (s ++ [c])
    else if c = a.comma then .field rs (r ++ [s])
    else if c = a.cr then .afterCr rs (r ++ [s])
    else .invalid
  | .afterCr rs r, c => if c = a.lf then .field (rs ++ [r]) [] else .invalid
  | .invalid, _ => .invalid

/-- The records of a text, if it is one of comma-separated values. -/
def parse (text : List α) : Option (List (List (List α))) :=
  finish (text.foldl (step a) (.field [] []))

/-- The characters that a cell without quotes does not have. -/
def isSpecial (c : α) : Bool := c = a.quote || c = a.comma || c = a.cr || c = a.lf

/-- Quotes are doubled. -/
def doubled (s : List α) : List α := s.flatMap fun c ↦ if c = a.quote then [c, c] else [c]

def cell (s : List α) : List α :=
  if s.any (isSpecial a) then a.quote :: (doubled a s ++ [a.quote]) else s

def row (cells : List (List α)) : List α := [a.comma].intercalate (cells.map (cell a))

def text (rows : List (List (List α))) : List α := [a.cr, a.lf].intercalate (rows.map (row a))

end Parser

variable {a : Alphabet α} {rs : List (List (List α))} {r cells : List (List α)} {s : List α}
  {st : State α}

theorem Reads.comma (h : Reads rs r s st) : step a st a.comma = .field rs (r ++ [s]) := by
  cases h with
  | empty | plain | closed => rw [step, if_neg a.comma_ne_quote, if_pos rfl]

theorem Reads.cr (h : Reads rs r s st) : step a st a.cr = .afterCr rs (r ++ [s]) := by
  cases h with
  | empty | plain | closed => rw [step, if_neg a.cr_ne.1, if_neg a.cr_ne.2, if_pos rfl]

theorem isSpecial_eq_false {c : α} (h : isSpecial a c = false) :
    c ≠ a.quote ∧ c ≠ a.comma ∧ c ≠ a.cr ∧ c ≠ a.lf := by
  simpa [isSpecial, and_assoc] using h

/-- Characters without a meaning of their own are added to the cell. -/
theorem foldl_plain {t : List α} (ht : t.any (isSpecial a) = false) :
    t.foldl (step a) (.plain rs r s) = .plain rs r (s ++ t) := by
  induction t generalizing s with
  | nil => rw [List.foldl_nil, List.append_nil]
  | cons c t ih =>
    rw [List.any_cons, Bool.or_eq_false_iff] at ht
    obtain ⟨hquote, hcomma, hcr, hlf⟩ := isSpecial_eq_false ht.1
    rw [List.foldl_cons, step, if_neg hquote, if_neg hcomma, if_neg hcr, if_neg hlf, ih ht.2,
      List.append_assoc, List.singleton_append]

/-- Between quotes every character is added to the cell, and doubled quotes as one. -/
theorem foldl_doubled {t : List α} :
    (doubled a t).foldl (step a) (.quoted rs r s) = .quoted rs r (s ++ t) := by
  induction t generalizing s with
  | nil => rw [doubled, List.flatMap_nil, List.foldl_nil, List.append_nil]
  | cons c t ih =>
    rw [doubled, List.flatMap_cons, List.foldl_append]
    by_cases hc : c = a.quote
    · subst hc
      rw [if_pos rfl, List.foldl_cons, List.foldl_cons, List.foldl_nil, step, if_pos rfl, step,
        if_pos rfl]
      exact ih.trans (by rw [List.append_assoc, List.singleton_append])
    · rw [if_neg hc, List.foldl_cons, List.foldl_nil, step, if_neg hc]
      exact ih.trans (by rw [List.append_assoc, List.singleton_append])

/-- A cell is read back. -/
theorem reads_cell (s : List α) : Reads rs r s ((cell a s).foldl (step a) (.field rs r)) := by
  unfold cell
  split_ifs with hspecial
  · rw [List.foldl_cons, step, if_pos rfl, List.foldl_append, foldl_doubled, List.foldl_cons,
      List.foldl_nil, step, if_pos rfl, List.nil_append]
    exact .closed s
  · rw [Bool.not_eq_true] at hspecial
    cases s with
    | nil => exact .empty
    | cons c t =>
      rw [List.any_cons, Bool.or_eq_false_iff] at hspecial
      obtain ⟨hquote, hcomma, hcr, hlf⟩ := isSpecial_eq_false hspecial.1
      rw [List.foldl_cons, step, if_neg hquote, if_neg hcomma, if_neg hcr, if_neg hlf,
        foldl_plain hspecial.2]
      exact .plain _

/-- The cells of a row are read back, and the last of them stays to be ended. -/
theorem reads_row (cells : List (List α)) (s : List α) : ∃ st,
    (row a (cells ++ [s])).foldl (step a) (.field rs r) = st ∧ Reads rs (r ++ cells) s st := by
  refine ⟨_, rfl, ?_⟩
  induction cells generalizing r with
  | nil =>
    rw [List.nil_append, List.append_nil, row, List.map_singleton, List.intercalate_singleton]
    exact reads_cell s
  | cons t cells ih =>
    have hne : (cells ++ [s]).map (cell a) ≠ [] := by simp
    rw [List.cons_append, row, List.map_cons, List.intercalate_cons_of_ne_nil hne, List.foldl_append,
      List.foldl_append, List.foldl_cons, List.foldl_nil, (reads_cell t).comma]
    have hrest := ih (r := r ++ [t])
    rw [List.append_assoc, List.singleton_append] at hrest
    exact hrest

/-- A row and a line break. -/
theorem foldl_row_crlf (h : 2 ≤ r.length) :
    (row a r ++ [a.cr, a.lf]).foldl (step a) (.field rs []) = .field (rs ++ [r]) [] := by
  obtain ⟨cells, s, rfl, -⟩ := exists_last h
  obtain ⟨st, hst, hreads⟩ := @reads_row α _ a rs [] cells s
  rw [List.foldl_append, hst, List.foldl_cons, List.foldl_cons, List.foldl_nil, hreads.cr, step,
    if_pos rfl, List.nil_append]

theorem finish_row (h : 2 ≤ r.length) :
    finish ((row a r).foldl (step a) (.field rs [])) = some (rs ++ [r]) := by
  obtain ⟨cells, s, rfl, hne⟩ := exists_last h
  obtain ⟨st, hst, hreads⟩ := @reads_row α _ a rs [] cells s
  rw [hst, hreads.finish hne, List.nil_append]

/-- Rows of at least two cells are read back. -/
theorem parse_text {rows : List (List (List α))} (hne : rows ≠ [])
    (hrows : ∀ r ∈ rows, 2 ≤ r.length) : parse a (text a rows) = some rows := by
  suffices hgen : ∀ rs, finish ((text a rows).foldl (step a) (.field rs [])) = some (rs ++ rows) from
    hgen []
  induction rows with
  | nil => exact absurd rfl hne
  | cons r rows ih =>
    intro rs
    have hr := hrows r List.mem_cons_self
    cases rows with
    | nil =>
      rw [text, List.map_singleton, List.intercalate_singleton]
      exact finish_row hr
    | cons r' rows =>
      have hrest := ih nofun (fun t ht ↦ hrows t (List.mem_cons_of_mem _ ht)) (rs ++ [r])
      rw [text, List.map_cons, List.map_cons, List.intercalate_cons_cons, List.foldl_append,
        foldl_row_crlf hr]
      rw [List.append_assoc, List.singleton_append] at hrest
      exact hrest

end Innovents.Lib.Csv
