import Mathlib.Data.List.Basic

namespace Innovents.Lib.Markup

/-- A template literal is written as its texts and the values between them. -/
inductive Piece (α : Type)
  | lit (s : String)
  | val (a : α)

abbrev Template (α : Type) := List (Piece α)

namespace Piece

variable {α : Type}

def text (f : α → String) : Piece α → String
  | lit s => s
  | val a => f a

/-- What a template says without its values. -/
def shape : Piece α → Option String
  | lit s => some s
  | val _ => none

end Piece

namespace Template

variable {α : Type}

/-- The literal with the texts of its values. -/
def fill (f : α → String) : Template α → String
  | [] => ""
  | p :: t => p.text f ++ fill f t

def values (t : Template α) : List α := t.filterMap fun
  | .lit _ => none
  | .val a => some a

/-- Templates joined, each of the others on a line of its own with an indentation. -/
def lines (indent : ℕ) : List (Template α) → Template α
  | [] => []
  | [t] => t
  | t :: ts => t ++ .lit (String.ofList ('\n' :: List.replicate indent ' ')) :: lines indent ts

end Template

/-- The characters with a meaning in texts and in attributes. -/
def special : List Char := ['&', '<', '>', '"', '\'']

def escapeChar (c : Char) : List Char :=
  if c = '&' then "&amp;".toList
  else if c = '<' then "&lt;".toList
  else if c = '>' then "&gt;".toList
  else if c = '"' then "&quot;".toList
  else if c = '\'' then "&#39;".toList
  else [c]

def escape (s : String) : String := String.ofList (s.toList.flatMap escapeChar)

def IsPlain (s : String) : Prop := ∀ c ∈ s.toList, c ∉ special

instance (s : String) : Decidable (IsPlain s) := List.decidableBAll _ s.toList

/-- Where a reader of markup is: between tags, in a tag, or in a quoted value of an attribute. -/
inductive Mode
  | data | tag | double | single
  deriving DecidableEq

namespace Mode

def move : Mode → Char → Mode
  | data, c => if c = '<' then tag else data
  | tag, c => if c = '>' then data else if c = '"' then double else if c = '\'' then single else tag
  | double, c => if c = '"' then tag else double
  | single, c => if c = '\'' then tag else single

/-- Inside a tag every character counts. -/
def isText : Mode → Bool
  | tag => false
  | data | double | single => true

end Mode

/-- The tags that have been read, without the values of their attributes, and the tag that is being
read. -/
structure Scan where
  mode : Mode
  tags : List (List Char)
  current : List Char
  deriving DecidableEq

namespace Scan

def start : Scan := ⟨.data, [], []⟩

def step (s : Scan) (c : Char) : Scan :=
  match s.mode with
  | .data | .double | .single => { s with mode := s.mode.move c }
  | .tag =>
    if c = '>' then ⟨.data, s.tags ++ [s.current], []⟩
    else { s with mode := s.mode.move c, current := s.current ++ [c] }

end Scan

/-- The tags of a text in their order, each with its name and the names of its attributes. -/
def tagStructure (html : String) : List (List Char) := (html.toList.foldl Scan.step .start).tags

/-- What has been read when the template has been read. -/
inductive Scans {α : Type} (f : α → String) : Scan → Template α → Scan → Prop
  | nil {s s' : Scan} (h : s = s') : Scans f s [] s'
  | lit {s s' : Scan} {cs : List Char} {t : Template α} (h : Scans f (cs.foldl Scan.step s) t s') :
    Scans f s (.lit (String.ofList cs) :: t) s'
  | val {s s' : Scan} {cs : List Char} {a : α} {t : Template α} (ha : f a = String.ofList cs)
    (h : Scans f (cs.foldl Scan.step s) t s') : Scans f s (.val a :: t) s'

/-- A template leads from one mode to another, and its values are not inside of tags. -/
inductive Walks {α : Type} : Mode → Template α → Mode → Prop
  | nil {m m' : Mode} (h : m = m') : Walks m [] m'
  | lit {m m' : Mode} {cs : List Char} {t : Template α} (h : Walks (cs.foldl Mode.move m) t m') :
    Walks m (.lit (String.ofList cs) :: t) m'
  | val {m m' : Mode} {a : α} {t : Template α} (hm : m.isText = true) (h : Walks m t m') :
    Walks m (.val a :: t) m'

section Escaping

variable {α : Type} {f g : α → String} {t : Template α} {s : String} {c : Char}

theorem length_escapeChar : 1 ≤ (escapeChar c).length := by
  unfold escapeChar
  split_ifs with hamp hlt hgt hquot hapos
  · decide
  · decide
  · decide
  · decide
  · decide
  · exact Nat.le_refl 1

theorem escapeChar_plain (h : c ∉ special) : escapeChar c = [c] := by
  simp only [special, List.mem_cons, List.not_mem_nil, or_false, not_or] at h
  obtain ⟨hamp, hlt, hgt, hquot, hapos⟩ := h
  rw [escapeChar, if_neg hamp, if_neg hlt, if_neg hgt, if_neg hquot, if_neg hapos]

theorem length_escapeChar_special (h : c ∈ special) : 1 < (escapeChar c).length := by
  simp only [special, List.mem_cons, List.not_mem_nil, or_false] at h
  obtain rfl | rfl | rfl | rfl | rfl := h <;> decide

theorem length_flatMap_escapeChar (cs : List Char) :
    cs.length ≤ (cs.flatMap escapeChar).length := by
  induction cs with
  | nil => exact Nat.zero_le _
  | cons c cs ih =>
    have hc : 1 ≤ (escapeChar c).length := length_escapeChar
    rw [List.flatMap_cons, List.length_cons, List.length_append]
    omega

/-- Only what is special takes more room when it is escaped. -/
theorem plain_of_length {cs : List Char} (h : (cs.flatMap escapeChar).length = cs.length) :
    ∀ c ∈ cs, c ∉ special := by
  induction cs with
  | nil => exact fun c hc ↦ absurd hc List.not_mem_nil
  | cons c cs ih =>
    have hc : 1 ≤ (escapeChar c).length := length_escapeChar
    have hcs := length_flatMap_escapeChar cs
    rw [List.flatMap_cons, List.length_cons, List.length_append] at h
    intro d hd
    obtain rfl | hd := List.mem_cons.mp hd
    · intro hspecial
      have hmore := length_escapeChar_special hspecial
      omega
    · exact ih (by omega) d hd

theorem toList_escape : (escape s).toList = s.toList.flatMap escapeChar := String.toList_ofList

theorem escape_plain (h : IsPlain s) : escape s = s := by
  have hself : s.toList.flatMap escapeChar = s.toList := by
    rw [List.flatMap_congr fun c hc ↦ escapeChar_plain (h c hc), List.flatMap_singleton']
  rw [escape, hself, String.ofList_toList]

theorem toList_fill_cons (p : Piece α) :
    (Template.fill f (p :: t)).toList = (p.text f).toList ++ (Template.fill f t).toList :=
  String.toList_append

theorem fill_congr (h : ∀ a ∈ Template.values t, f a = g a) : t.fill f = t.fill g := by
  induction t with
  | nil => rfl
  | cons p t ih =>
    cases p with
    | lit s => exact congrArg (s ++ ·) (ih h)
    | val a =>
      have hrest := ih fun b hb ↦ h b (List.mem_cons_of_mem _ hb)
      rw [Template.fill, Template.fill, hrest]
      exact congrArg (· ++ _) (h a List.mem_cons_self)

theorem length_fill_escape :
    (t.fill f).toList.length ≤ (t.fill fun a ↦ escape (f a)).toList.length := by
  induction t with
  | nil => exact Nat.le_refl _
  | cons p t ih =>
    rw [toList_fill_cons, toList_fill_cons, List.length_append, List.length_append]
    cases p with
    | lit s => exact Nat.add_le_add_left ih _
    | val a =>
      refine Nat.add_le_add ?_ ih
      simp only [Piece.text, toList_escape]
      exact length_flatMap_escapeChar _

/-- A template shows its values in their escaped form exactly if nothing in them has to be
escaped. -/
theorem fill_escape_iff :
    t.fill f = t.fill (fun a ↦ escape (f a)) ↔ ∀ a ∈ Template.values t, IsPlain (f a) := by
  constructor
  · intro h
    have hlength := congrArg (fun s : String ↦ s.toList.length) h
    clear h
    induction t with
    | nil => exact fun a ha ↦ absurd ha List.not_mem_nil
    | cons p t ih =>
      simp only [toList_fill_cons, List.length_append] at hlength
      have hrest := @length_fill_escape α f t
      cases p with
      | lit s =>
        simp only [Piece.text] at hlength
        exact ih (show (Template.fill f t).toList.length =
          (Template.fill (fun a ↦ escape (f a)) t).toList.length by omega)
      | val a =>
        simp only [Piece.text, toList_escape] at hlength
        have hvalue := length_flatMap_escapeChar (f a).toList
        intro b hb
        obtain rfl | hb := List.mem_cons.mp hb
        · exact plain_of_length (by omega)
        · exact ih (show (Template.fill f t).toList.length =
            (Template.fill (fun a ↦ escape (f a)) t).toList.length by omega) b hb
  · exact fun h ↦ fill_congr fun a ha ↦ (escape_plain (h a ha)).symm

end Escaping

section Structure

variable {α : Type} {f g : α → String} {t t' : Template α} {m m' m'' : Mode}
  {s s' s'' : Scan}

/-- Texts without these characters neither begin nor end anything, outside of tags. -/
def Inert (cs : List Char) : Prop := ∀ c ∈ cs, c ≠ '<' ∧ c ≠ '"' ∧ c ≠ '\''

instance (cs : List Char) : Decidable (Inert cs) := List.decidableBAll _ cs

theorem inert_escapeChar (c : Char) : Inert (escapeChar c) := by
  unfold escapeChar
  split_ifs with hamp hlt hgt hquot hapos
  · decide
  · decide
  · decide
  · decide
  · decide
  · intro d hd
    rw [List.mem_singleton.mp hd]
    exact ⟨hlt, hquot, hapos⟩

theorem inert_escape (s : String) : Inert (escape s).toList := by
  intro c hc
  rw [toList_escape] at hc
  obtain ⟨d, -, hd⟩ := List.mem_flatMap.mp hc
  exact inert_escapeChar d c hd

theorem foldl_inert {cs : List Char} (hcs : Inert cs) (hs : s.mode.isText = true) :
    cs.foldl Scan.step s = s := by
  induction cs with
  | nil => rfl
  | cons c cs ih =>
    obtain ⟨hlt, hquot, hapos⟩ := hcs c List.mem_cons_self
    have hstep : s.step c = s := by
      obtain ⟨mode, tags, current⟩ := s
      cases mode with
      | data => simp [Scan.step, Mode.move, hlt]
      | double => simp [Scan.step, Mode.move, hquot]
      | single => simp [Scan.step, Mode.move, hapos]
      | tag => cases hs
    rw [List.foldl_cons, hstep]
    exact ih fun d hd ↦ hcs d (List.mem_cons_of_mem _ hd)

theorem mode_step (s : Scan) (c : Char) : (s.step c).mode = s.mode.move c := by
  obtain ⟨mode, tags, current⟩ := s
  cases mode with
  | data | double | single => rfl
  | tag =>
    rw [Scan.step]
    dsimp only
    split_ifs with h
    · rw [h]
      rfl
    · rfl

theorem mode_foldl (s : Scan) (cs : List Char) :
    (cs.foldl Scan.step s).mode = cs.foldl Mode.move s.mode := by
  induction cs generalizing s with
  | nil => rfl
  | cons c cs ih => rw [List.foldl_cons, List.foldl_cons, ih, mode_step]

theorem foldl_fill_lit {cs : List Char} :
    (Template.fill f (.lit (String.ofList cs) :: t)).toList.foldl Scan.step s =
      (t.fill f).toList.foldl Scan.step (cs.foldl Scan.step s) := by
  rw [toList_fill_cons, List.foldl_append, Piece.text, String.toList_ofList]

theorem Scans.foldl_eq (h : Scans f s t s') : (t.fill f).toList.foldl Scan.step s = s' := by
  induction h with
  | nil heq => exact heq
  | lit _ ih => exact foldl_fill_lit.trans ih
  | val ha _ ih =>
    rw [toList_fill_cons, List.foldl_append, Piece.text, ha, String.toList_ofList]
    exact ih

theorem Scans.append (h : Scans f s t s') (h' : Scans f s' t' s'') : Scans f s (t ++ t') s'' := by
  induction h with
  | nil heq =>
    subst heq
    exact h'
  | lit _ ih => exact .lit (ih h')
  | val ha _ ih => exact .val ha (ih h')

theorem foldl_fill_inert {a : α} (h : Inert (f a).toList) (hs : s.mode.isText = true) :
    (Template.fill f (.val a :: t)).toList.foldl Scan.step s =
      (t.fill f).toList.foldl Scan.step s := by
  rw [toList_fill_cons, List.foldl_append, Piece.text, foldl_inert h hs]

/-- The values that a template shows outside of its tags do not tell in what is read of it, as long
as they begin and end nothing. -/
theorem Walks.foldl_eq (h : Walks m t m') (hshape : t.map Piece.shape = t'.map Piece.shape)
    (hf : ∀ a, Inert (f a).toList) (hs : s.mode = m) :
    (t.fill f).toList.foldl Scan.step s = (t'.fill f).toList.foldl Scan.step s := by
  induction h generalizing t' s with
  | nil =>
    rw [List.map_nil, eq_comm, List.map_eq_nil_iff] at hshape
    rw [hshape]
  | lit h ih =>
    obtain ⟨p, u, rfl, hp, hu⟩ := List.map_eq_cons_iff.mp hshape.symm
    cases p with
    | val a => cases hp
    | lit r =>
      cases hp
      rw [foldl_fill_lit, foldl_fill_lit]
      refine ih hu.symm ?_
      rw [mode_foldl, hs]
  | val hm h ih =>
    obtain ⟨p, u, rfl, hp, hu⟩ := List.map_eq_cons_iff.mp hshape.symm
    cases p with
    | lit r => cases hp
    | val b =>
      subst hs
      rw [foldl_fill_inert (hf _) hm, foldl_fill_inert (hf b) hm]
      exact ih hu.symm rfl

theorem Walks.append (h : Walks m t m') (h' : Walks m' t' m'') : Walks m (t ++ t') m'' := by
  induction h with
  | nil heq =>
    subst heq
    exact h'
  | lit _ ih => exact .lit (ih h')
  | val hm _ ih => exact .val hm (ih h')

theorem move_blank (m : Mode) (n : ℕ) :
    ('\n' :: List.replicate n ' ').foldl Mode.move m = m := by
  have hblank : ∀ c ∈ '\n' :: List.replicate n ' ', m.move c = m := by
    intro c hc
    have hc : c = '\n' ∨ c = ' ' := (List.mem_cons.mp hc).imp_right List.eq_of_mem_replicate
    obtain rfl | rfl := hc <;> cases m <;> rfl
  generalize '\n' :: List.replicate n ' ' = cs at hblank
  induction cs with
  | nil => rfl
  | cons c cs ih =>
    rw [List.foldl_cons, hblank c List.mem_cons_self]
    exact ih fun d hd ↦ hblank d (List.mem_cons_of_mem _ hd)

theorem walks_lines {indent : ℕ} {ts : List (Template α)} (h : ∀ t ∈ ts, Walks m t m) :
    Walks m (Template.lines indent ts) m := by
  induction ts with
  | nil => exact .nil rfl
  | cons t ts ih =>
    have ht := h t List.mem_cons_self
    cases ts with
    | nil => exact ht
    | cons u ts =>
      refine ht.append (.lit ?_)
      rw [move_blank]
      exact ih fun v hv ↦ h v (List.mem_cons_of_mem _ hv)

/-- Escaped values leave the tags of a template alone. -/
theorem Walks.tagStructure_escaped (h : Walks .data t m')
    (hshape : t.map Piece.shape = t'.map Piece.shape) :
    tagStructure (t.fill fun a ↦ escape (f a)) = tagStructure (t'.fill fun a ↦ escape (f a)) :=
  congrArg Scan.tags (h.foldl_eq hshape (fun a ↦ inert_escape (f a)) rfl)

end Structure

end Innovents.Lib.Markup
