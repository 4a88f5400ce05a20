import Mathlib.Data.Rat.Defs
import Mathlib.Data.List.Basic

namespace Innovents.Lib

/-- The values a JSON document or a property access can give. A moment in time
is kept as its milliseconds; a document spells it out as text. -/
inductive JsValue
  | undefined
  | null
  | bool (b : Bool)
  | num (q : ℚ)
  | str (s : String)
  | date (ms : ℤ)
  | arr (items : List JsValue)
  | obj (fields : List (String × JsValue))

namespace JsValue

def truthy : JsValue → Bool
  | undefined | null => false
  | bool b => b
  | num q => q != 0
  | str s => s != ""
  | date _ | arr _ | obj _ => true

def isNullish : JsValue → Bool
  | undefined | null => true
  | _ => false

/-- `a || b`. -/
def or (a b : JsValue) : JsValue := if a.truthy then a else b

/-- `a ?? b`. -/
def orNullish (a b : JsValue) : JsValue := if a.isNullish then b else a

/-- The property `k` of a value, as `a.k` reads it and, since it never fails,
as `a?.k` reads it. Only records carry properties here. -/
def get : JsValue → String → JsValue
  | obj fields, k => (fields.lookup k).getD undefined
  | _, _ => undefined

/-- The element `a?.[i]`. -/
def item : JsValue → ℕ → JsValue
  | arr items, i => items[i]?.getD undefined
  | _, _ => undefined

/-- `a === s` for a string `s`. -/
def isStr : JsValue → String → Bool
  | str t, s => t == s
  | _, _ => false

def asStr? : JsValue → Option String
  | str s => some s
  | _ => none

/-- `typeof a === 'number'`. -/
def asNum? : JsValue → Option ℚ
  | num q => some q
  | _ => none

@[simp] theorem get_undefined (k : String) : undefined.get k = undefined := rfl
@[simp] theorem get_str (s k : String) : (str s).get k = undefined := rfl
@[simp] theorem truthy_undefined : undefined.truthy = false := rfl
@[simp] theorem truthy_obj (fields : List (String × JsValue)) : (obj fields).truthy = true := rfl
@[simp] theorem isStr_undefined (s : String) : undefined.isStr s = false := rfl
@[simp] theorem isStr_str (t s : String) : (str t).isStr s = (t == s) := rfl
@[simp] theorem asStr?_str (s : String) : (str s).asStr? = some s := rfl

theorem or_of_truthy {a : JsValue} (b : JsValue) (h : a.truthy = true) : a.or b = a := by
  simp [or, h]

theorem or_of_falsy {a : JsValue} (b : JsValue) (h : a.truthy = false) : a.or b = b := by
  simp [or, h]

theorem or_truthy {a b : JsValue} (h : b.truthy = true) : (a.or b).truthy = true := by
  unfold or
  split_ifs with ha
  · exact ha
  · exact h

theorem truthy_str_iff (s : String) : (str s).truthy = true ↔ s ≠ "" := by
  simp [truthy]

/-- One step into a value. -/
inductive Step
  | key (k : String)
  | index (i : ℕ)

/-- The value has `w` at the end of the path. -/
inductive At : JsValue → List Step → JsValue → Prop
  | here {v : JsValue} : At v [] v
  | field {fields : List (String × JsValue)} {k : String} {v w : JsValue} {path : List Step} :
      (k, v) ∈ fields → At v path w → At (obj fields) (.key k :: path) w
  | item {items : List JsValue} {i : ℕ} {v w : JsValue} {path : List Step} :
      items[i]? = some v → At v path w → At (arr items) (.index i :: path) w

section Paths

variable {v w : JsValue} {path : List Step} {step : Step}

end Paths

end JsValue

end Innovents.Lib
