import Mathlib.Algebra.Order.BigOperators.Group.List
import Mathlib.Algebra.Order.Ring.Nat
import Mathlib.Data.List.Nodup
import Mathlib.Data.List.Perm.Basic
import Mathlib.Logic.Relation
import Mathlib.Logic.Function.Basic

namespace Innovents.Lib

variable {α κ : Type}

inductive RoseTree (α : Type)
  | node (value : α) (children : List (RoseTree α))

namespace RoseTree

def value : RoseTree α → α
  | node a _ => a

def children : RoseTree α → List (RoseTree α)
  | node _ ts => ts

mutual

/-- The nodes of a tree, each as the tree below it. -/
def nodes : RoseTree α → List (RoseTree α)
  | node a ts => node a ts :: nodesOf ts

def nodesOf : List (RoseTree α) → List (RoseTree α)
  | [] => []
  | t :: ts => t.nodes ++ nodesOf ts

end

theorem nodesOf_eq (ts : List (RoseTree α)) : nodesOf ts = ts.flatMap nodes := by
  induction ts with
  | nil => rfl
  | cons t ts ih => rw [nodesOf, ih, List.flatMap_cons]

/-- What hangs below `a`, down to the depth `n`. -/
def grow (below : α → List α) : ℕ → α → RoseTree α
  | 0, a => node a []
  | n + 1, a => node a ((below a).map (grow below n))

/-- The values in the tree that is grown. -/
def grown (below : α → List α) (n : ℕ) (a : α) : List α := (grow below n a).nodes.map value

section Grow

variable {below : α → List α} {n : ℕ} {a b x : α}

@[simp] theorem value_grow : (grow below n a).value = a := by
  cases n <;> rfl

theorem grown_zero : grown below 0 a = [a] := rfl

theorem nodes_grow_succ : (grow below (n + 1) a).nodes =
    grow below (n + 1) a :: (below a).flatMap fun b ↦ (grow below n b).nodes := by
  rw [grow, nodes, nodesOf_eq, List.flatMap_map]

theorem grown_succ : grown below (n + 1) a = a :: (below a).flatMap (grown below n) := by
  rw [grown, nodes_grow_succ, List.map_cons, value_grow, List.map_flatMap]
  rfl

theorem self_mem_grown : a ∈ grown below n a := by
  cases n with
  | zero => exact List.mem_singleton_self a
  | succ n =>
    rw [grown_succ]
    exact List.mem_cons_self

/-- One level deeper, what is below a value is there too. -/
theorem mem_grown_succ (hb : b ∈ grown below n a) (hx : x ∈ below b) : x ∈ grown below (n + 1) a := by
  induction n generalizing a with
  | zero =>
    rw [grown_zero, List.mem_singleton] at hb
    rw [grown_succ, ← hb]
    exact List.mem_cons_of_mem _ (List.mem_flatMap.mpr ⟨x, hx, self_mem_grown⟩)
  | succ n ih =>
    rw [grown_succ, List.mem_cons] at hb
    rw [grown_succ]
    refine List.mem_cons_of_mem _ (List.mem_flatMap.mpr ?_)
    rcases hb with rfl | hb
    · exact ⟨x, hx, self_mem_grown⟩
    · obtain ⟨c, hc, hb⟩ := List.mem_flatMap.mp hb
      exact ⟨c, hc, ih hb⟩

end Grow

end RoseTree

section Link

/-- Objects that are linked: those on top, and those that have been pushed to each. -/
structure Linked (α κ : Type) where
  roots : List α
  below : κ → List α

variable [DecidableEq κ] (parent : α → Option κ)

def attach (l : Linked α κ) (a : α) : Linked α κ :=
  match parent a with
  | some k => { l with below := Function.update l.below k (l.below k ++ [a]) }
  | none => { l with roots := l.roots ++ [a] }

/-- One pass over the objects, which pushes each to its parent or to the roots. -/
def link (xs : List α) : Linked α κ := xs.foldl (attach parent) ⟨[], fun _ ↦ []⟩

theorem roots_foldl_attach (xs : List α) (l : Linked α κ) :
    (xs.foldl (attach parent) l).roots = l.roots ++ xs.filter fun a ↦ (parent a).isNone := by
  induction xs generalizing l with
  | nil => rw [List.foldl_nil, List.filter_nil, List.append_nil]
  | cons a xs ih =>
    rw [List.foldl_cons, ih, attach]
    cases h : parent a with
    | some k => simp [h]
    | none => simp [h]

theorem below_foldl_attach (xs : List α) (l : Linked α κ) (k : κ) :
    (xs.foldl (attach parent) l).below k = l.below k ++ xs.filter fun a ↦ parent a == some k := by
  induction xs generalizing l with
  | nil => rw [List.foldl_nil, List.filter_nil, List.append_nil]
  | cons a xs ih =>
    rw [List.foldl_cons, ih, attach]
    cases h : parent a with
    | none => simp [h]
    | some p =>
      by_cases hp : p = k
      · simp [h, hp]
      · simp [h, hp, Function.update_of_ne (Ne.symm hp)]

theorem link_roots (xs : List α) : (link parent xs).roots = xs.filter fun a ↦ (parent a).isNone :=
  roots_foldl_attach parent xs _

theorem link_below (xs : List α) (k : κ) :
    (link parent xs).below k = xs.filter fun a ↦ parent a == some k :=
  below_foldl_attach parent xs _ k

end Link

section Forests

open Relation

/-- Objects with keys of their own, whose parents are among them and have smaller ranks. -/
structure Ranked (key : α → κ) (parent : α → Option κ) (rank : κ → ℕ) (xs : List α) : Prop where
  keys : (xs.map key).Nodup
  parents : ∀ a ∈ xs, ∀ k, parent a = some k → ∃ b ∈ xs, key b = k ∧ rank k < rank (key a)

variable {key : α → κ} {parent : α → Option κ} {rank : κ → ℕ} {xs : List α} {a b p r x : α} {n : ℕ}

/-- `p` is the parent of `a`. -/
def Under (key : α → κ) (parent : α → Option κ) (xs : List α) (a p : α) : Prop :=
  p ∈ xs ∧ parent a = some (key p)

namespace Ranked

variable (h : Ranked key parent rank xs)

include h

theorem nodup : xs.Nodup := h.keys.of_map key

theorem eq_of_key (ha : a ∈ xs) (hb : b ∈ xs) (hkey : key a = key b) : a = b :=
  List.inj_on_of_nodup_map h.keys ha hb hkey

theorem rank_lt (ha : a ∈ xs) (hp : Under key parent xs a p) : rank (key p) < rank (key a) := by
  obtain ⟨_, -, -, hlt⟩ := h.parents a ha _ hp.2
  exact hlt

theorem under_unique : Relator.RightUnique (Under key parent xs) :=
  fun _ _ _ hb hc ↦ h.eq_of_key hb.1 hc.1 (Option.some.inj (hb.2.symm.trans hc.2))

theorem rank_le (ha : a ∈ xs) (hp : ReflTransGen (Under key parent xs) a p) :
    rank (key p) ≤ rank (key a) := by
  induction hp with
  | refl => exact Nat.le_refl _
  | @tail b c hab hbc ih =>
    have hb : b ∈ xs := by
      cases hab with
      | refl => exact ha
      | tail _ hb => exact hb.1
    exact (Nat.le_of_lt (h.rank_lt hb hbc)).trans ih

/-- Two objects with the same parent, or without any, are not above each other. -/
theorem eq_of_above (hb : b ∈ xs) (hsame : parent a = parent b)
    (hab : ReflTransGen (Under key parent xs) a b) : a = b := by
  rcases ReflTransGen.cases_head hab with rfl | ⟨p, hap, hpb⟩
  · rfl
  · have hbp : Under key parent xs b p := ⟨hap.1, hsame ▸ hap.2⟩
    have hle := h.rank_le hap.1 hpb
    have hlt := h.rank_lt hb hbp
    omega

/-- What is below both is below the same. -/
theorem siblings (ha : a ∈ xs) (hb : b ∈ xs) (hsame : parent a = parent b)
    (hxa : ReflTransGen (Under key parent xs) x a) (hxb : ReflTransGen (Under key parent xs) x b) :
    a = b := by
  rcases ReflTransGen.total_of_right_unique h.under_unique hxa hxb with hab | hba
  · exact h.eq_of_above hb hsame hab
  · exact (h.eq_of_above ha hsame.symm hba).symm

end Ranked

variable [DecidableEq κ]

/-- The objects below another. -/
def childrenOf (key : α → κ) (parent : α → Option κ) (xs : List α) (a : α) : List α :=
  xs.filter fun b ↦ parent b == some (key a)

theorem mem_childrenOf : b ∈ childrenOf key parent xs a ↔ b ∈ xs ∧ parent b = some (key a) := by
  rw [childrenOf, List.mem_filter, beq_iff_eq]

theorem grown_above (ha : a ∈ xs) (hx : x ∈ RoseTree.grown (childrenOf key parent xs) n a) :
    x ∈ xs ∧ ReflTransGen (Under key parent xs) x a := by
  induction n generalizing a with
  | zero =>
    rw [RoseTree.grown_zero, List.mem_singleton] at hx
    rw [hx]
    exact ⟨ha, .refl⟩
  | succ n ih =>
    rw [RoseTree.grown_succ, List.mem_cons] at hx
    rcases hx with rfl | hx
    · exact ⟨ha, .refl⟩
    · obtain ⟨b, hb, hx⟩ := List.mem_flatMap.mp hx
      obtain ⟨hmem, hparent⟩ := mem_childrenOf.mp hb
      obtain ⟨hxs, hxb⟩ := ih hmem hx
      exact ⟨hxs, hxb.tail ⟨ha, hparent⟩⟩

namespace Ranked

variable (h : Ranked key parent rank xs)

include h

/-- Trees of objects with the same parent, or without any, have nothing in common. -/
theorem grown_apart {ys : List α} (hys : ys.Sublist xs)
    (hsame : ∀ a ∈ ys, ∀ b ∈ ys, parent a = parent b)
    (hnodup : ∀ a ∈ ys, (RoseTree.grown (childrenOf key parent xs) n a).Nodup) :
    (ys.flatMap (RoseTree.grown (childrenOf key parent xs) n)).Nodup := by
  refine List.nodup_flatMap.mpr ⟨hnodup, ?_⟩
  refine (h.nodup.sublist hys).imp_of_mem fun {a b} ha hb hne x hxa hxb ↦ hne ?_
  exact h.siblings (hys.subset ha) (hys.subset hb) (hsame a ha b hb)
    (grown_above (hys.subset ha) hxa).2 (grown_above (hys.subset hb) hxb).2

theorem nodup_grown (ha : a ∈ xs) : (RoseTree.grown (childrenOf key parent xs) n a).Nodup := by
  induction n generalizing a with
  | zero => exact List.nodup_singleton a
  | succ n ih =>
    rw [RoseTree.grown_succ, List.nodup_cons]
    constructor
    · intro hmem
      obtain ⟨b, hb, hab⟩ := List.mem_flatMap.mp hmem
      obtain ⟨hbs, hparent⟩ := mem_childrenOf.mp hb
      have hle := h.rank_le ha (grown_above hbs hab).2
      have hlt := h.rank_lt hbs ⟨ha, hparent⟩
      omega
    · refine h.grown_apart List.filter_sublist (fun b hb c hc ↦ ?_) fun b hb ↦ ?_
      · rw [(mem_childrenOf.mp hb).2, (mem_childrenOf.mp hc).2]
      · exact ih (mem_childrenOf.mp hb).1

/-- Deep enough, every object is below a root. -/
theorem exists_root (hx : x ∈ xs) (hn : rank (key x) ≤ n) : ∃ r ∈ xs, parent r = none ∧
    x ∈ RoseTree.grown (childrenOf key parent xs) n r := by
  induction n generalizing x with
  | zero =>
    cases hparent : parent x with
    | none => exact ⟨x, hx, hparent, RoseTree.self_mem_grown⟩
    | some k =>
      obtain ⟨_, -, -, hlt⟩ := h.parents x hx k hparent
      omega
  | succ n ih =>
    cases hparent : parent x with
    | none => exact ⟨x, hx, hparent, RoseTree.self_mem_grown⟩
    | some k =>
      obtain ⟨p, hp, rfl, hlt⟩ := h.parents x hx k hparent
      obtain ⟨r, hr, hroot, hpr⟩ := ih hp (by omega)
      exact ⟨r, hr, hroot, RoseTree.mem_grown_succ hpr (mem_childrenOf.mpr ⟨hx, hparent⟩)⟩

/-- Deep enough, nothing is cut off. -/
theorem children_grow {bound : ℕ} (hbound : ∀ x ∈ xs, rank (key x) ≤ bound) (ha : a ∈ xs)
    (hn : bound ≤ n + rank (key a)) :
    ∀ t ∈ (RoseTree.grow (childrenOf key parent xs) n a).nodes,
      t.children.map RoseTree.value = childrenOf key parent xs t.value := by
  induction n generalizing a with
  | zero =>
    intro t ht
    rw [List.mem_singleton.mp ht]
    show [] = childrenOf key parent xs a
    rw [eq_comm, List.eq_nil_iff_forall_not_mem]
    intro b hb
    obtain ⟨hbs, hparent⟩ := mem_childrenOf.mp hb
    have hlt := h.rank_lt hbs ⟨ha, hparent⟩
    have hle := hbound b hbs
    omega
  | succ n ih =>
    intro t ht
    rw [RoseTree.nodes_grow_succ, List.mem_cons] at ht
    rcases ht with rfl | ht
    · rw [RoseTree.grow, RoseTree.children, List.map_map, RoseTree.value]
      exact List.map_id'' (fun _ ↦ RoseTree.value_grow) _
    · obtain ⟨b, hb, ht⟩ := List.mem_flatMap.mp ht
      obtain ⟨hbs, hparent⟩ := mem_childrenOf.mp hb
      have hlt := h.rank_lt hbs ⟨ha, hparent⟩
      exact ih hbs (by omega) t ht

/-- Ranked objects are linked to a finite forest, in which each occurs once. -/
theorem exists_forest : ∃ forest : List (RoseTree α),
    forest.map RoseTree.value = (xs.filter fun a ↦ (parent a).isNone) ∧
      (∀ t ∈ RoseTree.nodesOf forest, t.children.map RoseTree.value = childrenOf key parent xs t.value) ∧
        ((RoseTree.nodesOf forest).map RoseTree.value).Perm xs := by
  obtain ⟨bound, hbound⟩ : ∃ bound, ∀ x ∈ xs, rank (key x) ≤ bound :=
    ⟨(xs.map fun x ↦ rank (key x)).sum, fun x hx ↦
      List.single_le_sum (fun _ _ ↦ Nat.zero_le _) _ (List.mem_map_of_mem hx)⟩
  let roots := xs.filter fun a ↦ (parent a).isNone
  have hroots : ∀ r ∈ roots, r ∈ xs ∧ parent r = none := fun r hr ↦
    ⟨(List.mem_filter.mp hr).1, Option.isNone_iff_eq_none.mp (List.mem_filter.mp hr).2⟩
  have hvalues : (RoseTree.nodesOf (roots.map (RoseTree.grow (childrenOf key parent xs) bound))).map RoseTree.value =
      roots.flatMap (RoseTree.grown (childrenOf key parent xs) bound) := by
    rw [RoseTree.nodesOf_eq, List.flatMap_map, List.map_flatMap]
    rfl
  refine ⟨roots.map (RoseTree.grow (childrenOf key parent xs) bound), ?_, fun t ht ↦ ?_, ?_⟩
  · rw [List.map_map]
    exact List.map_id'' (fun _ ↦ RoseTree.value_grow) _
  · rw [RoseTree.nodesOf_eq, List.flatMap_map] at ht
    obtain ⟨r, hr, ht⟩ := List.mem_flatMap.mp ht
    exact h.children_grow hbound (hroots r hr).1 (Nat.le_add_right _ _) t ht
  · rw [hvalues, List.perm_ext_iff_of_nodup ?_ h.nodup]
    · intro x
      rw [List.mem_flatMap]
      constructor
      · rintro ⟨r, hr, hx⟩
        exact (grown_above (hroots r hr).1 hx).1
      · intro hx
        obtain ⟨r, hr, hroot, hx⟩ := h.exists_root hx (hbound x hx)
        exact ⟨r, List.mem_filter.mpr ⟨hr, Option.isNone_iff_eq_none.mpr hroot⟩, hx⟩
    · refine h.grown_apart List.filter_sublist (fun a ha b hb ↦ ?_) fun a ha ↦ ?_
      · rw [(hroots a ha).2, (hroots b hb).2]
      · exact h.nodup_grown (hroots a ha).1

end Ranked

end Forests

end Innovents.Lib
