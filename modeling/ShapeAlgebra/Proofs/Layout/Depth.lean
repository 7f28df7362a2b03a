import ShapeAlgebra.Layout.Expr
import ShapeAlgebra.Proofs.Outcome

/-!
# Depths that a build has

The depth of a parenthesis is a byte.  In a build that wraps around there is a depth for every
number of parentheses, if not one of its own, and in a build that traps the last one is 255.  How
deep a document gets can be told from its expression: the parentheses in front of an operand count,
and those around symbols and negative numbers do not, since nothing in them is put in parentheses.

A computation that needs a depth has a value if the build has the depth, and ends at the trap
otherwise.  A sequence of two needs what the deeper one of them needs, so that how deep a document
gets and what is true of it are found in one go.
-/

namespace ShapeAlgebra

/-- The greatest number of parentheses around an operand of an expression in its text, where the
strength `asked` is needed to go without more of them. -/
def Expr.nestingAt (asked : Nat) : Expr → Nat
  | .var _ | .lit _ => 0
  | .binary .floorDiv l r =>
    max (l.nestingAt BinOp.mul.strength) (r.nestingAt BinOp.floorDiv.strength) + 1
  | .binary op l r =>
    max (l.nestingAt op.strength) (r.nestingAt (op.strength + 1)) +
      if op.strength < asked then 1 else 0

/-- The greatest number of parentheses around an operand in an axis of a shape, those of the shape
not counted. -/
def Shape.nesting (s : Shape) : Nat := s.foldr (fun e n => max (e.nestingAt 0) n) 0

namespace Layout

variable {α β : Type} {o : Overflow} {m n : Nat}

/-- A parenthesis inside `n` others has a depth. -/
def HasDepth (o : Overflow) (n : Nat) : Prop := o = .wraps ∨ n ≤ 255

instance (o : Overflow) (n : Nat) : Decidable (HasDepth o n) := inferInstanceAs (Decidable (_ ∨ _))

/-- In a build that wraps around there are all depths. -/
lemma hasDepth_wraps (n : Nat) : HasDepth .wraps n := .inl rfl

/-- In a build that traps the depths end with the byte. -/
lemma hasDepth_traps_iff : HasDepth .traps n ↔ n ≤ 255 := by
  simp [HasDepth]

/-- A shape that is not nested at all is the least that a build can write. -/
lemma hasDepth_zero (o : Overflow) : HasDepth o 0 := .inr (Nat.zero_le 255)

/-- The greater one of two depths is there if both are. -/
lemma hasDepth_max_iff : HasDepth o (max m n) ↔ HasDepth o m ∧ HasDepth o n := by
  unfold HasDepth
  rw [Nat.max_le, or_and_left]

/-! ## Computations that need a depth -/

/-- The computation `x` needs the depth `n`: if it is there then `x` has a value that satisfies
`post`, and otherwise `x` ends at the trap. -/
structure Needs (o : Overflow) (n : Nat) (x : Checked Empty α) (post : α → Prop) : Prop where
  exists_eq_ok : HasDepth o n → ∃ a, x = .ok a ∧ post a
  eq_trap : ¬HasDepth o n → x = .error (.trap .overflow)

namespace Needs

variable {x : Checked Empty α} {f : α → Checked Empty β} {post post' : α → Prop}

/-- A value needs no more depth than there is. -/
lemma ok {a : α} (h : HasDepth o n) (ha : post a) : Needs o n (.ok a) post where
  exists_eq_ok _ := ⟨a, rfl, ha⟩
  eq_trap hn := absurd h hn

/-- What is said of the value may be weakened. -/
lemma imp (h : Needs o n x post) (hpost : ∀ a, post a → post' a) : Needs o n x post' where
  exists_eq_ok hn :=
    let ⟨a, hx, ha⟩ := h.exists_eq_ok hn
    ⟨a, hx, hpost a ha⟩
  eq_trap := h.eq_trap

/-- A sequence needs what the deeper one of its parts needs, and its second part may rely on the
depth of the first. -/
lemma bind {post : β → Prop} {mid : α → Prop} (h : Needs o m x mid)
    (hf : ∀ a, HasDepth o m → mid a → Needs o n (f a) post) :
    Needs o (max m n) (x >>= f) post where
  exists_eq_ok hmax := by
    obtain ⟨hm, hn⟩ := hasDepth_max_iff.1 hmax
    obtain ⟨a, rfl, ha⟩ := h.exists_eq_ok hm
    exact (hf a hm ha).exists_eq_ok hn
  eq_trap hmax := by
    by_cases hm : HasDepth o m
    · obtain ⟨a, rfl, ha⟩ := h.exists_eq_ok hm
      exact (hf a hm ha).eq_trap fun hn => hmax (hasDepth_max_iff.2 ⟨hm, hn⟩)
    · rw [h.eq_trap hm]
      rfl

/-- What is made of a value needs what the value needs. -/
lemma bind_ok {post : β → Prop} {g : α → β} (h : Needs o n x fun a => post (g a)) :
    Needs o n (x >>= fun a => .ok (g a)) post where
  exists_eq_ok hn := by
    obtain ⟨a, rfl, ha⟩ := h.exists_eq_ok hn
    exact ⟨g a, rfl, ha⟩
  eq_trap hn := by
    rw [h.eq_trap hn]
    rfl

/-- The image of a computation needs what the computation needs. -/
lemma map {post : β → Prop} {g : α → β} (h : Needs o n x fun a => post (g a)) :
    Needs o n (x.map g) post := by
  rw [← bind_ok_eq_map]
  exact h.bind_ok

end Needs

/-- A list of computations needs what the deepest one of them needs. -/
lemma needs_mapM {f : α → Checked Empty β} {depth : α → Nat} {rel : α → β → Prop} (as : List α)
    (h : ∀ a ∈ as, Needs o (depth a) (f a) (rel a)) :
    Needs o (as.foldr (fun a n => max (depth a) n) 0) (as.mapM f) (List.Forall₂ rel as) := by
  induction as with
  | nil => exact .ok (hasDepth_zero o) .nil
  | cons a as ih =>
    rw [List.mapM_cons]
    obtain ⟨ha, has⟩ := List.forall_mem_cons.1 h
    refine ha.bind fun b _ hb => ?_
    have hcons : Needs o _ (as.mapM f) fun bs => List.Forall₂ rel (a :: as) (b :: bs) :=
      (ih has).imp fun bs hbs => .cons hb hbs
    exact hcons.bind_ok

/-! ## Parentheses -/

/-- One more parenthesis needs one more depth. -/
lemma needs_deeper (h : HasDepth o n) :
    Needs o (n + 1) (deeper o (UInt8.ofNat n)) (· = UInt8.ofNat (n + 1)) := by
  have hnext : UInt8.ofNat n + 1 = UInt8.ofNat (n + 1) := (UInt8.ofNat_add n 1).symm
  have hmod : (UInt8.ofNat n).toNat = n % 256 := UInt8.toNat_ofNat'
  unfold deeper
  by_cases hlast : UInt8.ofNat n = 255
  · have hmod' : n % 256 = 255 := hmod.symm.trans (congrArg UInt8.toNat hlast)
    rw [if_pos hlast]
    cases o with
    | wraps => exact .ok (hasDepth_wraps _) hnext
    | traps =>
      refine ⟨fun hn => ?_, fun _ => rfl⟩
      rw [hasDepth_traps_iff] at hn
      omega
  · rw [if_neg hlast]
    refine .ok (h.imp_right fun hn => ?_) hnext
    have hne : n ≠ 255 := by
      rintro rfl
      exact hlast rfl
    omega

/-- What stands inside of parentheses is one deeper than they are. -/
lemma needs_nested (h : HasDepth o n) {body : UInt8 → Checked Empty Doc} {post : Doc → Prop}
    (hbody : HasDepth o (n + 1) → Needs o (n + 1 + m) (body (UInt8.ofNat (n + 1))) fun d =>
      post (enclosed (UInt8.ofNat n) d)) :
    Needs o (n + 1 + m) (nested o (UInt8.ofNat n) body) post := by
  have hnested : Needs o (max (n + 1) (n + 1 + m)) (nested o (UInt8.ofNat n) body) post :=
    (needs_deeper h).bind fun inner hinner hnext => by
      subst hnext
      exact (hbody hinner).bind_ok
  rwa [Nat.max_eq_right (Nat.le_add_right _ _)] at hnested

/-- With parentheses around it or without, what stands there is as deep as it is by itself, and one
deeper with them. -/
lemma needs_nestedIf {needed : Prop} [Decidable needed] (h : HasDepth o n)
    {body : UInt8 → Checked Empty Doc} {inside : Nat → Doc → Prop} {post : Doc → Prop}
    (hbody : ∀ k, HasDepth o k → Needs o (k + m) (body (UInt8.ofNat k)) (inside k))
    (henclosed : needed → ∀ d, inside (n + 1) d → post (enclosed (UInt8.ofNat n) d))
    (hbare : ¬needed → ∀ d, inside n d → post d) :
    Needs o (n + (m + if needed then 1 else 0)) (nestedIf o needed (UInt8.ofNat n) body) post := by
  unfold nestedIf
  by_cases hneeded : needed
  · rw [if_pos hneeded, if_pos hneeded, Nat.add_comm m, ← Nat.add_assoc]
    exact needs_nested h fun hinner => (hbody (n + 1) hinner).imp (henclosed hneeded)
  · rw [if_neg hneeded, if_neg hneeded, Nat.add_zero]
    exact (hbody n h).imp (hbare hneeded)

end Layout

end ShapeAlgebra
