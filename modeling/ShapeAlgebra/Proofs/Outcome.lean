import Mathlib.Data.List.Forall2
import Mathlib.Logic.Relation
import ShapeAlgebra.Fault

/-!
# Outcomes of computations

The computations of this library end with a value or with an error.  The first two sections say
when a computation that was put together from others ends with a value and when with an error, and
the third one what it means to be the first that fails; the next two say how the image of a
computation and its restated error come from those of its parts.  The last two are about
contracts: `Meets x post bad` says that the value of `x` satisfies `post` if there is one, and that
its error satisfies `bad` otherwise.  Nothing is left out, so a contract whose `bad` admits no trap
says that `x` answers, with a value or with a refusal.
-/

namespace ShapeAlgebra

variable {ε δ α β γ : Type}

/-! ## Success -/

/-- A sequence of two computations succeeds when both do. -/
lemma bind_eq_ok_iff {x : Except ε α} {f : α → Except ε β} {b : β} :
    (x >>= f) = .ok b ↔ ∃ a, x = .ok a ∧ f a = .ok b := by
  cases x with
  | ok a =>
    change f a = .ok b ↔ _
    simp
  | error e =>
    change Except.error e = .ok b ↔ _
    simp

/-- The image of a computation succeeds when the computation does. -/
lemma map_eq_ok_iff {x : Except ε α} {f : α → β} {b : β} :
    x.map f = .ok b ↔ ∃ a, x = .ok a ∧ f a = b := by
  cases x <;> simp [Except.map]

/-- Changing the error leaves a success alone. -/
lemma mapError_eq_ok_iff {x : Except ε α} {f : ε → δ} {a : α} :
    x.mapError f = .ok a ↔ x = .ok a := by
  cases x <;> simp [Except.mapError]

/-- A computation that cannot trap succeeds as one that may. -/
lemma ofExcept_eq_ok_iff {x : Except ε α} {a : α} : Checked.ofExcept x = .ok a ↔ x = .ok a := by
  cases x <;> simp [Checked.ofExcept, Checked.refuse]

@[simp]
lemma trap_ne_ok (t : Trap) (a : α) : (Checked.trap t : Checked ε α) ≠ .ok a := by
  simp [Checked.trap]

/-- Element by element, a list succeeds when every element does. -/
lemma mapM_eq_ok_iff {f : α → Except ε β} {as : List α} {bs : List β} :
    as.mapM f = .ok bs ↔ List.Forall₂ (fun a b => f a = .ok b) as bs := by
  induction as generalizing bs with
  | nil =>
    rw [List.mapM_nil, List.forall₂_nil_left_iff]
    change Except.ok [] = .ok bs ↔ _
    simp [eq_comm]
  | cons a as ih =>
    rw [List.mapM_cons, bind_eq_ok_iff, List.forall₂_cons_left_iff]
    constructor
    · rintro ⟨b, hb, hrest⟩
      obtain ⟨rest, htail, hpure⟩ := bind_eq_ok_iff.1 hrest
      obtain rfl := Except.ok.inj hpure
      exact ⟨b, rest, hb, ih.1 htail, rfl⟩
    · rintro ⟨b, rest, hb, htail, rfl⟩
      exact ⟨b, hb, bind_eq_ok_iff.2 ⟨rest, ih.2 htail, rfl⟩⟩

/-- Element by element, a list is related to another one when every element is to something. -/
lemma exists_forall₂ {R : α → β → Prop} {as : List α} (h : ∀ a ∈ as, ∃ b, R a b) :
    ∃ bs, List.Forall₂ R as bs := by
  induction as with
  | nil => exact ⟨[], .nil⟩
  | cons a as ih =>
    obtain ⟨b, hb⟩ := h a List.mem_cons_self
    obtain ⟨bs, hbs⟩ := ih fun a' ha' => h a' (List.mem_cons_of_mem a ha')
    exact ⟨b :: bs, .cons hb hbs⟩

/-- In related lists, every element on the right is related to one on the left. -/
lemma exists_of_mem_right {R : α → β → Prop} {as : List α} {bs : List β} {b : β}
    (h : List.Forall₂ R as bs) (hb : b ∈ bs) : ∃ a ∈ as, R a b := by
  induction h with
  | nil => cases hb
  | cons hab _ ih =>
    rcases List.mem_cons.1 hb with rfl | hmem
    · exact ⟨_, List.mem_cons_self, hab⟩
    · obtain ⟨a, ha, hrel⟩ := ih hmem
      exact ⟨a, List.mem_cons_of_mem _ ha, hrel⟩

/-- In related lists, elements at the same position are related. -/
lemma rel_of_getElem? {R : α → β → Prop} {as : List α} {bs : List β} {i : Nat} {a : α} {b : β}
    (h : List.Forall₂ R as bs) (ha : as[i]? = some a) (hb : bs[i]? = some b) : R a b := by
  have hzip : (as.zip bs)[i]? = some (a, b) := List.getElem?_zip_eq_some.2 ⟨ha, hb⟩
  exact List.forall₂_zip h (List.mem_of_getElem? hzip)

/-- Lists that are related through a third one are related by the composition. -/
lemma forall₂_comp {R : α → β → Prop} {S : β → γ → Prop} {as : List α} {bs : List β}
    {cs : List γ} (h : List.Forall₂ R as bs) (h' : List.Forall₂ S bs cs) :
    List.Forall₂ (Relation.Comp R S) as cs := by
  induction h generalizing cs with
  | nil =>
    obtain rfl := List.forall₂_nil_left_iff.1 h'
    exact .nil
  | cons hab _ ih =>
    obtain ⟨c, rest, hbc, hrest, rfl⟩ := List.forall₂_cons_left_iff.1 h'
    exact .cons ⟨_, hab, hbc⟩ (ih hrest)

/-! ## Failure -/

/-- A sequence of two computations fails where the first does, or where the second does on the
value of the first. -/
lemma bind_eq_error_iff {x : Except ε α} {f : α → Except ε β} {e : ε} :
    (x >>= f) = .error e ↔ x = .error e ∨ ∃ a, x = .ok a ∧ f a = .error e := by
  cases x with
  | ok a =>
    change f a = .error e ↔ _
    simp
  | error e' =>
    change Except.error e' = .error e ↔ _
    simp

/-- Element by element, a list fails at the first element that does. -/
lemma mapM_eq_error {f : α → Except ε β} {as : List α} {e : ε} (h : as.mapM f = .error e) :
    ∃ before a after, as = before ++ a :: after ∧ (∀ b ∈ before, ∃ c, f b = .ok c) ∧
      f a = .error e := by
  induction as with
  | nil =>
    change Except.ok [] = .error e at h
    cases h
  | cons a as ih =>
    rw [List.mapM_cons, bind_eq_error_iff] at h
    rcases h with hhead | ⟨c, hc, hrest⟩
    · exact ⟨[], a, as, rfl, fun _ hb => absurd hb List.not_mem_nil, hhead⟩
    · rcases bind_eq_error_iff.1 hrest with htail | ⟨_, _, hpure⟩
      · obtain ⟨before, a', after, rfl, hbefore, ha'⟩ := ih htail
        refine ⟨a :: before, a', after, rfl, fun b hb => ?_, ha'⟩
        rcases List.mem_cons.1 hb with rfl | hmem
        · exact ⟨c, hc⟩
        · exact hbefore b hmem
      · cases hpure

/-! ## The first that fails -/

/-- The element `x` is the first one of `xs` with the property `p`. -/
def First (p : α → Prop) (xs : List α) (x : α) : Prop :=
  ∃ before after, xs = before ++ x :: after ∧ p x ∧ ∀ y ∈ before, ¬p y

namespace First

variable {p : α → Prop} {xs ys : List α} {x : α}

/-- The first element that satisfies a condition is one of the list. -/
lemma mem (h : First p xs x) : x ∈ xs := by
  obtain ⟨before, after, rfl, _⟩ := h
  exact List.mem_append_right before List.mem_cons_self

/-- The first element that satisfies a condition satisfies it. -/
lemma holds (h : First p xs x) : p x := by
  obtain ⟨_, _, _, hx, _⟩ := h
  exact hx

/-- What comes behind does not change which element is the first. -/
lemma append_right (h : First p xs x) (ys : List α) : First p (xs ++ ys) x := by
  obtain ⟨before, after, rfl, hx, hbefore⟩ := h
  exact ⟨before, after ++ ys, by simp, hx, hbefore⟩

/-- Elements that do not satisfy the condition do not change which one is the first. -/
lemma append_left (hxs : ∀ y ∈ xs, ¬p y) (h : First p ys x) : First p (xs ++ ys) x := by
  obtain ⟨before, after, rfl, hx, hbefore⟩ := h
  refine ⟨xs ++ before, after, by simp, hx, fun y hy => ?_⟩
  rcases List.mem_append.1 hy with hmem | hmem
  · exact hxs y hmem
  · exact hbefore y hmem

/-- An element that satisfies the condition is the first one where it is the only one. -/
lemma singleton (hx : p x) : First p [x] x :=
  ⟨[], [], rfl, hx, fun _ h => absurd h List.not_mem_nil⟩

end First

/-! ## Images -/

/-- The image of a sequence is taken in its second part. -/
lemma map_bind_eq (x : Except ε α) (f : α → Except ε β) (g : β → γ) :
    (x >>= f).map g = x >>= fun a => (f a).map g := by
  cases x <;> rfl

/-- What follows an image may take the image itself. -/
lemma bind_map_eq (x : Except ε α) (g : α → β) (f : β → Except ε γ) :
    x.map g >>= f = x >>= fun a => f (g a) := by
  cases x <;> rfl

/-- A sequence that ends with a value of the first part is an image. -/
lemma bind_ok_eq_map (x : Except ε α) (g : α → β) : (x >>= fun a => .ok (g a)) = x.map g := by
  cases x <;> rfl

/-- The image of an image is the image by both. -/
lemma map_map_eq (x : Except ε α) (g : α → β) (f : β → γ) :
    (x.map g).map f = x.map fun a => f (g a) := by
  cases x <;> rfl

/-- Element by element, the image of a list is the list of the images. -/
lemma mapM_map_eq (f : α → Except ε β) (g : β → γ) (as : List α) :
    (as.mapM fun a => (f a).map g) = (as.mapM f).map (List.map g) := by
  induction as with
  | nil => rfl
  | cons a as ih =>
    rw [List.mapM_cons, List.mapM_cons, ih, bind_map_eq, map_bind_eq]
    congr 1
    funext b
    rw [bind_map_eq, map_bind_eq]
    rfl

/-- The image of a fold is the fold of the images, as long as `inv` holds of what is folded so
far. -/
lemma foldlM_map_eq {f : β → α → Except ε β} {f' : γ → α → Except ε γ} {g : β → γ}
    {inv : β → Prop} (hstep : ∀ b a, inv b → f' (g b) a = (f b a).map g)
    (hkeep : ∀ b a b', inv b → f b a = .ok b' → inv b') {b : β} (hb : inv b) (as : List α) :
    as.foldlM f' (g b) = (as.foldlM f b).map g := by
  induction as generalizing b with
  | nil => rfl
  | cons a as ih =>
    rw [List.foldlM_cons, List.foldlM_cons, hstep b a hb, bind_map_eq, map_bind_eq]
    cases hfold : f b a with
    | ok b' => exact ih (hkeep b a b' hb hfold)
    | error e => rfl

/-! ## Restated errors -/

/-- The error of a sequence is restated by restating those of its parts. -/
lemma mapError_bind (x : Except ε α) (f : α → Except ε β) (g : ε → δ) :
    (x >>= f).mapError g = x.mapError g >>= fun a => (f a).mapError g := by
  cases x <;> rfl

/-- A computation with a restated error has the value that it has. -/
lemma toOption_mapError (x : Except ε α) (g : ε → δ) : (x.mapError g).toOption = x.toOption := by
  cases x <;> rfl

/-- The error of an image is restated by restating that of the computation. -/
lemma mapError_map (x : Except ε α) (f : α → β) (g : ε → δ) :
    (x.map f).mapError g = (x.mapError g).map f := by
  cases x <;> rfl

/-! ## Contracts -/

/-- The value of `x` satisfies `post`, or its error satisfies `bad`. -/
def Meets (x : Except ε α) (post : α → Prop) (bad : ε → Prop) : Prop :=
  match x with
  | .ok a => post a
  | .error e => bad e

/-- A refusal whose cause satisfies `cause`, or a trap if `trapped` allows for one. -/
def Fault.Within (cause : ε → Prop) (trapped : Prop) : Fault ε → Prop
  | .refusal e => cause e
  | .trap _ => trapped

@[simp]
lemma Fault.within_refusal {cause : ε → Prop} {trapped : Prop} (e : ε) :
    (Fault.refusal e).Within cause trapped ↔ cause e := Iff.rfl

@[simp]
lemma Fault.within_trap {cause : ε → Prop} {trapped : Prop} (t : Trap) :
    (Fault.trap t : Fault ε).Within cause trapped ↔ trapped := Iff.rfl

@[simp]
lemma Fault.within_map {cause : δ → Prop} {trapped : Prop} (f : ε → δ) (fault : Fault ε) :
    (fault.map f).Within cause trapped ↔ fault.Within (fun e => cause (f e)) trapped := by
  cases fault <;> rfl

/-- A weaker condition on faults. -/
lemma Fault.Within.imp {cause cause' : ε → Prop} {trapped trapped' : Prop} {fault : Fault ε}
    (h : fault.Within cause trapped) (hcause : ∀ e, cause e → cause' e)
    (htrapped : trapped → trapped') : fault.Within cause' trapped' := by
  cases fault with
  | refusal e => exact hcause e h
  | trap t => exact htrapped h

variable {x : Except ε α} {post : α → Prop} {bad : ε → Prop}

@[simp]
lemma meets_ok (a : α) : Meets (.ok a) post bad ↔ post a := Iff.rfl

@[simp]
lemma meets_error (e : ε) : Meets (.error e : Except ε α) post bad ↔ bad e := Iff.rfl

@[simp]
lemma meets_refuse {bad : Fault ε → Prop} (cause : ε) :
    Meets (Checked.refuse cause : Checked ε α) post bad ↔ bad (.refusal cause) := Iff.rfl

@[simp]
lemma meets_trap {bad : Fault ε → Prop} (t : Trap) :
    Meets (Checked.trap t : Checked ε α) post bad ↔ bad (.trap t) := Iff.rfl

namespace Meets

/-- What a contract says of a success. -/
lemma post_of_eq_ok (h : Meets x post bad) {a : α} (hx : x = .ok a) : post a := by
  subst hx
  exact h

/-- What a contract says of a failure. -/
lemma bad_of_eq_error (h : Meets x post bad) {e : ε} (hx : x = .error e) : bad e := by
  subst hx
  exact h

/-- A contract may be weakened on both ends. -/
lemma imp {post' : α → Prop} {bad' : ε → Prop} (h : Meets x post bad)
    (hpost : ∀ a, post a → post' a) (hbad : ∀ e, bad e → bad' e) : Meets x post' bad' := by
  cases x with
  | ok a => exact hpost a h
  | error e => exact hbad e h

/-- The contract of a sequence: the first part establishes what the second part needs. -/
lemma bind {f : α → Except ε β} {mid : α → Prop} {post : β → Prop} (h : Meets x mid bad)
    (hf : ∀ a, mid a → Meets (f a) post bad) : Meets (x >>= f) post bad := by
  cases x with
  | ok a => exact hf a h
  | error e => exact h

/-- The contract of an image. -/
lemma map {f : α → β} {post : β → Prop} (h : Meets x (fun a => post (f a)) bad) :
    Meets (x.map f) post bad := by
  cases x <;> exact h

/-- The contract of a computation with a restated error. -/
lemma mapError {f : ε → δ} {bad : δ → Prop} (h : Meets x post fun e => bad (f e)) :
    Meets (x.mapError f) post bad := by
  cases x <;> exact h

/-- The contract of a computation that cannot trap. -/
lemma ofExcept {bad : Fault ε → Prop} (h : Meets x post fun e => bad (.refusal e)) :
    Meets (Checked.ofExcept x) post bad := by
  cases x <;> exact h

/-- The contract of a computation for every element of a list. -/
lemma mapM {f : α → Except ε β} {rel : α → β → Prop} {as : List α}
    (h : ∀ a ∈ as, Meets (f a) (rel a) bad) :
    Meets (as.mapM f) (List.Forall₂ rel as) bad := by
  induction as with
  | nil => exact .nil
  | cons a as ih =>
    rw [List.mapM_cons]
    refine (h a List.mem_cons_self).bind fun b hb => ?_
    refine (ih fun a' ha' => h a' (List.mem_cons_of_mem a ha')).bind fun bs hbs => ?_
    exact .cons hb hbs

/-- The contract of a fold: `inv` relates the elements folded so far to the result so far, and
every further element carries it on. -/
lemma foldlM {f : β → α → Except ε β} {inv : List α → β → Prop} {before as : List α} {b : β}
    (hstep : ∀ done a b, inv done b → Meets (f b a) (inv (done ++ [a])) bad)
    (hinv : inv before b) : Meets (as.foldlM f b) (inv (before ++ as)) bad := by
  induction as generalizing before b with
  | nil =>
    rw [List.append_nil]
    exact hinv
  | cons a as ih =>
    rw [List.foldlM_cons, List.append_cons]
    exact (hstep before a b hinv).bind fun b' hinv' => ih hinv'

end Meets

/-- A computation meets the contract that says no more than how it ends. -/
lemma meets_self (x : Except ε α) : Meets x (fun a => x = .ok a) fun e => x = .error e := by
  cases x <;> rfl

/-- An element that is there is read without a trap. -/
lemma meets_elementAt {xs : List α} {index : Nat} {bad : Fault ε → Prop} (h : index < xs.length) :
    Meets (Checked.elementAt xs index : Checked ε α) (fun a => xs[index]? = some a) bad := by
  unfold Checked.elementAt
  rw [List.getElem?_eq_getElem h]
  exact rfl

/-! ## Traps -/

/-- The computation ends with a value or with a refusal, and not at a trap. -/
def Checked.Answers (x : Checked ε α) : Prop :=
  (∃ a, x = .ok a) ∨ ∃ cause, x = .error (.refusal cause)

/-- A computation answers or ends at a trap. -/
lemma answers_or_trap (x : Checked ε α) : x.Answers ∨ ∃ t, x = .error (.trap t) := by
  cases x with
  | ok a => exact .inl (.inl ⟨a, rfl⟩)
  | error fault =>
    cases fault with
    | refusal cause => exact .inl (.inr ⟨cause, rfl⟩)
    | trap t => exact .inr ⟨t, rfl⟩

/-- A trap is neither a value nor a refusal. -/
lemma not_answers_trap (t : Trap) : ¬(Checked.trap t : Checked ε α).Answers := by
  rintro (⟨_, ⟨⟩⟩ | ⟨_, ⟨⟩⟩)

/-- A computation answers when its contract does not allow for a trap. -/
lemma Meets.answers {x : Checked ε α} {cause : ε → Prop} {trapped : Prop}
    (h : Meets x post (Fault.Within cause trapped)) (hnot : ¬trapped) : x.Answers := by
  refine (answers_or_trap x).resolve_right ?_
  rintro ⟨t, ht⟩
  exact hnot (h.bad_of_eq_error ht)

end ShapeAlgebra
