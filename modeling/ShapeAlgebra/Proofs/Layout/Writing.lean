import ShapeAlgebra.Proofs.Expr.Substitution
import ShapeAlgebra.Proofs.Layout.Depth
import ShapeAlgebra.Proofs.Layout.Doc
import ShapeAlgebra.Proofs.Text.Word

/-!
# What documents are put together from

The document of an expression is built by a recursion of its own, which is gone through once, for
all that is kept where documents are put together.  Whatever holds of the words that are no
parentheses and have none in them, and of parentheses around what it holds of one level deeper,
holds of the document of every expression that has one.  It is said of a document together with the
text that the expression has, so that what documents write is a case of it.
-/

namespace ShapeAlgebra.Layout

/-! ## Characters -/

/-- All characters of the text satisfy `p`. -/
def Consists (p : Char → Prop) (s : String) : Prop := ∀ c ∈ s.toList, p c

instance (p : Char → Prop) [DecidablePred p] (s : String) : Decidable (Consists p s) :=
  decidable_of_iff (s.toList.all fun c => decide (p c)) (by simp [Consists])

/-- A character that is no parenthesis. -/
def NoParen (c : Char) : Prop := c ≠ '(' ∧ c ≠ ')'

instance (c : Char) : Decidable (NoParen c) := inferInstanceAs (Decidable (_ ∧ _))

/-- The text of a number consists of word characters and minus signs. -/
lemma consists_text {p : Char → Prop} (hword : ∀ c, Text.isWordChar c = true → p c)
    (hminus : p '-') (n : Size) : Consists p n.text := by
  have hdigits {m : Nat} {c : Char} (hc : c ∈ Nat.toDigits 10 m) : p c :=
    hword c (Text.isWordChar_of_mem_toDigits hc)
  intro c hc
  by_cases hneg : n.toInt < 0
  · obtain ⟨m, -, htext⟩ := Text.exists_toList_text hneg
    rw [htext] at hc
    obtain rfl | hc := List.mem_cons.1 hc
    · exact hminus
    · exact hdigits hc
  · rw [Text.toList_text (not_lt.1 hneg)] at hc
    exact hdigits hc

/-- Word characters are no parentheses. -/
lemma noParen_of_isWordChar {c : Char} (h : Text.isWordChar c = true) : NoParen c := by
  constructor
  · rintro rfl
    exact absurd h (by decide)
  · rintro rfl
    exact absurd h (by decide)

/-! ## Putting documents together -/

/-- The depth in the role of a span, if it is a parenthesis. -/
def Span.paren? (sp : Span) : Option UInt8 :=
  match sp.style with
  | some (.paren depth) => some depth
  | _ => none

/-- The property `P n` of documents inside `n` parentheses, and of their texts, is kept where
documents are put together, and a word has it that is no parenthesis and has none in its text. -/
structure Composes (P : Nat → Doc → String → Prop) : Prop where
  nil : ∀ {n}, P n .nil ""
  text : ∀ {n sp}, sp.paren? = none → Consists NoParen sp.text → P n (.text sp) sp.text
  append : ∀ {n d d' s t}, P n d s → P n d' t → P n (.append d d') (s ++ t)
  group : ∀ {n d s}, P n d s → P n (.group d) s
  enclosed : ∀ {n d s}, P (n + 1) d s →
    P n (enclosed (UInt8.ofNat n) d) (Expr.parenthesised s)

/-- The name and the symbol of every dimension of `e` have the property `P`, at all depths. -/
def NamesHave (P : Nat → Doc → String → Prop) (e : Expr) : Prop :=
  ∀ dim ∈ e.dims, ∀ n, P n (word .ident dim.name) dim.name ∧ P n (word .ident dim.symbol) dim.symbol

namespace Composes

variable {P Q : Nat → Doc → String → Prop} {o : Overflow} {e : Expr}

/-- Of two properties that are kept, both are kept. -/
lemma and (hP : Composes P) (hQ : Composes Q) : Composes fun n d s => P n d s ∧ Q n d s where
  nil := ⟨hP.nil, hQ.nil⟩
  text hsp hs := ⟨hP.text hsp hs, hQ.text hsp hs⟩
  append h h' := ⟨hP.append h.1 h'.1, hQ.append h.2 h'.2⟩
  group h := ⟨hP.group h.1, hQ.group h.2⟩
  enclosed h := ⟨hP.enclosed h.1, hQ.enclosed h.2⟩

/-- A property that is kept is kept under a condition. -/
lemma under (hP : Composes P) (q : Prop) : Composes fun n d s => q → P n d s where
  nil _ := hP.nil
  text hsp hs _ := hP.text hsp hs
  append h h' hq := hP.append (h hq) (h' hq)
  group h hq := hP.group (h hq)
  enclosed h hq := hP.enclosed (h hq)

/-- A word in the role of something else than a parenthesis. -/
lemma word (hP : Composes P) (n : Nat) {style : Style} {s : String}
    (hstyle : ∀ depth, style ≠ .paren depth) (hs : Consists NoParen s) :
    P n (Layout.word style s) s := by
  have hparen : (styled style s).paren? = none := by
    cases style with
    | paren depth => exact absurd rfl (hstyle depth)
    | _ => rfl
  exact hP.text hparen hs

/-- The text of a number has no parentheses. -/
lemma number (hP : Composes P) (n : Nat) (value : Size) :
    P n (Layout.word .size value.text) value.text :=
  hP.word n nofun (consists_text (fun _ => noParen_of_isWordChar) (by decide) value)

/-- The sign of an operator is written with spaces around it, or without. -/
lemma signDoc (hP : Composes P) (n : Nat) (op : BinOp) :
    P n (Layout.signDoc op) (Expr.spacedSign op) := by
  have hsign : P n (Layout.word .operator op.sign) op.sign :=
    hP.word n nofun (by cases op <;> decide)
  have hspace : P n (.text Doc.space) " " := hP.text rfl (by decide)
  cases op with
  | mul => exact hsign
  | _ =>
    unfold Expr.spacedSign
    dsimp only
    rw [String.append_assoc]
    exact hP.append hspace (hP.append hsign hspace)

/-- The document of an expression inside `n` parentheses, if the build has the depth for it. -/
lemma needs_symbolicDoc (hP : Composes P) (hnames : NamesHave P e) (asked : Nat) {n : Nat}
    (hn : HasDepth o n) :
    Needs o (n + e.nestingAt asked) (symbolicDoc o asked (UInt8.ofNat n) e) fun d =>
      P n d (e.symbolicAt asked) := by
  induction e generalizing asked n with
  | var dim =>
    have hdim := hnames dim (List.mem_singleton_self dim)
    exact .ok hn (hP.append (hdim n).1 (hP.enclosed (hdim (n + 1)).2))
  | lit value =>
    refine .ok hn ?_
    unfold Expr.symbolicAt
    split
    · exact hP.enclosed (hP.number (n + 1) value)
    · exact hP.number n value
  | binary op l r ihl ihr =>
    obtain ⟨hl, hr⟩ := List.forall_mem_append.1 hnames
    -- both operands and the sign between them, at the depth where they stand
    have hoperation (left right : Nat) {sign : Doc} {t : String} (hsign : ∀ m, P m sign t) (m : Nat)
        (hm : HasDepth o m) :
        Needs o (m + max (l.nestingAt left) (r.nestingAt right))
          (do
            let a ← symbolicDoc o left (UInt8.ofNat m) l
            let b ← symbolicDoc o right (UInt8.ofNat m) r
            .ok (.append a (.append sign b)))
          fun d => P m d (l.symbolicAt left ++ t ++ r.symbolicAt right) := by
      rw [← Nat.add_max_add_left, String.append_assoc]
      refine (ihl hl left hm).bind fun a _ ha => ?_
      exact ((ihr hr right hm).imp fun b hb => hP.append ha (hP.append (hsign m) hb)).bind_ok
    have hbody (op : BinOp) :=
      hoperation op.strength (op.strength + 1) fun m => hP.signDoc m op
    cases op with
    | floorDiv =>
      have hkeyword : P n (Layout.word .keyword "floor") "floor" := hP.word n nofun (by decide)
      have hslash (m : Nat) : P m (Layout.word .operator "/") "/" := hP.word m nofun (by decide)
      refine Needs.bind_ok ?_
      rw [Expr.nestingAt, Nat.add_comm _ 1, ← Nat.add_assoc]
      exact needs_nested hn fun hm => (hoperation _ _ hslash (n + 1) hm).imp fun d hd =>
        hP.group (hP.append hkeyword (hP.enclosed hd))
    | _ =>
      refine Needs.bind_ok (needs_nestedIf hn (hbody _) (fun hweak d hd => ?_) fun hweak d hd => ?_)
      · rw [Expr.symbolicAt, if_pos hweak]
        · exact hP.group (hP.enclosed hd)
        · nofun
      · rw [Expr.symbolicAt, if_neg hweak]
        · exact hP.group hd
        · nofun

/-- The document of an expression, if the build has the depth for it. -/
lemma needs_exprDoc (hP : Composes P) (hnames : NamesHave P e) :
    Needs o (e.nestingAt 0) (exprDoc o e) fun d => P 0 d e.display := by
  have hcolon : P 0 (Layout.word .punct ":") ":" := hP.word 0 nofun (by decide)
  have hsymbolic := hP.needs_symbolicDoc hnames 0 (hasDepth_zero o)
  rw [Nat.zero_add] at hsymbolic
  refine (hsymbolic.imp fun d hd => ?_).bind_ok
  have hnothing := hP.append hd hP.nil
  have hvalue (n : Size) := hP.append hd (hP.append hcolon (hP.number 0 n))
  simp only [← String.append_assoc] at hvalue
  rw [String.append_empty] at hnothing
  cases e with
  | lit n => rwa [Expr.symbolicAt, if_neg fun h => Nat.lt_irrefl 0 h.2] at hnothing
  | _ =>
    unfold valueDoc Expr.display
    generalize Expr.eval _ = value
    cases value with
    | ok n => exact hvalue n
    | error _ => exact hnothing

/-- The document of a shape has the documents of its axes in it. -/
lemma needs_shapeDoc (hP : Composes P) {s : Shape} (hnames : ∀ e ∈ s, NamesHave P e) :
    Needs o s.nesting (shapeDoc o s) fun d =>
      ∃ axes, List.Forall₂ (fun e axis => P 0 axis e.display) s axes ∧ d = framed axes :=
  ((needs_mapM s fun e he => hP.needs_exprDoc (hnames e he)).imp fun axes haxes =>
    ⟨axes, haxes, rfl⟩).bind_ok

end Composes

end ShapeAlgebra.Layout
