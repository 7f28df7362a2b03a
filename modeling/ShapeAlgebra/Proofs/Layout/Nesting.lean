import ShapeAlgebra.Proofs.Layout.Display

/-!
# Colours of nested parentheses

A parenthesis has a depth in its role, and the depth decides on its colour.  The document of an
expression takes the depth for the number of parentheses that are open around a pair: variables,
negative numbers, quotients and the pairs that a strength asks for count alike, and the parts of
what stands between parentheses are one deeper.  So the two parentheses of a pair have the same
colour, that of the number of those open around them.  In a shape the axes start to count at zero
although they stand between the parentheses of the shape, and have the colours of one depth less.

Depths end with the byte that they are.  In a build that traps there is no document with a pair
that is deeper, and in one that wraps around depths start again at zero behind the last one, which
four colours that take turns do not notice.

What is said of pairs can be checked from the left to the right by counting open parentheses, which
makes it decidable.  That pairs have these colours, and that there are no parentheses besides them,
is kept where documents are put together.
-/

namespace ShapeAlgebra.Layout

open Doc (space)

/-! ## Pairs -/

/-- The colour of the parentheses inside `n` others: four colours take turns. -/
def depthColour (n : Nat) : Colour :=
  match n % 4 with
  | 0 => .blue
  | 1 => .green
  | 2 => .yellow
  | _ => .magenta

/-- `Nested colour n spans` says that the parentheses among `spans`, which stand inside `n` others,
are balanced, and that those of a pair inside `m` others have the colour `colour m`. -/
inductive Nested (colour : Nat → Colour) : Nat → List Span → Prop where
  | nil {n : Nat} : Nested colour n []
  | other {n : Nat} {sp : Span} {spans : List Span} : sp.paren? = none → Nested colour n spans →
    Nested colour n (sp :: spans)
  | pair {n : Nat} {d d' : UInt8} {inside behind : List Span} :
    (Style.paren d).look.colour = some (colour n) →
    (Style.paren d').look.colour = some (colour n) →
    Nested colour (n + 1) inside → Nested colour n behind →
    Nested colour n (styled (.paren d) "(" :: (inside ++ styled (.paren d') ")" :: behind))

/-- No span has a parenthesis in its text but those that are parentheses. -/
def ParensMarked (spans : List Span) : Prop :=
  ∀ sp ∈ spans, sp.paren? = none → Consists NoParen sp.text

variable {colour : Nat → Colour} {n : Nat} {sp gap : Span}
  {spans front : List Span} {e : Expr}

namespace Nested

/-- Balanced spans behind balanced spans are balanced. -/
lemma append (h : Nested colour n front) (h' : Nested colour n spans) :
    Nested colour n (front ++ spans) := by
  induction h with
  | nil => exact h'
  | other hsp _ ih => exact .other hsp (ih h')
  | pair hopening hclosing hinside _ _ ih =>
    rw [List.cons_append, List.append_assoc, List.cons_append]
    exact .pair hopening hclosing hinside (ih h')

/-- A span that is no parenthesis is balanced. -/
lemma singleton (h : sp.paren? = none) : Nested colour n [sp] := .other h .nil

/-- One level further in, the same parentheses have the colours of one level further out. -/
lemma shift (h : Nested colour n spans) : Nested (fun m => colour (m - 1)) (n + 1) spans := by
  induction h with
  | nil => exact .nil
  | other hsp _ ih => exact .other hsp ih
  | pair hopening hclosing _ _ ihinside ihbehind => exact .pair hopening hclosing ihinside ihbehind

end Nested

/-! ## Counting -/

/-- Whether the parentheses among `spans`, with `n` more open in front of them, have the colours
of the numbers of those open around them, and none is left open. -/
def followsDepth (colour : Nat → Colour) : Nat → List Span → Bool
  | n, [] => n == 0
  | n, sp :: spans =>
    match sp.paren? with
    | none => followsDepth colour n spans
    | some depth =>
      if sp.text = "(" then
        (Style.paren depth).look.colour == some (colour n) && followsDepth colour (n + 1) spans
      else
        match n with
        | 0 => false
        | m + 1 =>
          sp.text == ")" && ((Style.paren depth).look.colour == some (colour m) &&
            followsDepth colour m spans)

/-- The count passes over a span that is no parenthesis. -/
lemma followsDepth_other (h : sp.paren? = none) :
    followsDepth colour n (sp :: spans) = followsDepth colour n spans := by
  rw [followsDepth, h]

/-- At an opening parenthesis the count goes up, if the colour is right. -/
lemma followsDepth_opening (depth : UInt8) :
    followsDepth colour n (styled (.paren depth) "(" :: spans) =
      ((Style.paren depth).look.colour == some (colour n) &&
        followsDepth colour (n + 1) spans) := rfl

/-- At a closing parenthesis the count goes down, if the colour is right. -/
lemma followsDepth_closing (depth : UInt8) :
    followsDepth colour (n + 1) (styled (.paren depth) ")" :: spans) =
      ((Style.paren depth).look.colour == some (colour n) && followsDepth colour n spans) := rfl

/-- Behind nested spans the count goes on where it was in front of them. -/
lemma Nested.followsDepth_append (h : Nested colour n front) (spans : List Span) :
    followsDepth colour n (front ++ spans) = followsDepth colour n spans := by
  induction h generalizing spans with
  | nil => rfl
  | other hsp _ ih => rw [List.cons_append, followsDepth_other hsp, ih]
  | pair hopening hclosing _ _ ihinside ihbehind =>
    rw [List.cons_append, List.append_assoc, List.cons_append, followsDepth_opening, hopening,
      ihinside, followsDepth_closing, hclosing, ihbehind, beq_self_eq_true, Bool.true_and,
      Bool.true_and]

/-- The spans close the `n` parentheses that are open in front of them, each in its colour. -/
def Closes (colour : Nat → Colour) : Nat → List Span → Prop
  | 0, spans => Nested colour 0 spans
  | n + 1, spans => ∃ depth inside behind, spans = inside ++ styled (.paren depth) ")" :: behind ∧
      (Style.paren depth).look.colour = some (colour n) ∧ Nested colour (n + 1) inside ∧
      Closes colour n behind

/-- Balanced spans in front do not change which parenthesis is closed. -/
lemma Nested.closes (h : Nested colour n front) (h' : Closes colour n spans) :
    Closes colour n (front ++ spans) := by
  cases n with
  | zero => exact h.append h'
  | succ n =>
    obtain ⟨depth, inside, behind, rfl, hdepth, hinside, hbehind⟩ := h'
    exact ⟨depth, front ++ inside, behind, (List.append_assoc _ _ _).symm, hdepth,
      h.append hinside, hbehind⟩

/-- A parenthesis is opened in front of spans that close it. -/
lemma Closes.opening {depth : UInt8} (h : Closes colour (n + 1) spans)
    (hdepth : (Style.paren depth).look.colour = some (colour n)) :
    Closes colour n (styled (.paren depth) "(" :: spans) := by
  obtain ⟨depth', inside, behind, rfl, hdepth', hinside, hbehind⟩ := h
  have hpair := (Nested.pair hdepth hdepth' hinside .nil).closes hbehind
  rwa [List.cons_append, List.append_assoc, List.cons_append, List.nil_append] at hpair

/-- A parenthesis is known from its depth and its text. -/
lemma eq_styled_of_paren? {depth : UInt8} (h : sp.paren? = some depth) :
    sp = styled (.paren depth) sp.text := by
  unfold Span.paren? at h
  split at h
  · rename_i hstyle
    obtain rfl := Option.some.inj h
    rw [styled, ← hstyle]
  · cases h

/-- Spans that pass the count close the parentheses that are open in front of them. -/
lemma closes_of_followsDepth (h : followsDepth colour n spans = true) :
    Closes colour n spans := by
  induction spans generalizing n with
  | nil =>
    obtain rfl := beq_iff_eq.1 h
    exact Nested.nil
  | cons sp spans ih =>
    cases hparen : sp.paren? with
    | none =>
      rw [followsDepth_other hparen] at h
      exact (Nested.singleton hparen).closes (ih h)
    | some depth =>
      rw [followsDepth, hparen] at h
      dsimp only at h
      rw [eq_styled_of_paren? hparen]
      split at h
      · rename_i hopening
        rw [Bool.and_eq_true, beq_iff_eq] at h
        rw [hopening]
        -- what follows closes this parenthesis, and then those that were open in front of it
        exact (ih h.2).opening h.1
      · cases n with
        | zero => cases h
        | succ n =>
          dsimp only at h
          rw [Bool.and_eq_true, Bool.and_eq_true, beq_iff_eq, beq_iff_eq] at h
          rw [h.1]
          exact ⟨depth, [], spans, rfl, h.2.1, .nil, ih h.2.2⟩

/-- Spans are nested if they are so by count. -/
lemma nested_iff_followsDepth : Nested colour 0 spans ↔ followsDepth colour 0 spans = true := by
  constructor
  · intro h
    have hcount := h.followsDepth_append []
    rwa [List.append_nil] at hcount
  · exact closes_of_followsDepth

instance : Decidable (Nested colour 0 spans) := decidable_of_iff' _ nested_iff_followsDepth

/-! ## Putting documents together -/

/-- Four colours take turns, so that depths which start again behind 255 have the same ones. -/
lemma parenColour_ofNat (n : Nat) : parenColour (UInt8.ofNat n) = depthColour n := by
  have hperiod : (UInt8.ofNat n).toNat % 4 = n % 4 := by
    rw [UInt8.toNat_ofNat']
    omega
  rw [parenColour, hperiod]
  rfl

/-- That pairs are nested in their colours is kept where documents are put together. -/
lemma composes_nested : Composes fun n d _ => Nested depthColour n (d.spans space) where
  nil := .nil
  text h _ := .singleton h
  append := .append
  group h := h
  enclosed {n _ _} h :=
    have hcolour := congrArg some (parenColour_ofNat n)
    .pair hcolour hcolour h .nil

/-- A span without parentheses in its text is marked as it should be. -/
lemma ParensMarked.singleton (h : Consists NoParen sp.text) : ParensMarked [sp] :=
  List.forall_mem_singleton.2 fun _ => h

/-- Spans are marked if those in front and those behind are. -/
lemma ParensMarked.append (h : ParensMarked front) (h' : ParensMarked spans) :
    ParensMarked (front ++ spans) :=
  List.forall_mem_append.2 ⟨h, h'⟩

/-- A span in the role of a parenthesis is marked as one. -/
lemma parensMarked_paren (depth : UInt8) (s : String) :
    ParensMarked [styled (.paren depth) s] := by
  rintro _ hsp hnone
  obtain rfl := List.mem_singleton.1 hsp
  cases hnone

/-- That all parentheses are marked is kept where documents are put together. -/
lemma composes_parensMarked : Composes fun _ d _ => ParensMarked (d.spans space) where
  nil _ h := absurd h List.not_mem_nil
  text _ htext := .singleton htext
  append := .append
  group h := h
  enclosed h := (parensMarked_paren _ "(").append (h.append (parensMarked_paren _ ")"))

/-- What is said here of the document `d` of the text `t` inside `n` parentheses: it writes the
text, its pairs are nested in their colours, and all its parentheses are marked if names are
identifiers. -/
def Coloured (named : Prop) (n : Nat) (d : Doc) (t : String) : Prop :=
  Writes d t ∧ Nested depthColour n (d.spans space) ∧ (named → ParensMarked (d.spans space))

/-- Documents are coloured where they are put together from such that are. -/
lemma composes_coloured (named : Prop) : Composes (Coloured named) :=
  composes_writes.and (composes_nested.and (composes_parensMarked.under named))

/-- Names have no say in how pairs are nested, and there are no parentheses in identifiers. -/
lemma namesHave_coloured {named : Prop} (h : named → e.WellNamed) :
    NamesHave (Coloured named) e := by
  have hword {s : String} (hs : named → Text.Identifier s.toList) (n : Nat) :
      Coloured named n (word .ident s) s := by
    refine ⟨writes_text _, .singleton rfl, fun hnamed => .singleton fun c hc => ?_⟩
    exact noParen_of_isWordChar ((hs hnamed).all_isWordChar c hc)
  induction e with
  | var dim =>
    exact List.forall_mem_singleton.2 fun n =>
      ⟨hword (fun hnamed => (h hnamed).1) n, hword (fun hnamed => (h hnamed).2) n⟩
  | lit n => exact fun _ hdim => absurd hdim List.not_mem_nil
  | binary op l r ihl ihr =>
    exact List.forall_mem_append.2
      ⟨ihl fun hnamed => (h hnamed).1, ihr fun hnamed => (h hnamed).2⟩

/-! ## Shapes -/

/-- The spans of a shape are those of its parentheses and of what stands between them. -/
lemma spans_framed (gap : Span) (axes : List Doc) :
    (framed axes).spans gap = styled (.paren 0) "(" :: ((axesDoc axes).spans gap ++
      (if axes.length = 1 then word .punct "," else Doc.nil).spans gap ++
        [styled (.paren 0) ")"]) := by
  rw [List.append_assoc]
  rfl

/-- What holds of the axes of a shape, and of commas and the gaps behind them, holds of all that
stands between its parentheses. -/
lemma inside_framed {P : List Span → Prop} {gap : Span} {axes : List Doc} (hnil : P [])
    (happend : ∀ {l m : List Span}, P l → P m → P (l ++ m)) (hcomma : P [styled .punct ","])
    (hgap : P [gap]) (h : ∀ d ∈ axes, P (d.spans gap)) :
    P ((axesDoc axes).spans gap ++
      (if axes.length = 1 then word .punct "," else Doc.nil).spans gap) := by
  refine happend (Doc.separated_induction (P := fun d => P (d.spans gap)) hnil happend
    (happend hcomma hgap) h) ?_
  split
  · exact hcomma
  · exact hnil

/-- In a shape all parentheses but the outermost ones have the colours of one depth less. -/
lemma nested_framed {axes : List Doc} (hgap : gap.paren? = none)
    (h : ∀ d ∈ axes, Nested depthColour 0 (d.spans gap)) :
    Nested (fun m => depthColour (m - 1)) 0 ((framed axes).spans gap) := by
  have hinside := inside_framed .nil .append (.singleton rfl) (.singleton hgap) h
  rw [spans_framed]
  exact .pair rfl rfl hinside.shift .nil

/-- In a shape all parentheses are marked if they are in its axes. -/
lemma parensMarked_framed {axes : List Doc} (hgap : Consists NoParen gap.text)
    (h : ∀ d ∈ axes, ParensMarked (d.spans gap)) : ParensMarked ((framed axes).spans gap) := by
  have hinside := inside_framed (fun _ hsp => absurd hsp List.not_mem_nil) .append
    (.singleton (by decide)) (.singleton hgap) h
  rw [spans_framed]
  exact (parensMarked_paren 0 "(").append (hinside.append (parensMarked_paren 0 ")"))

/-- The layout of a shape has what its axes have, whether they are on one line or not. -/
lemma coloured_framed {named : Prop} {s : Shape} {axes : List Doc}
    (h : List.Forall₂ (fun e d => Coloured named 0 d e.display) s axes) (width : Nat) :
    Nested (fun m => depthColour (m - 1)) 0 ((framed axes).layout width) ∧
      (named → ParensMarked ((framed axes).layout width)) := by
  have haxis : ∀ d ∈ axes, ∃ t, Coloured named 0 d t := fun d hd =>
    let ⟨e, _, hcoloured⟩ := exists_of_mem_right h hd
    ⟨e.display, hcoloured⟩
  have hlineless : ∀ d ∈ axes, d.Lineless := fun d hd => (haxis d hd).choose_spec.1.lineless
  rw [layout_framed hlineless]
  generalize hgap : (if columns ((framed axes).spans space) ≤ width then space else Doc.lineEnd 1)
    = gap
  have hparen : gap.paren? = none ∧ Consists NoParen gap.text := by
    rw [← hgap]
    split <;> exact ⟨rfl, by decide⟩
  refine ⟨nested_framed hparen.1 fun d hd => ?_, fun hnamed => ?_⟩
  · obtain ⟨t, hwrites, hnested, -⟩ := haxis d hd
    rwa [hwrites.lineless.spans_eq gap space]
  · refine parensMarked_framed hparen.2 fun d hd => ?_
    obtain ⟨t, hwrites, -, hmarked⟩ := haxis d hd
    rw [hwrites.lineless.spans_eq gap space]
    exact hmarked hnamed

/-! ## Main statement -/

/-- In the layout of an expression the parentheses are balanced, and those of a pair have the colour
of the number of pairs around it.  In the layout of a shape they are balanced as well, and those of
a pair have the same colour, but the pair of the shape is not counted among those around the pairs
of an axis.  Over identifiers there are no other parentheses.  There is a layout as far as the build
has depths: for everything where they wrap around, and up to the depth 255 where they trap. -/
theorem parentheses_coloured_by_depth (o : Overflow) (width : Nat) :
    (∀ e : Expr, Needs o (e.nestingAt 0) (ofExpr o width e) fun spans =>
      Nested depthColour 0 spans ∧ (e.WellNamed → ParensMarked spans)) ∧
    ∀ s : Shape, Needs o s.nesting (ofShape o width s) fun spans =>
      Nested (fun n => depthColour (n - 1)) 0 spans ∧
        ((∀ e ∈ s, e.WellNamed) → ParensMarked spans) := by
  refine ⟨fun e => ?_, fun s => ?_⟩
  · have hdoc := (composes_coloured e.WellNamed).needs_exprDoc (o := o) (namesHave_coloured id)
    refine (hdoc.imp fun d hd => ?_).map
    rw [hd.1.lineless.layout_eq]
    exact hd.2
  · have hdoc := (composes_coloured (∀ e ∈ s, e.WellNamed)).needs_shapeDoc (o := o)
      fun e he => namesHave_coloured fun hnamed => hnamed e he
    refine (hdoc.imp ?_).map
    rintro _ ⟨axes, haxes, rfl⟩
    exact coloured_framed haxes width

/-- Four pairs in one another have the four colours, and the fifth one has the first again. -/
theorem parentheses_coloured_by_depth_five_deep :
    let b : Expr := .var ⟨⟨"Batch", "b", none⟩, 0⟩
    let half (e : Expr) : Expr := .binary .floorDiv e (.lit 2)
    let e : Expr := half (half (half (half b)))
    e.WellNamed ∧ (∃ spans, ofExpr .traps 80 e = .ok spans ∧
      plain spans = "floor(floor(floor(floor(Batch(b)/2)/2)/2)/2)" ∧
      (spans.filterMap Span.paren?).map parenColour =
        [.blue, .green, .yellow, .magenta, .blue, .blue, .magenta, .yellow, .green, .blue] ∧
      Nested depthColour 0 spans ∧ ParensMarked spans) ∧
      ∃ spans, ofShape .traps 80 [e, b] = .ok spans ∧ ParensMarked spans := by
  intro b half e
  have he : e.WellNamed := by decide
  obtain ⟨hexprs, hshapes⟩ := parentheses_coloured_by_depth .traps 80
  obtain ⟨spans, hspans, hnested, hmarked⟩ := (hexprs e).exists_eq_ok (by decide)
  obtain ⟨spans', hspans', -, hmarked'⟩ := (hshapes [e, b]).exists_eq_ok (by decide)
  have hread : ∃ out, ofExpr .traps 80 e = .ok out ∧
      plain out = "floor(floor(floor(floor(Batch(b)/2)/2)/2)/2)" ∧
      (out.filterMap Span.paren?).map parenColour =
        [.blue, .green, .yellow, .magenta, .blue, .blue, .magenta, .yellow, .green, .blue] :=
    ⟨_, rfl, rfl, rfl⟩
  obtain ⟨_, hout, hplain, hcolours⟩ := hread
  obtain rfl := Except.ok.inj (hspans.symm.trans hout)
  exact ⟨he, ⟨_, hspans, hplain, hcolours, hnested, hmarked he⟩, spans', hspans',
    hmarked' (by decide)⟩

/-- The parentheses of an axis have the colour of those of the shape, although they stand inside
them. -/
theorem axes_coloured_like_their_shape :
    let s : Shape := [.var ⟨⟨"Batch", "b", some 20⟩, 0⟩]
    (∀ e ∈ s, e.WellNamed) ∧ ∃ spans, ofShape .traps 80 s = .ok spans ∧
      plain spans = "(Batch(b):20,)" ∧ ¬Nested depthColour 0 spans := by
  intro s
  have hspans : ofShape .traps 80 s = .ok
      [styled (.paren 0) "(", styled .ident "Batch", styled (.paren 0) "(", styled .ident "b",
        styled (.paren 0) ")", styled .punct ":", styled .size "20", styled .punct ",",
        styled (.paren 0) ")"] := by rfl
  exact ⟨by decide, _, hspans, by rfl, by decide⟩

end ShapeAlgebra.Layout
