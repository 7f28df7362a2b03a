import ShapeAlgebra.Proofs.Resolve.Expand
import ShapeAlgebra.Proofs.Warp.Plan
import ShapeAlgebra.Proofs.Warp.ShapeHost

/-!
# The sizes behind an expansion

What becomes of every axis when the factors of an expansion are handed to the host of shapes.  An
axis of which nothing is asked keeps its size.  Any other axis gets the size that is asked for if
this is positive.  A size that is not positive is refused, with one exception: the factor from a
size to its negation is `-1`, and the host takes that as the mark of an axis to be left alone.  So
an axis that is asked for the negation of its size silently keeps the size it has.
-/

namespace ShapeAlgebra.Warp

variable {spec : String} {source : Slots} {shape factors out : List Size}

/-- What an axis of size `n` becomes when `asked` is asked of it: the value of `asked`, but for the
negation of `n`, which leaves the axis alone. -/
def SettlesAt (source : Slots) (shape : List Size) (asked : Option Expr) (n m : Size) : Prop :=
  match asked with
  | none => m = n
  | some e => ∃ size, e.evalIn (Resolve.binding source shape) = .ok size ∧ 0 < n ∧
      (0 < size ∧ m = size ∨ size.toInt = -n.toInt ∧ m = n)

/-- The factor of one axis, and what the host makes of it. -/
lemma settlesAt_of_scalesTo {asked : Option Expr} {n factor m : Size}
    (hfactor : Resolve.ScalesTo source shape asked n factor)
    (hhost : ShapeHost.ExpandsTo n factor m) : SettlesAt source shape asked n m := by
  cases asked with
  | none =>
    have hkeep : factor = -1 := hfactor
    obtain ⟨_, hm⟩ | ⟨hne, _⟩ := hhost
    · exact hm
    · exact absurd hkeep hne
  | some e =>
    obtain ⟨size, heval, hn, hsize⟩ := hfactor
    refine ⟨size, heval, hn, ?_⟩
    obtain ⟨rfl, hm⟩ | ⟨_, hpos, hm⟩ := hhost
    · -- the host cannot tell this factor from the mark
      right
      rw [Size.toInt_neg_one, Int.neg_one_mul] at hsize
      exact ⟨hsize, hm⟩
    · left
      have hsame : m.toInt = size.toInt := by rw [hm, hsize, Int.mul_comm]
      rw [Size.pos_iff] at hn hpos ⊢
      refine ⟨?_, Int64.toInt_inj.1 hsame⟩
      rw [hsize]
      exact Int.mul_pos hpos hn

/-- What becomes of every axis when the factors follow what is asked. -/
lemma settlesAt_of_follows {asked : Nat → Option Expr}
    (hfactors : Resolve.Follows source shape asked factors)
    (hexpand : ShapeHost.expand shape factors = .ok out) :
    out.length = shape.length ∧ ∀ i n m, shape[i]? = some n → out[i]? = some m →
      SettlesAt source shape (asked i) n m := by
  obtain ⟨hcount, hout⟩ := ShapeHost.meets_expand.post_of_eq_ok hexpand
  constructor
  · rw [← hout.length_eq, List.length_zip, hcount, Nat.min_self]
  · intro i n m hn hm
    have hlt : i < factors.length := by
      rw [hcount]
      exact (List.getElem?_eq_some_iff.1 hn).1
    have hfactor : factors[i]? = some factors[i] := List.getElem?_eq_getElem hlt
    have haxis : (shape.zip factors)[i]? = some (n, factors[i]) :=
      List.getElem?_zip_eq_some.2 ⟨hn, hfactor⟩
    have hhost := rel_of_getElem? hout haxis hm
    exact settlesAt_of_scalesTo (hfactors.scalesTo i n _ hn hfactor) hhost

/-- An expansion that is resolved and not refused by the host of shapes leaves every axis with the
size that it is asked for, or with the size that it has if nothing or the negation of that size is
asked of it: position by position, and in the same way for named axes, where the last expansion of
an axis counts. -/
theorem expand_settles_every_axis (hexpand : ShapeHost.expand shape factors = .ok out) :
    (∀ target, Resolve.expandPositional spec source target shape = .ok factors →
      out.length = shape.length ∧ ∀ i n m, shape[i]? = some n → out[i]? = some m →
        SettlesAt source shape (Resolve.askedAt? source target i) n m) ∧
    ∀ expansions, Resolve.expand spec source expansions shape = .ok factors →
      out.length = shape.length ∧ ∀ i n m, shape[i]? = some n → out[i]? = some m →
        SettlesAt source shape (Resolve.lastAsked? source expansions i) n m := by
  refine ⟨fun target hresolve => ?_, fun expansions hresolve => ?_⟩
  · obtain ⟨hsource, htarget, hgrows⟩ := Resolve.meets_expandPositional.post_of_eq_ok hresolve
    have hfactors := Resolve.follows_of_growsBy htarget hsource.length_eq hgrows
    exact settlesAt_of_follows hfactors hexpand
  · obtain ⟨hsource, hfactors⟩ := Resolve.meets_expand.post_of_eq_ok hresolve
    exact settlesAt_of_follows hfactors hexpand

/-- A batch that is left alone and a depth that is doubled. -/
theorem expand_settles_every_axis_doubled :
    ∃ source target, Spec.readChain .sample "b,d -> b,2*d" = .ok [source, target] ∧
      Resolve.expandPositional "b,d -> b,2*d" source target [6, 4] = .ok [-1, 2] ∧
      ShapeHost.expand [6, 4] [-1, 2] = .ok [6, 8] ∧
      SettlesAt source [6, 4] (Resolve.askedAt? source target 1) 4 8 := by
  have hchain : ∃ source target, Spec.readChain .sample "b,d -> b,2*d" = .ok [source, target] ∧
      Resolve.expandPositional "b,d -> b,2*d" source target [6, 4] = .ok [-1, 2] :=
    ⟨_, _, rfl, rfl⟩
  obtain ⟨source, target, hread, hresolve⟩ := hchain
  have hhost : ShapeHost.expand [6, 4] [-1, 2] = .ok [6, 8] := rfl
  obtain ⟨_, haxes⟩ := (expand_settles_every_axis hhost).1 target hresolve
  exact ⟨source, target, hread, hresolve, hhost, haxes 1 4 8 rfl rfl⟩

/-- A batch of six that is asked to have the size `-6`, by its position and by its name, keeps the
size `6`, and nothing is refused. -/
theorem expand_ignores_negation :
    ∃ source e, Spec.readChain .sample "b -> -b" = .ok [source, [.expr e]] ∧
      Resolve.askedAt? source [.expr e] 0 = some e ∧
      e.evalIn (Resolve.binding source [6]) = .ok (-6) ∧
      Resolve.expandPositional "b -> -b" source [.expr e] [6] = .ok [-1] ∧
      (∃ axis, Spec.readExpansions .sample "b -> -b" = .ok [(axis, e)] ∧
        Resolve.expand "b : b -> -b" source [(axis, e)] [6] = .ok [-1]) ∧
      ShapeHost.expand [6] [-1] = .ok [6] ∧ (6 : Size) ≠ -6 :=
  ⟨_, _, rfl, rfl, rfl, rfl, ⟨_, rfl, rfl⟩, rfl, by decide⟩

end ShapeAlgebra.Warp
