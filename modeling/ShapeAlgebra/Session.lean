import ShapeAlgebra.Registry.Basic

/-!
# Sessions

A session is a registry in use.  It remembers the dimensions it has handed out, each as it was
when it was handed out, and the events that nobody has read yet.  The operations that hand out
dimensions are its commands.
-/

namespace ShapeAlgebra

/-- A registry in use. -/
structure Session where
  registry : Registry := {}
  /-- The dimensions handed out so far, in order. -/
  handles : List Dim := []
  /-- The events since the journal was last read, in order. -/
  journal : List Event := []
  deriving DecidableEq, Repr

namespace Session

/-- The operations that hand out dimensions. -/
inductive Command where
  | declare (spec : String)
  | declareWith (policy : Policy) (spec : String)
  | declareOne (spec : String)
  | insert (policy : Policy) (decl : Decl)
  | lookup (spec : String)
  | get (symbol : String)
  | updateSizes (spec : String)
  deriving DecidableEq, Repr

/-- What a command does to a registry.  Looking up changes nothing, and getting a symbol that is
not registered hands out nothing. -/
def Command.apply (r : Registry) : Command → Registry.Update (List Dim)
  | .declare spec => r.declare spec
  | .declareWith policy spec => r.declareWith policy spec
  | .declareOne spec => r.declareOne spec
  | .insert policy decl => r.insert policy decl
  | .lookup spec => ⟨r.lookup spec, r, []⟩
  | .get symbol => ⟨.ok (r.find? symbol).toList, r, []⟩
  | .updateSizes spec => r.updateSizes spec

/-- The session in which `events` have been added to the journal. -/
def note (s : Session) (events : List Event) : Session :=
  { s with journal := s.journal ++ events }

/-- The session after a command; a command that is refused hands out nothing. -/
def perform (s : Session) (c : Command) : Except ShapeError (List Dim) × Session :=
  let update := c.apply s.registry
  let handedOut := match update.result with
    | .ok dims => dims
    | .error _ => []
  (update.result,
    { registry := update.registry
      handles := s.handles ++ handedOut
      journal := s.journal ++ update.events })

/-- The unread events, and the session in which they are read. -/
def readJournal (s : Session) : List Event × Session := (s.journal, { s with journal := [] })

end Session

end ShapeAlgebra
