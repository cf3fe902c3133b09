/-!
# Events

What the library tells about its work. A `Traced` value comes with the events of its computation, in
the order in which they happened.
-/

namespace MakeLint

/-- How much an event matters. -/
inductive Level where
  | debug
  | warning
  deriving DecidableEq

/-- Something that happened. -/
inductive Event where
  /-- A rule was added to a registry. -/
  | registered (rule : String)
  /-- A rule was passed over because the configuration disables it. -/
  | skipped (rule : String)
  /-- So many required targets are looked up among so many declared ones. -/
  | comparing (required declared : Nat) (file : String)
  /-- A rule found so many violations. -/
  | evaluated (rule : String) (violations : Nat) (file : String)
  /-- All rules together found so many violations. -/
  | validated (file : String) (violations : Nat)
  deriving DecidableEq

namespace Event

/-- Only a rule that is passed over is worth a warning. -/
def level : Event → Level
  | skipped _ => .warning
  | _ => .debug

/-- The event in words. -/
def message : Event → String
  | registered rule => "Registered rule '" ++ rule ++ "'"
  | skipped rule => "Skipping disabled rule '" ++ rule ++ "'"
  | comparing required declared file =>
    "Checking " ++ toString required ++ " required phony targets against " ++ toString declared
      ++ " declared in " ++ file
  | evaluated rule violations file =>
    "Rule '" ++ rule ++ "' produced " ++ toString violations ++ " violation(s) for " ++ file
  | validated file violations =>
    "Validated " ++ file ++ " with " ++ toString violations ++ " violation(s)"

end Event

/-- A value with the events of its computation, in order. -/
structure Traced (α : Type) where
  value : α
  events : List Event := []

end MakeLint
