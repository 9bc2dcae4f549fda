/-!
What a run logs on its way. How a logged event is written, and whether it is, is decided outside of
the program: by the filter around the run, the level that the command line asks for, and the clock.
-/

namespace RouteBindings

inductive LogLevel where
  | debug
  | info
  | warn
  deriving DecidableEq, Repr

structure LogEvent where
  level : LogLevel
  /-- The part of the program that it comes from. -/
  target : String
  message : String
  fields : List (String × String)
  deriving DecidableEq, Repr

/-- The time of each event of a run, by its place. -/
abbrev Clock := Nat → String

structure Logger where
  /-- What is written when a level is set up. -/
  opening (level : String) : String
  /-- The line of an event; empty where the level, or a filter around the run, hides it. -/
  line (level time : String) (event : LogEvent) : String

namespace Logger

def silent : Logger := ⟨fun _ => "", fun _ _ _ => ""⟩

def text (logger : Logger) (level : String) (clock : Clock) (events : List LogEvent) : String :=
  logger.opening level ++
    String.join (events.zipIdx.map fun (event, place) => logger.line level (clock place) event)

end Logger

/-- Steps that may fail. A failure keeps what was logged before it. -/
abbrev Logged (m : Type → Type) (ε : Type) := ExceptT ε (StateT (List LogEvent) m)

namespace Logged

variable {m : Type → Type} [Monad m] {ε α : Type}

def logAll (events : List LogEvent) : Logged m ε Unit :=
  modify (· ++ events)

def log (event : LogEvent) : Logged m ε Unit :=
  logAll [event]

def result (steps : Logged m ε α) : m (Except ε α) :=
  return (← steps.run.run []).1

end Logged

end RouteBindings
