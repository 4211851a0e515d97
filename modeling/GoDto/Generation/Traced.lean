import GoDto.Event.Basic
import GoDto.Generation.Failure

/-!
Computations that report events as they go and may fail. Events before a failure are kept.
-/

namespace GoDto

structure Traced (α : Type) where
  events : List Event
  result : Except Failure α

namespace Traced

variable {α β : Type}

def value (result : α) : Traced α := ⟨[], .ok result⟩

def fail (failure : Failure) : Traced α := ⟨[], .error failure⟩

def emit (events : List Event) : Traced Unit := ⟨events, .ok ()⟩

def andThen (first : Traced α) (second : α → Traced β) : Traced β :=
  match first.result with
  | .ok result => ⟨first.events ++ (second result).events, (second result).result⟩
  | .error failure => ⟨first.events, .error failure⟩

instance : Monad Traced where
  pure := value
  bind := andThen

end Traced

end GoDto
