import SourceMacros.Event
import SourceMacros.ExpansionError

/-! The run of a macro: the events it notes, in order, and what it comes to. Events that are noted before
an error stay noted. -/

namespace SourceMacros

structure Expansion (α : Type) where
  events : List Event
  result : Except ExpansionError α

namespace Expansion

variable {α β : Type}

def done (a : α) : Expansion α := ⟨[], .ok a⟩

def fail (error : ExpansionError) : Expansion α := ⟨[], .error error⟩

def note (event : Event) : Expansion Unit := ⟨[event], .ok ()⟩

def ofExcept (result : Except ExpansionError α) : Expansion α := ⟨[], result⟩

def andThen (x : Expansion α) (f : α → Expansion β) : Expansion β :=
  match x.result with
  | .ok a => ⟨x.events ++ (f a).events, (f a).result⟩
  | .error error => ⟨x.events, .error error⟩

instance : Monad Expansion where
  pure := done
  bind := andThen

@[simp] theorem events_pure (a : α) : (pure a : Expansion α).events = [] := rfl

@[simp] theorem result_pure (a : α) : (pure a : Expansion α).result = .ok a := rfl

@[simp] theorem events_fail (error : ExpansionError) :
    (fail error : Expansion α).events = [] := rfl

@[simp] theorem result_fail (error : ExpansionError) :
    (fail error : Expansion α).result = .error error := rfl

@[simp] theorem result_note (event : Event) : (note event).result = .ok () := rfl

theorem bind_eq (x : Expansion α) (f : α → Expansion β) : x >>= f = x.andThen f := rfl

@[simp] theorem result_bind (x : Expansion α) (f : α → Expansion β) :
    (x >>= f).result = x.result >>= fun a => (f a).result := by
  rw [bind_eq, andThen]
  cases x.result <;> rfl

@[simp] theorem done_bind (a : α) (f : α → Expansion β) : done a >>= f = f a := by
  rw [bind_eq, andThen, done]
  rfl

@[simp] theorem fail_bind (error : ExpansionError) (f : α → Expansion β) :
    fail error >>= f = fail error := rfl

theorem result_bind_pure (x : Expansion α) (f : α → β) :
    (x >>= fun a => pure (f a)).result = x.result.map f := by
  rw [result_bind]
  cases x.result <;> rfl

end Expansion
end SourceMacros
