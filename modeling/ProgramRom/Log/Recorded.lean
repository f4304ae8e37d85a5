import ProgramRom.Log.Event

/-! # Recorded values

A value together with the records that were made on the way to it, the oldest first. Records outlive a
failure: they stand beside the value, whatever it is. -/

namespace ProgramRom.Log

structure Recorded (α : Type) where
  value : α
  events : List Event

namespace Recorded

instance : Monad Recorded where
  pure a := ⟨a, []⟩
  bind x f := ⟨(f x.value).value, x.events ++ (f x.value).events⟩

@[simp] theorem value_pure {α : Type} (a : α) : (pure a : Recorded α).value = a := rfl

@[simp] theorem events_pure {α : Type} (a : α) : (pure a : Recorded α).events = [] := rfl

@[simp] theorem value_bind {α β : Type} (x : Recorded α) (f : α → Recorded β) :
    (x >>= f).value = (f x.value).value := rfl

@[simp] theorem events_bind {α β : Type} (x : Recorded α) (f : α → Recorded β) :
    (x >>= f).events = x.events ++ (f x.value).events := rfl

/-- The same value without the records of single entries. -/
def withoutEntries {α : Type} (x : Recorded α) : Recorded α :=
  ⟨x.value, x.events.filter (!·.isEntry)⟩

end Recorded

def record (event : Event) : Recorded Unit := ⟨(), [event]⟩

def recordAll (events : List Event) : Recorded Unit := ⟨(), events⟩

end ProgramRom.Log
