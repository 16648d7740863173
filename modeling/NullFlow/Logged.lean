namespace NullFlow

structure Logged (ω ε α : Type) where
  log : List ω
  result : Except ε α

namespace Logged

def bind (x : Logged ω ε α) (f : α → Logged ω ε β) : Logged ω ε β :=
  match x.result with
  | .error e => ⟨x.log, .error e⟩
  | .ok a => ⟨x.log ++ (f a).log, (f a).result⟩

instance : Monad (Logged ω ε) where
  pure a := ⟨[], .ok a⟩
  bind := bind

def tell (entries : List ω) : Logged ω ε Unit := ⟨entries, .ok ()⟩

def ofExcept (result : Except ε α) : Logged ω ε α := ⟨[], result⟩

end Logged

end NullFlow
