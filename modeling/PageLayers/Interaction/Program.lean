/-! Programs that make calls one at a time and go on with the replies. What a call does is not part
of a program, so one program runs on stores of any kind and can be stopped between any two calls. -/

namespace PageLayers

/-- The calls that can be made, with the type of the reply to each. -/
structure Interface where
  Call : Type
  Reply : Call → Type

inductive Program (I : Interface) (α : Type) where
  | done (a : α)
  | call (c : I.Call) (next : I.Reply c → Program I α)

namespace Program

variable {I : Interface} {α β : Type}

def bind : Program I α → (α → Program I β) → Program I β
  | done a, f => f a
  | call c next, f => call c fun r => (next r).bind f

instance : Monad (Program I) where
  pure := done
  bind := bind

/-- Makes one call. -/
def ask (c : I.Call) : Program I (I.Reply c) := call c done

/-- Runs a program where calls are answered in a monad. -/
def run {m : Type → Type} [Monad m] (answer : (c : I.Call) → m (I.Reply c)) : Program I α → m α
  | done a => pure a
  | call c next => do run answer (next (← answer c))

/-- Runs a program on a state that each call may change. -/
def runOn {σ : Type} (answer : (c : I.Call) → σ → I.Reply c × σ) : Program I α → σ → α × σ
  | done a, s => (a, s)
  | call c next, s =>
    let (r, s) := answer c s
    runOn answer (next r) s

end Program

end PageLayers
