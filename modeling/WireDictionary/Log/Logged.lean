import WireDictionary.Log.Event

/-! States with a log. What logs on its way carries the log along with its state, so that one run
yields both. A run that fails ends in a state like any other run. -/

/-- What a run leaves, whether or not it failed. -/
@[simp] def EStateM.Result.state {ε σ α : Type} : EStateM.Result ε σ α → σ
  | .ok _ s | .error _ s => s

/-- What a run yields, without what it leaves. -/
@[simp] def EStateM.Result.toExcept {ε σ α : Type} : EStateM.Result ε σ α → Except ε α
  | .ok a _ => .ok a
  | .error e _ => .error e

namespace WireDictionary.Log

/-- A state, and what the log was told up to it. -/
structure Logged (S : Type) where
  state : S
  log : List Event
  deriving DecidableEq, Repr

namespace Logged

variable {S α : Type} {m : Type → Type} [MonadState (Logged S) m]

def tell (e : Event) : m Unit := modify fun a => { a with log := a.log ++ [e] }

/-- Changes the state, and yields what the change answers. The log is not told. -/
def change (f : S → α × S) : m α :=
  modifyGet fun a => ((f a.state).1, { a with state := (f a.state).2 })

variable {ε : Type} (s : S) (log : List Event)

@[simp] theorem change_run (f : S → α × S) :
    (change f : EStateM ε (Logged S) α).run ⟨s, log⟩ = .ok (f s).1 ⟨(f s).2, log⟩ := rfl

/-- An error is caught in the state in which it was thrown. -/
theorem tryCatch_run (x : EStateM ε (Logged S) α) (handle : ε → EStateM ε (Logged S) α)
    (a : Logged S) :
    (tryCatch x handle).run a =
      match x.run a with
      | .ok v a' => .ok v a'
      | .error e a' => (handle e).run a' := by
  have hrun : (tryCatch x handle).run a = EStateM.tryCatch x handle a := rfl
  rw [hrun]
  delta EStateM.tryCatch EStateM.run
  cases x a <;> rfl

end Logged

end WireDictionary.Log
