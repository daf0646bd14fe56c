import GameDay.Cloud.Access
import GameDay.Cloud.Request
import GameDay.Fis.DurationCache

/-!
Plans: what is done in accounts, as a tree of effects. What comes next may depend on the answer
to each effect, and a plan can be suspended before any of them.
-/

namespace GameDay.Cloud

inductive Effect
  | send (access : Access) (request : Request)
  | lookUp (template : String)
  | record (template : String) (duration : Duration)
  | clock
  | freshId

abbrev Effect.Answer : Effect → Type
  | send _ request => Except ServiceError request.Answer
  | lookUp _ => Option Fis.Estimate
  | record _ _ => Unit
  | clock => Timestamp
  | freshId => Uuid

inductive Plan (α : Type) : Type
  | done (a : α)
  | perform (effect : Effect) (next : effect.Answer → Plan α)

namespace Plan

variable {α β γ : Type}

def bind : Plan α → (α → Plan β) → Plan β
  | done a, f => f a
  | perform e next, f => perform e fun answer => (next answer).bind f

instance : Monad Plan where
  pure := done
  bind := bind

theorem bind_done (p : Plan α) : p.bind done = p := by
  induction p with
  | done a => rfl
  | perform e next ih => exact congrArg (perform e) (funext ih)

theorem bind_assoc (p : Plan α) (f : α → Plan β) (g : β → Plan γ) :
    (p.bind f).bind g = p.bind fun a => (f a).bind g := by
  induction p with
  | done a => rfl
  | perform e next ih => exact congrArg (perform e) (funext ih)

instance : LawfulMonad Plan := .mk' Plan bind_done (fun _ _ => rfl) bind_assoc

def effect (e : Effect) : Plan e.Answer := perform e done

def send (access : Access) (request : Request) : Plan (Except ServiceError request.Answer) :=
  effect (.send access request)

variable {σ : Type}

def run (handle : (e : Effect) → σ → e.Answer × σ) : Plan α → σ → α × σ
  | done a, s => (a, s)
  | perform e next, s => let (answer, s) := handle e s; (next answer).run handle s

theorem run_bind (handle : (e : Effect) → σ → e.Answer × σ) (p : Plan α) (f : α → Plan β) (s : σ) :
    (p.bind f).run handle s = (f (p.run handle s).1).run handle (p.run handle s).2 := by
  induction p generalizing s with
  | done a => rfl
  | perform e next ih => exact ih _ _

end Plan

abbrev Action (α : Type) : Type := ExceptT Error Plan α

namespace Action

def refused (what : String) (e : ServiceError) : Error := .cloud (what ++ " failed: " ++ e.text)

def send (access : Access) (request : Request) (what : String := request.api) :
    Action request.Answer := do
  match ← (Plan.send access request : Plan _) with
  | .ok answer => return answer
  | .error e => throw (refused what e)

end Action

end GameDay.Cloud
