import Overloads.Hook.Basic

/-! Hooks that record what they are asked. -/
namespace Overloads

/-- The values and the classes that a hook was asked about, in order. -/
abbrev HookLog := List (Value × ClassName)

/-- Computations that can fail and record the use of hooks; failures keep the record. -/
abbrev Recording := ExceptT Failure (StateM HookLog)

/-- Acts like the hook, and records every use. -/
def Hook.recorded (h : Hook (Except Failure)) : Hook Recording where
  path := h.path
  apply := fun v c => do
    modify (· ++ [(v, c)])
    match h.apply v c with
    | .ok out => return out
    | .error e => throw e

end Overloads
