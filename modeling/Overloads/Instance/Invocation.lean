import Overloads.Instance.Construction
import Overloads.Routine.Dispatch

/-! Carrying out calls. -/
namespace Overloads

namespace World

/-- Fills an instance of a class with what a function of a native class has made. -/
def filled (w : World) (c : ClassName) (content : Value) : Making Value := do
  match ← w.construct c [] with
  | .object k number _ => return .object k number (some content)
  | _ => return content

/-- Calls a function of a native class for a class. -/
def callOfClass (w : World) (holder : ClassName) (name : String) (c : ClassName)
    (args : List Value) : Making Value := do
  match ← Native.callOfClass holder name args with
  | .finished v => return v
  | .instanceOf parts => if c = holder then Native.make c parts else w.construct c parts
  | .filled content => w.filled c content

/-- The classes along the linearization of a class, as a value. -/
def linearizationOf (w : World) (c : ClassName) : Value :=
  .list ((w.linearization c).map .type)

/-- Calls a function of the instances of a native class. -/
def callNative (w : World) (holder : ClassName) (name : String) (args : List Value) :
    Making Native.Reply := do
  match args with
  | [] => throw .unfitArguments
  | receiver :: rest =>
    let isBuiltin := holder.module = ClassName.builtinModule
    if isBuiltin && !w.isSubclass (w.classOf receiver) holder then throw .unfitArguments
    match receiver, rest with
    | .type c, [] =>
      if holder = .builtin "type" && name = "mro" then return .of (w.linearizationOf c)
      else Native.call holder name args
    | _, _ => Native.call holder name args

/-- Carries out a call. -/
def invoke (w : World) (call : Call) : Making Native.Reply := do
  match call.member.target with
  | .construct c => return .of (← w.construct c call.args)
  | .function f none => return .of (← w.callFunction f call.args)
  | .function f (some c) => return .of (← w.callFunction f (.type c :: call.args))
  | .scripted label body => return .of (← body.run w w.construct label call.args)
  | .native holder name (some c) => return .of (← w.callOfClass holder name c call.args)
  | .native holder name none => w.callNative holder name call.args

end World

end Overloads
