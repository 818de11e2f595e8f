import Mathlib.Data.List.Basic

/-!
# ComuFrame — multipart messages (`zmq::multipart_t`)

A message is the list of its frames. `popstr` takes the first frame and assumes that there
is one: on an empty message it reads the front of an empty deque, which is undefined. The
handlers run in a monad that keeps that fault, and an uncaught exception, apart from
ordinary results.
-/

namespace ComuFrame

/-- How a thread can come to an end inside a handler. -/
inductive Fault where
  /-- `popstr` on a message without frames: undefined behaviour. -/
  | emptyPop
  /-- An exception nobody catches: `std::terminate`. -/
  | exception
  deriving DecidableEq, Repr

abbrev Multipart := List String

def Multipart.popstr : Multipart → Except Fault (String × Multipart)
  | [] => .error .emptyPop
  | frame :: rest => .ok (frame, rest)

@[simp] theorem Multipart.popstr_nil : popstr [] = .error .emptyPop := rfl

@[simp] theorem Multipart.popstr_cons (frame : String) (rest : Multipart) :
    popstr (frame :: rest) = .ok (frame, rest) := rfl

/-- A call that throws when it has no result. -/
def orThrow {α : Type} : Option α → Except Fault α
  | none => .error .exception
  | some a => .ok a

@[simp] theorem orThrow_none {α : Type} : orThrow (none : Option α) = .error .exception := rfl

@[simp] theorem orThrow_some {α : Type} (a : α) : orThrow (some a) = .ok a := rfl

end ComuFrame
