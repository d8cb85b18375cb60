import Mathlib.Logic.Function.Iterate
import Rlirsh.Protocol

namespace Rlirsh.Errors

open Rlirsh.Protocol

universe u v

/-- What is used of `eyre`: an error shows the messages of its chain, its own first, and
is made by `eyre!` and `wrap_err`. -/
class Eyre (E : Type u) where
  chain : E → List String
  eyre : String → E
  wrapErr : E → String → E
  chain_ne_nil (err : E) : chain err ≠ []
  chain_eyre (msg : String) : chain (eyre msg) = [msg]
  chain_wrapErr (err : E) (msg : String) : chain (wrapErr err msg) = msg :: chain err

open Eyre

variable {E : Type u} [Eyre E] {α : Type v}

/-- `SerialError::new`. -/
def serialError (err : E) : SerialError := ⟨chain err⟩

/-- The body of the loop of `From<SerialError> for Error`. -/
def wrap (err : Option E) (msg : String) : Option E :=
  some (match err with
    | some e => wrapErr e msg
    | none => eyre msg)

/-- `From<SerialError> for Error`. -/
def toError (err : SerialError) : E :=
  (err.chain.reverse.foldl wrap none).getD
    (eyre "failed to deserialize an error information")

/-- `Response::new`. -/
def response : Except E α → Response
  | .ok _ => .ok
  | .error err => .err (serialError err)

/-- `From<Response> for Result<()>`. -/
def toResult : Response → Except E Unit
  | .ok => .ok ()
  | .err err => .error (toError err)

/-- The result on the other side of the connection. -/
def hop (res : Except E α) : Except E Unit := toResult (response res)

theorem foldl_wrap (msgs : List String) (hne : msgs ≠ []) :
    ∃ err : E, msgs.reverse.foldl wrap none = some err ∧ chain err = msgs := by
  induction msgs with
  | nil => exact absurd rfl hne
  | cons msg msgs ih =>
      rw [List.reverse_cons, List.foldl_append]
      rcases msgs with _ | ⟨msg', msgs⟩
      · exact ⟨eyre msg, rfl, chain_eyre msg⟩
      · obtain ⟨err, hfold, hchain⟩ := ih (List.cons_ne_nil _ _)
        refine ⟨wrapErr err msg, ?_, ?_⟩
        · rw [hfold]
          rfl
        · rw [chain_wrapErr, hchain]

theorem chain_toError {err : SerialError} (hne : err.chain ≠ []) :
    chain (toError err : E) = err.chain := by
  obtain ⟨e, hfold, hchain⟩ := foldl_wrap (E := E) err.chain hne
  rw [toError, hfold]
  exact hchain

theorem serialError_toError {err : SerialError} (hne : err.chain ≠ []) :
    serialError (toError err : E) = err := by
  rw [serialError, chain_toError hne]

theorem hop_error (err : E) :
    ∃ err', hop (.error err : Except E α) = .error err' ∧ chain err' = chain err :=
  ⟨_, rfl, chain_toError (chain_ne_nil err)⟩

theorem hops_error (err : E) (n : Nat) :
    ∃ err', hop^[n] (.error err : Except E Unit) = .error err' ∧
      chain err' = chain err := by
  induction n generalizing err with
  | zero => exact ⟨err, rfl, rfl⟩
  | succ n ih =>
      obtain ⟨err', hhop, hchain⟩ := hop_error (α := Unit) err
      obtain ⟨err'', hhops, hchain'⟩ := ih err'
      refine ⟨err'', ?_, hchain'.trans hchain⟩
      rw [Function.iterate_succ_apply, hhop, hhops]

/-- Errors cross the wire unchanged, however often they do, and never as a success. -/
theorem errors_cross :
    (∀ (err : E) (n : Nat), ∃ err', hop^[n] (hop (.error err : Except E α)) = .error err' ∧
      chain err' = chain err) ∧
    (∀ err : SerialError, err.chain ≠ [] → serialError (toError err : E) = err) ∧
    ∀ err : SerialError, ∃ err', (toResult (.err err) : Except E Unit) = .error err' := by
  refine ⟨fun err n => ?_, fun err hne => serialError_toError hne, fun err => ⟨_, rfl⟩⟩
  obtain ⟨err', hhop, hchain⟩ := hop_error (α := α) err
  obtain ⟨err'', hhops, hchain'⟩ := hops_error err' n
  exact ⟨err'', by rw [hhop, hhops], hchain'.trans hchain⟩

/-- An error as its own message and those of its causes. -/
structure Report where
  msg : String
  causes : List String

instance : Eyre Report where
  chain err := err.msg :: err.causes
  eyre msg := ⟨msg, []⟩
  wrapErr err msg := ⟨msg, err.msg :: err.causes⟩
  chain_ne_nil _ := List.cons_ne_nil _ _
  chain_eyre _ := rfl
  chain_wrapErr _ _ := rfl

/-- A connection is refused. -/
def refused : SerialError := ⟨["failed to connect", "Connection refused (os error 111)"]⟩

theorem errors_cross_refused :
    serialError (toError refused : Report) = refused ∧
      ∃ err, hop^[2] (hop (.error (toError refused) : Except Report Nat)) = .error err ∧
        chain err = ["failed to connect", "Connection refused (os error 111)"] := by
  obtain ⟨hhops, hserial, -⟩ := errors_cross (E := Report) (α := Nat)
  obtain ⟨err, hhop, hchain⟩ := hhops (toError refused) 2
  exact ⟨hserial refused (List.cons_ne_nil _ _), err, hhop, hchain⟩

end Rlirsh.Errors
