/- Arguments of a forwarded call as expressions: their values where the parameters of an action are
   given. -/
import Mathlib.Data.List.TakeWhile
import EndpointGen.Facade.Controller
import EndpointGen.Proofs.Document.Fields

namespace EndpointGen

/-- What is given for a declared parameter: a value, or a record of values by field name. -/
inductive Given (V : Type) where
  | value (v : V)
  | record (fields : List (String × V))

namespace Given

variable {V : Type}

def value? : Given V → Option V
  | .value v => some v
  | .record _ => none

def field? (name : String) : Given V → Option V
  | .value _ => none
  | .record fields => fields.lookup name

/-- The value of an argument: the text up to a dot names what is given, the text after it a field. -/
def evaluate (env : List (String × Given V)) (argument : String) : Option V :=
  let receiver := String.ofList (argument.toList.takeWhile (· ≠ '.'))
  match argument.toList.dropWhile (· ≠ '.') with
  | [] => (env.lookup receiver).bind value?
  | _ :: name => (env.lookup receiver).bind (field? (String.ofList name))

variable {env : List (String × Given V)} {name field : String} {v : V}

theorem decide_ne_dot {cs : List Char} (hdot : '.' ∉ cs) : ∀ c ∈ cs, decide (c ≠ '.') = true := by
  intro c hc
  have hne : c ≠ '.' := fun heq => hdot (heq ▸ hc)
  exact decide_eq_true hne

theorem evaluate_plain (hdot : '.' ∉ name.toList) (h : env.lookup name = some (.value v)) :
    evaluate env name = some v := by
  have hplain := decide_ne_dot hdot
  have htake : name.toList.takeWhile (· ≠ '.') = name.toList := List.takeWhile_eq_self_iff.mpr hplain
  have hdrop : name.toList.dropWhile (· ≠ '.') = [] := List.dropWhile_eq_nil_iff.mpr hplain
  simp only [evaluate, htake, hdrop, String.ofList_toList, h, Option.bind_some, value?]

/-- A name before a dot is looked up by itself, and what is given for it is asked for the field. -/
theorem evaluate_dotted (hdot : '.' ∉ name.toList) :
    evaluate env (name ++ "." ++ field) = (env.lookup name).bind (field? field) := by
  have hplain := decide_ne_dot hdot
  have hsplit : (name ++ "." ++ field).toList = name.toList ++ '.' :: field.toList := by
    simp [String.toList_append]
  have htake : (name ++ "." ++ field).toList.takeWhile (· ≠ '.') = name.toList := by
    rw [hsplit, List.takeWhile_append_of_pos hplain]
    simp
  have hdrop : (name ++ "." ++ field).toList.dropWhile (· ≠ '.') = '.' :: field.toList := by
    rw [hsplit, List.dropWhile_append_of_pos hplain]
    simp
  simp only [evaluate, htake, hdrop, String.ofList_toList]

theorem evaluate_field {fields : List (String × V)} (hdot : '.' ∉ name.toList)
    (h : env.lookup name = some (.record fields)) (hfield : fields.lookup field = some v) :
    evaluate env (name ++ "." ++ field) = some v := by
  rw [evaluate_dotted hdot, h, Option.bind_some, field?, hfield]

end Given

end EndpointGen
