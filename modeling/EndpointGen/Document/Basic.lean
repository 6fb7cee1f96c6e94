/- Documents: the values that the graph and configuration formats are read into. -/
import EndpointGen.Decimal.Binary64

namespace EndpointGen

open Decimal

inductive Doc where
  | null
  | bool (b : Bool)
  | int (n : Int)
  | float (x : Binary64)
  | string (s : String)
  | array (items : List Doc)
  | object (fields : List (String × Doc))
deriving Inhabited

namespace Doc

/-- Puts a field at its place in the ascending order of names; an equal name is replaced. -/
def putField (name : String) (d : Doc) : List (String × Doc) → List (String × Doc)
  | [] => [(name, d)]
  | (k, e) :: rest =>
    if name < k then (name, d) :: (k, e) :: rest
    else if name = k then (name, d) :: rest
    else (k, e) :: putField name d rest

/-- Fields in ascending order of names; of equal names the last one stays. -/
def orderFields (fields : List (String × Doc)) : List (String × Doc) :=
  fields.foldl (fun acc f => putField f.1 f.2 acc) []

def ofFields (fields : List (String × Doc)) : Doc := .object (orderFields fields)

/-- An object with one field. -/
def tagged (name : String) (d : Doc) : Doc := .object [(name, d)]

def field? (name : String) : Doc → Option Doc
  | .object fields => fields.lookup name
  | _ => none

def strings (xs : List String) : Doc := .array (xs.map .string)

/-- Text, or null where there is none. -/
def ofText? : Option String → Doc
  | some s => .string s
  | none => .null

theorem lookup_putField (name key : String) (d : Doc) (fields : List (String × Doc)) :
    (putField name d fields).lookup key =
      if key = name then some d else fields.lookup key := by
  have hb (h : ¬ key = name) : (key == name) = false := by simpa using h
  induction fields with
  | nil => by_cases h : key = name <;> simp [putField, List.lookup_cons, h, hb]
  | cons f rest ih =>
    obtain ⟨k, e⟩ := f
    unfold putField
    split
    · by_cases h : key = name <;> simp [List.lookup_cons, h, hb]
    · split
      · next hk =>
        subst hk
        by_cases h : key = name <;> simp [List.lookup_cons, h, hb]
      · next hk =>
        by_cases h : key = k
        · subst h
          have : ¬ key = name := fun h => hk h.symm
          simp [this]
        · have hk : (key == k) = false := by simpa using h
          simp only [List.lookup_cons, hk]
          exact ih

end Doc

end EndpointGen
