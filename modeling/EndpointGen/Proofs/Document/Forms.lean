/- The forms of a written record: an object that has its fields in any order and perhaps others, or an array
   that has them in declared order and perhaps ends early. Whichever form is chosen, the record is read the
   same. -/
import EndpointGen.Proofs.Document.Records

namespace EndpointGen

variable {α : Type}

inductive IsArrayOf (form : α → Doc → Prop) (values : List α) : Doc → Prop
  | items {ds : List Doc} (h : List.Forall₂ form values ds) : IsArrayOf form values (.array ds)

/-- A field of a record and what may be given for it: a document, or nothing. -/
structure FieldForms where
  name : String
  admits : Option Doc → Prop

namespace FieldForms

def required (name : String) (form : Doc → Prop) : FieldForms where
  name := name
  admits
    | some d => form d
    | none => False

/-- The field can be left out where its value is the default, and written out all the same. -/
def optional (name : String) (form : Doc → Prop) (isDefault : Prop) : FieldForms where
  name := name
  admits
    | some d => form d
    | none => isDefault

def list (name : String) (form : α → Doc → Prop) (values : List α) : FieldForms :=
  optional name (IsArrayOf form values) (values = [])

def text (name : String) (value : Option String) : FieldForms :=
  optional name (· = .ofText? value) (value = none)

def flag (name : String) (value : Bool) : FieldForms :=
  optional name (· = .bool value) (value = false)

/-- What an object has under the name of each field, in whatever order and among whatever others. -/
structure InObject (fs : List FieldForms) (fields : List (String × Doc)) : Prop where
  distinct : (fields.map (·.1)).Nodup
  given : ∀ f ∈ fs, f.admits (fields.lookup f.name)

/-- The names of an object are put in order when it is read from a text, which changes nothing. -/
theorem InObject.ordered {fs : List FieldForms} {fields : List (String × Doc)}
    (h : InObject fs fields) : InObject fs (Doc.orderFields fields) := by
  refine ⟨Doc.orderFields_nodup fields, ?_⟩
  intro f hf
  have hfield := Doc.field?_ofFields h.distinct f.name
  rw [Doc.ofFields, Doc.field?] at hfield
  rw [hfield]
  exact h.given f hf

/-- Items for the fields in declared order, as long as there are any; the fields after them are left out. -/
inductive InOrder : List FieldForms → List Doc → Prop
  | omitted {fs : List FieldForms} (h : ∀ f ∈ fs, f.admits none) : InOrder fs []
  | item {f : FieldForms} {fs : List FieldForms} {d : Doc} {ds : List Doc}
      (hd : f.admits (some d)) (h : InOrder fs ds) : InOrder (f :: fs) (d :: ds)

/-- The documents that a record with these fields can be written as. -/
inductive IsRecordOf (fs : List FieldForms) : Doc → Prop
  | object {fields : List (String × Doc)} (h : InObject fs fields) : IsRecordOf fs (.object fields)
  | array {items : List Doc} (h : InOrder fs items) : IsRecordOf fs (.array items)

namespace InOrder

variable {fs : List FieldForms} {items : List Doc}

theorem length_le (h : InOrder fs items) : items.length ≤ fs.length := by
  induction h with
  | omitted h => exact Nat.zero_le _
  | item hd h ih => exact Nat.succ_le_succ ih

/-- Each field finds its own item, or none behind the last one. -/
theorem given (h : InOrder fs items) (hnodup : (fs.map (·.name)).Nodup) :
    ∀ f ∈ fs, f.admits (((fs.map (·.name)).zip items).lookup f.name) := by
  induction h with
  | omitted h =>
      intro f hf
      rw [List.zip_nil_right]
      exact h f hf
  | @item g fs d ds hd h ih =>
      obtain ⟨hnew, hnodup⟩ := List.nodup_cons.mp hnodup
      intro f hf
      rw [List.map_cons, List.zip_cons_cons]
      rcases List.mem_cons.mp hf with rfl | hf
      · rw [List.lookup_cons_self]
        exact hd
      · have hne : f.name ≠ g.name := by
          intro heq
          exact hnew (List.mem_map.mpr ⟨f, hf, heq⟩)
        -- Its name is another one, so that the look-up passes the first item.
        rw [List.lookup_cons, beq_false_of_ne hne]
        exact ih hnodup f hf

end InOrder

end FieldForms

/-- The forms of a value are read as that value, and the document that is written for it is one of them. -/
structure Formed (decode : Decoder α) (toDoc : α → Doc) (form : α → Doc → Prop) : Prop where
  reads : ∀ a d, form a d → decode d = .ok a
  written : ∀ a, form a (toDoc a)

namespace Formed

variable {decode : Decoder α} {toDoc : α → Doc} {form : α → Doc → Prop}

theorem exactly (h : ∀ a, decode (toDoc a) = .ok a) : Formed decode toDoc fun a d => d = toDoc a := by
  refine ⟨?_, fun _ => rfl⟩
  rintro a d rfl
  exact h a

theorem all (h : Formed decode toDoc form) {values : List α} {ds : List Doc}
    (hds : List.Forall₂ form values ds) : Decode.all decode ds = .ok values := by
  induction hds with
  | nil => rfl
  | cons hd hds ih => simp only [Decode.all, h.reads _ _ hd, ih, bind, Except.bind]

theorem list (h : Formed decode toDoc form) :
    Formed (Decode.list decode) (fun values => .array (values.map toDoc)) (IsArrayOf form) := by
  constructor
  · intro values d hd
    cases hd with
    | items hds => exact h.all hds
  · intro values
    apply IsArrayOf.items
    apply List.forall₂_map_right_iff.mpr
    exact List.forall₂_same.mpr fun a _ => h.written a

end Formed

namespace FieldForms

/-- The forms of a field are read as its value, and what is written for it is one of them. -/
structure Fits (f : FieldForms) (g : RecordField) : Prop where
  name : f.name = g.name
  reads : ∀ found, f.admits found → g.reads found
  written : f.admits g.doc?

section Fits

variable {name : String} {decode : Decoder α} {toDoc : α → Doc} {form : α → Doc → Prop}

theorem fits_required (h : Formed decode toDoc form) (value : α) :
    (required name (form value)).Fits (.required name decode toDoc value) := by
  refine ⟨rfl, ?_, h.written value⟩
  intro found hfound
  cases found with
  | none => exact hfound.elim
  | some d => exact ⟨d, rfl, h.reads value d hfound⟩

theorem reads_optional (h : Formed decode toDoc form) {default value : α} {found : Option Doc}
    (hfound : (optional name (form value) (value = default)).admits found) :
    RecordField.readsOptional decode default value found := by
  cases found with
  | none => exact .inl ⟨rfl, hfound.symm⟩
  | some d => exact .inr ⟨d, rfl, h.reads value d hfound⟩

theorem fits_kept (h : Formed decode toDoc form) (default value : α) :
    (optional name (form value) (value = default)).Fits (.kept name decode default toDoc value) :=
  ⟨rfl, fun _ => reads_optional h, h.written value⟩

theorem fits_list (h : Formed decode toDoc form) (values : List α) :
    (list name form values).Fits (.list name decode toDoc values) := by
  refine ⟨rfl, fun _ => reads_optional h.list, ?_⟩
  cases values with
  | nil => rfl
  | cons a values => exact h.list.written (a :: values)

theorem formed_ofText? : Formed (Decode.nullable Decode.text) Doc.ofText? fun value d =>
    d = .ofText? value := by
  apply Formed.exactly
  intro value
  cases value with
  | none => rfl
  | some s => rfl

theorem fits_text (value : Option String) : (text name value).Fits (.text name value) := by
  refine ⟨rfl, fun _ => reads_optional formed_ofText?, ?_⟩
  cases value with
  | none => rfl
  | some s => rfl

theorem formed_bool : Formed Decode.boolean .bool fun value d => d = .bool value :=
  .exactly fun _ => rfl

theorem fits_flag (value : Bool) : (flag name value).Fits (.flag name value) := by
  refine ⟨rfl, fun _ => reads_optional formed_bool, ?_⟩
  cases value with
  | false => rfl
  | true => rfl

end Fits

end FieldForms

namespace Record.Consists

open FieldForms

variable {r : Record α} {a : α} {fs : List FieldForms} {gs : List RecordField}

theorem names_of_fits (hfits : List.Forall₂ Fits fs gs) : fs.map (·.name) = gs.map (·.name) := by
  induction hfits with
  | nil => rfl
  | cons hf hfits ih => rw [List.map_cons, List.map_cons, hf.name, ih]

theorem read_of_admits (h : r.Consists a gs) (hfits : List.Forall₂ Fits fs gs)
    {source : FieldSource} (hsource : ∀ f ∈ fs, f.admits (source f.name)) :
    r.read source = .ok a := by
  apply (h.read_iff source).mpr
  clear h
  induction hfits with
  | nil => exact List.forall_mem_nil _
  | cons hf hfits ih =>
      obtain ⟨hfirst, hrest⟩ := List.forall_mem_cons.mp hsource
      refine List.forall_mem_cons.mpr ⟨?_, ih hrest⟩
      rw [← hf.name]
      exact hf.reads _ hfirst

/-- Every form of a record reads as its value. -/
theorem decode_isRecordOf (h : r.Consists a gs) (hnodup : r.fields.Nodup)
    (hfits : List.Forall₂ Fits fs gs) {d : Doc} (hd : IsRecordOf fs d) : r.decode d = .ok a := by
  have hnames : fs.map (·.name) = r.fields := (names_of_fits hfits).trans h.names
  cases hd with
  | object hd => exact h.decode_eq_ok (h.read_of_admits hfits hd.given)
  | @array items hd =>
      have hlength : items.length ≤ r.fields.length := by
        rw [← hnames, List.length_map]
        exact hd.length_le
      have hread : r.read (fun name => (r.fields.zip items).lookup name) = .ok a := by
        apply h.read_of_admits hfits
        rw [← hnames] at hnodup ⊢
        exact hd.given hnodup
      rw [decode, ofItems, hread]
      exact if_pos hlength

/-- The object that a record is written to is one of its forms. -/
theorem isRecordOf_written (h : r.Consists a gs) (hnodup : r.fields.Nodup)
    (hfits : List.Forall₂ Fits fs gs) : IsRecordOf fs (.ofFields (RecordField.written gs)) := by
  rw [← h.names] at hnodup
  have hfield : ∀ g ∈ gs, (RecordField.written gs).lookup g.name = g.doc? :=
    fun g hg => RecordField.lookup_written hnodup hg
  have hdistinct := hnodup.sublist (RecordField.map_written_sublist gs)
  refine .object (InObject.ordered ⟨hdistinct, ?_⟩)
  generalize RecordField.written gs = fields at hfield
  clear h hnodup hdistinct
  induction hfits with
  | nil => exact List.forall_mem_nil _
  | cons hf hfits ih =>
      obtain ⟨hfirst, hrest⟩ := List.forall_mem_cons.mp hfield
      refine List.forall_mem_cons.mpr ⟨?_, ih hrest⟩
      rw [hf.name, hfirst]
      exact hf.written

end Record.Consists

/-- A record whose fields have their forms, each by itself, has all the forms that can be made of them. -/
theorem Record.formed {r : Record α} {toDoc : α → Doc} {fs : α → List FieldForms}
    {gs : α → List RecordField} (hconsists : ∀ a, r.Consists a (gs a)) (hnodup : r.fields.Nodup)
    (hwritten : ∀ a, toDoc a = .ofFields (RecordField.written (gs a)))
    (hfits : ∀ a, List.Forall₂ FieldForms.Fits (fs a) (gs a)) :
    Formed r.decode toDoc fun a => FieldForms.IsRecordOf (fs a) := by
  constructor
  · intro a d hd
    exact (hconsists a).decode_isRecordOf hnodup (hfits a) hd
  · intro a
    rw [hwritten]
    exact (hconsists a).isRecordOf_written hnodup (hfits a)

end EndpointGen
