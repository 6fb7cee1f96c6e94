/- Records and the objects that they are written to. What is asked of each field, for a record to be read as
   a given value, decides whether the object reads back and which of its fields can be left out. -/
import EndpointGen.Document.Decode
import EndpointGen.Proofs.Document.Fields

namespace EndpointGen

variable {α β : Type}

namespace Reading

@[simp] theorem map_eq_ok_iff {f : α → β} {x : Reading α} {b : β} :
    f <$> x = .ok b ↔ ∃ a, x = .ok a ∧ f a = b := by
  cases x with
  | ok a => simp [Functor.map, map]
  | failed p ps => simp [Functor.map, map]

@[simp] theorem seq_eq_ok_iff {f : Reading (α → β)} {x : Reading α} {b : β} :
    f <*> x = .ok b ↔ ∃ g, f = .ok g ∧ ∃ a, x = .ok a ∧ g a = b := by
  cases f <;> cases x <;> simp [Seq.seq, seq]

theorem ofDecoded_eq_ok_iff {name : String} {x : Except DecodeError α} {a : α} :
    ofDecoded name x = .ok a ↔ x = .ok a := by
  cases x <;> simp [ofDecoded]

end Reading

/-- A field of a written record: what is written, if anything, and what is read as the same value. -/
structure RecordField where
  name : String
  doc? : Option Doc
  reads : Option Doc → Prop

namespace RecordField

def readsOptional (decode : Decoder α) (default value : α) (found : Option Doc) : Prop :=
  (found = none ∧ default = value) ∨ ∃ d, found = some d ∧ decode d = .ok value

def required (name : String) (decode : Decoder α) (toDoc : α → Doc) (value : α) : RecordField :=
  ⟨name, some (toDoc value), fun found => ∃ d, found = some d ∧ decode d = .ok value⟩

/-- An optional field that is written in any case. -/
def kept (name : String) (decode : Decoder α) (default : α) (toDoc : α → Doc) (value : α) :
    RecordField :=
  ⟨name, some (toDoc value), readsOptional decode default value⟩

def list (name : String) (decode : Decoder α) (toDoc : α → Doc) (values : List α) : RecordField :=
  ⟨name, if values.isEmpty then none else some (.array (values.map toDoc)),
    readsOptional (Decode.list decode) [] values⟩

def text (name : String) (value : Option String) : RecordField :=
  ⟨name, value.map .string, readsOptional (Decode.nullable Decode.text) none value⟩

def flag (name : String) (value : Bool) : RecordField :=
  ⟨name, if value then some (.bool true) else none, readsOptional Decode.boolean false value⟩

/-- The field is read as it is written, and is left out exactly where it can be, unless it is one of those
    that are always written. -/
structure Sound (always : List String) (f : RecordField) : Prop where
  reads : f.reads f.doc?
  omitted : f.doc? = none ↔ f.name ∉ always ∧ f.reads none

variable {always : List String} {name : String}

theorem sound_omitted {decode : Decoder α} {default value : α} (hname : name ∉ always)
    (h : default = value) : Sound always ⟨name, none, readsOptional decode default value⟩ :=
  ⟨.inl ⟨rfl, h⟩, iff_of_true rfl ⟨hname, .inl ⟨rfl, h⟩⟩⟩

theorem sound_written {decode : Decoder α} {default value : α} {d : Doc}
    (h : decode d = .ok value) (hne : default ≠ value) :
    Sound always ⟨name, some d, readsOptional decode default value⟩ := by
  refine ⟨.inr ⟨d, rfl, h⟩, ?_⟩
  apply iff_of_false (Option.some_ne_none d)
  rintro ⟨-, ⟨-, heq⟩ | ⟨d', hd', -⟩⟩
  · exact hne heq
  · cases hd'

section Sound

variable {decode : Decoder α} {toDoc : α → Doc} (h : ∀ a, decode (toDoc a) = .ok a)
include h

theorem sound_required (value : α) : (required name decode toDoc value).Sound always := by
  refine ⟨⟨_, rfl, h value⟩, ?_⟩
  apply iff_of_false (Option.some_ne_none _)
  rintro ⟨-, d, hd, -⟩
  cases hd

theorem sound_kept (hname : name ∈ always) (default value : α) :
    (kept name decode default toDoc value).Sound always := by
  refine ⟨.inr ⟨_, rfl, h value⟩, ?_⟩
  apply iff_of_false (Option.some_ne_none _)
  rintro ⟨hnot, -⟩
  exact hnot hname

theorem all_map (values : List α) : Decode.all decode (values.map toDoc) = .ok values := by
  induction values with
  | nil => rfl
  | cons a values ih => simp only [List.map_cons, Decode.all, h a, ih, bind, Except.bind]

theorem sound_list (hname : name ∉ always) (values : List α) :
    (list name decode toDoc values).Sound always := by
  cases values with
  | nil => exact sound_omitted hname rfl
  | cons a values => exact sound_written (all_map h (a :: values)) (List.cons_ne_nil a values).symm

end Sound

theorem sound_text (hname : name ∉ always) (value : Option String) :
    (text name value).Sound always := by
  cases value with
  | none => exact sound_omitted hname rfl
  | some s => exact sound_written rfl (Option.some_ne_none s).symm

theorem sound_flag (hname : name ∉ always) (value : Bool) : (flag name value).Sound always := by
  cases value with
  | false => exact sound_omitted hname rfl
  | true => exact sound_written rfl Bool.false_ne_true

def written (fs : List RecordField) : List (String × Doc) :=
  fs.filterMap fun f => f.doc?.map fun d => (f.name, d)

variable {fs : List RecordField} {f : RecordField}

theorem map_written_sublist (fs : List RecordField) :
    ((written fs).map (·.1)).Sublist (fs.map (·.name)) := by
  induction fs with
  | nil => exact List.Sublist.refl _
  | cons f fs ih =>
      cases hf : f.doc? with
      | none =>
          rw [written, List.filterMap_cons_none (by rw [hf]; rfl)]
          exact ih.cons f.name
      | some d =>
          rw [written, List.filterMap_cons_some (by rw [hf]; rfl)]
          exact ih.cons_cons f.name

theorem lookup_written (hnodup : (fs.map (·.name)).Nodup) (hf : f ∈ fs) :
    (written fs).lookup f.name = f.doc? := by
  have hwritten : ((written fs).map (·.1)).Nodup := hnodup.sublist (map_written_sublist fs)
  cases hdoc : f.doc? with
  | some d =>
      apply lookup_of_mem hwritten
      exact List.mem_filterMap.mpr ⟨f, hf, by rw [hdoc]; rfl⟩
  | none =>
      apply lookup_of_not_mem
      intro hmem
      obtain ⟨⟨name, d⟩, hentry, rfl⟩ := List.mem_map.mp hmem
      obtain ⟨e, he, hdoc'⟩ := List.mem_filterMap.mp hentry
      obtain ⟨d', hd', hpair⟩ := Option.map_eq_some_iff.mp hdoc'
      -- No other field has the name, so that the one that is written is the one that is not.
      obtain rfl := List.inj_on_of_nodup_map hnodup he hf (Prod.mk.inj hpair).1
      rw [hdoc] at hd'
      cases hd'

end RecordField

def FieldSource.without (source : FieldSource) (field : String) : FieldSource :=
  fun name => if name = field then none else source name

namespace FieldSource

variable (source : FieldSource) (name : String) (decode : Decoder α) (value : α)

theorem optional_eq_ok_iff {default : α} : source.optional name decode default = .ok value ↔
    RecordField.readsOptional decode default value (source name) := by
  cases h : source name <;>
    simp [optional, h, Reading.ofDecoded_eq_ok_iff, RecordField.readsOptional]

@[simp] theorem reads_required (toDoc : α → Doc) :
    (RecordField.required name decode toDoc value).reads
        (source (RecordField.required name decode toDoc value).name) ↔
      source.required name decode = .ok value := by
  cases h : source name <;>
    simp [RecordField.required, required, h, Reading.ofDecoded_eq_ok_iff]

@[simp] theorem reads_kept (default : α) (toDoc : α → Doc) :
    (RecordField.kept name decode default toDoc value).reads
        (source (RecordField.kept name decode default toDoc value).name) ↔
      source.optional name decode default = .ok value :=
  (source.optional_eq_ok_iff name decode value).symm

@[simp] theorem reads_list (toDoc : α → Doc) (values : List α) :
    (RecordField.list name decode toDoc values).reads
        (source (RecordField.list name decode toDoc values).name) ↔
      source.optional name (Decode.list decode) [] = .ok values :=
  (source.optional_eq_ok_iff name (Decode.list decode) values).symm

@[simp] theorem reads_text (value : Option String) :
    (RecordField.text name value).reads (source (RecordField.text name value).name) ↔
      source.optional name (Decode.nullable Decode.text) none = .ok value :=
  (source.optional_eq_ok_iff name (Decode.nullable Decode.text) value).symm

@[simp] theorem reads_flag (value : Bool) :
    (RecordField.flag name value).reads (source (RecordField.flag name value).name) ↔
      source.optional name Decode.boolean false = .ok value :=
  (source.optional_eq_ok_iff name Decode.boolean value).symm

end FieldSource

namespace Record

/-- Wherever the value is read from, it is read the same without the field. -/
def Spares (r : Record α) (a : α) (field : String) : Prop :=
  ∀ source, r.read source = .ok a → r.read (source.without field) = .ok a

/-- The object reads back, has fields of the record only, and of these lacks the ones that can be spared,
    apart from some that are always written. -/
structure Writes (r : Record α) (always : List String) (a : α) (d : Doc) : Prop where
  reads : r.decode d = .ok a
  known : ∀ field x, d.field? field = some x → field ∈ r.fields
  omitted : ∀ field ∈ r.fields, d.field? field = none ↔ field ∉ always ∧ r.Spares a field

/-- The fields are those of the record, each read and written on its own. -/
structure Consists (r : Record α) (a : α) (fs : List RecordField) : Prop where
  closed : r.closed = false
  names : fs.map (·.name) = r.fields
  read_iff : ∀ source, r.read source = .ok a ↔ ∀ f ∈ fs, f.reads (source f.name)

namespace Consists

variable {r : Record α} {a : α} {fs : List RecordField} {always : List String}

theorem decode_eq_ok (h : r.Consists a fs) {fields : List (String × Doc)}
    (hread : r.read (fun name => fields.lookup name) = .ok a) : r.decode (.object fields) = .ok a := by
  have hunknown : r.unknownFields fields = [] := by rw [unknownFields, h.closed]; rfl
  rw [decode, ofObject, hread, hunknown]

theorem spares_iff (h : r.Consists a fs) (hnodup : r.fields.Nodup)
    (hread : ∃ source, r.read source = .ok a) {f : RecordField} (hf : f ∈ fs) :
    r.Spares a f.name ↔ f.reads none := by
  rw [← h.names] at hnodup
  constructor
  · intro hspares
    obtain ⟨source, hsource⟩ := hread
    have hreads := (h.read_iff _).mp (hspares source hsource) f hf
    rwa [FieldSource.without, if_pos rfl] at hreads
  · intro hnone source hsource
    apply (h.read_iff _).mpr
    intro e he
    by_cases hname : e.name = f.name
    · obtain rfl := List.inj_on_of_nodup_map hnodup he hf hname
      rwa [FieldSource.without, if_pos rfl]
    · rw [FieldSource.without, if_neg hname]
      exact (h.read_iff source).mp hsource e he

theorem writes (h : r.Consists a fs) (hnodup : r.fields.Nodup) (hsound : ∀ f ∈ fs, f.Sound always) :
    r.Writes always a (.ofFields (RecordField.written fs)) := by
  have hnames : (fs.map (·.name)).Nodup := h.names ▸ hnodup
  have hfield : ∀ name, (Doc.ofFields (RecordField.written fs)).field? name =
      (RecordField.written fs).lookup name :=
    Doc.field?_ofFields (hnames.sublist (RecordField.map_written_sublist fs))
  have hread : r.read (Doc.ofFields (RecordField.written fs)).field? = .ok a := by
    apply (h.read_iff _).mpr
    intro f hf
    rw [hfield, RecordField.lookup_written hnames hf]
    exact (hsound f hf).reads
  refine ⟨h.decode_eq_ok hread, ?_, ?_⟩
  · intro name x hx
    rw [← h.names]
    have hmem : name ∈ (RecordField.written fs).map (·.1) := by
      by_contra hnot
      rw [hfield, lookup_of_not_mem hnot] at hx
      cases hx
    exact (RecordField.map_written_sublist fs).subset hmem
  · intro name hname
    rw [← h.names] at hname
    obtain ⟨f, hf, rfl⟩ := List.mem_map.mp hname
    rw [hfield, RecordField.lookup_written hnames hf, (hsound f hf).omitted,
      h.spares_iff hnodup ⟨_, hread⟩ hf]

end Consists

end Record

end EndpointGen
