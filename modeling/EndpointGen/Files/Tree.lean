/- File trees: files and directories by location, as the commands see and change them. Whatever is put into a
   tree, each of its entries is in a directory. -/
import EndpointGen.Files.Path
import EndpointGen.Text.Utf8

namespace EndpointGen

inductive FileError where
  | notFound
  | isADirectory
  | notADirectory
  | alreadyExists
  | invalidData
  | invalidFilename
  | invalidInput
deriving DecidableEq, Repr

def FileError.text : FileError → String
  | .notFound => "NotFound"
  | .isADirectory => "IsADirectory"
  | .notADirectory => "NotADirectory"
  | .alreadyExists => "AlreadyExists"
  | .invalidData => "InvalidData"
  | .invalidFilename => "InvalidFilename"
  | .invalidInput => "InvalidInput"

/-- What a file holds: text, or bytes that are not text. -/
inductive Content where
  | text (s : String)
  | binary (bytes : List UInt8)
deriving DecidableEq, Repr

namespace Content

def ofBytes (bytes : List UInt8) : Content :=
  match Text.Utf8.text? bytes with
  | some s => .text s
  | none => .binary bytes

end Content

inductive Entry where
  | file (content : Content)
  | directory
deriving DecidableEq, Repr

/-- A place seen from the working directory: names downwards, after `..` upwards or `/`. -/
abbrev Location := List String

namespace Location

/-- The working directory, the directories above it and the root are always there. -/
def isGiven (l : Location) : Bool := l.all (· == "..") || l == ["/"]

def parent (l : Location) : Location :=
  if l == ["/"] then l
  else if l.all (· == "..") then l ++ [".."]
  else l.dropLast

def path : Location → String
  | "/" :: names => "/" ++ String.intercalate "/" names
  | names => String.intercalate "/" names

variable {entries : List (Location × Entry)} {l m : Location}

/-- The entry at a location; of two that are listed there the first counts. -/
def entryIn? (entries : List (Location × Entry)) (l : Location) : Option Entry :=
  if isGiven l then some .directory else entries.lookup l

/-- The entries with one more, which replaces what is listed at its location. -/
def insertIn (entries : List (Location × Entry)) (l : Location) (e : Entry) :
    List (Location × Entry) :=
  (l, e) :: entries.filter fun x => x.1 != l

theorem lookup_filter_ne (hne : m ≠ l) :
    (entries.filter fun x => x.1 != l).lookup m = entries.lookup m := by
  induction entries with
  | nil => rfl
  | cons x entries ih =>
      obtain ⟨k, e⟩ := x
      by_cases hk : k = l
      · subst hk
        simp [ih, List.lookup_cons, beq_false_of_ne hne]
      · simp [hk, ih, List.lookup_cons]

theorem entryIn?_insertIn_self (e : Entry) (h : isGiven l = false) :
    entryIn? (insertIn entries l e) l = some e := by
  rw [entryIn?, h]
  exact List.lookup_cons_self

theorem entryIn?_insertIn_of_ne (e : Entry) (hne : m ≠ l) :
    entryIn? (insertIn entries l e) m = entryIn? entries m := by
  unfold entryIn? insertIn
  rw [List.lookup_cons, beq_false_of_ne hne, lookup_filter_ne hne]

end Location

/-- Files and directories, each of them in a directory. -/
structure FileTree where
  entries : List (Location × Entry)
  grounded : ∀ x ∈ entries, Location.entryIn? entries x.1.dropLast = some .directory
deriving Repr

namespace FileTree

variable {t : FileTree} {l : Location}

def empty : FileTree := ⟨[], nofun⟩

def entry? (t : FileTree) (l : Location) : Option Entry := Location.entryIn? t.entries l

/-- There is room for an entry right inside a directory, and where no directory would give way to it. -/
def HasRoom (t : FileTree) (l : Location) : Prop :=
  t.entry? l.dropLast = some .directory ∧ t.entry? l ≠ some .directory

instance (t : FileTree) (l : Location) : Decidable (t.HasRoom l) :=
  inferInstanceAs (Decidable (_ ∧ _))

/-- No directory gives way to what is put where there is room. -/
theorem directory_insertIn {m : Location} (h : t.HasRoom l) (e : Entry)
    (hm : t.entry? m = some .directory) :
    Location.entryIn? (Location.insertIn t.entries l e) m = some .directory := by
  have hne : m ≠ l := fun heq => h.2 (heq ▸ hm)
  rw [Location.entryIn?_insertIn_of_ne e hne]
  exact hm

theorem grounded_insertIn (h : t.HasRoom l) (e : Entry) :
    ∀ x ∈ Location.insertIn t.entries l e,
      Location.entryIn? (Location.insertIn t.entries l e) x.1.dropLast = some .directory := by
  intro x hx
  apply directory_insertIn h e
  cases List.mem_cons.mp hx with
  | inl hfirst => exact hfirst ▸ h.1
  | inr hrest => exact t.grounded x (List.mem_filter.mp hrest).1

/-- Puts an entry where there is room for it; without room the tree stays as it is. -/
def set (t : FileTree) (l : Location) (e : Entry) : FileTree :=
  if h : t.HasRoom l then ⟨Location.insertIn t.entries l e, grounded_insertIn h e⟩ else t

theorem isGiven_of_hasRoom (h : t.HasRoom l) : Location.isGiven l = false := by
  rw [← Bool.not_eq_true]
  intro hgiven
  exact h.2 (if_pos hgiven)

theorem entry?_set_self (h : t.HasRoom l) (e : Entry) : entry? (t.set l e) l = some e := by
  rw [set, dif_pos h]
  exact Location.entryIn?_insertIn_self e (isGiven_of_hasRoom h)

theorem entry?_set_of_ne {m : Location} (hne : m ≠ l) (e : Entry) :
    entry? (t.set l e) m = t.entry? m := by
  unfold set
  split
  · exact Location.entryIn?_insertIn_of_ne e hne
  · rfl

def longestName : Nat := 255

def longestPath : Nat := 4095

/-- One step down a path: only a directory can be entered. -/
def step (t : FileTree) (l : Location) (name : String) : Except FileError Location :=
  match t.entry? l with
  | none => .error .notFound
  | some (.file _) => .error .notADirectory
  | some .directory =>
    if name = ".." then .ok (Location.parent l)
    else if longestName < name.utf8ByteSize then .error .invalidFilename
    else .ok (l ++ [name])

def walk (t : FileTree) : Location → List String → Except FileError Location
  | l, [] => .ok l
  | l, name :: rest =>
    match t.step l name with
    | .ok l => t.walk l rest
    | .error e => .error e

def startOf (path : String) : Location :=
  if path.toList.head? = some '/' then ["/"] else []

/-- The location that a path leads to; its last name need not exist. -/
def locate (t : FileTree) (path : String) : Except FileError Location :=
  if path = "" then .error .notFound
  else if path.toList.contains '\x00' then .error .invalidInput
  else if longestPath < path.utf8ByteSize then .error .invalidFilename
  else t.walk (startOf path) ((Path.names path).filter fun name => !Path.isIdle name)

/-- The path ends in a slash or a dot, so that only a directory can be meant. -/
def endsIdle (path : String) : Bool :=
  match (Path.names path).reverse with
  | name :: _ :: _ => Path.isIdle name
  | _ => false

def status (t : FileTree) (path : String) : Except FileError Entry :=
  match t.locate path with
  | .error e => .error e
  | .ok l =>
    match t.entry? l with
    | none => .error .notFound
    | some .directory => .ok .directory
    | some (.file c) => if endsIdle path then .error .notADirectory else .ok (.file c)

def pathExists (t : FileTree) (path : String) : Bool :=
  match t.status path with
  | .ok _ => true
  | .error _ => false

def isDirectory (t : FileTree) (path : String) : Bool :=
  match t.status path with
  | .ok .directory => true
  | _ => false

def read (t : FileTree) (path : String) : Except FileError String :=
  match t.status path with
  | .ok (.file (.text s)) => .ok s
  | .ok (.file (.binary _)) => .error .invalidData
  | .ok .directory => .error .isADirectory
  | .error e => .error e

def write (t : FileTree) (path text : String) : Except FileError FileTree :=
  match t.locate path with
  | .error e => .error e
  | .ok l =>
    match t.entry? l with
    | some .directory => .error .isADirectory
    | _ =>
      if endsIdle path then .error .isADirectory else .ok (t.set l (.file (.text text)))

/-- The last name between slashes is a dot, so that the path names nothing new. -/
def endsInDot (path : String) : Bool :=
  ((Path.names path).reverse.find? fun name => name != "") == some "."

def makeDirectory (t : FileTree) (path : String) : Except FileError FileTree :=
  match t.locate path with
  | .error e => .error e
  | .ok l =>
    match t.entry? l with
    | some (.file _) => .error (if endsInDot path then .notADirectory else .alreadyExists)
    | some .directory => .error .alreadyExists
    | none => if endsInDot path then .error .notFound else .ok (t.set l .directory)

/-- The missing directories below the first that is there or can be made, innermost first. -/
def makeHighest (t : FileTree) : List String → List String →
    Except FileError (FileTree × List String)
  | missing, [] => .ok (t, missing)
  | missing, path :: above =>
    if path = "" then .ok (t, missing)
    else match t.makeDirectory path with
      | .ok t => .ok (t, missing)
      | .error .notFound => makeHighest t (path :: missing) above
      | .error .alreadyExists =>
        if t.isDirectory path then .ok (t, missing) else .error .alreadyExists
      | .error e => .error e

/-- Makes directories from the outermost to the innermost up to the first failure; one that is
    there already is kept. -/
def makeEach (t : FileTree) : List String → FileTree × Option FileError
  | [] => (t, none)
  | path :: rest =>
    match t.makeDirectory path with
    | .ok t => t.makeEach rest
    | .error e =>
      if e = .alreadyExists ∧ t.isDirectory path = true then t.makeEach rest else (t, some e)

/-- Makes a directory with all directories above it that are missing; what was made stays, also
    where a later one fails. -/
def makeDirectories (t : FileTree) (path : String) : FileTree × Option FileError :=
  match t.makeHighest [] (Path.ancestors path) with
  | .ok (t, missing) => t.makeEach missing
  | .error e => (t, some e)

/-- Puts a file with the directories above it. -/
def place (t : FileTree) (path : String) (content : Content) : FileTree :=
  let names := (Path.names path).filter fun name => !Path.isIdle name
  let above := (List.range names.length).map fun n => names.take n
  -- A file on the way is kept, and there is no room below it.
  let t := above.foldl (fun t l => if (t.entry? l).isSome then t else t.set l .directory) t
  t.set names (.file content)

/-- The entries that are new or different since an earlier tree, a directory before what is in it. -/
def news (before after : FileTree) : List (Location × Entry) :=
  after.entries.reverse.filter fun e => before.entries.lookup e.1 != some e.2

end FileTree

end EndpointGen
