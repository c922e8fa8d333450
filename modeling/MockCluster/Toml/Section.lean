import MockCluster.Toml.Value

/-!
# TOML tables under construction

A document builds its tables bit by bit: a header opens a table or adds one to an array of tables, and dotted keys open
tables on the way. A table that was only named on the way to another one is *implicit*, and one that a dotted key opened
is *dotted*. What is defined once cannot be defined again: a header may open an implicit table that is not dotted, and
dotted keys may add to tables that dotted keys have opened.
-/

namespace MockCluster.Toml

/-- Something in a table under construction. -/
inductive Node where
  /-- A value; nothing can be added to it. -/
  | value (v : Toml)
  /-- A table. -/
  | table (isImplicit isDotted : Bool) (items : List (String × Node))
  /-- An array of tables. -/
  | tables (items : List (List (String × Node)))
  deriving Inhabited

/-- A table under construction. -/
structure Section where
  isImplicit : Bool
  isDotted : Bool
  items : List (String × Node)
  deriving Inhabited

namespace Section

/-- A table that was defined and holds nothing yet. -/
def empty : Section := ⟨false, false, []⟩

/-- A table that is opened on the way to another one. -/
def onTheWay (isDotted : Bool) : Section := ⟨true, isDotted, []⟩

/-- What stands under a key. -/
def get? (s : Section) (key : String) : Option Node := (s.items.find? (·.1 = key)).map (·.2)

/-- Puts something under a key. -/
def put (s : Section) (key : String) (node : Node) : Section :=
  if s.items.any (·.1 = key) then
    { s with items := s.items.map fun (k, old) => if k = key then (k, node) else (k, old) }
  else { s with items := s.items ++ [(key, node)] }

/-- The table as something in another table. -/
def node (s : Section) : Node := .table s.isImplicit s.isDotted s.items

/-- Changes the table at the end of a path. Missing tables are opened on the way, and an array of tables stands for its
last table. A path of dotted keys may not lead through a table that was defined otherwise. -/
def descend (isDotted : Bool) (f : Section → Option Section) : List String → Section → Option Section
  | [], s => f s
  | key :: path, s =>
    match s.get? key with
    | none => (descend isDotted f path (onTheWay isDotted)).map fun child => s.put key child.node
    | some (.value _) => none
    | some (.tables tables) =>
      match tables.getLast? with
      | none => none
      | some last =>
        (descend isDotted f path ⟨false, false, last⟩).map fun child =>
          s.put key (.tables (tables.dropLast ++ [child.items]))
    | some (.table isImplicit wasDotted items) =>
      if isDotted ∧ !isImplicit then none
      else
        (descend isDotted f path ⟨isImplicit, wasDotted, items⟩).map fun child => s.put key child.node

/-- Defines a value under a dotted key, given as its path and its last part. -/
def define (s : Section) (path : List String) (key : String) (v : Toml) : Option Section :=
  s.descend true (fun s =>
    if s.isDotted = path.isEmpty ∨ (s.get? key).isSome then none
    else some (s.put key (.value v))) path

/-- What a table already holds when a header opens it. -/
def opened (s : Section) (path : List String) (key : String) : Option Section :=
  match path with
  | [] =>
    match s.get? key with
    | none => some empty
    | some (.table true false items) => some ⟨false, false, items⟩
    | some _ => none
  | first :: path =>
    match s.get? first with
    | none => some empty
    | some (.value _) => none
    | some (.tables tables) =>
      match tables.getLast? with
      | none => none
      | some last => opened ⟨false, false, last⟩ path key
    | some (.table isImplicit isDotted items) => opened ⟨isImplicit, isDotted, items⟩ path key

/-- Puts a table that a header opened into its place. -/
def close (s : Section) (path : List String) (key : String) (child : Section) : Option Section :=
  s.descend false (fun s => some (s.put key child.node)) path

/-- Adds a table to the array of tables in its place. -/
def append (s : Section) (path : List String) (key : String) (child : Section) : Option Section :=
  s.descend false (fun s =>
    match s.get? key with
    | none => some (s.put key (.tables [child.items]))
    | some (.tables tables) => some (s.put key (.tables (tables ++ [child.items])))
    | some _ => none) path

end Section

mutual
/-- The finished value. -/
def Node.finish : Node → Toml
  | .value v => v
  | .table _ _ items => .table (finishItems items)
  | .tables tables => .array (finishTables tables)
/-- The finished fields. -/
def finishItems : List (String × Node) → List (String × Toml)
  | [] => []
  | (key, node) :: rest => (key, node.finish) :: finishItems rest
/-- The finished tables. -/
def finishTables : List (List (String × Node)) → List Toml
  | [] => []
  | items :: rest => .table (finishItems items) :: finishTables rest
end

end MockCluster.Toml
