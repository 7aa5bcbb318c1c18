import Gatehouse.Toml.Syntax

/-!
# Assembling a TOML document

The tables of a document are built line by line.  A key-value line goes into the table of the
last header, its dotted key leading through tables made on the way; a header first stores the
table before it under its path and then opens its own table.  `[a.b]` opens a table, and
`[[a.b]]` adds one more table to an array of tables.

The rules that keep a document unambiguous are checked as the lines come:

* a key is given at most once in a table;
* a dotted key may lead only through tables that dotted keys made, never through a value;
* a header may name a table only once, except a table that was merely implied before;
* an array of tables is only ever extended by `[[…]]` headers.
-/

namespace Gatehouse.Toml

/-- Why a document breaks the rules. -/
inductive Conflict where
  /-- The key is given twice; `table` is the path of the table in question, when known. -/
  | duplicateKey (key : String) (table : Option (List String))
  /-- A dotted key leads through a value of this type. -/
  | extendsValue (path : List String) (actual : String)
  deriving DecidableEq, Repr

/-- The wording of each conflict. -/
def Conflict.message : Conflict → String
  | .duplicateKey k none => "duplicate key `" ++ k ++ "`"
  | .duplicateKey k (some []) => "duplicate key `" ++ k ++ "` in document root"
  | .duplicateKey k (some path) =>
    "duplicate key `" ++ k ++ "` in table `" ++ ".".intercalate path ++ "`"
  | .extendsValue path actual =>
    "dotted key `" ++ ".".intercalate path ++ "` attempted to extend non-table type ("
      ++ actual ++ ")"

/-- Whether a character may stand in a bare key. -/
def isBareKeyChar (c : Char) : Bool :=
  c.isAlphanum && c.toNat < 128 || c == '-' || c == '_'

/-- The four hex digits of a control character, in upper case. -/
def controlEscape (c : Char) : String :=
  let digit (n : Nat) : Char := if n < 10 then Char.ofNat (48 + n) else Char.ofNat (55 + n)
  let n := c.toNat
  String.ofList ['\\', 'u', digit (n / 4096 % 16), digit (n / 256 % 16), digit (n / 16 % 16), digit (n % 16)]

/-- A character inside a basic string as it is written back. -/
def escapeInBasic (c : Char) : String :=
  if c = '\x08' then "\\b"
  else if c = '\t' then "\\t"
  else if c = '\n' then "\\n"
  else if c = '\x0c' then "\\f"
  else if c = '\r' then "\\r"
  else if c = '"' then "\\\""
  else if c = '\\' then "\\\\"
  else if c.toNat ≤ 0x1F ∨ c.toNat = 0x7F then controlEscape c
  else String.singleton c

/-- Whether a key name can be written between single quotes on one line as it is: no single
quote and no control character but tab. -/
def fitsLiteral (name : String) : Bool :=
  !name.any (fun c => c == '\'' || (c.toNat ≤ 0x1F && c != '\t') || c.toNat == 0x7F)

/-- A key name as it is written back: bare when it can be; between single quotes when it holds
a double quote or a backslash and fits there; else as a basic string. -/
def keyText (name : String) : String :=
  if !name.isEmpty && name.toList.all isBareKeyChar then name
  else if (name.any (fun c => c == '"' || c == '\\')) && fitsLiteral name then
    "'" ++ name ++ "'"
  else "\"" ++ String.join (name.toList.map escapeInBasic) ++ "\""

/-- The conflict of a key given twice, at position `i` of a header path. -/
def duplicateAt (path : List Key) (i : Nat) : Conflict :=
  .duplicateKey (keyText (path.getD i ⟨"", ⟨0, 0⟩⟩).name) (some ((path.take i).map (·.name)))

/-- The table an entry holds, to go into when following a path: the last table of an array. -/
def Item.asTable? : Item → Option Table
  | .table es sp im dt => some ⟨es, sp, im, dt⟩
  | .tables list _ =>
    match list.getLast? with
    | some (.table es sp im dt) => some ⟨es, sp, im, dt⟩
    | _ => none
  | .value _ => none

/-- Puts a table back where `Item.asTable?` took it from. -/
def Item.withTable : Item → Table → Item
  | .tables list span, t => .tables (list.dropLast ++ [t.toItem]) span
  | _, t => t.toItem

/-- Follows `path` from table `t`, making implied tables where nothing is (dotted ones when
`dotted`), and changes the table reached by `f`.  `whole` is the full path, and `depth` the
number of its keys already followed, for the wording of a conflict. -/
def Table.descend {α : Type} (t : Table) (whole : List Key) (depth : Nat) (dotted : Bool)
    (f : Table → Except Conflict (Table × α)) : List Key → Except Conflict (Table × α)
  | [] => f t
  | k :: rest =>
    let item := (t.get? k.name).getD (Item.table [] none true dotted)
    match item with
    | .value v => .error (.extendsValue ((whole.take (depth + 1)).map (·.name)) v.typeName)
    | _ =>
      match item.asTable? with
      | none => .error (duplicateAt whole depth)
      | some child =>
        let isTable : Bool := match item with
          | .table .. => true
          | _ => false
        if dotted && !child.implicit && isTable then
          .error (.duplicateKey k.name none)
        else
          match child.descend whole (depth + 1) dotted f rest with
          | .error e => .error e
          | .ok (child', a) => .ok (t.set k (item.withTable child'), a)

/-- The state of assembly: the stored tables, the table being filled with its path, and
whether it belongs to an array of tables. -/
structure Assembly where
  root : Table := {}
  current : Table := { implicit := true }
  path : List Key := []
  inArray : Bool := false
  started : Bool := false

namespace Assembly

/-- Adds a key-value line to the current table: `path` leads to the table that gets `key`. -/
def addKeyValue (a : Assembly) (path : List Key) (key : Key) (v : Value) : Except Conflict Assembly :=
  let current :=
    match a.current.span, v.span? with
    | some existing, some vs => { a.current with span := some ⟨existing.start, vs.stop⟩ }
    | _, _ => a.current
  let tablePath := a.path.map (·.name)
  let put (t : Table) : Except Conflict (Table × Unit) :=
    if t.dotted == path.isEmpty then .error (.duplicateKey key.name none)
    else if t.contains key.name then .error (.duplicateKey key.name (some tablePath))
    else .ok ({ t with entries := t.entries ++ [(key, .value v)] }, ())
  match current.descend path 0 true put path with
  | .ok (t, ()) => .ok { a with current := t }
  | .error e => .error e

/-- Stores the current table under its path. -/
def finish (a : Assembly) : Except Conflict Assembly :=
  let t := a.current
  let rest := { a with current := {}, path := [] }
  match a.path.getLast? with
  | none => .ok { rest with root := t, started := true }
  | some key =>
    let parentPath := a.path.dropLast
    let store (parent : Table) : Except Conflict (Table × Unit) :=
      if a.inArray then
        match parent.get? key.name with
        | none =>
          .ok (parent.set key (.tables [t.toItem] t.span), ())
        | some (.tables list _) =>
          let list := list ++ [t.toItem]
          let span :=
            match (list.head?.bind Item.span?), (list.getLast?.bind Item.span?) with
            | some first, some last => some ⟨first.start, last.stop⟩
            | _, _ => none
          .ok (parent.set key (.tables list span), ())
        | some _ => .error (duplicateAt a.path (a.path.length - 1))
      else
        match parent.get? key.name with
        | none => .ok (parent.set key t.toItem, ())
        | some (.table _ _ true _) => .ok (parent.set key t.toItem, ())
        | some _ => .error (duplicateAt a.path (a.path.length - 1))
    match a.root.descend a.path 0 false store parentPath with
    | .ok (root, ()) => .ok { rest with root := root }
    | .error e => .error e

/-- Opens the table of a `[path]` header written at `span`. -/
def openTable (a : Assembly) (path : List Key) (span : Span) : Except Conflict Assembly :=
  match a.finish with
  | .error e => .error e
  | .ok a =>
    match path.getLast? with
    | none => .ok a
    | some key =>
      let take (parent : Table) : Except Conflict (Table × Table) :=
        match parent.get? key.name with
        | none => .ok (parent, {})
        | some (.table es sp true false) => .ok (parent.erase key.name, ⟨es, sp, true, false⟩)
        | some _ => .error (duplicateAt path (path.length - 1))
      match a.root.descend path 0 false take path.dropLast with
      | .error e => .error e
      | .ok (root, adopted) =>
        .ok { a with root := root, path := path, inArray := false,
                     current := { adopted with span := some span, implicit := false,
                                               dotted := false } }

/-- Opens a new table of the array of tables of a `[[path]]` header written at `span`. -/
def openArrayTable (a : Assembly) (path : List Key) (span : Span) : Except Conflict Assembly :=
  match a.finish with
  | .error e => .error e
  | .ok a =>
    match path.getLast? with
    | none => .ok a
    | some key =>
      let check (parent : Table) : Except Conflict (Table × Unit) :=
        match parent.get? key.name with
        | none => .ok (parent.set key (.tables [] none), ())
        | some (.tables ..) => .ok (parent, ())
        | some _ => .error (duplicateAt path (path.length - 1))
      match a.root.descend path 0 false check path.dropLast with
      | .error e => .error e
      | .ok (root, ()) =>
        .ok { a with root := root, path := path, inArray := true,
                     current := { span := some span } }

/-- The document once every line is read. -/
def close (a : Assembly) : Except Conflict Table :=
  match a.finish with
  | .ok a => .ok a.root
  | .error e => .error e

end Assembly

end Gatehouse.Toml
