import Autosampler.Toml.Marked
import Autosampler.Toml.Scalar
import Autosampler.Toml.Table

/-!
# Settings files

* `readKey` — a key with dots;
* `readValue` — any value; lists and tables inside each other are read down to a depth;
* `Statement`, `readStatements` — a file as headers and keys with values;
* `Statement.apply`, `readDocument` — the entries of a whole file.
-/

namespace Autosampler.Toml

/-! ### Keys -/

/-- A character of a name without quotation marks. -/
def isBare (c : Char) : Bool :=
  Text.isDigit c || ('a' ≤ c && c ≤ 'z') || ('A' ≤ c && c ≤ 'Z') || c = '-' || c = '_'

/-- A name at the front of a text. -/
def readName : List Char → Step (List Char)
  | '"' :: rest => readBasic rest
  | '\'' :: rest => readLiteral rest
  | cs =>
    let name := cs.takeWhile isBare
    if name = [] then none else some (name, cs.drop name.length)

/-- A key of at most `limit` names at the front of a text, with blanks around every name. -/
def readNames : Nat → List Char → Option (Key × List Char)
  | 0, _ => none
  | limit + 1, cs =>
    match readName (cs.dropWhile isBlank) with
    | none => none
    | some (name, rest) =>
      match rest.dropWhile isBlank with
      | '.' :: rest' =>
        (readNames limit rest').map fun r =>
          (⟨String.ofList name :: r.1.path, r.1.name⟩, r.2)
      | rest' => some (⟨[], String.ofList name⟩, rest')

/-- How deep keys and values go. -/
def depthLimit : Nat := 79

/-- A key at the front of a text. -/
def readKey (cs : List Char) : Option (Key × List Char) := readNames depthLimit cs

/-! ### Values -/

/-- The text without the blanks, ends of lines and comments at its front. -/
def skipSpace (cs : List Char) : List Char :=
  match cs with
  | [] => []
  | c :: rest =>
    if isBlank c || c = '\n' then skipSpace rest
    else if c = '\r' then if rest.head? = some '\n' then skipSpace rest else c :: rest
    else if c = '#' then
      have := (List.dropWhile_suffix isText (l := rest)).length_le
      skipSpace (rest.dropWhile isText)
    else c :: rest
termination_by cs.length
decreasing_by
  all_goals simp only [List.length_cons]
  all_goals omega

/-- The items of a list, after its opening bracket, with commas in between; one comma may follow
the last item.  At most `limit` items are read. -/
def readItems (item : List Char → Step Value) : Nat → List Char → Step (List Value)
  | 0, _ => none
  | limit + 1, cs =>
    match skipSpace cs with
    | ']' :: rest => some ([], rest)
    | start =>
      match item start with
      | none => none
      | some (v, rest) =>
        match skipSpace rest with
        | ',' :: rest' => (readItems item limit rest').map fun r => (v :: r.1, r.2)
        | ']' :: rest' => some ([v], rest')
        | _ => none

/-- A key, an equals sign and a value, with blanks around the sign. -/
def readPair? (item : List Char → Step Value) (cs : List Char) : Step (Key × Value) :=
  match readKey cs with
  | some (key, '=' :: rest) => (item (rest.dropWhile isBlank)).map fun r => ((key, r.1), r.2)
  | _ => none

/-- The keys and values of a table inside a line, with commas in between.  At most `limit` of them
are read. -/
def readPairs (item : List Char → Step Value) : Nat → List Char → Step (List (Key × Value))
  | 0, _ => none
  | limit + 1, cs =>
    match readPair? item cs with
    | none => none
    | some (pair, rest) =>
      match rest.dropWhile isBlank with
      | ',' :: rest' => (readPairs item limit rest').map fun r => (pair :: r.1, r.2)
      | '\x7d' :: rest' => some ([pair], rest')
      | _ => none

/-- A table inside a line, after its opening brace. -/
def readInline (item : List Char → Step Value) (cs : List Char) : Step Value :=
  match cs.dropWhile isBlank with
  | '\x7d' :: rest => some (.table [], rest)
  | _ =>
    match readPairs item (cs.length + 1) cs with
    | none => none
    | some (pairs, rest) => (inlineTable? pairs).map fun table => (table, rest)

/-- A value at the front of a text, with at most `depth` lists and tables inside each other. -/
def readValue : Nat → List Char → Step Value
  | 0, cs => readScalar cs
  | depth + 1, cs =>
    match cs with
    | '[' :: rest =>
      (readItems (readValue depth) (rest.length + 1) rest).map fun r => (.list r.1, r.2)
    | '\x7b' :: rest => readInline (readValue depth) rest
    | _ => readScalar cs

/-! ### Lines -/

/-- What a line of a file says. -/
inductive Statement where
  /-- The lines below belong to this table. -/
  | table (key : Key)
  /-- The lines below belong to one more element of this list. -/
  | element (key : Key)
  | entry (key : Key) (value : Value)

/-- The rest of a text after the end of its first line, where nothing but blanks and a comment
may stand. -/
def endLine? (cs : List Char) : Option (List Char) :=
  let cs := cs.dropWhile isBlank
  let cs := match cs with
    | '#' :: rest => rest.dropWhile isText
    | cs => cs
  if cs = [] then some [] else afterNewline? cs

/-- A header, after its opening bracket or brackets. -/
def readHeader (close : List Char) (cs : List Char) : Step Key :=
  match readKey cs with
  | none => none
  | some (key, rest) =>
    if close.isPrefixOf rest then some (key, rest.drop close.length) else none

/-- A statement at the front of a text. -/
def readStatement : List Char → Step Statement
  | '[' :: '[' :: rest => (readHeader [']', ']'] rest).map fun r => (.element r.1, r.2)
  | '[' :: rest => (readHeader [']'] rest).map fun r => (.table r.1, r.2)
  | cs => (readPair? (readValue depthLimit) cs).map fun r => (.entry r.1.1 r.1.2, r.2)

/-- The statements of a text, one on a line, with blank lines and comments in between.  At most
`limit` lines are read. -/
def readStatements : Nat → List Char → Option (List Statement)
  | 0, _ => none
  | limit + 1, cs =>
    if cs = [] then some []
    else
      match endLine? cs with
      | some rest => readStatements limit rest
      | none =>
        match readStatement (cs.dropWhile isBlank) with
        | none => none
        | some (statement, rest) =>
          (endLine? rest).bind fun rest' =>
            (readStatements limit rest').map fun statements => statement :: statements

/-! ### The whole file -/

/-- A file while it is read: the path of the table that lines belong to, and all entries. -/
structure Draft where
  current : List String
  entries : Entries

/-- Follow a statement. -/
def Statement.apply (draft : Draft) : Statement → Option Draft
  | table key => (openTable key draft.entries).map fun entries => ⟨key.names, entries⟩
  | element key => (openElement key draft.entries).map fun entries => ⟨key.names, entries⟩
  | entry key value =>
    (within .path (enter key value) draft.current .header draft.entries).map fun entries =>
      ⟨draft.current, entries⟩

/-- The text without the byte order mark at its front. -/
def dropMark : List Char → List Char
  | [] => []
  | c :: cs => if c.toNat = 0xFEFF then cs else c :: cs

/-- The entries of a file, if its text can be read.  The file itself is no moment. -/
def readDocument (s : String) : Option (List (String × Value)) :=
  let cs := dropMark s.toList
  match readStatements (cs.length + 1) cs with
  | none => none
  | some statements =>
    (statements.foldlM Statement.apply ⟨[], []⟩).bind fun draft =>
      settleEntries (entryValues draft.entries)

end Autosampler.Toml
