-- YAML documents: nodes in blocks told by their columns, nodes in brackets, and the
-- one document that a text may hold.
import Chassis.Document.Yaml.Scalar
import Chassis.Document.Yaml.Scan

namespace Chassis.Document.Yaml

open Scan

/-! ## Keys, names and tags -/

/-- The value of a word, if it has one. -/
def wordValue (word : String) : Scan Value :=
  match resolve? word with
  | some content => return .plain content
  | none => failure

/-- The value of a word that a tag claims to be of some kind. -/
def taggedValue (tag word : String) : Scan Value :=
  match tag, resolve? word with
  | "!!int", some (.integer n) => return .plain (.integer n)
  | "!!float", some (.integer n) =>
    return .plain (.number (Decimal.Binary64.ofRatio (n < 0) n.natAbs 1))
  | "!!float", some (.number x) => return .plain (.number x)
  | "!!bool", some (.boolean b) => return .plain (.boolean b)
  | "!!int", _ | "!!float", _ | "!!bool", _ | "!!null", _ => return .plain .nil
  | _, _ => return .ofText word

/-- The name after the mark of a name, an alias or a tag. -/
def label : Scan String := do
  let cs := (← rest).takeWhile fun c => !isSpace c && c ≠ '\n' && !isBracket c
  skip cs.length
  return String.ofList cs

def remember (name : String) (value : Value) : Scan Unit := do
  let place ← get
  set { place with named := (name, value) :: place.named }

/-- The value that was remembered under a name. -/
def labelled (name : String) : Scan Value := do
  match Table.get? (← get).named name with
  | some value => return value
  | none => failure

/-- The key that starts here, taken together with its colon, if there is one. -/
def entryKey? : Scan (Option String) := do
  let here ← get
  let key ← match ← rest with
    | '"' :: _ => (some <$> quotedScalar '"')
    | '\'' :: _ => (some <$> quotedScalar '\'')
    | cs =>
      if startsPlain false cs then do
        let part ← plainLine false
        pure (keyOf? (String.ofList part))
      else pure none
  skipSpaces
  match key, ← rest with
  | some key, ':' :: after =>
    if startsBlank after then
      skip 1
      return some key
    else
      set here
      return none
  | _, _ =>
    set here
    return none

/-- Nothing but a comment stands on the rest of the line. -/
def lineIsOver : Scan Bool := do
  skipSpaces
  match ← rest with
  | [] => return true
  | c :: _ => return c = '\n' || c = '#'

/-- A mark that a blank follows. -/
def startsWithMark (mark : Char) (cs : List Char) : Bool :=
  match cs with
  | c :: after => c = mark && startsBlank after
  | [] => false

/-- The key after a question mark in a column. It has its lines for itself. -/
def ownKey (at0 : Nat) : Scan String := do
  skip 1
  if ← lineIsOver then
    gap
    require (at0 < (← column))
  match ← rest with
  | '|' :: _ => blockScalar at0
  | '>' :: _ => blockScalar at0
  | '"' :: _ => quotedScalar '"' <* lineEnd
  | '\'' :: _ => quotedScalar '\'' <* lineEnd
  | cs => do
    require (startsPlain false cs)
    let first ← plainLine false
    let more ← plainMore false at0 ((← rest).length + 1)
    lineEnd
    match keyOf? (String.ofList (first ++ more)) with
    | some key => return key
    | none => failure

/-- How the value of a key follows: after a colon in the same line, after one that starts a
line of its own, or not at all. -/
inductive Follows where
  | inLine
  | inOwnLine
  | never

/-- The key that starts in a column, taken together with its colon, if there is one. -/
def blockKey? (at0 : Nat) : Scan (Option (String × Follows)) := do
  if startsWithMark '?' (← rest) then
    let key ← ownKey at0
    let here ← get
    gap
    match ← rest with
    | ':' :: after =>
      if (← column) = at0 && startsBlank after then
        skip 1
        return some (key, .inOwnLine)
      else
        set here
        return some (key, .never)
    | _ =>
      set here
      return some (key, .never)
  else return (← entryKey?).map fun key => (key, .inLine)

/-! ## Nodes in brackets -/

/-- A question mark before a key in brackets, if there is one. -/
def keyMark : Scan Bool := do
  let marked := startsWithMark '?' (← rest)
  if marked then
    skip 1
    gap
  return marked

mutual

/-- A node within brackets, and the key that it is if it can be one. -/
def bracketNode : Nat → Scan (Value × Option String)
  | 0 => failure
  | fuel + 1 => do
    gap
    match ← rest with
    | '[' :: _ => do
      skip 1
      return (.list none (← bracketItems fuel), none)
    | '\x7b' :: _ => do
      skip 1
      return (.table (← bracketMembers fuel []), none)
    | '"' :: _ => do
      let s ← quotedScalar '"'
      return (.ofText s, some s)
    | '\'' :: _ => do
      let s ← quotedScalar '\''
      return (.ofText s, some s)
    | '*' :: _ => do
      skip 1
      return (← labelled (← label), none)
    | '&' :: _ => do
      skip 1
      let name ← label
      let node ← bracketNode fuel
      remember name node.1
      return node
    | cs => do
      require (startsPlain true cs)
      let first ← plainLine true
      let word := String.ofList (first ++ (← plainMore true (-1) ((← rest).length + 1)))
      return (← wordValue word, keyOf? word)

/-- The items of a list in brackets; an item may be a pair, which is a table of its own. -/
def bracketItems : Nat → Scan (List Value)
  | 0 => failure
  | fuel + 1 => do
    gap
    if (← rest).head? = some ']' then
      skip 1
      return []
    let marked ← keyMark
    let (item, key) ← bracketNode fuel
    let item ← bracketPair fuel marked item key
    gap
    match ← next with
    | ',' => return item :: (← bracketItems fuel)
    | ']' => return [item]
    | _ => failure

/-- The pair that a node is the key of, which a question mark before it says, or else a colon
after it; or the node itself. -/
def bracketPair : Nat → Bool → Value → Option String → Scan Value
  | 0, _, _, _ => failure
  | fuel + 1, marked, item, key => do
    gap
    match marked, ← rest, key with
    | true, _, some key => return .table [(key, ← bracketValue fuel)]
    | true, _, none => failure
    | false, ':' :: _, some key => do
      skip 1
      return .table [(key, (← bracketNode fuel).1)]
    | false, _, _ => return item

def bracketMembers : Nat → Table → Scan Table
  | 0, _ => failure
  | fuel + 1, entries => do
    gap
    if (← rest).head? = some '\x7d' then
      skip 1
      return entries
    let _ ← keyMark
    let (_, key) ← bracketNode fuel
    match key with
    | none => failure
    | some key =>
      require (!entries.has key)
      gap
      let value ← bracketValue fuel
      let entries := entries ++ [(key, value)]
      gap
      match ← next with
      | ',' => bracketMembers fuel entries
      | '\x7d' => return entries
      | _ => failure

/-- The value after a key in brackets, nil if there is none. -/
def bracketValue : Nat → Scan Value
  | 0 => failure
  | fuel + 1 => do
    match ← rest with
    | ':' :: _ => do
      skip 1
      gap
      match ← rest with
      | ',' :: _ => return .plain .nil
      | '\x7d' :: _ => return .plain .nil
      | ']' :: _ => return .plain .nil
      | _ => return (← bracketNode fuel).1
    | _ => return .plain .nil

end

/-! ## Nodes in blocks -/

/-- The text of the document ends here, or a mark says so. -/
def atDocumentEnd : Scan Bool := do
  let cs ← rest
  return cs.isEmpty || ((← column) = 0 && (startsMark "---" cs || startsMark "..." cs))

mutual

/-- A node that starts here; what belongs to it is indented by more than `parent`.
Only where a line begins may a table or a list of hyphens start. -/
def node : Nat → Int → Bool → Option String → Scan Value
  | 0, _, _, _ => failure
  | fuel + 1, parent, opens, tag => do
    let cs ← rest
    match cs with
    | '&' :: _ => do
      skip 1
      let name ← label
      let value ← marked fuel parent opens tag
      remember name value
      return value
    | '!' :: _ => do
      let tag ← label
      marked fuel parent opens (some tag)
    | '*' :: _ => do
      skip 1
      let value ← labelled (← label)
      lineEnd
      return value
    | '|' :: _ => return .ofText (← blockScalar parent)
    | '>' :: _ => return .ofText (← blockScalar parent)
    | '[' :: _ => do
      let (value, _) ← bracketNode fuel
      lineEnd
      return value
    | '\x7b' :: _ => do
      let (value, _) ← bracketNode fuel
      lineEnd
      return value
    | _ =>
      if startsWithMark '-' cs then
        require opens
        return .list none (← itemsAt fuel (← column))
      else if opens then
        let at0 ← column
        match ← blockKey? at0 with
        | some (key, follows) => return .table (← entriesAt fuel at0 key follows [])
        | none => scalar parent tag
      else scalar parent tag

/-- A scalar, which takes the rest of its last line. -/
def scalar (parent : Int) (tag : Option String) : Scan Value := do
  match ← rest with
  | '"' :: _ => do
    let s ← quotedScalar '"'
    lineEnd
    return .ofText s
  | '\'' :: _ => do
    let s ← quotedScalar '\''
    lineEnd
    return .ofText s
  | cs => do
    require (startsPlain false cs)
    let first ← plainLine false
    let word := String.ofList (first ++ (← plainMore false parent ((← rest).length + 1)))
    lineEnd
    match tag with
    | some tag => taggedValue tag word
    | none => wordValue word

/-- The node after a name or a tag, on the same line or on the next ones. -/
def marked : Nat → Int → Bool → Option String → Scan Value
  | 0, _, _, _ => failure
  | fuel + 1, parent, opens, tag => do
    if ← lineIsOver then
      gap
      if (← atDocumentEnd) || ((← column) : Int) ≤ parent then
        return if tag = some "!!str" then .ofText "" else .plain .nil
      else node fuel parent true tag
    else node fuel parent opens tag

/-- The items of a list of hyphens in a column. -/
def itemsAt : Nat → Nat → Scan (List Value)
  | 0, _ => failure
  | fuel + 1, at0 => do
    skip 1
    let item ← itemValue fuel at0
    gap
    if ← atDocumentEnd then return [item]
    let now ← column
    if now = at0 && startsWithMark '-' (← rest) then return item :: (← itemsAt fuel at0)
    else
      require (now ≤ at0)
      return [item]

/-- The node after a hyphen, nil if there is none. -/
def itemValue : Nat → Nat → Scan Value
  | 0, _ => failure
  | fuel + 1, at0 => do
    if ← lineIsOver then
      gap
      if !(← atDocumentEnd) && at0 < (← column) then node fuel at0 true none else return .plain .nil
    else node fuel at0 true none

/-- The entries of a table in a column, the first of which has this key. -/
def entriesAt : Nat → Nat → String → Follows → Table → Scan Table
  | 0, _, _, _, _ => failure
  | fuel + 1, at0, key, follows, entries => do
    require (!entries.has key)
    let value ← entryValue fuel at0 follows
    let entries := entries ++ [(key, value)]
    gap
    if ← atDocumentEnd then return entries
    let now ← column
    if now = at0 then
      match ← blockKey? at0 with
      | some (key, follows) => entriesAt fuel at0 key follows entries
      | none => failure
    else
      require (now < at0)
      return entries

/-- The node after a key, nil if there is none. A list of hyphens may stand in the
column of the key, and a table after a colon that starts its line. -/
def entryValue : Nat → Nat → Follows → Scan Value
  | 0, _, _ => failure
  | _, _, .never => return .plain .nil
  | fuel + 1, at0, follows => do
    if ← lineIsOver then
      gap
      if ← atDocumentEnd then return .plain .nil
      let now ← column
      if at0 < now then node fuel at0 true none
      else if now = at0 && startsWithMark '-' (← rest) then return .list none (← itemsAt fuel at0)
      else return .plain .nil
    else node fuel at0 (follows matches .inOwnLine) none

end

/-! ## Documents -/

/-- The lines before a document: directives and its mark. Says whether there is a document. -/
def opening : Nat → Scan Bool
  | 0 => failure
  | fuel + 1 => do
    gap
    let cs ← rest
    match cs with
    | [] => return false
    | '%' :: _ => do
      skipLine
      opening fuel
    | _ =>
      if (← column) = 0 && startsMark "---" cs then
        skip 3
        return true
      else return true

/-- The end of a text: nothing follows the document. -/
def closing : Scan Unit := do
  gap
  if startsMark "..." (← rest) then
    skip 3
    lineEnd
    gap
  require (← rest).isEmpty

/-- The only document of a text; a text without one is an empty table. -/
def document : Scan Value := do
  let fuel := 2 * (← rest).length + 4
  if ← opening fuel then
    let value ← marked fuel (-1) true none
    closing
    return value
  else return .table []

def read? (s : String) : Option Table :=
  match document.run ⟨0, unifyLines s.toList, []⟩ with
  | some (.table entries, _) => some entries
  | _ => none

end Chassis.Document.Yaml
