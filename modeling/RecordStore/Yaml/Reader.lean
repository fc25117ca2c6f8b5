import RecordStore.Yaml.Node
import RecordStore.Yaml.Token

/-!
Reads the values of a file from its tokens.  A mapping gives each name once, and names are texts or
integers; anything else is refused.
-/
namespace RecordStore.Yaml

/-- Tokens still to be read, and the values that were given a name. -/
structure Unread where
  tokens : List Token
  named : List (List Char × Node)

namespace Unread

/-- The same with other tokens. -/
def go (u : Unread) (ts : List Token) : Unread := { u with tokens := ts }

/-- The same with a value under a name, if there is a name. -/
def give (u : Unread) (name : Option (List Char)) (n : Node) : Unread :=
  { u with named := (name.map (·, n)).toList ++ u.named }

/-- What stands in front of a value: a name that it is given, and its kind. -/
def properties (u : Unread) : Option (List Char) × Option (Option (List Char)) × Unread :=
  match u.tokens with
  | .anchor a :: .tag k :: ts => (some a, some k, u.go ts)
  | .tag k :: .anchor a :: ts => (some a, some k, u.go ts)
  | .anchor a :: ts => (some a, none, u.go ts)
  | .tag k :: ts => (none, some k, u.go ts)
  | _ => (none, none, u)

end Unread

/-- The scalar without quote marks of a text, by its kind if that is told. -/
def Node.ofText? (kind : Option (Option (List Char))) (text : List Char) : Option Node :=
  match kind with
  | none => Node.ofPlain? (String.ofList text)
  | some none => some (.text (String.ofList text))
  | some (some k) => Node.ofKind? (String.ofList k) (String.ofList text)

/-- The members with one more behind them, unless its name was given before. -/
def addMember? (ms : List (Name × Node)) (key value : Node) : Option (List (Name × Node)) :=
  key.name?.bind fun name =>
    if ms.any fun m => m.1 == name then none else some (ms ++ [(name, value)])

mutual

/-- The value that comes next, and what follows it.  `block` tells whether it may be a block, and
`items` whether items may follow that stand as far left as the name they belong to. -/
def node? (block items : Bool) : Nat → Unread → Option (Node × Unread)
  | 0, _ => none
  | fuel + 1, u =>
    match u.tokens with
    | .alias a :: ts => (u.named.lookup a).map (·, u.go ts)
    | _ => do
      let (name, kind, u) := u.properties
      -- a value stands for null within itself
      let u := u.give name .null
      let (n, v) ←
        match u.tokens with
        | .item :: _ =>
          if items then (leftItems? fuel u).map fun (ns, v) => (.sequence ns, v)
          else if name.isSome ∨ kind.isSome then (Node.ofText? kind []).map (·, u)
          else none
        | .plain text :: ts => (Node.ofText? kind text).map (·, u.go ts)
        | .quoted text :: ts => some (.text (String.ofList text), u.go ts)
        | .squareOpen :: ts => (listed? fuel (u.go ts)).map fun (ns, v) => (.sequence ns, v)
        | .curlyOpen :: ts => (bracedMembers? fuel [] (u.go ts)).map fun (ms, v) => (.mapping ms, v)
        | .blockSequence :: ts =>
          if block then (blockItems? fuel (u.go ts)).map fun (ns, v) => (.sequence ns, v) else none
        | .blockMapping :: ts =>
          if block then (blockMembers? fuel [] (u.go ts)).map fun (ms, v) => (.mapping ms, v)
          else none
        | _ =>
          if name.isSome ∨ kind.isSome then (Node.ofText? kind []).map (·, u) else none
      return (n, v.give name n)

/-- The items of a block. -/
def blockItems? : Nat → Unread → Option (List Node × Unread)
  | 0, _ => none
  | fuel + 1, u =>
    match u.tokens with
    | .blockEnd :: ts => some ([], u.go ts)
    | .item :: ts => do
      let (n, v) ←
        match ts with
        | .item :: _ | .blockEnd :: _ => some (.null, u.go ts)
        | _ => node? true false fuel (u.go ts)
      let (ns, w) ← blockItems? fuel v
      return (n :: ns, w)
    | _ => none

/-- Items that stand as far left as the name that they belong to. -/
def leftItems? : Nat → Unread → Option (List Node × Unread)
  | 0, _ => none
  | fuel + 1, u =>
    match u.tokens with
    | .item :: ts => do
      let (n, v) ←
        match ts with
        | .item :: _ | .key :: _ | .value :: _ | .blockEnd :: _ => some (.null, u.go ts)
        | _ => node? true false fuel (u.go ts)
      let (ns, w) ← leftItems? fuel v
      return (n :: ns, w)
    | _ => some ([], u)

/-- The members of a block, behind those that were read. -/
def blockMembers? : Nat → List (Name × Node) → Unread → Option (List (Name × Node) × Unread)
  | 0, _, _ => none
  | fuel + 1, ms, u =>
    match u.tokens with
    | .blockEnd :: ts => some (ms, u.go ts)
    | .key :: ts => do
      let (key, v) ← node? true true fuel (u.go ts)
      let (value, w) ←
        match v.tokens with
        | .value :: ts =>
          match ts with
          | .key :: _ | .value :: _ | .blockEnd :: _ => some (.null, v.go ts)
          | _ => node? true true fuel (v.go ts)
        | _ => some (.null, v)
      blockMembers? fuel (← addMember? ms key value) w
    | _ => none

/-- The items of a list in brackets.  A name with a value is a mapping of its own. -/
def listed? : Nat → Unread → Option (List Node × Unread)
  | 0, _ => none
  | fuel + 1, u =>
    match u.tokens with
    | .squareClose :: ts => some ([], u.go ts)
    | _ => do
      let (n, v) ←
        match u.tokens with
        | .key :: ts => do
          let (key, value, v) ← bracedMember? fuel (u.go ts)
          pure (.mapping (← addMember? [] key value), v)
        | _ => node? false false fuel u
      match v.tokens with
      | .squareClose :: ts => return ([n], v.go ts)
      | .comma :: ts =>
        let (ns, w) ← listed? fuel (v.go ts)
        return (n :: ns, w)
      | _ => none

/-- The members of a mapping in brackets, behind those that were read.  One without a colon has no
value. -/
def bracedMembers? : Nat → List (Name × Node) → Unread → Option (List (Name × Node) × Unread)
  | 0, _, _ => none
  | fuel + 1, ms, u =>
    match u.tokens with
    | .curlyClose :: ts => some (ms, u.go ts)
    | _ => do
      let (key, value, v) ←
        match u.tokens with
        | .key :: ts => bracedMember? fuel (u.go ts)
        | _ => (node? false false fuel u).map fun (key, v) => (key, .null, v)
      let ms ← addMember? ms key value
      match v.tokens with
      | .curlyClose :: ts => return (ms, v.go ts)
      | .comma :: ts => bracedMembers? fuel ms (v.go ts)
      | _ => none

/-- A name within brackets, and its value. -/
def bracedMember? : Nat → Unread → Option (Node × Node × Unread)
  | 0, _ => none
  | fuel + 1, u => do
    let (key, v) ← node? false false fuel u
    match v.tokens with
    | .value :: ts =>
      match ts with
      | .comma :: _ | .curlyClose :: _ | .squareClose :: _ => return (key, .null, v.go ts)
      | _ =>
        let (value, w) ← node? false false fuel (v.go ts)
        return (key, value, w)
    | _ => return (key, .null, v)

end

/-- The documents of a file.  One that nothing announces stands at the start of the file or behind
the end of another. -/
def documents? (size : Nat) : Nat → (fresh : Bool) → Unread → Option (List Node)
  | 0, _, _ => none
  | fuel + 1, fresh, u => do
    let ts := u.tokens.dropWhile (· == .documentEnd)
    let behind := ts.dropWhile (· == .directive)
    let (n, v) ←
      match ts, behind with
      | [], _ => return []
      | _, .documentStart :: rest =>
        match rest with
        | [] | .directive :: _ | .documentStart :: _ | .documentEnd :: _ => some (.null, u.go rest)
        | _ => node? true false size (u.go rest)
      | .directive :: _, _ => none
      | _, _ => if fresh then node? true false size (u.go ts) else none
    match v.tokens with
    | .documentEnd :: rest => return n :: (← documents? size fuel true (v.go rest))
    | .directive :: _ => none
    | _ => return n :: (← documents? size fuel false v)

/-- The mapping that a file holds.  A file without a document holds an empty one; several documents,
or one of another kind, are refused. -/
def read? (text : String) : Option (List (Name × Node)) := do
  let ts ← tokens? text
  match ← documents? (4 * ts.length + 4) (ts.length + 1) true ⟨ts, []⟩ with
  | [] => return []
  | [.mapping ms] => return ms
  | _ => none

end RecordStore.Yaml
