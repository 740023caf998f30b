import ClusterLaunch.Json.Token

/-!
The tree of a JSON text, as far as it goes. A fault in the text is a node of the
tree, at the place where it is met, so a reader that walks the tree in order
meets what is wrong with the text and what is wrong with its types in the order
in which they stand. What a text holds after its first fault is not in the tree.
-/

namespace ClusterLaunch.Json

mutual

inductive Tree
  | null
  | bool (value : Bool)
  | number (literal : Numeral)
  | text (content : Except Fault String) (skip : Except Fault Unit)
  | array (items : Items)
  | object (members : Members)
  /-- The text ends where a value has to stand. -/
  | absent
  | broken (read skip : Fault)

/-- The items of an array: closed, stopped by a fault, or one more. After a
comma there always is one more, be it broken. -/
inductive Items
  | closed
  | stopped (fault : Fault)
  | cons (head : Tree) (tail : Items)

/-- The members of an object. What stands for a key is kept as a tree, since it
need not be a string. -/
inductive Members
  | closed
  | stopped (fault : Fault)
  | cons (key value : Tree) (tail : Members)

end

namespace Tree

/-- What a token is in the place of a key; containers are not entered there. -/
def ofKey : Token → Tree
  | .null => .null
  | .bool b => .bool b
  | .number n => .number n
  | .text content skip => .text content skip
  | .openArray => .array .closed
  | .openObject => .object .closed
  | .broken read skip => .broken read skip
  | .comma | .colon | .closeArray | .closeObject => .broken .malformed .malformed

mutual

/-- Reads one value; `fuel` bounds the depth of the calls, of which
no token needs more than four. -/
def value : Nat → List Token → Tree × List Token
  | 0, _ => (.absent, [])
  | _, [] => (.absent, [])
  | fuel + 1, token :: rest =>
      match token with
      | .openArray => let (items, more) := firstItem fuel rest; (.array items, more)
      | .openObject => let (members, more) := firstMember fuel rest; (.object members, more)
      | scalar => (ofKey scalar, rest)

/-- Reads the items of an array after its bracket. -/
def firstItem : Nat → List Token → Items × List Token
  | 0, _ => (.stopped .ended, [])
  | _, [] => (.stopped .ended, [])
  | _ + 1, .closeArray :: rest => (.closed, rest)
  | fuel + 1, tokens => item fuel tokens

/-- Reads an item and those after it. -/
def item : Nat → List Token → Items × List Token
  | 0, _ => (.stopped .ended, [])
  | fuel + 1, tokens =>
      let (head, rest) := value fuel tokens
      let (tail, more) := nextItem fuel rest
      (.cons head tail, more)

def nextItem : Nat → List Token → Items × List Token
  | 0, _ => (.stopped .ended, [])
  | _, [] => (.stopped .ended, [])
  | fuel + 1, token :: rest =>
      match token with
      | .closeArray => (.closed, rest)
      | .comma => item fuel rest
      | _ => (.stopped .malformed, [])

/-- Reads the members of an object after its brace. -/
def firstMember : Nat → List Token → Members × List Token
  | 0, _ => (.stopped .ended, [])
  | _, [] => (.stopped .ended, [])
  | _ + 1, .closeObject :: rest => (.closed, rest)
  | fuel + 1, tokens => member fuel tokens

/-- Reads a member and those after it. -/
def member : Nat → List Token → Members × List Token
  | 0, _ => (.stopped .ended, [])
  | _, [] => (.cons .absent .absent .closed, [])
  | fuel + 1, token :: rest =>
      match rest with
      | [] => (.cons (ofKey token) .absent .closed, [])
      | .colon :: rest =>
          let (held, rest) := value fuel rest
          let (tail, more) := nextMember fuel rest
          (.cons (ofKey token) held tail, more)
      | _ :: _ => (.cons (ofKey token) (.broken .malformed .malformed) .closed, [])

def nextMember : Nat → List Token → Members × List Token
  | 0, _ => (.stopped .ended, [])
  | _, [] => (.stopped .ended, [])
  | fuel + 1, token :: rest =>
      match token with
      | .closeObject => (.closed, rest)
      | .comma => member fuel rest
      | _ => (.stopped .malformed, [])

end

def ofText (text : String) : Tree × List Token :=
  let tokens := Token.list text.toList
  value (4 * (tokens.length + 1)) tokens

end Tree

mutual

/-- Passes over a value, finding what keeps it from being JSON. -/
def Tree.skip : Tree → Except Fault Unit
  | .null => .ok ()
  | .bool _ => .ok ()
  | .number _ => .ok ()
  | .text _ skip => skip
  | .array items => items.skip
  | .object members => members.skip
  | .absent => .error .ended
  | .broken _ skip => .error skip

def Items.skip : Items → Except Fault Unit
  | .closed => .ok ()
  | .stopped fault => .error fault
  | .cons head tail =>
      match head.skip with
      | .ok _ => tail.skip
      | .error fault => .error fault

def Members.skip : Members → Except Fault Unit
  | .closed => .ok ()
  | .stopped fault => .error fault
  | .cons key value tail =>
      match key, value.skip with
      | .text _ (.ok _), .ok _ => tail.skip
      | .text _ (.ok _), .error fault => .error fault
      | .text _ (.error fault), _ => .error fault
      | .absent, _ => .error .ended
      | _, _ => .error .malformed

end

end ClusterLaunch.Json
