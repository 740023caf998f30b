import ClusterLaunch.Json.Reader
import ClusterLaunch.Proofs.Json.Tokens

/-!
The tree of a text. A tree without a fault is made of tokens, and a text with these tokens,
and no other, is read as that tree. The tree of a value's text holds the parts of the value
in their order, so a reader of either text answers what it answers on that tree.
-/

namespace ClusterLaunch.Json

/-! Trees without a fault. -/

mutual

def Tree.tokens : Tree → List Token
  | .null => [.null]
  | .bool b => [.bool b]
  | .number n => [.number n]
  | .text content skip => [.text content skip]
  | .array items => .openArray :: items.tokens []
  | .object members => .openObject :: members.tokens []
  | .absent => []
  | .broken read skip => [.broken read skip]

/-- The tokens of items, the first of them behind `lead`, and the closing bracket. -/
def Items.tokens : Items → List Token → List Token
  | .closed, _ => [.closeArray]
  | .stopped _, _ => []
  | .cons head tail, lead => lead ++ (head.tokens ++ tail.tokens [.comma])

/-- The tokens of members, the first of them behind `lead`, and the closing brace. -/
def Members.tokens : Members → List Token → List Token
  | .closed, _ => [.closeObject]
  | .stopped _, _ => []
  | .cons key value tail, lead =>
      lead ++ (key.tokens ++ .colon :: (value.tokens ++ tail.tokens [.comma]))

end

mutual

/-- All brackets are closed, all keys are strings and nothing is broken. -/
def Tree.Closed : Tree → Prop
  | .array items => items.Closed
  | .object members => members.Closed
  | .absent => False
  | .broken _ _ => False
  | .null => True
  | .bool _ => True
  | .number _ => True
  | .text _ _ => True

def Items.Closed : Items → Prop
  | .closed => True
  | .stopped _ => False
  | .cons head tail => head.Closed ∧ tail.Closed

def Members.Closed : Members → Prop
  | .closed => True
  | .stopped _ => False
  | .cons key value tail =>
      (∃ content skip, key = .text content skip) ∧ value.Closed ∧ tail.Closed

end

namespace Tree

/-- A tree without a fault does not begin with a closing bracket. -/
theorem Closed.exists_tokens_eq {tree : Tree} (h : tree.Closed) :
    ∃ token more, tree.tokens = token :: more ∧ token ≠ .closeArray := by
  cases tree <;> simp_all [tokens, Closed]

theorem firstItem_of_ne (fuel : Nat) {token : Token} (htoken : token ≠ .closeArray)
    (rest : List Token) : firstItem (fuel + 1) (token :: rest) = item fuel (token :: rest) := by
  cases token <;> first | rfl | contradiction

theorem firstItem_tokens (fuel : Nat) {tree : Tree} (h : tree.Closed) (rest : List Token) :
    firstItem (fuel + 1) (tree.tokens ++ rest) = item fuel (tree.tokens ++ rest) := by
  obtain ⟨token, more, heq, htoken⟩ := h.exists_tokens_eq
  rw [heq, List.cons_append, firstItem_of_ne fuel htoken]

theorem item_of_value {fuel : Nat} {head : Tree} {tail : Items} {tokens more rest : List Token}
    (hhead : value fuel tokens = (head, more)) (htail : nextItem fuel more = (tail, rest)) :
    item (fuel + 1) tokens = (.cons head tail, rest) := by
  simp only [item, hhead, htail]

theorem member_of_value {fuel : Nat} {held : Tree} {tail : Members}
    {tokens more rest : List Token} (hheld : value fuel tokens = (held, more))
    (htail : nextMember fuel more = (tail, rest)) (content : Except Fault String)
    (skip : Except Fault Unit) :
    member (fuel + 1) (.text content skip :: .colon :: tokens) =
      (.cons (.text content skip) held tail, rest) := by
  simp only [member, hheld, htail, ofKey]

mutual

/-- The tokens of a tree are read back, whatever follows them; fuel that is enough is
four times their number. -/
theorem value_tokens {tree : Tree} (h : tree.Closed) (rest : List Token) {fuel : Nat}
    (hfuel : 4 * tree.tokens.length ≤ fuel) : value fuel (tree.tokens ++ rest) = (tree, rest) := by
  obtain ⟨fuel, rfl⟩ : ∃ n, fuel = n + 3 := by
    obtain ⟨token, more, heq, -⟩ := h.exists_tokens_eq
    exact ⟨fuel - 3, by rw [heq, List.length_cons] at hfuel; omega⟩
  cases tree with
  | absent => cases h
  | broken => cases h
  | array items =>
      cases items with
      | stopped => cases h
      | closed =>
          simp only [tokens, Items.tokens, List.cons_append, List.nil_append, value, firstItem]
      | cons head tail =>
          obtain ⟨hhead, htail⟩ := h
          simp only [tokens, Items.tokens, List.nil_append, List.length_cons,
            List.length_append] at hfuel
          have hfirst := item_of_value
            (value_tokens hhead (tail.tokens [.comma] ++ rest) (by omega : _ ≤ fuel))
            (nextItem_tokens htail rest (by omega : _ ≤ fuel))
          simp only [tokens, Items.tokens, List.cons_append, List.nil_append, List.append_assoc,
            value, firstItem_tokens _ hhead, hfirst]
  | object members =>
      cases members with
      | stopped => cases h
      | closed =>
          simp only [tokens, Members.tokens, List.cons_append, List.nil_append, value,
            firstMember]
      | cons key held tail =>
          obtain ⟨⟨content, skip, rfl⟩, hheld, htail⟩ := h
          simp only [tokens, Members.tokens, List.nil_append, List.length_cons,
            List.length_append] at hfuel
          have hfirst := member_of_value
            (value_tokens hheld (tail.tokens [.comma] ++ rest) (by omega : _ ≤ fuel))
            (nextMember_tokens htail rest (by omega : _ ≤ fuel)) content skip
          simp only [tokens, Members.tokens, List.cons_append, List.nil_append,
            List.append_assoc, value, firstMember, hfirst]
  | _ => simp only [tokens, List.singleton_append, value, ofKey]

/-- An item that is not the first is behind a comma, and a first one behind a bracket: each
takes one token more than its value has, which pays for the calls on the way to it. -/
theorem nextItem_tokens {items : Items} (h : items.Closed) (rest : List Token) {fuel : Nat}
    (hfuel : 4 * (items.tokens [.comma]).length ≤ fuel) :
    nextItem fuel (items.tokens [.comma] ++ rest) = (items, rest) := by
  match items with
  | .closed =>
      obtain ⟨fuel, rfl⟩ : ∃ n, fuel = n + 1 := ⟨fuel - 1, by simp [Items.tokens] at hfuel; omega⟩
      simp only [Items.tokens, List.singleton_append, nextItem]
  | .cons head tail =>
      obtain ⟨hhead, htail⟩ := h
      simp only [Items.tokens, List.length_cons, List.length_append, List.length_nil] at hfuel
      obtain ⟨fuel, rfl⟩ : ∃ n, fuel = n + 2 := ⟨fuel - 2, by omega⟩
      have hitem := item_of_value
        (value_tokens hhead (tail.tokens [.comma] ++ rest) (by omega : _ ≤ fuel))
        (nextItem_tokens htail rest (by omega : _ ≤ fuel))
      simp only [Items.tokens, List.cons_append, List.nil_append, List.append_assoc, nextItem,
        hitem]

theorem nextMember_tokens {members : Members} (h : members.Closed) (rest : List Token)
    {fuel : Nat} (hfuel : 4 * (members.tokens [.comma]).length ≤ fuel) :
    nextMember fuel (members.tokens [.comma] ++ rest) = (members, rest) := by
  match members with
  | .closed =>
      obtain ⟨fuel, rfl⟩ : ∃ n, fuel = n + 1 := ⟨fuel - 1, by simp [Members.tokens] at hfuel; omega⟩
      simp only [Members.tokens, List.singleton_append, nextMember]
  | .cons key held tail =>
      obtain ⟨⟨content, skip, rfl⟩, hheld, htail⟩ := h
      simp only [Members.tokens, List.length_cons, List.length_append, List.length_nil] at hfuel
      obtain ⟨fuel, rfl⟩ : ∃ n, fuel = n + 2 := ⟨fuel - 2, by omega⟩
      have hmember := member_of_value
        (value_tokens hheld (tail.tokens [.comma] ++ rest) (by omega : _ ≤ fuel))
        (nextMember_tokens htail rest (by omega : _ ≤ fuel)) content skip
      simp only [Members.tokens, tokens, List.cons_append, List.nil_append, List.append_assoc,
        nextMember, hmember]

end

mutual

/-- A value without a fault takes just the tokens of its tree. -/
theorem tokens_of_value {fuel : Nat} {tokens rest : List Token} {tree : Tree}
    (h : value fuel tokens = (tree, rest)) (hclosed : tree.Closed) :
    tokens = tree.tokens ++ rest := by
  match fuel, tokens with
  | 0, _ | _ + 1, [] =>
      cases h
      cases hclosed
  | fuel + 1, token :: more =>
      cases token with
      | openArray =>
          rcases hitems : firstItem fuel more with ⟨items, after⟩
          simp only [value, hitems] at h
          cases h
          rw [tokens_of_firstItem hitems hclosed, Tree.tokens, List.cons_append]
      | openObject =>
          rcases hmembers : firstMember fuel more with ⟨members, after⟩
          simp only [value, hmembers] at h
          cases h
          rw [tokens_of_firstMember hmembers hclosed, Tree.tokens, List.cons_append]
      | null | bool | number | text =>
          cases h
          rfl
      | _ =>
          cases h
          cases hclosed

theorem tokens_of_firstItem {fuel : Nat} {tokens rest : List Token} {items : Items}
    (h : firstItem fuel tokens = (items, rest)) (hclosed : items.Closed) :
    tokens = items.tokens [] ++ rest := by
  match fuel, tokens with
  | 0, _ | _ + 1, [] =>
      cases h
      cases hclosed
  | fuel + 1, token :: more =>
      by_cases htoken : token = .closeArray
      · subst htoken
        cases h
        rfl
      · rw [firstItem_of_ne fuel htoken] at h
        exact tokens_of_item h hclosed []

theorem tokens_of_item {fuel : Nat} {tokens rest : List Token} {items : Items}
    (h : item fuel tokens = (items, rest)) (hclosed : items.Closed) (lead : List Token) :
    lead ++ tokens = items.tokens lead ++ rest := by
  match fuel with
  | 0 =>
      cases h
      cases hclosed
  | fuel + 1 =>
      rcases hhead : value fuel tokens with ⟨head, more⟩
      rcases htail : nextItem fuel more with ⟨tail, after⟩
      rw [item_of_value hhead htail] at h
      cases h
      rw [tokens_of_value hhead hclosed.1, tokens_of_nextItem htail hclosed.2, Items.tokens]
      simp only [List.append_assoc]

theorem tokens_of_nextItem {fuel : Nat} {tokens rest : List Token} {items : Items}
    (h : nextItem fuel tokens = (items, rest)) (hclosed : items.Closed) :
    tokens = items.tokens [.comma] ++ rest := by
  match fuel, tokens with
  | 0, _ | _ + 1, [] =>
      cases h
      cases hclosed
  | fuel + 1, token :: more =>
      cases token with
      | comma => exact tokens_of_item h hclosed [.comma]
      | closeArray =>
          cases h
          rfl
      | _ =>
          cases h
          cases hclosed

theorem tokens_of_firstMember {fuel : Nat} {tokens rest : List Token} {members : Members}
    (h : firstMember fuel tokens = (members, rest)) (hclosed : members.Closed) :
    tokens = members.tokens [] ++ rest := by
  match fuel, tokens with
  | 0, _ | _ + 1, [] =>
      cases h
      cases hclosed
  | fuel + 1, token :: more =>
      by_cases htoken : token = .closeObject
      · subst htoken
        cases h
        rfl
      · have hfirst : firstMember (fuel + 1) (token :: more) = member fuel (token :: more) := by
          cases token <;> first | rfl | contradiction
        exact tokens_of_member (hfirst ▸ h) hclosed []

theorem tokens_of_member {fuel : Nat} {tokens rest : List Token} {members : Members}
    (h : member fuel tokens = (members, rest)) (hclosed : members.Closed) (lead : List Token) :
    lead ++ tokens = members.tokens lead ++ rest := by
  match fuel, tokens with
  | 0, _ =>
      cases h
      cases hclosed
  | _ + 1, [] | _ + 1, [_] =>
      cases h
      exact absurd hclosed.2.1 id
  | fuel + 1, token :: second :: tokens =>
      by_cases hcolon : second = .colon
      · subst hcolon
        rcases hheld : value fuel tokens with ⟨held, more⟩
        rcases htail : nextMember fuel more with ⟨tail, after⟩
        simp only [member, hheld, htail] at h
        cases h
        obtain ⟨⟨content, skip, hkey⟩, hvalue, hrest⟩ := hclosed
        have htoken : (ofKey token).tokens = [token] := by
          cases token <;> first | rfl | cases hkey
        rw [tokens_of_value hheld hvalue, tokens_of_nextMember htail hrest, Members.tokens, htoken]
        simp only [List.append_assoc, List.cons_append, List.nil_append]
      · have hbroken : member (fuel + 1) (token :: second :: tokens) =
            (.cons (ofKey token) (.broken .malformed .malformed) .closed, []) := by
          cases second <;> first | rfl | contradiction
        rw [hbroken] at h
        cases h
        exact absurd hclosed.2.1 id

theorem tokens_of_nextMember {fuel : Nat} {tokens rest : List Token} {members : Members}
    (h : nextMember fuel tokens = (members, rest)) (hclosed : members.Closed) :
    tokens = members.tokens [.comma] ++ rest := by
  match fuel, tokens with
  | 0, _ | _ + 1, [] =>
      cases h
      cases hclosed
  | fuel + 1, token :: more =>
      cases token with
      | comma => exact tokens_of_member h hclosed [.comma]
      | closeObject =>
          cases h
          rfl
      | _ =>
          cases h
          cases hclosed

end

def IsOf (tree : Tree) (text : String) : Prop :=
  tree.Closed ∧ Token.list text.toList = tree.tokens

theorem ofText_of_isOf {tree : Tree} {text : String} (h : tree.IsOf text) :
    ofText text = (tree, []) := by
  have hvalue := value_tokens h.1 [] (Nat.mul_le_mul_left 4 (Nat.le_succ tree.tokens.length))
  rw [List.append_nil] at hvalue
  simp only [ofText, h.2, hvalue]

theorem isOf_of_ofText {tree : Tree} {text : String} (h : ofText text = (tree, []))
    (hclosed : tree.Closed) : tree.IsOf text :=
  ⟨hclosed, (tokens_of_value h hclosed).trans (List.append_nil _)⟩

end Tree

variable {α : Type}

/-- A text of a tree is read as the tree is. -/
theorem readDocument_of_isOf {tree : Tree} {text : String} (h : tree.IsOf text)
    (read : Tree → Except Fault α) : readDocument read text = read tree := by
  simp only [readDocument, Tree.ofText_of_isOf h]
  cases read tree <;> rfl

/-- Of a text only its tokens are read. -/
theorem readDocument_congr {text other : String}
    (h : Token.list text.toList = Token.list other.toList) (read : Tree → Except Fault α) :
    readDocument read text = readDocument read other := by
  have htree : Tree.ofText text = Tree.ofText other := by simp only [Tree.ofText, h]
  rw [readDocument, readDocument, htree]

/-! Trees of values. -/

mutual

def tree : Json → Tree
  | .null => .null
  | .bool b => .bool b
  | .number n => .number (.ofNat n)
  | .text s => .text (.ok s) (.ok ())
  | .array items => .array (itemTrees items)
  | .object members => .object (memberTrees members)

def itemTrees : List Json → Items
  | [] => .closed
  | head :: tail => .cons head.tree (itemTrees tail)

def memberTrees : List (String × Json) → Members
  | [] => .closed
  | (key, value) :: tail => .cons (.text (.ok key) (.ok ())) value.tree (memberTrees tail)

end

mutual

theorem closed_tree (json : Json) : json.tree.Closed := by
  match json with
  | .null | .bool _ | .number _ | .text _ => trivial
  | .array items => exact closed_itemTrees items
  | .object members => exact closed_memberTrees members

theorem closed_itemTrees (items : List Json) : (itemTrees items).Closed := by
  match items with
  | [] => trivial
  | head :: tail => exact ⟨closed_tree head, closed_itemTrees tail⟩

theorem closed_memberTrees (members : List (String × Json)) : (memberTrees members).Closed := by
  match members with
  | [] => trivial
  | (_, held) :: tail => exact ⟨⟨_, _, rfl⟩, closed_tree held, closed_memberTrees tail⟩

end

mutual

theorem tokens_tree (json : Json) : json.tree.tokens = json.tokens := by
  match json with
  | .null | .bool _ | .number _ | .text _ => rfl
  | .array [] | .object [] => rfl
  | .array (head :: tail) =>
      rw [tree, Tree.tokens, tokens_itemTrees (head :: tail) nofun, tokens, List.nil_append]
  | .object (head :: tail) =>
      rw [tree, Tree.tokens, tokens_memberTrees (head :: tail) nofun, tokens, List.nil_append]

theorem tokens_itemTrees (items : List Json) (hitems : items ≠ []) (lead : List Token) :
    (itemTrees items).tokens lead = lead ++ itemTokens items := by
  match items with
  | [] => contradiction
  | [last] => simp only [itemTrees, Items.tokens, itemTokens, tokens_tree last]
  | head :: second :: tail =>
      have htail := tokens_itemTrees (second :: tail) nofun [.comma]
      simp only [itemTrees, Items.tokens, itemTokens, tokens_tree head] at htail ⊢
      rw [htail, List.singleton_append]

theorem tokens_memberTrees (members : List (String × Json)) (hmembers : members ≠ [])
    (lead : List Token) : (memberTrees members).tokens lead = lead ++ memberTokens members := by
  match members with
  | [] => contradiction
  | [(key, held)] =>
      simp only [memberTrees, Members.tokens, memberTokens, Tree.tokens, tokens_tree held,
        List.cons_append, List.nil_append]
  | (key, held) :: second :: tail =>
      have htail := tokens_memberTrees (second :: tail) nofun [.comma]
      simp only [memberTrees, Members.tokens, memberTokens, Tree.tokens, tokens_tree held,
        List.cons_append, List.nil_append] at htail ⊢
      rw [htail]

end

theorem tree_isOf {text : String} {json : Json} (h : Token.list text.toList = json.tokens) :
    json.tree.IsOf text :=
  ⟨closed_tree json, h.trans (tokens_tree json).symm⟩

theorem tree_isOf_compress (json : Json) : json.tree.IsOf json.compress := by
  have hlist := Token.list_compact json Token.apart_nil
  rw [List.append_nil, Token.list_nil, List.append_nil] at hlist
  exact tree_isOf (by rw [compress, String.toList_ofList, hlist])

theorem tree_isOf_pretty (json : Json) : json.tree.IsOf json.pretty := by
  have hlist := Token.list_spread 0 json Token.apart_nil
  rw [List.append_nil, Token.list_nil, List.append_nil] at hlist
  exact tree_isOf (by rw [pretty, String.toList_ofList, hlist])

theorem readDocument_compress (read : Tree → Except Fault α) (json : Json) :
    readDocument read json.compress = read json.tree :=
  readDocument_of_isOf json.tree_isOf_compress read

theorem readDocument_pretty (read : Tree → Except Fault α) (json : Json) :
    readDocument read json.pretty = read json.tree :=
  readDocument_of_isOf json.tree_isOf_pretty read

theorem readDocument_pretty_line (read : Tree → Except Fault α) (json : Json) :
    readDocument read (json.pretty ++ "\n") = read json.tree := by
  have hlist := Token.list_spread 0 json (Token.apart_mark (by decide : '\n' ∈ _) [])
  rw [Token.list_of_isGap rfl, Token.list_nil, List.append_nil] at hlist
  exact readDocument_of_isOf
    (tree_isOf (by rw [pretty, String.toList_append, String.toList_ofList]; exact hlist)) read

end ClusterLaunch.Json
