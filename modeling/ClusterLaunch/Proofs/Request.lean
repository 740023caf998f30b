import ClusterLaunch.Proofs.Document
import ClusterLaunch.Proofs.Json.Frame

/-!
Requests are read alike, however their texts are laid out. A request is a record that holds
others: its order, the options of the order, and its inputs. Blanks between tokens make no
difference to it, nor does it matter how any of these records is laid out. A member that one
of them knows must not be given twice.
-/

namespace ClusterLaunch

open Json

/-! Records that pass over what they do not know. -/

theorem Assignment.isOpen : record.IsOpen := ⟨rfl, by decide⟩

theorem Options.isOpen : record.IsOpen := ⟨rfl, by decide⟩

theorem Order.isOpen : record.IsOpen := ⟨rfl, by decide⟩

theorem Request.isOpen : record.IsOpen := ⟨rfl, by decide⟩

theorem Assignment.closes : Closes record.read :=
  Record.closes ⟨closes_text, closes_text, trivial⟩

theorem Options.closes : Closes record.read :=
  Record.closes ⟨closes_text.optional, closes_word32.optional, closes_word32.optional,
    closes_word32.optional, closes_text.optional, closes_text.optional, closes_text.optional,
    closes_text.optional, closes_text.optional, closes_text.list, trivial⟩

theorem Order.closes : Closes record.read :=
  Record.closes ⟨closes_variant _, Options.closes, closes_word64.optional, trivial⟩

namespace Request

theorem closes : Closes record.read :=
  Record.closes ⟨closes_text, closes_text, closes_text, closes_text, closes_text,
    Assignment.closes.list, closes_text.list, closes_text, Order.closes, trivial⟩

/-- The places of the records in a request: its own, that of its order, that of the options in
the order, and those of its inputs. -/
inductive Place : {α : Type} → Record α → (Tree → Tree) → Prop
  | request : Place Request.record id
  | order {frame : Tree → Tree} (h : Frame "job" 8 frame) : Place Order.record frame
  | options {frame inner : Tree → Tree} (h : Frame "job" 8 frame)
      (hinner : Frame "options" 1 inner) : Place Options.record fun part => frame (inner part)
  | input {frame : Tree → Tree} (h : Frame "env_inputs" 5 frame) (before after : List Tree) :
      Place Assignment.record fun part => frame (.array (.ofList (before ++ part :: after)))

/-- The same request, laid out in another text. -/
inductive Relaid : String → String → Prop
  /-- With blanks between two tokens, or at one of the ends. -/
  | spaced {front back gaps : List Char} (hbetween : Token.Boundary front back)
      (hgaps : ∀ c ∈ gaps, Token.isGap c = true) :
      Relaid (String.ofList (front ++ back)) (String.ofList (front ++ (gaps ++ back)))
  /-- With one of its records laid out in another way. -/
  | within {α : Type} {record : Record α} {frame : Tree → Tree} {part relaid : Tree}
      {text other : String} (hplace : Place record frame) (h : record.Relaid part relaid)
      (htext : (frame part).IsOf text) (hother : (frame relaid).IsOf other) : Relaid text other

/-- The same request, with a member that one of its records knows given once more. -/
inductive Repeated : String → String → String → Prop
  | within {α : Type} {record : Record α} {frame : Tree → Tree} {part repeated : Tree}
      {text other name : String} (hplace : Place record frame)
      (h : record.Repeated part repeated name) (htext : (frame part).IsOf text)
      (hother : (frame repeated).IsOf other) : Repeated text other name

/-- The same request, with a member before a known one of its name in one of its records, whose
value is not read. -/
inductive Preceded : String → String → Fault → Prop
  | within {α : Type} {record : Record α} {frame : Tree → Tree} {part preceded : Tree}
      {text other : String} {fault : Fault} (hplace : Place record frame)
      (h : record.Preceded part preceded fault) (htext : (frame part).IsOf text)
      (hother : (frame preceded).IsOf other) : Preceded text other fault

/-- One of the records in the text gives a member that it knows twice. -/
inductive Doubled : String → Prop
  | within {α : Type} {record : Record α} {frame : Tree → Tree} {part : Tree} {text : String}
      (hplace : Place record frame) (h : record.Doubled part) (htext : (frame part).IsOf text) :
      Doubled text

theorem Place.isOpen {α : Type} {record : Record α} {frame : Tree → Tree}
    (h : Place record frame) : record.IsOpen := by
  cases h with
  | request => exact Request.isOpen
  | order => exact Order.isOpen
  | options => exact Options.isOpen
  | input => exact Assignment.isOpen

theorem order_at : record.fields.At (.defaulted "job" {} Order.record.read) 8 := by
  iterate 8 apply Fields.At.there
  exact .here

theorem inputs_at :
    record.fields.At (.defaulted "env_inputs" [] (readList Assignment.record.read)) 5 := by
  iterate 5 apply Fields.At.there
  exact .here

theorem options_at : Order.record.fields.At (.defaulted "options" {} Options.record.read) 1 :=
  .there .here

/-- A request takes from the place of a record what the record is read as. -/
theorem Place.carries {α : Type} {part : Record α} {frame : Tree → Tree} (h : Place part frame) :
    Carries (fun tree => record.read (frame tree)) part.read := by
  have horder {frame : Tree → Tree} (hframe : Frame "job" 8 frame) :
      Carries (fun tree => record.read (frame tree)) Order.record.read :=
    Record.carries Request.isOpen.distinct order_at hframe
  cases h with
  | request => exact .refl record.read
  | order hframe => exact horder hframe
  | options hframe hinner =>
      exact (horder hframe).trans (Record.carries Order.isOpen.distinct options_at hinner)
  | input hframe before after =>
      have hinputs := Record.carries Request.isOpen.distinct inputs_at hframe
      exact hinputs.trans (carries_list Assignment.record.read before after)

variable {text other name : String} {request : Request}

theorem ofText_of_isOf {tree : Tree} (h : tree.IsOf text) : ofText text = record.read tree :=
  readDocument_of_isOf h record.read

section Place

variable {α : Type} {part : Record α} {frame : Tree → Tree} {tree changed : Tree}

/-- A request that is read has been read from each of the records in its text. -/
theorem Place.exists_read (h : Place part frame) (htext : (frame tree).IsOf text)
    (hread : ofText text = .ok request) : ∃ value, part.read tree = .ok value :=
  h.carries.exists_read ((ofText_of_isOf htext).symm.trans hread)

/-- A record in a text can be exchanged for another one that is read alike. -/
theorem Place.ofText_congr (h : Place part frame) (htext : (frame tree).IsOf text)
    (hother : (frame changed).IsOf other) (heq : part.read changed = part.read tree) :
    ofText other = ofText text := by
  rw [ofText_of_isOf htext, ofText_of_isOf hother]
  exact h.carries.congr heq

/-- A fault in one of the records is the fault of the text. -/
theorem Place.ofText_eq_error (h : Place part frame) (htext : (frame tree).IsOf text)
    (hother : (frame changed).IsOf other) (hread : ofText text = .ok request) {fault : Fault}
    (hfault : part.read changed = .error fault) : ofText other = .error fault := by
  rw [ofText_of_isOf htext] at hread
  rw [ofText_of_isOf hother]
  exact h.carries.fault hread hfault

end Place

theorem Relaid.ofText_eq (h : Relaid text other) (hread : ofText text = .ok request) :
    ofText other = .ok request := by
  cases h with
  | spaced hbetween hgaps =>
      rw [← hread]
      refine readDocument_congr ?_ record.read
      rw [String.toList_ofList, String.toList_ofList, hbetween.list_gaps hgaps]
  | within hplace h htext hother =>
      obtain ⟨value, hvalue⟩ := hplace.exists_read htext hread
      have hrelaid := h.read_eq hplace.isOpen hvalue
      rw [← hread]
      exact hplace.ofText_congr htext hother (hrelaid.trans hvalue.symm)

theorem Repeated.ofText_eq (h : Repeated text other name) (hread : ofText text = .ok request) :
    ofText other = .error (.mismatch (.duplicateField name)) := by
  cases h with
  | within hplace h htext hother =>
      obtain ⟨value, hvalue⟩ := hplace.exists_read htext hread
      exact hplace.ofText_eq_error htext hother hread (h.read_eq hplace.isOpen hvalue)

theorem Preceded.ofText_eq {fault : Fault} (h : Preceded text other fault)
    (hread : ofText text = .ok request) : ofText other = .error fault := by
  cases h with
  | within hplace h htext hother =>
      obtain ⟨value, hvalue⟩ := hplace.exists_read htext hread
      exact hplace.ofText_eq_error htext hother hread (h.read_eq hplace.isOpen hvalue)

theorem Doubled.ofText_ne (h : Doubled text) (request : Request) : ofText text ≠ .ok request := by
  cases h with
  | within hplace h htext =>
      intro hread
      obtain ⟨value, hvalue⟩ := hplace.exists_read htext hread
      exact h.read_ne_ok hplace.isOpen value hvalue

/-- A request that is read from a text is read from every text in which it is laid out in
another way, however often that is changed: with blanks between the tokens, with the members
of its records in another order, with unknown members of any kind among them, with defaults
given or left out, and with arrays in place of objects. No record in it has a known member
twice, and in any of these texts it is a fault to give one again. The fault is that the field
is duplicate, unless the value that is read first is itself at fault. -/
theorem read_as_laid_out (h : ofText text = .ok request) :
    (∃ tree : Tree, tree.IsOf text) ∧ ¬Doubled text ∧
      ∀ other, Relation.ReflTransGen Relaid text other →
        ofText other = .ok request ∧
          (∀ again name, Repeated other again name →
            ofText again = .error (.mismatch (.duplicateField name))) ∧
          ∀ again fault, Preceded other again fault → ofText again = .error fault := by
  refine ⟨closes.exists_isOf h, fun hdoubled => hdoubled.ofText_ne request h,
    fun other hchain => ?_⟩
  have hother : ofText other = .ok request := by
    induction hchain with
    | refl => exact h
    | tail _ hstep ih => exact hstep.ofText_eq ih
  exact ⟨hother, fun again name hagain => hagain.ofText_eq hother,
    fun again fault hagain => hagain.ofText_eq hother⟩

def brief : Request :=
  { operation := "create", deployment := "d1", nodeType := "job", template := "solver",
    image := "docker://ubuntu", directory := "/work" }

def briefMembers : List (String × Json) :=
  [("operation", .text "create"), ("deployment_id", .text "d1"), ("node_type", .text "job"),
    ("node_template", .text "solver"), ("primary", .text "docker://ubuntu"),
    ("remote_base_dir", .text "/work")]

def briefItems : List Json :=
  [.text "create", .text "d1", .text "job", .text "solver", .text "docker://ubuntu", .array [],
    .array [], .text "/work"]

def briefObject : Json := .object briefMembers

def briefArray (order : List (String × Json)) : Json :=
  .array (briefItems ++ [.object order])

theorem briefArray_isOf (order : List (String × Json)) :
    (Tree.array (.ofList (briefItems.map tree ++ [.object (.ofList (keyed order))]))).IsOf
      (briefArray order).compress := by
  have htree := tree_isOf_compress (briefArray order)
  rw [briefArray, tree_array, List.map_append, List.map_singleton, tree_object] at htree
  exact htree

theorem read_as_laid_out_in_an_array :
    ofText briefObject.compress = .ok brief ∧
      ofText (briefArray [("mode", .text "batch")]).compress = .ok brief ∧
      ofText (briefArray [("mode", .text "batch"), ("mode", .text "interactive")]).compress =
        .error (.mismatch (.duplicateField "mode")) ∧
      ofText (briefArray [("mode", .number 5), ("mode", .text "batch")]).compress =
        .error .malformed := by
  have hread : ofText briefObject.compress = .ok brief := readDocument_compress record.read _
  have hlisted : Relaid briefObject.compress (briefArray [("mode", .text "batch")]).compress := by
    have hobject := tree_object briefMembers ▸ tree_isOf_compress briefObject
    refine .within .request (.listed ?_) hobject (briefArray_isOf [("mode", .text "batch")])
    exact ⟨.given _, .given _, .given _, .given _, .given _, .omitted rfl rfl, .omitted rfl rfl,
      .given _, .omitted rfl rfl, rfl⟩
  have hplace : Place Order.record fun part =>
      .array (.ofList (briefItems.map tree ++ [part])) := .order (.item _ [] rfl)
  have hbehind : Order.record.Repeated (.object (.ofList (keyed [("mode", .text "batch")] ++ [])))
      (.object (.ofList (keyed [("mode", .text "batch")] ++ keyed [("mode", .text "interactive")])))
      "mode" :=
    .behind rfl (by decide) nofun
  have hahead : Order.record.Preceded (.object (.ofList ([] ++ keyed [("mode", .text "batch")])))
      (.object (.ofList ([] ++ keyed [("mode", .number 5), ("mode", .text "batch")])))
      .malformed :=
    .ahead rfl nofun (.intro .here rfl)
  obtain ⟨-, -, hlaid⟩ := read_as_laid_out hread
  obtain ⟨harray, hrepeated, hpreceded⟩ := hlaid _ (.single hlisted)
  have hbatch := briefArray_isOf [("mode", .text "batch")]
  have hagain := hrepeated _ "mode" (.within hplace hbehind hbatch
    (briefArray_isOf [("mode", .text "batch"), ("mode", .text "interactive")]))
  have hbefore := hpreceded _ .malformed (.within hplace hahead hbatch
    (briefArray_isOf [("mode", .number 5), ("mode", .text "batch")]))
  exact ⟨hread, harray, hagain, hbefore⟩

/-- The brief request with an unknown member in front, whose name is half of a pair. -/
def nameless : List Char :=
  ['\x7b', '"', '\\', 'u', 'd', '8', '0', '0', '"', ':', '0', ','] ++ compactMembers briefMembers

theorem nameless_isOf :
    (Tree.object (.cons (.text (.error .malformed) (.ok ())) (number 0).tree
      (memberTrees briefMembers))).IsOf (String.ofList nameless) := by
  refine ⟨⟨⟨_, _, rfl⟩, trivial, closed_memberTrees briefMembers⟩, ?_⟩
  have hkey (rest : List Char) :
      Token.list (['"', '\\', 'u', 'd', '8', '0', '0', '"'] ++ rest) =
        .text (.error .malformed) (.ok ()) :: Token.list rest :=
    Token.list_of_next rfl rfl
  have hzero (rest : List Char) :
      Token.list ('0' :: ',' :: rest) = .number (.ofNat 0) :: Token.list (',' :: rest) :=
    Token.list_numeral 0 (Token.apart_mark (by decide : ',' ∈ _) rest)
  have hmembers := Token.list_compactMembers briefMembers []
  rw [List.append_nil, Token.list_nil, List.append_nil] at hmembers
  have htokens := tokens_memberTrees briefMembers nofun [.comma]
  calc
    Token.list (String.ofList nameless).toList =
        Token.list ('\x7b' :: (['"', '\\', 'u', 'd', '8', '0', '0', '"'] ++
          ':' :: '0' :: ',' :: compactMembers briefMembers)) := by
      rw [String.toList_ofList]
      rfl
    _ = .openObject :: .text (.error .malformed) (.ok ()) :: .colon :: .number (.ofNat 0) ::
          .comma :: memberTokens briefMembers := by
      simp only [Token.list_mark, hkey, hzero, hmembers]
    _ = _ := by
      simp only [Tree.tokens, Members.tokens, tree, htokens, List.cons_append, List.nil_append]

theorem malformed_unlike_laid_out :
    ofText briefObject.compress = .ok brief ∧
      ofText (String.ofList nameless) = .error .malformed ∧
      ofText (Json.object (briefMembers ++ [("job", .object [("mode", .text "batch")])])).compress =
        .ok brief ∧
      ofText (Json.object (briefMembers ++
        [("job", .object [("mode", .number 5), ("mode", .text "batch")])])).compress =
          .error .malformed := by
  refine ⟨readDocument_compress record.read _, ?_, readDocument_compress record.read _,
    readDocument_compress record.read _⟩
  exact ofText_of_isOf nameless_isOf

end Request

end ClusterLaunch
