import CubeClient.Proofs.Xml.Reading

/-!
# Elements in their places

The tags of a spelled document are read in the order in which they stand, each with the attributes
it gives and without its declarations (`SpelledDocument.attributes_tree`). What an element says is
its own affair and that of the elements around it: filled into a place, it changes its own node and
no other (`PlaceInDocument.tree_fill`).
-/

namespace CubeClient.Xml

open CubeClient.Text

/-! ## Tags in document order -/

namespace Node

mutual

/-- The tags of a node and of all nodes inside it, in document order. -/
def tags : Node → List Tag
  | .text _ => []
  | .element tag children => tag :: tagsOf children

/-- The tags of some nodes and of all nodes inside them, in document order. -/
def tagsOf : List Node → List Tag
  | [] => []
  | node :: rest => tags node ++ tagsOf rest

end

theorem tagsOf_append (nodes more : List Node) :
    tagsOf (nodes ++ more) = tagsOf nodes ++ tagsOf more := by
  induction nodes with
  | nil => rfl
  | cons node rest ih => rw [List.cons_append, tagsOf, tagsOf, ih, List.append_assoc]

theorem tagsOf_ofText (text : String) : tagsOf (ofText text) = [] := by
  unfold ofText
  split <;> rfl

end Node

/-- The tags of an element and of all elements inside it, in document order. -/
def Element.tags (e : Element) : List Tag :=
  e.toNode.tags

/-- The tags of content, in the order in which they stand. -/
def Content.tags : Content → List SpelledTag
  | .done _ => []
  | .remark _ _ rest => rest.tags
  | .cdata _ _ rest => rest.tags
  | .empty _ tag rest => tag :: rest.tags
  | .element _ tag inner _ rest => tag :: (inner.tags ++ rest.tags)

/-- The tags of an element as it is written. -/
def SpelledElement.tags : SpelledElement → List SpelledTag
  | .empty tag => [tag]
  | .element tag inner _ => tag :: inner.tags

theorem Content.attributes_nodes (content : Content) (scope : NamespaceScope) :
    (Node.tagsOf (content.nodes scope)).map (·.attributes) =
      content.tags.map SpelledTag.plainAttributes := by
  induction content generalizing scope with
  | done last => rw [nodes, Node.tagsOf_ofText]; rfl
  | remark before piece rest ih =>
    rw [nodes, Node.tagsOf_append, Node.tagsOf_ofText]
    exact ih scope
  | cdata before piece rest ih =>
    rw [nodes, Node.tagsOf_append, Node.tagsOf_append, Node.tagsOf_ofText, Node.tagsOf_ofText]
    exact ih scope
  | empty before tag rest ih =>
    rw [nodes, Node.tagsOf_append, Node.tagsOf_ofText, tags, List.map_cons, ← ih scope]
    rfl
  | element before tag inner closing rest ihinner ih =>
    rw [nodes, Node.tagsOf_append, Node.tagsOf_ofText]
    show tag.plainAttributes :: (Node.tagsOf (inner.nodes (scope.enter tag)) ++
      Node.tagsOf (rest.nodes scope)).map (·.attributes) =
        tag.plainAttributes :: (inner.tags ++ rest.tags).map SpelledTag.plainAttributes
    rw [List.map_append, List.map_append, ihinner, ih]

/-- An attribute of the tree is an attribute that a tag gives; declarations are none. -/
theorem SpelledDocument.attributes_tree (d : SpelledDocument) :
    d.tree.tags.map (·.attributes) = d.root.tags.map SpelledTag.plainAttributes := by
  rw [tree]
  cases d.root with
  | empty tag => rfl
  | element tag inner closing =>
    show tag.plainAttributes :: (Node.tagsOf (inner.nodes _)).map (·.attributes) =
      tag.plainAttributes :: inner.tags.map SpelledTag.plainAttributes
    rw [Content.attributes_nodes]

/-! ## One element among others -/

/-- Nodes with a place for one more, here or inside one of them. -/
inductive PlaceInNodes where
  | here (before after : List Node)
  | inside (before : List Node) (tag : Tag) (inner : PlaceInNodes) (after : List Node)

namespace PlaceInNodes

def fill (node : Node) : PlaceInNodes → List Node
  | .here before after => before ++ node :: after
  | .inside before tag inner after => before ++ .element tag (inner.fill node) :: after

/-- The place with more nodes in front. -/
def behind (nodes : List Node) : PlaceInNodes → PlaceInNodes
  | .here before after => .here (nodes ++ before) after
  | .inside before tag inner after => .inside (nodes ++ before) tag inner after

/-- A place behind some nodes is filled behind them. -/
theorem fill_behind (node : Node) (nodes : List Node) (place : PlaceInNodes) :
    (place.behind nodes).fill node = nodes ++ place.fill node := by
  cases place <;> simp [behind, fill]

end PlaceInNodes

/-- Content with a place for an element. -/
inductive PlaceInContent where
  | here (before : CharData) (rest : Content)
  | afterRemark (before : CharData) (piece : Remark) (rest : PlaceInContent)
  | afterCdata (before : CharData) (piece : SpelledSection) (rest : PlaceInContent)
  | afterEmpty (before : CharData) (tag : SpelledTag) (rest : PlaceInContent)
  | afterElement (before : CharData) (tag : SpelledTag) (inner : Content) (closing : Spacing)
      (rest : PlaceInContent)
  | inside (before : CharData) (tag : SpelledTag) (inner : PlaceInContent) (closing : Spacing)
      (rest : Content)

namespace PlaceInContent

def fill (e : SpelledElement) : PlaceInContent → Content
  | .here before rest =>
    match e with
    | .empty tag => .empty before tag rest
    | .element tag inner closing => .element before tag inner closing rest
  | .afterRemark before piece rest => .remark before piece (rest.fill e)
  | .afterCdata before piece rest => .cdata before piece (rest.fill e)
  | .afterEmpty before tag rest => .empty before tag (rest.fill e)
  | .afterElement before tag inner closing rest => .element before tag inner closing (rest.fill e)
  | .inside before tag inner closing rest => .element before tag (inner.fill e) closing rest

/-- The scope of the place: that of the elements around it. -/
def scope (outer : NamespaceScope) : PlaceInContent → NamespaceScope
  | .here _ _ => outer
  | .afterRemark _ _ rest => rest.scope outer
  | .afterCdata _ _ rest => rest.scope outer
  | .afterEmpty _ _ rest => rest.scope outer
  | .afterElement _ _ _ _ rest => rest.scope outer
  | .inside _ tag inner _ _ => inner.scope (outer.enter tag)

/-- What the content around the place says. -/
def nodes (outer : NamespaceScope) : PlaceInContent → PlaceInNodes
  | .here before rest => .here (Node.ofText before.value) (rest.nodes outer)
  | .afterRemark before _ rest => (rest.nodes outer).behind (Node.ofText before.value)
  | .afterCdata before piece rest =>
    (rest.nodes outer).behind
      (Node.ofText before.value ++ Node.ofText (Utf8.decodeLossy piece.raw))
  | .afterEmpty before tag rest =>
    (rest.nodes outer).behind (Node.ofText before.value ++ [.element (tag.read outer) []])
  | .afterElement before tag inner _ rest =>
    (rest.nodes outer).behind
      (Node.ofText before.value ++ [.element (tag.read outer) (inner.nodes (outer.enter tag))])
  | .inside before tag inner _ rest =>
    .inside (Node.ofText before.value) (tag.read outer) (inner.nodes (outer.enter tag))
      (rest.nodes outer)

/-- An element that is put in a place changes no other node. -/
theorem nodes_fill (place : PlaceInContent) (outer : NamespaceScope) (e : SpelledElement) :
    (place.fill e).nodes outer = (place.nodes outer).fill (e.read (place.scope outer)).toNode := by
  induction place generalizing outer with
  | here before rest => cases e <;> rfl
  | afterRemark before piece rest ih =>
    rw [nodes, PlaceInNodes.fill_behind, scope, ← ih outer]
    rfl
  | afterCdata before piece rest ih =>
    rw [nodes, PlaceInNodes.fill_behind, List.append_assoc, scope, ← ih outer]
    rfl
  | afterEmpty before tag rest ih =>
    rw [nodes, PlaceInNodes.fill_behind, List.append_assoc, scope, ← ih outer]
    rfl
  | afterElement before tag inner closing rest ih =>
    rw [nodes, PlaceInNodes.fill_behind, List.append_assoc, scope, ← ih outer]
    rfl
  | inside before tag inner closing rest ih =>
    rw [nodes, PlaceInNodes.fill, scope, ← ih (outer.enter tag)]
    rfl

end PlaceInContent

/-- A document with a place for an element inside its root. -/
structure PlaceInDocument where
  marked : Bool
  before : Surroundings
  tag : SpelledTag
  inner : PlaceInContent
  closing : Spacing
  after : Surroundings

namespace PlaceInDocument

/-- Puts an element in the place. -/
def fill (place : PlaceInDocument) (e : SpelledElement) : SpelledDocument where
  marked := place.marked
  before := place.before
  root := .element place.tag (place.inner.fill e) place.closing
  after := place.after

def scope (place : PlaceInDocument) : NamespaceScope :=
  place.inner.scope (NamespaceScope.outermost.enter place.tag)

def nodes (place : PlaceInDocument) : PlaceInNodes :=
  place.inner.nodes (NamespaceScope.outermost.enter place.tag)

/-- Filling a place of a document fills that place of its tree. -/
theorem tree_fill (place : PlaceInDocument) (e : SpelledElement) :
    (place.fill e).tree =
      ⟨place.tag.read .outermost, place.nodes.fill (e.read place.scope).toNode⟩ := by
  have hnodes := place.inner.nodes_fill (NamespaceScope.outermost.enter place.tag) e
  rw [nodes, scope, ← hnodes]
  rfl

end PlaceInDocument

end CubeClient.Xml
