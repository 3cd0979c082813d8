import InstallerSetup.Yaml.Event.Stream

/-!
# Nodes

The first document of a text as a tree of nodes that still knows positions, tags and aliases. A
fault may cut a text short; the part before it is kept, with `cut` wherever the next node would have
begun, because a reader may fail earlier than at the cut.
-/

namespace InstallerSetup.Yaml

/-- What belongs to every node; anchors are numbered. -/
structure NodeHead where
  mark : Mark
  anchor : Option Nat
  tag : Option Tag
  deriving Repr

inductive Node where
  | scalar (head : NodeHead) (text : String) (plain : Bool)
  | sequence (head : NodeHead) (items : List Node)
  | mapping (head : NodeHead) (entries : List (Node × Node))
  | reference (mark : Mark) (anchor : Nat)
  /-- The content of a text without any document. -/
  | void (mark : Mark)
  /-- The place where the events end too early. -/
  | cut
  deriving Repr, Inhabited

inductive Interruption where
  | fault (fault : Fault)
  | unknownAnchor (mark : Mark)
  | endOfEvents
  deriving Repr

structure Document where
  root : Node
  /-- The anchored nodes, the last one first. -/
  anchors : List (Nat × Node)
  /-- The number of its events. -/
  size : Nat
  interruption : Option Interruption
  /-- Whether anything but the end of the text follows. -/
  continues : Bool
  deriving Repr

namespace Node

mutual

/-- The anchored nodes in the order in which they begin. -/
def anchored : Node → List (Nat × Node)
  | .scalar head text plain => own head (.scalar head text plain)
  | .sequence head items => own head (.sequence head items) ++ anchoredItems items
  | .mapping head entries => own head (.mapping head entries) ++ anchoredEntries entries
  | _ => []

def own (head : NodeHead) (node : Node) : List (Nat × Node) :=
  match head.anchor with
  | some anchor => [(anchor, node)]
  | none => []

def anchoredItems : List Node → List (Nat × Node)
  | [] => []
  | item :: rest => item.anchored ++ anchoredItems rest

def anchoredEntries : List (Node × Node) → List (Nat × Node)
  | [] => []
  | (key, value) :: rest => key.anchored ++ value.anchored ++ anchoredEntries rest

end

/-- Pairs up keys and values; a key without a value is cut short. -/
def pairs : List Node → List (Node × Node)
  | [] => []
  | [key] => [(key, .cut)]
  | key :: value :: rest => (key, value) :: pairs rest

mutual

def isWhole : Node → Bool
  | .sequence _ items => itemsAreWhole items
  | .mapping _ entries => entriesAreWhole entries
  | .cut => false
  | _ => true

def itemsAreWhole : List Node → Bool
  | [] => true
  | item :: rest => item.isWhole && itemsAreWhole rest

def entriesAreWhole : List (Node × Node) → Bool
  | [] => true
  | (key, value) :: rest => key.isWhole && value.isWhole && entriesAreWhole rest

end

end Node

namespace Document

/-- A collection that is being read, its nodes in reverse order. -/
structure Frame where
  head : NodeHead
  isMapping : Bool
  children : List Node

def Frame.node (frame : Frame) : Node :=
  let children := frame.children.reverse
  if frame.isMapping then .mapping frame.head (Node.pairs children)
  else .sequence frame.head children

structure Builder where
  frames : List Frame
  root : Option Node
  /-- The numbers that the names of anchors stand for. -/
  names : List (String × Nat)
  size : Nat

namespace Builder

def empty : Builder := ⟨[], none, [], 0⟩

def add (b : Builder) (node : Node) : Builder :=
  match b.frames with
  | frame :: outer =>
      { b with frames := { frame with children := node :: frame.children } :: outer }
  | [] => { b with root := some node }

/--
Gives an anchor its number, which is the number of names in use. So a name that is used again does
not raise the next number, and two anchors may come to have the same one; the later one counts.
-/
def define (b : Builder) (name : Option String) : Option Nat × Builder :=
  match name with
  | none => (none, b)
  | some name =>
      let number := b.names.length
      let names :=
        if b.names.any fun (known, _) => known == name then
          b.names.map fun (known, old) => (known, if known == name then number else old)
        else b.names ++ [(name, number)]
      (some number, { b with names := names })

def openFrame (b : Builder) (mark : Mark) (properties : Properties) (isMapping : Bool) :
    Builder :=
  let (anchor, b) := b.define properties.anchor
  { b with frames := ⟨⟨mark, anchor, properties.tag⟩, isMapping, []⟩ :: b.frames }

def closeFrame (b : Builder) : Builder :=
  match b.frames with
  | frame :: outer => { b with frames := outer }.add frame.node
  | [] => b

/-- Closes the collections around a place where the events end too early. -/
def closeAll : List Frame → Node → Node
  | [], node => node
  | frame :: outer, node => closeAll outer { frame with children := node :: frame.children }.node

def document (b : Builder) (interruption : Option Interruption) (continues : Bool) : Document :=
  let root := match b.root with
    | some node => node
    | none => closeAll b.frames .cut
  ⟨root, root.anchored.reverse, b.size, interruption, continues⟩

end Builder

def ofEvents (fault : Option Fault) : List Event → Builder → Document
  | [], b =>
      let interruption := match fault with
        | some fault => Interruption.fault fault
        | none => .endOfEvents
      b.document (some interruption) false
  | event :: rest, b =>
      let more := { b with size := b.size + 1 }
      match event.kind with
      | .streamStart | .documentStart => ofEvents fault rest b
      | .streamEnd => { b with root := some (.void event.mark), size := 1 }.document none false
      | .documentEnd =>
          let ended := match rest with
            | [next] => next.kind == .streamEnd
            | _ => false
          b.document none !ended
      | .reference name =>
          match b.names.find? fun (known, _) => known == name with
          | some (_, number) => ofEvents fault rest (more.add (.reference event.mark number))
          | none => b.document (some (.unknownAnchor event.mark)) false
      | .scalar properties text plain =>
          let (anchor, more) := more.define properties.anchor
          ofEvents fault rest (more.add (.scalar ⟨event.mark, anchor, properties.tag⟩ text plain))
      | .sequenceStart properties =>
          ofEvents fault rest (more.openFrame event.mark properties false)
      | .mappingStart properties =>
          ofEvents fault rest (more.openFrame event.mark properties true)
      | .sequenceEnd | .mappingEnd => ofEvents fault rest more.closeFrame

def ofText (text : String) : Document :=
  let stream := EventStream.ofText text
  ofEvents stream.fault stream.events .empty

/-- The node that an alias stands for: of several anchors with its number the last one. -/
def target (d : Document) (anchor : Nat) : Node :=
  match d.anchors.find? fun (number, _) => number == anchor with
  | some (_, node) => node
  | none => .cut

end Document

end InstallerSetup.Yaml
